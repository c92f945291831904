import Marginalia.Decimal.Notation
import Marginalia.Text.Quoted
import Marginalia.Yaml.Token

/-!
# What a plain scalar means

A plain scalar is nothing, a truth value, a whole number or a decimal number
if it is written like one, and text otherwise.
-/

namespace Marginalia.Yaml

/-- A number with a fraction, or what stands in place of one. -/
inductive Real where
  | finite (isNegative : Bool) (magnitude : Binary64)
  | infinite (isNegative : Bool)
  | undefined
  deriving DecidableEq

def Real.text : Real → Text
  | .finite isNegative magnitude =>
      (if isNegative then ['-'] else []) ++ magnitude.shortest.positional
  | .infinite isNegative => if isNegative then "-inf" else "inf"
  | .undefined => "NaN"

/-- What a scalar means. -/
inductive Scalar where
  | null
  | boolean (value : Bool)
  | integer (value : Int)
  | real (value : Real)
  | text (value : Text)
  deriving DecidableEq

namespace Scalar

/-- Whether a text means nothing. -/
def isNull (text : Text) : Bool :=
  ["null".toList, "Null".toList, "NULL".toList, "~".toList].contains text

def readBoolean? (text : Text) : Option Bool :=
  if ["true".toList, "True".toList, "TRUE".toList].contains text then some true
  else if ["false".toList, "False".toList, "FALSE".toList].contains text then
    some false
  else none

/-- Whether a text is a run of digits with a needless zero at its start, which
no number has. -/
def hasNeedlessZero (text : Text) : Bool :=
  let unsigned :=
    match text with
    | '-' :: rest => rest
    | '+' :: rest => rest
    | _ => text
  match unsigned with
  | '0' :: rest => !rest.isEmpty && rest.all Char.isDigit
  | _ => false

/-- Read a whole number without a sign, in base ten or with the mark of its
base in front. -/
def readMagnitude? (text : Text) : Option Nat :=
  match text with
  | '0' :: 'x' :: digits => Text.readDigits? 16 digits
  | '0' :: 'o' :: digits => Text.readDigits? 8 digits
  | '0' :: 'b' :: digits => Text.readDigits? 2 digits
  | digits => if hasNeedlessZero digits then none else Text.readDigits? 10 digits

/-- Read a whole number that is not negative, with or without a plus sign. -/
def readNatural? (text : Text) : Option Nat :=
  readMagnitude? ((Text.after? ['+'] text).getD text)

/-- Read a whole number. Numbers take at most 128 bits. -/
def readInteger? (text : Text) : Option Int :=
  match text with
  | '-' :: digits =>
      ((readMagnitude? digits).filter (· ≤ Nat.pow 2 127)).map
        fun value => -(value : Int)
  | _ => ((readNatural? text).filter (· < Nat.pow 2 128)).map Int.ofNat

/-- Read a number with a fraction. One beyond the range is no number. -/
def readReal? (text : Text) : Option Real :=
  let unplussed := (Text.after? ['+'] text).getD text
  let finite? (isNegative : Bool) (digits : Text) : Option Real :=
    ((Decimal.read? digits).bind Binary64.nearest?).map (.finite isNegative)
  if [".inf".toList, ".Inf".toList, ".INF".toList].contains unplussed then
    some (.infinite false)
  else if ["-.inf".toList, "-.Inf".toList, "-.INF".toList].contains text then
    some (.infinite true)
  else if [".nan".toList, ".NaN".toList, ".NAN".toList].contains text then
    some .undefined
  else
    match text with
    | '-' :: digits => finite? true digits
    | _ => finite? false unplussed

def ofPlain (text : Text) : Scalar :=
  if text.isEmpty || isNull text then .null
  else
    match readBoolean? text, readInteger? text with
    | some value, _ => .boolean value
    | none, some value => .integer value
    | none, none =>
        if hasNeedlessZero text then .text text
        else
          match readReal? text with
          | some value => .real value
          | none => .text text

/-- A scalar for readers of a message. -/
def description : Scalar → Text
  | .null => "unit value"
  | .boolean value => "boolean \x60" ++ (if value then "true" else "false") ++ "\x60"
  | .integer value =>
      let width : Text :=
        if value < -Int.ofNat (Nat.pow 2 63) then " as i128"
        else if value < Int.ofNat (Nat.pow 2 64) then []
        else " as u128"
      "integer \x60" ++ Text.ofInt value ++ "\x60" ++ width
  | .real value => "floating point \x60" ++ value.text ++ "\x60"
  | .text value => "string " ++ value.quoted

end Scalar

end Marginalia.Yaml
