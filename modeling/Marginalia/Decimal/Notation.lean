import Marginalia.Decimal.Binary64
import Marginalia.Text.Basic

/-!
# Decimal notation

Decimal numbers are read with an optional fraction and an optional power of
ten, and written without a power of ten and always with a fraction.
-/

namespace Marginalia.Decimal

/-- Read the power of ten after its mark: an optional sign and digits. -/
def readExponent? : Text → Option Int
  | '-' :: digits => (Text.readDigits? 10 digits).map fun value => -(value : Int)
  | '+' :: digits => (Text.readDigits? 10 digits).map Int.ofNat
  | digits => (Text.readDigits? 10 digits).map Int.ofNat

/-- Read digits with at most one point among them and at least one digit. -/
def readMantissa? (text : Text) : Option Decimal :=
  let whole := text.takeWhile Char.isDigit
  let fraction? :=
    match text.dropWhile Char.isDigit with
    | [] => some []
    | '.' :: fraction => if fraction.all Char.isDigit then some fraction else none
    | _ => none
  fraction?.bind fun fraction =>
    (Text.readDigits? 10 (whole ++ fraction)).map fun digits =>
      ⟨digits, -(fraction.length : Int)⟩

/-- Read a decimal number without a sign, such as `1`, `.5`, `2.` or
`1.5e-3`. -/
def read? (text : Text) : Option Decimal :=
  let isMark (c : Char) : Bool := c = 'e' || c = 'E'
  let mantissa := text.takeWhile fun c => !isMark c
  match text.dropWhile fun c => !isMark c with
  | [] => readMantissa? mantissa
  | _ :: exponent =>
      match readMantissa? mantissa, readExponent? exponent with
      | some decimal, some power =>
          some ⟨decimal.digits, decimal.exponent + power⟩
      | _, _ => none

/-- Write a decimal number in full: digits before and after the point, at
least one on each side, and no needless zero at the end. -/
def positional (decimal : Decimal) : Text :=
  let digits := Text.ofNat decimal.digits
  let zeros (count : Nat) : Text := List.replicate count '0'
  match decimal.exponent with
  | .ofNat trailing =>
      (if decimal.digits = 0 then digits else digits ++ zeros trailing) ++ ".0"
  | .negSucc power =>
      let padded := zeros (power + 2 - digits.length) ++ digits
      let cut := padded.length - (power + 1)
      let fraction := Text.dropEndWhile (padded.drop cut) (· == '0')
      padded.take cut ++ "." ++ if fraction.isEmpty then ['0'] else fraction

end Marginalia.Decimal
