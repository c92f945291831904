/-!
# Text

Text is a list of Unicode characters. Offsets into it count the bytes of its
UTF-8 form, and a text can be cut at an offset only between two characters.
-/

namespace Marginalia

/-- A text is the list of its characters. -/
abbrev Text := List Char

instance : Coe String Text := ⟨String.toList⟩

namespace Text

/-! ## Bytes -/

/-- The number of bytes in the UTF-8 form of a text. -/
def byteLength : Text → Nat
  | [] => 0
  | c :: rest => c.utf8Size + byteLength rest

/-- Cut a text at a byte offset. There is no cut inside a character or beyond
the end. -/
def cutAtByte? : Text → Nat → Option (Text × Text)
  | text, 0 => some ([], text)
  | [], _ + 1 => none
  | c :: rest, offset + 1 =>
      if c.utf8Size ≤ offset + 1 then
        (cutAtByte? rest (offset + 1 - c.utf8Size)).map
          fun (before, after) => (c :: before, after)
      else none

/-! ## Pieces -/

/-- The text after a leading piece, if the text starts with that piece. -/
def after? : Text → Text → Option Text
  | [], text => some text
  | _ :: _, [] => none
  | p :: piece, c :: text => if p = c then after? piece text else none

def startsWith (text piece : Text) : Bool :=
  (after? piece text).isSome

/-- The text before a closing piece, if the text ends with that piece. -/
def before? (piece text : Text) : Option Text :=
  (after? piece.reverse text.reverse).map List.reverse

/-- Whether a piece stands somewhere in a text. -/
def includes (piece : Text) : Text → Bool
  | [] => piece.isEmpty
  | c :: rest => startsWith (c :: rest) piece || includes piece rest

/-- The text after the first place where a piece stands. -/
def afterFirst? (piece : Text) : Text → Option Text
  | [] => after? piece []
  | c :: rest =>
      match after? piece (c :: rest) with
      | some after => some after
      | none => afterFirst? piece rest

/-- The number of places of a text where a piece starts. -/
def occurrences (piece : Text) : Text → Nat
  | [] => 0
  | c :: rest =>
      (if startsWith (c :: rest) piece then 1 else 0) + occurrences piece rest

/-- Whether a text is not after another in the order of their characters. -/
def isAtMost (first second : Text) : Bool :=
  !second.lex first fun c d => decide (c < d)

/-- Drop the characters at the end that satisfy a predicate. -/
def dropEndWhile (text : Text) (drops : Char → Bool) : Text :=
  (text.reverse.dropWhile drops).reverse

/-- The pieces of a text between occurrences of a separating character. -/
def splitAtEach (separator : Char) : Text → List Text
  | [] => [[]]
  | c :: rest =>
      match splitAtEach separator rest with
      | [] => [[c]]
      | piece :: pieces =>
          if c = separator then [] :: piece :: pieces
          else (c :: piece) :: pieces

/-- The texts of a list, one after the other, with a separator between. -/
def joined (separator : Text) (pieces : List Text) : Text :=
  List.intercalate separator pieces

/-! ## Numbers -/

/-- A number in decimal notation. -/
def ofNat (n : Nat) : Text := Nat.toDigits 10 n

/-- A whole number in decimal notation, with a minus sign below zero. -/
def ofInt : Int → Text
  | .ofNat n => ofNat n
  | .negSucc n => '-' :: ofNat (n + 1)

/-- The value of one digit in a base of at most sixteen. -/
def digitValue? (base : Nat) (c : Char) : Option Nat :=
  let value? : Option Nat :=
    if '0' ≤ c && c ≤ '9' then some (c.toNat - '0'.toNat)
    else if 'a' ≤ c && c ≤ 'f' then some (c.toNat - 'a'.toNat + 10)
    else if 'A' ≤ c && c ≤ 'F' then some (c.toNat - 'A'.toNat + 10)
    else none
  value?.filter (· < base)

/-- Read digits of a base onto a number read so far. -/
def readDigitsFrom? (base : Nat) : Nat → Text → Option Nat
  | value, [] => some value
  | value, c :: rest =>
      match digitValue? base c with
      | some digit => readDigitsFrom? base (value * base + digit) rest
      | none => none

/-- Read a non-empty run of digits of a base. -/
def readDigits? (base : Nat) (text : Text) : Option Nat :=
  if text.isEmpty then none else readDigitsFrom? base 0 text

end Text

end Marginalia
