import Marginalia.Proofs.Text.ByteOrder
import Marginalia.Proofs.Text.Piece
import Marginalia.Proofs.Text.Run
import Mathlib.Data.Bool.AllAny

/-!
# Relative references

A link is read as a relative URL reference.  Its path ends where a query or a
fragment starts, a colon in its first segment would end a scheme, and percent escapes
stand for bytes.  So a path written as it is names itself exactly if none of these
occurs in it.
-/

namespace Marginalia.Reference

/-- The byte that two hexadecimal digits stand for. -/
def byte? (high low : Char) : Option UInt8 :=
  (Text.digitValue? 16 high).bind fun first =>
    (Text.digitValue? 16 low).map fun second => UInt8.ofNat (16 * first + second)

/-- The bytes of a text whose percent escapes are decoded. -/
def decode : Text → List UInt8
  | '%' :: high :: low :: rest =>
      match byte? high low with
      | some byte => byte :: decode rest
      | none => String.utf8EncodeChar '%' ++ decode (high :: low :: rest)
  | c :: rest => String.utf8EncodeChar c ++ decode rest
  | [] => []

/-- Whether a character ends the path of a reference. -/
def endsPath (c : Char) : Bool :=
  c == '?' || c == '#'

/-- The path that a relative reference names, in bytes.  There is none if its first
segment has a colon, since the reference is then read as an absolute one. -/
def path? (reference : Text) : Option (List UInt8) :=
  let path := reference.takeWhile (!endsPath ·)
  if ':' ∈ path.takeWhile (· ≠ '/') then none else some (decode path)

/-- A reference names a relative path. -/
def Names (reference path : Text) : Prop :=
  path? reference = some path.bytes

/-- A percent escape stands somewhere in a text. -/
def HasEscape (text : Text) : Prop :=
  ∃ high low, (byte? high low).isSome ∧ ['%', high, low] <:+: text

/-- A name has none of the characters that mean something in a reference. -/
structure IsPlain (name : Text) : Prop where
  noQuery : '?' ∉ name
  noFragment : '#' ∉ name
  noColon : ':' ∉ name
  noEscape : ¬ HasEscape name

/-! ## Escapes -/

theorem not_hasEscape_of_not_mem {text : Text} (absent : '%' ∉ text) :
    ¬ HasEscape text := by
  rintro ⟨high, low, _, standing⟩
  exact absent (standing.subset List.mem_cons_self)

theorem isPlain_of_all {name : Text}
    (quiet : (name.all fun c => c ∉ ['?', '#', ':', '%']) = true) : IsPlain name := by
  have absent {c : Char} (marked : c ∈ ['?', '#', ':', '%']) : c ∉ name := by
    intro member
    have unmarked := List.all_eq_true.mp quiet c member
    exact of_decide_eq_true unmarked marked
  exact ⟨absent (by simp), absent (by simp), absent (by simp),
    not_hasEscape_of_not_mem (absent (by simp))⟩

theorem hasEscape_cons_iff {c : Char} {text : Text}
    (notHere : ∀ high low, (byte? high low).isSome → ¬ ['%', high, low] <+: c :: text) :
    HasEscape (c :: text) ↔ HasEscape text := by
  constructor
  · rintro ⟨high, low, isByte, standing⟩
    rcases List.infix_cons_iff.mp standing with leading | later
    · exact absurd leading (notHere high low isByte)
    · exact ⟨high, low, isByte, later⟩
  · rintro ⟨high, low, isByte, standing⟩
    exact ⟨high, low, isByte, List.infix_cons standing⟩

/-- An escape does not reach across a character that is no hexadecimal digit. -/
theorem hasEscape_append_cons_iff {wall : Char} (noPercent : wall ≠ '%')
    (noDigit : Text.digitValue? 16 wall = none) {left right : Text} :
    HasEscape (left ++ wall :: right) ↔ HasEscape left ∨ HasEscape right := by
  have absent {high low : Char} (isByte : (byte? high low).isSome) :
      wall ∉ ['%', high, low] := by
    simp only [List.mem_cons, List.not_mem_nil, or_false, not_or]
    refine ⟨noPercent, ?_, ?_⟩
    · rintro rfl
      simp [byte?, noDigit] at isByte
    · rintro rfl
      simp [byte?, noDigit] at isByte
  constructor
  · rintro ⟨high, low, isByte, standing⟩
    rcases (Text.infix_append_cons_iff (absent isByte)).mp standing with
      inLeft | inRight
    · exact Or.inl ⟨high, low, isByte, inLeft⟩
    · exact Or.inr ⟨high, low, isByte, inRight⟩
  · rintro (⟨high, low, isByte, inLeft⟩ | ⟨high, low, isByte, inRight⟩)
    · exact ⟨high, low, isByte,
        (Text.infix_append_cons_iff (absent isByte)).mpr (Or.inl inLeft)⟩
    · exact ⟨high, low, isByte,
        (Text.infix_append_cons_iff (absent isByte)).mpr (Or.inr inRight)⟩

theorem length_utf8EncodeChar_pos (c : Char) :
    0 < (String.utf8EncodeChar c).length := by
  rw [Text.utf8EncodeChar_eq, List.length_map]
  exact List.length_pos_iff.mpr (Text.byteValues_ne_nil _)

theorem length_decode_le (text : Text) : (decode text).length ≤ text.bytes.length := by
  fun_induction decode text with
  | case1 high low rest byte isByte inductionHypothesis =>
      have first := length_utf8EncodeChar_pos '%'
      simp only [Text.bytes_cons, List.length_append, List.length_cons]
      omega
  | case2 high low rest noByte inductionHypothesis =>
      rw [Text.bytes_cons, List.length_append, List.length_append]
      omega
  | case3 c rest notEscape inductionHypothesis =>
      rw [Text.bytes_cons, List.length_append, List.length_append]
      omega
  | case4 =>
      exact Nat.le_refl _

/-- Decoding keeps a text exactly if there is nothing to decode: an escape is shorter
than the three characters that it is written with. -/
theorem decode_eq_bytes_iff {text : Text} :
    decode text = text.bytes ↔ ¬ HasEscape text := by
  fun_induction decode text with
  | case1 high low rest byte isByte inductionHypothesis =>
      have escape : HasEscape ('%' :: high :: low :: rest) := by
        refine ⟨high, low, ?_, (List.prefix_append ['%', high, low] rest).isInfix⟩
        rw [isByte]
        rfl
      refine ⟨fun same => ?_, fun absent => absurd escape absent⟩
      have lengths := congrArg List.length same
      have restLength := length_decode_le rest
      have first := length_utf8EncodeChar_pos '%'
      have second := length_utf8EncodeChar_pos high
      simp only [Text.bytes_cons, List.length_append, List.length_cons] at lengths
      omega
  | case2 high low rest noByte inductionHypothesis =>
      have later := @hasEscape_cons_iff '%' (high :: low :: rest) fun first second isByte
          leading => by
        simp only [List.cons_prefix_cons, true_and] at leading
        rw [leading.1, leading.2.1, noByte] at isByte
        cases isByte
      rw [Text.bytes_cons, List.append_cancel_left_eq, inductionHypothesis, later]
  | case3 c rest notEscape inductionHypothesis =>
      have later := @hasEscape_cons_iff c rest fun first second isByte leading => by
        rw [List.cons_prefix_cons] at leading
        obtain ⟨sameFirst, after, restEq⟩ := leading
        exact notEscape first second after sameFirst.symm restEq.symm
      rw [Text.bytes_cons, List.append_cancel_left_eq, inductionHypothesis, later]
  | case4 =>
      exact ⟨fun _ => not_hasEscape_of_not_mem List.not_mem_nil, fun _ => rfl⟩

/-! ## Paths -/

theorem eq_nil_of_length_bytes {text : Text} (empty : text.bytes.length = 0) :
    text = [] := by
  cases text with
  | nil =>
      rfl
  | cons c rest =>
      have first := length_utf8EncodeChar_pos c
      rw [Text.bytes_cons, List.length_append] at empty
      omega

theorem takeWhile_endsPath_eq_self_iff {text : Text} :
    text.takeWhile (!endsPath ·) = text ↔ '?' ∉ text ∧ '#' ∉ text := by
  rw [List.takeWhile_eq_self_iff]
  simp only [endsPath, Bool.not_eq_true', Bool.or_eq_false_iff, beq_eq_false_iff_ne]
  constructor
  · intro quiet
    exact ⟨fun query => (quiet _ query).1 rfl, fun fragment => (quiet _ fragment).2 rfl⟩
  · rintro ⟨noQuery, noFragment⟩ c member
    exact ⟨fun query => noQuery (query ▸ member),
      fun fragment => noFragment (fragment ▸ member)⟩

/-- Where the path of a reference has all bytes of the reference, nothing follows it:
what is cut off has bytes that decoding does not make up for. -/
theorem takeWhile_eq_self_of_decode {text : Text}
    (decoded : decode (text.takeWhile (!endsPath ·)) = text.bytes) :
    text.takeWhile (!endsPath ·) = text := by
  have cut := List.takeWhile_append_dropWhile (p := (!endsPath ·)) (l := text)
  have bytesEq := congrArg (fun text => (Text.bytes text).length) cut
  have shorter := length_decode_le (text.takeWhile (!endsPath ·))
  rw [decoded] at shorter
  have nothingLeft : text.dropWhile (!endsPath ·) = [] := by
    apply eq_nil_of_length_bytes
    simp only [Text.bytes, List.flatMap_append, List.length_append] at bytesEq shorter ⊢
    omega
  rw [nothingLeft, List.append_nil] at cut
  exact cut

/-- A path that is written as it is names itself exactly if nothing in it is read in
another way. -/
theorem names_self_iff {text : Text} :
    Names text text ↔
      ('?' ∉ text ∧ '#' ∉ text) ∧ ':' ∉ text.takeWhile (· ≠ '/') ∧ ¬ HasEscape text := by
  rw [Names, path?]
  constructor
  · intro named
    split at named
    · cases named
    · next noColon =>
        have decoded := Option.some.inj named
        have whole := takeWhile_eq_self_of_decode decoded
        rw [whole] at decoded noColon
        exact ⟨takeWhile_endsPath_eq_self_iff.mp whole, noColon,
          decode_eq_bytes_iff.mp decoded⟩
  · rintro ⟨unbroken, noColon, noEscape⟩
    rw [takeWhile_endsPath_eq_self_iff.mpr unbroken, if_neg noColon,
      decode_eq_bytes_iff.mpr noEscape]

/-- A name with an ending names itself exactly if the name is plain. -/
theorem names_append_self_iff {name ending : Text} {separator : Char}
    (noSlash : '/' ∉ name) (separates : separator ∈ ['/', '.'])
    (plain : IsPlain ending) :
    Names (name ++ separator :: ending) (name ++ separator :: ending) ↔
      IsPlain name := by
  have notSeparator {c : Char} (other : c ∉ ['/', '.']) : c ≠ separator := by
    rintro rfl
    exact other separates
  have mem_iff {c : Char} (other : c ∉ ['/', '.']) (absent : c ∉ ending) :
      c ∈ name ++ separator :: ending ↔ c ∈ name := by
    simp [notSeparator other, absent]
  have noDigit : Text.digitValue? 16 separator = none := by
    have none : ∀ separator ∈ ['/', '.'], Text.digitValue? 16 separator = none :=
      List.all_iff_forall_prop.mp (by decide)
    exact none separator separates
  have escape_iff : HasEscape (name ++ separator :: ending) ↔ HasEscape name := by
    rw [hasEscape_append_cons_iff (notSeparator (by decide)).symm noDigit]
    exact or_iff_left plain.noEscape
  have inName : ∀ c ∈ name, decide (c ≠ '/') = true := by
    intro c member
    rw [decide_eq_true_iff]
    rintro rfl
    exact noSlash member
  have colon_iff :
      ':' ∈ (name ++ separator :: ending).takeWhile (· ≠ '/') ↔ ':' ∈ name := by
    constructor
    · intro member
      exact (mem_iff (by decide) plain.noColon).mp
        ((List.takeWhile_prefix _).subset member)
    · intro member
      rw [List.takeWhile_append_of_pos inName]
      exact List.mem_append_left _ member
  rw [names_self_iff, mem_iff (by decide) plain.noQuery,
    mem_iff (by decide) plain.noFragment, colon_iff, escape_iff]
  constructor
  · rintro ⟨⟨noQuery, noFragment⟩, noColon, noEscape⟩
    exact ⟨noQuery, noFragment, noColon, noEscape⟩
  · rintro ⟨noQuery, noFragment, noColon, noEscape⟩
    exact ⟨⟨noQuery, noFragment⟩, noColon, noEscape⟩

end Marginalia.Reference
