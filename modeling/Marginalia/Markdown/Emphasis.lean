import Marginalia.Markdown.Document
import Marginalia.Text.Punctuation
import Marginalia.Text.WhiteSpace

/-!
# Emphasis

Runs of `*`, `_` and `~` mark emphasis, strong emphasis and deleted text. A run
that can close looks for the nearest run before it that it can close; what
stands between the two is emphasised, and the runs between them are text.
-/

namespace Marginalia
namespace Markdown

/-- A run of one delimiter character and what its neighbours allow it to be. -/
structure DelimiterRun where
  marker : Char
  length : Nat
  canOpen : Bool
  canClose : Bool

namespace DelimiterRun

/-- Whether a run between two characters can open emphasis. A missing neighbour
counts as white space. A single tilde and an underscore cannot stand inside a
word. -/
def opens (marker : Char) (length : Nat) (previous? next? : Option Char) :
    Bool :=
  match next?, previous? with
  | none, _ => false
  | some next, none => !isWhiteSpace next
  | some next, some previous =>
      !isWhiteSpace next &&
        ((marker = '*' && !isPunctuation next) ||
          (marker = '~' && length > 1) ||
          (marker = '~' && previous = '~' && !isPunctuation next) ||
          isWhiteSpace previous || isPunctuation previous)

/-- Whether a run between two characters can close emphasis. -/
def closes (marker : Char) (length : Nat) (previous? next? : Option Char) :
    Bool :=
  match previous?, next? with
  | none, _ => false
  | some previous, none => !isWhiteSpace previous
  | some previous, some next =>
      !isWhiteSpace previous &&
        (((marker = '*' || (marker = '~' && length > 1)) &&
            !isPunctuation previous) ||
          (marker = '~' && previous = '~') ||
          isWhiteSpace next || isPunctuation next)

def between (marker : Char) (length : Nat) (previous? next? : Option Char) :
    DelimiterRun :=
  ⟨marker, length, opens marker length previous? next?,
    closes marker length previous? next?⟩

/-- Whether a run can mark anything. Tildes come alone or in pairs. -/
def isDelimiter (run : DelimiterRun) : Bool :=
  (run.canOpen || run.canClose) && (run.marker ≠ '~' || run.length ≤ 2)

def isBoth (run : DelimiterRun) : Bool := run.canOpen && run.canClose

/-- Whether a closing run can match an opening run. Runs of tildes match at
equal length only. Of two runs one of which could be both, the lengths must not
add up to a multiple of three, unless the closing length is one itself. -/
def matchesOpening (closing opening : DelimiterRun) : Bool :=
  closing.marker = opening.marker &&
    (closing.marker ≠ '~' || closing.length = opening.length) &&
    ((!closing.isBoth && !opening.isBoth) ||
      (closing.length + opening.length) % 3 ≠ 0 ||
      closing.length % 3 = 0)

end DelimiterRun

/-- A piece of inline content before emphasis is resolved. -/
inductive Piece where
  | inline (content : Inline)
  | run (run : DelimiterRun)

/-- A run that waits to be closed: how many of its delimiters are left, and the
content before it, the latest first. A sealed run can no longer be closed. -/
structure OpenRun where
  run : DelimiterRun
  count : Nat
  isSealed : Bool
  before : List Inline

namespace OpenRun

/-- Turn the delimiters of an open run into text before some content, the
latest first. -/
def dissolve (opening : OpenRun) (content : List Inline) : List Inline :=
  content ++
    .text (List.replicate opening.count opening.run.marker) :: opening.before

def sealTilde (opening : OpenRun) : OpenRun :=
  if opening.run.marker = '~' then { opening with isSealed := true }
  else opening

end OpenRun

/-- The open runs, the innermost first, and the content after the innermost of
them, the latest first. -/
structure EmphasisState where
  openings : List OpenRun
  content : List Inline

namespace EmphasisState

/-- The nearest open run that a closing run matches, the content after it with
the runs between as text, and the runs before it. -/
def findOpening? (closing : DelimiterRun) (content : List Inline) :
    List OpenRun → Option (List Inline × OpenRun × List OpenRun)
  | [] => none
  | opening :: outer =>
      if !opening.isSealed && closing.matchesOpening opening.run then
        some (content, opening, outer)
      else findOpening? closing (opening.dissolve content) outer

/-- Content inside a number of matched asterisks or underscores: pairs are
strong, and a single one goes outside. -/
def enclose : Nat → List Inline → List Inline
  | 0, children => children
  | 1, children => [.emphasis children]
  | count + 2, children => enclose count [.strong children]

/-- Content inside a number of matched delimiters. -/
def encloseIn (marker : Char) (count : Nat) (children : List Inline) :
    List Inline :=
  if marker = '~' then [.strikethrough children] else enclose count children

/-- Close runs with the delimiters of a closing run, as long as it has some
left. The fuel is at least their number. A run of tildes that closes nothing
seals the runs of tildes before it. -/
def close (closing : DelimiterRun) :
    Nat → Nat → EmphasisState → Nat × EmphasisState
  | 0, count, state => (count, state)
  | fuel + 1, count, state =>
      if count = 0 then (0, state)
      else
        match findOpening? closing state.content state.openings with
        | none =>
            let openings :=
              if closing.marker = '~' then
                state.openings.map OpenRun.sealTilde
              else state.openings
            (count, { state with openings := openings })
        | some (content, opening, outer) =>
            let matched := min count opening.count
            let enclosed := encloseIn closing.marker matched content.reverse
            let next : EmphasisState :=
              if opening.count ≤ matched then
                ⟨outer, enclosed ++ opening.before⟩
              else
                -- Delimiters that are not used up stay open around what they enclose.
                ⟨{ opening with count := opening.count - matched } :: outer,
                  enclosed⟩
            close closing fuel (count - matched) next

def add (state : EmphasisState) : Piece → EmphasisState
  | .inline content => { state with content := content :: state.content }
  | .run run =>
      let (count, closed) :=
        if run.canClose then close run run.length run.length state
        else (run.length, state)
      if count = 0 then closed
      else if run.canOpen then
        ⟨⟨run, count, false, closed.content⟩ :: closed.openings, []⟩
      else
        { closed with
          content := .text (List.replicate count run.marker) :: closed.content }

/-- All content, the latest first, with the open runs as text. -/
def settle (content : List Inline) : List OpenRun → List Inline
  | [] => content
  | opening :: outer => settle (opening.dissolve content) outer

end EmphasisState

def resolveEmphasis (pieces : List Piece) : List Inline :=
  let state := pieces.foldl EmphasisState.add ⟨[], []⟩
  (EmphasisState.settle state.content state.openings).reverse

end Markdown
end Marginalia
