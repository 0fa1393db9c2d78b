import QueryTemplate.Text

/-!
# Specifiers and tokens

A question mark in a segment stands for an argument, and the character after it says how the
argument is to be written: that is its `Specifier`.  Four letters select a conversion and belong to
the placeholder; a space, a comma or the end of the segment selects the general one and stays in
the text.  No other character may follow.

`Token.ofText` reads a segment as a sequence of tokens: ordinary characters, **holes** to be filled
with arguments, and question marks whose next character is not supported.  A segment's text is the
concatenation of what its tokens cover, and every question mark begins a token of its own.
-/

namespace QueryTemplate

/-- How a placeholder writes its argument. -/
inductive Specifier where
  /-- A single value, quoted as its kind requires. -/
  | escaped
  /-- An integer. -/
  | int
  /-- A number with a decimal point. -/
  | float
  /-- Several values, or pairs of a name and a value. -/
  | array
  /-- A column name, or several. -/
  | column
  deriving DecidableEq

namespace Specifier

/-- The specifier that a letter after the question mark selects. -/
def ofLetter? : Char → Option Specifier
  | 'd' => some .int
  | 'f' => some .float
  | 'a' => some .array
  | '#' => some .column
  | _ => none

/-- The letter that selects a specifier; the general one has none. -/
def letter? : Specifier → Option Char
  | .escaped => none
  | .int => some 'd'
  | .float => some 'f'
  | .array => some 'a'
  | .column => some '#'

/-- The characters that may follow a question mark without belonging to it. -/
def isBoundary (c : Char) : Bool :=
  c = ' ' || c = ','

/-- The specifier that the next character selects, with `none` for the end of the segment.  There
is no specifier for an unsupported character. -/
def ofNext? : Option Char → Option Specifier
  | none => some .escaped
  | some c => if isBoundary c then some .escaped else ofLetter? c

/-- The text of the placeholder. -/
def text (s : Specifier) : Text :=
  '?' :: s.letter?.toList

/-- How many bytes of the template the placeholder takes. -/
def width : Specifier → Nat
  | .escaped => 1
  | .int | .float | .array | .column => 2

theorem byteLength_text (s : Specifier) : Text.byteLength s.text = s.width := by
  cases s <;> rfl

/-- A specifier that a letter selects is written with that letter. -/
theorem text_of_ofNext? {next : Char} {s : Specifier} (selected : ofNext? (some next) = some s)
    (letter : s ≠ .escaped) : s.text = ['?', next] := by
  simp only [ofNext?] at selected
  split at selected
  · injection selected with same
    exact absurd same.symm letter
  · simp only [ofLetter?] at selected
    split at selected <;> cases selected <;> rfl

end Specifier

/-- A piece of a segment. -/
inductive Token where
  /-- A character that is copied. -/
  | literal (c : Char)
  /-- A placeholder. -/
  | hole (s : Specifier)
  /-- A question mark before a character that selects nothing. -/
  | unknown (next : Char)
  deriving DecidableEq

namespace Token

/-- The text that a token covers.  An unsupported character is not part of its token. -/
def text : Token → Text
  | .literal c => [c]
  | .hole s => s.text
  | .unknown _ => ['?']

/-- The tokens of a segment's text.  A character that follows a question mark without belonging to
it is read again as the start of the next token. -/
def ofText : Text → List Token
  | [] => []
  | c :: rest =>
    if c = '?' then
      match rest with
      | [] => [.hole .escaped]
      | next :: later =>
        match Specifier.ofNext? (some next) with
        | none => .unknown next :: ofText (next :: later)
        | some s => .hole s :: (if s = .escaped then ofText (next :: later) else ofText later)
    else .literal c :: ofText rest

/-- **Tokens cover the text**: what they cover, put together, is the text they were read from. -/
theorem flatMap_text_ofText (t : Text) : (ofText t).flatMap text = t := by
  fun_induction ofText t with
  | case1 => rfl
  | case2 => rfl
  | case3 next later unsupported ih =>
    rw [List.flatMap_cons, ih]
    rfl
  | case4 next later s selected ih_boundary ih_letter =>
    rw [List.flatMap_cons]
    by_cases boundary : s = .escaped
    · subst boundary
      rw [if_pos rfl, ih_boundary]
      rfl
    · rw [if_neg boundary, ih_letter, text, Specifier.text_of_ofNext? selected boundary]
      rfl
  | case5 c rest plain ih =>
    rw [List.flatMap_cons, ih]
    rfl

end Token

end QueryTemplate
