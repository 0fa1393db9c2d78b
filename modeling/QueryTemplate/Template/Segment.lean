import QueryTemplate.Text

/-!
# Segments

A template is a text with **conditional blocks** in braces.  Blocks do not nest.  `Segment.split`
cuts a template into its segments: the text outside of blocks, which is always kept, and the
interior of each block, which may be dropped as a whole.

Text outside of blocks gives a segment only where it is not empty; an empty block gives an empty
segment.  Each segment knows the byte offset of its text in the template.

The braces of a template must alternate, an opening one first and a closing one last.  The three
ways to break that rule are the three values of `BlockError`.
-/

namespace QueryTemplate

/-- Whether a segment is always part of the output or may be dropped. -/
inductive SegmentKind where
  /-- Text outside of any block. -/
  | always
  /-- The interior of a block. -/
  | block
  deriving DecidableEq

/-- A stretch of a template without braces. -/
structure Segment where
  /-- The text between the braces. -/
  text : Text
  /-- Whether the text stands in a block. -/
  kind : SegmentKind
  /-- Where the text begins in the template, in bytes. -/
  offset : Nat
  deriving DecidableEq

/-- What is wrong with the braces of a template.  Positions are in bytes. -/
inductive BlockError where
  /-- An opening brace where a block is already open. -/
  | unexpectedStart (position : Nat)
  /-- A closing brace where no block is open. -/
  | unexpectedEnd (position : Nat)
  /-- The template ends inside of a block. -/
  | unclosed
  deriving DecidableEq

/-- The message for a malformed block. -/
def BlockError.message : BlockError → String
  | .unexpectedStart position => s!"unexpected block start at position {position}"
  | .unexpectedEnd position => s!"unexpected block end at position {position}"
  | .unclosed => "unclosed block in template"

namespace Segment

/-- Puts top-level text in front of the segments after it; empty text gives no segment. -/
def consAlways (text : Text) (offset : Nat) (later : List Segment) : List Segment :=
  if text = [] then later else ⟨text, .always, offset⟩ :: later

/-- **The scan.**  Given the kind of the segment being read and the position in the template, reads
up to the next brace.  The answer is the text before that brace and all the segments after it. -/
def scan : SegmentKind → Nat → Text → Except BlockError (Text × List Segment)
  | .always, _, [] => .ok ([], [])
  | .block, _, [] => .error .unclosed
  | kind, position, c :: rest =>
    if c = '{' then
      match kind with
      | .block => .error (.unexpectedStart position)
      | .always => do
        let (text, later) ← scan .block (position + 1) rest
        return ([], ⟨text, .block, position + 1⟩ :: later)
    else if c = '}' then
      match kind with
      | .always => .error (.unexpectedEnd position)
      | .block => do
        let (text, later) ← scan .always (position + 1) rest
        return ([], consAlways text (position + 1) later)
    else do
      let (text, later) ← scan kind (position + c.utf8Size) rest
      return (c :: text, later)

/-- **The segments of a template**, in order. -/
def split (template : Text) : Except BlockError (List Segment) := do
  let (text, later) ← scan .always 0 template
  return consAlways text 0 later

end Segment

end QueryTemplate
