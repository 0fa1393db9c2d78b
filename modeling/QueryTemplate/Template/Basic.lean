import QueryTemplate.Cause

/-!
# Templates

A `Template` is a text together with its segments.  `Template.parse` cuts the text into segments,
and `Template.placeholders` lists the placeholders of all of them, each with the place where it
stands.  Listing fails at the first question mark that no supported character follows; building a
query would fail there as well, unless an argument stops it earlier.
-/

namespace QueryTemplate

/-- **A template**, cut into segments. -/
structure Template where
  /-- The text of the template. -/
  source : Text
  /-- Its segments, in order. -/
  segments : List Segment
  deriving DecidableEq

/-- A placeholder and the place where it stands. -/
structure Placeholder where
  /-- The index of its segment, from zero. -/
  segment : Nat
  /-- Where its question mark stands in the template, in bytes. -/
  offset : Nat
  /-- How it writes its argument. -/
  specifier : Specifier
  /-- Whether it stands in a block. -/
  inBlock : Bool
  deriving DecidableEq

namespace Segment

/-- Whether a segment is the interior of a block. -/
def isBlock (s : Segment) : Bool :=
  s.kind = .block

/-- The tokens of a segment. -/
def tokens (s : Segment) : List Token :=
  Token.ofText s.text

end Segment

namespace Placeholder

/-- The placeholders among the tokens of a segment.  The offset is that of the first token. -/
def ofTokens (segment : Nat) (inBlock : Bool) :
    Nat → List Token → Except Cause (List Placeholder)
  | _, [] => .ok []
  | offset, token :: rest => do
    let later := ofTokens segment inBlock (offset + Text.byteLength token.text) rest
    match token with
    | .literal _ => later
    | .unknown next => .error (.unsupportedSpecifier next)
    | .hole specifier => return ⟨segment, offset, specifier, inBlock⟩ :: (← later)

/-- The placeholders of a list of segments.  The index is that of the first segment. -/
def ofSegments : Nat → List Segment → Except Cause (List Placeholder)
  | _, [] => .ok []
  | index, segment :: rest => do
    let here ← ofTokens index segment.isBlock segment.offset segment.tokens
    let later ← ofSegments (index + 1) rest
    return here ++ later

end Placeholder

namespace Template

/-- Adds the template to an error. -/
def failing {α : Type} (source : Text) (outcome : Except Cause α) : Except BuildError α :=
  outcome.mapError fun cause => ⟨source, cause⟩

/-- **Reading a template.** -/
def parse (source : Text) : Except BuildError Template := do
  let segments ← failing source ((Segment.split source).mapError .malformedBlock)
  return ⟨source, segments⟩

/-- **The placeholders of a template**, in order. -/
def placeholders (t : Template) : Except BuildError (List Placeholder) :=
  failing t.source (Placeholder.ofSegments 0 t.segments)

/-- How many arguments a template demands. -/
def placeholderCount (t : Template) : Except BuildError Nat :=
  t.placeholders.map List.length

end Template

end QueryTemplate
