import QueryTemplate.Template.Basic
import QueryTemplate.Text.Quoted

/-!
# Reports

A report shows how a template is read: first its segments, one to a line, then its placeholders.
Segments are numbered from zero and placeholders from one; each line names the byte offset at which
the thing stands.  The text of a segment is quoted, so that a report has exactly as many lines as
there are things to show.
-/

namespace QueryTemplate

namespace Report

/-- A line, with its end. -/
def line (content : Text) : Text :=
  content ++ ['\n']

/-- The name of a kind of segment, filled up to equal width. -/
def kindName : SegmentKind → String
  | .always => "text "
  | .block => "block"

/-- The line for a segment. -/
def segmentLine (index : Nat) (s : Segment) : Text :=
  line (s!"  [{index}] {kindName s.kind} @{s.offset}: ".toList ++ Text.quoted s.text)

/-- What is added to the line of a placeholder in a block. -/
def blockNote (inBlock : Bool) : String :=
  if inBlock then " (in block)" else ""

/-- The line for a placeholder. -/
def placeholderLine (number : Nat) (p : Placeholder) : Text :=
  line <| s!"  #{number} ".toList ++ p.specifier.text ++
    s!" @{p.offset} in segment {p.segment}{blockNote p.inBlock}".toList

/-- The whole report. -/
def render (segments : List Segment) (placeholders : List Placeholder) : Text :=
  line s!"segments: {segments.length}".toList ++
    (segments.mapIdx segmentLine).flatten ++
    line s!"placeholders: {placeholders.length}".toList ++
    (placeholders.mapIdx fun i p => placeholderLine (i + 1) p).flatten

end Report

/-- **The report on a template.** -/
def Template.report (t : Template) : Except BuildError Text := do
  return Report.render t.segments (← t.placeholders)

/-- The report on a template's text. -/
def describe (source : Text) : Except BuildError Text := do
  (← Template.parse source).report

end QueryTemplate
