import QueryTemplate.Config
import QueryTemplate.Template.Basic

/-!
# Filling a template

Arguments are handed out from left to right, one for each placeholder, across all segments.  A
`Supply` is the state of that handing out: how many arguments have been consumed, and which are
still to come.

Filling a segment gives its text, or nothing when one of its placeholders received a skip.  A
dropped segment still consumes an argument for each of its placeholders, so that the arguments of
later segments stay in line, and an argument that cannot be written is an error even there.  What
was filled in is never read as template text.

A template is filled segment by segment (`fillAll`).  The query is what the segments that were kept
give, one after the other, provided that no argument is left over (`Template.fill`).
-/

namespace QueryTemplate

/-- The handing out of arguments. -/
structure Supply where
  /-- How many arguments have been consumed. -/
  consumed : Nat
  /-- The arguments still to come. -/
  unread : List Argument

namespace Supply

/-- All arguments, before the first is consumed. -/
def start (args : List Argument) : Supply :=
  ⟨0, args⟩

/-- The index of the next argument, from one. -/
def nextIndex (s : Supply) : Nat :=
  s.consumed + 1

end Supply

/-- The text of a segment, or nothing when the segment is dropped; and the arguments left. -/
abbrev Filled := Option Text × Supply

namespace Filled

/-- Puts text in front of a segment's text; what is dropped stays dropped. -/
def prepend (text : Text) (filled : Filled) : Filled :=
  (filled.1.map (text ++ ·), filled.2)

/-- Drops the segment. -/
def drop (filled : Filled) : Filled :=
  (none, filled.2)

end Filled

/-- **Filling the tokens of a segment.**  `strict` says that a skip is an error here. -/
def fillTokens (e : Escaper) (strict : Bool) : List Token → Supply → Except Cause Filled
  | [], supply => .ok (some [], supply)
  | .literal c :: rest, supply => (fillTokens e strict rest supply).map (.prepend [c])
  | .unknown next :: _, _ => .error (.unsupportedSpecifier next)
  | .hole s :: rest, supply =>
    match supply.unread with
    | [] => .error (.missingArgument supply.nextIndex)
    | arg :: unread =>
      let later := fillTokens e strict rest ⟨supply.consumed + 1, unread⟩
      match s.convert e arg with
      | .ok text => later.map (.prepend text)
      | .error (.fault f) => .error (.badArgument supply.nextIndex f)
      | .error .skip =>
        if strict then .error (.skipOutsideBlock supply.nextIndex) else later.map .drop

/-- An argument that cannot be written is named by its number. -/
theorem fillTokens_hole_of_fault {e : Escaper} {s : Specifier} {supply : Supply} {arg : Argument}
    {unread : List Argument} {f : Fault} (hunread : supply.unread = arg :: unread)
    (hfault : s.convert e arg = .error (.fault f)) (strict : Bool) (rest : List Token) :
    fillTokens e strict (.hole s :: rest) supply = .error (.badArgument supply.nextIndex f) := by
  rw [fillTokens, hunread]
  dsimp only
  rw [hfault]

/-- Whether a skip is an error in a segment: outside of blocks, if the policy says so. -/
def Segment.isStrict (policy : SkipPolicy) (s : Segment) : Bool :=
  s.kind = .always && policy = .error

/-- Filling a segment. -/
def Segment.fill (e : Escaper) (policy : SkipPolicy) (s : Segment) (supply : Supply) :
    Except Cause Filled :=
  fillTokens e (s.isStrict policy) s.tokens supply

/-- Filling segments one after the other.  The answer tells for each whether it was kept. -/
def fillAll (e : Escaper) (policy : SkipPolicy) :
    List Segment → Supply → Except Cause (List (Option Text) × Supply)
  | [], supply => .ok ([], supply)
  | segment :: rest, supply => do
    let (filled, supply) ← segment.fill e policy supply
    let (later, supply) ← fillAll e policy rest supply
    return (filled :: later, supply)

/-- The texts of the segments that were kept, one after the other. -/
def keptText (filled : List (Option Text)) : Text :=
  (filled.filterMap id).flatten

namespace Template

/-- **Filling a template** with arguments, exactly one for each placeholder. -/
def fill (e : Escaper) (policy : SkipPolicy) (t : Template) (args : List Argument) :
    Except Cause Text := do
  let (filled, supply) ← fillAll e policy t.segments (.start args)
  if supply.unread = [] then return keptText filled
  else throw (.extraArguments supply.consumed args.length)

end Template

end QueryTemplate
