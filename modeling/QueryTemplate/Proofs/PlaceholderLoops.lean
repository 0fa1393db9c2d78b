import QueryTemplate.Proofs.Filling
import QueryTemplate.Proofs.SplittingLoop

/-!
# Listing and filling as loops over byte positions

The placeholders of a template can be listed, and its segments filled, with byte positions and
slices only.  Both go through the segments one by one, and through each segment from one placeholder
to the next: look for the next question mark, slice the text in front of it off, and go on behind
the placeholder, which takes as many bytes as its specifier says (`Listing.turn`, `Filling.turn`).
A placeholder of two bytes ends between two characters because every letter that may stand in it
takes one byte; this is where the loops would fail if it were otherwise.

Listing and filling by positions are listing and filling by tokens (`Listing.ends`,
`Filling.ends`).  The proofs follow the text from one placeholder to the next (`Text.Scans`) within
a segment, and the list of segments around that.  What a turn does that is not the last is told
apart (`Listing.advances_of_turn`, `Filling.advances_of_turn`), and with it how many arguments a
build has consumed in any state.  `loops_never_fail` puts the loops together.
-/

namespace QueryTemplate

open Text (PassesOne Scans byteLength bytes isBoundary nextPlaceholder)

/-! ## Listing placeholders -/

/-- **The state of listing placeholders.** -/
structure Listing where
  /-- The index of the segment. -/
  index : Nat
  /-- How many bytes of its text have been consumed. -/
  consumed : Nat
  /-- The placeholders found so far. -/
  found : List Placeholder

namespace Listing

/-- The state before the first segment. -/
def initial : Listing :=
  ⟨0, 0, []⟩

/-- **Listing, one placeholder at a time.** -/
def turn (segments : List Segment) (s : Listing) :
    Option (Turn Listing (Except Cause (List Placeholder))) :=
  match segments[s.index]? with
  | none => some (.done (.ok s.found))
  | some segment => do
    let rest ← segment.text.sliceFrom? s.consumed
    match ← nextPlaceholder rest with
    | none => return .again ⟨s.index + 1, 0, s.found⟩
    | some (_, .error next) => return .done (.error (.unsupportedSpecifier next))
    | some (position, .ok specifier) =>
      let placeholder : Placeholder :=
        ⟨s.index, segment.offset + s.consumed + position, specifier, segment.isBlock⟩
      return .again ⟨s.index, s.consumed + (position + specifier.width), s.found ++ [placeholder]⟩

/-- What a turn that goes on does: it finishes the segment, or passes one question mark of it. -/
def Advances (segments : List Segment) (s s' : Listing) : Prop :=
  (s'.index = s.index + 1 ∧ s'.consumed = 0) ∨
  (s'.index = s.index ∧ ∃ segment before after, segments[s.index]? = some segment ∧
    segment.text.sliceFrom? s.consumed = some before ∧
    segment.text.sliceFrom? s'.consumed = some after ∧ PassesOne before after)

theorem ofTokens_literals (index : Nat) (inBlock : Bool) (offset : Nat) (plain : Text)
    (tokens : List Token) :
    Placeholder.ofTokens index inBlock offset (plain.map .literal ++ tokens) =
      Placeholder.ofTokens index inBlock (offset + byteLength plain) tokens := by
  induction plain generalizing offset with
  | nil => rfl
  | cons c rest ih =>
    rw [List.map_cons, List.cons_append, Placeholder.ofTokens_literal, ih, Text.byteLength_cons,
      Nat.add_assoc]

/-- What listing comes to, with the tokens of a segment and all later segments still to come. -/
def finished (index : Nat) (inBlock : Bool) (offset : Nat) (tokens : List Token)
    (later : List Segment) (found : List Placeholder) : Except Cause (List Placeholder) :=
  (Placeholder.ofTokens index inBlock offset tokens).bind fun here =>
    (Placeholder.ofSegments (index + 1) later).map fun behind => found ++ (here ++ behind)

section Finished
variable (index : Nat) (inBlock : Bool) (offset : Nat) (plain : Text) (tokens : List Token)
  (later : List Segment) (found : List Placeholder)

theorem finished_literals :
    finished index inBlock offset (plain.map .literal) later found =
      (Placeholder.ofSegments (index + 1) later).map (found ++ ·) := by
  have htokens := ofTokens_literals index inBlock offset plain []
  rw [List.append_nil] at htokens
  rw [finished, htokens]
  rfl

theorem finished_unknown (next : Char) :
    finished index inBlock offset (plain.map .literal ++ .unknown next :: tokens) later found =
      .error (.unsupportedSpecifier next) := by
  rw [finished, ofTokens_literals, Placeholder.ofTokens_unknown]
  rfl

theorem finished_hole (s : Specifier) :
    finished index inBlock offset (plain.map .literal ++ .hole s :: tokens) later found =
      finished index inBlock (offset + byteLength plain + s.width) tokens later
        (found ++ [⟨index, offset + byteLength plain, s, inBlock⟩]) := by
  rw [finished, finished, ofTokens_literals, Placeholder.ofTokens_hole]
  generalize Placeholder.ofTokens index inBlock _ tokens = scanned
  cases scanned with
  | error cause => rfl
  | ok here => simp [Except.map, Except.bind]

theorem finished_segment (segment : Segment) :
    finished index segment.isBlock segment.offset segment.tokens later found =
      (Placeholder.ofSegments index (segment :: later)).map (found ++ ·) := by
  rw [finished, Placeholder.ofSegments]
  generalize Placeholder.ofTokens index segment.isBlock segment.offset segment.tokens = scanned
  cases scanned with
  | error cause => rfl
  | ok here =>
    cases Placeholder.ofSegments (index + 1) later <;> rfl

end Finished

section Turns
variable {segments before later : List Segment} {segment : Segment}

/-- Within a segment, from one placeholder to the next. -/
theorem ends_of_scans (h : segments = before ++ segment :: later)
    (hlater : ∀ found, Ends (turn segments) ⟨before.length + 1, 0, found⟩
      ((Placeholder.ofSegments (before.length + 1) later).map (found ++ ·)))
    {rest : Text} (hscans : Scans rest) {front : Text} (htext : segment.text = front ++ rest)
    (found : List Placeholder) :
    Ends (turn segments) ⟨before.length, byteLength front, found⟩
      (finished before.length segment.isBlock (segment.offset + byteLength front)
        (Token.ofText rest) later found) := by
  have hsegment : segments[before.length]? = some segment := by simp [h]
  have hunread {front rest : Text} (htext : segment.text = front ++ rest) :
      segment.text.sliceFrom? (byteLength front) = some rest :=
    Text.sliceFrom?_eq_some_iff.mpr ⟨front, htext, rfl⟩
  induction hscans generalizing front found with
  | plain hplain =>
    have hnone := Text.nextPlaceholder_of_not_mem hplain
    rw [Token.ofText_of_not_mem hplain, finished_literals]
    refine .again ?_ (hlater found)
    simp [turn, hsegment, hunread htext, hnone]
  | unsupported hplain hfound htokens =>
    rw [htokens, finished_unknown]
    apply Ends.done
    simp [turn, hsegment, hunread htext, hfound]
  | @hole plain after s hplain hfound htokens hafter ih =>
    have hbehind : segment.text = (front ++ plain ++ s.text) ++ after := by simp [htext]
    have hconsumed : byteLength (front ++ plain ++ s.text) =
        byteLength front + (byteLength plain + s.width) := by
      simp [Specifier.byteLength_text]
    have hrest := ih hbehind (found ++
      [⟨before.length, segment.offset + byteLength front + byteLength plain, s, segment.isBlock⟩])
    rw [hconsumed] at hrest
    rw [htokens, finished_hole]
    simp only [Nat.add_assoc] at hrest ⊢
    refine .again ?_ hrest
    simp [turn, hsegment, hunread htext, hfound, Nat.add_assoc]

/-- From one segment to the next. -/
theorem ends_from (segments before later : List Segment) (h : segments = before ++ later)
    (found : List Placeholder) :
    Ends (turn segments) ⟨before.length, 0, found⟩
      ((Placeholder.ofSegments before.length later).map (found ++ ·)) := by
  induction later generalizing before found with
  | nil =>
    have hend : segments[before.length]? = none := by
      rw [h, List.append_nil]
      exact List.getElem?_eq_none (Nat.le_refl _)
    apply Ends.done
    simp [turn, hend, Placeholder.ofSegments, Except.map]
  | cons segment later ih =>
    have hlater (found : List Placeholder) := ih (before ++ [segment]) (by simp [h]) found
    simp only [List.length_append, List.length_singleton] at hlater
    have hwithin := ends_of_scans h hlater (Text.scans segment.text) (List.nil_append _).symm found
    rwa [Text.byteLength_nil, Nat.add_zero, ← Segment.tokens, finished_segment] at hwithin

/-- **Listing by positions is listing by tokens.** -/
theorem ends (segments : List Segment) :
    Ends (turn segments) initial (Placeholder.ofSegments 0 segments) := by
  have hends := ends_from segments [] segments rfl []
  cases hlist : Placeholder.ofSegments 0 segments with
  | error cause =>
    rw [List.length_nil, hlist] at hends
    exact hends
  | ok found =>
    rw [List.length_nil, hlist] at hends
    exact hends

/-- **A turn that goes on** passes one question mark of the segment, or else finishes it. -/
theorem advances_of_turn {s s' : Listing} (h : turn segments s = some (.again s')) :
    Advances segments s s' := by
  rw [turn] at h
  cases hsegment : segments[s.index]? with
  | none => simp [hsegment] at h
  | some segment =>
    simp only [hsegment, Option.bind_eq_bind, Option.bind_eq_some_iff] at h
    obtain ⟨rest, hrest, found, hfound, hturn⟩ := h
    obtain ⟨front, htext, hfront⟩ := Text.sliceFrom?_eq_some_iff.mp hrest
    cases Text.scans rest with
    | plain hplain =>
      rw [Text.nextPlaceholder_of_not_mem hplain] at hfound
      cases hfound
      cases hturn
      exact .inl ⟨rfl, rfl⟩
    | unsupported hplain hnext htokens =>
      rw [hnext] at hfound
      cases hfound
      cases hturn
    | @hole plain after specifier hplain hnext htokens later =>
      rw [hnext] at hfound
      cases hfound
      cases hturn
      have hpasses := Text.passesOne_placeholder hplain specifier after
      refine .inr ⟨rfl, segment, _, after, hsegment, hrest, ?_, hpasses⟩
      refine Text.sliceFrom?_eq_some_iff.mpr ⟨front ++ plain ++ specifier.text, ?_, ?_⟩
      · simp [htext]
      · simp [Specifier.byteLength_text, hfront]

end Turns

end Listing

/-! ## Filling segments -/

/-- A segment while it is being filled. -/
structure OpenSegment where
  /-- The text that has not been read. -/
  rest : Text
  /-- What has been written. -/
  out : Text
  /-- Whether a skip was among its arguments. -/
  dropped : Bool

namespace OpenSegment

/-- The segment before anything has been read. -/
def ofSegment (s : Segment) : OpenSegment :=
  ⟨s.text, [], false⟩

/-- What the segment gives, if it ends with some text, or is dropped. -/
def close (c : OpenSegment) (ending : Option Text) : Option Text :=
  if c.dropped then none else ending.map (c.out ++ ·)

theorem close_ofSegment (s : Segment) (ending : Option Text) :
    (ofSegment s).close ending = ending := by
  cases ending <;> rfl

/-- What the segment has written and whether it is dropped, once the text in front of a placeholder
and its argument have been written behind what was there. -/
def accept (strict : Bool) (index : Nat) (c : OpenSegment) (before : Text) :
    Converted → Except Cause (Text × Bool)
  | .ok text => .ok (c.out ++ before ++ text, c.dropped)
  | .error .skip =>
    if strict then .error (.skipOutsideBlock index) else .ok (c.out ++ before, true)
  | .error (.fault f) => .error (.badArgument index f)

end OpenSegment

/-- **The state of filling.** -/
structure Filling where
  /-- The index of the segment. -/
  index : Nat
  /-- The segment, once it has been entered. -/
  current : Option OpenSegment
  /-- The texts of the segments that were kept. -/
  kept : List Text
  /-- How many arguments have been consumed. -/
  cursor : Nat

namespace Filling

/-- The state before the first segment. -/
def initial : Filling :=
  ⟨0, none, [], 0⟩

/-- What a turn that goes on does: it enters or leaves a segment and consumes no argument, or it
passes one question mark of the segment and consumes one argument. -/
def Advances (args : List Argument) (s s' : Filling) : Prop :=
  ((s.current = none ∨ s'.current = none) ∧ s'.cursor = s.cursor) ∨
  (s'.index = s.index ∧ ∃ c c', s.current = some c ∧ s'.current = some c' ∧
    PassesOne c.rest c'.rest ∧ s.cursor < args.length ∧ s'.cursor = s.cursor + 1)

section Loop
variable (e : Escaper) (policy : SkipPolicy) (args : List Argument)

/-- **Filling, one placeholder at a time.**  A segment is entered and left in turns of their own. -/
def turn (segments : List Segment) (s : Filling) : Option (Turn Filling (Except Cause Text)) :=
  match segments[s.index]? with
  | none =>
    if s.cursor < args.length then some (.done (.error (.extraArguments s.cursor args.length)))
    else some (.done (.ok s.kept.flatten))
  | some segment =>
    match s.current with
    | none => some (.again { s with current := some (.ofSegment segment) })
    | some c => do
      match ← nextPlaceholder c.rest with
      | none => return .again ⟨s.index + 1, none, s.kept ++ (c.close c.rest).toList, s.cursor⟩
      | some (_, .error next) => return .done (.error (.unsupportedSpecifier next))
      | some (position, .ok specifier) =>
        let before ← c.rest.slice? 0 position
        match args[s.cursor]? with
        | none => return .done (.error (.missingArgument (s.cursor + 1)))
        | some arg =>
          match c.accept (segment.isStrict policy) (s.cursor + 1) before
            (specifier.convert e arg) with
          | .error cause => return .done (.error cause)
          | .ok (out, dropped) =>
            let after ← c.rest.sliceFrom? (position + specifier.width)
            return .again ⟨s.index, some ⟨after, out, dropped⟩, s.kept, s.cursor + 1⟩

/-- What filling comes to, with all later segments still to come. -/
def behind (later : List Segment) (kept : List Text) (supply : Supply) : Except Cause Text :=
  (fillAll e policy later supply).bind fun (filled, supply) =>
    if supply.unread = [] then .ok (kept.flatten ++ keptText filled)
    else .error (.extraArguments supply.consumed args.length)

/-- What filling comes to, with the tokens of a segment and all later segments still to come. -/
def within (strict : Bool) (c : OpenSegment) (later : List Segment) (kept : List Text)
    (tokens : List Token) (supply : Supply) : Except Cause Text :=
  (fillTokens e strict tokens supply).bind fun (ending, supply) =>
    behind e policy args later (kept ++ (c.close ending).toList) supply

theorem keptText_cons (ending : Option Text) (filled : List (Option Text)) :
    keptText (ending :: filled) = ending.toList.flatten ++ keptText filled := by
  cases ending <;> simp [keptText]

theorem fillTokens_literals (strict : Bool) (plain : Text) (tokens : List Token)
    (supply : Supply) :
    fillTokens e strict (plain.map .literal ++ tokens) supply =
      (fillTokens e strict tokens supply).map (.prepend plain) := by
  induction plain with
  | nil =>
    rw [List.map_nil, List.nil_append]
    generalize fillTokens e strict tokens supply = outcome
    obtain cause | ⟨ending | text, supply⟩ := outcome <;> rfl
  | cons c rest ih =>
    rw [List.map_cons, List.cons_append, fillTokens, ih]
    generalize fillTokens e strict tokens supply = outcome
    obtain cause | ⟨ending | text, supply⟩ := outcome <;> rfl

section Finished
variable {strict : Bool} {c : OpenSegment} {later : List Segment} {kept : List Text} {plain : Text}
  {tokens : List Token} {cursor : Nat}

theorem behind_nil :
    behind e policy args [] kept (.after args cursor) =
      if cursor < args.length then .error (.extraArguments cursor args.length)
      else .ok kept.flatten := by
  simp only [behind, fillAll, Except.bind, Supply.unread_after_eq_nil_iff]
  by_cases hcursor : cursor < args.length
  · simp [hcursor, Supply.after]
  · simp [hcursor, Nat.le_of_not_lt hcursor, keptText]

theorem behind_cons (segment : Segment) (supply : Supply) :
    behind e policy args (segment :: later) kept supply =
      within e policy args (segment.isStrict policy) (.ofSegment segment) later kept segment.tokens
        supply := by
  rw [behind, within, fillAll, Segment.fill]
  generalize fillTokens e (segment.isStrict policy) segment.tokens supply = outcome
  obtain cause | ⟨ending, supply⟩ := outcome
  · rfl
  · show ((fillAll e policy later supply).bind _).bind _ = behind e policy args later _ supply
    rw [behind, OpenSegment.close_ofSegment, List.flatten_append]
    generalize fillAll e policy later supply = outcome
    obtain cause | ⟨filled, supply⟩ := outcome
    · rfl
    · simp [Except.bind, pure, Except.pure, keptText_cons]

theorem within_literals :
    within e policy args strict c later kept (plain.map .literal) (.after args cursor) =
      behind e policy args later (kept ++ (c.close plain).toList) (.after args cursor) := by
  have htokens := fillTokens_literals e strict plain [] (.after args cursor)
  rw [List.append_nil] at htokens
  rw [within, htokens, fillTokens]
  simp [Except.map, Except.bind, Filled.prepend]

theorem within_unknown (next : Char) :
    within e policy args strict c later kept (plain.map .literal ++ .unknown next :: tokens)
        (.after args cursor) =
      .error (.unsupportedSpecifier next) := by
  rw [within, fillTokens_literals, fillTokens]
  rfl

theorem within_hole_of_length_le {s : Specifier} (hcursor : args.length ≤ cursor) :
    within e policy args strict c later kept (plain.map .literal ++ .hole s :: tokens)
        (.after args cursor) =
      .error (.missingArgument (cursor + 1)) := by
  rw [within, fillTokens_literals, fillTokens_hole, replies_of_length_le e hcursor]
  rfl

theorem within_hole {s : Specifier} {arg : Argument} (hcursor : args[cursor]? = some arg)
    (after : Text) :
    within e policy args strict c later kept (plain.map .literal ++ .hole s :: tokens)
        (.after args cursor) =
      (c.accept strict (cursor + 1) plain (s.convert e arg)).bind fun (out, dropped) =>
        within e policy args strict ⟨after, out, dropped⟩ later kept tokens
          (.after args (cursor + 1)) := by
  have hreplies : replies e args cursor s = some (s.convert e arg) := by
    rw [replies, hcursor, Option.map_some]
  rw [within, fillTokens_literals, fillTokens_hole, hreplies]
  simp only [within]
  generalize s.convert e arg = converted
  generalize fillTokens e strict tokens (.after args (cursor + 1)) = outcome
  obtain (_ | f) | text := converted
  · -- a skip: an error where it is forbidden, and otherwise the segment is dropped
    by_cases hstrict : strict = true
    · simp [hstrict, OpenSegment.accept, Except.map, Except.bind]
    · obtain cause | ⟨ending, supply⟩ := outcome
      · simp [hstrict, OpenSegment.accept, Except.map, Except.bind]
      · simp [hstrict, OpenSegment.accept, OpenSegment.close, Except.map, Except.bind, Filled.drop,
          Filled.prepend]
  · rfl
  · obtain cause | ⟨ending, supply⟩ := outcome
    · rfl
    · cases ending <;> simp [OpenSegment.accept, OpenSegment.close, Except.map, Except.bind,
        Filled.prepend]

end Finished

section Turns
variable {segments before later : List Segment} {segment : Segment}

/-- Within a segment, from one placeholder to the next. -/
theorem ends_of_scans (h : segments = before ++ segment :: later)
    (hlater : ∀ kept cursor,
      Ends (turn e policy args segments) ⟨before.length + 1, none, kept, cursor⟩
        (behind e policy args later kept (.after args cursor)))
    {rest : Text} (hscans : Scans rest) (out : Text) (dropped : Bool) (kept : List Text)
    (cursor : Nat) :
    Ends (turn e policy args segments)
      ⟨before.length, some ⟨rest, out, dropped⟩, kept, cursor⟩
      (within e policy args (segment.isStrict policy) ⟨rest, out, dropped⟩ later kept
        (Token.ofText rest) (.after args cursor)) := by
  have hsegment : segments[before.length]? = some segment := by simp [h]
  induction hscans generalizing out dropped cursor with
  | plain hplain =>
    have hnone := Text.nextPlaceholder_of_not_mem hplain
    rw [Token.ofText_of_not_mem hplain, within_literals]
    refine .again ?_ (hlater _ cursor)
    simp [turn, hsegment, hnone]
  | unsupported hplain hfound htokens =>
    rw [htokens, within_unknown]
    apply Ends.done
    simp [turn, hsegment, hfound]
  | @hole plain after s hplain hfound htokens hafter ih =>
    have hbefore := Text.slice?_prefix plain (s.text ++ after)
    have hbehind := Text.sliceFrom?_placeholder plain s after
    rw [htokens]
    cases harg : args[cursor]? with
    | none =>
      rw [within_hole_of_length_le e policy args (List.getElem?_eq_none_iff.mp harg)]
      apply Ends.done
      simp [turn, hsegment, hfound, hbefore, harg]
    | some arg =>
      rw [within_hole e policy args harg after]
      cases haccept : OpenSegment.accept (segment.isStrict policy) (cursor + 1)
          ⟨plain ++ (s.text ++ after), out, dropped⟩ plain (s.convert e arg) with
      | error cause =>
        refine .done ?_
        simp [turn, hsegment, hfound, hbefore, harg, haccept, Except.bind]
      | ok written =>
        refine .again ?_ (ih written.1 written.2 (cursor + 1))
        simp [turn, hsegment, hfound, hbefore, harg, haccept, hbehind]

/-- From one segment to the next. -/
theorem ends_from (segments before later : List Segment) (h : segments = before ++ later)
    (kept : List Text) (cursor : Nat) :
    Ends (turn e policy args segments) ⟨before.length, none, kept, cursor⟩
      (behind e policy args later kept (.after args cursor)) := by
  induction later generalizing before kept cursor with
  | nil =>
    have hend : segments[before.length]? = none := by
      rw [h, List.append_nil]
      exact List.getElem?_eq_none (Nat.le_refl _)
    rw [behind_nil]
    apply Ends.done
    by_cases hcursor : cursor < args.length <;> simp [turn, hend, hcursor]
  | cons segment later ih =>
    have hsegment : segments[before.length]? = some segment := by simp [h]
    have hlater (kept : List Text) (cursor : Nat) :=
      ih (before ++ [segment]) (by simp [h]) kept cursor
    simp only [List.length_append, List.length_singleton] at hlater
    have hwithin := ends_of_scans e policy args h hlater (Text.scans segment.text) [] false kept
      cursor
    rw [behind_cons]
    refine .again ?_ hwithin
    simp [turn, hsegment, OpenSegment.ofSegment]

/-- **Filling by positions is filling by tokens.** -/
theorem ends (t : Template) :
    Ends (turn e policy args t.segments) initial (t.fill e policy args) := by
  have hends := ends_from e policy args t.segments [] t.segments rfl [] 0
  have hfill : behind e policy args t.segments [] (.after args 0) = t.fill e policy args := by
    rw [behind, Template.fill, ← Supply.start_eq_after]
    cases fillAll e policy t.segments (.start args) <;> rfl
  rw [← hfill]
  exact hends

/-- **A turn that goes on** passes one question mark and consumes one argument, or else enters or
leaves a segment. -/
theorem advances_of_turn {s s' : Filling} (h : turn e policy args segments s = some (.again s')) :
    Advances args s s' := by
  rw [turn] at h
  cases hsegment : segments[s.index]? with
  | none =>
    by_cases hcursor : s.cursor < args.length <;> simp [hsegment, hcursor] at h
  | some segment =>
    cases hcurrent : s.current with
    | none =>
      simp only [hsegment, hcurrent, Option.some.injEq, Turn.again.injEq] at h
      subst h
      exact .inl ⟨.inl hcurrent, rfl⟩
    | some c =>
      obtain ⟨rest, out, dropped⟩ := c
      simp only [hsegment, hcurrent] at h
      cases Text.scans rest with
      | plain hplain =>
        simp [Text.nextPlaceholder_of_not_mem hplain] at h
        subst h
        exact .inl ⟨.inr rfl, rfl⟩
      | unsupported hplain hnext htokens => simp [hnext] at h
      | @hole plain after specifier hplain hnext htokens later =>
        simp only [hnext, Text.slice?_prefix, Option.bind_eq_bind, Option.bind_some] at h
        cases harg : args[s.cursor]? with
        | none => simp [harg] at h
        | some arg =>
          have hcursor := (List.getElem?_eq_some_iff.mp harg).1
          simp only [harg] at h
          cases haccept : OpenSegment.accept (segment.isStrict policy) (s.cursor + 1)
              ⟨plain ++ (specifier.text ++ after), out, dropped⟩ plain
              (specifier.convert e arg) with
          | error cause => simp [haccept] at h
          | ok written =>
            simp [haccept, Text.sliceFrom?_placeholder] at h
            subst h
            exact .inr ⟨rfl, _, _, hcurrent, rfl,
              Text.passesOne_placeholder hplain specifier after, hcursor, rfl⟩

/-- **No more arguments are consumed than there are.** -/
theorem cursor_le_of_reaches {s : Filling} (h : Reaches (turn e policy args segments) initial s) :
    s.cursor ≤ args.length := by
  refine h.invariant (P := fun s => s.cursor ≤ args.length) (Nat.zero_le _) ?_
  intro s s' hturn hle
  obtain ⟨-, hsame⟩ | ⟨-, -, -, -, -, -, hlt, hnext⟩ := advances_of_turn e policy args hturn
  · rw [hsame]
    exact hle
  · rw [hnext]
    exact hlt

end Turns

end Loop

end Filling

/-! ## The three loops -/

/-- **No template can make a loop fail or go on for ever.**  A slice has an answer just where it is
safe, and then it is the bytes between its ends.  With byte positions and slices only, the next
placeholder is always found, and each of the three loops ends with the result that the functions on
characters and tokens give; whatever state a loop comes to, its turn there has an answer, so every
slice that it takes is safe.  A turn that goes on within a segment passes exactly one question mark,
and at least one byte; in a build it consumes one argument.  The arguments that have not been
consumed are always those behind the cursor, which never exceeds their number. -/
theorem loops_never_fail (e : Escaper) (policy : SkipPolicy) (args : List Argument)
    (t : Template) :
    (∀ (u : Text) (start stop : Nat), (u.slice? start stop).isSome = true ↔
      start ≤ stop ∧ stop ≤ byteLength u ∧ isBoundary u start = true ∧ isBoundary u stop = true) ∧
    (∀ (u : Text) (start stop : Nat) (slice : Text), u.slice? start stop = some slice →
      bytes slice = ((bytes u).take stop).drop start) ∧
    (∀ u : Text, (nextPlaceholder u).isSome = true) ∧
    (Ends (Splitting.turn t.source) .initial (Segment.split t.source) ∧
      ∀ s, Reaches (Splitting.turn t.source) .initial s →
        (Splitting.turn t.source s).isSome = true) ∧
    (Ends (Listing.turn t.segments) .initial (Placeholder.ofSegments 0 t.segments) ∧
      ∀ s, Reaches (Listing.turn t.segments) .initial s →
        (Listing.turn t.segments s).isSome = true ∧
        ∀ s', Listing.turn t.segments s = some (.again s') → Listing.Advances t.segments s s') ∧
    Ends (Filling.turn e policy args t.segments) .initial (t.fill e policy args) ∧
      ∀ s, Reaches (Filling.turn e policy args t.segments) .initial s →
        (Filling.turn e policy args t.segments s).isSome = true ∧
        s.cursor + (Supply.after args s.cursor).unread.length = args.length ∧
        ∀ s', Filling.turn e policy args t.segments s = some (.again s') →
          Filling.Advances args s s' := by
  refine ⟨fun u start stop => Text.isSome_slice?_iff,
    fun u start stop slice => Text.bytes_of_slice?, Text.isSome_nextPlaceholder, ?_, ?_, ?_⟩
  · exact ⟨Splitting.ends t.source, fun s hs => (Splitting.ends t.source).isSome_turn hs⟩
  · refine ⟨Listing.ends t.segments, fun s hs => ?_⟩
    exact ⟨(Listing.ends t.segments).isSome_turn hs, fun s' => Listing.advances_of_turn⟩
  · refine ⟨Filling.ends e policy args t, fun s hs => ?_⟩
    have hcursor := Filling.cursor_le_of_reaches e policy args hs
    refine ⟨(Filling.ends e policy args t).isSome_turn hs, ?_, fun s' => ?_⟩
    · rw [Supply.after, List.length_drop]
      omega
    · exact Filling.advances_of_turn e policy args

/-- In a template whose characters take up to three bytes, the loops find a block and three
placeholders, and a build with three arguments comes to its end. -/
theorem loops_between_long_characters :
    Ends (Splitting.turn "ä?{€?d}?#".toList) .initial
      (.ok [⟨"ä?".toList, .always, 0⟩, ⟨"€?d".toList, .block, 4⟩, ⟨"?#".toList, .always, 10⟩]) ∧
    Ends (Listing.turn [⟨"ä?".toList, .always, 0⟩, ⟨"€?d".toList, .block, 4⟩,
        ⟨"?#".toList, .always, 10⟩]) .initial
      (.ok [⟨0, 2, .escaped, false⟩, ⟨1, 7, .int, true⟩, ⟨2, 10, .column, false⟩]) ∧
    Ends (Filling.turn Dialect.mysql.escaper .dropSegment [.int 1, .skip, .text "é".toList]
        [⟨"ä?".toList, .always, 0⟩, ⟨"€?d".toList, .block, 4⟩, ⟨"?#".toList, .always, 10⟩])
      .initial (.ok "ä1\x60é\x60".toList) := by
  have hloops := loops_never_fail Dialect.mysql.escaper .dropSegment
    [.int 1, .skip, .text "é".toList]
    ⟨"ä?{€?d}?#".toList, [⟨"ä?".toList, .always, 0⟩, ⟨"€?d".toList, .block, 4⟩,
      ⟨"?#".toList, .always, 10⟩]⟩
  obtain ⟨-, -, -, ⟨hsplitting, -⟩, ⟨hlisting, -⟩, hfilling, -⟩ := hloops
  exact ⟨hsplitting, hlisting, hfilling⟩

end QueryTemplate
