import QueryTemplate.Proofs.Filling
import QueryTemplate.Proofs.Splitting

/-!
# Templates compose at blocks

A block cuts a template into independent parts.  When a block stands between two templates, the
segments of the whole are those of the first, the block, and those of the second moved to where they
stand now (`Segment.split_around_block`), and where segments stand is of no importance to filling
(`Template.fill_moved`).  And when the segments of a template are taken in two parts, each with its
own arguments, filling the whole is filling the parts one after the other, where the causes found in
the second part count the arguments of the first as well (`Template.fill_append`).

So a build of the whole is the three builds of its parts in sequence
(`Templater.build_around_block`): it succeeds if they all do, its query is theirs joined, and
otherwise it fails for the reason of the first part that fails.
-/

namespace QueryTemplate

namespace Segment

/-! ## What filling makes of moved segments -/

theorem length_questions_consAlways (t : Text) (offset offset' : Nat) :
    (Question.ofSegments (consAlways t offset [])).length =
      (Question.ofSegments [⟨t, .block, offset'⟩]).length := by
  unfold consAlways
  split
  · rename_i hnil
    rw [hnil]
    rfl
  · simp [Segment.questions]

theorem questions_moved (n : Nat) (segments : List Segment) :
    Question.ofSegments (segments.map (moved n)) = Question.ofSegments segments :=
  List.flatMap_map ..

theorem fillings_moved (n : Nat) (r : Replies) (position : Nat) (segments : List Segment) :
    fillings r position (segments.map (moved n)) = fillings r position segments := by
  induction segments generalizing position with
  | nil => rfl
  | cons s later ih => exact congrArg (_ :: ·) (ih _)

end Segment

/-- Where its segments stand is of no importance to filling a template. -/
theorem Template.fill_moved (e : Escaper) (policy : SkipPolicy) (source source' : Text)
    (segments : List Segment) (n : Nat) (args : List Argument) :
    Template.fill e policy ⟨source, segments.map (Segment.moved n)⟩ args =
      Template.fill e policy ⟨source', segments⟩ args := by
  rw [fill_eq, fill_eq]
  dsimp only
  rw [Segment.questions_moved, Segment.fillings_moved]

/-! ## Filling in two parts -/

section Parts
variable (e : Escaper) (policy : SkipPolicy) (first second : List Argument)

theorem replies_append_left {position : Nat} (h : position < first.length) :
    replies e (first ++ second) position = replies e first position := by
  funext s
  rw [replies, replies, List.getElem?_append_left h]

theorem replies_append_right (position : Nat) :
    replies e (first ++ second) (first.length + position) = replies e second position := by
  funext s
  rw [replies, replies, List.getElem?_append_right (Nat.le_add_right ..),
    Nat.add_sub_cancel_left]

variable {r r' : Replies} {n bound : Nat}

theorem Token.filled?_later (h : ∀ i, i < bound → r (n + i) = r' i) {tokens : List Token}
    (position : Nat) (hbound : position + (Token.demands tokens).length ≤ bound) :
    filled? r (n + position) tokens = filled? r' position tokens := by
  induction tokens generalizing position with
  | nil => rfl
  | cons token rest ih =>
    cases token with
    | literal c => rw [filled?, filled?, ih position hbound]
    | unknown next => rfl
    | hole s =>
      rw [Token.demands_hole, List.length_cons] at hbound
      rw [filled?, filled?, h position (by omega), Nat.add_assoc, ih _ (by omega)]

theorem Segment.fillings_later (h : ∀ i, i < bound → r (n + i) = r' i) {segments : List Segment}
    (position : Nat) (hbound : position + (Question.ofSegments segments).length ≤ bound) :
    fillings r (n + position) segments = fillings r' position segments := by
  induction segments generalizing position with
  | nil => rfl
  | cons s later ih =>
    rw [Question.ofSegments_cons, List.length_append] at hbound
    have htokens := s.length_demands_tokens
    rw [fillings, fillings, Token.filled?_later h position (by omega), Nat.add_assoc,
      ih _ (by omega)]

theorem Question.firstComplaint?_later_of_eq (h : ∀ i, i < bound → r (n + i) = r' i)
    {questions : List Question} (position : Nat) (hbound : position + questions.length ≤ bound) :
    firstComplaint? policy r (n + position) questions =
      (firstComplaint? policy r' position questions).map (Cause.later n) := by
  refine firstComplaint?_later fun i q s hq _ => ?_
  have hi := (List.getElem?_eq_some_iff.mp hq).1
  rw [h (position + i) (by omega)]

theorem keptText_append (before after : List (Option Text)) :
    keptText (before ++ after) = keptText before ++ keptText after := by
  rw [keptText, List.filterMap_append, List.flatten_append]
  rfl

/-- **Filling in two parts.**  Where the first arguments are as many as the question marks of the
first segments, those segments are filled with those arguments and the others with the others; the
causes that the others give count the first arguments as well. -/
theorem Template.fill_append {before after : List Segment} (source source₁ source₂ : Text)
    (hcount : first.length = (Question.ofSegments before).length) :
    Template.fill e policy ⟨source, before ++ after⟩ (first ++ second) = do
      let front ← Template.fill e policy ⟨source₁, before⟩ first
      let back ← (Template.fill e policy ⟨source₂, after⟩ second).mapError
        (Cause.later first.length)
      return front ++ back := by
  -- the first question marks get the replies of the first arguments, and those behind them, by
  -- `hcount`, the replies of the second
  have hleft : ∀ i, i < first.length →
      replies e (first ++ second) (0 + i) = replies e first i := by
    intro i hi
    rw [Nat.zero_add, replies_append_left e first second hi]
  have hright : ∀ i, i < (Question.ofSegments after).length →
      replies e (first ++ second) (first.length + i) = replies e second i :=
    fun i _ => replies_append_right e first second i
  have hcomplaintLeft : Question.firstComplaint? policy (replies e (first ++ second)) 0
      (Question.ofSegments before) =
        Question.firstComplaint? policy (replies e first) 0 (Question.ofSegments before) := by
    refine Question.firstComplaint?_congr fun i q s hq _ => ?_
    have hi := (List.getElem?_eq_some_iff.mp hq).1
    rw [hleft i (by omega), Nat.zero_add]
  have hcomplaintRight : Question.firstComplaint? policy (replies e (first ++ second)) first.length
      (Question.ofSegments after) =
        (Question.firstComplaint? policy (replies e second) 0 (Question.ofSegments after)).map
          (Cause.later first.length) :=
    Question.firstComplaint?_later_of_eq policy hright 0 (by omega)
  have htextLeft : Segment.fillings (replies e (first ++ second)) 0 before =
      Segment.fillings (replies e first) 0 before :=
    Segment.fillings_later hleft 0 (by omega)
  have htextRight : Segment.fillings (replies e (first ++ second)) first.length after =
      Segment.fillings (replies e second) 0 after :=
    Segment.fillings_later hright 0 (by omega)
  rw [fill_eq, fill_eq, fill_eq]
  dsimp only
  rw [Question.ofSegments_append, Question.firstComplaint?_append, Segment.fillings_append,
    keptText_append, List.length_append, List.length_append, ← hcount, Nat.zero_add,
    hcomplaintLeft, hcomplaintRight, htextLeft, htextRight, if_pos (Nat.le_refl _)]
  cases Question.firstComplaint? policy (replies e first) 0 (Question.ofSegments before) with
  | some cause => rfl
  | none =>
    cases Question.firstComplaint? policy (replies e second) 0 (Question.ofSegments after) with
    | some cause => rfl
    | none =>
      rw [Option.map_none, Option.or_none, Option.elim_none, Option.elim_none, Option.elim_none]
      -- arguments left over by the whole are left over by the second part
      by_cases hle : second.length ≤ (Question.ofSegments after).length
      · rw [if_pos (by omega), if_pos hle]
        rfl
      · rw [if_neg (by omega), if_neg hle]
        rfl

/-- **Filling around a block**, in three parts. -/
theorem Template.fill_around_block {before after : List Segment} {inner : Text} {offset n : Nat}
    {third : List Argument} (source source₁ source₂ source₃ : Text)
    (hfirst : first.length = (Question.ofSegments before).length)
    (hsecond : second.length = (Question.ofSegments [⟨inner, .block, 1⟩]).length) :
    Template.fill e policy
        ⟨source, before ++ ⟨inner, .block, offset⟩ :: after.map (Segment.moved n)⟩
        (first ++ (second ++ third)) = do
      let front ← Template.fill e policy ⟨source₁, before⟩ first
      let middle ← (Template.fill e policy ⟨source₂, [⟨inner, .block, 1⟩]⟩ second).mapError
        (Cause.later first.length)
      let back ← (Template.fill e policy ⟨source₃, after⟩ third).mapError
        (Cause.later (first.length + second.length))
      return front ++ middle ++ back := by
  have hblock : Template.fill e policy ⟨source₂, [⟨inner, .block, offset⟩]⟩ second =
      Template.fill e policy ⟨source₂, [⟨inner, .block, 1⟩]⟩ second := rfl
  have hrest : Template.fill e policy
      ⟨source, ⟨inner, .block, offset⟩ :: after.map (Segment.moved n)⟩ (second ++ third) = do
        let middle ← Template.fill e policy ⟨source₂, [⟨inner, .block, 1⟩]⟩ second
        let back ← (Template.fill e policy ⟨source₃, after⟩ third).mapError
          (Cause.later second.length)
        return middle ++ back := by
    rw [← hblock, ← fill_moved e policy source₃ source₃ after n]
    exact @fill_append e policy second third [⟨inner, .block, offset⟩] _ _ _ _ hsecond
  rw [fill_append e policy first (second ++ third) source source₁ source hfirst, hrest]
  cases Template.fill e policy ⟨source₁, before⟩ first with
  | error cause => rfl
  | ok front =>
    cases Template.fill e policy ⟨source₂, [⟨inner, .block, 1⟩]⟩ second with
    | error cause => rfl
    | ok middle =>
      cases Template.fill e policy ⟨source₃, after⟩ third with
      | error cause => exact congrArg Except.error (Cause.later_later ..)
      | ok back => exact congrArg Except.ok (List.append_assoc ..).symm

end Parts

/-! ## A block alone -/

section Block
variable {e : Escaper} {r : Replies} {args : List Argument} {inner : Text}

/-- Where a skip may drop any segment, it does not matter what kind a segment is of. -/
theorem Question.firstComplaint?_dropSegment (position : Nat) (demands : List Demand)
    (kind kind' : SegmentKind) :
    firstComplaint? .dropSegment r position (demands.map (⟨·, kind⟩)) =
      firstComplaint? .dropSegment r position (demands.map (⟨·, kind'⟩)) := by
  induction demands generalizing position with
  | nil => rfl
  | cons d later ih =>
    have hhead : complaint? .dropSegment r position ⟨d, kind⟩ =
        complaint? .dropSegment r position ⟨d, kind'⟩ := by
      simp [complaint?]
    rw [List.map_cons, List.map_cons, firstComplaint?_cons, firstComplaint?_cons, hhead, ih]

/-- Under a policy that lets a skip drop any segment, a text is filled as a block is. -/
theorem Template.fill_block_dropSegment (source source' : Text) (offset : Nat) :
    Template.fill e .dropSegment ⟨source, [⟨inner, .block, offset⟩]⟩ args =
      Template.fill e .dropSegment ⟨source', Segment.consAlways inner 0 []⟩ args := by
  by_cases hnil : inner = []
  · subst hnil
    rfl
  · rw [Segment.consAlways, if_neg hnil, fill_eq, fill_eq]
    have hcomplaint := Question.firstComplaint?_dropSegment (r := replies e args) 0
      (Text.demands inner) .block .always
    simp only [Question.ofSegments_cons, Question.ofSegments_nil, List.append_nil,
      Segment.questions, List.length_map, hcomplaint]
    rfl

/-- A block that a skip drops gives no text. -/
theorem Template.fill_block_eq_nil {policy : SkipPolicy} {source out : Text} {offset i : Nat}
    {s : Specifier} (hdemand : (Text.demands inner)[i]? = some (.ok s))
    (hskip : replies e args i s = some (.error .skip))
    (hfill : Template.fill e policy ⟨source, [⟨inner, .block, offset⟩]⟩ args = .ok out) :
    out = [] := by
  obtain ⟨-, -, hout⟩ := (Template.fill_eq_ok_iff e policy args _ _).mp hfill
  rw [← Token.demands_ofText] at hdemand
  rw [Segment.fillings, Segment.tokens,
    Token.filled?_eq_none hdemand (by rwa [Nat.zero_add])] at hout
  exact hout.symm

end Block

/-! ## Builds -/

theorem Template.exists_segments_of_placeholderCount {source : Text} {n : Nat}
    (h : (Template.parse source).bind Template.placeholderCount = .ok n) :
    ∃ segments, Segment.split source = .ok segments ∧
      n = (Question.ofSegments segments).length := by
  cases hparse : Template.parse source with
  | error e =>
    rw [hparse] at h
    cases h
  | ok template =>
    obtain ⟨segments, hsplit, rfl⟩ := Template.parse_eq_ok_iff.mp hparse
    rw [hparse] at h
    obtain ⟨found, hfound, hlength⟩ := map_eq_ok_iff.mp h
    have hquestions := (Placeholder.ofSegments_eq_ok (failing_eq_ok_iff.mp hfound)).1
    exact ⟨segments, hsplit, by rw [hquestions, List.length_map, hlength]⟩

namespace Templater

theorem cause_build_of_split {t : Templater} {source : Text} {segments : List Segment}
    (args : List Argument) (h : Segment.split source = .ok segments) :
    (t.build source args).mapError (·.cause) =
      Template.fill t.escaper t.config.skipOutsideBlock ⟨source, segments⟩ args := by
  rw [t.build_of_split args h, Template.failing]
  cases Template.fill t.escaper t.config.skipOutsideBlock ⟨source, segments⟩ args <;> rfl

theorem later_build_of_split {t : Templater} {source : Text} {segments : List Segment}
    (args : List Argument) (n : Nat) (h : Segment.split source = .ok segments) :
    (t.build source args).mapError (·.cause.later n) =
      (Template.fill t.escaper t.config.skipOutsideBlock ⟨source, segments⟩ args).mapError
        (Cause.later n) := by
  rw [← cause_build_of_split args h]
  cases t.build source args <;> rfl

/-- **Templates compose at blocks.**  Let a block stand between two templates, and let each of the
three parts have as many arguments as placeholders.  Building the whole is building the parts one
after the other: it gives the three queries joined, or else the cause of the first part that fails,
which counts the arguments of the parts before it as well.  A block that receives a skip gives no
text, whatever its other arguments are; and where a skip may drop any segment, a block alone is
built as its interior is. -/
theorem build_around_block (t : Templater) {front inner back : Text}
    {frontArgs innerArgs backArgs : List Argument}
    (hfront : (Template.parse front).bind Template.placeholderCount = .ok frontArgs.length)
    (hinner : (Template.parse inner).bind Template.placeholderCount = .ok innerArgs.length)
    (hback : (Template.parse back).bind Template.placeholderCount = .ok backArgs.length)
    (hopen : '{' ∉ inner) (hclose : '}' ∉ inner) :
    let block := '{' :: (inner ++ ['}'])
    (t.build (front ++ block ++ back) (frontArgs ++ innerArgs ++ backArgs) =
      Template.failing (front ++ block ++ back) do
        let first ← (t.build front frontArgs).mapError (·.cause)
        let middle ← (t.build block innerArgs).mapError (·.cause.later frontArgs.length)
        let last ← (t.build back backArgs).mapError
          (·.cause.later (frontArgs.length + innerArgs.length))
        return first ++ middle ++ last) ∧
    (∀ i s, (Text.demands inner)[i]? = some (.ok s) →
      replies t.escaper innerArgs i s = some (.error .skip) →
      ∀ middle, t.build block innerArgs = .ok middle → middle = []) ∧
    (t.config.skipOutsideBlock = .dropSegment →
      (t.build block innerArgs).mapError (·.cause) =
        (t.build inner innerArgs).mapError (·.cause)) := by
  intro block
  obtain ⟨before, hbefore, hfrontCount⟩ := Template.exists_segments_of_placeholderCount hfront
  obtain ⟨after, hafter, -⟩ := Template.exists_segments_of_placeholderCount hback
  obtain ⟨interior, hinterior, hinnerCount⟩ :=
    Template.exists_segments_of_placeholderCount hinner
  -- alone, the interior is one top-level segment, or none where it is empty
  have hplain := Segment.split_without_braces hopen hclose
  cases hinterior.symm.trans hplain
  have hblock : Segment.split block = .ok [⟨inner, .block, 1⟩] :=
    @Segment.split_around_block [] inner [] [] [] rfl hopen hclose rfl
  refine ⟨?_, fun i s hdemand hskip middle hmiddle => ?_, fun hpolicy => ?_⟩
  · have hwhole := Segment.split_around_block hbefore hopen hclose hafter
    have htext : front ++ block ++ back = front ++ '{' :: (inner ++ '}' :: back) := by
      simp [block]
    rw [Segment.length_questions_consAlways inner 0 1] at hinnerCount
    rw [cause_build_of_split _ hbefore, later_build_of_split _ _ hblock,
      later_build_of_split _ _ hafter, htext, t.build_of_split _ hwhole, List.append_assoc,
      Template.fill_around_block _ _ _ _ _ front block back hfrontCount hinnerCount]
  · rw [t.build_of_split _ hblock, Template.failing_eq_ok_iff] at hmiddle
    exact Template.fill_block_eq_nil hdemand hskip hmiddle
  · rw [cause_build_of_split _ hblock, cause_build_of_split _ hplain, hpolicy]
    exact Template.fill_block_dropSegment block inner 1

/-- A block whose first argument is a skip, between two templates: the argument behind the block
reaches the placeholder behind the block. -/
theorem build_around_skipped_block :
    (Template.parse ['a', '?', 'd']).bind Template.placeholderCount = .ok 1 ∧
    (Template.parse ['?', 'd', ',', '?']).bind Template.placeholderCount = .ok 2 ∧
    (Template.parse ['?', 'd', 'é']).bind Template.placeholderCount = .ok 1 ∧
    '{' ∉ ['?', 'd', ',', '?'] ∧ '}' ∉ ['?', 'd', ',', '?'] ∧
    (forDialect .mysql).build
      (['a', '?', 'd'] ++ ['{', '?', 'd', ',', '?', '}'] ++ ['?', 'd', 'é'])
      ([.int 7] ++ [.skip, .null] ++ [.text ['8']]) = .ok ['a', '7', '8', 'é'] := by
  refine ⟨rfl, rfl, rfl, by decide, by decide, ?_⟩
  have h := (@build_around_block (forDialect .mysql) ['a', '?', 'd'] ['?', 'd', ',', '?']
    ['?', 'd', 'é'] [.int 7] [.skip, .null] [.text ['8']] rfl rfl rfl (by decide)
    (by decide)).1
  exact h.trans rfl

end Templater

end QueryTemplate
