import Mathlib.Data.List.Forall2
import QueryTemplate.Proofs.Diagnosis

/-!
# The strict policy refines the default

A configuration may refuse a skip that stands outside of every block, or drop the segment in which
it stands.  Builds under the two policies hand out the same arguments to the same question marks, so
they complain alike but for one thing: under the strict policy, a skip outside of blocks is a
complaint of its own (`Question.complaint?_of_skipsOutside`).

So what decides between the two is whether the build comes upon such a skip before anything else
stops it (`Question.FirstSkipOutside`).  If it does, the strict build fails there, whatever the
other build makes of the template; if it does not, the two builds have the same outcome.  A strict
build that succeeds has therefore dropped blocks only: no text of the template outside of blocks is
missing from the query (`Templater.build_strict_refines`).
-/

namespace QueryTemplate

namespace Question
variable {e : Escaper} {args : List Argument} {position : Nat}

/-- A question mark stands outside of blocks, and its argument halts with a skip. -/
def SkipsOutside (e : Escaper) (q : Question) (arg : Argument) : Prop :=
  q.kind = .always ∧ q.skips e arg = true

instance (e : Escaper) (q : Question) (arg : Argument) : Decidable (q.SkipsOutside e arg) :=
  inferInstanceAs (Decidable (q.kind = .always ∧ q.skips e arg = true))

/-- A question mark demands a known conversion, and its argument has no fault in it. -/
def Passes (e : Escaper) (q : Question) (arg : Argument) : Prop :=
  ∃ s, q.demand = .ok s ∧ ∀ f, s.convert e arg ≠ .error (.fault f)

/-- **A build comes upon a skip outside of blocks** at the question mark with an index, and upon
nothing before it that stops the build. -/
structure FirstSkipOutside (e : Escaper) (args : List Argument) (questions : List Question)
    (i : Nat) : Prop where
  /-- The question mark stands outside of blocks, and its argument halts with a skip. -/
  skips : ∃ q arg, questions[i]? = some q ∧ args[i]? = some arg ∧ q.SkipsOutside e arg
  /-- Those before it have their arguments and can take them, and if an argument is a skip, then it
  stands in a block. -/
  passes : ∀ j, j < i → ∃ q arg, questions[j]? = some q ∧ args[j]? = some arg ∧
    q.Passes e arg ∧ ¬ q.SkipsOutside e arg

/-! ## One question mark under both policies -/

theorem complaint?_of_skipsOutside {q : Question} {arg : Argument}
    (harg : args[position]? = some arg) (h : q.SkipsOutside e arg) :
    q.complaint? .error (replies e args) position = some (.skipOutsideBlock (position + 1)) := by
  obtain ⟨hkind, hskips⟩ := h
  obtain ⟨s, hs, hconvert⟩ := skips_eq_true_iff.mp hskips
  have hreply : replies e args position s = some (.error .skip) := by
    rw [replies, harg, Option.map_some, hconvert]
  unfold complaint?
  rw [hs]
  dsimp only
  rw [hreply]
  exact if_pos ⟨hkind, rfl⟩

/-- Where no skip stands outside of blocks, the policy does not matter. -/
theorem complaint?_strict_eq {q : Question}
    (h : ∀ arg, args[position]? = some arg → ¬ q.SkipsOutside e arg) :
    q.complaint? .error (replies e args) position =
      q.complaint? .dropSegment (replies e args) position := by
  unfold complaint?
  cases hs : q.demand with
  | error next => rfl
  | ok s =>
    dsimp only
    cases hreply : replies e args position s with
    | none => rfl
    | some outcome =>
      obtain ⟨arg, harg, rfl⟩ := Option.map_eq_some_iff.mp hreply
      cases hconvert : s.convert e arg with
      | ok text => rfl
      | error halt =>
        cases halt with
        | fault f => rfl
        | skip =>
          have hkind : q.kind ≠ .always := fun hkind =>
            h arg harg ⟨hkind, skips_eq_true_iff.mpr ⟨s, hs, hconvert⟩⟩
          dsimp only
          rw [if_neg fun hboth => hkind hboth.1, if_neg fun hboth => hkind hboth.1]

/-- A question mark has no complaint under the default policy if it has its argument and can take
it. -/
theorem complaint?_dropSegment_eq_none_iff {q : Question} :
    q.complaint? .dropSegment (replies e args) position = none ↔
      ∃ arg, args[position]? = some arg ∧ q.Passes e arg := by
  unfold complaint? Passes replies
  cases hs : q.demand with
  | error next => simp
  | ok s =>
    cases harg : args[position]? with
    | none => simp
    | some arg =>
      rcases hconvert : s.convert e arg with (_ | f) | text <;> simp [hconvert]

/-- A question mark has no complaint under the strict policy if moreover the argument is no skip
outside of blocks. -/
theorem complaint?_strict_eq_none_iff {q : Question} :
    q.complaint? .error (replies e args) position = none ↔
      ∃ arg, args[position]? = some arg ∧ q.Passes e arg ∧ ¬ q.SkipsOutside e arg := by
  by_cases h : ∃ arg, args[position]? = some arg ∧ q.SkipsOutside e arg
  · obtain ⟨arg, harg, hskips⟩ := h
    rw [complaint?_of_skipsOutside harg hskips]
    refine ⟨fun hnone => (by cases hnone), ?_⟩
    rintro ⟨arg', harg', -, hno⟩
    rw [harg] at harg'
    cases harg'
    exact absurd hskips hno
  · have hno : ∀ arg, args[position]? = some arg → ¬ q.SkipsOutside e arg :=
      fun arg harg hskips => h ⟨arg, harg, hskips⟩
    rw [complaint?_strict_eq hno, complaint?_dropSegment_eq_none_iff]
    exact exists_congr fun arg =>
      ⟨fun ⟨harg, hpasses⟩ => ⟨harg, hpasses, hno arg harg⟩,
        fun ⟨harg, hpasses, _⟩ => ⟨harg, hpasses⟩⟩

/-! ## All question marks under both policies -/

variable {questions : List Question} {i : Nat}

theorem complaintAt?_of_getElem? {policy : SkipPolicy} {r : Replies} {q : Question}
    (h : questions[i]? = some q) :
    complaintAt? policy r 0 questions i = q.complaint? policy r i := by
  rw [complaintAt?, h, Option.bind_some, Nat.zero_add]

/-- **The strict build fails at the first skip outside of blocks.** -/
theorem FirstSkipOutside.firstComplaint?_eq (h : FirstSkipOutside e args questions i) :
    firstComplaint? .error (replies e args) 0 questions = some (.skipOutsideBlock (i + 1)) := by
  obtain ⟨q, arg, hq, harg, hskips⟩ := h.skips
  refine firstComplaint?_eq_some (i := i) ?_ fun j hj => ?_
  · rw [complaintAt?_of_getElem? hq, complaint?_of_skipsOutside harg hskips]
  · obtain ⟨q', arg', hq', harg', hpasses, hno⟩ := h.passes j hj
    rw [complaintAt?_of_getElem? hq']
    exact complaint?_strict_eq_none_iff.mpr ⟨arg', harg', hpasses, hno⟩

/-- A question mark without a complaint under the strict policy has none under the default. -/
theorem complaintAt?_dropSegment_eq_none
    (h : complaintAt? .error (replies e args) 0 questions i = none) :
    complaintAt? .dropSegment (replies e args) 0 questions i = none := by
  cases hq : questions[i]? with
  | none => rw [complaintAt?, hq, Option.bind_none]
  | some q =>
    rw [complaintAt?_of_getElem? hq] at h ⊢
    obtain ⟨arg, harg, hpasses, -⟩ := complaint?_strict_eq_none_iff.mp h
    exact complaint?_dropSegment_eq_none_iff.mpr ⟨arg, harg, hpasses⟩

/-- **Without a first skip outside of blocks, the policy does not matter.** -/
theorem firstComplaint?_strict_eq (h : ∀ i, ¬ FirstSkipOutside e args questions i) :
    firstComplaint? .error (replies e args) 0 questions =
      firstComplaint? .dropSegment (replies e args) 0 questions := by
  symm
  cases hfirst : firstComplaint? .error (replies e args) 0 questions with
  | none =>
    have hnone := firstComplaint?_eq_none_iff.mp hfirst
    exact firstComplaint?_eq_none_iff.mpr fun i => complaintAt?_dropSegment_eq_none (hnone i)
  | some cause =>
    obtain ⟨i, hcause, hbefore⟩ := exists_of_firstComplaint?_eq_some hfirst
    refine firstComplaint?_eq_some (i := i) ?_ fun j hj =>
      complaintAt?_dropSegment_eq_none (hbefore j hj)
    obtain ⟨q, hq, -⟩ := Option.bind_eq_some_iff.mp hcause
    have hi : i < questions.length := (List.getElem?_eq_some_iff.mp hq).1
    -- if the complaint were about a skip outside of blocks, that skip would be the first
    have hno : ∀ arg, args[i]? = some arg → ¬ q.SkipsOutside e arg := by
      refine fun arg harg hskips => h i ⟨⟨q, arg, hq, harg, hskips⟩, fun j hj => ?_⟩
      have hq' := List.getElem?_eq_getElem (Nat.lt_trans hj hi)
      have hnone := hbefore j hj
      rw [complaintAt?_of_getElem? hq'] at hnone
      obtain ⟨arg', harg', hpasses⟩ := complaint?_strict_eq_none_iff.mp hnone
      exact ⟨_, arg', hq', harg', hpasses⟩
    rw [complaintAt?_of_getElem? hq] at hcause ⊢
    rw [← complaint?_strict_eq hno, hcause]

end Question

/-! ## What the strict policy keeps -/

/-- What a segment may become where it loses no text: its template text with one text inserted for
each question mark; or nothing, but only if it is a block. -/
def Segment.LosesNoText (s : Segment) : Option Text → Prop
  | some text => ∃ inserted, inserted.length = s.questions.length ∧
      text = Token.interleaved s.tokens inserted
  | none => s.kind = .block

section Kept
variable {r : Replies} {position : Nat}

/-- Outside of blocks, the strict policy complains of everything that is not a text. -/
theorem Question.exists_reply_of_strict {s : Specifier}
    (h : complaint? .error r position ⟨.ok s, .always⟩ = none) :
    ∃ text, r position s = some (.ok text) := by
  unfold complaint? at h
  dsimp only at h
  rcases hreply : r position s with _ | (_ | f) | text <;> simp [hreply] at h
  exact ⟨text, rfl⟩

/-- Tokens outside of blocks become a text, if the strict policy has no complaint. -/
theorem Token.exists_filled?_of_strict {tokens : List Token}
    (h : Question.firstComplaint? .error r position ((demands tokens).map (⟨·, .always⟩)) = none) :
    ∃ text, filled? r position tokens = some text := by
  induction tokens generalizing position with
  | nil => exact ⟨[], rfl⟩
  | cons token rest ih =>
    cases token with
    | unknown next => cases h
    | literal c =>
      obtain ⟨text, htext⟩ := ih h
      exact ⟨[c] ++ text, by rw [filled?, htext, Option.map_some]⟩
    | hole s =>
      rw [demands_hole, List.map_cons, Question.firstComplaint?_cons,
        Option.or_eq_none_iff] at h
      obtain ⟨here, hhere⟩ := Question.exists_reply_of_strict h.1
      obtain ⟨text, htext⟩ := ih h.2
      exact ⟨here ++ text, by rw [filled?, hhere, htext]; rfl⟩

theorem Segment.losesNoText_of_strict {s : Segment}
    (h : Question.firstComplaint? .error r position s.questions = none) :
    s.LosesNoText (Token.filled? r position s.tokens) := by
  cases hfilled : Token.filled? r position s.tokens with
  | some text =>
    obtain ⟨inserted, hlength, htext⟩ := Token.exists_interleaved_of_filled? hfilled
    rw [length_demands_tokens] at hlength
    exact ⟨inserted, hlength, htext⟩
  | none =>
    obtain ⟨source, kind, offset⟩ := s
    cases kind with
    | block => rfl
    | always =>
      rw [Segment.questions, ← Token.demands_ofText] at h
      obtain ⟨text, htext⟩ := Token.exists_filled?_of_strict h
      rw [Segment.tokens, htext] at hfilled
      cases hfilled

/-- **The strict policy drops blocks only.** -/
theorem Segment.forall₂_losesNoText {segments : List Segment}
    (h : Question.firstComplaint? .error r position (Question.ofSegments segments) = none) :
    List.Forall₂ LosesNoText segments (fillings r position segments) := by
  induction segments generalizing position with
  | nil => exact .nil
  | cons s later ih =>
    rw [Question.ofSegments_cons, Question.firstComplaint?_append, Option.or_eq_none_iff] at h
    exact .cons (losesNoText_of_strict h.1) (ih h.2)

end Kept

/-! ## Builds -/

namespace Templater
variable (e : Escaper) (config : Config) {source : Text} {args : List Argument}

/-- The templater that refuses skips outside of blocks. -/
def strict : Templater :=
  ⟨e, config.withSkipOutsideBlock .error⟩

/-- The templater that drops the segments of skips outside of blocks. -/
def lenient : Templater :=
  ⟨e, config.withSkipOutsideBlock .dropSegment⟩

theorem strict_build_eq_error {i : Nat}
    (h : Question.FirstSkipOutside e args source.questions i) :
    (strict e config).build source args = .error ⟨source, .skipOutsideBlock (i + 1)⟩ := by
  cases hsplit : Segment.split source with
  | error b =>
    obtain ⟨q, -, hq, -⟩ := h.skips
    rw [Text.questions, Text.segments, hsplit] at hq
    cases hq
  | ok segments =>
    rw [Text.questions, Text.segments_of_split hsplit] at h
    rw [build_of_split _ args hsplit, Template.fill_eq]
    dsimp only [strict, Config.withSkipOutsideBlock]
    rw [h.firstComplaint?_eq]
    rfl

theorem strict_build_eq_lenient
    (h : ∀ i, ¬ Question.FirstSkipOutside e args source.questions i) :
    (strict e config).build source args = (lenient e config).build source args := by
  cases hsplit : Segment.split source with
  | error b => rw [build_of_split_error _ args hsplit, build_of_split_error _ args hsplit]
  | ok segments =>
    rw [Text.questions, Text.segments_of_split hsplit] at h
    rw [build_of_split _ args hsplit, build_of_split _ args hsplit, Template.fill_eq,
      Template.fill_eq]
    dsimp only [strict, lenient, Config.withSkipOutsideBlock]
    rw [Question.firstComplaint?_strict_eq h]

/-- A query that the strict build gives lacks no text of the template outside of blocks. -/
theorem losesNoText_of_strict_build {sql : Text}
    (h : (strict e config).build source args = .ok sql) :
    ∃ segments filled supply, Segment.split source = .ok segments ∧
      fillAll e .error segments (.start args) = .ok (filled, supply) ∧
      List.Forall₂ Segment.LosesNoText segments filled ∧ (filled.filterMap id).flatten = sql := by
  obtain ⟨segments, hsplit, hfirst, -, hkept⟩ := (build_eq_ok_iff _ args).mp h
  have hnone : Question.firstComplaint? .error (replies e args) 0 (Question.ofSegments segments) =
      none := hfirst
  have hfill : fillAll e .error segments (.start args) =
      .ok (Segment.fillings (replies e args) 0 segments,
        Supply.after args (0 + (Question.ofSegments segments).length)) := by
    rw [Supply.start_eq_after, fillAll_eq, hnone, Cause.orElse_none]
  exact ⟨segments, _, _, hsplit, hfill, Segment.forall₂_losesNoText hnone, hkept⟩

/-- **The strict policy refines the default.**  If a build comes upon a skip outside of blocks, then
under the strict policy it fails there, whatever it does under the default.  If it comes upon none,
then the two builds have the same outcome.  So a query that the strict build gives is also what the
other gives; and it is what the build filled the segments of the template with, one after the other,
where nothing outside of blocks is missing and nothing that is kept has lost any template text. -/
theorem build_strict_refines (source : Text) (args : List Argument) :
    (∀ i, Question.FirstSkipOutside e args source.questions i →
      (strict e config).build source args = .error ⟨source, .skipOutsideBlock (i + 1)⟩) ∧
    ((∀ i, ¬ Question.FirstSkipOutside e args source.questions i) →
      (strict e config).build source args = (lenient e config).build source args) ∧
    ∀ sql, (strict e config).build source args = .ok sql →
      (lenient e config).build source args = .ok sql ∧
      ∃ segments filled supply, Segment.split source = .ok segments ∧
        fillAll e .error segments (.start args) = .ok (filled, supply) ∧
        List.Forall₂ Segment.LosesNoText segments filled ∧
        (filled.filterMap id).flatten = sql := by
  refine ⟨fun i => strict_build_eq_error e config, strict_build_eq_lenient e config,
    fun sql hsql => ⟨?_, losesNoText_of_strict_build e config hsql⟩⟩
  have hnone : ∀ i, ¬ Question.FirstSkipOutside e args source.questions i := by
    intro i hfirst
    rw [strict_build_eq_error e config hfirst] at hsql
    cases hsql
  rw [← strict_build_eq_lenient e config hnone, hsql]

/-- A skip in a block is passed over and the one behind the block is refused, where the lenient
build goes on to complain about the argument left over. -/
theorem strict_build_behind_block :
    (strict MySql.escaper .default).build ['a', '{', 'b', '?', 'd', '}', 'c', '?', 'd']
      [.skip, .skip, .null] =
        .error ⟨['a', '{', 'b', '?', 'd', '}', 'c', '?', 'd'], .skipOutsideBlock 2⟩ ∧
    (lenient MySql.escaper .default).build ['a', '{', 'b', '?', 'd', '}', 'c', '?', 'd']
      [.skip, .skip, .null] =
        .error ⟨['a', '{', 'b', '?', 'd', '}', 'c', '?', 'd'], .extraArguments 2 3⟩ := by
  have hfirst : Question.FirstSkipOutside MySql.escaper [.skip, .skip, .null]
      (Text.questions ['a', '{', 'b', '?', 'd', '}', 'c', '?', 'd']) 1 := by
    refine ⟨⟨⟨.ok .int, .always⟩, .skip, rfl, rfl, rfl, rfl⟩, fun j hj => ?_⟩
    cases Nat.lt_one_iff.mp hj
    exact ⟨⟨.ok .int, .block⟩, .skip, rfl, rfl, ⟨.int, rfl, nofun⟩, by decide⟩
  exact ⟨(build_strict_refines MySql.escaper .default _ _).1 1 hfirst, rfl⟩

end Templater

end QueryTemplate
