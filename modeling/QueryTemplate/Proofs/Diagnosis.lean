import QueryTemplate.Proofs.Filling

/-!
# Which error a build reports

A build can fail for many reasons at once.  The one it reports is determined by the question marks
of the template, numbered from left to right across all segments: it is the complaint of the
leftmost one that has a complaint, whatever stands behind it and whichever blocks are dropped.  Only
where no question mark complains do left-over arguments matter; and where there are none either, the
build succeeds (`Templater.build_eq_leftmost_complaint`).

Malformed blocks come before all of this, for then there are no segments to look at.
-/

namespace QueryTemplate

namespace Question

/-- The complaint of the question mark at an index of a list, if there is one and it has one.
`position` is that of the first question mark of the list. -/
def complaintAt? (policy : SkipPolicy) (r : Replies) (position : Nat) (questions : List Question)
    (index : Nat) : Option Cause :=
  questions[index]?.bind fun q => q.complaint? policy r (position + index)

section Leftmost
variable {policy : SkipPolicy} {r : Replies}

theorem complaintAt?_cons_succ (position : Nat) (q : Question) (later : List Question)
    (index : Nat) :
    complaintAt? policy r position (q :: later) (index + 1) =
      complaintAt? policy r (position + 1) later index := by
  rw [complaintAt?, complaintAt?, List.getElem?_cons_succ, Nat.add_assoc, Nat.add_comm 1]

theorem firstComplaint?_eq_none_iff {questions : List Question} {position : Nat} :
    firstComplaint? policy r position questions = none ↔
      ∀ i, complaintAt? policy r position questions i = none := by
  induction questions generalizing position with
  | nil => exact ⟨fun _ _ => rfl, fun _ => rfl⟩
  | cons q later ih =>
    rw [firstComplaint?_cons, Option.or_eq_none_iff, ih]
    constructor
    · rintro ⟨hhead, hlater⟩ i
      cases i with
      | zero => exact hhead
      | succ i => rw [complaintAt?_cons_succ, hlater]
    · intro hnone
      refine ⟨hnone 0, fun i => ?_⟩
      rw [← complaintAt?_cons_succ position q, hnone]

theorem firstComplaint?_eq_some {questions : List Question} {position i : Nat} {cause : Cause}
    (hcause : complaintAt? policy r position questions i = some cause)
    (hbefore : ∀ j, j < i → complaintAt? policy r position questions j = none) :
    firstComplaint? policy r position questions = some cause := by
  -- the list and the index shrink together; until the index is zero, the head has no complaint
  induction questions generalizing position i with
  | nil => cases hcause
  | cons q later ih =>
    cases i with
    | zero =>
      have hhead : q.complaint? policy r position = some cause := hcause
      rw [firstComplaint?_cons, hhead, Option.some_or]
    | succ i =>
      have hhead : q.complaint? policy r position = none := hbefore 0 (Nat.zero_lt_succ i)
      rw [firstComplaint?_cons, hhead, Option.none_or]
      rw [complaintAt?_cons_succ] at hcause
      refine ih hcause fun j hj => ?_
      rw [← complaintAt?_cons_succ position q]
      exact hbefore (j + 1) (Nat.succ_lt_succ hj)

/-- The first complaint is that of some question mark, and those before it have none. -/
theorem exists_of_firstComplaint?_eq_some {questions : List Question} {position : Nat}
    {cause : Cause} (h : firstComplaint? policy r position questions = some cause) :
    ∃ i, complaintAt? policy r position questions i = some cause ∧
      ∀ j, j < i → complaintAt? policy r position questions j = none := by
  induction questions generalizing position with
  | nil => cases h
  | cons q later ih =>
    rw [firstComplaint?_cons, Option.or_eq_some_iff] at h
    rcases h with hhead | ⟨hhead, hlater⟩
    · exact ⟨0, hhead, nofun⟩
    · obtain ⟨i, hcause, hbefore⟩ := ih hlater
      refine ⟨i + 1, by rw [complaintAt?_cons_succ, hcause], fun j hj => ?_⟩
      cases j with
      | zero => exact hhead
      | succ j => rw [complaintAt?_cons_succ, hbefore j (Nat.lt_of_succ_lt_succ hj)]

end Leftmost

end Question

/-- **Which error a build reports.**  If the blocks are malformed, that is the error, whatever the
arguments.  Otherwise the complaint of the leftmost question mark that has one is the error; so a
complaint makes the build fail wherever it stands, and no skip hides it.  If no question mark
complains, the build fails exactly when there are more arguments than question marks, and then says
how many there are of each. -/
theorem Templater.build_eq_leftmost_complaint (t : Templater) (source : Text)
    (args : List Argument) :
    (∀ b, Segment.split source = .error b →
      t.build source args = .error ⟨source, .malformedBlock b⟩) ∧
    ∀ segments, Segment.split source = .ok segments →
      let questions := Question.ofSegments segments
      let complaintAt? := Question.complaintAt? t.config.skipOutsideBlock
        (replies t.escaper args) 0 questions
      (∀ i cause, complaintAt? i = some cause → (∀ j, j < i → complaintAt? j = none) →
        t.build source args = .error ⟨source, cause⟩) ∧
      (∀ i cause, complaintAt? i = some cause →
        ∃ leftmost, t.build source args = .error ⟨source, leftmost⟩) ∧
      ((∀ i, complaintAt? i = none) →
        if questions.length < args.length then
          t.build source args = .error ⟨source, .extraArguments questions.length args.length⟩
        else ∃ sql, t.build source args = .ok sql) := by
  refine ⟨fun b => t.build_of_split_error args, fun segments hsplit => ?_⟩
  intro questions complaintAt?
  have hbuild := t.build_of_split args hsplit
  rw [Template.fill_eq] at hbuild
  refine ⟨fun i cause hcause hbefore => ?_, fun i cause hcause => ?_, fun hnone => ?_⟩
  · rw [Question.firstComplaint?_eq_some hcause hbefore] at hbuild
    exact hbuild
  · cases hfirst : Question.firstComplaint? t.config.skipOutsideBlock (replies t.escaper args) 0
      questions with
    | some leftmost =>
      rw [hfirst] at hbuild
      exact ⟨leftmost, hbuild⟩
    | none =>
      have hnone := Question.firstComplaint?_eq_none_iff.mp hfirst i
      rw [show Question.complaintAt? _ _ 0 questions i = some cause from hcause] at hnone
      cases hnone
  · rw [Question.firstComplaint?_eq_none_iff.mpr hnone, Option.elim_none] at hbuild
    split
    · rename_i hextra
      rw [if_neg (Nat.not_le.mpr hextra)] at hbuild
      exact hbuild
    · rename_i henough
      rw [if_pos (Nat.not_lt.mp henough)] at hbuild
      exact ⟨_, hbuild⟩

end QueryTemplate
