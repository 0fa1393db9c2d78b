import QueryTemplate.Proofs.Diagnosis
import QueryTemplate.Proofs.ReportLayout
import QueryTemplate.Proofs.Splitting

/-!
# Inspecting and building

A template can be inspected without any arguments, and inspecting must not disagree with building
about what a template is.  Both accept a text whose blocks are well-formed and whose question marks
all select a conversion, and no other text (`exists_describe_eq_ok_iff`,
`Templater.exists_build_eq_ok_iff`).  Inspection looks at the text alone; for a build the arguments
have to be found, and `Argument.zero` is one that every conversion can write.

So a template is described exactly if some arguments build a query from it, and their number is the
one that the description states.  Where a description fails, builds fail with the same error, unless
an argument stops them earlier (`Templater.describe_ok_iff_exists_build`).
-/

namespace QueryTemplate

/-! ## Descriptions -/

section Describe
variable {source : Text} {segments : List Segment}

theorem describe_of_split_error {b : BlockError} (h : Segment.split source = .error b) :
    describe source = .error ⟨source, .malformedBlock b⟩ := by
  rw [describe, Template.parse, h]
  rfl

theorem describe_of_split (h : Segment.split source = .ok segments) :
    describe source =
      Template.failing source
        ((Placeholder.ofSegments 0 segments).map (Report.render segments)) := by
  rw [describe, Template.parse_eq_ok_iff.mpr ⟨segments, h, rfl⟩]
  change Template.report ⟨source, segments⟩ = _
  rw [Template.report, Template.placeholders]
  cases Placeholder.ofSegments 0 segments <;> rfl

/-- A description is a report on the placeholders. -/
theorem describe_eq_ok_iff {report : Text} :
    describe source = .ok report ↔
      ∃ template placeholders, Template.parse source = .ok template ∧
        template.placeholders = .ok placeholders ∧
        Report.render template.segments placeholders = report := by
  constructor
  · intro h
    cases hsplit : Segment.split source with
    | error b =>
      rw [describe_of_split_error hsplit] at h
      cases h
    | ok segments =>
      rw [describe_of_split hsplit, Template.failing_eq_ok_iff] at h
      obtain ⟨found, hfound, hreport⟩ := map_eq_ok_iff.mp h
      exact ⟨⟨source, segments⟩, found, Template.parse_eq_ok_iff.mpr ⟨segments, hsplit, rfl⟩,
        Template.failing_eq_ok_iff.mpr hfound, hreport⟩
  · rintro ⟨template, found, hparse, hfound, rfl⟩
    obtain ⟨segments, hsplit, rfl⟩ := Template.parse_eq_ok_iff.mp hparse
    rw [describe_of_split hsplit, Template.failing_eq_ok_iff.mp hfound]
    rfl

/-- A text can be described if its blocks are well-formed and all its question marks select a
conversion. -/
theorem exists_describe_eq_ok_iff :
    (∃ report, describe source = .ok report) ↔
      ∃ segments, Segment.split source = .ok segments ∧
        ∀ q ∈ Question.ofSegments segments, ∃ s, q.demand = .ok s := by
  constructor
  · rintro ⟨report, hreport⟩
    obtain ⟨template, found, hparse, hfound, -⟩ := describe_eq_ok_iff.mp hreport
    obtain ⟨segments, hsplit, rfl⟩ := Template.parse_eq_ok_iff.mp hparse
    refine ⟨segments, hsplit, ?_⟩
    rw [(Placeholder.ofSegments_eq_ok (Template.failing_eq_ok_iff.mp hfound)).1]
    exact List.forall_mem_map.mpr fun p _ => ⟨p.specifier, rfl⟩
  · rintro ⟨segments, hsplit, hdemands⟩
    obtain ⟨found, hfound⟩ := Placeholder.exists_ofSegments_eq_ok 0 hdemands
    refine ⟨Report.render segments found, ?_⟩
    rw [describe_of_split hsplit, hfound]
    rfl

end Describe

/-! ## Arguments that give text -/

namespace Question
variable {policy : SkipPolicy} {r : Replies}

/-- Whether each of some question marks, the first ones of a template, gets a text. -/
def AllText (r : Replies) (questions : List Question) : Prop :=
  ∀ i q, questions[i]? = some q → ∃ s text, q.demand = .ok s ∧ r i s = some (.ok text)

/-- Nobody complains who gets a text. -/
theorem AllText.firstComplaint?_eq_none {questions : List Question} (h : AllText r questions) :
    firstComplaint? policy r 0 questions = none := by
  refine firstComplaint?_eq_none_iff.mpr fun i => ?_
  rw [complaintAt?, Nat.zero_add, Option.bind_eq_none_iff]
  intro q hq
  obtain ⟨s, text, hdemand, htext⟩ := h i q hq
  rw [complaint?, hdemand]
  dsimp only
  rw [htext]

/-- Where all question marks before it get a text, one that selects no conversion is the first to
complain. -/
theorem AllText.firstComplaint?_eq_unsupported {before after : List Question} {next : Char}
    {kind : SegmentKind} (h : AllText r before) :
    firstComplaint? policy r 0 (before ++ ⟨.error next, kind⟩ :: after) =
      some (.unsupportedSpecifier next) := by
  rw [firstComplaint?_append, h.firstComplaint?_eq_none, Option.none_or, firstComplaint?_cons]
  rfl

end Question

/-- An argument that every conversion can write. -/
def Argument.zero : Argument := .text ['0']

theorem Specifier.exists_convert_zero (e : Escaper) (s : Specifier) :
    ∃ text, s.convert e .zero = .ok text := by
  cases s <;> exact ⟨_, rfl⟩

/-- Question marks that all select a conversion get a text for as many zeros. -/
theorem Question.allText_zeros (e : Escaper) {questions : List Question}
    (h : ∀ q ∈ questions, ∃ s, q.demand = .ok s) :
    AllText (replies e (List.replicate questions.length .zero)) questions := by
  intro i q hq
  obtain ⟨s, hdemand⟩ := h q (List.mem_of_getElem? hq)
  obtain ⟨text, htext⟩ := s.exists_convert_zero e
  obtain ⟨hlt, -⟩ := List.getElem?_eq_some_iff.mp hq
  refine ⟨s, text, hdemand, ?_⟩
  rw [replies, List.getElem?_replicate_of_lt hlt, Option.map_some, htext]

/-! ## Builds -/

namespace Templater
variable {t : Templater} {source sql : Text} {args : List Argument}

/-- What a build that succeeds says about the template. -/
theorem of_build_eq_ok (h : t.build source args = .ok sql) :
    ∃ segments, Segment.split source = .ok segments ∧
      (∀ q ∈ Question.ofSegments segments, ∃ s, q.demand = .ok s) ∧
      args.length = (Question.ofSegments segments).length := by
  obtain ⟨segments, hsplit, hfirst, hlength, -⟩ := (t.build_eq_ok_iff args).mp h
  exact ⟨segments, hsplit, (Question.of_firstComplaint?_eq_none (Nat.zero_le _) hfirst).1, hlength⟩

/-- Some arguments build a query exactly if the blocks of a template are well-formed and all its
question marks select a conversion. -/
theorem exists_build_eq_ok_iff (t : Templater) {source : Text} :
    (∃ args sql, t.build source args = .ok sql) ↔
      ∃ segments, Segment.split source = .ok segments ∧
        ∀ q ∈ Question.ofSegments segments, ∃ s, q.demand = .ok s := by
  constructor
  · rintro ⟨args, sql, hbuild⟩
    obtain ⟨segments, hsplit, hdemands, -⟩ := of_build_eq_ok hbuild
    exact ⟨segments, hsplit, hdemands⟩
  · rintro ⟨segments, hsplit, hdemands⟩
    have htext := Question.allText_zeros t.escaper hdemands
    let zeros := List.replicate (Question.ofSegments segments).length Argument.zero
    refine ⟨zeros, keptText (Segment.fillings (replies t.escaper zeros) 0 segments), ?_⟩
    exact (t.build_eq_ok_iff zeros).mpr
      ⟨segments, hsplit, htext.firstComplaint?_eq_none, List.length_replicate, rfl⟩

/-- A description of a template that a query was built from states how many arguments it took. -/
theorem describe_of_build_eq_ok (h : t.build source args = .ok sql) :
    (Template.parse source).bind Template.placeholderCount = .ok args.length ∧
      ∃ report, describe source = .ok report ∧
        Report.statedCounts report = [some args.length] := by
  obtain ⟨segments, hsplit, hdemands, hlength⟩ := of_build_eq_ok h
  obtain ⟨found, hfound⟩ := Placeholder.exists_ofSegments_eq_ok 0 hdemands
  have hcount : found.length = args.length := by
    rw [hlength, (Placeholder.ofSegments_eq_ok hfound).1, List.length_map]
  have hparse : Template.parse source = .ok ⟨source, segments⟩ :=
    Template.parse_eq_ok_iff.mpr ⟨segments, hsplit, rfl⟩
  have hplaceholders : Template.placeholders ⟨source, segments⟩ = .ok found :=
    Template.failing_eq_ok_iff.mpr hfound
  refine ⟨?_, Report.render segments found, ?_, ?_⟩
  · rw [hparse, ← hcount]
    exact map_eq_ok_iff.mpr ⟨found, hplaceholders, rfl⟩
  · exact describe_eq_ok_iff.mpr ⟨_, found, hparse, hplaceholders, rfl⟩
  · rw [Report.statedCounts_render, hcount]

/-- Where a description fails because of a question mark, so does every build that gets that far. -/
theorem build_of_describe_eq_error {e : BuildError} {segments : List Segment} (t : Templater)
    (hsplit : Segment.split source = .ok segments) (herror : describe source = .error e) :
    ∃ before next kind after,
      Question.ofSegments segments = before ++ ⟨.error next, kind⟩ :: after ∧
      (∀ q ∈ before, ∃ s, q.demand = .ok s) ∧
      ∀ args, Question.AllText (replies t.escaper args) before →
        t.build source args = .error e := by
  rw [describe_of_split hsplit] at herror
  cases hfound : Placeholder.ofSegments 0 segments with
  | ok found =>
    rw [hfound] at herror
    cases herror
  | error cause =>
    rw [hfound] at herror
    cases herror
    obtain ⟨before, next, kind, after, hquestions, hbefore, rfl⟩ :=
      Placeholder.ofSegments_eq_error hfound
    refine ⟨before, next, kind, after, hquestions, hbefore, fun args htext => ?_⟩
    rw [t.build_of_split args hsplit, Template.fill_eq, hquestions,
      htext.firstComplaint?_eq_unsupported]
    rfl

/-- **Inspection and building accept the same templates.**  A text is described if and only if it
can be read and its placeholders listed, if and only if some arguments build a query from it; those
are then as many as there are placeholders, which is the number that the description states.  And
where a description fails, the builds fail with the same error: all of them if the blocks are
malformed, and otherwise all of those whose arguments give text at every question mark before the
leftmost one that selects no conversion. -/
theorem describe_ok_iff_exists_build (t : Templater) (source : Text) :
    ((∃ report, describe source = .ok report) ↔
      ∃ template placeholders, Template.parse source = .ok template ∧
        template.placeholders = .ok placeholders) ∧
    ((∃ report, describe source = .ok report) ↔ ∃ args sql, t.build source args = .ok sql) ∧
    (∀ args sql, t.build source args = .ok sql →
      (Template.parse source).bind Template.placeholderCount = .ok args.length ∧
      ∃ report, describe source = .ok report ∧
        Report.statedCounts report = [some args.length]) ∧
    ∀ e, describe source = .error e →
      (∀ b, Segment.split source = .error b → ∀ args, t.build source args = .error e) ∧
      ∀ segments, Segment.split source = .ok segments →
        ∃ before next kind after,
          Question.ofSegments segments = before ++ ⟨.error next, kind⟩ :: after ∧
          (∀ q ∈ before, ∃ s, q.demand = .ok s) ∧
          ∀ args, Question.AllText (replies t.escaper args) before →
            t.build source args = .error e := by
  refine ⟨⟨?_, ?_⟩, exists_describe_eq_ok_iff.trans t.exists_build_eq_ok_iff.symm,
    fun args sql => describe_of_build_eq_ok, fun e herror => ⟨fun b hsplit args => ?_,
    fun segments hsplit => t.build_of_describe_eq_error hsplit herror⟩⟩
  · rintro ⟨report, hreport⟩
    obtain ⟨template, placeholders, hparse, hplaceholders, -⟩ := describe_eq_ok_iff.mp hreport
    exact ⟨template, placeholders, hparse, hplaceholders⟩
  · rintro ⟨template, placeholders, hparse, hplaceholders⟩
    exact ⟨_, describe_eq_ok_iff.mpr ⟨template, placeholders, hparse, hplaceholders, rfl⟩⟩
  · rw [describe_of_split_error hsplit] at herror
    rw [t.build_of_split_error args hsplit]
    exact herror

/-- A skip in a block counts as an argument, and no argument closes a block. -/
theorem describe_and_build_blocks :
    (forDialect .mysql).build ['{', '?', 'd', '}', '?', '#'] [.skip, .text ['a']] =
      .ok [backtick, 'a', backtick] ∧
    (∃ report, describe ['{', '?', 'd', '}', '?', '#'] = .ok report ∧
      Report.statedCounts report = [some 2]) ∧
    describe ['{'] = .error ⟨['{'], .malformedBlock .unclosed⟩ ∧
    ∀ args, (forDialect .mysql).build ['{'] args =
      .error ⟨['{'], .malformedBlock .unclosed⟩ := by
  have hbuild : (forDialect .mysql).build ['{', '?', 'd', '}', '?', '#'] [.skip, .text ['a']] =
      .ok [backtick, 'a', backtick] := rfl
  have herror : describe ['{'] = .error ⟨['{'], .malformedBlock .unclosed⟩ := rfl
  exact ⟨hbuild, ((describe_ok_iff_exists_build _ _).2.2.1 _ _ hbuild).2, herror,
    ((describe_ok_iff_exists_build _ _).2.2.2 _ herror).1 _ rfl⟩

end Templater

end QueryTemplate
