import QueryTemplate.Proofs.RelatedBuilds

/-!
# The escaper decides only spelling

How literals and names are written is up to an `Escaper`, which may be any two functions.  Nothing
else is up to it: two builds that differ in the escaper alone fail for the same cause or both
succeed, drop the same segments and consume the same arguments (`fillAll_sameKept`).  Their queries
are equal as soon as the two escapers agree on the texts and names that are written
(`Templater.build_same_but_spelling`).

What is written is what stands in the segments that are kept (`Segment.written`).  About the texts
and names of a dropped block the escapers may disagree.
-/

namespace QueryTemplate

theorem isCongruence_true : IsCongruence fun _ _ => True where
  nil := trivial
  append _ _ := trivial
  plain _ := trivial
  separator := trivial
  equals := trivial

/-- Texts that are equal if a condition holds. -/
theorem isCongruence_eqIf (condition : Prop) : IsCongruence fun x y => condition → x = y where
  nil _ := rfl
  append h h' hc := by rw [h hc, h' hc]
  plain _ _ := rfl
  separator _ := rfl
  equals _ := rfl

section Kept
variable (e e' : Escaper)

/-- Whatever the escapers, the same arguments halt. -/
theorem replies_sameHalt (args : List Argument) (position : Nat) {q : Question} {s : Specifier}
    (hs : q.demand = .ok s) :
    RelatedReplies (fun _ _ => True) (replies e args position s) (replies e' args position s) :=
  replies_related isCongruence_true hs (fun _ _ _ _ => trivial) fun _ _ _ _ => trivial

theorem Supply.exists_eq_after (supply : Supply) :
    ∃ args consumed, supply = .after args consumed :=
  ⟨List.replicate supply.consumed .null ++ supply.unread, supply.consumed, by
    rw [Supply.after, List.drop_left' List.length_replicate]⟩

theorem map_isSome_eq_of_rel {P : Text → Text → Prop} {filled filled' : List (Option Text)}
    (h : List.Forall₂ (Option.Rel P) filled filled') :
    filled.map Option.isSome = filled'.map Option.isSome := by
  induction h with
  | nil => rfl
  | cons hhead _ ih =>
    rw [List.map_cons, List.map_cons, ih]
    cases hhead <;> rfl

/-- **Whatever the escapers, the same segments are kept** and the same arguments are consumed. -/
theorem fillAll_sameKept (policy : SkipPolicy) (segments : List Segment) (supply : Supply) :
    SameOutcome (fun x y => x.1.map Option.isSome = y.1.map Option.isSome ∧ x.2 = y.2)
      (fillAll e policy segments supply) (fillAll e' policy segments supply) := by
  obtain ⟨args, position, rfl⟩ := supply.exists_eq_after
  have hfirst : Question.firstComplaint? policy (replies e args) position
        (Question.ofSegments segments) =
      Question.firstComplaint? policy (replies e' args) position
        (Question.ofSegments segments) :=
    Question.firstComplaint?_congr fun i q s _ hs =>
      (replies_sameHalt e e' args (position + i) hs).halt?_eq
  have hfillings : List.Forall₂ (Option.Rel fun _ _ => True)
      (Segment.fillings (replies e args) position segments)
      (Segment.fillings (replies e' args) position segments) :=
    Segment.forall₂_fillings fun before s later _ =>
      Segment.filling_related isCongruence_true (fun _ _ => trivial)
        fun i q c _ hc => replies_sameHalt e e' args _ hc
  rw [fillAll_eq, fillAll_eq, hfirst]
  cases Question.firstComplaint? policy (replies e' args) position
      (Question.ofSegments segments) with
  | some cause => exact .error cause
  | none => exact .ok ⟨map_isSome_eq_of_rel hfillings, rfl⟩

end Kept

/-! ## What is written -/

/-- **What is written**: the question marks of the segments that no skip drops, each with its
argument. -/
def Segment.written (e : Escaper) : List Segment → List Argument → List (Question × Argument)
  | [], _ => []
  | s :: later, args =>
    let here := s.questions.zip args
    (if here.any (fun x => x.1.skips e x.2) then [] else here) ++
      written e later (args.drop s.questions.length)

/-- Two escapers agree on what a question mark writes its argument with. -/
def Escaper.AgreeOn (e e' : Escaper) (x : Question × Argument) : Prop :=
  (∀ t ∈ x.1.literals x.2, e.escapeText t = e'.escapeText t) ∧
    ∀ name ∈ x.1.names x.2, e.quoteName name = e'.quoteName name

instance (e e' : Escaper) (x : Question × Argument) : Decidable (e.AgreeOn e' x) :=
  inferInstanceAs (Decidable ((∀ t ∈ x.1.literals x.2, e.escapeText t = e'.escapeText t) ∧
    ∀ name ∈ x.1.names x.2, e.quoteName name = e'.quoteName name))

section Written
variable {e e' : Escaper} {args : List Argument}

theorem Segment.mem_written {before later : List Segment} {s : Segment} {x : Question × Argument}
    (hx : x ∈ s.questions.zip (args.drop (Question.ofSegments before).length))
    (hkept : ¬ ∃ y ∈ s.questions.zip (args.drop (Question.ofSegments before).length),
      y.1.skips e y.2 = true) : x ∈ written e (before ++ s :: later) args := by
  induction before generalizing args with
  | nil =>
    rw [Question.ofSegments_nil, List.length_nil, List.drop_zero] at hx hkept
    rw [List.nil_append, written, if_neg (by rwa [List.any_eq_true])]
    exact List.mem_append_left _ hx
  | cons first rest ih =>
    rw [Question.ofSegments_cons, List.length_append, ← List.drop_drop] at hx hkept
    exact List.mem_append_right _ (ih hx hkept)

/-- A segment with a skip becomes no text. -/
theorem Segment.filling_eq_none {s : Segment} {position : Nat} {x : Question × Argument}
    (hx : x ∈ s.questions.zip (args.drop position)) (hskip : x.1.skips e x.2 = true) :
    Token.filled? (replies e args) position s.tokens = none := by
  obtain ⟨i, hi⟩ := List.mem_iff_getElem?.mp hx
  obtain ⟨hq, harg⟩ := List.getElem?_zip_eq_some.mp hi
  obtain ⟨c, hdemand, hconvert⟩ := Question.skips_eq_true_iff.mp hskip
  rw [List.getElem?_drop] at harg
  refine @Token.filled?_eq_none _ _ _ i c ?_ ?_
  · rw [demands_tokens, List.getElem?_map, hq, Option.map_some, hdemand]
  · rw [replies, harg, Option.map_some, hconvert]

/-- **Escapers that agree on what is written** write the same texts. -/
theorem Segment.fillings_eq_of_agree {segments : List Segment}
    (h : ∀ x ∈ written e segments args, e.AgreeOn e' x) :
    fillings (replies e args) 0 segments = fillings (replies e' args) 0 segments := by
  refine List.forall₂_eq_eq_eq ▸ forall₂_fillings fun before s later hsplit => ?_
  subst hsplit
  rw [Nat.zero_add]
  -- a segment is compared on condition that its own arguments are written alike, and the
  -- condition is met where it is kept
  have hrelated : Option.Rel
      (fun x y => (∀ z ∈ s.questions.zip (args.drop (Question.ofSegments before).length),
        e.AgreeOn e' z) → x = y)
      (Token.filled? (replies e args) (Question.ofSegments before).length s.tokens)
      (Token.filled? (replies e' args) (Question.ofSegments before).length s.tokens) := by
    refine filling_related (isCongruence_eqIf _) (fun _ _ _ => rfl) fun i q c hq hc => ?_
    have hmem : ∀ arg, args[(Question.ofSegments before).length + i]? = some arg →
        (q, arg) ∈ s.questions.zip (args.drop (Question.ofSegments before).length) := by
      intro arg harg
      rw [← List.getElem?_drop] at harg
      exact List.mem_of_getElem? (List.getElem?_zip_eq_some.mpr ⟨hq, harg⟩)
    refine replies_related (isCongruence_eqIf _) hc ?_ ?_
    · intro arg harg t ht hagree
      rw [Escaper.literal, Escaper.literal, (hagree _ (hmem arg harg)).1 t ht]
    · intro arg harg name hname hagree
      exact (hagree _ (hmem arg harg)).2 name hname
  refine eq_of_rel hrelated fun text text' htext heq => heq fun z hz => ?_
  refine h z (mem_written hz ?_)
  rintro ⟨y, hy, hskip⟩
  rw [filling_eq_none hy hskip] at htext
  cases htext

end Written

/-! ## Builds -/

/-- **The escaper decides only spelling.**  Whatever two escapers are, filling segments fails for
the same cause with either, or keeps the same segments and consumes the same arguments with either.
Two builds fail with the same error or both succeed; and if the escapers agree on every text that is
written as a literal and on every name that is written, the queries are the same. -/
theorem Templater.build_same_but_spelling (e e' : Escaper) (config : Config) (source : Text)
    (args : List Argument) :
    (∀ segments supply,
      SameOutcome (fun x y => x.1.map Option.isSome = y.1.map Option.isSome ∧ x.2 = y.2)
        (fillAll e config.skipOutsideBlock segments supply)
        (fillAll e' config.skipOutsideBlock segments supply)) ∧
    SameOutcome
      (fun sql sql' => (∀ x ∈ Segment.written e source.segments args, e.AgreeOn e' x) → sql = sql')
      (build ⟨e, config⟩ source args) (build ⟨e', config⟩ source args) := by
  refine ⟨fillAll_sameKept e e' config.skipOutsideBlock, ?_⟩
  cases hsplit : Segment.split source with
  | error b =>
    rw [build_of_split_error _ args hsplit, build_of_split_error _ args hsplit]
    exact .error _
  | ok segments =>
    rw [build_of_split _ args hsplit, build_of_split _ args hsplit, Text.segments_of_split hsplit]
    refine SameOutcome.mapError _ (Template.fill_related _ _ rfl ?_ ?_)
    · exact fun i q s _ hs => (replies_sameHalt e e' args i hs).halt?_eq
    · exact fun hagree => congrArg keptText (Segment.fillings_eq_of_agree hagree)

/-- Two dialects quote names differently; but where the only name stands in a dropped block, they
give the same query. -/
theorem Templater.build_dropped_name :
    ∃ sql,
      (forDialect .mysql).build ['{', '?', '#', ',', '?', '}', '?', ',']
        [.text ['i'], .skip, .text ['x']] = .ok sql ∧
      (forDialect .postgres).build ['{', '?', '#', ',', '?', '}', '?', ',']
        [.text ['i'], .skip, .text ['x']] = .ok sql := by
  have hagree : ∀ x ∈ Segment.written MySql.escaper
        (Text.segments ['{', '?', '#', ',', '?', '}', '?', ',']) [.text ['i'], .skip, .text ['x']],
      MySql.escaper.AgreeOn Postgres.escaper x := by decide
  rcases (build_same_but_spelling MySql.escaper Postgres.escaper .default
    ['{', '?', '#', ',', '?', '}', '?', ','] [.text ['i'], .skip, .text ['x']]).2.error_or_ok with
    ⟨error, herror, -⟩ | ⟨sql, sql', hsql, hsql', heq⟩
  · cases herror
  · exact ⟨sql, hsql, (heq hagree) ▸ hsql'⟩

end QueryTemplate
