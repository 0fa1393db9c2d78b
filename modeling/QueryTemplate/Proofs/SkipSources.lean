import QueryTemplate.Proofs.Elements
import QueryTemplate.Proofs.RequestFields
import QueryTemplate.Proofs.SkipPositions
import QueryTemplate.Proofs.Stages
import QueryTemplate.Proofs.Substitution

/-!
# Only skips that are asked for drop text

A segment of a template is dropped if an argument in it halts with a skip.  An argument does so only
if a skip occurs in it somewhere (`Specifier.within_of_convert_eq_skip`), and the notation for
arguments cannot write one, however deep (`Json.exists_eq_of_within`).  So the skips in the
arguments of a command line are the ones that were put there by position, and they stand at just
these positions.

Placeholders are dealt the arguments in order.  Hence a segment is missing from the query exactly if
one of its placeholders has a number, counted from one, for which a skip was asked
(`Program.render_drops_by_position`); without such numbers nothing is missing.
-/

namespace QueryTemplate

/-! ## Skips inside of arguments -/

/-- An argument occurs in another one: it is that one, or it occurs in one of its items or values,
at any depth. -/
inductive Argument.Within (b : Argument) : Argument → Prop where
  /-- An argument occurs in itself. -/
  | self : Within b b
  /-- What occurs in an item occurs in the list. -/
  | item {items : List Argument} {arg : Argument} (mem : arg ∈ items) (h : Within b arg) :
    Within b (.list items)
  /-- What occurs in a value occurs in the map. -/
  | entry {entries : List (Text × Argument)} {named : Text × Argument} (mem : named ∈ entries)
    (h : Within b named.2) : Within b (.map entries)

/-- **Whatever occurs in the argument of a JSON value** is the argument of a JSON value. -/
theorem Json.exists_eq_of_within {b arg : Argument} (h : b.Within arg) {j : Json}
    (hj : j.toArgument = arg) : ∃ j' : Json, j'.toArgument = b := by
  induction h generalizing j with
  | self => exact ⟨j, hj⟩
  | item mem _ ih =>
    cases j with
    | array items =>
      rw [toArgument, toArguments_eq_map] at hj
      cases hj
      obtain ⟨item, -, hitem⟩ := List.mem_map.mp mem
      exact ih hitem
    | _ => cases hj
  | entry mem _ ih =>
    cases j with
    | object members =>
      rw [toArgument, toEntries_eq_map] at hj
      cases hj
      obtain ⟨m, -, rfl⟩ := List.mem_map.mp mem
      exact ih rfl
    | _ => cases hj

/-- No JSON value stands for a skip, and every number is finite. -/
theorem Json.toArgument_ne_skip (j : Json) :
    j.toArgument ≠ .skip ∧ ∀ x, j.toArgument = .float x → ∃ y, x = .finite y := by
  cases j with
  | float x =>
    refine ⟨nofun, fun x' h => ?_⟩
    cases h
    exact ⟨x, rfl⟩
  | _ => exact ⟨nofun, nofun⟩

/-- **Arguments that are read hold no skip**, and no number that is not finite, however deep. -/
theorem of_within_readArguments {json : Text} {args : List Argument}
    (h : readArguments json = .ok args) {arg b : Argument} (harg : arg ∈ args)
    (hb : b.Within arg) : b ≠ .skip ∧ ∀ x, b = .float x → ∃ y, x = .finite y := by
  unfold readArguments at h
  split at h
  · cases h
    rw [Json.toArguments_eq_map] at harg
    obtain ⟨j, -, hj⟩ := List.mem_map.mp harg
    obtain ⟨j', rfl⟩ := Json.exists_eq_of_within hb hj
    exact j'.toArgument_ne_skip
  · cases h
  · cases h

/-! ## Arguments that halt with a skip -/

/-- An element of an argument occurs in it. -/
theorem Argument.within_of_mem_elements? {e : Escaper} {arg : Argument}
    {parts : List (Text × Argument)} (h : arg.elements? e = some parts) {part : Text × Argument}
    (hmem : part ∈ parts) : Within part.2 arg := by
  cases arg with
  | list items =>
    cases h
    obtain ⟨item, hitem, rfl⟩ := List.mem_map.mp hmem
    exact .item hitem .self
  | map entries =>
    cases h
    obtain ⟨named, hnamed, rfl⟩ := List.mem_map.mp hmem
    exact .entry hnamed .self
  | _ => cases h

namespace Specifier
variable {s : Specifier} {e : Escaper} {arg : Argument}

/-- A list or a map halts with a skip only if one of its elements does. -/
theorem within_of_flatten_single
    (h : Conversion.flatten e (s.single e) arg = .error .skip) : Argument.Within .skip arg := by
  cases hparts : arg.elements? e with
  | none =>
    rw [Conversion.flatten_of_elements?_eq_none hparts] at h
    exact s.single_eq_skip_iff.mp h ▸ .self
  | some parts =>
    obtain ⟨before, part, after, rfl, -, hskip⟩ :=
      ((Conversion.isJoined_flatten hparts).halts_iff .skip).mp h
    have hwithin := Argument.within_of_mem_elements? hparts
      (List.mem_append_right before (List.mem_cons_self ..))
    rwa [s.single_eq_skip_iff.mp hskip] at hwithin

/-- **Only a skip makes an argument halt with a skip**, itself or somewhere in it. -/
theorem within_of_convert_eq_skip (h : s.convert e arg = .error .skip) :
    Argument.Within .skip arg := by
  cases s with
  | int => exact (single_eq_skip_iff (e := e) .int).mp h ▸ .self
  | float => exact (single_eq_skip_iff (e := e) .float).mp h ▸ .self
  | escaped => exact (single_eq_skip_iff (e := e) .escaped).mp h ▸ .self
  | array => exact within_of_flatten_single (s := .array) h
  | column => exact within_of_flatten_single (s := .column) h

theorem convert_skip (s : Specifier) (e : Escaper) : s.convert e .skip = .error .skip := by
  cases s <;> rfl

end Specifier

/-! ## Segments that are missing -/

namespace Dealt
variable {e : Escaper} {placeholders : List Placeholder} {args : List Argument}

/-- What is dealt: a placeholder and the argument with the same number. -/
theorem mem_deal_iff {d : Dealt} :
    d ∈ deal placeholders args ↔
      ∃ k : Nat, placeholders[k]? = some d.placeholder ∧ args[k]? = some d.argument := by
  unfold deal
  rw [List.mem_iff_getElem?]
  refine exists_congr fun k => ?_
  rw [List.getElem?_zipWith_eq_some]
  constructor
  · rintro ⟨p, arg, hp, harg, rfl⟩
    exact ⟨hp, harg⟩
  · rintro ⟨hp, harg⟩
    exact ⟨_, _, hp, harg, rfl⟩

theorem isSkip_eq_true_iff {d : Dealt} :
    d.isSkip e = true ↔ d.converted e = .error .skip := by
  unfold isSkip
  rcases d.converted e with (_ | f) | text <;> simp

end Dealt

/-- **The skips among arguments** stand at some positions, counted from one, and no other argument
has a skip in it. -/
def SkipsOnlyAt (positions : List Nat) (args : List Argument) : Prop :=
  ∀ k arg, args[k]? = some arg →
    if k + 1 ∈ positions then arg = .skip else ¬ Argument.Within .skip arg

theorem SkipsOnlyAt.isSkip_iff {positions : List Nat} {args : List Argument}
    (h : SkipsOnlyAt positions args) (e : Escaper) {d : Dealt} {k : Nat}
    (hd : args[k]? = some d.argument) : d.isSkip e = true ↔ k + 1 ∈ positions := by
  have harg := h k d.argument hd
  rw [Dealt.isSkip_eq_true_iff, Dealt.converted]
  by_cases hk : k + 1 ∈ positions
  · rw [if_pos hk] at harg
    rw [harg, Specifier.convert_skip]
    exact iff_of_true rfl hk
  · rw [if_neg hk] at harg
    exact iff_of_false (fun hskip => harg (Specifier.within_of_convert_eq_skip hskip)) hk

/-- What is dealt to a segment halts with a skip exactly if one of its placeholders has a number
among those of the skips. -/
theorem SkipsOnlyAt.exists_isSkip_iff {positions : List Nat} {args : List Argument}
    (h : SkipsOnlyAt positions args) (e : Escaper) {placeholders : List Placeholder}
    (hcount : placeholders.length = args.length) (i : Nat) :
    (∃ d ∈ Dealt.toSegment (Dealt.deal placeholders args) i, d.isSkip e = true) ↔
      ∃ k p, placeholders[k]? = some p ∧ p.segment = i ∧ k + 1 ∈ positions := by
  constructor
  · rintro ⟨d, hd, hskip⟩
    obtain ⟨hdealt, hsegment⟩ := List.mem_filter.mp hd
    obtain ⟨k, hp, harg⟩ := Dealt.mem_deal_iff.mp hdealt
    exact ⟨k, d.placeholder, hp, of_decide_eq_true hsegment, (h.isSkip_iff e harg).mp hskip⟩
  · rintro ⟨k, p, hp, hsegment, hk⟩
    have hlt : k < args.length := hcount ▸ (List.getElem?_eq_some_iff.mp hp).1
    have harg : args[k]? = some args[k] := List.getElem?_eq_getElem hlt
    have hdealt : (⟨p, args[k]⟩ : Dealt) ∈ Dealt.deal placeholders args :=
      Dealt.mem_deal_iff.mpr ⟨k, hp, harg⟩
    exact ⟨⟨p, args[k]⟩, List.mem_filter.mpr ⟨hdealt, decide_eq_true hsegment⟩,
      (h.isSkip_iff e harg).mpr hk⟩

/-- **What a query is made of**: what each segment of the template became, in order; and a segment
became nothing exactly if one of its placeholders has a number among the given ones.  What became of
the others is their text, with all of their placeholders replaced. -/
structure DropsExactly (t : Templater) (source : Text) (args : List Argument)
    (numbers : List Nat) (sql : Text) : Prop where
  /-- The query is what the segments became, as the build filled them. -/
  made : ∃ template placeholders filled supply,
    Template.parse source = .ok template ∧ template.placeholders = .ok placeholders ∧
    fillAll t.escaper t.config.skipOutsideBlock template.segments (.start args) =
      .ok (filled, supply) ∧
    keptText filled = sql ∧
    filled = template.segments.zipIdx.map (fun x =>
      x.1.substituted? t.escaper (Dealt.deal placeholders args) x.2) ∧
    ∀ i < template.segments.length, filled[i]? = some none ↔
      ∃ k p, placeholders[k]? = some p ∧ p.segment = i ∧ k + 1 ∈ numbers

theorem Templater.dropsExactly_of_build {t : Templater} {source sql : Text}
    {args : List Argument} {positions : List Nat} (hskips : SkipsOnlyAt positions args)
    (h : t.build source args = .ok sql) : DropsExactly t source args positions sql := by
  obtain ⟨segments, hsplit, hfirst, hlength, hkept⟩ := (t.build_eq_ok_iff args).mp h
  obtain ⟨hdemands, -⟩ := Question.of_firstComplaint?_eq_none (Nat.zero_le _) hfirst
  obtain ⟨placeholders, hlisted⟩ := Placeholder.exists_ofSegments_eq_ok 0 hdemands
  have hquestions := (Placeholder.ofSegments_eq_ok hlisted).1
  have hcount : placeholders.length = args.length := by
    rw [hlength, hquestions, List.length_map]
  have haccepted : ∀ d ∈ Dealt.deal placeholders args,
      d.Accepted t.escaper t.config.skipOutsideBlock := by
    have hfirst' := hfirst
    rwa [hquestions, Dealt.firstComplaint?_eq_none_iff (by omega), List.drop_zero] at hfirst'
  obtain ⟨hfillings, hsome⟩ := Segment.fillings_eq_substituted? t.escaper args 0 hlisted (by omega)
  rw [List.drop_zero] at hfillings hsome
  have hfill : fillAll t.escaper t.config.skipOutsideBlock segments (.start args) =
      .ok (Segment.fillings (replies t.escaper args) 0 segments,
        Supply.after args (0 + (Question.ofSegments segments).length)) := by
    rw [Supply.start_eq_after, fillAll_eq, hfirst, Cause.orElse_none]
  refine ⟨⟨source, segments⟩, placeholders, _, _,
    Template.parse_eq_ok_iff.mpr ⟨segments, hsplit, rfl⟩,
    Template.failing_eq_ok_iff.mpr hlisted, hfill, hkept, hfillings, fun i hi => ?_⟩
  have hat : (segments[i], i) ∈ segments.zipIdx :=
    List.mk_mem_zipIdx_iff_getElem?.mpr (List.getElem?_eq_getElem hi)
  -- nothing that is dealt has a fault, so a segment gets no text only for a skip
  have hmissing : segments[i].substituted? t.escaper (Dealt.deal placeholders args) i = none ↔
      ∃ d ∈ Dealt.toSegment (Dealt.deal placeholders args) i, d.isSkip t.escaper = true := by
    rw [← Option.isNone_iff_eq_none, ← Option.not_isSome, hsome _ hat, List.not_all_eq_any_not,
      List.any_eq_true]
    refine exists_congr fun d => and_congr_right fun hd => ?_
    rw [Dealt.isSome_converted (haccepted d (List.mem_filter.mp hd).1), Bool.not_not]
  rw [hfillings, List.getElem?_map, List.getElem?_zipIdx, List.getElem?_eq_getElem hi,
    Option.map_some, Option.map_some, Nat.zero_add, Option.some_inj, hmissing]
  exact hskips.exists_isSkip_iff t.escaper hcount i

/-- **A query of all segments**: each segment of the template has a text, with all of its
placeholders replaced, and the query is these texts in order. -/
def EverySegment (t : Templater) (source : Text) (args : List Argument) (sql : Text) : Prop :=
  ∃ (template : Template) (placeholders : List Placeholder) (texts : List Text),
    Template.parse source = .ok template ∧ template.placeholders = .ok placeholders ∧
    template.segments.zipIdx.map (fun x =>
      x.1.substituted? t.escaper (Dealt.deal placeholders args) x.2) = texts.map some ∧
    sql = texts.flatten

/-- Without numbers, nothing is dropped. -/
theorem DropsExactly.everySegment {t : Templater} {source sql : Text} {args : List Argument}
    (h : DropsExactly t source args [] sql) : EverySegment t source args sql := by
  obtain ⟨template, placeholders, filled, supply, hparse, hlisted, -, hkept, hfilled, hmissing⟩ :=
    h.made
  have hlength : filled.length = template.segments.length := by
    rw [hfilled, List.length_map, List.length_zipIdx]
  have hall : ∀ o ∈ filled, o ≠ none := by
    rintro o ho rfl
    obtain ⟨i, hi⟩ := List.mem_iff_getElem?.mp ho
    have hlt : i < template.segments.length := hlength ▸ (List.getElem?_eq_some_iff.mp hi).1
    obtain ⟨k, p, -, -, hk⟩ := (hmissing i hlt).mp hi
    cases hk
  obtain ⟨texts, rfl⟩ : ∃ texts : List Text, filled = texts.map some := by
    refine ⟨filled.filterMap id, ?_⟩
    clear hkept hfilled hmissing hlength
    induction filled with
    | nil => rfl
    | cons o rest ih =>
      rcases o with _ | text
      · exact absurd rfl (hall none (List.mem_cons_self ..))
      · exact congrArg (some text :: ·) (ih fun o ho => hall o (List.mem_cons_of_mem _ ho))
  refine ⟨template, placeholders, texts, hparse, hlisted, hfilled.symm, ?_⟩
  rw [← hkept, keptText, List.filterMap_map]
  exact congrArg List.flatten List.filterMap_some

/-! ## Command lines -/

namespace Request
variable {r r' : Request}

theorem skips_pos_of_set {option : ValueOption} {value : Text} (h : r.set option value = .ok r')
    (hpos : ∀ p ∈ r.skips, 0 < p) : ∀ p ∈ r'.skips, 0 < p := by
  cases option with
  | skip =>
    rw [set] at h
    cases hread : readPosition? value with
    | none =>
      rw [hread] at h
      cases h
    | some position =>
      rw [hread] at h
      cases h
      intro p hp
      rcases List.mem_append.mp hp with hp | hp
      · exact hpos p hp
      · obtain ⟨digits, -, -, -, -, hposition, -⟩ := readPosition?_eq_some_iff.mp hread
        rwa [List.mem_singleton.mp hp]
  | dialect =>
    rw [set] at h
    split at h
    · cases h
      exact hpos
    · cases h
  | _ =>
    cases h
    exact hpos

/-- **One item**: positions are counted from one. -/
theorem skips_pos_of_take {item : Item} (h : r.take item = .ok r')
    (hpos : ∀ p ∈ r.skips, 0 < p) : ∀ p ∈ r'.skips, 0 < p := by
  cases item with
  | setting option value =>
    rw [take] at h
    cases hset : r.set option value with
    | error e =>
      rw [hset] at h
      cases h
    | ok next =>
      rw [hset] at h
      cases h
      exact skips_pos_of_set hset hpos
  | word word =>
    rw [take] at h
    split at h
    · cases h
    · cases h
      exact hpos
  | verbose =>
    cases h
    exact hpos
  | _ => cases h

theorem skips_pos_of_foldlM {items : List Item} (h : items.foldlM take r = .ok r')
    (hpos : ∀ p ∈ r.skips, 0 < p) : ∀ p ∈ r'.skips, 0 < p := by
  induction items generalizing r with
  | nil =>
    cases h
    exact hpos
  | cons item later ih =>
    rw [List.foldlM_cons] at h
    cases hstep : r.take item with
    | error stop =>
      rw [hstep] at h
      cases h
    | ok next =>
      rw [hstep] at h
      exact ih h (skips_pos_of_take hstep hpos)

end Request

/-- What finishing makes of the words of a subcommand. -/
theorem Subcommand.exists_of_parse_eq_ok {s : Subcommand}
    {finish : Request → Except UsageError Command} {words : List Text} {command : Command}
    (h : s.parse finish words = .ok command) :
    command = .help s.topic ∨ ∃ request, (s.itemsOf words).foldlM Request.take {} = .ok request ∧
      finish request = .ok command := by
  unfold parse at h
  split at h
  · rename_i request hitems
    exact .inr ⟨request, hitems, h⟩
  · cases h
    exact .inl rfl
  · cases h

/-- The positions of a request that a command line makes are counted from one. -/
theorem Command.skips_pos_of_parse {words : List Text} {r : RenderRequest}
    (h : parse words = .ok (.render r)) : ∀ p ∈ r.skips, 0 < p := by
  unfold parse at h
  split at h
  · cases h
  split at h
  · cases h
  split at h
  · obtain hhelp | ⟨request, hitems, hfinish⟩ := Subcommand.exists_of_parse_eq_ok h
    · cases hhelp
    · rw [Request.toRender] at hfinish
      cases htemplate : request.template with
      | error e =>
        rw [htemplate] at hfinish
        cases hfinish
      | ok template =>
        rw [htemplate] at hfinish
        cases hfinish
        exact Request.skips_pos_of_foldlM hitems fun p hp => absurd hp List.not_mem_nil
  split at h
  · obtain hhelp | ⟨request, -, hfinish⟩ := Subcommand.exists_of_parse_eq_ok h
    · cases hhelp
    · rw [Request.toInspect] at hfinish
      cases htemplate : request.template with
      | error e =>
        rw [htemplate] at hfinish
        cases hfinish
      | ok template =>
        rw [htemplate] at hfinish
        cases hfinish
  · cases h

namespace Program
variable {d : Directory} {r : RenderRequest}

/-- The arguments of a command line hold no skip. -/
theorem not_within_skip_of_loadArguments {source : ArgumentsSource} {args : List Argument}
    (h : loadArguments d source = .ok args) :
    ∀ arg ∈ args, ¬ Argument.Within .skip arg := by
  have hread : ∀ json, (readArguments json).mapError Failure.badArguments = .ok args →
      ∀ arg ∈ args, ¬ Argument.Within .skip arg := by
    intro json hjson arg harg hskip
    cases hargs : readArguments json with
    | error e =>
      rw [hargs] at hjson
      cases hjson
    | ok read =>
      rw [hargs] at hjson
      cases hjson
      exact (of_within_readArguments hargs harg hskip).1 rfl
  cases source with
  | empty =>
    cases h
    exact nofun
  | inline json => exact hread json h
  | file path =>
    rw [loadArguments] at h
    cases hjson : d.readText path with
    | error e =>
      rw [hjson] at h
      cases h
    | ok json =>
      rw [hjson] at h
      exact hread json h

/-- **The arguments that are handed to a build** hold skips at the positions asked for only. -/
theorem skipsOnlyAt_of_prepare {job : Job} (hpos : ∀ p ∈ r.skips, 0 < p)
    (h : prepare d r = .ok job) : SkipsOnlyAt r.skips job.args := by
  obtain ⟨file, source, args, all, -, -, hargs, hskips, rfl⟩ := exists_of_prepare_eq_ok h
  intro k arg harg
  have hmember := getElem?_insertSkips hpos hskips harg
  split
  · rename_i hk
    rwa [if_pos hk] at hmember
  · rename_i hk
    rw [if_neg hk] at hmember
    exact not_within_skip_of_loadArguments hargs arg hmember

/-- **Only skips that are asked for drop text.**  Arguments that are read hold no skip and no number
that is not finite, however deep.  Where rendering succeeds, a segment of the template is missing
from the query exactly if one of its placeholders has a number, counted from one, that is among the
positions of skips; all other segments are there with their placeholders replaced.  So without
positions every segment is there.  A command line can ask for no other positions than those that are
counted from one. -/
theorem render_drops_by_position :
    (∀ json args, readArguments json = .ok args → ∀ arg ∈ args, ∀ b : Argument, b.Within arg →
      b ≠ .skip ∧ ∀ x, b = .float x → ∃ y, x = .finite y) ∧
    (∀ (d : Directory) (r : RenderRequest) (sql : Text), (∀ p ∈ r.skips, 0 < p) →
      (render d r).result = .ok sql →
      ∃ job, prepare d r = .ok job ∧
        DropsExactly job.templater job.source job.args r.skips sql ∧
        (r.skips = [] → EverySegment job.templater job.source job.args sql)) ∧
    ∀ words r, Command.parse words = .ok (.render r) → ∀ p ∈ r.skips, 0 < p := by
  refine ⟨fun json args h arg harg b hb => of_within_readArguments h harg hb,
    fun d r sql hpos h => ?_, fun words r h => Command.skips_pos_of_parse h⟩
  rw [render_result] at h
  cases hjob : prepare d r with
  | error f =>
    rw [hjob] at h
    cases h
  | ok job =>
    rw [hjob] at h
    change (job.templater.build job.source job.args).mapError Failure.build = .ok sql at h
    cases hbuild : job.templater.build job.source job.args with
    | error e =>
      rw [hbuild] at h
      cases h
    | ok out =>
      rw [hbuild] at h
      cases h
      have hdrops := Templater.dropsExactly_of_build (skipsOnlyAt_of_prepare hpos hjob) hbuild
      refine ⟨job, rfl, hdrops, fun hnone => ?_⟩
      rw [hnone] at hdrops
      exact hdrops.everySegment

/-- The second placeholder gets a skip, so the first block is missing; the other segments are
there. -/
theorem render_drops_second :
    let r : RenderRequest := ⟨none, .inline "a?#\x7b b?d\x7d\x7b c?d\x7d".toList,
      .inline "[\"x\", 3]".toList, [2], none, false⟩
    (∀ p ∈ r.skips, 0 < p) ∧ (render ⟨[]⟩ r).result = .ok "a`x` c3".toList ∧
      ∃ job, prepare ⟨[]⟩ r = .ok job ∧
        DropsExactly job.templater job.source job.args r.skips "a`x` c3".toList := by
  intro r
  have hpos : ∀ p ∈ r.skips, 0 < p := by decide
  have hsome : (render ⟨[]⟩ r).result.toOption = some "a`x` c3".toList := by decide +kernel
  have hsql : (render ⟨[]⟩ r).result = .ok "a`x` c3".toList := by
    rcases hresult : (render ⟨[]⟩ r).result with f | sql
    · rw [hresult] at hsome
      cases hsome
    · rw [hresult] at hsome
      exact congrArg Except.ok (Option.some.inj hsome)
  obtain ⟨job, hjob, hdrops, -⟩ := render_drops_by_position.2.1 ⟨[]⟩ r _ hpos hsql
  exact ⟨hpos, hsql, job, hjob, hdrops⟩

end Program

end QueryTemplate
