import QueryTemplate.Proofs.Filling

/-!
# What a build leaves in the log

A build writes to the log in two places: where the template cannot be read, and where a template
that was read has been filled.  Every build passes through exactly one of them, so it leaves exactly
one entry, and the entry is the one that its outcome calls for (`Templater.exists_buildLogged_eq`):
that a query was built, with the number of segments and arguments, or that the build failed, with
the cause.  Texts are clipped on the way into the log and nowhere else, so how much the log may show
makes no difference to what is built (`Templater.build_congr`).
-/

namespace QueryTemplate

/-- **The entry that an outcome calls for**, where the log may show so many bytes of a text. -/
inductive BuildEvent.Reports (limit : Option UInt64) (source : Text) (argCount : Nat) :
    Except BuildError Text → BuildEvent → Prop
  /-- A query was built: out of how many segments and arguments, and the query, clipped. -/
  | built {segments : List Segment} {sql : Text} (hsplit : Segment.split source = .ok segments) :
    Reports limit source argCount (.ok sql)
      (.built segments.length argCount (Text.clip (limit.map UInt64.toNat) sql))
  /-- The build failed: the template, clipped, and the cause. -/
  | failed (cause : Cause) :
    Reports limit source argCount (.error ⟨source, cause⟩)
      (.failed (Text.clip (limit.map UInt64.toNat) source) cause)

namespace BuildEvent.Reports
variable {limit : Option UInt64} {source : Text} {argCount : Nat}
  {outcome : Except BuildError Text} {event : BuildEvent}

/-- The headline tells whether a query was built. -/
theorem message_eq (h : event.Reports limit source argCount outcome) :
    event.message = if outcome.isOk then "built query" else "failed to build query" := by
  cases h <;> rfl

/-- The details of a failure are the template, clipped, and the text of the cause. -/
theorem details_eq {e : BuildError} (h : event.Reports limit source argCount (.error e)) :
    event.details = "template=".toList ++ Text.clip (limit.map UInt64.toNat) source ++
      s!" error={e.cause.message}".toList := by
  cases h
  rfl

end BuildEvent.Reports

namespace Templater
variable (t : Templater) {source : Text}

/-- **Rendering leaves one entry**, the one that the outcome calls for. -/
theorem exists_renderLogged_eq {segments : List Segment}
    (hsplit : Segment.split source = .ok segments) (args : List Argument) :
    ∃ event, t.renderLogged ⟨source, segments⟩ args =
        ⟨t.render ⟨source, segments⟩ args, [event]⟩ ∧
      event.Reports t.config.logLimit source args.length (t.render ⟨source, segments⟩ args) := by
  rw [t.render_eq]
  unfold renderLogged
  dsimp only
  cases hfill : Template.failing source (Template.fill t.escaper t.config.skipOutsideBlock
      ⟨source, segments⟩ args) with
  | ok sql => exact ⟨_, rfl, .built hsplit⟩
  | error e =>
    -- an error of a template is about that template
    obtain ⟨cause, -, rfl⟩ := Template.failing_eq_error_iff.mp hfill
    exact ⟨_, rfl, .failed cause⟩

/-- A template that was read is rendered as it is built from its text, log included. -/
theorem buildLogged_of_parse {template : Template} (h : Template.parse source = .ok template)
    (args : List Argument) : t.buildLogged source args = t.renderLogged template args := by
  rw [buildLogged, h]

/-- **Building leaves one entry**, the one that the outcome calls for, wherever it fails. -/
theorem exists_buildLogged_eq (source : Text) (args : List Argument) :
    ∃ event, t.buildLogged source args = ⟨t.build source args, [event]⟩ ∧
      event.Reports t.config.logLimit source args.length (t.build source args) := by
  cases hsplit : Segment.split source with
  | ok segments =>
    have hparse : Template.parse source = .ok ⟨source, segments⟩ :=
      Template.parse_eq_ok_iff.mpr ⟨segments, hsplit, rfl⟩
    have hbuild : t.build source args = t.render ⟨source, segments⟩ args := by
      rw [build, t.buildLogged_of_parse hparse]
      rfl
    rw [t.buildLogged_of_parse hparse, hbuild]
    exact t.exists_renderLogged_eq hsplit args
  | error b =>
    have hparse : Template.parse source = .error ⟨source, .malformedBlock b⟩ := by
      rw [Template.parse, hsplit]
      rfl
    rw [t.build_of_split_error args hsplit, buildLogged, hparse]
    exact ⟨_, rfl, .failed _⟩

/-- Templaters that differ at most in what the log may show build the same. -/
theorem build_congr (t' : Templater) (hescaper : t.escaper = t'.escaper)
    (hpolicy : t.config.skipOutsideBlock = t'.config.skipOutsideBlock) (source : Text)
    (args : List Argument) : t.build source args = t'.build source args := by
  rw [t.build_eq, t'.build_eq]
  refine congrArg _ (funext fun template => ?_)
  rw [t.render_eq, t'.render_eq, hescaper, hpolicy]

/-- **Every build leaves exactly one entry, which agrees with its outcome.**  For a query it is the
headline that one was built, with the number of segments of the template, the number of arguments
and the query, clipped; for a failure, of the blocks or of anything behind them, it is the headline
that the build failed, with the template, clipped, and the text of the cause.  A template that was
read before leaves the same outcome and the same entry, and the outcome does not depend on how much
the log may show. -/
theorem build_logs_one_entry (source : Text) (args : List Argument) :
    (∃ event, t.buildLogged source args = ⟨t.build source args, [event]⟩ ∧
      event.Reports t.config.logLimit source args.length (t.build source args) ∧
      event.message =
        (if (t.build source args).isOk then "built query" else "failed to build query") ∧
      ∀ e, t.build source args = .error e →
        event.details = "template=".toList ++
          Text.clip (t.config.logLimit.map UInt64.toNat) source ++
          s!" error={e.cause.message}".toList) ∧
    (∀ b, Segment.split source = .error b →
      t.build source args = .error ⟨source, .malformedBlock b⟩) ∧
    (∀ template, Template.parse source = .ok template →
      t.renderLogged template args = t.buildLogged source args) ∧
    ∀ limit, (Templater.mk t.escaper { t.config with logLimit := limit }).build source args =
      t.build source args := by
  obtain ⟨event, hlogged, hreports⟩ := t.exists_buildLogged_eq source args
  refine ⟨⟨event, hlogged, hreports, hreports.message_eq, fun e he => ?_⟩,
    fun b => t.build_of_split_error args, fun template h => (t.buildLogged_of_parse h args).symm,
    fun limit =>
      build_congr ⟨t.escaper, { t.config with logLimit := limit }⟩ t rfl rfl source args⟩
  rw [he] at hreports
  exact hreports.details_eq

/-- A dropped block counts among the segments and its skip among the arguments; the query is clipped
in the log alone.  A block that is not closed is logged with its cause. -/
theorem build_logs_dropped_block :
    let t := forDialect .mysql ⟨.error, some 3⟩
    (∃ template, Template.parse "a = ?d\x7b ?\x7d".toList = .ok template ∧
      t.renderLogged template [.null, .skip] =
        ⟨.ok "a = NULL".toList, [.built 2 2 "a =...".toList]⟩) ∧
      ∃ event, t.buildLogged "\x7b ?d".toList [] =
        ⟨.error ⟨"\x7b ?d".toList, .malformedBlock .unclosed⟩, [event]⟩ ∧
        event.details = "template=\x7b ?... error=unclosed block in template".toList := by
  intro t
  constructor
  · have hsplit : Segment.split "a = ?d\x7b ?\x7d".toList =
        .ok [⟨"a = ?d".toList, .always, 0⟩, ⟨" ?".toList, .block, 7⟩] := rfl
    have hparse := Template.parse_eq_ok_iff.mpr ⟨_, hsplit, rfl⟩
    have hbuilt : t.build "a = ?d\x7b ?\x7d".toList [.null, .skip] = .ok "a = NULL".toList :=
      (t.build_of_split _ hsplit).trans rfl
    obtain ⟨⟨event, hlogged, hreports, -, -⟩, -, hrendered, -⟩ :=
      build_logs_one_entry t "a = ?d\x7b ?\x7d".toList [.null, .skip]
    rw [hbuilt] at hlogged hreports
    refine ⟨_, hparse, (hrendered _ hparse).trans (hlogged.trans ?_)⟩
    cases hreports with
    | built h =>
      cases hsplit.symm.trans h
      rfl
  · obtain ⟨⟨event, hlogged, -, -, hdetails⟩, hmalformed, -, -⟩ :=
      build_logs_one_entry t "\x7b ?d".toList []
    have hunclosed := hmalformed .unclosed rfl
    rw [hunclosed] at hlogged
    refine ⟨event, hlogged, (hdetails _ hunclosed).trans ?_⟩
    decide +kernel

end Templater

end QueryTemplate
