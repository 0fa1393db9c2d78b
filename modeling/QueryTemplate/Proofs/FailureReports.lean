import QueryTemplate.Program

/-!
# What a failed run prints

A failed run prints one text, the report of its failure, and nothing else
(`Program.Outcome.Reports`).  `Failure.ReadsAs` says what the report of each failure reads like.

A report tells which stage failed, whatever words, paths, templates and values are quoted in it, for
what is quoted stands behind words of the stage's own.  A few of their letters are enough:
`Stage.ofReport?` looks at no more than three, and finds the stage in every report
(`Failure.ReadsAs.ofReport?_eq`).  So failures of different stages are never reported alike, and no
report is empty.
-/

namespace QueryTemplate

/-- The stages that can fail, in their order. -/
inductive Stage where
  | commandLine | config | template | arguments | skips | build
  deriving DecidableEq

/-- The stage that a failure belongs to. -/
def Failure.stage : Failure → Stage
  | .usage _ => .commandLine
  | .configUnreadable _ _ | .configInvalid _ => .config
  | .templateUnreadable _ _ => .template
  | .argumentsUnreadable _ _ | .badArguments _ => .arguments
  | .skipPastEnd _ => .skips
  | .build _ => .build

/-! ## The wording -/

/-- **What is said about a misused command line.** -/
inductive UsageError.ReadsAs : UsageError → String → Prop where
  | unknownCommand (word : Text) :
    ReadsAs (.unknownCommand word) ("unknown command: " ++ String.ofList word)
  | missingValue (option : ValueOption) :
    ReadsAs (.missingValue option) (option.flag ++ " requires a value")
  | unknownArgument (word : Text) :
    ReadsAs (.unknownArgument word) ("unknown argument: " ++ String.ofList word)
  | unexpectedArgument (word : Text) :
    ReadsAs (.unexpectedArgument word) ("unexpected argument: " ++ String.ofList word)
  | badPosition (value : Text) : ReadsAs (.badPosition value)
    ("--skip expects a 1-based argument position, got: " ++ String.ofList value)
  | unknownDialect (value : Text) : ReadsAs (.unknownDialect value)
    ("unknown dialect: " ++ String.ofList value.asciiLowercase)
  | twoTemplates : ReadsAs .twoTemplates "pass either a template or --file, not both"
  | noTemplate : ReadsAs .noTemplate "missing template: pass it inline or with --file"

/-- **What the report of a failure reads like.**  What is remarked on a document that is not well
formed is left open.  The cause of a failed build is told twice. -/
inductive Failure.ReadsAs : Failure → String → Prop where
  | usage {e : UsageError} {message : String} (h : e.ReadsAs message) : ReadsAs (.usage e) message
  | configUnreadable (path : Text) (e : FileError) : ReadsAs (.configUnreadable path e)
    ("failed to read config file " ++ String.ofList path ++ ": " ++ e.message)
  | configInvalid (path : Text) (remark : String) : ReadsAs (.configInvalid path)
    ("failed to parse config file " ++ String.ofList path ++ ": " ++ remark)
  | templateUnreadable (path : Text) (e : FileError) : ReadsAs (.templateUnreadable path e)
    ("failed to read template " ++ String.ofList path ++ ": " ++ e.message)
  | argumentsUnreadable (path : Text) (e : FileError) : ReadsAs (.argumentsUnreadable path e)
    ("failed to read arguments " ++ String.ofList path ++ ": " ++ e.message)
  | notJson (remark : String) : ReadsAs (.badArguments .notJson)
    ("invalid arguments JSON: " ++ remark)
  | notArray : ReadsAs (.badArguments .notArray) "arguments must be a JSON array"
  | skipPastEnd (position count : Nat) : ReadsAs (.skipPastEnd ⟨position, count⟩)
    ("--skip " ++ toString position ++ " is past the end of the argument list (" ++
      toString count ++ " argument(s))")
  | build (source : Text) (cause : Cause) : ReadsAs (.build ⟨source, cause⟩)
    ("failed to build query: " ++ String.ofList source ++ "\n" ++ cause.message ++ ": " ++
      cause.message)

theorem UsageError.readsAs_message (e : UsageError) : e.ReadsAs e.message := by
  cases e with
  | unknownCommand word => exact .unknownCommand word
  | missingValue option => exact .missingValue option
  | unknownArgument word => exact .unknownArgument word
  | unexpectedArgument word => exact .unexpectedArgument word
  | badPosition value => exact .badPosition value
  | unknownDialect value => exact .unknownDialect value
  | twoTemplates => exact .twoTemplates
  | noTemplate => exact .noTemplate

/-- **Every report reads as it should.** -/
theorem Failure.readsAs_report (f : Failure) : f.ReadsAs f.report := by
  cases f with
  | usage e => exact .usage e.readsAs_message
  | configUnreadable path e => exact .configUnreadable path e
  | configInvalid path =>
    -- the message counts the blank behind the colon to the remark
    have hblank : ":" ++ " not a configuration" = ": " ++ "not a configuration" := rfl
    have hreport : (configInvalid path).report =
        "failed to parse config file " ++ String.ofList path ++ ": " ++ "not a configuration" := by
      change "failed to parse config file " ++ String.ofList path ++ ":" ++
        " not a configuration" = _
      rw [String.append_assoc, hblank, ← String.append_assoc]
    exact hreport ▸ .configInvalid path _
  | templateUnreadable path e => exact .templateUnreadable path e
  | argumentsUnreadable path e => exact .argumentsUnreadable path e
  | badArguments e =>
    cases e with
    | notJson => exact .notJson "not a document"
    | notArray => exact .notArray
  | skipPastEnd e => exact .skipPastEnd e.position e.count
  | build e => exact .build e.template e.cause

/-! ## What a report tells -/

/-- The stage that a report comes from.  The first letter of the report tells, or else the first
letter of a word in which the reports of several stages differ. -/
def Stage.ofReport? : Text → Option Stage
  | [] => none
  | first :: rest =>
    if first ∈ ['u', 'p', 'm'] then some .commandLine
    else if first ∈ ['i', 'a'] then some .arguments
    else if first = '-' then some (if rest[6]?.any Char.isDigit then .skips else .commandLine)
    -- all others begin with "failed to ", and some of them with "failed to read "
    else if rest[9]? = some 'b' then some .build
    else if rest[9]? = some 'p' ∨ rest[14]? = some 'c' then some .config
    else if rest[14]? = some 't' then some .template
    else some .arguments

theorem UsageError.ReadsAs.ofReport?_eq {e : UsageError} {message : String}
    (h : e.ReadsAs message) : Stage.ofReport? message.toList = some .commandLine := by
  cases h with
  | missingValue option => cases option <;> simp [Stage.ofReport?, ValueOption.flag]
  | _ => simp [Stage.ofReport?]

/-- **A report tells the stage that failed.** -/
theorem Failure.ReadsAs.ofReport?_eq {f : Failure} {report : String} (h : f.ReadsAs report) :
    Stage.ofReport? report.toList = some f.stage := by
  cases h with
  | usage h => exact h.ofReport?_eq
  | skipPastEnd position count =>
    -- what follows the option is a digit here, and a letter where the command line is misused
    obtain ⟨digit, more, hnumeral⟩ := List.exists_cons_of_ne_nil (numeral_ne_nil position)
    have hdigit : digit.isDigit = true :=
      isDigit_of_mem_numeral (hnumeral ▸ List.mem_cons_self ..)
    rw [numeral] at hnumeral
    simp [Stage.ofReport?, hnumeral, hdigit, Failure.stage]
  | _ => simp [Stage.ofReport?, Failure.stage]

/-- Failures of different stages are never reported alike. -/
theorem Failure.ReadsAs.stage_eq {f g : Failure} {report : String} (hf : f.ReadsAs report)
    (hg : g.ReadsAs report) : f.stage = g.stage :=
  Option.some_inj.mp (hf.ofReport?_eq.symm.trans hg.ofReport?_eq)

theorem Failure.ReadsAs.ne_empty {f : Failure} {report : String} (h : f.ReadsAs report) :
    report ≠ "" := by
  rintro rfl
  cases h.ofReport?_eq

namespace Program

/-! ## Runs that fail -/

/-- **A run reports a failure**: it prints no result, and besides nothing but the report, with a line
end behind it. -/
structure Outcome.Reports (o : Outcome) (f : Failure) : Prop where
  /-- The run failed. -/
  exitCode : o.exitCode = 1
  /-- There is no result, not even a part of one. -/
  stdout : o.stdout = []
  /-- There is one report. -/
  stderr : o.stderr = f.report.toList ++ ['\n']
  /-- It reads as it should. -/
  wording : f.ReadsAs f.report

theorem reports_outcomeOf_error (f : Failure) : (outcomeOf (.error f)).Reports f :=
  ⟨rfl, rfl, rfl, f.readsAs_report⟩

/-- **What is printed tells which stage failed.** -/
theorem Outcome.Reports.stage_eq {o : Outcome} {f g : Failure} (hf : o.Reports f)
    (hg : o.Reports g) : f.stage = g.stage := by
  have hlines : f.report.toList ++ ['\n'] = g.report.toList ++ ['\n'] :=
    hf.stderr.symm.trans hg.stderr
  have hreports : f.report = g.report := String.toList_inj.mp (List.append_cancel_right hlines)
  exact hf.wording.stage_eq (hreports ▸ hg.wording)

end Program

end QueryTemplate
