import QueryTemplate.Command.Help
import QueryTemplate.ConfigFile
import QueryTemplate.Failure
import QueryTemplate.Report
import QueryTemplate.Templater

/-!
# The program

The program turns the words of its command line and the files around it into what it prints and an
exit code.  Rendering goes through fixed stages, and the first one that fails is reported: the
command line, the configuration, the template, the arguments, the skips among them, and at last the
build.  A report on a template needs the template alone.

Everything here is a function.  Reading files beforehand and printing afterwards is left to whoever
runs it; `Program.paths` tells which files a command line may ask for.
-/

namespace QueryTemplate.Program

/-- Where the configuration is looked for if no file is named.  Nothing needs to be there. -/
def defaultConfigPath : Text :=
  "sqltpl.toml".toList

/-- The configuration in a file. -/
def readConfig (d : Directory) (path : Text) : Except Failure ConfigFile := do
  let text ← (d.readText path).mapError (Failure.configUnreadable path)
  match ConfigFile.read? text with
  | some f => return f
  | none => throw (.configInvalid path)

/-- **The configuration stage.**  A file that was named must be there; the default one need not. -/
def loadConfig (d : Directory) : Option Text → Except Failure ConfigFile
  | some path => readConfig d path
  | none =>
    if d.contains defaultConfigPath then readConfig d defaultConfigPath
    else .ok ConfigFile.default

/-- A text without the line ends at its end. -/
def trimLineEnds (t : Text) : Text :=
  (t.reverse.dropWhile fun c => c = '\n' || c = '\x0d').reverse

/-- **The template stage.**  A template from a file loses the line ends at its end. -/
def loadTemplate (d : Directory) : TemplateSource → Except Failure Text
  | .inline text => .ok text
  | .file path => ((d.readText path).mapError (Failure.templateUnreadable path)).map trimLineEnds

/-- **The arguments stage.** -/
def loadArguments (d : Directory) : ArgumentsSource → Except Failure (List Argument)
  | .empty => .ok []
  | .inline json => (readArguments json).mapError .badArguments
  | .file path => do
    let json ← (d.readText path).mapError (Failure.argumentsUnreadable path)
    (readArguments json).mapError .badArguments

/-- What is needed for a build. -/
structure Job where
  /-- The templater. -/
  templater : Templater
  /-- The template. -/
  source : Text
  /-- The arguments, skips included. -/
  args : List Argument

/-- All stages before the build, in order. -/
def prepare (d : Directory) (r : RenderRequest) : Except Failure Job := do
  let file ← loadConfig d r.config
  let source ← loadTemplate d r.template
  let args ← loadArguments d r.arguments
  let args ← (insertSkips args r.skips).mapError .skipPastEnd
  return ⟨.forDialect (r.dialect.getD file.dialect) file.config, source, args⟩

/-- **Rendering**: the query that is asked for, and what the log says about it. -/
def render (d : Directory) (r : RenderRequest) : Logged (Except Failure Text) :=
  match prepare d r with
  | .error f => ⟨.error f, []⟩
  | .ok job => (job.templater.buildLogged job.source job.args).map (Except.mapError .build)

/-- **Reporting**: the report that is asked for. -/
def inspect (d : Directory) (template : TemplateSource) : Except Failure Text := do
  let source ← loadTemplate d template
  (describe source).mapError .build

/-! ## What is printed -/

/-- A text with a line end after it. -/
def endLine (t : Text) : Text :=
  t ++ ['\n']

/-- What a command prints as its result, and what the log says about it. -/
def perform (d : Directory) : Command → Logged (Except Failure Text)
  | .help topic => ⟨.ok topic.text, []⟩
  | .inspect template => ⟨inspect d template, []⟩
  | .render r => (render d r).map (Except.map endLine)

/-- What the words of a command line print as their result. -/
def answer (d : Directory) (words : List Text) : Logged (Except Failure Text) :=
  match Command.parse words with
  | .ok command => perform d command
  | .error e => ⟨.error (.usage e), []⟩

/-- Whether the words of a command line ask for the log to be shown. -/
def isVerbose (words : List Text) : Bool :=
  match Command.parse words with
  | .ok (.render r) => r.verbose
  | .ok _ | .error _ => false

/-- What a run of the program leaves behind. -/
structure Outcome where
  /-- Zero if all went well. -/
  exitCode : Nat
  /-- What is printed as the result. -/
  stdout : Text
  /-- What is printed besides. -/
  stderr : Text
  deriving DecidableEq

/-- The outcome of what went well or failed. -/
def outcomeOf : Except Failure Text → Outcome
  | .ok text => ⟨0, text, []⟩
  | .error f => ⟨1, [], endLine f.report.toList⟩

/-- The lines of the log. -/
def logText (events : List BuildEvent) : Text :=
  events.flatMap fun e => endLine e.line

/-- **A run of the program**, given the words after its name. -/
def run (d : Directory) (words : List Text) : Outcome :=
  let logged := answer d words
  let outcome := outcomeOf logged.result
  if isVerbose words then { outcome with stderr := logText logged.events ++ outcome.stderr }
  else outcome

/-! ## What is read -/

/-- The path of a template, if it is in a file. -/
def templatePath : TemplateSource → List Text
  | .file path => [path]
  | .inline _ => []

/-- The path of the arguments, if they are in a file. -/
def argumentsPath : ArgumentsSource → List Text
  | .file path => [path]
  | .inline _ | .empty => []

/-- The paths of all files that a command line may ask for. -/
def paths (words : List Text) : List Text :=
  match Command.parse words with
  | .ok (.render r) =>
    r.config.getD defaultConfigPath :: (templatePath r.template ++ argumentsPath r.arguments)
  | .ok (.inspect template) => templatePath template
  | .ok (.help _) | .error _ => []

end QueryTemplate.Program
