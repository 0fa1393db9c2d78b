import QueryTemplate.Argument.Skips
import QueryTemplate.Cause
import QueryTemplate.Command.Basic
import QueryTemplate.Directory
import QueryTemplate.Json.Document

/-!
# Why the program fails

A `Failure` is whatever stops the program: a misused command line, a file that does not give what it
should, skips past the end of the arguments, or a failed build.  `Failure.message` is the wording;
where a document is not well formed, it is a heading, which names the document, and a remark after
it.  `Failure.report` is the wording with the cause of a failed build once more at its end.
-/

namespace QueryTemplate

/-- **Why the program fails.** -/
inductive Failure where
  /-- The command line is misused. -/
  | usage (e : UsageError)
  /-- The configuration file does not give a text. -/
  | configUnreadable (path : Text) (e : FileError)
  /-- The configuration file is not one. -/
  | configInvalid (path : Text)
  /-- The file with the template does not give a text. -/
  | templateUnreadable (path : Text) (e : FileError)
  /-- The file with the arguments does not give a text. -/
  | argumentsUnreadable (path : Text) (e : FileError)
  /-- The arguments are not an array. -/
  | badArguments (e : ArgumentsError)
  /-- A skip is to be put past the end of the arguments. -/
  | skipPastEnd (e : SkipPastEnd)
  /-- The query cannot be built. -/
  | build (e : BuildError)
  deriving DecidableEq

namespace Failure

/-- The heading of the message for a document that is not well formed. -/
def heading? : Failure → Option String
  | .configInvalid path => some s!"failed to parse config file {String.ofList path}:"
  | .badArguments .notJson => some "invalid arguments JSON:"
  | _ => none

/-- The message for a failure. -/
def message : Failure → String
  | .usage e => e.message
  | .configUnreadable path e => s!"failed to read config file {String.ofList path}: {e.message}"
  | f@(.configInvalid _) => f.heading?.getD "" ++ " not a configuration"
  | .templateUnreadable path e => s!"failed to read template {String.ofList path}: {e.message}"
  | .argumentsUnreadable path e => s!"failed to read arguments {String.ofList path}: {e.message}"
  | f@(.badArguments .notJson) => f.heading?.getD "" ++ " not a document"
  | .badArguments .notArray => "arguments must be a JSON array"
  | .skipPastEnd e => e.message
  | .build e => e.message

/-- The message, and after it the cause of a failed build. -/
def report : Failure → String
  | .build e => s!"{e.message}: {e.cause.message}"
  | f => f.message

end Failure

end QueryTemplate
