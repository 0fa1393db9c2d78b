import QueryTemplate.Conversion
import QueryTemplate.Template.Segment

/-!
# Why a build fails

A `Cause` says what stopped the building of a query: malformed blocks, an unsupported character
after a question mark, an argument that cannot be written, or a wrong number of arguments.
Arguments are counted from one.  A `BuildError` adds the template that the build was about.

All wording is in `Cause.message` and `BuildError.message`.
-/

namespace QueryTemplate

/-- **The cause of a failed build.** -/
inductive Cause where
  /-- The braces of the template do not form blocks. -/
  | malformedBlock (e : BlockError)
  /-- The character after a question mark selects no conversion. -/
  | unsupportedSpecifier (next : Char)
  /-- The argument with this index cannot be written. -/
  | badArgument (index : Nat) (f : Fault)
  /-- More arguments were given than there are placeholders. -/
  | extraArguments (consumed given : Nat)
  /-- There is no argument for the placeholder with this index. -/
  | missingArgument (index : Nat)
  /-- The argument with this index asks for a block to be dropped but stands in none, and the
  configuration forbids that. -/
  | skipOutsideBlock (index : Nat)
  deriving DecidableEq

namespace Cause

/-- The message for a cause. -/
def message : Cause → String
  | .malformedBlock e => e.message
  | .unsupportedSpecifier next => s!"unsupported specifier ?{next}"
  | .badArgument index (.wrongKind kind) =>
    s!"invalid type of argument #{index}: {kind.name}"
  | .badArgument index (.notNumeric target value) =>
    s!"value of argument #{index} cannot be converted to {target.name}: {String.ofList value}"
  | .extraArguments consumed given =>
    s!"extra arguments: {consumed} placeholder(s) consumed, {given} argument(s) given"
  | .missingArgument index => s!"missing argument #{index}"
  | .skipOutsideBlock index => s!"argument #{index} is a skip outside of a conditional block"

/-- Whether the blocks of the template are malformed. -/
def isBlockError : Cause → Bool
  | .malformedBlock _ => true
  | _ => false

/-- Whether the number of arguments is wrong. -/
def isArityError : Cause → Bool
  | .extraArguments _ _ | .missingArgument _ => true
  | _ => false

end Cause

/-- A failed build. -/
structure BuildError where
  /-- The template that could not be built. -/
  template : Text
  /-- What stopped the build. -/
  cause : Cause
  deriving DecidableEq

/-- The message for a failed build: the template, and the cause on a line of its own. -/
def BuildError.message (e : BuildError) : String :=
  s!"failed to build query: {String.ofList e.template}\n{e.cause.message}"

end QueryTemplate
