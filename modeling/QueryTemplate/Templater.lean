import QueryTemplate.BuildEvent
import QueryTemplate.Template.Filling

/-!
# Templaters

A `Templater` builds queries for one database and under one configuration.  `Templater.build` takes
a template's text; `Templater.render` takes a template that was read before, so that it need not be
read again for each query.

Every build writes one entry to the log: `Templater.buildLogged` and `Templater.renderLogged` give
it together with the result, and the functions without a log are defined from these.
-/

namespace QueryTemplate

/-- **A templater**: the rules of a database, and a configuration. -/
structure Templater where
  /-- How texts and names are written for the database. -/
  escaper : Escaper
  /-- The configuration. -/
  config : Config := .default

namespace Templater

/-- The templater for a dialect, under a configuration. -/
def forDialect (d : Dialect) (config : Config := .default) : Templater :=
  ⟨d.escaper, config⟩

/-- A text as the log shows it. -/
def clipForLog (t : Templater) (text : Text) : Text :=
  Text.clip (t.config.logLimit.map UInt64.toNat) text

/-- The entry for a template that was filled. -/
def builtEvent (t : Templater) (template : Template) (argCount : Nat) (sql : Text) : BuildEvent :=
  .built template.segments.length argCount (t.clipForLog sql)

/-- The entry for a build that failed. -/
def failedEvent (t : Templater) (e : BuildError) : BuildEvent :=
  .failed (t.clipForLog e.template) e.cause

/-- Fills a template and logs the outcome. -/
def renderLogged (t : Templater) (template : Template) (args : List Argument) :
    Logged (Except BuildError Text) :=
  let result := Template.failing template.source
    (template.fill t.escaper t.config.skipOutsideBlock args)
  match result with
  | .ok sql => ⟨result, [t.builtEvent template args.length sql]⟩
  | .error e => ⟨result, [t.failedEvent e]⟩

/-- Reads a template and fills it, and logs the outcome. -/
def buildLogged (t : Templater) (source : Text) (args : List Argument) :
    Logged (Except BuildError Text) :=
  match Template.parse source with
  | .ok template => t.renderLogged template args
  | .error e => ⟨.error e, [t.failedEvent e]⟩

/-- **Rendering**: the query that a template and its arguments make. -/
def render (t : Templater) (template : Template) (args : List Argument) : Except BuildError Text :=
  (t.renderLogged template args).result

/-- **Building**: the query that a template's text and its arguments make. -/
def build (t : Templater) (source : Text) (args : List Argument) : Except BuildError Text :=
  (t.buildLogged source args).result

/-- Rendering is filling, with the template added to an error. -/
theorem render_eq (t : Templater) (template : Template) (args : List Argument) :
    t.render template args =
      Template.failing template.source
        (template.fill t.escaper t.config.skipOutsideBlock args) := by
  unfold render renderLogged
  dsimp only
  split <;> rfl

/-- Building is reading, then rendering. -/
theorem build_eq (t : Templater) (source : Text) (args : List Argument) :
    t.build source args =
      (Template.parse source).bind fun template => t.render template args := by
  unfold build buildLogged
  cases Template.parse source <;> rfl

end Templater

end QueryTemplate
