import QueryTemplate.Escaper
import QueryTemplate.Number.Numeral

/-!
# Commands

The words of a command line ask for help, for a template to be rendered, or for a report on one.
`Command.parse` finds out which.

The words after the subcommand are first read as **items** (`itemsOf`): an option with its value, a
flag, a word that stands for itself, or something that no subcommand understands.  An option's value
is the next word, whatever it looks like, or what follows an equals sign.  The items are then taken
in one after the other (`Request.take`), and the first one that cannot be is reported; a request for
help is answered as soon as it is seen.  An option that is given twice counts as given last, except
that skips are collected.
-/

namespace QueryTemplate

/-- What help is asked for. -/
inductive HelpTopic where
  /-- The program as a whole. -/
  | root
  /-- The subcommand that renders. -/
  | render
  /-- The subcommand that reports. -/
  | inspect
  deriving DecidableEq

/-- Where a template is taken from. -/
inductive TemplateSource where
  /-- The command line itself. -/
  | inline (text : Text)
  /-- A file. -/
  | file (path : Text)
  deriving DecidableEq

/-- Where arguments are taken from. -/
inductive ArgumentsSource where
  /-- There are none. -/
  | empty
  /-- The command line itself. -/
  | inline (json : Text)
  /-- A file. -/
  | file (path : Text)
  deriving DecidableEq

/-- What is to be rendered, and how. -/
structure RenderRequest where
  /-- The configuration file, if one was named. -/
  config : Option Text
  /-- The template. -/
  template : TemplateSource
  /-- The arguments, without skips. -/
  arguments : ArgumentsSource
  /-- The positions of skips, from one, as they were given. -/
  skips : List Nat
  /-- The dialect, if one was named. -/
  dialect : Option Dialect
  /-- Whether the log is to be shown. -/
  verbose : Bool
  deriving DecidableEq

/-- **What a command line asks for.** -/
inductive Command where
  /-- Help. -/
  | help (topic : HelpTopic)
  /-- A template, rendered. -/
  | render (request : RenderRequest)
  /-- A report on a template. -/
  | inspect (template : TemplateSource)
  deriving DecidableEq

/-! ## Options -/

/-- The options that take a value. -/
inductive ValueOption where
  | config | file | args | argsFile | skip | dialect
  deriving DecidableEq

/-- How an option is written. -/
def ValueOption.flag : ValueOption → String
  | .config => "--config"
  | .file => "--file"
  | .args => "--args"
  | .argsFile => "--args-file"
  | .skip => "--skip"
  | .dialect => "--dialect"

/-- What is wrong with a command line. -/
inductive UsageError where
  /-- There is no such subcommand. -/
  | unknownCommand (word : Text)
  /-- The option stands at the end, without its value. -/
  | missingValue (option : ValueOption)
  /-- The word begins like an option but is none. -/
  | unknownArgument (word : Text)
  /-- The word comes after the template. -/
  | unexpectedArgument (word : Text)
  /-- The value is not a position. -/
  | badPosition (value : Text)
  /-- The value is not the name of a dialect. -/
  | unknownDialect (value : Text)
  /-- There is a template on the command line and one in a file. -/
  | twoTemplates
  /-- There is no template. -/
  | noTemplate
  deriving DecidableEq

/-- The message for a misused command line. -/
def UsageError.message : UsageError → String
  | .unknownCommand word => s!"unknown command: {String.ofList word}"
  | .missingValue option => s!"{option.flag} requires a value"
  | .unknownArgument word => s!"unknown argument: {String.ofList word}"
  | .unexpectedArgument word => s!"unexpected argument: {String.ofList word}"
  | .badPosition value =>
    s!"--skip expects a 1-based argument position, got: {String.ofList value}"
  | .unknownDialect value => Dialect.unknownMessage value
  | .twoTemplates => "pass either a template or --file, not both"
  | .noTemplate => "missing template: pass it inline or with --file"

/-- A subcommand with options. -/
structure Subcommand where
  /-- What it is called. -/
  name : String
  /-- The help on it. -/
  topic : HelpTopic
  /-- The options it knows. -/
  options : List ValueOption
  /-- Whether it knows the flag that shows the log. -/
  knowsVerbose : Bool

/-- The subcommand that renders. -/
def Subcommand.render : Subcommand where
  name := "render"
  topic := .render
  options := [.config, .file, .args, .argsFile, .skip, .dialect]
  knowsVerbose := true

/-- The subcommand that reports. -/
def Subcommand.inspect : Subcommand where
  name := "inspect"
  topic := .inspect
  options := [.file]
  knowsVerbose := false

/-! ## Items -/

/-- **An item of a command line.** -/
inductive Item where
  /-- A request for help. -/
  | help
  /-- The flag that shows the log. -/
  | verbose
  /-- An option and its value. -/
  | setting (option : ValueOption) (value : Text)
  /-- An option that lacks its value. -/
  | missingValue (option : ValueOption)
  /-- A word that begins like an option but is none. -/
  | unknown (word : Text)
  /-- A word that stands for itself. -/
  | word (word : Text)
  deriving DecidableEq

/-- What a single word can be. -/
inductive WordForm where
  /-- An item of its own. -/
  | item (i : Item)
  /-- An option whose value is the next word. -/
  | opener (option : ValueOption)
  deriving DecidableEq

/-- A text without the given beginning, which is taken away as often as it is there. -/
def stripRepeatedly (start : Text) (t : Text) : Text :=
  if start ≠ [] ∧ start.isPrefixOf t then stripRepeatedly start (t.drop start.length) else t
termination_by t.length
decreasing_by
  rename_i h
  have longer : start.length ≤ t.length :=
    List.IsPrefix.length_le (List.isPrefixOf_iff_prefix.mp h.2)
  have positive : 0 < start.length := List.length_pos_iff.mpr h.1
  rw [List.length_drop]
  omega

/-- The value in a word that consists of an option, an equals sign and a value. -/
def ValueOption.assigned? (o : ValueOption) (word : Text) : Option Text :=
  let start := o.flag.toList ++ ['=']
  if start.isPrefixOf word then some (stripRepeatedly start word) else none

namespace Subcommand

/-- What a word is to a subcommand. -/
def form (s : Subcommand) (word : Text) : WordForm :=
  if word = "-h".toList ∨ word = "--help".toList then .item .help
  else
    match s.options.find? fun o => o.flag.toList = word with
    | some o => .opener o
    | none =>
      match s.options.findSome? fun o => (o.assigned? word).map (Item.setting o) with
      | some setting => .item setting
      | none =>
        if s.knowsVerbose ∧ (word = "-v".toList ∨ word = "--verbose".toList) then .item .verbose
        else if word.head? = some '-' ∧ 1 < word.length then .item (.unknown word)
        else .item (.word word)

/-- **The items** that a list of words consists of. -/
def itemsOf (s : Subcommand) : List Text → List Item
  | [] => []
  | word :: rest =>
    match s.form word with
    | .item i => i :: itemsOf s rest
    | .opener o =>
      match rest with
      | [] => [.missingValue o]
      | value :: later => .setting o value :: itemsOf s later

end Subcommand

/-! ## Taking items in -/

/-- What has been asked for so far. -/
structure Request where
  config : Option Text := none
  file : Option Text := none
  word : Option Text := none
  arguments : ArgumentsSource := .empty
  skips : List Nat := []
  dialect : Option Dialect := none
  verbose : Bool := false
  deriving DecidableEq

/-- Why taking in items ends before the last of them. -/
inductive Stop where
  /-- Help was asked for. -/
  | help
  /-- An item cannot be taken in. -/
  | misuse (e : UsageError)
  deriving DecidableEq

/-- The largest position that can be asked for. -/
def maxPosition : Nat := UInt64.size - 1

/-- The position that a value writes: digits, perhaps after a plus sign, for a number that is not
zero and not too large. -/
def readPosition? (value : Text) : Option Nat :=
  let digits := if value.head? = some '+' then value.tail else value
  (readNatural? digits).filter fun n => 0 < n ∧ n ≤ maxPosition

namespace Request

/-- Takes in the value of an option. -/
def set (r : Request) (option : ValueOption) (value : Text) : Except UsageError Request :=
  match option with
  | .config => .ok { r with config := some value }
  | .file => .ok { r with file := some value }
  | .args => .ok { r with arguments := .inline value }
  | .argsFile => .ok { r with arguments := .file value }
  | .skip =>
    match readPosition? value with
    | some position => .ok { r with skips := r.skips ++ [position] }
    | none => .error (.badPosition value)
  | .dialect =>
    match Dialect.ofName? value with
    | some d => .ok { r with dialect := some d }
    | none => .error (.unknownDialect value)

/-- Takes in an item. -/
def take (r : Request) : Item → Except Stop Request
  | .help => .error .help
  | .verbose => .ok { r with verbose := true }
  | .setting option value => (r.set option value).mapError .misuse
  | .missingValue option => .error (.misuse (.missingValue option))
  | .unknown word => .error (.misuse (.unknownArgument word))
  | .word word =>
    match r.word with
    | some _ => .error (.misuse (.unexpectedArgument word))
    | none => .ok { r with word := some word }

/-- The template that was asked for: exactly one. -/
def template (r : Request) : Except UsageError TemplateSource :=
  match r.word, r.file with
  | some _, some _ => .error .twoTemplates
  | some text, none => .ok (.inline text)
  | none, some path => .ok (.file path)
  | none, none => .error .noTemplate

/-- The request to render. -/
def toRender (r : Request) : Except UsageError Command := do
  return .render ⟨r.config, ← r.template, r.arguments, r.skips, r.dialect, r.verbose⟩

/-- The request to report. -/
def toInspect (r : Request) : Except UsageError Command := do
  return .inspect (← r.template)

end Request

namespace Subcommand

/-- The command that a subcommand and its words make. -/
def parse (s : Subcommand) (finish : Request → Except UsageError Command) (words : List Text) :
    Except UsageError Command :=
  match (s.itemsOf words).foldlM Request.take {} with
  | .ok r => finish r
  | .error .help => .ok (.help s.topic)
  | .error (.misuse e) => .error e

end Subcommand

namespace Command

/-- **What the words of a command line ask for.**  The name of the program is not among them. -/
def parse : List Text → Except UsageError Command
  | [] => .ok (.help .root)
  | word :: rest =>
    if word = "-h".toList ∨ word = "--help".toList then .ok (.help .root)
    else if word = Subcommand.render.name.toList then
      Subcommand.render.parse Request.toRender rest
    else if word = Subcommand.inspect.name.toList then
      Subcommand.inspect.parse Request.toInspect rest
    else .error (.unknownCommand word)

end Command

end QueryTemplate
