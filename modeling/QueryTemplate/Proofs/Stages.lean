import Mathlib.Data.List.TakeWhile
import QueryTemplate.Proofs.FailureReports

/-!
# The stages of a run

A run of the program is what the library does, behind a fixed order of stages.  Each stage is told
here on its own, by what it finds in the directory (`ConfigStage`, `TemplateStage`,
`ArgumentsStage`), and `Renders` puts them in order: there is one rule for each stage that can fail,
which asks that all stages before it went well, and one for the build.  So the first stage that
fails is the one that is reported.

`Program.run_eq_stages` says that a run without the log comes to just this.  It either prints a
result and nothing else, or it prints nothing but the report of one failure, from which one can tell
the stage; no query is ever printed in part.  What it depends on are the files that its command line
names, and the default configuration where one is consulted.
-/

namespace QueryTemplate

/-! ## Configuration files -/

namespace ConfigFile

/-- A part of a configuration is what its key says, or what it was at the start where there is no
such key. -/
def FromKey {α : Type} (key : Text) (read? : Toml → Option α) (entries : List (Text × Toml))
    (start a : α) : Prop :=
  (∃ v, (key, v) ∈ entries ∧ read? v = some a) ∨ (∀ entry ∈ entries, entry.1 ≠ key) ∧ a = start

/-- **What the keys of a document make of a configuration.** -/
structure TakenFrom (start : ConfigFile) (entries : List (Text × Toml)) (f : ConfigFile) :
    Prop where
  /-- There are no other keys. -/
  known : ∀ entry ∈ entries, entry.1 = "dialect".toList ∨ entry.1 = "template".toList
  /-- The dialect. -/
  dialect : FromKey "dialect".toList dialect? entries start.dialect f.dialect
  /-- The configuration of templates. -/
  config : FromKey "template".toList config? entries start.config f.config

theorem TakenFrom.refl (f : ConfigFile) : TakenFrom f [] f where
  known := nofun
  dialect := .inr ⟨nofun, rfl⟩
  config := .inr ⟨nofun, rfl⟩

/-- A part of a configuration, with one key more before the others. -/
theorem FromKey.cons {α : Type} {key : Text} {read? : Toml → Option α} {start next a : α}
    {entry : Text × Toml} {later : List (Text × Toml)}
    (hread : entry.1 = key → read? entry.2 = some next) (hkeep : entry.1 ≠ key → next = start)
    (h : FromKey key read? later next a) : FromKey key read? (entry :: later) start a := by
  rcases h with ⟨v, hv, hvalue⟩ | ⟨hnone, rfl⟩
  · exact .inl ⟨v, List.mem_cons_of_mem _ hv, hvalue⟩
  · by_cases hkey : entry.1 = key
    · exact .inl ⟨entry.2, hkey ▸ List.mem_cons_self .., hread hkey⟩
    · exact .inr ⟨List.forall_mem_cons.mpr ⟨hkey, hnone⟩, hkeep hkey⟩

/-- **One more key**, before the others. -/
theorem TakenFrom.cons {start next f : ConfigFile} {entry : Text × Toml}
    {later : List (Text × Toml)} (htake : start.take entry = some next)
    (h : TakenFrom next later f) : TakenFrom start (entry :: later) f := by
  have hne : "dialect".toList ≠ "template".toList := by decide
  unfold take at htake
  by_cases hdialect : entry.1 = "dialect".toList
  · rw [if_pos hdialect, Option.map_eq_some_iff] at htake
    obtain ⟨dialect, hread, rfl⟩ := htake
    exact {
      known := List.forall_mem_cons.mpr ⟨.inl hdialect, h.known⟩
      dialect := h.dialect.cons (fun _ => hread) (fun hkey => absurd hdialect hkey)
      config := h.config.cons (fun hkey => absurd (hdialect.symm.trans hkey) hne) fun _ => rfl }
  · rw [if_neg hdialect] at htake
    by_cases htemplate : entry.1 = "template".toList
    · rw [if_pos htemplate, Option.map_eq_some_iff] at htake
      obtain ⟨config, hread, rfl⟩ := htake
      exact {
        known := List.forall_mem_cons.mpr ⟨.inr htemplate, h.known⟩
        dialect := h.dialect.cons (fun hkey => absurd hkey hdialect) fun _ => rfl
        config := h.config.cons (fun _ => hread) (fun hkey => absurd htemplate hkey) }
    · rw [if_neg htemplate] at htake
      cases htake

theorem takenFrom_of_foldlM {start f : ConfigFile} {entries : List (Text × Toml)}
    (h : entries.foldlM take start = some f) : TakenFrom start entries f := by
  induction entries generalizing start with
  | nil =>
    cases h
    exact .refl _
  | cons entry later ih =>
    rw [List.foldlM_cons, Option.bind_eq_bind, Option.bind_eq_some_iff] at h
    obtain ⟨next, htake, hlater⟩ := h
    exact .cons htake (ih hlater)

/-- **A configuration file** is as by default where it has no key. -/
theorem exists_takenFrom_of_read? {t : Text} {f : ConfigFile} (h : read? t = some f) :
    ∃ entries, Toml.read? t = some entries ∧ TakenFrom default entries f := by
  rw [read?, Option.bind_eq_bind, Option.bind_eq_some_iff] at h
  obtain ⟨entries, hentries, hfold⟩ := h
  exact ⟨entries, hentries, takenFrom_of_foldlM hfold⟩

end ConfigFile

namespace Program

/-! ## The stages -/

section Stages
variable (d : Directory)

/-- A path where a configuration is looked for: the one that was named, or else the default one if
it leads anywhere. -/
def Consults (named : Option Text) (path : Text) : Prop :=
  named = some path ∨ named = none ∧ path = defaultConfigPath ∧ d.find? path ≠ none

/-- **The configuration stage.** -/
inductive ConfigStage (named : Option Text) : Except Failure ConfigFile → Prop where
  /-- No file was named and there is none. -/
  | absent (hnamed : named = none) (hnone : d.find? defaultConfigPath = none) :
    ConfigStage named (.ok .default)
  /-- The file gives no text. -/
  | unreadable {path : Text} {e : FileError} (hpath : Consults d named path)
    (htext : d.readText path = .error e) : ConfigStage named (.error (.configUnreadable path e))
  /-- The text is no configuration. -/
  | invalid {path text : Text} (hpath : Consults d named path) (htext : d.readText path = .ok text)
    (hfile : ConfigFile.read? text = none) : ConfigStage named (.error (.configInvalid path))
  /-- The text is a configuration. -/
  | read {path text : Text} {file : ConfigFile} (hpath : Consults d named path)
    (htext : d.readText path = .ok text) (hfile : ConfigFile.read? text = some file) :
    ConfigStage named (.ok file)

/-- A character that ends a line. -/
def IsLineEnd (c : Char) : Prop :=
  c = '\n' ∨ c = '\x0d'

/-- A text is another one with line ends behind it, and does not end with one itself. -/
def TrimmedTo (text trimmed : Text) : Prop :=
  ∃ ends, text = trimmed ++ ends ∧ (∀ c ∈ ends, IsLineEnd c) ∧
    ∀ c, trimmed.getLast? = some c → ¬ IsLineEnd c

/-- **The template stage.** -/
inductive TemplateStage : TemplateSource → Except Failure Text → Prop where
  /-- The template is on the command line. -/
  | inline {source : Text} : TemplateStage (.inline source) (.ok source)
  /-- The file gives no text. -/
  | unreadable {path : Text} {e : FileError} (htext : d.readText path = .error e) :
    TemplateStage (.file path) (.error (.templateUnreadable path e))
  /-- The template is in a file. -/
  | file {path text source : Text} (htext : d.readText path = .ok text)
    (htrimmed : TrimmedTo text source) : TemplateStage (.file path) (.ok source)

/-- Arguments are written somewhere: on the command line or in a file. -/
inductive WrittenAs : ArgumentsSource → Text → Prop where
  /-- On the command line. -/
  | inline {json : Text} : WrittenAs (.inline json) json
  /-- In a file. -/
  | file {path json : Text} (htext : d.readText path = .ok json) : WrittenAs (.file path) json

/-- **The arguments stage.** -/
inductive ArgumentsStage : ArgumentsSource → Except Failure (List Argument) → Prop where
  /-- There are none. -/
  | empty : ArgumentsStage .empty (.ok [])
  /-- The file gives no text. -/
  | unreadable {path : Text} {e : FileError} (htext : d.readText path = .error e) :
    ArgumentsStage (.file path) (.error (.argumentsUnreadable path e))
  /-- The text is no array of arguments. -/
  | invalid {source : ArgumentsSource} {json : Text} {e : ArgumentsError}
    (hjson : WrittenAs d source json) (hargs : readArguments json = .error e) :
    ArgumentsStage source (.error (.badArguments e))
  /-- The text is an array of arguments. -/
  | read {source : ArgumentsSource} {json : Text} {args : List Argument}
    (hjson : WrittenAs d source json) (hargs : readArguments json = .ok args) :
    ArgumentsStage source (.ok args)

/-- **What rendering comes to**, stage by stage. -/
inductive Renders (r : RenderRequest) : Except Failure Text → Prop where
  /-- The configuration fails. -/
  | config {f : Failure} (hconfig : ConfigStage d r.config (.error f)) : Renders r (.error f)
  /-- The template fails, behind the configuration. -/
  | template {file : ConfigFile} {f : Failure} (hconfig : ConfigStage d r.config (.ok file))
    (htemplate : TemplateStage d r.template (.error f)) : Renders r (.error f)
  /-- The arguments fail, behind the template. -/
  | arguments {file : ConfigFile} {source : Text} {f : Failure}
    (hconfig : ConfigStage d r.config (.ok file))
    (htemplate : TemplateStage d r.template (.ok source))
    (hargs : ArgumentsStage d r.arguments (.error f)) : Renders r (.error f)
  /-- The skips fail, behind the arguments. -/
  | skips {file : ConfigFile} {source : Text} {args : List Argument} {e : SkipPastEnd}
    (hconfig : ConfigStage d r.config (.ok file))
    (htemplate : TemplateStage d r.template (.ok source))
    (hargs : ArgumentsStage d r.arguments (.ok args))
    (hskips : insertSkips args r.skips = .error e) : Renders r (.error (.skipPastEnd e))
  /-- The library builds, for the dialect that was named or else the one of the configuration. -/
  | build {file : ConfigFile} {source : Text} {args all : List Argument}
    {built : Except BuildError Text} (hconfig : ConfigStage d r.config (.ok file))
    (htemplate : TemplateStage d r.template (.ok source))
    (hargs : ArgumentsStage d r.arguments (.ok args))
    (hskips : insertSkips args r.skips = .ok all)
    (hbuild : (Templater.forDialect (r.dialect.getD file.dialect) file.config).build source all =
      built) : Renders r (built.mapError .build)

/-- **What reporting comes to**: the template, and then the library's report on it.  No other stage
is there. -/
inductive Inspects (template : TemplateSource) : Except Failure Text → Prop where
  /-- The template fails. -/
  | template {f : Failure} (htemplate : TemplateStage d template (.error f)) :
    Inspects template (.error f)
  /-- The library describes the template. -/
  | describe {source : Text} {described : Except BuildError Text}
    (htemplate : TemplateStage d template (.ok source)) (hdescribe : describe source = described) :
    Inspects template (described.mapError .build)

end Stages

/-! ## Each stage is what the program computes -/

/-- **Trimming** takes away all line ends at the end, and nothing else. -/
theorem trimLineEnds_eq_iff {text trimmed : Text} :
    trimLineEnds text = trimmed ↔ TrimmedTo text trimmed := by
  have hp : ∀ c, (fun c : Char => decide (c = '\n') || decide (c = '\x0d')) c = true ↔
      IsLineEnd c := by
    intro c
    rw [Bool.or_eq_true, decide_eq_true_iff, decide_eq_true_iff, IsLineEnd]
  unfold trimLineEnds
  generalize (fun c : Char => decide (c = '\n') || decide (c = '\x0d')) = p at hp ⊢
  constructor
  · rintro rfl
    refine ⟨(text.reverse.takeWhile p).reverse, ?_, ?_, ?_⟩
    · rw [← List.reverse_append, List.takeWhile_append_dropWhile, List.reverse_reverse]
    · intro c hc
      exact (hp c).mp (List.mem_takeWhile_imp (List.mem_reverse.mp hc))
    · intro c hc hend
      rw [List.getLast?_reverse] at hc
      have hnot := List.head?_dropWhile_not p text.reverse
      rw [hc] at hnot
      exact absurd ((hp c).mpr hend) (Bool.eq_false_iff.mp hnot)
  · rintro ⟨ends, rfl, hends, hlast⟩
    have hdropped : ∀ c ∈ ends.reverse, p c = true := fun c hc =>
      (hp c).mpr (hends c (List.mem_reverse.mp hc))
    rw [List.reverse_append, List.dropWhile_append_of_pos hdropped]
    -- what is left begins, from the back, with a character that ends no line
    rcases hback : trimmed.reverse with _ | ⟨c, rest⟩
    · rw [List.reverse_eq_nil_iff.mp hback]
      rfl
    · have hc : trimmed.getLast? = some c := by
        rw [← List.head?_reverse, hback]
        rfl
      rw [List.dropWhile_cons_of_neg (mt (hp c).mp (hlast c hc)), ← hback, List.reverse_reverse]

section Computes
variable {d : Directory}

theorem readConfig_of_readText {path text : Text} (htext : d.readText path = .ok text) :
    readConfig d path =
      match ConfigFile.read? text with
      | some file => .ok file
      | none => .error (.configInvalid path) := by
  rw [readConfig, htext]
  rfl

theorem configStage_loadConfig (named : Option Text) : ConfigStage d named (loadConfig d named) := by
  have hread : ∀ path, Consults d named path → ConfigStage d named (readConfig d path) := by
    intro path hpath
    rcases htext : d.readText path with e | text
    · rw [readConfig, htext]
      exact .unreadable hpath htext
    · rw [readConfig_of_readText htext]
      rcases hfile : ConfigFile.read? text with _ | file
      · exact .invalid hpath htext hfile
      · exact .read hpath htext hfile
  rcases named with _ | path
  · unfold loadConfig Directory.contains
    dsimp only
    split
    · rename_i hsome
      exact hread _ (.inr ⟨rfl, rfl, Option.isSome_iff_ne_none.mp hsome⟩)
    · rename_i hnone
      exact .absent rfl (Option.not_isSome_iff_eq_none.mp hnone)
  · exact hread path (.inl rfl)

theorem templateStage_loadTemplate (source : TemplateSource) :
    TemplateStage d source (loadTemplate d source) := by
  rcases source with text | path
  · exact .inline
  · unfold loadTemplate
    dsimp only
    rcases htext : d.readText path with e | text
    · exact .unreadable htext
    · exact .file htext (trimLineEnds_eq_iff.mp rfl)

theorem argumentsStage_loadArguments (source : ArgumentsSource) :
    ArgumentsStage d source (loadArguments d source) := by
  have hread : ∀ json, WrittenAs d source json →
      ArgumentsStage d source ((readArguments json).mapError .badArguments) := by
    intro json hjson
    rcases hargs : readArguments json with e | args
    · exact .invalid hjson hargs
    · exact .read hjson hargs
  rcases source with _ | json | path
  · exact .empty
  · exact hread json .inline
  · unfold loadArguments
    dsimp only
    rcases htext : d.readText path with e | json
    · exact .unreadable htext
    · exact hread json (.file htext)

theorem configStage_iff {named : Option Text} {outcome : Except Failure ConfigFile} :
    ConfigStage d named outcome ↔ loadConfig d named = outcome := by
  constructor
  · have hload : ∀ path, Consults d named path → loadConfig d named = readConfig d path := by
      rintro path (rfl | ⟨rfl, rfl, hsome⟩)
      · rfl
      · exact if_pos (Option.isSome_iff_ne_none.mpr hsome)
    rintro (⟨rfl, hnone⟩ | ⟨hpath, htext⟩ | ⟨hpath, htext, hfile⟩ | ⟨hpath, htext, hfile⟩)
    · refine if_neg (Option.not_isSome_iff_eq_none.mpr hnone)
    · rw [hload _ hpath, readConfig, htext]
      rfl
    · rw [hload _ hpath, readConfig_of_readText htext, hfile]
    · rw [hload _ hpath, readConfig_of_readText htext, hfile]
  · rintro rfl
    exact configStage_loadConfig named

theorem templateStage_iff {template : TemplateSource} {outcome : Except Failure Text} :
    TemplateStage d template outcome ↔ loadTemplate d template = outcome := by
  constructor
  · rintro (_ | htext | ⟨htext, htrimmed⟩)
    · rfl
    · rw [loadTemplate, htext]
      rfl
    · rw [loadTemplate, htext]
      exact congrArg Except.ok (trimLineEnds_eq_iff.mpr htrimmed)
  · rintro rfl
    exact templateStage_loadTemplate template

theorem argumentsStage_iff {source : ArgumentsSource} {outcome : Except Failure (List Argument)} :
    ArgumentsStage d source outcome ↔ loadArguments d source = outcome := by
  constructor
  · have hload : ∀ json, WrittenAs d source json →
        loadArguments d source = (readArguments json).mapError .badArguments := by
      rintro json (_ | htext)
      · rfl
      · rw [loadArguments, htext]
        rfl
    rintro (_ | htext | ⟨hjson, hargs⟩ | ⟨hjson, hargs⟩)
    · rfl
    · rw [loadArguments, htext]
      rfl
    · rw [hload _ hjson, hargs]
      rfl
    · rw [hload _ hjson, hargs]
      rfl
  · rintro rfl
    exact argumentsStage_loadArguments source

/-- The stages before a build, one inside of the other. -/
theorem prepare_eq (r : RenderRequest) :
    prepare d r =
      match loadConfig d r.config with
      | .error f => .error f
      | .ok file =>
        match loadTemplate d r.template with
        | .error f => .error f
        | .ok source =>
          match loadArguments d r.arguments with
          | .error f => .error f
          | .ok args =>
            match insertSkips args r.skips with
            | .error e => .error (.skipPastEnd e)
            | .ok all =>
              .ok ⟨.forDialect (r.dialect.getD file.dialect) file.config, source, all⟩ := by
  unfold prepare
  rcases loadConfig d r.config with f | file
  · rfl
  rcases loadTemplate d r.template with f | source
  · rfl
  rcases loadArguments d r.arguments with f | args
  · rfl
  dsimp only [bind, Except.bind]
  rcases insertSkips args r.skips with e | all <;> rfl

/-- **What is needed for a build** is there if all stages before it went well. -/
theorem exists_of_prepare_eq_ok {r : RenderRequest} {job : Job} (h : prepare d r = .ok job) :
    ∃ file source args all, loadConfig d r.config = .ok file ∧
      loadTemplate d r.template = .ok source ∧ loadArguments d r.arguments = .ok args ∧
      insertSkips args r.skips = .ok all ∧
      job = ⟨.forDialect (r.dialect.getD file.dialect) file.config, source, all⟩ := by
  rw [prepare_eq] at h
  split at h
  · cases h
  rename_i file hconfig
  split at h
  · cases h
  rename_i source htemplate
  split at h
  · cases h
  rename_i args hargs
  split at h
  · cases h
  rename_i all hskips
  cases h
  exact ⟨file, source, args, all, hconfig, htemplate, hargs, hskips, rfl⟩

/-- Rendering is building, for what all stages before it gave. -/
theorem render_result (r : RenderRequest) :
    (render d r).result = (prepare d r).bind fun job =>
      (job.templater.build job.source job.args).mapError .build := by
  unfold render
  rcases prepare d r with f | job <;> rfl

/-- **Rendering goes through its stages.** -/
theorem renders_iff {r : RenderRequest} {outcome : Except Failure Text} :
    Renders d r outcome ↔ (render d r).result = outcome := by
  rw [render_result]
  constructor
  · rintro (hconfig | ⟨hconfig, htemplate⟩ | ⟨hconfig, htemplate, hargs⟩ |
      ⟨hconfig, htemplate, hargs, hskips⟩ | ⟨hconfig, htemplate, hargs, hskips, rfl⟩)
    · rw [prepare_eq, configStage_iff.mp hconfig]
      rfl
    · rw [prepare_eq, configStage_iff.mp hconfig, templateStage_iff.mp htemplate]
      rfl
    · rw [prepare_eq, configStage_iff.mp hconfig, templateStage_iff.mp htemplate,
        argumentsStage_iff.mp hargs]
      rfl
    · rw [prepare_eq, configStage_iff.mp hconfig, templateStage_iff.mp htemplate,
        argumentsStage_iff.mp hargs]
      dsimp only
      rw [hskips]
      rfl
    · rw [prepare_eq, configStage_iff.mp hconfig, templateStage_iff.mp htemplate,
        argumentsStage_iff.mp hargs]
      dsimp only
      rw [hskips]
      rfl
  · rintro rfl
    rw [prepare_eq]
    cases hconfig : loadConfig d r.config with
    | error f => exact .config (configStage_iff.mpr hconfig)
    | ok file =>
    cases htemplate : loadTemplate d r.template with
    | error f => exact .template (configStage_iff.mpr hconfig) (templateStage_iff.mpr htemplate)
    | ok source =>
    cases hargs : loadArguments d r.arguments with
    | error f =>
      exact .arguments (configStage_iff.mpr hconfig) (templateStage_iff.mpr htemplate)
        (argumentsStage_iff.mpr hargs)
    | ok args =>
    cases hskips : insertSkips args r.skips with
    | error e =>
      dsimp only
      rw [hskips]
      exact .skips (configStage_iff.mpr hconfig) (templateStage_iff.mpr htemplate)
        (argumentsStage_iff.mpr hargs) hskips
    | ok all =>
      dsimp only
      rw [hskips]
      exact .build (configStage_iff.mpr hconfig) (templateStage_iff.mpr htemplate)
        (argumentsStage_iff.mpr hargs) hskips rfl

/-- **Reporting goes through its stages.** -/
theorem inspects_iff {template : TemplateSource} {outcome : Except Failure Text} :
    Inspects d template outcome ↔ inspect d template = outcome := by
  constructor
  · rintro (htemplate | ⟨htemplate, rfl⟩)
    · rw [inspect, templateStage_iff.mp htemplate]
      rfl
    · rw [inspect, templateStage_iff.mp htemplate]
      rfl
  · rintro rfl
    unfold inspect
    cases htemplate : loadTemplate d template with
    | error f => exact .template (templateStage_iff.mpr htemplate)
    | ok source => exact .describe (templateStage_iff.mpr htemplate) rfl

end Computes

/-! ## What a run depends on -/

section Frame
variable {d d' : Directory}

/-- Two directories have the same behind some paths. -/
def AgreeOn (d d' : Directory) (paths : List Text) : Prop :=
  ∀ path ∈ paths, d'.find? path = d.find? path

theorem AgreeOn.readText_eq {paths : List Text} (h : AgreeOn d d' paths) {path : Text}
    (hpath : path ∈ paths) : d'.readText path = d.readText path := by
  unfold Directory.readText
  rw [h path hpath]

theorem AgreeOn.loadConfig_eq {named : Option Text}
    (h : AgreeOn d d' [named.getD defaultConfigPath]) : loadConfig d' named = loadConfig d named := by
  have hread : ∀ path, named.getD defaultConfigPath = path → readConfig d' path = readConfig d path := by
    rintro path rfl
    unfold readConfig
    rw [h.readText_eq (List.mem_singleton.mpr rfl)]
  rcases named with _ | path
  · have hcontains : d'.contains defaultConfigPath = d.contains defaultConfigPath :=
      congrArg Option.isSome (h _ (List.mem_singleton.mpr rfl))
    unfold loadConfig
    dsimp only
    rw [hcontains, hread defaultConfigPath rfl]
  · exact hread path rfl

theorem AgreeOn.loadTemplate_eq {template : TemplateSource}
    (h : AgreeOn d d' (templatePath template)) :
    loadTemplate d' template = loadTemplate d template := by
  rcases template with text | path
  · rfl
  · unfold loadTemplate
    dsimp only
    rw [h.readText_eq (List.mem_singleton.mpr rfl)]

theorem AgreeOn.loadArguments_eq {source : ArgumentsSource}
    (h : AgreeOn d d' (argumentsPath source)) :
    loadArguments d' source = loadArguments d source := by
  rcases source with _ | json | path
  · rfl
  · rfl
  · unfold loadArguments
    dsimp only
    rw [h.readText_eq (List.mem_singleton.mpr rfl)]

theorem AgreeOn.mono {paths paths' : List Text} (h : AgreeOn d d' paths)
    (hsub : paths' ⊆ paths) : AgreeOn d d' paths' :=
  fun path hpath => h path (hsub hpath)

theorem AgreeOn.inspect_eq {template : TemplateSource}
    (h : AgreeOn d d' (templatePath template)) : inspect d' template = inspect d template := by
  unfold inspect
  rw [h.loadTemplate_eq]

/-- **A run depends on the files that its command line may ask for**, and on no others. -/
theorem AgreeOn.run_eq {words : List Text} (h : AgreeOn d d' (paths words)) :
    run d' words = run d words := by
  have hanswer : answer d' words = answer d words := by
    unfold answer
    unfold paths at h
    cases hparse : Command.parse words with
    | error e => rfl
    | ok command =>
      rw [hparse] at h
      cases command with
      | help topic => rfl
      | inspect template =>
        show (⟨inspect d' template, []⟩ : Logged _) = ⟨inspect d template, []⟩
        rw [AgreeOn.inspect_eq h]
      | render r =>
        have hprepare : prepare d' r = prepare d r := by
          have hconfig := AgreeOn.loadConfig_eq
            (h.mono fun path hpath => List.mem_singleton.mp hpath ▸ List.mem_cons_self ..)
          have htemplate := AgreeOn.loadTemplate_eq
            (h.mono fun path hpath => List.mem_cons_of_mem _ (List.mem_append_left _ hpath))
          have hargs := AgreeOn.loadArguments_eq
            (h.mono fun path hpath => List.mem_cons_of_mem _ (List.mem_append_right _ hpath))
          rw [prepare_eq, prepare_eq, hconfig, htemplate, hargs]
        show (render d' r).map _ = (render d r).map _
        unfold render
        rw [hprepare]
  unfold run
  rw [hanswer]

end Frame

/-! ## Runs -/

/-- A run that shows no log prints a result, or the report of a failure. -/
theorem run_of_not_isVerbose (d : Directory) {words : List Text}
    (hquiet : isVerbose words = false) : run d words = outcomeOf (answer d words).result := by
  unfold run
  rw [hquiet]
  rfl

/-- **A run is what the library does behind a fixed order of stages.**  Without the log it prints a
result and nothing else, or the report of one failure and nothing else, and what is printed then
tells the stage that failed.  A misused command line is reported before any file matters.  Rendering
prints the query that its stages come to, with a line end, or reports the first of them that fails,
and reporting prints the library's report on the template; the stages determine the outcome.  A
configuration is as by default where its file has no key.  Only the files that the command line may
ask for matter, and for a report that is the one of its template. -/
theorem run_eq_stages (d : Directory) {words : List Text} (hquiet : isVerbose words = false) :
    ((∃ text, run d words = ⟨0, text, []⟩) ∨ ∃ f, (run d words).Reports f) ∧
    (∀ f, (run d words).Reports f →
      f.report ≠ "" ∧ ∀ g, (run d words).Reports g → g.stage = f.stage) ∧
    (∀ e, Command.parse words = .error e → (run d words).Reports (.usage e)) ∧
    (∀ topic, Command.parse words = .ok (.help topic) → run d words = ⟨0, topic.text, []⟩) ∧
    (∀ r, Command.parse words = .ok (.render r) →
      ∃ outcome, (∀ o, Renders d r o ↔ o = outcome) ∧
        (∀ sql, outcome = .ok sql → run d words = ⟨0, sql ++ ['\n'], []⟩) ∧
        ∀ f, outcome = .error f → (run d words).Reports f) ∧
    (∀ template, Command.parse words = .ok (.inspect template) →
      ∃ outcome, (∀ o, Inspects d template o ↔ o = outcome) ∧
        (∀ report, outcome = .ok report → run d words = ⟨0, report, []⟩) ∧
        (∀ f, outcome = .error f → (run d words).Reports f) ∧
        ∀ d', AgreeOn d d' (templatePath template) → run d' words = run d words) ∧
    (∀ text file, ConfigFile.read? text = some file →
      ∃ entries, Toml.read? text = some entries ∧ ConfigFile.TakenFrom .default entries file) ∧
    ∀ d', AgreeOn d d' (paths words) → run d' words = run d words := by
  have hrun := run_of_not_isVerbose d hquiet
  have hfails : ∀ f, (answer d words).result = .error f → (run d words).Reports f := by
    intro f hf
    rw [hrun, hf]
    exact reports_outcomeOf_error f
  refine ⟨?_, fun f hf => ⟨hf.wording.ne_empty, fun g hg => hg.stage_eq hf⟩, ?_, ?_, ?_, ?_, ?_,
    fun d' h => h.run_eq⟩
  · rcases hresult : (answer d words).result with f | text
    · exact .inr ⟨f, hfails f hresult⟩
    · refine .inl ⟨text, ?_⟩
      rw [hrun, hresult]
      rfl
  · intro e hparse
    refine hfails _ ?_
    rw [answer, hparse]
  · intro topic hparse
    rw [hrun, answer, hparse]
    rfl
  · intro r hparse
    have hresult : (answer d words).result = (render d r).result.map endLine := by
      rw [answer, hparse]
      rfl
    refine ⟨(render d r).result, fun o => renders_iff.trans eq_comm, fun sql hsql => ?_,
      fun f hf => hfails f ?_⟩
    · rw [hrun, hresult, hsql]
      rfl
    · rw [hresult, hf]
      rfl
  · intro template hparse
    have hresult : (answer d words).result = inspect d template := by
      rw [answer, hparse]
      rfl
    refine ⟨inspect d template, fun o => inspects_iff.trans eq_comm, fun report hreport => ?_,
      fun f hf => hfails f (hresult.trans hf), fun d' h => ?_⟩
    · rw [hrun, hresult, hreport]
      rfl
    · refine AgreeOn.run_eq ?_
      rwa [paths, hparse]
  · intro text file hread
    exact ConfigFile.exists_takenFrom_of_read? hread

/-- The configuration that is found names the dialect, the line ends behind the template are taken
away, and one line end is printed behind the query.  A template that is not there is reported, and
the arguments that are no document behind it are not.  A query that cannot be built leaves its cause
and nothing of the query, and a misused command line needs no file at all. -/
theorem run_with_files :
    let d : Directory := ⟨[(defaultConfigPath, .bytes "dialect = \"postgres\"".toUTF8),
      ("q.sql".toList, .bytes "a ?#\x0d\n\n".toUTF8)]⟩
    let words := ["render".toList, "--file".toList, "q.sql".toList, "--args".toList,
      "[\"t\"]".toList]
    let r : RenderRequest :=
      ⟨none, .file "q.sql".toList, .inline "[\"t\"]".toList, [], none, false⟩
    let lost := ["render".toList, "--file".toList, "p.sql".toList, "--args".toList, "[".toList]
    let short := ["render".toList, "--file".toList, "q.sql".toList]
    let misused := ["render".toList, "--all".toList]
    (isVerbose words = false ∧ Command.parse words = .ok (.render r) ∧
      Renders d r (.ok "a \"t\"".toList) ∧ run d words = ⟨0, "a \"t\"".toList ++ ['\n'], []⟩) ∧
    (isVerbose lost = false ∧ (run d lost).Reports (.templateUnreadable "p.sql".toList .missing) ∧
      (run d lost).stderr =
        "failed to read template p.sql: No such file or directory (os error 2)\n".toList) ∧
    (isVerbose short = false ∧ (run d short).Reports (.build ⟨"a ?#".toList, .missingArgument 1⟩) ∧
      (run d short).stderr =
        "failed to build query: a ?#\nmissing argument #1: missing argument #1\n".toList) ∧
    isVerbose misused = false ∧ (run d misused).Reports (.usage (.unknownArgument "--all".toList)) ∧
      (run d misused).stderr = "unknown argument: --all\n".toList := by
  intro d words r lost short misused
  have hquiet : isVerbose words = false := by decide +kernel
  have hparse : Command.parse words = .ok (.render r) := by decide +kernel
  have hsql : Renders d r (.ok "a \"t\"".toList) := renders_iff.mpr (by decide +kernel)
  obtain ⟨outcome, hrenders, hprints, -⟩ := (run_eq_stages d hquiet).2.2.2.2.1 r hparse
  have hrun := hprints _ ((hrenders _).mp hsql).symm
  have hlost : isVerbose lost = false ∧
      (run d lost).Reports (.templateUnreadable "p.sql".toList .missing) := by
    have hquiet : isVerbose lost = false := by decide +kernel
    obtain ⟨outcome, hrenders, -, hreports⟩ := (run_eq_stages d hquiet).2.2.2.2.1
      ⟨none, .file "p.sql".toList, .inline "[".toList, [], none, false⟩ (by decide +kernel)
    have hfirst := (hrenders (.error (.templateUnreadable "p.sql".toList .missing))).mp
      (renders_iff.mpr (by decide +kernel))
    exact ⟨hquiet, hreports _ hfirst.symm⟩
  have hshort : isVerbose short = false ∧
      (run d short).Reports (.build ⟨"a ?#".toList, .missingArgument 1⟩) := by
    have hquiet : isVerbose short = false := by decide +kernel
    obtain ⟨outcome, hrenders, -, hreports⟩ := (run_eq_stages d hquiet).2.2.2.2.1
      ⟨none, .file "q.sql".toList, .empty, [], none, false⟩ (by decide +kernel)
    have hfirst := (hrenders (.error (.build ⟨"a ?#".toList, .missingArgument 1⟩))).mp
      (renders_iff.mpr (by decide +kernel))
    exact ⟨hquiet, hreports _ hfirst.symm⟩
  have hmisused : isVerbose misused = false ∧
      (run d misused).Reports (.usage (.unknownArgument "--all".toList)) := by
    have hquiet : isVerbose misused = false := by decide +kernel
    exact ⟨hquiet, (run_eq_stages d hquiet).2.2.1 _ (by decide +kernel)⟩
  exact ⟨⟨hquiet, hparse, hsql, hrun⟩,
    ⟨hlost.1, hlost.2, by decide +kernel⟩, ⟨hshort.1, hshort.2, by decide +kernel⟩,
    hmisused.1, hmisused.2, by decide +kernel⟩

end Program

end QueryTemplate
