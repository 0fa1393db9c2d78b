import Mathlib.Data.List.Basic
import QueryTemplate.Proofs.OptionValues

/-!
# What a command line that renders means

The words behind `render` are a sequence of **parts** (`RenderPart`): options with their values, the
flag that shows the log, and the template itself.  Each part speaks about one field of the request,
and no two fields know of each other.  So a request can be read off the parts field by field
(`RenderPart.request`): for most fields the last part that speaks about it counts, the positions of
skips are collected, and exactly one template must have been given, as a word or in a file.

That is what the parser computes, one word after the other (`Command.parse_commandLine`).  It follows
that only the order of parts of the same field matters, and that every request can be written
(`Command.parse_eq_ok_iff_parts`).
-/

namespace QueryTemplate

/-! ## Values -/

/-- A word that is taken as a template: one that begins with no hyphen, or the hyphen alone. -/
def IsTemplateWord (word : Text) : Prop :=
  word.head? ≠ some '-' ∨ word = ['-']

instance (word : Text) : Decidable (IsTemplateWord word) :=
  inferInstanceAs (Decidable (_ ∨ _))

/-- A text is a decimal numeral of a position: digits, perhaps behind a plus sign, for a number that
is not zero and not too large. -/
def IsPosition (value : Text) (position : Nat) : Prop :=
  ∃ digits, (value = digits ∨ value = '+' :: digits) ∧ digits ≠ [] ∧
    (∀ c ∈ digits, c.isDigit = true) ∧ digitsValue digits = position ∧
    0 < position ∧ position ≤ maxPosition

theorem readPosition?_eq_some_iff {value : Text} {position : Nat} :
    readPosition? value = some position ↔ IsPosition value position := by
  have hread : ∀ digits : Text,
      (readNatural? digits).filter (fun n => decide (0 < n ∧ n ≤ maxPosition)) = some position ↔
        digits ≠ [] ∧ (∀ c ∈ digits, c.isDigit = true) ∧ digitsValue digits = position ∧
          0 < position ∧ position ≤ maxPosition := by
    intro digits
    rw [Option.filter_eq_some_iff, readNatural?_eq_some_iff, decide_eq_true_iff, and_assoc,
      and_assoc]
  unfold readPosition?
  by_cases hplus : value.head? = some '+'
  · obtain ⟨digits, rfl⟩ := List.head?_eq_some_iff.mp hplus
    simp only [List.head?_cons, if_true, List.tail_cons]
    rw [hread]
    constructor
    · intro h
      exact ⟨digits, .inr rfl, h⟩
    · rintro ⟨digits', hvalue | hvalue, h⟩
      · -- a plus sign is no digit
        have hdigit := h.2.1 '+' (hvalue ▸ List.mem_cons_self ..)
        exact absurd hdigit (by decide)
      · obtain ⟨-, rfl⟩ := List.cons_eq_cons.mp hvalue
        exact h
  · simp only [hplus, if_false]
    rw [hread]
    constructor
    · intro h
      exact ⟨value, .inl rfl, h⟩
    · rintro ⟨digits, rfl | rfl, h⟩
      · exact h
      · exact absurd rfl hplus

/-- The numeral of a position. -/
theorem isPosition_numeral {position : Nat} (h : 0 < position ∧ position ≤ maxPosition) :
    IsPosition (numeral position) position :=
  ⟨numeral position, .inl rfl, numeral_ne_nil _, fun _ => isDigit_of_mem_numeral,
    digitsValue_numeral _, h⟩

/-! ## Parts -/

/-- **A part of a command line that renders.**  The values of some options must be readable; the
others can be any text. -/
inductive RenderPart where
  /-- The option that names the configuration file. -/
  | config (path : Text)
  /-- The option that names the file of the template. -/
  | file (path : Text)
  /-- The option that gives the arguments. -/
  | args (json : Text)
  /-- The option that names the file of the arguments. -/
  | argsFile (path : Text)
  /-- The option that asks for a skip. -/
  | skip (value : Text) (position : Nat) (reads : IsPosition value position)
  /-- The option that names a dialect. -/
  | dialect (name : Text) (d : Dialect) (known : Dialect.ofName? name = some d)
  /-- The flag that shows the log, in its short or its long form. -/
  | verbose (short : Bool)
  /-- The template. -/
  | template (word : Text) (plain : IsTemplateWord word)

namespace RenderPart

/-- The words of a part. -/
def words : RenderPart → List Text
  | .config path => ValueOption.config.spaced path
  | .file path => ValueOption.file.spaced path
  | .args json => ValueOption.args.spaced json
  | .argsFile path => ValueOption.argsFile.spaced path
  | .skip value _ _ => ValueOption.skip.spaced value
  | .dialect name _ _ => ValueOption.dialect.spaced name
  | .verbose short => [if short then "-v".toList else "--verbose".toList]
  | .template word _ => [word]

/-- The words of a command line with the given parts. -/
def commandLine (parts : List RenderPart) : List Text :=
  Subcommand.render.name.toList :: parts.flatMap words

/-! ### The fields of a request -/

/-- The configuration file that a part names. -/
@[simp] def config? : RenderPart → Option Text
  | .config path => some path
  | _ => none

/-- The template file that a part names. -/
@[simp] def file? : RenderPart → Option Text
  | .file path => some path
  | _ => none

/-- The template that a part is. -/
@[simp] def word? : RenderPart → Option Text
  | .template word _ => some word
  | _ => none

/-- The arguments that a part names; two options speak of them. -/
@[simp] def arguments? : RenderPart → Option ArgumentsSource
  | .args json => some (.inline json)
  | .argsFile path => some (.file path)
  | _ => none

/-- The position that a part asks for. -/
@[simp] def position? : RenderPart → Option Nat
  | .skip _ position _ => some position
  | _ => none

/-- The dialect that a part names. -/
@[simp] def dialect? : RenderPart → Option Dialect
  | .dialect _ d _ => some d
  | _ => none

/-- Whether a part is the flag that shows the log. -/
@[simp] def isVerbose : RenderPart → Bool
  | .verbose _ => true
  | _ => false

/-- The last of what the parts say about a field. -/
def last? {α : Type} (field? : RenderPart → Option α) (parts : List RenderPart) : Option α :=
  (parts.filterMap field?).getLast?

/-- **The request that parts make** once the template is found. -/
def request (parts : List RenderPart) (template : TemplateSource) : RenderRequest where
  config := last? config? parts
  template := template
  arguments := (last? arguments? parts).getD .empty
  skips := parts.filterMap position?
  dialect := last? dialect? parts
  verbose := parts.any isVerbose

/-- **The template that parts give**: either there is one word and no file, or there is no word and
the last file counts. -/
def Gives (parts : List RenderPart) (template : TemplateSource) : Prop :=
  (∃ word, parts.filterMap word? = [word] ∧ parts.filterMap file? = [] ∧
    template = .inline word) ∨
  ∃ path, parts.filterMap word? = [] ∧ last? file? parts = some path ∧ template = .file path

/-- What is wrong with the templates among the parts, or the one that they give. -/
def source (parts : List RenderPart) : Except UsageError TemplateSource :=
  match parts.filterMap word?, last? file? parts with
  | _ :: second :: _, _ => .error (.unexpectedArgument second)
  | [_], some _ => .error .twoTemplates
  | [word], none => .ok (.inline word)
  | [], some path => .ok (.file path)
  | [], none => .error .noTemplate

theorem last?_eq_none_iff {α : Type} {field? : RenderPart → Option α} {parts : List RenderPart} :
    last? field? parts = none ↔ parts.filterMap field? = [] :=
  List.getLast?_eq_none_iff

theorem source_eq_ok_iff {parts : List RenderPart} {template : TemplateSource} :
    source parts = .ok template ↔ Gives parts template := by
  unfold source Gives
  rw [← last?_eq_none_iff]
  generalize parts.filterMap word? = given
  generalize last? file? parts = path?
  rcases given with _ | ⟨word, _ | ⟨second, later⟩⟩ <;> rcases path? with _ | path <;>
    simp [eq_comm]

/-! ## The items of parts -/

/-- The item that the words of a part are read as. -/
@[simp] def item : RenderPart → Item
  | .config path => .setting .config path
  | .file path => .setting .file path
  | .args json => .setting .args json
  | .argsFile path => .setting .argsFile path
  | .skip value _ _ => .setting .skip value
  | .dialect name _ _ => .setting .dialect name
  | .verbose _ => .verbose
  | .template word _ => .word word

end RenderPart

theorem ValueOption.exists_flag_eq (o : ValueOption) :
    ∃ c rest, o.flag.toList = '-' :: c :: rest := by
  cases o <;> exact ⟨_, _, rfl⟩

/-- Nothing longer than a hyphen that begins with one is a template. -/
theorem IsTemplateWord.ne_cons_cons {word : Text} (h : IsTemplateWord word) (c : Char)
    (rest : Text) : word ≠ '-' :: c :: rest := by
  rintro rfl
  rcases h with h | h
  · exact h rfl
  · cases h

namespace Subcommand
variable {s : Subcommand}

/-- A template is read as a word, by every subcommand. -/
theorem form_templateWord {word : Text} (h : IsTemplateWord word) :
    s.form word = .item (.word word) := by
  have hflags : s.options.find? (fun o => o.flag.toList = word) = none := by
    refine List.find?_eq_none.mpr fun o _ => ?_
    obtain ⟨c, rest, hflag⟩ := o.exists_flag_eq
    simpa [hflag] using (h.ne_cons_cons c rest).symm
  have hassigned : s.options.findSome?
      (fun o => (o.assigned? word).map (Item.setting o)) = none := by
    refine List.findSome?_eq_none_iff.mpr fun o _ => ?_
    obtain ⟨c, rest, hflag⟩ := o.exists_flag_eq
    have hprefix : ¬ (o.flag.toList ++ ['=']).isPrefixOf word = true := by
      intro hprefix
      obtain ⟨value, hvalue⟩ := List.isPrefixOf_iff_prefix.mp hprefix
      rw [hflag] at hvalue
      exact h.ne_cons_cons c _ hvalue.symm
    rw [ValueOption.assigned?, if_neg hprefix, Option.map_none]
  have hhyphen : ¬ (word.head? = some '-' ∧ 1 < word.length) := by
    rintro ⟨hhead, hlength⟩
    rcases h with h | rfl
    · exact h hhead
    · exact absurd hlength (by decide)
  have hhelp : ¬ (word = "-h".toList ∨ word = "--help".toList) := by
    rintro (h' | h')
    · exact h.ne_cons_cons _ _ h'
    · exact h.ne_cons_cons _ _ h'
  have hverbose : ¬ (s.knowsVerbose = true ∧ (word = "-v".toList ∨ word = "--verbose".toList)) := by
    rintro ⟨-, h' | h'⟩
    · exact h.ne_cons_cons _ _ h'
    · exact h.ne_cons_cons _ _ h'
  rw [form, if_neg hhelp, hflags]
  dsimp only
  rw [hassigned]
  dsimp only
  rw [if_neg hverbose, if_neg hhyphen]

/-- **The words of a part are one item**, whatever comes behind them. -/
theorem itemsOf_words_append (part : RenderPart) (rest : List Text) :
    render.itemsOf (part.words ++ rest) = part.item :: render.itemsOf rest := by
  cases part with
  | config path => exact itemsOf_spaced (by decide) path rest
  | file path => exact itemsOf_spaced (by decide) path rest
  | args json => exact itemsOf_spaced (by decide) json rest
  | argsFile path => exact itemsOf_spaced (by decide) path rest
  | skip value position reads => exact itemsOf_spaced (by decide) value rest
  | dialect name d known => exact itemsOf_spaced (by decide) name rest
  | verbose short =>
    cases short
    · exact itemsOf_item (by decide) rest
    · exact itemsOf_item (by decide) rest
  | template word plain => exact itemsOf_item (form_templateWord plain) rest

theorem itemsOf_flatMap_words (parts : List RenderPart) :
    render.itemsOf (parts.flatMap RenderPart.words) = parts.map RenderPart.item := by
  induction parts with
  | nil => rfl
  | cons part later ih => rw [List.flatMap_cons, itemsOf_words_append, ih, List.map_cons]

end Subcommand

/-! ## Taking parts in -/

namespace RenderPart

theorem last?_append {α : Type} (field? : RenderPart → Option α) (before after : List RenderPart) :
    last? field? (before ++ after) = (last? field? after).or (last? field? before) := by
  rw [last?, List.filterMap_append, List.getLast?_append]
  rfl

end RenderPart

namespace Request
open RenderPart

/-- A request with the parts that come behind what it was made of, as long as no second one is a
template. -/
def withParts (r : Request) (parts : List RenderPart) : Request where
  config := (last? config? parts).or r.config
  file := (last? file? parts).or r.file
  word := r.word.or (parts.filterMap word?).head?
  arguments := (last? arguments? parts).getD r.arguments
  skips := r.skips ++ parts.filterMap position?
  dialect := (last? dialect? parts).or r.dialect
  verbose := r.verbose || parts.any isVerbose

theorem withParts_nil (r : Request) : r.withParts [] = r := by
  simp [withParts, last?]

/-- **Fields know nothing of each other**, so parts may be taken in one after the other. -/
theorem withParts_append (r : Request) (before after : List RenderPart) :
    r.withParts (before ++ after) = (r.withParts before).withParts after := by
  simp only [withParts, last?_append, List.filterMap_append, List.head?_append, List.any_append,
    Option.or_assoc, Option.getD_or, List.append_assoc, Bool.or_assoc]

/-- What one part says, field by field. -/
theorem withParts_singleton (r : Request) (part : RenderPart) :
    r.withParts [part] =
      { config := (config? part).or r.config
        file := (file? part).or r.file
        word := r.word.or (word? part)
        arguments := (arguments? part).getD r.arguments
        skips := r.skips ++ (position? part).toList
        dialect := (dialect? part).or r.dialect
        verbose := r.verbose || isVerbose part } := by
  cases part <;> simp [withParts, last?]

/-- The second template that there is, if the one that may have been given before counts. -/
def secondTemplate? (r : Request) (parts : List RenderPart) : Option Text :=
  (r.word.toList ++ parts.filterMap word?)[1]?

/-- **What taking in parts comes to**: it fails at the second template, and never else. -/
def afterParts (r : Request) (parts : List RenderPart) : Except Stop Request :=
  match r.secondTemplate? parts with
  | some second => .error (.misuse (.unexpectedArgument second))
  | none => .ok (r.withParts parts)

/-- A part that is no template can be taken in. -/
theorem take_item_of_word?_eq_none (r : Request) {part : RenderPart} (h : word? part = none) :
    r.take part.item = .ok (r.withParts [part]) := by
  rw [withParts_singleton, h, Option.or_none]
  cases part with
  | template word plain => cases h
  | skip value position reads =>
    simp only [item, take, set, readPosition?_eq_some_iff.mpr reads, isVerbose, Bool.or_false]
    rfl
  | dialect name d known =>
    simp only [item, take, set, known, position?, isVerbose, Option.toList_none, List.append_nil,
      Bool.or_false]
    rfl
  | verbose short =>
    simp only [position?, isVerbose, Option.toList_none, List.append_nil, Bool.or_true]
    rfl
  | _ =>
    simp only [position?, isVerbose, Option.toList_none, List.append_nil, Bool.or_false]
    rfl

/-- **Taking in a part.** -/
theorem take_item (r : Request) (part : RenderPart) : r.take part.item = r.afterParts [part] := by
  cases hpart : word? part with
  | none =>
    have hsecond : r.secondTemplate? [part] = none := by
      rw [secondTemplate?, List.filterMap_cons_none hpart, List.filterMap_nil, List.append_nil]
      cases r.word <;> rfl
    rw [take_item_of_word?_eq_none r hpart, afterParts, hsecond]
  | some word =>
    obtain ⟨plain, rfl⟩ : ∃ plain, part = .template word plain := by
      cases part <;> cases hpart
      exact ⟨_, rfl⟩
    rw [afterParts, secondTemplate?, withParts_singleton]
    rcases hword : r.word with _ | given
    · simp [take, hword]
    · simp [take, hword]

/-- At most one template so far is the one of the request that is made of it. -/
theorem toList_word_withParts {r : Request} {parts : List RenderPart}
    (h : r.secondTemplate? parts = none) :
    (r.withParts parts).word.toList = r.word.toList ++ parts.filterMap word? := by
  have hle := List.getElem?_eq_none_iff.mp h
  unfold withParts
  generalize r.word = before, parts.filterMap word? = here at hle ⊢
  rcases before with _ | first <;> rcases here with _ | ⟨second, _ | ⟨third, others⟩⟩ <;>
    simp at hle ⊢

/-- **Taking in parts**, one after the other. -/
theorem foldlM_take_items (r : Request) (parts : List RenderPart) :
    (parts.map item).foldlM take r = r.afterParts parts := by
  induction parts generalizing r with
  | nil =>
    have hsecond : r.secondTemplate? [] = none := by
      rw [secondTemplate?, List.filterMap_nil, List.append_nil]
      cases r.word <;> rfl
    rw [afterParts, hsecond, withParts_nil]
    rfl
  | cons part later ih =>
    have hparts : part :: later = [part] ++ later := rfl
    have happend : r.secondTemplate? (part :: later) =
        (r.word.toList ++ [part].filterMap word? ++ later.filterMap word?)[1]? := by
      rw [secondTemplate?, hparts, List.filterMap_append, List.append_assoc]
    rw [List.map_cons, List.foldlM_cons, take_item, afterParts, afterParts]
    cases hsecond : r.secondTemplate? [part] with
    | some second =>
      have hlt := (List.getElem?_eq_some_iff.mp hsecond).1
      rw [happend, List.getElem?_append_left hlt, ← secondTemplate?, hsecond]
      rfl
    | none =>
      have hlater : (r.withParts [part]).secondTemplate? later =
          r.secondTemplate? (part :: later) := by
        rw [happend, secondTemplate?, toList_word_withParts hsecond]
      rw [← hlater, hparts, withParts_append]
      exact ih (r.withParts [part])

end Request

/-! ## Commands -/

namespace Command
open RenderPart

/-- What finishing makes of the parts of a command line, if at most one is a template. -/
theorem toRender_withParts {parts : List RenderPart} (h : (parts.filterMap word?)[1]? = none) :
    Request.toRender (Request.withParts {} parts) =
      (RenderPart.source parts).map fun template => .render (request parts template) := by
  have hwith : Request.withParts {} parts =
      { config := last? config? parts
        file := last? file? parts
        word := (parts.filterMap word?).head?
        arguments := (last? arguments? parts).getD .empty
        skips := parts.filterMap position?
        dialect := last? dialect? parts
        verbose := parts.any isVerbose } := by
    simp [Request.withParts]
  rw [hwith, Request.toRender, Request.template, RenderPart.source]
  rcases hwords : parts.filterMap word? with _ | ⟨word, _ | ⟨second, later⟩⟩
  · cases hfile : last? file? parts <;> rfl
  · cases hfile : last? file? parts <;> rfl
  · rw [hwords] at h
    cases h

/-- **A request is read off its parts**, field by field. -/
theorem parse_commandLine (parts : List RenderPart) :
    parse (commandLine parts) =
      (RenderPart.source parts).map fun template => .render (request parts template) := by
  have hitems : (Subcommand.render.itemsOf (parts.flatMap words)).foldlM Request.take {} =
      Request.afterParts {} parts := by
    rw [Subcommand.itemsOf_flatMap_words, Request.foldlM_take_items]
  rw [commandLine, parse_render_cons, Subcommand.parse, hitems, Request.afterParts]
  have hsecond : Request.secondTemplate? {} parts = (parts.filterMap word?)[1]? := rfl
  rw [hsecond]
  rcases hwords : parts.filterMap word? with _ | ⟨word, _ | ⟨second, later⟩⟩
  · exact toRender_withParts (by rw [hwords]; rfl)
  · exact toRender_withParts (by rw [hwords]; rfl)
  · rw [RenderPart.source, hwords]
    rfl

end Command

namespace RenderPart

/-! ## Rearranging -/

/-- The fields of a request, and of what its template is found from. -/
inductive Field where
  | config | file | word | arguments | skips | dialect | verbose
  deriving DecidableEq

/-- The field that a part speaks about. -/
def field : RenderPart → Field
  | .config _ => .config
  | .file _ => .file
  | .args _ => .arguments
  | .argsFile _ => .arguments
  | .skip _ _ _ => .skips
  | .dialect _ _ _ => .dialect
  | .verbose _ => .verbose
  | .template _ _ => .word

/-- **The same parts in another order**, in which parts that speak about the same field have not
moved past each other. -/
def SameByField (parts parts' : List RenderPart) : Prop :=
  ∀ f, parts.filter (fun part => part.field = f) = parts'.filter (fun part => part.field = f)

/-- What is said about one field comes from the parts of that field. -/
theorem SameByField.filterMap_eq {parts parts' : List RenderPart} (h : SameByField parts parts')
    {α : Type} {field? : RenderPart → Option α} (f : Field)
    (hf : ∀ part, part.field ≠ f → field? part = none) :
    parts.filterMap field? = parts'.filterMap field? := by
  have hfilter : ∀ l : List RenderPart,
      l.filterMap field? = (l.filter fun part => part.field = f).filterMap field? := by
    intro l
    rw [List.filterMap_filter]
    congr 1
    funext part
    by_cases hpart : part.field = f
    · rw [if_pos (decide_eq_true hpart)]
    · rw [if_neg (mt of_decide_eq_true hpart), hf part hpart]
  rw [hfilter, hfilter parts', h f]

theorem SameByField.any_isVerbose_eq {parts parts' : List RenderPart}
    (h : SameByField parts parts') : parts.any isVerbose = parts'.any isVerbose := by
  have hfilter : ∀ l : List RenderPart,
      l.any isVerbose = (l.filter fun part => part.field = .verbose).any isVerbose := by
    intro l
    rw [List.any_filter]
    congr 1
    funext part
    cases part <;> rfl
  rw [hfilter, hfilter parts', h .verbose]

theorem SameByField.source_eq {parts parts' : List RenderPart} (h : SameByField parts parts') :
    RenderPart.source parts = RenderPart.source parts' := by
  have hword : parts.filterMap word? = parts'.filterMap word? :=
    h.filterMap_eq .word fun part hpart => by cases part <;> simp [field] at hpart ⊢
  have hfile : parts.filterMap file? = parts'.filterMap file? :=
    h.filterMap_eq .file fun part hpart => by cases part <;> simp [field] at hpart ⊢
  unfold RenderPart.source last?
  rw [hword, hfile]

theorem SameByField.request_eq {parts parts' : List RenderPart} (h : SameByField parts parts') :
    request parts = request parts' := by
  have hconfig : parts.filterMap config? = parts'.filterMap config? :=
    h.filterMap_eq .config fun part hpart => by cases part <;> simp [field] at hpart ⊢
  have harguments : parts.filterMap arguments? = parts'.filterMap arguments? :=
    h.filterMap_eq .arguments fun part hpart => by cases part <;> simp [field] at hpart ⊢
  have hskips : parts.filterMap position? = parts'.filterMap position? :=
    h.filterMap_eq .skips fun part hpart => by cases part <;> simp [field] at hpart ⊢
  have hdialect : parts.filterMap dialect? = parts'.filterMap dialect? :=
    h.filterMap_eq .dialect fun part hpart => by cases part <;> simp [field] at hpart ⊢
  funext template
  unfold request last?
  rw [hconfig, harguments, hskips, hdialect, h.any_isVerbose_eq]

/-! ## Every request can be written -/

/-- The part that gives a template. -/
def ofTemplate (t : TemplateSource) (h : ∀ word, t = .inline word → IsTemplateWord word) :
    RenderPart :=
  match t with
  | .inline word => .template word (h word rfl)
  | .file path => .file path

/-- The part that gives arguments, if there are any. -/
def ofArguments : ArgumentsSource → Option RenderPart
  | .empty => none
  | .inline json => some (.args json)
  | .file path => some (.argsFile path)

/-- Every dialect is known under its name. -/
theorem ofName?_name (d : Dialect) : Dialect.ofName? d.name.toList = some d := by
  cases d <;> decide

/-- **The parts of a request**, in the order of its fields. -/
def ofRequest (r : RenderRequest) (ht : ∀ word, r.template = .inline word → IsTemplateWord word)
    (hs : ∀ p ∈ r.skips, 0 < p ∧ p ≤ maxPosition) : List RenderPart :=
  r.config.toList.map .config ++ [ofTemplate r.template ht] ++ (ofArguments r.arguments).toList ++
    r.skips.attach.map (fun p => .skip (numeral p.1) p.1 (isPosition_numeral (hs p.1 p.2))) ++
    r.dialect.toList.map (fun d => .dialect d.name.toList d (ofName?_name d)) ++
    if r.verbose then [.verbose true] else []

section OfRequest
variable (r : RenderRequest) (ht : ∀ word, r.template = .inline word → IsTemplateWord word)
  (hs : ∀ p ∈ r.skips, 0 < p ∧ p ≤ maxPosition)

/-- What the parts of a request say about a field. -/
theorem filterMap_ofRequest {α : Type} (field? : RenderPart → Option α) :
    (ofRequest r ht hs).filterMap field? =
      r.config.toList.filterMap (fun path => field? (.config path)) ++
        (field? (ofTemplate r.template ht)).toList ++
        (ofArguments r.arguments).toList.filterMap field? ++
        r.skips.attach.filterMap (fun p => field? (.skip (numeral p.1) p.1
          (isPosition_numeral (hs p.1 p.2)))) ++
        r.dialect.toList.filterMap (fun d => field? (.dialect d.name.toList d (ofName?_name d))) ++
        if r.verbose then (field? (.verbose true)).toList else [] := by
  have hsingle : ∀ part, [part].filterMap field? = (field? part).toList := by
    intro part
    cases h : field? part <;> simp [h]
  have hverbose : (if r.verbose then [RenderPart.verbose true] else []).filterMap field? =
      if r.verbose then (field? (.verbose true)).toList else [] := by
    rw [apply_ite (List.filterMap field?), hsingle, List.filterMap_nil]
  simp only [ofRequest, List.filterMap_append, List.filterMap_map, hsingle, hverbose]
  rfl

end OfRequest

theorem getLast?_toList {α : Type} (o : Option α) : o.toList.getLast? = o := by
  cases o <;> rfl

/-- **Reading the parts of a request gives the request.** -/
theorem request_ofRequest (r : RenderRequest)
    (ht : ∀ word, r.template = .inline word → IsTemplateWord word)
    (hs : ∀ p ∈ r.skips, 0 < p ∧ p ≤ maxPosition) :
    Gives (ofRequest r ht hs) r.template ∧ request (ofRequest r ht hs) r.template = r := by
  obtain ⟨config, template, arguments, skips, dialect, verbose⟩ := r
  have hverbose : (ofRequest ⟨config, template, arguments, skips, dialect, verbose⟩ ht hs).any
      isVerbose = verbose := by
    rcases template with word | path <;> rcases arguments with _ | json | path <;>
      cases verbose <;> simp [ofRequest, ofTemplate, ofArguments]
  constructor
  · rcases template with word | path <;> rcases arguments with _ | json | path' <;>
      simp [Gives, last?, filterMap_ofRequest, ofTemplate, ofArguments, List.filterMap_cons]
  · simp only [request, hverbose]
    rcases template with word | path <;> rcases arguments with _ | json | path' <;>
      simp [last?, filterMap_ofRequest, ofTemplate, ofArguments, getLast?_toList, List.filterMap_cons]

end RenderPart

namespace Command
open RenderPart

/-- **What a command line that renders means.**  It is accepted if and only if it gives exactly one
template, either as one word or by at least one file, and the request is then read off its parts:
for each field the last part that speaks about it counts, except that skips are collected and that
one flag is enough.  Moving parts past parts of other fields changes nothing, neither the request nor
an error.  And every request is the meaning of some parts, provided that its positions can be
written and that a template on the command line can be told from an option. -/
theorem parse_eq_ok_iff_parts (parts : List RenderPart) :
    (∀ command, parse (commandLine parts) = .ok command ↔
      ∃ template, Gives parts template ∧ command = .render (request parts template)) ∧
    (∀ parts', SameByField parts parts' →
      parse (commandLine parts) = parse (commandLine parts')) ∧
    ∀ r : RenderRequest, (∀ word, r.template = .inline word → IsTemplateWord word) →
      (∀ p ∈ r.skips, 0 < p ∧ p ≤ maxPosition) →
      ∃ parts, parse (commandLine parts) = .ok (.render r) := by
  refine ⟨fun command => ?_, fun parts' h => ?_, fun r ht hs => ?_⟩
  · rw [parse_commandLine]
    constructor
    · intro h
      cases hsource : RenderPart.source parts with
      | error e =>
        rw [hsource] at h
        cases h
      | ok template =>
        rw [hsource] at h
        cases h
        exact ⟨template, source_eq_ok_iff.mp hsource, rfl⟩
    · rintro ⟨template, hgives, rfl⟩
      rw [source_eq_ok_iff.mpr hgives]
      rfl
  · rw [parse_commandLine, parse_commandLine, h.source_eq, h.request_eq]
  · obtain ⟨hgives, hrequest⟩ := request_ofRequest r ht hs
    refine ⟨ofRequest r ht hs, ?_⟩
    rw [parse_commandLine, source_eq_ok_iff.mpr hgives]
    exact congrArg (fun r => Except.ok (Command.render r)) hrequest

/-- A value may look like an option or a flag.  The last part that names arguments counts, by
whichever option it does, and may be moved behind parts of other fields. -/
theorem parse_last_arguments :
    parse ["render".toList, "--args".toList, "--file".toList, "-".toList, "--args-file".toList,
        "-v".toList, "--skip".toList, "+02".toList] =
      .ok (.render ⟨none, .inline "-".toList, .file "-v".toList, [2], none, false⟩) ∧
    parse ["render".toList, "--skip".toList, "+02".toList, "--args".toList, "--file".toList,
        "--args-file".toList, "-v".toList, "-".toList] =
      .ok (.render ⟨none, .inline "-".toList, .file "-v".toList, [2], none, false⟩) ∧
    ∃ parts, parse (commandLine parts) =
      .ok (.render ⟨none, .inline "-".toList, .file "-v".toList, [2], none, false⟩) := by
  have hposition : IsPosition "+02".toList 2 :=
    ⟨['0', '2'], .inr rfl, by decide, List.all_eq_true.mp rfl, rfl, by decide, by decide⟩
  let skip : RenderPart := .skip "+02".toList 2 hposition
  let template : RenderPart := .template "-".toList (by decide)
  let parts := [.args "--file".toList, template, .argsFile "-v".toList, skip]
  let parts' := [skip, .args "--file".toList, .argsFile "-v".toList, template]
  have hsame : SameByField parts parts' := by
    intro f
    cases f <;> rfl
  have hparts := (parse_eq_ok_iff_parts parts).1 _ |>.mpr
    ⟨.inline "-".toList, .inl ⟨_, rfl, rfl, rfl⟩, rfl⟩
  refine ⟨hparts, ?_, (parse_eq_ok_iff_parts []).2.2 _ ?_ ?_⟩
  · exact ((parse_eq_ok_iff_parts parts).2.1 parts' hsame).symm.trans hparts
  · rintro word ⟨⟩
    decide
  · decide

end Command

end QueryTemplate
