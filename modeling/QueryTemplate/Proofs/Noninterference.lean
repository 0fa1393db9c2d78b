import QueryTemplate.Proofs.LiteralScanner
import QueryTemplate.Proofs.RelatedBuilds

/-!
# Texts cannot change the structure of a query

Two builds of one template are given arguments that are the same but for texts that are written as
string literals (`SameButLiterals`).  They fail for the same cause, or both succeed; and the two
queries have the same mask, so whoever supplies those texts decides about the bodies of literals
and about nothing else.

The last part has a **proviso**: the template's own text must not leave a literal open where an
argument is inserted or a segment ends, and the names that are written without escaping must have
no quotes.  Failing alike needs no proviso.  The lemmas below therefore speak about both at once:
outcomes are the same error or two related values (`SameOutcome`), and the relation is "alike if the
proviso holds" (`AlikeIf`), which conversions respect (`AlikeIf.isCongruence`).  The relation is
carried from single values through lists and maps (`Specifier.convert_alike`), then along the tokens
of a segment, where the mode of the reader is the invariant (`Token.filled?_alike`), and then over
the segments (`Segment.fillings_alike`).
-/

namespace QueryTemplate

/-! ## Arguments that differ in their texts -/

namespace Argument

/-- The same argument, or two texts. -/
inductive SameButText : Argument → Argument → Prop where
  | same (a : Argument) : SameButText a a
  | text (s t : Text) : SameButText (.text s) (.text t)

/-- The same but for texts, which may also be the items of a list or the values of a map. -/
inductive SameButTexts : Argument → Argument → Prop where
  | single {a b : Argument} (h : SameButText a b) : SameButTexts a b
  | list {items items' : List Argument} (h : List.Forall₂ SameButText items items') :
      SameButTexts (.list items) (.list items')
  | map {entries entries' : List (Text × Argument)}
      (h : List.Forall₂ (fun x y => x.1 = y.1 ∧ SameButText x.2 y.2) entries entries') :
      SameButTexts (.map entries) (.map entries')

end Argument

/-- Two arguments that differ, if at all, in texts that the conversion writes as literals. -/
def Specifier.SameButLiterals : Specifier → Argument → Argument → Prop
  | .escaped => Argument.SameButText
  | .array => Argument.SameButTexts
  | .int | .float | .column => Eq

/-! ## Conversions -/

/-- Texts that are alike if the proviso holds. -/
def AlikeIf (proviso : Prop) (d : Dialect) (x y : Text) : Prop :=
  proviso → Alike d x y

theorem AlikeIf.isCongruence (proviso : Prop) (d : Dialect) :
    IsCongruence (AlikeIf proviso d) where
  nil _ := .nil
  append h h' hp := (h hp).append (h' hp)
  plain h _ := .of_quoteless h.singleQuote_not_mem
  separator _ := .of_quoteless (by decide)
  equals _ := .of_quoteless (by decide)

namespace Conversion
variable {proviso : Prop} {d : Dialect}

/-- Single values that differ in their texts are written alike. -/
theorem escaped_alike {a b : Argument} (h : a.SameButText b) :
    SameOutcome (AlikeIf proviso d) (escaped d.escaper a) (escaped d.escaper b) := by
  cases h with
  | text s t => exact .ok fun _ => .literal s t
  | same => exact escaped_related (AlikeIf.isCongruence proviso d) fun t _ _ => .literal t t

/-- Quoting a name adds no single quotes. -/
theorem singleQuote_not_mem_quoteName {name : Text} (h : singleQuote ∉ name) :
    singleQuote ∉ d.escaper.quoteName name := by
  have hdelimited : ∀ q, singleQuote ≠ q → singleQuote ∉ q :: (name ++ [q]) := by
    intro q hq
    simp [hq, h]
  cases d with
  | mysql => exact hdelimited backtick (by decide)
  | postgres => exact hdelimited doubleQuote (by decide)

theorem quoteName_alike {name : Text} (h : proviso → singleQuote ∉ name) :
    AlikeIf proviso d (d.escaper.quoteName name) (d.escaper.quoteName name) :=
  fun hp => .of_quoteless (singleQuote_not_mem_quoteName (h hp))

end Conversion

section Convert
variable {proviso : Prop} {d : Dialect} {a b : Argument}

/-- One argument is written alike in two builds. -/
theorem Specifier.convert_alike_self {s : Specifier}
    (hnames : proviso → ∀ name ∈ a.names s, singleQuote ∉ name) :
    SameOutcome (AlikeIf proviso d) (s.convert d.escaper a) (s.convert d.escaper a) :=
  convert_related (AlikeIf.isCongruence proviso d) (fun t _ _ => .literal t t)
    fun name hname => Conversion.quoteName_alike fun hp => hnames hp name hname

/-- The array conversion puts names of its own before the values of a map. -/
theorem Conversion.array_alike (h : a.SameButTexts b)
    (hnames : proviso → ∀ name ∈ a.names .array, singleQuote ∉ name) :
    SameOutcome (AlikeIf proviso d) (flatten d.escaper (escaped d.escaper) a)
      (flatten d.escaper (escaped d.escaper) b) := by
  have hP := AlikeIf.isCongruence proviso d
  cases h with
  | list h => exact flatten_list_related hP (h.imp fun _ _ => escaped_alike)
  | @map entries entries' h =>
    have hkeys : ∀ named ∈ entries, proviso → singleQuote ∉ named.1 :=
      fun named hmem hp => hnames hp named.1 (List.mem_map_of_mem hmem)
    have hentries := (List.forall₂_and_left ..).mpr ⟨hkeys, h⟩
    refine flatten_map_related hP (hentries.imp ?_)
    rintro x y ⟨hquoteless, hname, hvalue⟩
    rw [RelatedEntries, ← hname]
    exact ⟨quoteName_alike hquoteless, escaped_alike hvalue⟩
  | single h =>
    cases h with
    | text s t => exact escaped_alike (.text s t)
    | same => exact Specifier.convert_alike_self (s := .array) hnames

/-- **Conversions write alike** what differs in texts that become literals. -/
theorem Specifier.convert_alike {s : Specifier} (h : s.SameButLiterals a b)
    (hnames : proviso → ∀ name ∈ a.names s, singleQuote ∉ name) :
    SameOutcome (AlikeIf proviso d) (s.convert d.escaper a) (s.convert d.escaper b) := by
  cases s with
  | escaped => exact Conversion.escaped_alike h
  | array => exact Conversion.array_alike h hnames
  | int | float | column =>
    cases h
    exact convert_alike_self hnames

end Convert

/-! ## Holes outside of literals -/

namespace Token

/-- **No hole stands in a literal**: a reader who begins in some mode is outside of literals before
the first hole, and stays so if each hole is filled with something alike to itself. -/
def BalancedFrom (d : Dialect) (m : Mode) (tokens : List Token) : Prop :=
  (m.after d (stretches tokens).1).IsOutside ∧ ∀ w ∈ (stretches tokens).2, Balanced d w

theorem BalancedFrom.of_hole {d : Dialect} {m m' : Mode} {s : Specifier} {rest : List Token}
    (h : BalancedFrom d m (.hole s :: rest)) (hm' : m'.IsOutside) : BalancedFrom d m' rest := by
  obtain ⟨-, hlater⟩ := h
  exact ⟨m'.isOutside_after d hm' (hlater _ (List.mem_cons_self ..)),
    fun w hw => hlater w (List.mem_cons_of_mem _ hw)⟩

end Token

/-! ## Segments -/

/-- Replies that are the same halt or alike, or are both missing. -/
abbrev AlikeReplies (proviso : Prop) (d : Dialect) : Option Converted → Option Converted → Prop :=
  RelatedReplies (AlikeIf proviso d)

section Segments
variable {proviso : Prop} {d : Dialect} {r r' : Replies} {position : Nat}

/-- **The tokens of a segment become alike texts**, or in neither case a text.  The invariant along
the tokens is the mode in which the reader comes upon them. -/
theorem Token.filled?_alike {tokens : List Token}
    (hreplies : ∀ i s, (demands tokens)[i]? = some (.ok s) →
      AlikeReplies proviso d (r (position + i) s) (r' (position + i) s)) :
    Option.Rel (fun x y => proviso → ∀ m : Mode, BalancedFrom d m tokens → AlikeFrom d m x y)
      (filled? r position tokens) (filled? r' position tokens) := by
  -- the mode is quantified in the relation, since it depends on what fills the holes before
  induction tokens generalizing position with
  | nil => exact .some fun _ m hm => .nil hm.1
  | cons token rest ih =>
    cases token with
    | unknown next => exact .none
    | literal c => exact rel_map (ih hreplies) fun x y h hp m hm => .cons (h hp (m.next d c) hm)
    | hole s =>
      have hreply := hreplies 0 s rfl
      have hrest := @ih (position + 1) fun i s' hs => by
        have := hreplies (i + 1) s' hs
        rwa [← Nat.add_assoc, Nat.add_right_comm] at this
      rw [filled?, filled?]
      rw [Nat.add_zero] at hreply
      generalize r position s = reply at hreply
      generalize r' position s = reply' at hreply
      cases hreply with
      | none => exact .none
      | some houtcome =>
        cases houtcome with
        | error halt => exact .none
        | ok htext =>
          refine rel_map hrest fun x y h hp m hm => ?_
          -- the reader stands outside of literals here, so what fills the hole leaves it outside
          have hfilled := htext hp m hm.1
          exact hfilled.append (h hp _ (hm.of_hole hfilled.isOutside))

theorem Segment.filling_alike {s : Segment}
    (hreplies : ∀ i q c, s.questions[i]? = some q → q.demand = .ok c →
      AlikeReplies proviso d (r (position + i) c) (r' (position + i) c))
    (hbalanced : proviso → ∀ w ∈ s.stretches, Balanced d w) :
    Option.Rel (AlikeIf proviso d) (Token.filled? r position s.tokens)
      (Token.filled? r' position s.tokens) := by
  have htokens : ∀ i c, (Token.demands s.tokens)[i]? = some (.ok c) →
      AlikeReplies proviso d (r (position + i) c) (r' (position + i) c) := by
    intro i c hc
    obtain ⟨q, hq, hdemand⟩ := exists_question_of_demand hc
    exact hreplies i q c hq hdemand
  refine rel_imp (Token.filled?_alike htokens) fun x y h hp m hm => h hp m ⟨?_, ?_⟩
  · exact m.isOutside_after d hm (hbalanced hp _ (List.mem_cons_self ..))
  · exact fun w hw => hbalanced hp w (List.mem_cons_of_mem _ hw)

/-- **Both builds keep the same segments**, and what these become is alike. -/
theorem Segment.fillings_alike {segments : List Segment}
    (hreplies : ∀ i q c, (Question.ofSegments segments)[i]? = some q → q.demand = .ok c →
      AlikeReplies proviso d (r (position + i) c) (r' (position + i) c))
    (hbalanced : proviso → ∀ s ∈ segments, ∀ w ∈ s.stretches, Balanced d w) :
    List.Forall₂ (Option.Rel (AlikeIf proviso d)) (fillings r position segments)
      (fillings r' position segments) := by
  refine forall₂_fillings fun before s later hsplit => ?_
  subst hsplit
  refine filling_alike (fun i q c hq hc => ?_) fun hp => hbalanced hp s (by simp)
  rw [Nat.add_assoc]
  exact hreplies _ q c (Question.getElem?_ofSegments hq) hc

/-- **Two fillings of a template** halt for the same cause, or give alike texts. -/
theorem Template.fill_alike (t : Template) (policy : SkipPolicy) {e : Escaper}
    {args args' : List Argument} (hlength : args.length = args'.length)
    (hreplies : ∀ i q c, (Question.ofSegments t.segments)[i]? = some q → q.demand = .ok c →
      AlikeReplies proviso d (replies e args i c) (replies e args' i c))
    (hbalanced : proviso → ∀ s ∈ t.segments, ∀ w ∈ s.stretches, Balanced d w) :
    SameOutcome (AlikeIf proviso d) (t.fill e policy args) (t.fill e policy args') := by
  have hfillings : List.Forall₂ (Option.Rel (AlikeIf proviso d))
      (Segment.fillings (replies e args) 0 t.segments)
      (Segment.fillings (replies e args') 0 t.segments) := by
    refine Segment.fillings_alike ?_ hbalanced
    simpa only [Nat.zero_add] using hreplies
  -- complaints are read off the halts, and these are the same in both builds
  exact t.fill_related policy hlength
    (fun i q c hq hc => RelatedReplies.halt?_eq (hreplies i q c hq hc))
    (keptText_related (AlikeIf.isCongruence proviso d) hfillings)

end Segments

/-! ## Builds -/

namespace Question

/-- Two arguments that a question mark writes with the same structure.  An argument that no question
mark consumes, or that reaches one without a conversion, stays the same. -/
def SameButLiterals : Option Question → Argument → Argument → Prop
  | some ⟨.ok s, _⟩ => s.SameButLiterals
  | some ⟨.error _, _⟩ | none => Eq

end Question

/-- **Arguments that are the same but for texts that become literals.** -/
structure SameButLiterals (source : Text) (args args' : List Argument) : Prop where
  /-- There are as many arguments. -/
  length_eq : args.length = args'.length
  /-- Each question mark gets arguments that it writes with the same structure. -/
  related : ∀ (i : Nat) (a a' : Argument), args[i]? = some a → args'[i]? = some a' →
    Question.SameButLiterals source.questions[i]? a a'

/-- No placeholder stands in a literal of the template, and no segment ends in one: every stretch of
template text leads from outside of literals back to outside. -/
def HolesOutsideLiterals (d : Dialect) (source : Text) : Prop :=
  ∀ s ∈ source.segments, ∀ w ∈ s.stretches, Balanced d w

instance (d : Dialect) (source : Text) : Decidable (HolesOutsideLiterals d source) :=
  inferInstanceAs (Decidable (∀ s ∈ source.segments, ∀ w ∈ s.stretches, Balanced d w))

/-- No column name and no key of a map that is written has a quote. -/
def NamesQuoteless (source : Text) (args : List Argument) : Prop :=
  ∀ x ∈ source.questions.zip args, ∀ name ∈ x.1.names x.2, singleQuote ∉ name

instance (source : Text) (args : List Argument) : Decidable (NamesQuoteless source args) :=
  inferInstanceAs
    (Decidable (∀ x ∈ source.questions.zip args, ∀ name ∈ x.1.names x.2, singleQuote ∉ name))

/-- Each question mark gets alike replies. -/
theorem SameButLiterals.replies_alike {proviso : Prop} {d : Dialect} {source : Text}
    {args args' : List Argument} (h : SameButLiterals source args args')
    (hnames : proviso → NamesQuoteless source args) {i : Nat} {q : Question} {s : Specifier}
    (hq : source.questions[i]? = some q) (hs : q.demand = .ok s) :
    AlikeReplies proviso d (replies d.escaper args i s) (replies d.escaper args' i s) := by
  by_cases hlt : i < args.length
  · have hlt' : i < args'.length := h.length_eq ▸ hlt
    have hrelated := h.related i _ _ (List.getElem?_eq_getElem hlt) (List.getElem?_eq_getElem hlt')
    obtain ⟨demand, kind⟩ := q
    cases hs
    rw [hq] at hrelated
    rw [replies_of_lt _ hlt, replies_of_lt _ hlt']
    refine .some (Specifier.convert_alike hrelated fun hp name hname => ?_)
    refine hnames hp (⟨.ok s, kind⟩, args[i]) ?_ name hname
    exact List.mem_of_getElem? (List.getElem?_zip_eq_some.mpr ⟨hq, List.getElem?_eq_getElem hlt⟩)
  · have hle := Nat.le_of_not_lt hlt
    rw [replies_of_length_le _ hle, replies_of_length_le _ (h.length_eq ▸ hle)]
    exact .none

/-- **Texts cannot change the structure of a query.**  Two builds whose arguments are the same but
for texts that become literals fail for the same cause, or both succeed; and if the placeholders of
the template stand outside of its literals, and the names written have no quotes, the two queries
are the same but for the bodies of their literals. -/
theorem Templater.build_same_error_or_mask (d : Dialect) (config : Config) {source : Text}
    {args args' : List Argument} (h : SameButLiterals source args args') :
    (∃ error, (forDialect d config).build source args = .error error ∧
      (forDialect d config).build source args' = .error error) ∨
    ∃ sql sql', (forDialect d config).build source args = .ok sql ∧
      (forDialect d config).build source args' = .ok sql' ∧
      (HolesOutsideLiterals d source → NamesQuoteless source args → mask d sql = mask d sql') := by
  cases hsplit : Segment.split source with
  | error b =>
    exact .inl ⟨_, build_of_split_error _ args hsplit, build_of_split_error _ args' hsplit⟩
  | ok segments =>
    rw [build_of_split _ args hsplit, build_of_split _ args' hsplit]
    have hfill : SameOutcome
        (AlikeIf (HolesOutsideLiterals d source ∧ NamesQuoteless source args) d)
        (Template.fill d.escaper config.skipOutsideBlock ⟨source, segments⟩ args)
        (Template.fill d.escaper config.skipOutsideBlock ⟨source, segments⟩ args') := by
      rw [← Text.segments_of_split hsplit]
      exact Template.fill_alike _ _ h.length_eq (fun i q s hq hs => h.replies_alike And.right hq hs)
        And.left
    unfold forDialect
    dsimp only
    rcases hfill.error_or_ok with ⟨cause, hcause, hcause'⟩ | ⟨sql, sql', hsql, hsql', halike⟩
    · exact .inl ⟨⟨source, cause⟩, by rw [hcause]; rfl, by rw [hcause']; rfl⟩
    · refine .inr ⟨sql, sql', by rw [hsql]; rfl, by rw [hsql']; rfl, fun hholes hnames => ?_⟩
      exact (halike ⟨hholes, hnames⟩ .outside trivial).mask_eq

/-- Literals that touch: their texts have quotes and backslashes in one build and not in the other,
and a reader finds one literal in either query. -/
theorem Templater.build_touching_literals :
    ∃ sql sql',
      (forDialect .mysql).build ['{', '?', '}', '{', '?', 'a', '}', ',', '?', '#']
        [.text [singleQuote], .list [.text [backslash]], .text ['i']] = .ok sql ∧
      (forDialect .mysql).build ['{', '?', '}', '{', '?', 'a', '}', ',', '?', '#']
        [.text [], .list [.text ['-']], .text ['i']] = .ok sql' ∧
      mask .mysql sql = mask .mysql sql' ∧
      mask .mysql sql = [singleQuote, singleQuote, ',', backtick, 'i', backtick] := by
  have hargs : SameButLiterals ['{', '?', '}', '{', '?', 'a', '}', ',', '?', '#']
      [.text [singleQuote], .list [.text [backslash]], .text ['i']]
      [.text [], .list [.text ['-']], .text ['i']] := by
    refine ⟨rfl, ?_⟩
    rintro (_ | _ | _ | i) a a' ⟨⟩ ⟨⟩
    · exact .text ..
    · exact .list (.cons (.text ..) .nil)
    · rfl
  have hbuild : (forDialect .mysql).build ['{', '?', '}', '{', '?', 'a', '}', ',', '?', '#']
      [.text [singleQuote], .list [.text [backslash]], .text ['i']] =
        .ok (MySql.escaper.literal [singleQuote] ++ MySql.escaper.literal [backslash] ++
          ',' :: MySql.escaper.quoteName ['i']) := rfl
  rcases build_same_error_or_mask .mysql .default hargs with
    ⟨error, herror, -⟩ | ⟨sql, sql', hsql, hsql', hmask⟩
  · cases hbuild.symm.trans herror
  · refine ⟨sql, sql', hsql, hsql', hmask (by decide) (by decide), ?_⟩
    cases hbuild.symm.trans hsql
    decide

end QueryTemplate
