import QueryTemplate.Proofs.BlockGrammar
import QueryTemplate.Proofs.LiteralReader
import QueryTemplate.Proofs.RelatedBuilds

/-!
# Building a query once more

A text means itself as a template if it is **inert**: if it has no question marks and no braces
(`Text.IsInert`).  Such a text is one segment of ordinary characters, so building it without
arguments gives it back (`Templater.build_eq_self_of_isInert`).

Queries are inert.  Splitting leaves no braces in a segment, filling leaves no question mark, and a
conversion writes neither unless a text or a name of its argument has them: numerals do not, nor do
quotes and escapes (`Dialect.isInert_literal`, `Dialect.isInert_quoteName`).  So building a query
once more changes nothing (`Templater.build_query_eq_self`), and no other text is given back by a
build without arguments.
-/

namespace QueryTemplate

/-- The characters that mean something in a template. -/
def IsMarkup (c : Char) : Prop :=
  c = '?' ∨ c = '{' ∨ c = '}'

instance : DecidablePred IsMarkup :=
  fun c => inferInstanceAs (Decidable (c = '?' ∨ c = '{' ∨ c = '}'))

/-- **A text that means itself**: none of its characters means anything in a template. -/
def Text.IsInert (t : Text) : Prop :=
  ∀ c ∈ t, ¬ IsMarkup c

instance (t : Text) : Decidable t.IsInert :=
  List.decidableBAll (fun c => ¬ IsMarkup c) t

namespace Text

theorem isInert_append {s t : Text} (hs : s.IsInert) (ht : t.IsInert) : IsInert (s ++ t) :=
  List.forall_mem_append.mpr ⟨hs, ht⟩

theorem isInert_cons {c : Char} {t : Text} (hc : ¬ IsMarkup c) (ht : t.IsInert) :
    IsInert (c :: t) :=
  List.forall_mem_cons.mpr ⟨hc, ht⟩

theorem isInert_singleton {c : Char} (hc : ¬ IsMarkup c) : IsInert [c] :=
  isInert_cons hc (List.forall_mem_nil _)

/-- A text between two copies of a character. -/
theorem isInert_enclosed {c : Char} {t : Text} (hc : ¬ IsMarkup c) (ht : t.IsInert) :
    IsInert (c :: (t ++ [c])) :=
  isInert_cons hc (isInert_append ht (isInert_singleton hc))

theorem isInert_flatMap {t : Text} {write : Char → Text} (h : ∀ c ∈ t, (write c).IsInert) :
    IsInert (t.flatMap write) := by
  intro c hc
  obtain ⟨a, ha, hc⟩ := List.mem_flatMap.mp hc
  exact h a ha c hc

theorem IsInert.not_mem {t : Text} (h : t.IsInert) : '?' ∉ t ∧ '{' ∉ t ∧ '}' ∉ t :=
  ⟨fun hc => h _ hc (.inl rfl), fun hc => h _ hc (.inr (.inl rfl)),
    fun hc => h _ hc (.inr (.inr rfl))⟩

end Text

/-! ## What is written is inert -/

theorem not_isMarkup_of_isNumeric {c : Char} (h : IsNumeric c) : ¬ IsMarkup c := by
  rintro (rfl | rfl | rfl) <;> revert h <;> unfold IsNumeric <;> decide

/-- Everything a conversion writes by itself is inert. -/
theorem isCongruence_isInert : IsCongruence fun x _ => x.IsInert where
  nil := by decide
  append h h' := Text.isInert_append h h'
  plain h := by
    rcases h with rfl | hnumeric
    · decide
    · exact fun c hc => not_isMarkup_of_isNumeric (hnumeric c hc)
  separator := by decide
  equals := by decide

theorem MySql.not_isMarkup_of_escapeLetter? {c letter : Char} (hc : ¬ IsMarkup c)
    (h : escapeLetter? c = some letter) : ¬ IsMarkup letter := by
  unfold escapeLetter? at h
  split_ifs at h
  all_goals
    cases h
    first | exact hc | decide

namespace Dialect
variable (d : Dialect)

/-- Escapes are inert. -/
theorem isInert_escapeChar {c : Char} (hc : ¬ IsMarkup c) : Text.IsInert (d.escapeChar c) := by
  cases d with
  | mysql =>
    rw [escapeChar, MySql.escapeChar]
    cases hletter : MySql.escapeLetter? c with
    | some letter =>
      have hmarkup := MySql.not_isMarkup_of_escapeLetter? hc hletter
      have hbackslash : ¬ IsMarkup backslash := by decide
      exact Text.isInert_cons hbackslash (Text.isInert_singleton hmarkup)
    | none => exact Text.isInert_singleton hc
  | postgres =>
    rw [escapeChar, Postgres.escapeChar]
    split
    · decide
    · exact Text.isInert_singleton hc

theorem isInert_literal {t : Text} (h : t.IsInert) : Text.IsInert (d.escaper.literal t) := by
  have hquote : ¬ IsMarkup singleQuote := by decide
  rw [Escaper.literal, escapeText_eq_flatMap]
  refine Text.isInert_enclosed hquote (Text.isInert_flatMap fun c hc => ?_)
  exact d.isInert_escapeChar (h c hc)

theorem isInert_quoteName {name : Text} (h : name.IsInert) :
    Text.IsInert (d.escaper.quoteName name) := by
  have hquote : ¬ IsMarkup d.nameQuote := by cases d <;> decide
  cases d <;> exact Text.isInert_enclosed hquote h

end Dialect

/-- Tokens that are copied are no question marks. -/
theorem Token.ne_of_literal_mem {t : Text} {c : Char} (h : literal c ∈ ofText t) : c ≠ '?' := by
  fun_induction ofText t with
  | case1 => cases h
  | case2 => simp at h
  | case3 next later unsupported ih =>
    exact ih (by simpa using h)
  | case4 next later s selected ih_boundary ih_letter =>
    have h : literal c ∈ if s = .escaped then ofText (next :: later) else ofText later := by
      simpa using h
    split at h
    · exact ih_boundary h
    · exact ih_letter h
  | case5 c' rest plain ih =>
    rcases List.mem_cons.mp h with hc | h
    · cases hc
      exact plain
    · exact ih h

/-- What is copied from a segment is inert. -/
theorem Segment.not_isMarkup_of_literal_mem {s : Segment} (hs : '{' ∉ s.text ∧ '}' ∉ s.text)
    {c : Char} (h : Token.literal c ∈ s.tokens) : ¬ IsMarkup c := by
  have hmem : c ∈ s.text := by
    rw [← Token.flatMap_text_ofText s.text]
    exact List.mem_flatMap.mpr ⟨_, h, List.mem_singleton_self c⟩
  rintro (rfl | rfl | rfl)
  · exact Token.ne_of_literal_mem h rfl
  · exact hs.1 hmem
  · exact hs.2 hmem

/-! ## Queries are inert -/

/-- No text and no name that the question marks of a template write means anything in a
template. -/
def ArgumentsInert (source : Text) (args : List Argument) : Prop :=
  ∀ x ∈ source.questions.zip args, ∀ t ∈ x.1.literals x.2 ++ x.1.names x.2, t.IsInert

instance (source : Text) (args : List Argument) : Decidable (ArgumentsInert source args) :=
  inferInstanceAs (Decidable
    (∀ x ∈ source.questions.zip args, ∀ t ∈ x.1.literals x.2 ++ x.1.names x.2, t.IsInert))

namespace Templater
variable {d : Dialect} {config : Config} {source sql : Text} {args : List Argument}

/-- **Queries are inert** if what their arguments write is. -/
theorem isInert_of_build_eq_ok (hargs : ArgumentsInert source args)
    (h : (forDialect d config).build source args = .ok sql) : sql.IsInert := by
  obtain ⟨segments, hsplit, -, -, rfl⟩ := (build_eq_ok_iff _ args).mp h
  obtain ⟨hcut, -⟩ := Segment.split_eq_ok_iff_isCut.mp hsplit
  rw [ArgumentsInert, Text.questions, Text.segments_of_split hsplit] at hargs
  have hfillings : List.Forall₂ (Option.Rel fun x _ => Text.IsInert x)
      (Segment.fillings (replies d.escaper args) 0 segments)
      (Segment.fillings (replies d.escaper args) 0 segments) := by
    refine Segment.forall₂_fillings ?_
    rintro before s later rfl
    have hs : '{' ∉ s.text ∧ '}' ∉ s.text := hcut.braceless s (by simp)
    refine Segment.filling_related isCongruence_isInert (fun c hc => ?chars) ?replies
    case chars => exact Text.isInert_singleton (Segment.not_isMarkup_of_literal_mem hs hc)
    case replies =>
      intro i q c hq hc
      have hmem : ∀ arg, args[0 + (Question.ofSegments before).length + i]? = some arg →
          (q, arg) ∈ (Question.ofSegments (before ++ s :: later)).zip args := by
        intro arg harg
        rw [Nat.zero_add] at harg
        exact List.mem_of_getElem?
          (List.getElem?_zip_eq_some.mpr ⟨Question.getElem?_ofSegments hq, harg⟩)
      refine replies_related isCongruence_isInert hc (fun arg harg t ht => ?_)
        fun arg harg name hname => ?_
      · exact d.isInert_literal (hargs _ (hmem arg harg) t (List.mem_append_left _ ht))
      · exact d.isInert_quoteName (hargs _ (hmem arg harg) name (List.mem_append_right _ hname))
  exact keptText_related isCongruence_isInert hfillings

end Templater

/-! ## Inert templates -/

/-- Tokens without holes are filled with what they cover. -/
theorem Token.filled?_of_demands_eq_nil {r : Replies} {position : Nat} {tokens : List Token}
    (h : demands tokens = []) : filled? r position tokens = some (tokens.flatMap text) := by
  induction tokens with
  | nil => rfl
  | cons token rest ih =>
    cases token with
    | literal c => rw [filled?, ih h, Option.map_some, List.flatMap_cons, text]
    | hole s => cases h
    | unknown next => cases h

theorem Text.demands_eq_nil {t : Text} (h : '?' ∉ t) : demands t = [] := by
  induction t with
  | nil => rfl
  | cons c rest ih =>
    rw [List.mem_cons, not_or] at h
    rw [demands_cons_of_ne rest (Ne.symm h.1), ih h.2]

/-- A template that is one inert segment is filled with itself. -/
theorem Template.fill_of_isInert (e : Escaper) (policy : SkipPolicy) {t : Text} (h : t.IsInert) :
    Template.fill e policy ⟨t, Segment.consAlways t 0 []⟩ [] = .ok t := by
  by_cases hnil : t = []
  · subst hnil
    rfl
  · have hdemands : Token.demands (Token.ofText t) = [] :=
      (Token.demands_ofText t).trans (Text.demands_eq_nil h.not_mem.1)
    have hquestions : Question.ofSegments [⟨t, .always, 0⟩] = [] := by
      rw [Question.ofSegments_cons, Segment.questions, Text.demands_eq_nil h.not_mem.1]
      rfl
    rw [Segment.consAlways, if_neg hnil]
    refine (fill_eq_ok_iff ..).mpr ⟨by rw [hquestions]; rfl, by rw [hquestions]; rfl, ?_⟩
    rw [Segment.fillings, Segment.tokens, Token.filled?_of_demands_eq_nil hdemands,
      Token.flatMap_text_ofText]
    exact List.append_nil t

namespace Templater

/-- An inert template is built without arguments, and gives itself. -/
theorem build_eq_self_of_isInert (t : Templater) {source : Text} (h : source.IsInert) :
    t.build source [] = .ok source := by
  rw [t.build_of_split [] (Segment.split_without_braces h.not_mem.2.1 h.not_mem.2.2),
    Template.fill_of_isInert _ _ h]
  rfl

/-- **Building a query once more changes nothing.**  The texts that a build without arguments gives
back are exactly those without question marks and braces; and every query is such a text, if none of
the texts and names that its arguments were written with has a question mark or a brace. -/
theorem build_query_eq_self (d : Dialect) (config : Config) :
    (∀ t : Text, (forDialect d config).build t [] = .ok t ↔ t.IsInert) ∧
    ∀ source args sql, ArgumentsInert source args →
      (forDialect d config).build source args = .ok sql →
      sql.IsInert ∧ (forDialect d config).build sql [] = .ok sql := by
  refine ⟨fun t => ⟨fun h => ?_, build_eq_self_of_isInert _⟩, fun source args sql hargs h => ?_⟩
  · refine isInert_of_build_eq_ok ?_ h
    rw [ArgumentsInert, List.zip_nil_right]
    exact List.forall_mem_nil _
  · have hinert := isInert_of_build_eq_ok hargs h
    exact ⟨hinert, build_eq_self_of_isInert _ hinert⟩

/-- A name in a block that is kept, and the entries of a map: nothing that was written is read again
as a placeholder. -/
theorem build_query_of_entries :
    ∃ sql,
      (forDialect .mysql).build ['{', '?', '#', ' ', '}', '?', 'a']
        [.text ['i'], .map [(['k'], .text ['x'])]] = .ok sql ∧
      (forDialect .mysql).build sql [] = .ok sql := by
  have hargs : ArgumentsInert ['{', '?', '#', ' ', '}', '?', 'a']
      [.text ['i'], .map [(['k'], .text ['x'])]] := by decide
  exact ⟨_, rfl, ((build_query_eq_self .mysql .default).2 _ _ _ hargs rfl).2⟩

end Templater

end QueryTemplate
