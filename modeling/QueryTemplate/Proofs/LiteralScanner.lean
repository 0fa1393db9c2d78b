import QueryTemplate.Proofs.PlainText

/-!
# Reading string literals

Which parts of an SQL text are data and which are structure is decided by its string literals.  A
reader goes through the text and is outside or inside of a literal (`Mode`).  Inside, a quote ends
the literal unless another quote follows, and then the two stand for a quote in the literal; in
MySQL a backslash also swallows the character behind it.  `mask` is what is left of a text when the
bodies of all its literals are deleted, the quotes around them staying.

A quote inside of a literal cannot be judged before the next character is seen.  That is why there
is a mode of its own for it (`Mode.quote`), and why literals that touch are one literal to a reader:
`'a''b'` has one body.

Two texts are `Alike` if a reader who comes upon them outside of literals leaves them outside of
literals again, both in the same mode and with the same to show for it.  Alike texts may be joined
(`Alike.append`), every text without quotes is alike to itself (`Alike.of_quoteless`), and the
literals of any two texts are alike (`Alike.literal`), because escaping keeps a reader inside
(`Mode.after_escapeText`).
-/

namespace QueryTemplate

/-- Where a reader of SQL text stands with regard to string literals. -/
inductive Mode where
  /-- Outside of literals. -/
  | outside
  /-- Inside of a literal. -/
  | inside
  /-- Inside of a literal, behind a backslash that swallows the next character. -/
  | escape
  /-- Behind a quote in a literal; the literal is over unless another quote follows. -/
  | quote
  deriving DecidableEq

namespace Mode

/-- The mode after one more character. -/
def next (d : Dialect) : Mode → Char → Mode
  | .outside, c | .quote, c => if c = singleQuote then .inside else .outside
  | .inside, c =>
    if c = singleQuote then .quote
    else if d = .mysql ∧ c = backslash then .escape
    else .inside
  | .escape, _ => .inside

/-- The mode after a text. -/
def after (d : Dialect) (m : Mode) (t : Text) : Mode :=
  t.foldl (next d) m

/-- No literal is open. -/
def IsOutside : Mode → Prop
  | .outside | .quote => True
  | .inside | .escape => False

instance : DecidablePred IsOutside
  | .outside | .quote => isTrue trivial
  | .inside | .escape => isFalse id

/-- What the mask shows once a character is read: the characters outside of literals, and the
quotes around literals.  The closing quote is shown when the next character proves that it was
one. -/
def shownAt : Mode → Char → Text
  | .outside, c => [c]
  | .inside, _ | .escape, _ => []
  | .quote, c => if c = singleQuote then [] else [singleQuote, c]

/-- What the mask shows of a text that is read in some mode. -/
def shown (d : Dialect) : Mode → Text → Text
  | _, [] => []
  | m, c :: rest => m.shownAt c ++ shown d (m.next d c) rest

/-- What the mask shows when the text is over. -/
def shownAtEnd : Mode → Text
  | .quote => [singleQuote]
  | .outside | .inside | .escape => []

end Mode

/-- **The mask of an SQL text**: the text without the bodies of its string literals. -/
def mask (d : Dialect) (sql : Text) : Text :=
  Mode.shown d .outside sql ++ (Mode.after d .outside sql).shownAtEnd

/-- A text that leads a reader from outside of literals back to outside. -/
def Balanced (d : Dialect) (t : Text) : Prop :=
  (Mode.after d .outside t).IsOutside

instance (d : Dialect) (t : Text) : Decidable (Balanced d t) :=
  inferInstanceAs (Decidable (Mode.IsOutside _))

/-- The characters that mean something in a literal are among those that MySQL escapes. -/
theorem MySql.ne_of_escapeLetter?_eq_none {c : Char} (h : escapeLetter? c = none) :
    c ≠ backslash ∧ c ≠ singleQuote := by
  constructor
  · rintro rfl
    revert h
    decide
  · rintro rfl
    revert h
    decide

namespace Mode
variable (d : Dialect)

theorem after_append (m : Mode) (s t : Text) : after d m (s ++ t) = after d (after d m s) t :=
  List.foldl_append

theorem shown_append (m : Mode) (s t : Text) :
    shown d m (s ++ t) = shown d m s ++ shown d (after d m s) t := by
  induction s generalizing m with
  | nil => rfl
  | cons c rest ih =>
    rw [List.cons_append, shown, ih, shown, List.append_assoc]
    rfl

/-- Outside of literals it makes no difference to come whether a literal has just ended. -/
theorem next_of_isOutside {m : Mode} (h : m.IsOutside) (c : Char) :
    m.next d c = next d .outside c := by
  cases m with
  | outside => rfl
  | quote => rfl
  | inside => exact h.elim
  | escape => exact h.elim

/-- A balanced text leads back to outside behind a literal too. -/
theorem isOutside_after {m : Mode} (h : m.IsOutside) {t : Text} (ht : Balanced d t) :
    (after d m t).IsOutside := by
  cases t with
  | nil => exact h
  | cons c rest =>
    rw [after, List.foldl_cons, next_of_isOutside d h]
    exact ht

theorem balanced_of_quoteless {t : Text} (h : singleQuote ∉ t) : Balanced d t := by
  induction t with
  | nil => trivial
  | cons c rest ih =>
    rw [List.mem_cons, not_or] at h
    have hnext : next d .outside c = .outside := if_neg (Ne.symm h.1)
    rw [Balanced, after, List.foldl_cons, hnext]
    exact ih h.2

/-- What MySQL writes for a character does not lead out of a literal, and is not shown. -/
theorem after_escapeChar_mysql (c : Char) :
    after .mysql .inside (MySql.escapeChar c) = .inside ∧
      shown .mysql .inside (MySql.escapeChar c) = [] := by
  unfold MySql.escapeChar
  cases hletter : MySql.escapeLetter? c with
  | some letter => exact ⟨rfl, rfl⟩
  | none =>
    have hplain := MySql.ne_of_escapeLetter?_eq_none hletter
    have hnext : next .mysql .inside c = .inside := by
      simp [next, hplain]
    exact ⟨hnext, rfl⟩

/-- PostgreSQL writes a quote twice, and the second one takes back what the first one did. -/
theorem after_escapeChar_postgres (c : Char) :
    after .postgres .inside (Postgres.escapeChar c) = .inside ∧
      shown .postgres .inside (Postgres.escapeChar c) = [] := by
  unfold Postgres.escapeChar
  by_cases hquote : c = singleQuote
  · subst hquote
    exact ⟨rfl, rfl⟩
  · rw [if_neg hquote]
    have hnext : next .postgres .inside c = .inside := by
      simp [next, hquote]
    exact ⟨hnext, rfl⟩

theorem after_flatMap {f : Char → Text}
    (h : ∀ c, after d .inside (f c) = .inside ∧ shown d .inside (f c) = []) (t : Text) :
    after d .inside (t.flatMap f) = .inside ∧ shown d .inside (t.flatMap f) = [] := by
  induction t with
  | nil => exact ⟨rfl, rfl⟩
  | cons c rest ih =>
    rw [List.flatMap_cons, after_append, shown_append, (h c).1, (h c).2]
    exact ih

/-- **Escaping keeps a reader inside**, and nothing of an escaped text is shown. -/
theorem after_escapeText (t : Text) :
    after d .inside (d.escaper.escapeText t) = .inside ∧
      shown d .inside (d.escaper.escapeText t) = [] := by
  cases d with
  | mysql => exact after_flatMap .mysql after_escapeChar_mysql t
  | postgres => exact after_flatMap .postgres after_escapeChar_postgres t

/-- A literal leaves the reader behind its closing quote, and what is shown of it does not depend
on its text.  It continues a literal that it touches, and begins one otherwise. -/
theorem after_literal {m : Mode} (hm : m.IsOutside) (t : Text) :
    m.after d (d.escaper.literal t) = .quote ∧
      m.shown d (d.escaper.literal t) = m.shownAt singleQuote := by
  -- behind a literal, too, a quote leads inside
  have hopen : m.next d singleQuote = .inside := by
    rw [next_of_isOutside d hm]
    rfl
  obtain ⟨hafter, hshown⟩ := after_escapeText d t
  constructor
  · rw [Escaper.literal, after, List.foldl_cons, hopen, ← after, after_append, hafter]
    rfl
  · rw [Escaper.literal, shown, hopen, shown_append, hafter, hshown]
    exact List.append_nil _

end Mode

/-! ## Texts that are alike -/

/-- Two texts that lead a reader from one mode to the same mode, outside of literals, and have the
same to show for it. -/
structure AlikeFrom (d : Dialect) (m : Mode) (x y : Text) : Prop where
  /-- No literal is open in the end. -/
  isOutside : (m.after d x).IsOutside
  /-- Both texts lead to the same mode. -/
  after_eq : m.after d x = m.after d y
  /-- The mask shows the same of both. -/
  shown_eq : m.shown d x = m.shown d y

/-- **Texts that are alike**: a reader who comes upon them outside of literals cannot tell which of
the two it was, but for the bodies of literals. -/
def Alike (d : Dialect) (x y : Text) : Prop :=
  ∀ m : Mode, m.IsOutside → AlikeFrom d m x y

namespace AlikeFrom
variable {d : Dialect} {m : Mode}

theorem nil (h : m.IsOutside) : AlikeFrom d m [] [] :=
  ⟨h, rfl, rfl⟩

/-- The same character may stand in front, whatever it does to the mode. -/
theorem cons {c : Char} {x y : Text} (h : AlikeFrom d (m.next d c) x y) :
    AlikeFrom d m (c :: x) (c :: y) :=
  ⟨h.isOutside, h.after_eq, congrArg (m.shownAt c ++ ·) h.shown_eq⟩

theorem append {x y x' y' : Text} (h : AlikeFrom d m x y)
    (h' : AlikeFrom d (m.after d x) x' y') : AlikeFrom d m (x ++ x') (y ++ y') where
  isOutside := by
    rw [Mode.after_append]
    exact h'.isOutside
  after_eq := by
    rw [Mode.after_append, Mode.after_append, ← h.after_eq]
    exact h'.after_eq
  shown_eq := by
    rw [Mode.shown_append, Mode.shown_append, ← h.after_eq, h.shown_eq, h'.shown_eq]

theorem mask_eq {x y : Text} (h : AlikeFrom d .outside x y) : mask d x = mask d y := by
  rw [mask, mask, h.shown_eq, h.after_eq]

end AlikeFrom

namespace Alike
variable {d : Dialect}

theorem nil : Alike d [] [] := fun _ hm => .nil hm

/-- Alike texts may be joined. -/
theorem append {x y x' y' : Text} (h : Alike d x y) (h' : Alike d x' y') :
    Alike d (x ++ x') (y ++ y') :=
  fun m hm => (h m hm).append (h' _ (h m hm).isOutside)

/-- A text without quotes is alike to itself. -/
theorem of_quoteless {x : Text} (h : singleQuote ∉ x) : Alike d x x :=
  fun _ hm => ⟨Mode.isOutside_after d hm (Mode.balanced_of_quoteless d h), rfl, rfl⟩

/-- **The literals of any two texts are alike.** -/
theorem literal (s t : Text) : Alike d (d.escaper.literal s) (d.escaper.literal t) := by
  intro m hm
  obtain ⟨hs, hs'⟩ := Mode.after_literal d hm s
  obtain ⟨ht, ht'⟩ := Mode.after_literal d hm t
  exact ⟨hs ▸ trivial, hs.trans ht.symm, hs'.trans ht'.symm⟩

end Alike

end QueryTemplate
