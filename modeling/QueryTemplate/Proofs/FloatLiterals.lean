import QueryTemplate.Proofs.TextIntegers

/-!
# Literals of doubles

A double is written wherever its placeholder takes it as a number: alone, as a single value, as an
item of a list and as the value of an entry (`Conversion.FloatPlace`).  The text is the same in each
of these places (`Conversion.FloatPlace.convert_eq`).  It is a literal of the plainest form, with
digits on both sides of a point and perhaps a minus sign (`DecimalSpelling.IsPositional`).

Such a literal says a number exactly, and reading it takes the double nearest to that number, with
the sign that is written (`DecimalSpelling.IsReadAs`).  Zero has two doubles, so the sign is read
from the text and not from the value.  At most one double is read from a literal, and the literal of
a double is read as that double (`Conversion.float_places_write_literal`).
-/

namespace QueryTemplate

/-! ## Reading with correct rounding -/

namespace Binary64

theorem Finite.eq_of_rank_eq {x y : Finite} (hsign : x.negative = y.negative)
    (hrank : x.rank = y.rank) : x = y := by
  obtain ⟨negative, rank, hbound⟩ := x
  obtain ⟨negative', rank', hbound'⟩ := y
  dsimp only at hsign hrank
  subst hsign hrank
  rfl

/-- The double made of a quotient has the sign that is asked for. -/
theorem negative_of_ofRatio_eq {negative : Bool} {a b : Nat} {x : Finite}
    (h : ofRatio negative a b = .finite x) : x.negative = negative := by
  unfold ofRatio ofRank at h
  split at h
  · cases h
    rfl
  · cases h

end Binary64

theorem Decimal.negative_of_nearest_eq {d : Decimal} {x : Binary64.Finite}
    (h : d.nearest = .finite x) : x.negative = d.negative :=
  Binary64.negative_of_ofRatio_eq (nearest_eq_ofRatio d ▸ h)

/-- **What a decimal number is rounded to**: the nearest double, with the sign of the number. -/
theorem Decimal.nearest_eq_finite_iff {d : Decimal} {x : Binary64.Finite} :
    d.nearest = .finite x ↔ x.negative = d.negative ∧ Binary64.RoundsTo d.value x := by
  constructor
  · intro h
    exact ⟨negative_of_nearest_eq h, roundsTo_of_nearest_eq h⟩
  · rintro ⟨hsign, hrounds⟩
    obtain ⟨y, hy⟩ := exists_nearest_eq_of_roundsTo hrounds
    have hrank := (roundsTo_of_nearest_eq hy).rank_eq hrounds
    rw [hy, Binary64.Finite.eq_of_rank_eq ((negative_of_nearest_eq hy).trans hsign.symm) hrank]

/-- **Reading a literal with correct rounding** gives the double nearest to what the literal says,
and of two that are equally near the even one; the sign is the one that is written. -/
structure DecimalSpelling.IsReadAs (s : DecimalSpelling) (x : Binary64.Finite) : Prop where
  /-- The double is nearest. -/
  rounds : Binary64.RoundsTo s.value x
  /-- The sign is the one that is written. -/
  sign : x.negative = s.sign.negative

/-- **A literal is read as one double only.** -/
theorem DecimalSpelling.IsReadAs.unique {s : DecimalSpelling} {x y : Binary64.Finite}
    (hx : s.IsReadAs x) (hy : s.IsReadAs y) : x = y :=
  Binary64.Finite.eq_of_rank_eq (hx.sign.trans hy.sign.symm) (hx.rounds.rank_eq hy.rounds)

/-- **Doubles are read from decimal literals, with correct rounding.** -/
theorem Decimal.readFinite?_text (s : DecimalSpelling) (x : Binary64.Finite) :
    readFinite? s.text = some x ↔ s.IsReadAs x := by
  have hfinite : s.decimal.nearest.finite? = some x ↔ s.decimal.nearest = .finite x := by
    cases s.decimal.nearest <;> simp [Binary64.finite?]
  rw [readFinite?, read?_text, Option.bind_some, hfinite, nearest_eq_finite_iff, s.value_decimal]
  constructor
  · rintro ⟨hsign, hrounds⟩
    exact ⟨hrounds, hsign⟩
  · intro h
    exact ⟨h.sign, h.rounds⟩

/-! ## The form of a literal -/

/-- **A literal of the plainest form**: perhaps a minus sign, digits, a point and digits again. -/
structure DecimalSpelling.IsPositional (s : DecimalSpelling) : Prop where
  /-- There is no plus sign. -/
  sign : s.sign ≠ .plus
  /-- There is a digit before the point. -/
  whole : s.whole ≠ []
  /-- There is a point, and a digit behind it. -/
  fraction : s.fraction ≠ []
  /-- There is no exponent. -/
  exponent : s.exponent = .none

namespace Binary64.Finite

/-- **The literal of a double is of the plainest form, and is read as the double.** -/
theorem exists_spelling_literal (x : Finite) :
    ∃ s : DecimalSpelling, s.text = x.literal ∧ s.IsPositional ∧ s.IsReadAs x := by
  obtain ⟨whole, fraction, hne, hdigits, hliteral, -⟩ := x.literal_eq_positional
  let sign : SignSpelling := if x.negative then .minus else .none
  have hwhole : numeral whole ≠ [] := numeral_ne_nil whole
  let s : DecimalSpelling := ⟨sign, numeral whole, some fraction, .none,
    fun _ hc => isDigit_of_mem_numeral hc, hdigits, List.append_ne_nil_of_left_ne_nil hwhole _⟩
  have htext : s.text = x.literal := by
    have hsign : sign.text = if x.negative then ['-'] else [] := by
      show (if x.negative then SignSpelling.minus else SignSpelling.none).text = _
      split <;> rfl
    rw [hliteral, Decimal.positional, ← hsign]
    show sign.text ++ (numeral whole ++ ('.' :: fraction ++ [])) = _
    rw [List.append_nil]
  refine ⟨s, htext, ⟨?_, hwhole, hne, rfl⟩, ?_⟩
  · show (if x.negative then SignSpelling.minus else SignSpelling.none) ≠ _
    split <;> simp
  · rw [← Decimal.readFinite?_text, htext, x.readFinite?_literal]

/-- **Distinct doubles have distinct literals.** -/
theorem literal_injective {x y : Finite} (h : x.literal = y.literal) : x = y := by
  have hread := x.readFinite?_literal
  rw [h, y.readFinite?_literal] at hread
  exact (Option.some.inj hread).symm

end Binary64.Finite

/-- There is no point in an integer literal. -/
theorem IntegerSpelling.point_not_mem_text (s : IntegerSpelling) : '.' ∉ s.text := by
  intro hmem
  rcases List.mem_append.mp hmem with hmem | hmem
  · cases hsign : s.sign <;> simp [hsign, SignSpelling.text] at hmem
  · exact absurd (s.isDigit _ hmem) (by decide)

/-! ## Where doubles are written -/

namespace Conversion

/-- Converting one after the other, up to a certain one and from there on. -/
theorem mapM_append_cons {α : Type} {write : α → Converted} {before : List α} {parts : List Text}
    (hbefore : before.mapM write = .ok parts) (item : α) (after : List α) :
    (before ++ item :: after).mapM write =
      (do
        let t ← write item
        let rest ← after.mapM write
        return parts ++ t :: rest) := by
  rw [List.mapM_append, hbefore, List.mapM_cons]
  show ((do
    let t ← write item
    let rest ← after.mapM write
    return t :: rest) >>= fun later => (.ok (parts ++ later) : Except Halt (List Text))) = _
  cases write item with
  | error halt => rfl
  | ok t => cases after.mapM write <;> rfl

/-- **The places where a double is written.**  Each is a placeholder, an argument that has the double
in it, and what becomes of the text of the double.  What stands before it in a list or a map can be
written; what stands behind it need not be. -/
inductive FloatPlace (e : Escaper) :
    Specifier → (Binary64 → Argument) → (Text → Converted) → Prop
  /-- A number with a point. -/
  | number : FloatPlace e .float .float .ok
  /-- A single value. -/
  | single : FloatPlace e .escaped .float .ok
  /-- A value where several may stand. -/
  | alone : FloatPlace e .array .float .ok
  /-- An item of a list. -/
  | item {before : List Argument} {parts : List Text} (after : List Argument)
      (hbefore : before.mapM (escaped e) = .ok parts) :
      FloatPlace e .array (fun x => .list (before ++ .float x :: after)) fun t => do
        return joined (parts ++ t :: (← after.mapM (escaped e)))
  /-- The value of an entry. -/
  | value {before : List (Text × Argument)} {parts : List Text} (name : Text)
      (after : List (Text × Argument)) (hbefore : before.mapM (entry e (escaped e)) = .ok parts) :
      FloatPlace e .array (fun x => .map (before ++ (name, .float x) :: after)) fun t => do
        return joined (parts ++ (e.quoteName name ++ equals ++ t) ::
          (← after.mapM (entry e (escaped e))))

/-- **The text of a double is the same in all places.** -/
theorem FloatPlace.convert_eq {e : Escaper} {s : Specifier} {put : Binary64 → Argument}
    {written : Text → Converted} (h : FloatPlace e s put written) (x : Binary64) :
    s.convert e (put x) = floatLiteral x >>= written := by
  have hsame : floatLiteral x = floatLiteral x >>= .ok := by
    cases floatLiteral x <;> rfl
  have hescaped : escaped e (.float x) = floatLiteral x := rfl
  cases h with
  | number => exact hsame
  | single => exact hsame
  | alone => exact hsame
  | item after hbefore =>
    show flatten e (escaped e) (.list _) = _
    rw [flatten, mapM_append_cons hbefore, hescaped]
    cases floatLiteral x with
    | error halt => rfl
    | ok t => cases after.mapM (escaped e) <;> rfl
  | value name after hbefore =>
    show flatten e (escaped e) (.map _) = _
    rw [flatten, mapM_append_cons hbefore, entry, hescaped]
    cases floatLiteral x with
    | error halt => rfl
    | ok t => cases after.mapM (entry e (escaped e)) <;> rfl

theorem floatLiteral_of_not_isFinite {x : Binary64} (h : x.isFinite = false) :
    floatLiteral x = notNumeric .float x.toText := by
  cases x with
  | finite x => cases h
  | infinite negative => rfl
  | nan => rfl

/-- **How doubles are written.**  In each place the text of a finite double is its literal, which is
of the plainest form.  Read with correct rounding, the literal gives the double and no other one.
So different doubles have different literals, and none of them is an integer literal.  A number that
is not finite is refused in each place, with the kind of number demanded. -/
theorem float_places_write_literal (e : Escaper) :
    (∀ x : Binary64.Finite,
      (∀ s put written, FloatPlace e s put written →
        s.convert e (put (.finite x)) = written x.literal) ∧
      (∃ s : DecimalSpelling, s.text = x.literal ∧ s.IsPositional) ∧
      (∀ s : DecimalSpelling, s.text = x.literal → ∀ y, s.IsReadAs y ↔ y = x) ∧
      (∀ y : Binary64.Finite, y.literal = x.literal → y = x) ∧
      ∀ s : IntegerSpelling, s.text ≠ x.literal) ∧
    ∀ x : Binary64, x.isFinite = false → ∀ s put written, FloatPlace e s put written →
      ∀ strict rest supply unread, supply.unread = put x :: unread →
        fillTokens e strict (.hole s :: rest) supply =
          .error (.badArgument supply.nextIndex (.notNumeric .float x.toText)) := by
  constructor
  · intro x
    obtain ⟨spelling, htext, hform, -⟩ := x.exists_spelling_literal
    refine ⟨?_, ⟨spelling, htext, hform⟩, ?_, fun y h => Binary64.Finite.literal_injective h, ?_⟩
    · intro s put written hplace
      exact hplace.convert_eq (.finite x)
    · intro s hs y
      rw [← Decimal.readFinite?_text, hs, x.readFinite?_literal, Option.some_inj]
      exact eq_comm
    · intro s hs
      exact s.point_not_mem_text (hs ▸ x.point_mem_literal)
  · intro x hx s put written hplace strict rest supply unread hunread
    have hfault : s.convert e (put x) = notNumeric .float x.toText := by
      rw [hplace.convert_eq, floatLiteral_of_not_isFinite hx]
      rfl
    exact fillTokens_hole_of_fault hunread hfault strict rest

/-- Negative zero between other items is written with its sign; where it stood, a number that is
not finite is refused before the skip behind it is seen. -/
theorem float_places_of_item :
    Specifier.array.convert Dialect.mysql.escaper
        (.list [.null, .float (.finite (.zero true)), .bool true]) =
      .ok (joined [nullText, Binary64.Finite.literal (.zero true), ['1']]) ∧
    fillTokens Dialect.mysql.escaper true [.hole .array]
        (.start [.list [.null, .float .nan, .skip]]) =
      .error (.badArgument 1 (.notNumeric .float ['N', 'a', 'N'])) := by
  obtain ⟨hwritten, hrefused⟩ := float_places_write_literal Dialect.mysql.escaper
  have hbefore : [Argument.null].mapM (escaped Dialect.mysql.escaper) = .ok [nullText] := rfl
  constructor
  · exact (hwritten (.zero true)).1 _ _ _ (.item [.bool true] hbefore)
  · exact hrefused .nan rfl _ _ _ (.item [.skip] hbefore) true [] _ [] rfl

end Conversion

end QueryTemplate
