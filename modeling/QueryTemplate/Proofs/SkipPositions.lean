import Mathlib.Data.List.Sort
import QueryTemplate.Argument.Skips

/-!
# Skips stand where they were asked for

`insertSkips` puts skips into a list one after the other, and each of them moves what stands behind
it.  Because the lowest position is served first, nothing that was put in before is moved again, so
in the list that comes out there is a skip at every position that was asked for, counted in that
list (`HasSkipsAt`).  Without those positions (`membersBut`), what is left is the list that skips
were put into: nothing was lost, and the order is the same.

The invariant is carried by one insertion (`HasSkipsAt.insertSkip`), behind all positions that were
served before it, and from there by all of them (`hasSkipsAt_insertSkips`).

Whether there is room for all of them is a matter of lengths.  Each skip makes the list longer by
one, so the position that comes after `k` others may be `k` further than the first, and the first
one that lies too far is the one that is refused (`foldlM_insertSkip_eq_ok_iff`,
`foldlM_insertSkip_eq_error_iff`).  Nothing of this looks at more than which positions there are:
neither their order nor how often one is asked for.
-/

namespace QueryTemplate

section Members
variable {α : Type}

/-- The members of a list whose positions are not among the given ones.  `first` is the position of
the first member. -/
def membersBut (positions : List Nat) : Nat → List α → List α
  | _, [] => []
  | first, a :: rest =>
    if first ∈ positions then membersBut positions (first + 1) rest
    else a :: membersBut positions (first + 1) rest

variable {positions positions' : List Nat} {first : Nat}

theorem membersBut_append (before after : List α) :
    membersBut positions first (before ++ after) =
      membersBut positions first before ++
        membersBut positions (first + before.length) after := by
  induction before generalizing first with
  | nil => rfl
  | cons a rest ih =>
    have hcount : first + 1 + rest.length = first + (rest.length + 1) := by omega
    rw [List.cons_append, membersBut, membersBut, ih, List.length_cons, hcount]
    split <;> rfl

/-- Positions before the first member take nothing away. -/
theorem membersBut_eq_self {l : List α} (h : ∀ p ∈ positions, p < first) :
    membersBut positions first l = l := by
  induction l generalizing first with
  | nil => rfl
  | cons a rest ih =>
    have hfirst : first ∉ positions := fun hmem => absurd (h first hmem) (Nat.lt_irrefl first)
    rw [membersBut, if_neg hfirst, ih fun p hp => Nat.lt_succ_of_lt (h p hp)]

/-- A position behind the last member takes nothing away. -/
theorem membersBut_append_singleton {l : List α} {p : Nat} (h : first + l.length ≤ p) :
    membersBut (positions ++ [p]) first l = membersBut positions first l := by
  induction l generalizing first with
  | nil => rfl
  | cons a rest ih =>
    rw [List.length_cons] at h
    have hne : first ≠ p := by omega
    have hmem : first ∈ positions ++ [p] ↔ first ∈ positions := by
      rw [List.mem_append, List.mem_singleton, or_iff_left hne]
    rw [membersBut, membersBut, ih (by omega)]
    simp only [hmem]

theorem mem_membersBut {l : List α} {i : Nat} {a : α} (ha : l[i]? = some a)
    (hi : first + i ∉ positions) : a ∈ membersBut positions first l := by
  induction l generalizing first i with
  | nil => cases ha
  | cons b rest ih =>
    rw [membersBut]
    rcases i with _ | i
    · cases ha
      rw [Nat.add_zero] at hi
      rw [if_neg hi]
      exact List.mem_cons_self ..
    · have hrest : a ∈ membersBut positions (first + 1) rest := by
        refine ih ha ?_
        rwa [show first + 1 + i = first + (i + 1) by omega]
      split
      · exact hrest
      · exact List.mem_cons_of_mem _ hrest

theorem insertIdx_append (before after : List α) (a : α) :
    (before ++ after).insertIdx before.length a = before ++ a :: after := by
  induction before with
  | nil => rfl
  | cons b rest ih => rw [List.cons_append, List.length_cons, List.insertIdx_succ_cons, ih]; rfl

end Members

/-- **A list with skips at some positions**, counted from one, that is another list everywhere
else. -/
structure HasSkipsAt (args : List Argument) (positions : List Nat) (out : List Argument) : Prop where
  /-- There is one member more for each position. -/
  length_eq : out.length = args.length + positions.length
  /-- At each position there is a skip. -/
  skip : ∀ p ∈ positions, 0 < p ∧ out[p - 1]? = some .skip
  /-- Without the positions, the list is what it was. -/
  others : membersBut positions 1 out = args

namespace HasSkipsAt
variable {args out : List Argument} {positions : List Nat}

theorem refl (args : List Argument) : HasSkipsAt args [] args where
  length_eq := rfl
  skip := nofun
  others := membersBut_eq_self nofun

/-- **One more skip**, behind all that there are. -/
theorem insertSkip {before : List Argument} {p : Nat} (h : HasSkipsAt args positions before)
    (hpos : 0 < p) (hlast : ∀ q ∈ positions, q < p) (hout : insertSkip before p = .ok out) :
    HasSkipsAt args (positions ++ [p]) out := by
  unfold QueryTemplate.insertSkip at hout
  split at hout
  · cases hout
  · rename_i hroom
    cases hout
    -- the list is cut where the skip is put in
    obtain ⟨low, high, rfl, hlow⟩ : ∃ low high, before = low ++ high ∧ low.length = p - 1 :=
      ⟨before.take (p - 1), before.drop (p - 1), (List.take_append_drop ..).symm,
        List.length_take_of_le (by omega)⟩
    rw [← hlow, insertIdx_append]
    constructor
    · have hlength := h.length_eq
      simp only [List.length_append, List.length_cons, List.length_nil] at hlength ⊢
      omega
    · intro q hq
      rcases List.mem_append.mp hq with hq | hq
      · obtain ⟨hqpos, hskip⟩ := h.skip q hq
        have hlt : q - 1 < low.length := by
          have := hlast q hq
          omega
        rw [List.getElem?_append_left hlt] at hskip ⊢
        exact ⟨hqpos, hskip⟩
      · rw [List.mem_singleton] at hq
        subst hq
        refine ⟨hpos, ?_⟩
        rw [List.getElem?_append_right (Nat.le_of_eq hlow), hlow, Nat.sub_self]
        rfl
    · have hothers := h.others
      have hhigh : ∀ q ∈ positions, q < 1 + low.length := fun q hq => by
        have := hlast q hq
        omega
      have hbehind : ∀ q ∈ positions ++ [p], q < 1 + low.length + 1 := by
        intro q hq
        rcases List.mem_append.mp hq with hq | hq
        · exact Nat.lt_succ_of_lt (hhigh q hq)
        · rw [List.mem_singleton] at hq
          omega
      have hp : 1 + low.length ∈ positions ++ [p] :=
        List.mem_append_right _ (List.mem_singleton.mpr (by omega))
      rw [membersBut_append, membersBut_eq_self hhigh] at hothers
      rw [membersBut_append, membersBut_append_singleton (by omega), membersBut, if_pos hp,
        membersBut_eq_self hbehind, hothers]

end HasSkipsAt

/-- Serving positions in increasing order. -/
theorem hasSkipsAt_foldlM {args before out : List Argument} {served positions : List Nat}
    (h : HasSkipsAt args served before) (hsorted : (served ++ positions).Pairwise (· < ·))
    (hpos : ∀ p ∈ positions, 0 < p) (hout : positions.foldlM insertSkip before = .ok out) :
    HasSkipsAt args (served ++ positions) out := by
  induction positions generalizing served before with
  | nil =>
    cases hout
    rwa [List.append_nil]
  | cons p later ih =>
    rw [List.foldlM_cons] at hout
    cases hstep : insertSkip before p with
    | error e =>
      rw [hstep] at hout
      cases hout
    | ok next =>
      rw [hstep] at hout
      have hlast : ∀ q ∈ served, q < p := fun q hq =>
        (List.pairwise_append.mp hsorted).2.2 q hq p (List.mem_cons_self ..)
      have hnext := h.insertSkip (hpos p (List.mem_cons_self ..)) hlast hstep
      rw [List.append_cons] at hsorted ⊢
      exact ih hnext hsorted (fun q hq => hpos q (List.mem_cons_of_mem _ hq)) hout

/-- **Skips stand where they were asked for**, and everything else is what it was. -/
theorem hasSkipsAt_insertSkips {args out : List Argument} {positions : List Nat}
    (hpos : ∀ p ∈ positions, 0 < p) (hout : insertSkips args positions = .ok out) :
    HasSkipsAt args (sortedDistinct positions) out := by
  refine hasSkipsAt_foldlM (.refl args) (pairwise_sortedDistinct positions) ?_ hout
  exact fun p hp => hpos p (mem_sortedDistinct.mp hp)

/-- A member of the list that comes out is a skip that was asked for, or one of the members that the
skips were put among. -/
theorem getElem?_insertSkips {args out : List Argument} {positions : List Nat} {i : Nat}
    {arg : Argument} (hpos : ∀ p ∈ positions, 0 < p) (hout : insertSkips args positions = .ok out)
    (harg : out[i]? = some arg) :
    if i + 1 ∈ positions then arg = .skip else arg ∈ args := by
  have h := hasSkipsAt_insertSkips hpos hout
  split
  · rename_i hmem
    have hskip := (h.skip (i + 1) (mem_sortedDistinct.mpr hmem)).2
    rw [Nat.add_sub_cancel, harg] at hskip
    exact Option.some.inj hskip
  · rename_i hnot
    rw [← h.others]
    refine mem_membersBut harg fun hmem => hnot ?_
    rw [Nat.add_comm]
    exact mem_sortedDistinct.mp hmem

/-! ## Room for skips -/

/-- There is room for a skip up to the position behind the last member, and it makes the list longer
by one. -/
theorem exists_insertSkip_eq_ok {args : List Argument} {p : Nat} (h : p ≤ args.length + 1) :
    ∃ next, insertSkip args p = .ok next ∧ next.length = args.length + 1 := by
  refine ⟨_, if_neg (Nat.not_lt.mpr h), ?_⟩
  rw [List.length_insertIdx, if_pos (by omega)]

theorem insertSkip_eq_error {args : List Argument} {p : Nat} (h : args.length + 1 < p) :
    insertSkip args p = .error ⟨p, args.length⟩ := if_pos h

/-- Serving a first position for which there is room. -/
theorem exists_foldlM_insertSkip_cons {args : List Argument} {p : Nat} (h : p ≤ args.length + 1) :
    ∃ next : List Argument, next.length = args.length + 1 ∧
      ∀ later : List Nat, (p :: later).foldlM insertSkip args = later.foldlM insertSkip next := by
  obtain ⟨next, hstep, hlength⟩ := exists_insertSkip_eq_ok h
  refine ⟨next, hlength, fun later => ?_⟩
  rw [List.foldlM_cons, hstep]
  rfl

theorem foldlM_insertSkip_cons_of_lt {args : List Argument} {p : Nat} (h : args.length + 1 < p)
    (later : List Nat) :
    (p :: later).foldlM insertSkip args = .error ⟨p, args.length⟩ := by
  rw [List.foldlM_cons, insertSkip_eq_error h]
  rfl

/-- **When there is room for all positions**: each may be one further for every one before it. -/
theorem foldlM_insertSkip_eq_ok_iff {args : List Argument} {positions : List Nat} :
    (∃ out, positions.foldlM insertSkip args = .ok out) ↔
      ∀ k p, positions[k]? = some p → p ≤ args.length + (k + 1) := by
  induction positions generalizing args with
  | nil => exact iff_of_true ⟨args, rfl⟩ (fun k p h => by cases h)
  | cons first later ih =>
    rcases Nat.lt_or_ge (args.length + 1) first with hpast | hroom
    · rw [foldlM_insertSkip_cons_of_lt hpast]
      refine iff_of_false (fun ⟨out, h⟩ => by cases h) fun h => ?_
      have := h 0 first rfl
      omega
    · obtain ⟨next, hlength, hfold⟩ := exists_foldlM_insertSkip_cons hroom
      rw [hfold, ih, hlength]
      constructor
      · intro h k p hp
        cases k with
        | zero =>
          cases hp
          omega
        | succ k =>
          have := h k p hp
          omega
      · intro h k p hp
        have := h (k + 1) p hp
        omega

/-- **Which position is refused**: the first one for which there is no room, with the number of
members that there are by then. -/
theorem foldlM_insertSkip_eq_error_iff {args : List Argument} {positions : List Nat}
    {e : SkipPastEnd} :
    positions.foldlM insertSkip args = .error e ↔
      ∃ k p, positions[k]? = some p ∧ args.length + (k + 1) < p ∧
        (∀ j q, j < k → positions[j]? = some q → q ≤ args.length + (j + 1)) ∧
        e = ⟨p, args.length + k⟩ := by
  induction positions generalizing args with
  | nil => exact iff_of_false (fun h => by cases h) (fun ⟨k, p, h, _⟩ => by cases h)
  | cons first later ih =>
    rcases Nat.lt_or_ge (args.length + 1) first with hpast | hroom
    · rw [foldlM_insertSkip_cons_of_lt hpast]
      constructor
      · rintro ⟨⟩
        exact ⟨0, first, rfl, hpast, nofun, rfl⟩
      · rintro ⟨k, p, hp, -, hbefore, rfl⟩
        cases k with
        | zero =>
          cases hp
          rfl
        | succ k =>
          have := hbefore 0 first (Nat.zero_lt_succ k) rfl
          omega
    · obtain ⟨next, hlength, hfold⟩ := exists_foldlM_insertSkip_cons hroom
      rw [hfold, ih, hlength]
      constructor
      · rintro ⟨k, p, hp, hlt, hbefore, rfl⟩
        refine ⟨k + 1, p, hp, by omega, fun j q hj hq => ?_, ?_⟩
        · cases j with
          | zero =>
            cases hq
            omega
          | succ j =>
            have := hbefore j q (by omega) hq
            omega
        · rw [Nat.add_assoc, Nat.add_comm 1 k]
      · rintro ⟨k, p, hp, hlt, hbefore, rfl⟩
        cases k with
        | zero =>
          cases hp
          omega
        | succ k =>
          refine ⟨k, p, hp, by omega, fun j q hj hq => ?_, ?_⟩
          · have := hbefore (j + 1) q (by omega) hq
            omega
          · rw [Nat.add_assoc, Nat.add_comm 1 k]

/-- The positions that are served are told by which positions there are. -/
theorem eq_sortedDistinct {positions distinct : List Nat} (hsorted : distinct.Pairwise (· < ·))
    (hmem : ∀ p, p ∈ distinct ↔ p ∈ positions) : distinct = sortedDistinct positions :=
  hsorted.eq_of_mem_iff (pairwise_sortedDistinct positions) fun p =>
    (hmem p).trans mem_sortedDistinct.symm

/-- **Positions of skips are final positions.**  Skips are put in exactly if each of the distinct
positions, in increasing order, lies at most one behind the members and the skips before it.  The
list that comes out has a skip at each of the positions, and without these it is the list as it was.
Otherwise the first position for which there is no room is refused, with the number of members that
there are by then.  Positions in another order, or asked for more than once, give the same. -/
theorem insertSkips_final_positions (args : List Argument) {positions distinct : List Nat}
    (hpos : ∀ p ∈ positions, 0 < p) (hsorted : distinct.Pairwise (· < ·))
    (hmem : ∀ p, p ∈ distinct ↔ p ∈ positions) :
    ((∃ out, insertSkips args positions = .ok out) ↔
      ∀ k p, distinct[k]? = some p → p ≤ args.length + (k + 1)) ∧
    (∀ out, insertSkips args positions = .ok out →
      out.length = args.length + distinct.length ∧
      (∀ p ∈ distinct, out[p - 1]? = some .skip) ∧ membersBut distinct 1 out = args) ∧
    (∀ e, insertSkips args positions = .error e ↔
      ∃ k p, distinct[k]? = some p ∧ args.length + (k + 1) < p ∧
        (∀ j q, j < k → distinct[j]? = some q → q ≤ args.length + (j + 1)) ∧
        e = ⟨p, args.length + k⟩) ∧
    ∀ positions', (∀ p, p ∈ positions' ↔ p ∈ positions) →
      insertSkips args positions' = insertSkips args positions := by
  have hdistinct := eq_sortedDistinct hsorted hmem
  subst hdistinct
  refine ⟨foldlM_insertSkip_eq_ok_iff, fun out hout => ?_,
    fun e => foldlM_insertSkip_eq_error_iff, fun positions' hsame => ?_⟩
  · have h := hasSkipsAt_insertSkips hpos hout
    exact ⟨h.length_eq, fun p hp => (h.skip p hp).2, h.others⟩
  · have hdistinct := eq_sortedDistinct (pairwise_sortedDistinct positions') fun p =>
      mem_sortedDistinct.trans (hsame p)
    rw [insertSkips, insertSkips, hdistinct]

/-- There is a fourth position behind two members once the first is served, whatever the order; but
there is no fifth, and by then there are three members. -/
theorem insertSkips_around_members :
    (∀ p ∈ [4, 1, 4], 0 < p) ∧ [1, 4].Pairwise (· < ·) ∧ (∀ p, p ∈ [1, 4] ↔ p ∈ [4, 1, 4]) ∧
    (∃ out, insertSkips [.null, .bool true] [4, 1, 4] = .ok out ∧
      out = [.skip, .null, .bool true, .skip] ∧ membersBut [1, 4] 1 out = [.null, .bool true]) ∧
    insertSkips [.null, .bool true] [5, 1, 5] = .error ⟨5, 3⟩ := by
  have hpos : ∀ p ∈ [4, 1, 4], 0 < p := by decide
  have hsorted : [1, 4].Pairwise (· < ·) := by decide
  have hmem : ∀ p, p ∈ [1, 4] ↔ p ∈ [4, 1, 4] := by
    intro p
    simp only [List.mem_cons, List.not_mem_nil, or_false]
    omega
  have hmem' : ∀ p, p ∈ [1, 5] ↔ p ∈ [5, 1, 5] := by
    intro p
    simp only [List.mem_cons, List.not_mem_nil, or_false]
    omega
  refine ⟨hpos, hsorted, hmem, ⟨_, rfl, rfl, ?_⟩, ?_⟩
  · exact ((insertSkips_final_positions [.null, .bool true] hpos hsorted hmem).2.1 _ rfl).2.2
  · have hrefused :=
      (insertSkips_final_positions [.null, .bool true] (by decide) (by decide) hmem').2.2.1 ⟨5, 3⟩
    refine hrefused.mpr ⟨1, 5, rfl, by decide, fun j q hj hq => ?_, rfl⟩
    cases j with
    | zero =>
      cases hq
      decide
    | succ j => omega

end QueryTemplate
