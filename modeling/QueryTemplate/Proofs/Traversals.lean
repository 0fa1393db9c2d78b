/-!
# Going through a list

Lists are gone through with steps that may fail: the items of a list argument, the question marks
of a template.  Such a traversal succeeds if every step does (`mapM_eq_ok_iff`), and otherwise the
first step that fails decides (`mapM_eq_error_iff`): what comes behind it is never looked at.
-/

namespace QueryTemplate

section Traversal
variable {ε α β : Type} {f : α → Except ε β}

/-- A first step that succeeds. -/
theorem mapM_cons_of_ok {x : α} {b : β} (hx : f x = .ok b) (rest : List α) :
    (x :: rest).mapM f = (rest.mapM f).map (b :: ·) := by
  rw [List.mapM_cons, hx]
  cases rest.mapM f <;> rfl

/-- A first step that fails. -/
theorem mapM_cons_of_error {x : α} {error : ε} (hx : f x = .error error) (rest : List α) :
    (x :: rest).mapM f = .error error := by
  rw [List.mapM_cons, hx]
  rfl

/-- **A traversal that succeeds**: every step succeeds, and the results stand in the order of the
list. -/
theorem mapM_eq_ok_iff {xs : List α} {ys : List β} :
    xs.mapM f = .ok ys ↔ xs.map f = ys.map .ok := by
  induction xs generalizing ys with
  | nil =>
    cases ys with
    | nil => exact iff_of_true rfl rfl
    | cons y later => exact iff_of_false (fun h => by cases h) (fun h => by cases h)
  | cons x rest ih =>
    rw [List.map_cons]
    cases hx : f x with
    | error error =>
      rw [mapM_cons_of_error hx]
      refine iff_of_false (fun h => by cases h) fun h => ?_
      cases ys <;> cases h
    | ok b =>
      rw [mapM_cons_of_ok hx]
      constructor
      · intro h
        cases hrest : rest.mapM f with
        | error error =>
          rw [hrest] at h
          cases h
        | ok bs =>
          rw [hrest] at h
          cases h
          rw [ih.mp hrest, List.map_cons]
      · intro h
        cases ys with
        | nil => cases h
        | cons y later =>
          obtain ⟨hb, hlater⟩ := List.cons_eq_cons.mp h
          cases hb
          rw [ih.mpr hlater]
          rfl

/-- **A traversal that fails**: it stops at the first step that fails. -/
theorem mapM_eq_error_iff {xs : List α} {error : ε} :
    xs.mapM f = .error error ↔ ∃ before x after, xs = before ++ x :: after ∧
      (∀ y ∈ before, ∃ b, f y = .ok b) ∧ f x = .error error := by
  induction xs with
  | nil =>
    refine iff_of_false (fun h => by cases h) ?_
    rintro ⟨before, x, after, h, -⟩
    cases before <;> cases h
  | cons x rest ih =>
    constructor
    · intro h
      cases hx : f x with
      | error found =>
        rw [mapM_cons_of_error hx] at h
        cases h
        exact ⟨[], x, rest, rfl, nofun, hx⟩
      | ok b =>
        rw [mapM_cons_of_ok hx] at h
        cases hrest : rest.mapM f with
        | ok bs =>
          rw [hrest] at h
          cases h
        | error found =>
          rw [hrest] at h
          cases h
          obtain ⟨before, y, after, rfl, hbefore, hy⟩ := ih.mp hrest
          exact ⟨x :: before, y, after, rfl, List.forall_mem_cons.mpr ⟨⟨b, hx⟩, hbefore⟩, hy⟩
    · rintro ⟨before, y, after, hxs, hbefore, hy⟩
      cases before with
      | nil =>
        cases hxs
        exact mapM_cons_of_error hy rest
      | cons first before =>
        cases hxs
        obtain ⟨⟨b, hb⟩, hbefore⟩ := List.forall_mem_cons.mp hbefore
        rw [mapM_cons_of_ok hb, ih.mpr ⟨before, y, after, rfl, hbefore, hy⟩]
        rfl

/-- What every step keeps, a traversal keeps in its place. -/
theorem map_eq_map_of_mapM {γ : Type} {g : α → γ} {g' : β → γ} {xs : List α} {ys : List β}
    (hstep : ∀ x y, f x = .ok y → g' y = g x) (h : xs.mapM f = .ok ys) :
    ys.map g' = xs.map g := by
  rw [mapM_eq_ok_iff] at h
  induction xs generalizing ys with
  | nil =>
    cases ys with
    | nil => rfl
    | cons y later => cases h
  | cons x rest ih =>
    cases ys with
    | nil => cases h
    | cons y later =>
      obtain ⟨hx, hrest⟩ := List.cons_eq_cons.mp h
      rw [List.map_cons, List.map_cons, hstep x y hx, ih hrest]

/-- A member of what a traversal gives is what a step gives. -/
theorem exists_of_mem_mapM {xs : List α} {ys : List β} (h : xs.mapM f = .ok ys) {y : β}
    (hy : y ∈ ys) : ∃ x ∈ xs, f x = .ok y := by
  have hmem : Except.ok y ∈ ys.map (Except.ok (ε := ε)) := List.mem_map_of_mem hy
  rw [← mapM_eq_ok_iff.mp h] at hmem
  exact List.mem_map.mp hmem

end Traversal

end QueryTemplate
