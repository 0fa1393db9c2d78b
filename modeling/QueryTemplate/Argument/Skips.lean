import QueryTemplate.Argument

/-!
# Inserting skips

Skips cannot be written in the notation for arguments, so they are asked for by position: a position
says where in the final list a skip shall stand, counted from one.  `insertSkips` puts them in,
lowest position first (`sortedDistinct`), so that no later insertion moves an earlier one.  A
position may be at most one past the end of the list that has grown so far.
-/

namespace QueryTemplate

/-- Puts a position in its place in a strictly increasing list, unless it is there already. -/
def insertDistinct (position : Nat) : List Nat → List Nat
  | [] => [position]
  | other :: rest =>
    if position < other then position :: other :: rest
    else if position = other then other :: rest
    else other :: insertDistinct position rest

/-- The distinct members of a list of positions, in increasing order. -/
def sortedDistinct (positions : List Nat) : List Nat :=
  positions.foldr insertDistinct []

theorem mem_insertDistinct {position other : Nat} {sorted : List Nat} :
    other ∈ insertDistinct position sorted ↔ other = position ∨ other ∈ sorted := by
  induction sorted with
  | nil => simp [insertDistinct]
  | cons first rest ih =>
    rw [insertDistinct]
    split
    · rw [List.mem_cons]
    · split
      · rename_i same
        subst same
        simp
      · rw [List.mem_cons, ih, List.mem_cons]
        constructor
        · rintro (h | h | h)
          · exact Or.inr (Or.inl h)
          · exact Or.inl h
          · exact Or.inr (Or.inr h)
        · rintro (h | h | h)
          · exact Or.inr (Or.inl h)
          · exact Or.inl h
          · exact Or.inr (Or.inr h)

/-- Sorting keeps every position and adds none. -/
theorem mem_sortedDistinct {position : Nat} {positions : List Nat} :
    position ∈ sortedDistinct positions ↔ position ∈ positions := by
  induction positions with
  | nil => rfl
  | cons first rest ih =>
    have head : sortedDistinct (first :: rest) = insertDistinct first (sortedDistinct rest) := rfl
    rw [head, mem_insertDistinct, ih, List.mem_cons]

theorem pairwise_insertDistinct {position : Nat} {sorted : List Nat}
    (increasing : sorted.Pairwise (· < ·)) :
    (insertDistinct position sorted).Pairwise (· < ·) := by
  induction sorted with
  | nil => exact List.pairwise_singleton _ _
  | cons first rest ih =>
    obtain ⟨below, tail⟩ := List.pairwise_cons.mp increasing
    rw [insertDistinct]
    split
    · rename_i before
      refine List.pairwise_cons.mpr ⟨fun other h => ?_, increasing⟩
      rcases List.mem_cons.mp h with h | h
      · exact h ▸ before
      · exact Nat.lt_trans before (below other h)
    · split
      · exact increasing
      · refine List.pairwise_cons.mpr ⟨fun other h => ?_, ih tail⟩
        rcases mem_insertDistinct.mp h with h | h
        · omega
        · exact below other h

/-- Sorted positions are strictly increasing, so none occurs twice. -/
theorem pairwise_sortedDistinct (positions : List Nat) :
    (sortedDistinct positions).Pairwise (· < ·) := by
  induction positions with
  | nil => exact List.Pairwise.nil
  | cons first rest ih => exact pairwise_insertDistinct ih

/-- A position that lies past the end of the arguments, and how many of them there were. -/
structure SkipPastEnd where
  /-- The position. -/
  position : Nat
  /-- The number of arguments, skips inserted before included. -/
  count : Nat
  deriving DecidableEq

/-- The message for a position past the end. -/
def SkipPastEnd.message (e : SkipPastEnd) : String :=
  s!"--skip {e.position} is past the end of the argument list ({e.count} argument(s))"

/-- Puts one skip in, at a position from one. -/
def insertSkip (args : List Argument) (position : Nat) : Except SkipPastEnd (List Argument) :=
  if args.length + 1 < position then .error ⟨position, args.length⟩
  else .ok (args.insertIdx (position - 1) .skip)

/-- **Inserting skips** at their final positions. -/
def insertSkips (args : List Argument) (positions : List Nat) :
    Except SkipPastEnd (List Argument) :=
  (sortedDistinct positions).foldlM insertSkip args

end QueryTemplate
