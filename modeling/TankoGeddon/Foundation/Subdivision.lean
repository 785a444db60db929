import Mathlib.Algebra.Order.BigOperators.Group.List
import Mathlib.Algebra.Order.Field.Basic

/-! Processes driven by time steps of any length.

A process does not depend on the subdivision of time when what is observed of it is
the same after all lists of positive steps with one total. To refute that, one total
cut in half is enough; to prove it, a closed form in the total.
-/

set_option autoImplicit false

namespace Foundation

variable {S O F K : Type} [Field K] [LinearOrder K] [IsStrictOrderedRing K]

/-- `duration` is the length of a step; a step may carry more than that. -/
def SubdivisionFree (advance : S → F → S) (duration : F → K) (observe : S → O) (s : S) : Prop :=
  ∀ first second : List F, (∀ f ∈ first, 0 < duration f) → (∀ f ∈ second, 0 < duration f) →
    (first.map duration).sum = (second.map duration).sum →
    observe (first.foldl advance s) = observe (second.foldl advance s)

variable {advance : S → F → S} {duration : F → K} {observe : S → O} {s : S}

/-- Steps of positive length take time. -/
theorem total_pos {first : F} {rest : List F} (positive : ∀ f ∈ first :: rest, 0 < duration f) :
    0 < ((first :: rest).map duration).sum := by
  have head := positive first List.mem_cons_self
  have tail : 0 ≤ (rest.map duration).sum := by
    apply List.sum_nonneg
    intro x member
    obtain ⟨f, inside, rfl⟩ := List.mem_map.mp member
    exact le_of_lt (positive f (List.mem_cons_of_mem _ inside))
  rw [List.map_cons, List.sum_cons]
  exact add_pos_of_pos_of_nonneg head tail

/-- A closed form, asked only of runs that take at least one step. -/
theorem subdivisionFree_of_flow (flow : K → O)
    (closed : ∀ first rest, (∀ f ∈ first :: rest, 0 < duration f) →
      observe ((first :: rest).foldl advance s) = flow ((first :: rest).map duration).sum) :
    SubdivisionFree advance duration observe s := by
  intro first second positive positive' same
  cases first with
  | nil =>
      cases second with
      | nil => rfl
      | cons g rest =>
          have passed := total_pos positive'
          rw [← same] at passed
          exact absurd passed (lt_irrefl 0)
  | cons f rest =>
      cases second with
      | nil =>
          have passed := total_pos positive
          rw [same] at passed
          exact absurd passed (lt_irrefl 0)
      | cons g rest' => rw [closed f rest positive, closed g rest' positive', same]

/-- One step against two of half its length. -/
theorem SubdivisionFree.halves (free : SubdivisionFree advance duration observe s) {whole first second : F}
    (positive : 0 < duration first) (positive' : 0 < duration second)
    (sum : duration whole = duration first + duration second) :
    observe (advance s whole) = observe (advance (advance s first) second) := by
  refine free [whole] [first, second] ?_ ?_ ?_
  · intro f member
    rw [List.mem_singleton.mp member, sum]
    exact add_pos positive positive'
  · intro f member
    rcases List.mem_cons.mp member with rfl | member
    · exact positive
    · rw [List.mem_singleton.mp member]
      exact positive'
  · simp [sum]

end Foundation
