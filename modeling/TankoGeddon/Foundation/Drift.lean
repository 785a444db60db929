import Mathlib.Algebra.Group.Subgroup.Lattice
import Mathlib.Algebra.Order.Group.Abs
import Mathlib.Tactic.Abel
import TankoGeddon.Foundation.Run

/-! How far a run carries a quantity.

What each step moves it by is bounded, so what the run moves it by is bounded by the sum.
The quantity may be read only up to a subgroup, as an angle is up to whole turns.
-/

set_option autoImplicit false

namespace Foundation

variable {S E O M : Type} [AddCommGroup M] [LinearOrder M]

/-- From one value to the other by a move of at most so much. -/
def Shifts (H : AddSubgroup M) (bound before after : M) : Prop := ∃ moved, |moved| ≤ bound ∧ after - before - moved ∈ H

/-- With nothing to leave out, a move is the distance. -/
theorem Shifts.distance {bound a b : M} (moves : Shifts ⊥ bound a b) : |b - a| ≤ bound := by
  obtain ⟨moved, within, same⟩ := moves
  rw [AddSubgroup.mem_bot, sub_eq_zero] at same
  rwa [same]

variable [IsOrderedAddMonoid M]

theorem Shifts.of_eq (H : AddSubgroup M) {bound before after : M} (nonneg : 0 ≤ bound) (same : after = before) :
    Shifts H bound before after := by
  refine ⟨0, by rwa [abs_zero], ?_⟩
  rw [same, sub_self, sub_zero]
  exact H.zero_mem

theorem Shifts.trans {H : AddSubgroup M} {first second a b c : M} (one : Shifts H first a b) (two : Shifts H second b c) :
    Shifts H (first + second) a c := by
  obtain ⟨x, bound, here⟩ := one
  obtain ⟨y, bound', there⟩ := two
  refine ⟨x + y, (abs_add_le x y).trans (add_le_add bound bound'), ?_⟩
  have sum : c - a - (x + y) = b - a - x + (c - b - y) := by abel
  rw [sum]
  exact H.add_mem here there

theorem Run.drift {step : S → E → Option (S × O)} {start final : S} {trace : List (Step S E O)}
    (run : Run step start trace final) (H : AddSubgroup M) (measure : S → M) (cost : Step S E O → M)
    (each : ∀ t ∈ trace, Shifts H (cost t) (measure t.before) (measure t.after)) :
    Shifts H (trace.map cost).sum (measure start) (measure final) := by
  induction run with
  | nil s => exact .of_eq H le_rfl rfl
  | cons taken rest ih =>
      have later := ih fun t member => each t (List.mem_cons_of_mem _ member)
      rw [List.map_cons, List.sum_cons]
      exact (each _ List.mem_cons_self).trans later

end Foundation
