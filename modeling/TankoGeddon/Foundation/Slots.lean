import TankoGeddon.Foundation.Run

/-! Stores that grow only when every slot is busy.

Such a store never holds more than it has needed: its size is the larger of its
first size and the largest number of slots busy at one time. The law is stated
for any transition system with a size and a busy measure on its states.
-/

set_option autoImplicit false

namespace Foundation

/-- One step as seen by the two measures: the size stays, or a full store gains
one slot, which is busy at once. -/
inductive SlotStep : (size busy size' busy' : Nat) → Prop where
  | within {size busy busy' : Nat} : busy' ≤ size → SlotStep size busy size busy'
  | grow {size : Nat} : SlotStep size size (size + 1) (size + 1)

variable {S E O : Type} {step : S → E → Option (S × O)} {start final : S}
  {trace : List (Step S E O)}

theorem size_eq_peak (run : Run step start trace final) (size busy : S → Nat)
    (fits : busy start ≤ size start)
    (each : ∀ t ∈ trace, SlotStep (size t.before) (busy t.before) (size t.after) (busy t.after)) :
    size final = max (size start) (peak busy start trace) := by
  have law : (∀ t ∈ trace, SlotStep (size t.before) (busy t.before) (size t.after) (busy t.after)) →
      size final = max (size start) (peak busy start trace) := by
    refine run.growing (motive := fun trace final =>
      (∀ t ∈ trace, SlotStep (size t.before) (busy t.before) (size t.after) (busy t.after)) →
        size final = max (size start) (peak busy start trace)) ?_ ?_
    · intro _
      simp only [peak_nil]
      omega
    · intro trace t _ _ ih each
      have before := ih fun u member => each u (List.mem_append_left _ member)
      have last := each t (by simp)
      rw [peak_snoc]
      generalize size t.before = m at before last
      generalize size t.after = n at last ⊢
      generalize busy t.before = b at last
      generalize busy t.after = c at last ⊢
      cases last with
      | within bound => omega
      | grow => omega
  exact law each

end Foundation
