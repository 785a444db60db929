import Mathlib.Algebra.Notation.Defs
import Mathlib.Order.Defs.LinearOrder

/-! One timer handle of an event-driven engine.

A handle has at most one callback pending. Setting it again replaces what was
pending, and a rate that is not positive schedules nothing and clears the handle.
When a callback runs is left open: any pending callback may be the next to run.
-/

set_option autoImplicit false

namespace Foundation

/-- What a handle has pending, if anything. -/
abbrev Timer (Callback : Type) := Option Callback

namespace Timer

variable {Callback Rate : Type} [Zero Rate] [LT Rate] [DecidableLT Rate]

def set (rate : Rate) (callback : Callback) : Timer Callback :=
  if 0 < rate then some callback else none

def clear : Timer Callback := none

theorem set_pos {rate : Rate} (positive : 0 < rate) (callback : Callback) :
    set rate callback = some callback := if_pos positive

theorem set_isSome_iff (rate : Rate) (callback : Callback) : (set rate callback).isSome = true ↔ 0 < rate := by
  unfold set
  split
  · next positive => simp [positive]
  · next stopped => simp [stopped]

theorem set_eq_none_iff (rate : Rate) (callback : Callback) : set rate callback = none ↔ ¬ 0 < rate := by
  unfold set
  split
  · next positive => simp [positive]
  · next stopped => simp [stopped]

@[simp] theorem clear_eq : (clear : Timer Callback) = none := rfl

end Timer

end Foundation
