import Mathlib.Algebra.BigOperators.Group.List.Basic
import Mathlib.Algebra.Group.Basic
import Mathlib.Data.List.Basic
import Mathlib.Data.List.Induction
import Mathlib.Tactic.Abel

/-! Tables of entries addressed by position.

An entry is changed in place and new entries go to the end, so a position keeps
its meaning. A view forgets part of each entry; an update of what it forgets is
invisible in the table of views.
-/

set_option autoImplicit false

namespace Foundation

variable {A B : Type}

theorem getElem?_concat {table : List A} {entry found : A} {i : Nat}
    (lookup : (table ++ [entry])[i]? = some found) :
    table[i]? = some found ∨ i = table.length ∧ entry = found := by
  rw [List.getElem?_append] at lookup
  split at lookup
  · exact .inl lookup
  · next last =>
    obtain ⟨here, same⟩ : i - table.length = 0 ∧ entry = found := by
      simpa [List.getElem?_singleton] using lookup
    exact .inr ⟨by omega, same⟩

theorem map_modify (view : A → B) (table : List A) (i : Nat) {f : A → A} {g : B → B}
    (commutes : ∀ entry, table[i]? = some entry → view (f entry) = g (view entry)) :
    (table.modify i f).map view = (table.map view).modify i g := by
  apply List.ext_getElem?
  intro j
  rw [List.getElem?_map, List.getElem?_modify, List.getElem?_modify, List.getElem?_map]
  cases found : table[j]? with
  | none => rfl
  | some entry =>
      by_cases here : i = j
      · subst here
        simp [commutes entry found]
      · simp [here]

theorem modify_congr {table : List A} {i : Nat} {f g : A → A}
    (agree : ∀ entry, table[i]? = some entry → f entry = g entry) : table.modify i f = table.modify i g := by
  have same := map_modify id table i (g := g) agree
  rwa [List.map_id, List.map_id] at same

/-- The update touches only what the view forgets. -/
theorem map_modify_hidden (view : A → B) (table : List A) (i : Nat) {f : A → A}
    (hidden : ∀ entry, table[i]? = some entry → view (f entry) = view entry) :
    (table.modify i f).map view = table.map view := by
  rw [map_modify view table i (g := id) hidden, List.modify_id]

theorem modify_concat (table : List A) (entry : A) (f : A → A) :
    (table ++ [entry]).modify table.length f = table ++ [f entry] := by
  induction table with
  | nil => rfl
  | cons first rest ih =>
      rw [List.cons_append, List.length_cons, List.modify_succ_cons, ih, List.cons_append]

/-- A sum over a table changes by what the changed entry contributes. -/
theorem sum_modify {M : Type} [AddCommGroup M] (amount : A → M) (table : List A) (i : Nat) (f : A → A) {entry : A}
    (found : table[i]? = some entry) :
    ((table.modify i f).map amount).sum = (table.map amount).sum + (amount (f entry) - amount entry) := by
  induction table generalizing i with
  | nil => cases found
  | cons first rest ih =>
      cases i with
      | zero =>
          obtain rfl := Option.some.inj found
          simp only [List.modify_zero_cons, List.map_cons, List.sum_cons]
          abel
      | succ i =>
          rw [List.modify_succ_cons, List.map_cons, List.sum_cons, ih i found, List.map_cons, List.sum_cons, add_assoc]

/-- Counting entries is counting positions. -/
theorem countP_positions (p : A → Bool) (table : List A) :
    ((List.range table.length).filter fun i => table[i]?.any p).length = table.countP p := by
  induction table using List.reverseRecOn with
  | nil => rfl
  | append_singleton table entry ih =>
      have old : (List.range table.length).filter (fun i => (table ++ [entry])[i]?.any p) =
          (List.range table.length).filter fun i => table[i]?.any p := by
        apply List.filter_congr
        intro i inside
        rw [List.getElem?_append_left (List.mem_range.mp inside)]
      rw [List.length_append, List.length_singleton, List.range_succ, List.filter_append, List.length_append,
        old, ih, List.countP_append]
      cases holds : p entry <;> simp [holds]

end Foundation
