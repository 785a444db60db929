import TankoGeddon.Foundation.Run

/-! Two runs compared step by step.

A map of states, events and outputs carries a run to a run exactly when it
commutes with each step taken. Two systems fed the same events are one system on
the pairs of their states, so that a relation between them is an invariant.
-/

set_option autoImplicit false

namespace Foundation

variable {S S' E E' O O' : Type}

/-- The image of a step. -/
def Step.map (f : S → S') (g : E → E') (h : O → O') (t : Step S E O) : Step S' E' O' :=
  ⟨f t.before, g t.event, h t.output, f t.after⟩

namespace Run

variable {step : S → E → Option (S × O)} {step' : S' → E' → Option (S' × O')} {start final : S}
  {trace : List (Step S E O)}

theorem image (run : Run step start trace final) (f : S → S') (g : E → E') (h : O → O')
    (commutes : ∀ t ∈ trace, step' (f t.before) (g t.event) = some (f t.after, h t.output)) :
    Run step' (f start) (trace.map (Step.map f g h)) (f final) := by
  induction run with
  | nil s => exact .nil (f s)
  | cons taken rest ih =>
      have first := commutes _ List.mem_cons_self
      exact .cons first (ih fun t member => commutes t (List.mem_cons_of_mem _ member))

/-- The image of a run is a run exactly when every step of it is matched. -/
theorem image_iff (run : Run step start trace final) (f : S → S') (g : E → E') (h : O → O') :
    Run step' (f start) (trace.map (Step.map f g h)) (f final) ↔
      ∀ t ∈ trace, step' (f t.before) (g t.event) = some (f t.after, h t.output) := by
  constructor
  · intro mapped t member
    exact mapped.taken (List.mem_map_of_mem member)
  · exact run.image f g h

/-- A run is determined by where it starts and by its events. -/
theorem determined {trace' : List (Step S E O)} {final' : S} (run : Run step start trace final)
    (other : Run step start trace' final') (same : trace'.map (·.event) = trace.map (·.event)) :
    trace' = trace ∧ final' = final := by
  induction run generalizing trace' with
  | nil =>
      obtain rfl := List.map_eq_nil_iff.mp same
      cases other
      exact ⟨rfl, rfl⟩
  | @cons s middle final event output trace taken rest ih =>
      cases other with
      | nil => cases same
      | @cons _ middle' _ event' output' trace' taken' rest' =>
          obtain ⟨here, there⟩ := List.cons.inj same
          obtain rfl : event' = event := here
          obtain ⟨rfl, rfl⟩ := Prod.mk.inj (Option.some.inj (taken'.symm.trans taken))
          obtain ⟨rfl, rfl⟩ := ih rest' there
          exact ⟨rfl, rfl⟩

end Run

/-- A step and the step of another system it is carried to. -/
structure Step.Follows (R : S → S' → Prop) (g : E → E') (t : Step S E O) (u : Step S' E' O') : Prop where
  before : R t.before u.before
  event : u.event = g t.event
  after : R t.after u.after

/-- Forward simulation: where each step is followed, the whole run is. -/
theorem Run.followed {step : S → E → Option (S × O)} {step' : S' → E' → Option (S' × O')} {start final : S}
    {trace : List (Step S E O)} (run : Run step start trace final) (R : S → S' → Prop) (g : E → E')
    (forward : ∀ s event next output s', step s event = some (next, output) → R s s' →
      ∃ next' output', step' s' (g event) = some (next', output') ∧ R next next')
    {start' : S'} (related : R start start') :
    ∃ own final', Run step' start' own final' ∧ R final final' ∧
      List.Forall₂ (Step.Follows R g) trace own := by
  induction run generalizing start' with
  | nil => exact ⟨[], start', .nil start', related, .nil⟩
  | cons taken rest ih =>
      obtain ⟨next', output', taken', related'⟩ := forward _ _ _ _ _ taken related
      obtain ⟨own, final', run', last, each⟩ := ih related'
      exact ⟨⟨start', _, output', next'⟩ :: own, final', .cons taken' run', last,
        .cons ⟨related, rfl, related'⟩ each⟩

theorem Step.Follows.events {R : S → S' → Prop} {g : E → E'} {trace : List (Step S E O)}
    {own : List (Step S' E' O')} (each : List.Forall₂ (Step.Follows R g) trace own) :
    own.map (·.event) = trace.map (g ·.event) := by
  induction each with
  | nil => rfl
  | cons first _ ih => rw [List.map_cons, List.map_cons, first.event, ih]

section Both

variable {S₁ S₂ O₁ O₂ : Type}

/-- Both systems take the event, or neither does. -/
def both (first : S₁ → E → Option (S₁ × O₁)) (second : S₂ → E → Option (S₂ × O₂)) (s : S₁ × S₂)
    (event : E) : Option ((S₁ × S₂) × (O₁ × O₂)) :=
  match first s.1 event, second s.2 event with
  | some (s₁, o₁), some (s₂, o₂) => some ((s₁, s₂), (o₁, o₂))
  | _, _ => none

variable {first : S₁ → E → Option (S₁ × O₁)} {second : S₂ → E → Option (S₂ × O₂)}

theorem both_iff {s s' : S₁ × S₂} {event : E} {output : O₁ × O₂} :
    both first second s event = some (s', output) ↔
      first s.1 event = some (s'.1, output.1) ∧ second s.2 event = some (s'.2, output.2) := by
  unfold both
  cases first s.1 event with
  | none => simp
  | some one =>
      cases second s.2 event with
      | none => simp
      | some two => simp [Prod.ext_iff, and_and_and_comm]

end Both

end Foundation
