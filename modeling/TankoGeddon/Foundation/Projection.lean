import TankoGeddon.Foundation.Run

/-! The part of a run that one component takes.

A component is what a view shows of the states, from the step that brings it into
view on. Where every step of the system either leaves the component or is a step
of a smaller system, what the component does is a run of the smaller system.
-/

set_option autoImplicit false

namespace Foundation

variable {S S' E E' O O' : Type} {step : S → E → Option (S × O)} {step' : S' → E' → Option (S' × O')}

/-- What a step of the system does to a component that is in view, where `own` names the
event the component takes, if it takes one. -/
structure Step.Tracks (step' : S' → E' → Option (S' × O')) (view : S → Option S') (own : Step S E O → Option E')
    (t : Step S E O) : Prop where
  taken : ∀ s' event, view t.before = some s' → own t = some event →
    ∃ next output, step' s' event = some (next, output) ∧ view t.after = some next
  left : ∀ s', view t.before = some s' → own t = none → view t.after = some s'

/-- And how the component comes into view. -/
structure Step.Shows (step' : S' → E' → Option (S' × O')) (Born : S' → Prop) (view : S → Option S')
    (own : Step S E O → Option E') (t : Step S E O) : Prop extends Step.Tracks step' view own t where
  unborn : view t.before = none → own t = none
  born : ∀ s', view t.before = none → view t.after = some s' → Born s'

/-- A component that is in view from the start. -/
theorem Run.component_from {start final : S} {trace : List (Step S E O)} (run : Run step start trace final)
    (view : S → Option S') (own : Step S E O → Option E') (each : ∀ t ∈ trace, t.Tracks step' view own) {s₀ : S'}
    (shown : view start = some s₀) :
    ∃ history s', view final = some s' ∧ Run step' s₀ history s' ∧
      history.map (·.event) = trace.filterMap own := by
  induction run generalizing s₀ with
  | nil => exact ⟨[], s₀, shown, .nil s₀, rfl⟩
  | @cons s middle final event output trace taken rest ih =>
      have first := each _ List.mem_cons_self
      have later : ∀ t ∈ trace, t.Tracks step' view own := fun t member => each t (List.mem_cons_of_mem _ member)
      rw [List.filterMap_cons]
      cases acts : own ⟨s, event, output, middle⟩ with
      | none =>
          obtain ⟨history, s', last, run', events⟩ := ih later (first.left s₀ shown acts)
          exact ⟨history, s', last, run', events⟩
      | some event' =>
          obtain ⟨next, output', taken', after⟩ := first.taken s₀ event' shown acts
          obtain ⟨history, s', last, run', events⟩ := ih later after
          exact ⟨⟨s₀, event', output', next⟩ :: history, s', last, .cons taken' run', by rw [List.map_cons, events]⟩

/-- A step that is one of the smaller system, or leaves it where it is. -/
def Step.Covers (step' : S' → E' → Option (S' × O')) (view : S → S') (own : Step S E O → Option (Step S' E' O'))
    (t : Step S E O) : Prop :=
  match own t with
  | some u => u.before = view t.before ∧ u.after = view t.after ∧ step' u.before u.event = some (u.after, u.output)
  | none => view t.after = view t.before

/-- A smaller system inside the smaller system. -/
theorem Step.Covers.trans {S'' E'' O'' : Type} {step'' : S'' → E'' → Option (S'' × O'')} {t : Step S E O}
    {view : S → S'} {own : Step S E O → Option (Step S' E' O')} {view' : S' → S''}
    {own' : Step S' E' O' → Option (Step S'' E'' O'')} (outer : t.Covers step' view own)
    (inner : ∀ u, own t = some u → step' u.before u.event = some (u.after, u.output) → u.Covers step'' view' own') :
    t.Covers step'' (fun s => view' (view s)) fun t => (own t).bind own' := by
  unfold Step.Covers at outer ⊢
  cases shown : own t with
  | none =>
      rw [shown] at outer
      simp only [shown, Option.bind_none]
      exact congrArg view' outer
  | some u =>
      rw [shown] at outer
      obtain ⟨before, after, taken⟩ := outer
      have within := inner u shown taken
      unfold Step.Covers at within
      rw [before, after] at within
      simp only [shown, Option.bind_some]
      exact within

/-- A system with a smaller one inside it: hidden steps are left out, the others are the
steps of the smaller one. -/
theorem Run.projected {start final : S} {trace : List (Step S E O)} (run : Run step start trace final)
    (view : S → S') (own : Step S E O → Option (Step S' E' O')) (each : ∀ t ∈ trace, t.Covers step' view own) :
    Run step' (view start) (trace.filterMap own) (view final) := by
  induction run with
  | nil s => exact .nil (view s)
  | @cons s middle final event output trace taken rest ih =>
      have first := each _ List.mem_cons_self
      have later := ih fun t member => each t (List.mem_cons_of_mem _ member)
      unfold Step.Covers at first
      rw [List.filterMap_cons]
      cases acts : own ⟨s, event, output, middle⟩ with
      | none =>
          rw [acts] at first
          rw [← show view middle = view s from first]
          exact later
      | some u =>
          rw [acts] at first
          obtain ⟨before, after, taken'⟩ := first
          obtain ⟨s', event', output', next⟩ := u
          cases before
          cases after
          exact .cons taken' later

theorem Run.component {start final : S} {trace : List (Step S E O)} (run : Run step start trace final)
    (Born : S' → Prop) (view : S → Option S') (own : Step S E O → Option E') (unborn : view start = none)
    (each : ∀ t ∈ trace, t.Shows step' Born view own) {s' : S'} (shown : view final = some s') :
    ∃ s₀ history, Born s₀ ∧ Run step' s₀ history s' ∧ history.map (·.event) = trace.filterMap own := by
  have law : (∀ t ∈ trace, t.Shows step' Born view own) →
      (view final = none → trace.filterMap own = []) ∧ ∀ s', view final = some s' →
        ∃ s₀ history, Born s₀ ∧ Run step' s₀ history s' ∧ history.map (·.event) = trace.filterMap own := by
    refine run.growing (motive := fun trace final => (∀ t ∈ trace, t.Shows step' Born view own) →
      (view final = none → trace.filterMap own = []) ∧ ∀ s', view final = some s' →
        ∃ s₀ history, Born s₀ ∧ Run step' s₀ history s' ∧
          history.map (·.event) = trace.filterMap own) ?nil ?snoc
    case nil =>
      intro _
      refine ⟨fun _ => rfl, ?_⟩
      intro s' shown
      cases unborn.symm.trans shown
    case snoc =>
      intro trace t _ _ ih each
      obtain ⟨silent, known⟩ := ih fun u member => each u (List.mem_append_left _ member)
      have last := each t (by simp)
      rw [List.filterMap_append, List.filterMap_cons, List.filterMap_nil]
      cases before : view t.before with
      | none =>
          rw [silent before, last.unborn before]
          refine ⟨fun _ => rfl, ?_⟩
          intro s' shown
          exact ⟨s', [], last.born s' before shown, .nil s', rfl⟩
      | some s' =>
          obtain ⟨s₀, history, born, past, events⟩ := known s' before
          cases acts : own t with
          | none =>
              have after := last.left s' before acts
              rw [after, List.append_nil]
              refine ⟨nofun, ?_⟩
              rintro _ ⟨⟩
              exact ⟨s₀, history, born, past, events⟩
          | some event =>
              obtain ⟨next, output, taken, after⟩ := last.taken s' event before acts
              rw [after]
              refine ⟨nofun, ?_⟩
              rintro _ ⟨⟩
              refine ⟨s₀, history ++ [⟨s', event, output, next⟩], born, past.append (.single taken), ?_⟩
              rw [List.map_append, events]
              rfl
  exact (law each).2 s' shown

end Foundation
