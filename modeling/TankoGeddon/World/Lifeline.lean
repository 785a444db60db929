import TankoGeddon.World.Bounty

/-! The life of a pawn, read off the record of damage.

`BeginPlay` fills the health, every damage call is debited, and a pawn is destroyed by the
first call that leaves it nothing. Nothing else in a level touches health or life, and what
dealt the damage does not matter.
-/

set_option autoImplicit false

namespace TankoGeddon.World

open Foundation (Run Step perform_run)

variable {w w' : World} {v : PawnId}

/-- The pawn begins play in the step. -/
def beginsPlay (v : PawnId) (t : Step World Event Report) : Bool :=
  match t.event with
  | .beginPlay p _ _ => p == v
  | _ => false

/-- The health the pawn was last filled to, and the steps since. -/
def account (v : PawnId) (x₀ : Vitals) (trace : List (Step World Event Report)) :
    Scalar × List (Step World Event Report) :=
  trace.foldl (fun kept t => if beginsPlay v t then (x₀.maxHealth, []) else (kept.1, kept.2 ++ [t]))
    (x₀.currentHealth, [])

def Hits (v : PawnId) (t : Step World Event Report) : Prop := ∃ call, t.output.damage = some call ∧ call.victim = v

/-- Some damage call on the pawn brings the damage since to the health it had. -/
def Exhausts (v : PawnId) (health : Scalar) (since : List (Step World Event Report)) : Prop :=
  ∃ early t late, since = early ++ t :: late ∧ Hits v t ∧ health ≤ received (early ++ [t]) v

theorem account_snoc (v : PawnId) (x₀ : Vitals) (trace : List (Step World Event Report)) (t : Step World Event Report) :
    account v x₀ (trace ++ [t]) =
      if beginsPlay v t then (x₀.maxHealth, []) else ((account v x₀ trace).1, (account v x₀ trace).2 ++ [t]) := by
  simp [account]

theorem not_exhausts_nil (v : PawnId) (health : Scalar) : ¬ Exhausts v health [] := by
  rintro ⟨early, t, late, same, _⟩
  simp at same

theorem exhausts_snoc {health : Scalar} {since : List (Step World Event Report)} {t : Step World Event Report} :
    Exhausts v health (since ++ [t]) ↔
      Exhausts v health since ∨ Hits v t ∧ health ≤ received (since ++ [t]) v := by
  constructor
  · rintro ⟨early, u, late, same, hits, spent⟩
    rcases List.eq_nil_or_concat late with rfl | ⟨late, last, rfl⟩
    · obtain ⟨rfl, rest⟩ := List.append_inj' same rfl
      obtain rfl := List.singleton_inj.mp rest
      exact .inr ⟨hits, spent⟩
    · rw [List.concat_eq_append, ← List.cons_append, ← List.append_assoc] at same
      obtain ⟨rfl, _⟩ := List.append_inj' same rfl
      exact .inl ⟨early, u, late, rfl, hits, spent⟩
  · rintro (⟨early, u, late, rfl, hits, spent⟩ | ⟨hits, spent⟩)
    · exact ⟨early, u, late ++ [t], by simp, hits, spent⟩
    · exact ⟨since, t, [], rfl, hits, spent⟩

/-- What the record says of a pawn: its health is what it was filled to less the damage
since, and it has been destroyed exactly if that was once used up. -/
structure Accounted (v : PawnId) (x₀ : Vitals) (trace : List (Step World Event Report)) (x : Vitals) : Prop where
  full : x.maxHealth = x₀.maxHealth
  begun : x.begun = true ↔ ∃ t ∈ trace, beginsPlay v t = true
  health : x.currentHealth = (account v x₀ trace).1 - received (account v x₀ trace).2 v
  destroyed : x.destroyed = true ↔ Exhausts v (account v x₀ trace).1 (account v x₀ trace).2

section

variable {x₀ x : Vitals} {trace : List (Step World Event Report)} {t : Step World Event Report}

/-- A step that is neither a begin of play nor a damage call of this pawn. -/
theorem Accounted.untouched (accounted : Accounted v x₀ trace x) (begins : beginsPlay v t = false)
    (missed : ¬ Hits v t) : Accounted v x₀ (trace ++ [t]) x := by
  have silent : dealt v t = 0 := by
    unfold dealt
    split
    · next call shows =>
      rw [if_neg]
      exact fun same => missed ⟨call, shows, same⟩
    · rfl
  have same := account_snoc v x₀ trace t
  simp only [begins, Bool.false_eq_true, if_false] at same
  refine ⟨accounted.full, ?_, ?_, ?_⟩
  · rw [accounted.begun]
    simp [begins]
  · rw [same, received_snoc, silent, add_zero]
    exact accounted.health
  · rw [same, exhausts_snoc, accounted.destroyed]
    simp [missed]

theorem Accounted.hurt (accounted : Accounted v x₀ trace x) (begins : beginsPlay v t = false) {call : DamageCall}
    (shows : t.output.damage = some call) (victim : call.victim = v) :
    Accounted v x₀ (trace ++ [t]) (x.hurt call.data.damageValue) := by
  have same := account_snoc v x₀ trace t
  simp only [begins, Bool.false_eq_true, if_false] at same
  have amount : dealt v t = call.data.damageValue := by rw [dealt_of_report shows, if_pos victim]
  refine ⟨accounted.full, ?_, ?_, ?_⟩
  · simp [Vitals.hurt, accounted.begun, begins]
  · rw [same, received_snoc, amount]
    simp only [Vitals.hurt, accounted.health]
    exact sub_sub _ _ _
  · rw [same, exhausts_snoc, received_snoc, amount, ← accounted.destroyed]
    simp only [Vitals.hurt, Bool.or_eq_true, decide_eq_true_eq, accounted.health]
    have hits : Hits v t := ⟨call, shows, victim⟩
    rw [sub_sub, sub_nonpos]
    exact ⟨fun dead => dead.imp id fun spent => ⟨hits, spent⟩, fun dead => dead.imp id fun spent => spent.2⟩

theorem Accounted.begin (accounted : Accounted v x₀ trace x) (alive : x.destroyed = false)
    (begins : beginsPlay v t = true) : Accounted v x₀ (trace ++ [t]) x.beginPlay := by
  have same := account_snoc v x₀ trace t
  rw [if_pos begins] at same
  refine ⟨accounted.full, ?_, ?_, ?_⟩
  · simp [Vitals.beginPlay, begins]
  · rw [same]
    simp [Vitals.beginPlay, received, accounted.full]
  · rw [same]
    simp [Vitals.beginPlay, alive, not_exhausts_nil]

theorem Accounted.paid (accounted : Accounted v x₀ trace x) (value : Scalar) : Accounted v x₀ trace (x.paid value) :=
  ⟨accounted.full, accounted.begun, accounted.health, accounted.destroyed⟩

end

/-- A damage call, in the table of all pawns. -/
theorem accounted_hurt {x₀ x' : Vitals} {trace : List (Step World Event Report)} {t : Step World Event Report}
    {call : DamageCall} (begins : beginsPlay v t = false) (shows : t.output.damage = some call)
    (known : ∀ x, w.vitals[v]? = some x → Accounted v x₀ trace x)
    (found : (w.vitals.modify call.victim (Vitals.hurt call.data.damageValue))[v]? = some x') :
    Accounted v x₀ (trace ++ [t]) x' := by
  by_cases mine : call.victim = v
  · rw [mine, List.getElem?_modify_eq] at found
    obtain ⟨x, before, rfl⟩ := Option.map_eq_some_iff.mp found
    exact (known x before).hurt begins shows mine
  · rw [List.getElem?_modify_ne _ _ mine] at found
    apply (known x' found).untouched begins
    rintro ⟨call', shows', victim⟩
    obtain rfl := Option.some.inj (shows.symm.trans shows')
    exact mine victim

theorem beginsPlay_iff {t : Step World Event Report} :
    beginsPlay v t = true ↔ ∃ main alternate, t.event = .beginPlay v main alternate := by
  unfold beginsPlay
  split
  · next p main alternate named =>
    rw [beq_iff_eq, named]
    constructor
    · rintro rfl
      exact ⟨main, alternate, rfl⟩
    · rintro ⟨_, _, same⟩
      cases same
      rfl
  · next other =>
    constructor
    · intro absurd
      cases absurd
    · rintro ⟨main, alternate, named⟩
      exact absurd named (other v main alternate)

/-- In every run of every level, for every pawn. -/
theorem life_accounted {trace : List (Step World Event Report)} (initial : w.Initial)
    (run : Run World.step w trace w') {x₀ x : Vitals} (first : w.vitals[v]? = some x₀) (last : w'.vitals[v]? = some x) :
    Accounted v x₀ trace x := by
  have law : ∀ x, w'.vitals[v]? = some x → Accounted v x₀ trace x := by
    refine run.growing (motive := fun trace (s : World) => ∀ x, s.vitals[v]? = some x → Accounted v x₀ trace x) ?nil ?snoc
    case nil =>
      intro x found
      obtain rfl := Option.some.inj (first.symm.trans found)
      obtain ⟨y, here, rfl⟩ : ∃ y, w.pawns[v]? = some y ∧ y.vitals = x₀ := by simpa [vitals] using first
      obtain ⟨_, _, _, begun, alive⟩ := initial.pawns y (List.mem_of_getElem? here)
      refine ⟨rfl, ?_, ?_, ?_⟩
      · simp [MachinePawn.vitals, begun]
      · simp [account, received]
      · simp [MachinePawn.vitals, alive, account, not_exhausts_nil]
    case snoc =>
      intro trace t early taken known x found
      have wired := (run_wired initial early).1
      cases begins : beginsPlay v t with
      | true =>
          obtain ⟨before, event, output, after⟩ := t
          obtain ⟨main, alternate, rfl⟩ := beginsPlay_iff.mp begins
          cases step_transition taken with
          | @beginPlay _ _ _ y _ there alive fresh done =>
              have entry : before.vitals[v]? = some y.vitals := by simp [vitals, there]
              rw [beginPlay_vitals done, List.getElem?_modify_eq, entry] at found
              obtain rfl := Option.some.inj found
              exact (known y.vitals entry).begin alive begins
          | unarmed brings => cases brings
      | false =>
          have effect := step_effect wired taken
          generalize t.after.vitals = vitals at effect found
          obtain ⟨before, event, output, after⟩ := t
          cases effect with
          | quiet silent =>
              apply (known x found).untouched begins
              rintro ⟨call, shows, _⟩
              cases silent.symm.trans shows
          | @beginPlay p main alternate y there alive fresh =>
              have other : p ≠ v := by simpa [beginsPlay] using begins
              rw [List.getElem?_modify_ne _ _ other] at found
              apply (known x found).untouched begins
              rintro ⟨call, shows, _⟩
              cases shows
          | hurt shows => exact accounted_hurt begins shows known found
          | @paid _ _ call p y shows =>
              by_cases mine : p = v
              · subst mine
                rw [List.getElem?_modify_eq] at found
                obtain ⟨z, hurt, rfl⟩ := Option.map_eq_some_iff.mp found
                exact (accounted_hurt begins shows known hurt).paid _
              · rw [List.getElem?_modify_ne _ _ mine] at found
                exact accounted_hurt begins shows known found
  exact law x last

/-- The victim of the duel: filled at its begin of play, used up by the one hit. -/
theorem life_accounted_duel :
    ∃ x₀ x, (duel none).vitals[1]? = some x₀ ∧
      (Foundation.perform World.step (duel none) shootOut).2.vitals[1]? = some x ∧ x.currentHealth = 0 ∧
      x.destroyed = true ∧ Accounted 1 x₀ (Foundation.perform World.step (duel none) shootOut).1 x := by
  have left : (Foundation.perform World.step (duel none) shootOut).2.vitals[1]?.map
      (fun x => (x.currentHealth, x.destroyed)) = some (0, true) := by decide +kernel
  obtain ⟨x, last, same⟩ := Option.map_eq_some_iff.mp left
  obtain ⟨empty, dead⟩ := Prod.mk.inj same
  exact ⟨_, x, rfl, last, empty, dead, life_accounted (duel_initial none) (perform_run _ _ _) rfl last⟩

end TankoGeddon.World
