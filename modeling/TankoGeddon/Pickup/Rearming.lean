import TankoGeddon.Pickup.Basic
import TankoGeddon.World.Credit

/-! What a pawn has after its cannon was changed.

`SetupCannon` destroys what a slot holds before it spawns what is to come, and calls
methods on the result of the spawn without looking at it. A cannon box is gone after
it has called `SetupCannon`, whatever that did.
-/

set_option autoImplicit false

namespace TankoGeddon

open Foundation (modify_concat)

namespace World

/-- Both spawns `SetupCannon` needs for a pawn succeed. -/
def Spawns (w : World) (p : PawnId) (main alternate : CannonReply) : Prop :=
  main.spawned = true ∧
    (w.pawns[p]?.bind (·.alternateCannonClass) = none ∨ alternate.spawned = true)

/-- A new live cannon of the class is the main cannon, owned by the pawn, bound to its
score and attached to it. -/
def Rearmed (w w' : World) (p : PawnId) (cls : CannonClass) : Prop :=
  ∃ c y, w.cannons.length ≤ c ∧ w'.pawns[p]?.bind (·.cannon) = some c ∧ w'.cannons[c]? = some y ∧
    y.toCannonClass = cls ∧ y.bActorIsBeingDestroyed = false ∧ y.owner = some (.pawn p) ∧
    p ∈ y.scoreChanged ∧ y.attachParent = some p

/-- Both slots and every cannon are as before. -/
def Untouched (w w' : World) (p : PawnId) : Prop :=
  w'.pawns[p]?.map (fun x => (x.cannon, x.alternateCannon)) =
      w.pawns[p]?.map (fun x => (x.cannon, x.alternateCannon)) ∧
    w'.cannons = w.cannons

/-- No null cannon is dereferenced, and the change is made or nothing is. -/
def SetupSafe (w : World) (p : PawnId) (newCannonClass : Option CannonClass)
    (main alternate : CannonReply) : Prop :=
  ∃ w', w.setupCannon p newCannonClass main alternate = some w' ∧
    ((∃ cls, newCannonClass = some cls ∧ Rearmed w w' p cls) ∨ Untouched w w' p)

/-! The spawn of a cannon. -/

theorem spawnCannon_spawned (w : World) (cls : CannonClass) (p : PawnId) {reply : CannonReply}
    (spawned : reply.spawned = true) : ∃ w' pool,
      w.spawnCannon cls p reply = (w', some w.cannons.length) ∧ w'.pawns = w.pawns ∧
      w'.cannons = w.cannons ++ [(Cannon.spawn cls (some (.pawn p)) (some p)).beginPlay pool] := by
  obtain ⟨pawns, cannons⟩ := createProjectilePool_frame w cls.projectilePoolClass reply
  unfold spawnCannon
  rw [if_pos spawned]
  exact ⟨_, (w.createProjectilePool cls.projectilePoolClass reply).2, rfl, pawns, by simp only [cannons]⟩

theorem spawnCannon_failed (w : World) (cls : CannonClass) (p : PawnId) {reply : CannonReply}
    (failed : reply.spawned = false) : w.spawnCannon cls p reply = (w, none) := by
  simp [spawnCannon, failed]

theorem destroyOld_size (w : World) (old : Option CannonId) :
    (w.destroyOld old).cannons.length = w.cannons.length := by
  cases old with
  | none => rfl
  | some c => simp [destroyOld, destroyCannon, updateCannon]

theorem destroyOld_other (w : World) {old : Option CannonId} {c : CannonId} (ne : old ≠ some c) :
    (w.destroyOld old).cannons[c]? = w.cannons[c]? := by
  cases old with
  | none => rfl
  | some o =>
      have other : o ≠ c := fun same => ne (congrArg some same)
      simp [destroyOld, destroyCannon, updateCannon, other]

theorem setupMain_failed (w : World) (p : PawnId) (cls : CannonClass) {reply : CannonReply}
    (failed : reply.spawned = false) : w.setupMain p cls reply = none := by
  simp only [setupMain, spawnCannon_failed _ _ _ failed]

/-- The main half: the new cannon, complete, in the slot. -/
theorem setupMain_spawned {w : World} {p : PawnId} {x : MachinePawn} (cls : CannonClass)
    {reply : CannonReply} (found : w.pawns[p]? = some x) (spawned : reply.spawned = true) :
    ∃ w' y, w.setupMain p cls reply = some w' ∧
      w'.pawns[p]? = some { x with cannon := some w.cannons.length } ∧
      w'.cannons[w.cannons.length]? = some y ∧ w'.cannons.length = w.cannons.length + 1 ∧
      y.toCannonClass = cls ∧ y.bActorIsBeingDestroyed = false ∧ y.owner = some (.pawn p) ∧
      p ∈ y.scoreChanged ∧ y.attachParent = some p := by
  obtain ⟨w₁, pool, made, pawns, cannons⟩ :=
    (w.destroyOld (w.pawns[p]?.bind (·.cannon))).spawnCannon_spawned cls p spawned
  rw [destroyOld_size] at made
  have size := destroyOld_size w (w.pawns[p]?.bind (·.cannon))
  have here : w₁.cannons[w.cannons.length]? =
      some ((Cannon.spawn cls (some (.pawn p)) (some p)).beginPlay pool) := by
    rw [cannons, ← size]
    simp
  have there : w₁.pawns[p]? = some x := by rw [pawns, destroyOld_pawns, found]
  simp only [setupMain, made]
  refine ⟨_, { (Cannon.spawn cls (some (.pawn p)) (some p)).beginPlay pool with
    scoreChanged := [p], attachParent := some p }, rfl, ?_, ?_, ?_, ?_⟩
  · simp [updateCannon, updatePawn, there]
  · simp only [updateCannon, updatePawn, List.getElem?_modify_eq, here]
    rfl
  · simp [updateCannon, updatePawn, cannons, size]
  · exact ⟨rfl, rfl, rfl, by simp, rfl⟩

/-- The alternate half, where its spawn succeeds or is not asked for. -/
theorem setupAlternate_spawned {w : World} {p : PawnId} {x : MachinePawn} {reply : CannonReply}
    (found : w.pawns[p]? = some x) (spawned : x.alternateCannonClass = none ∨ reply.spawned = true) :
    ∃ w', w.setupAlternate p reply = some w' ∧ w'.pawns[p]?.bind (·.cannon) = x.cannon ∧
      ∀ c, c < w.cannons.length → x.alternateCannon ≠ some c → w'.cannons[c]? = w.cannons[c]? := by
  unfold setupAlternate
  rw [found, Option.bind_some]
  cases kind : x.alternateCannonClass with
  | none => exact ⟨w, rfl, by simp [found], fun _ _ _ => rfl⟩
  | some cls =>
      have answered : reply.spawned = true := spawned.resolve_left (by simp [kind])
      obtain ⟨w₁, pool, made, pawns, cannons⟩ :=
        (w.destroyOld ((some x).bind (·.alternateCannon))).spawnCannon_spawned cls p answered
      have size := destroyOld_size w x.alternateCannon
      have there : w₁.pawns[p]? = some x := by rw [pawns, destroyOld_pawns, found]
      simp only [made]
      refine ⟨_, rfl, by simp [updateCannon, updatePawn, there], ?_⟩
      intro c inside other
      rw [destroyOld_size]
      have last : w.cannons.length ≠ c := Nat.ne_of_gt inside
      simp only [updateCannon, updatePawn, List.getElem?_modify_ne _ _ last, cannons]
      rw [List.getElem?_append_left (by rw [Option.bind_some, size]; exact inside)]
      exact destroyOld_other w other

theorem setupAlternate_failed {w : World} {p : PawnId} {x : MachinePawn} {reply : CannonReply}
    (found : w.pawns[p]? = some x) (asked : x.alternateCannonClass ≠ none) (failed : reply.spawned = false) :
    w.setupAlternate p reply = none := by
  unfold setupAlternate
  rw [found, Option.bind_some]
  cases kind : x.alternateCannonClass with
  | none => exact absurd kind asked
  | some cls => simp only [spawnCannon_failed _ _ _ failed]

/-- What a slot points to is there. -/
def Points (w : World) (x : MachinePawn) : Prop :=
  ∀ s c, x.link.slot s = some c → c < w.cannons.length

theorem setupCannon_spawned {w : World} {p : PawnId} {x : MachinePawn} (cls : CannonClass)
    {main alternate : CannonReply} (found : w.pawns[p]? = some x) (points : w.Points x)
    (spawns : w.Spawns p main alternate) :
    ∃ w', w.setupCannon p (some cls) main alternate = some w' ∧ Rearmed w w' p cls := by
  obtain ⟨first, second⟩ := spawns
  rw [found, Option.bind_some] at second
  obtain ⟨w₁, y, made, there, here, size, rest⟩ := setupMain_spawned cls found first
  obtain ⟨w', done, slot, others⟩ := setupAlternate_spawned there second
  refine ⟨w', ?_, w.cannons.length, y, le_refl _, slot, ?_, rest⟩
  · rw [setupCannon, made, Option.bind_some, done]
  · rw [others, here]
    · omega
    · intro same
      exact absurd (points .alternate _ same) (lt_irrefl _)

/-- A failed spawn is called through. -/
theorem setupCannon_failed {w : World} {p : PawnId} {x : MachinePawn} {cls : CannonClass}
    {main alternate : CannonReply} (found : w.pawns[p]? = some x) (fails : ¬ w.Spawns p main alternate) :
    w.setupCannon p (some cls) main alternate = none := by
  cases first : main.spawned with
  | false => rw [setupCannon, setupMain_failed w p cls first, Option.bind_none]
  | true =>
      obtain ⟨w₁, _, made, there, _⟩ := setupMain_spawned cls found first
      have asked : x.alternateCannonClass ≠ none := by
        intro unasked
        exact fails ⟨first, .inl (by simp [found, unasked])⟩
      have failed : alternate.spawned = false := by
        by_contra spawned
        exact fails ⟨first, .inr (by simpa using spawned)⟩
      rw [setupCannon, made, Option.bind_some, setupAlternate_failed there asked failed]

theorem setupSafe_iff {w : World} {p : PawnId} {x : MachinePawn} (newCannonClass : Option CannonClass)
    {main alternate : CannonReply} (found : w.pawns[p]? = some x) (points : w.Points x) :
    w.SetupSafe p newCannonClass main alternate ↔ newCannonClass = none ∨ w.Spawns p main alternate := by
  cases newCannonClass with
  | none => exact iff_of_true ⟨w, rfl, .inr ⟨rfl, rfl⟩⟩ (.inl rfl)
  | some cls =>
      constructor
      · rintro ⟨w', done, _⟩
        right
        by_contra fails
        cases done.symm.trans (setupCannon_failed found fails)
      · intro spawns
        obtain ⟨w', done, rearmed⟩ :=
          setupCannon_spawned cls found points (spawns.resolve_left (by simp))
        exact ⟨w', done, .inl ⟨cls, rfl, rearmed⟩⟩

/-- In every state of a run the slots point to cannons that are there. -/
theorem points_of_wired {w : World} {p : PawnId} {x : MachinePawn} (wired : w.links.Wired)
    (found : w.pawns[p]? = some x) : w.Points x := by
  intro s c holds
  obtain ⟨y, cannon, _⟩ := wired.slot p x.link s c (pawn_link found) holds
  simpa [links] using (List.getElem?_eq_some_iff.mp cannon).1

end World

namespace Arena

/-- The overlap runs to its end, and takes the box exactly when a tank has received
the cannon of the box. -/
def BoxSafe (a : Arena) (b : Nat) (otherActor : Actor) (main alternate : CannonReply) : Prop :=
  ∃ a', a.newCannonBoxOverlap b otherActor main alternate = some a' ∧
    (a'.newCannonBoxes[b]?.any (·.bActorIsBeingDestroyed) = true ↔
      ∃ p cls, a.castTankPawn otherActor = some p ∧
        a.newCannonBoxes[b]?.bind (·.cannonClass) = some cls ∧ World.Rearmed a.world a'.world p cls)

theorem boxSafe_iff {a : Arena} {b : Nat} {box : NewCannonBox} (otherActor : Actor)
    {main alternate : CannonReply} (found : a.newCannonBoxes[b]? = some box)
    (there : box.bActorIsBeingDestroyed = false)
    (tank : ∀ p, a.castTankPawn otherActor = some p → ∃ x, a.world.pawns[p]? = some x ∧ a.world.Points x) :
    a.BoxSafe b otherActor main alternate ↔
      ∀ p, a.castTankPawn otherActor = some p →
        box.cannonClass ≠ none ∧ a.world.Spawns p main alternate := by
  unfold BoxSafe newCannonBoxOverlap
  rw [found]
  cases touched : a.castTankPawn otherActor with
  | none =>
      refine iff_of_true ⟨a, rfl, ?_⟩ fun p same => by cases same
      simp [found, there]
  | some p =>
      obtain ⟨x, pawn, points⟩ := tank p touched
      have gone : ∀ world : World, ({ a with
          world, newCannonBoxes := a.newCannonBoxes.modify b NewCannonBox.destroy } : Arena).newCannonBoxes[b]?.any
            (·.bActorIsBeingDestroyed) = true := by
        intro world
        simp [found, NewCannonBox.destroy]
      constructor
      · rintro ⟨a', done, law⟩ p' same
        obtain rfl := Option.some.inj same
        obtain ⟨w', set, rfl⟩ := Option.map_eq_some_iff.mp done
        obtain ⟨p', cls, same, offered, _⟩ := law.mp (gone w')
        obtain rfl := Option.some.inj same
        have given : box.cannonClass = some cls := offered
        refine ⟨by simp [given], ?_⟩
        by_contra fails
        rw [given] at set
        cases set.symm.trans (World.setupCannon_failed pawn fails)
      · intro good
        obtain ⟨asked, spawns⟩ := good p rfl
        obtain ⟨cls, given⟩ := Option.ne_none_iff_exists'.mp asked
        obtain ⟨w', set, rearmed⟩ := World.setupCannon_spawned cls pawn points spawns
        refine ⟨{ a with world := w', newCannonBoxes := a.newCannonBoxes.modify b NewCannonBox.destroy },
          by simp only [given, set, Option.map_some], ?_⟩
        exact iff_of_true (gone w') ⟨p, cls, rfl, given, rearmed⟩

end Arena

/-- Changing the cannon is all or nothing, and a box is taken exactly for a change,
where both spawns succeed and the class offered is not null. -/
theorem rearming_iff (main alternate : CannonReply) :
    (∀ (w : World) (p : PawnId) (x : MachinePawn) (newCannonClass : Option CannonClass),
      w.pawns[p]? = some x → w.Points x →
        (w.SetupSafe p newCannonClass main alternate ↔
          newCannonClass = none ∨ w.Spawns p main alternate)) ∧
    ∀ (a : Arena) (b : Nat) (box : NewCannonBox) (otherActor : Actor),
      a.newCannonBoxes[b]? = some box → box.bActorIsBeingDestroyed = false →
      (∀ p, a.castTankPawn otherActor = some p → ∃ x, a.world.pawns[p]? = some x ∧ a.world.Points x) →
        (a.BoxSafe b otherActor main alternate ↔
          ∀ p, a.castTankPawn otherActor = some p →
            box.cannonClass ≠ none ∧ a.world.Spawns p main alternate) :=
  ⟨fun _ _ _ newCannonClass found points => World.setupSafe_iff newCannonClass found points,
    fun _ _ _ otherActor found there tank => Arena.boxSafe_iff otherActor found there tank⟩

/-- The first pawn of the duel is a tank; a box offers the class, if any. -/
def depot (cannonClass : Option CannonClass) : Arena :=
  { world := World.duel none, tanks := [0], newCannonBoxes := [{ cannonClass }] }

/-- A trace weapon. -/
def rail : CannonClass :=
  { cannonType := .fireTrace, projectileClass := none, projectilePoolClass := none }

theorem depot_points {x : MachinePawn} (member : x ∈ (World.duel none).pawns) : (World.duel none).Points x := by
  intro s c holds
  have bare := (World.duel_initial none).pawns x member
  cases s with
  | main => cases bare.1.symm.trans holds
  | alternate => cases bare.2.1.symm.trans holds

theorem depot_tank {cannonClass : Option CannonClass} {p : PawnId}
    (tank : (depot cannonClass).castTankPawn (.pawn 0) = some p) :
    ∃ x, (depot cannonClass).world.pawns[p]? = some x ∧ (depot cannonClass).world.Points x := by
  obtain rfl : 0 = p := by simpa [depot, Arena.castTankPawn] using tank
  exact ⟨_, rfl, depot_points (List.mem_cons_self)⟩

theorem rearming_iff_rail : (World.duel none).SetupSafe 0 (some rail) {} {} ∧
    (depot (some rail)).BoxSafe 0 (.pawn 0) {} {} := by
  constructor
  · exact ((rearming_iff {} {}).1 _ 0 _ (some rail) rfl (depot_points List.mem_cons_self)).mpr
      (.inr ⟨rfl, .inl rfl⟩)
  · refine ((rearming_iff {} {}).2 (depot (some rail)) 0 _ (.pawn 0) rfl rfl fun _ tank => depot_tank tank).mpr ?_
    intro p tank
    obtain rfl : 0 = p := by simpa [depot, Arena.castTankPawn] using tank
    exact ⟨by simp, rfl, .inl rfl⟩

-- The spawn of the new cannon fails; and a box without a class is taken for nothing.
theorem rearming_not_atomic :
    (¬ ∀ (w : World) (p : PawnId) (x : MachinePawn) (newCannonClass : Option CannonClass)
      (main alternate : CannonReply), w.pawns[p]? = some x → w.Points x →
        w.SetupSafe p newCannonClass main alternate) ∧
    ¬ ∀ (a : Arena) (b : Nat) (box : NewCannonBox) (otherActor : Actor) (main alternate : CannonReply),
      a.newCannonBoxes[b]? = some box → box.bActorIsBeingDestroyed = false →
      (∀ p, a.castTankPawn otherActor = some p → ∃ x, a.world.pawns[p]? = some x ∧ a.world.Points x) →
        a.BoxSafe b otherActor main alternate := by
  constructor
  · intro claim
    obtain ⟨w', done, _⟩ := claim (World.duel none) 0 _ (some rail) { spawned := false } {} rfl
      (depot_points List.mem_cons_self)
    have crash : (World.duel none).setupCannon 0 (some rail) { spawned := false } {} = none := by decide +kernel
    cases crash.symm.trans done
  · intro claim
    obtain ⟨a', done, law⟩ := claim (depot none) 0 _ (.pawn 0) {} {} rfl rfl fun _ tank => depot_tank tank
    have taken : (depot none).newCannonBoxOverlap 0 (.pawn 0) {} {} =
        some { depot none with newCannonBoxes := [NewCannonBox.destroy { cannonClass := none }] } := by
      decide +kernel
    obtain rfl := Option.some.inj (taken.symm.trans done)
    obtain ⟨_, _, _, offered, _⟩ := law.mp rfl
    cases offered

end TankoGeddon
