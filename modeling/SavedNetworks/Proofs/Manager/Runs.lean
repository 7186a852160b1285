import Mathlib.Control.Monad.Basic
import SavedNetworks.Proofs.Manager.Placement

/-!
Runs of operations, and the states that they reach from an empty store.
-/

namespace SavedNetworks

/-- Nothing is stored, whether in a section or in a write that waits. -/
structure Store.IsEmpty (store : Store) : Prop where
  shared : store.storedShared = []
  sections : ∀ tenant, store.storedSection tenant = .empty

namespace Manager

variable {manager : Manager} {operation : Operation} {operations : List Operation}

/-- Each operation of a run has a property of the state that it meets. -/
def Along (property : Manager → Operation → Prop) : Manager → List Operation → Prop
  | _, [] => True
  | manager, operation :: rest => property manager operation ∧ Along property (manager.perform operation).1 rest

instance Along.decidable {property : Manager → Operation → Prop}
    [∀ manager operation, Decidable (property manager operation)] :
    ∀ (manager : Manager) (operations : List Operation), Decidable (manager.Along property operations)
  | _, [] => inferInstanceAs (Decidable True)
  | manager, operation :: rest =>
      have : Decidable ((manager.perform operation).1.Along property rest) := Along.decidable _ rest
      inferInstanceAs (Decidable (property manager operation ∧ Along property (manager.perform operation).1 rest))

/-- What every operation of a run keeps holds at its end. -/
theorem Along.invariant {property : Manager → Operation → Prop} {holds : Manager → Prop}
    (keeps : ∀ manager operation, property manager operation → holds manager → holds (manager.perform operation).1)
    (along : manager.Along property operations) (initially : holds manager) : holds (manager.run operations) := by
  induction operations generalizing manager with
  | nil => exact initially
  | cons operation rest ih =>
      obtain ⟨now, later⟩ := along
      exact ih later (keeps manager operation now initially)

theorem run_append (manager : Manager) (first second : List Operation) :
    manager.run (first ++ second) = (manager.run first).run second := List.foldl_append

theorem along_append {property : Manager → Operation → Prop} {first second : List Operation} :
    manager.Along property (first ++ second) ↔
      manager.Along property first ∧ (manager.run first).Along property second := by
  induction first generalizing manager with
  | nil => exact ⟨fun along => ⟨trivial, along⟩, And.right⟩
  | cons operation rest ih => exact (and_congr_right fun _ => ih).trans and_assoc.symm

/-- No run of operations with a property changes what is stored for a tenant. -/
def KeepsSection (manager : Manager) (tenant : Tenant) (property : Manager → Operation → Prop) : Prop :=
  ∀ operations, manager.Along property operations →
    (manager.run operations).store.storedSection tenant = manager.store.storedSection tenant

/-- Nobody else writes to the store, and the ids last. -/
structure Ordinary (manager : Manager) (operation : Operation) : Prop where
  ours : operation.isForeign = false
  room : manager.HasRoom operation

instance (manager : Manager) (operation : Operation) : Decidable (manager.HasRoom operation) :=
  inferInstanceAs (Decidable (_ < _))

instance (manager : Manager) (operation : Operation) : Decidable (manager.Ordinary operation) :=
  decidable_of_iff (operation.isForeign = false ∧ manager.HasRoom operation)
    ⟨fun both => ⟨both.1, both.2⟩, fun ordinary => ⟨ordinary.ours, ordinary.room⟩⟩

/-- The states of all runs, whatever is stored at first and whoever writes to the store. -/
inductive Reachable : Manager → Prop where
  | start (settings : Settings) (platform : Platform) (store : Store) (listeners : List Listener)
    (digest : String → Option (List UInt8)) (random : List UInt8) :
    Reachable (start settings platform store listeners digest random)
  | perform {manager : Manager} {operation : Operation} (reached : Reachable manager) (room : manager.HasRoom operation) :
    Reachable (manager.perform operation).1

/-- The states of the runs that start from an empty store, to which nobody else writes. -/
inductive ReachableAlone : Manager → Prop where
  | start {store : Store} (empty : store.IsEmpty) (settings : Settings) (platform : Platform) (listeners : List Listener)
    (digest : String → Option (List UInt8)) (random : List UInt8) :
    ReachableAlone (start settings platform store listeners digest random)
  | perform {manager : Manager} {operation : Operation} (reached : ReachableAlone manager)
    (ordinary : manager.Ordinary operation) : ReachableAlone (manager.perform operation).1

theorem placed_start {store : Store} (empty : store.IsEmpty) (settings : Settings) (platform : Platform)
    (listeners : List Listener) (digest : String → Option (List UInt8)) (random : List UInt8) :
    (start settings platform store listeners digest random).books.Placed := by
  refine ⟨fun profile present => absurd present List.not_mem_nil, fun one listed => ?_,
    fun tenant one listed => ?_⟩
  · have stored : one ∈ store.storedShared := listed
    rw [empty.shared] at stored
    cases stored
  · have stored : one ∈ (store.storedSection tenant).profiles := listed
    rw [empty.sections] at stored
    cases stored

/-- Neither the number of operations nor that of the ids matters. -/
theorem placed_run (wellFormed : manager.roster.WellFormed) (idle : manager.books.Idle) (placed : manager.books.Placed)
    (ours : ∀ operation ∈ operations, operation.isForeign = false) : (manager.run operations).books.Placed := by
  induction operations generalizing manager with
  | nil => exact placed
  | cons operation rest ih =>
      exact ih (wellFormed_perform wellFormed operation) (idle_perform wellFormed idle operation)
        (placed_perform wellFormed idle placed (ours operation (List.mem_cons_self ..)))
        fun later among => ours later (List.mem_cons_of_mem _ among)

theorem Reachable.sound (reached : manager.Reachable) : manager.books.Sound := by
  induction reached with
  | start settings platform store listeners digest random => exact sound_start settings platform store listeners digest random
  | perform _ room ih => exact sound_perform ih room

theorem Reachable.run (reached : manager.Reachable) (ordinary : manager.Along Ordinary operations) :
    (manager.run operations).Reachable :=
  ordinary.invariant (fun _ _ now before => before.perform now.room) reached

theorem Reachable.idle (reached : manager.Reachable) : manager.books.Idle := by
  induction reached with
  | start => exact fun _ => rfl
  | perform reached _ ih => exact idle_perform reached.sound.wellFormed ih _

namespace ReachableAlone

theorem reachable (alone : manager.ReachableAlone) : manager.Reachable := by
  induction alone with
  | start empty settings platform listeners digest random => exact .start settings platform _ listeners digest random
  | perform _ ordinary ih => exact ih.perform ordinary.room

theorem sound (alone : manager.ReachableAlone) : manager.books.Sound := alone.reachable.sound

theorem run (alone : manager.ReachableAlone) (ordinary : manager.Along Ordinary operations) :
    (manager.run operations).ReachableAlone :=
  ordinary.invariant (fun _ _ now before => before.perform now) alone

theorem placed (alone : manager.ReachableAlone) : manager.books.Placed := by
  induction alone with
  | start empty settings platform listeners digest random => exact placed_start empty settings platform listeners digest random
  | perform alone ordinary ih => exact placed_perform alone.sound.wellFormed alone.reachable.idle ih ordinary.ours

end ReachableAlone

/-- A manager with the default settings on an empty store. -/
def onEmptyStore : Manager :=
  start .default (.start 0 1700000000000) (.immediate .empty) [] (fun _ => none) []

theorem isEmpty_immediate_empty : (Store.immediate .empty).IsEmpty := ⟨rfl, fun _ => rfl⟩

theorem reachableAlone_onEmptyStore : onEmptyStore.ReachableAlone := .start isEmpty_immediate_empty ..

/-- In every state of a run from an empty store, whoever is unlocked and whatever reads and writes fail, the current
tenant sees all that is in memory, and every record is a saved profile in the section that it belongs to. -/
theorem placement_run {store : Store} (empty : store.IsEmpty) (settings : Settings) (platform : Platform)
    (listeners : List Listener) (digest : String → Option (List UInt8)) (random : List UInt8)
    (ours : ∀ operation ∈ operations, operation.isForeign = false)
    (reached : manager = (start settings platform store listeners digest random).run operations) :
    (∀ profile ∈ manager.roster.all, profile.shared = true ∨ profile.creator.uid.inTenant manager.tenant = true) ∧
      manager.roster.visible = manager.roster.all ∧
      StoredProfile.AllRead Profile.IsCommon manager.store.storedShared ∧
      ∀ tenant, StoredProfile.AllRead (Profile.IsPrivateOf tenant) (manager.store.storedSection tenant).profiles := by
  have placed : manager.books.Placed := by
    rw [reached]
    exact placed_run Roster.wellFormed_empty (fun _ => rfl) (placed_start empty settings platform listeners digest random) ours
  refine ⟨fun profile present => ?_, List.filter_eq_self.2 placed.seen, placed.shared, placed.owned⟩
  have seen : profile.visibleTo manager.tenant = true := placed.seen profile present
  simpa [Profile.visibleTo] using seen

/-- Two tenants take turns, with shared, private and ephemeral networks, a failing read and a failing write. -/
def takingTurns : List Operation :=
  [.load, .change (.unlock 1), .addOrUpdate (.psk "Cafe" "espresso1") ⟨Uid.system, "android"⟩,
    .addOrUpdate { Draft.psk "Home" "password" with shared := false } ⟨Uid.system, "android"⟩,
    .addOrUpdate { Draft.psk "Guest" "welcome12" with shared := false, ephemeral := true } ⟨Uid.system, "android"⟩,
    .switchTenant 1, .addOrUpdate { Draft.psk "Work" "overtime1" with shared := false } ⟨100000, "office"⟩,
    .change .failNextRead, .switchTenant 0, .change (.failWrites true), .save true, .switchTenant 1]

theorem placement_takingTurns :
    ((onEmptyStore.run takingTurns).store.storedSection 1).profiles ≠ [] ∧
      StoredProfile.AllRead (Profile.IsPrivateOf 1) ((onEmptyStore.run takingTurns).store.storedSection 1).profiles :=
  ⟨by decide, (placement_run isEmpty_immediate_empty .default (.start 0 1700000000000) [] (fun _ => none) []
    (by decide) rfl).2.2.2 1⟩

end Manager

end SavedNetworks
