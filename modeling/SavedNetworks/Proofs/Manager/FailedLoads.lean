import SavedNetworks.Proofs.Manager.EarlyUnlocks

/-!
What a load that fails leaves behind: everything as it was, but for an unlock from before the store was read, which is
forgotten (`Manager.failedLoad_iff`).
-/

namespace SavedNetworks.Manager

variable {manager : Manager} {operation : Operation} {operations : List Operation}

/-- No load reads the store. -/
def FailsIfLoading (manager : Manager) (operation : Operation) : Prop :=
  operation = .load → ∃ failure, manager.load.2 = .error failure

/-- A remembered unlock stays as it is. -/
def LeavesUnlock (manager : Manager) (operation : Operation) : Prop := manager.settlesUnlock operation = false

/-- The manager as it was before a load, on the store as the attempt left it. -/
def beforeLoad (manager : Manager) : Manager := { manager with store := manager.load.1.store }

theorem load_of_failure {failure : ManagerError} (failed : manager.load.2 = .error failure) :
    manager.load.1 = manager.beforeLoad.recalling false := by
  obtain ⟨reason, read⟩ := read_of_load_eq_error failed
  unfold beforeLoad
  rw [load_of_error read]
  rfl

theorem sameContents_beforeLoad {failure : ManagerError} (failed : manager.load.2 = .error failure) :
    manager.beforeLoad.store.SameContents manager.store := by
  obtain ⟨reason, read⟩ := read_of_load_eq_error failed
  unfold beforeLoad
  rw [load_of_error read]
  exact Store.sameContents_read manager.store manager.tenant

/-- Until a load reads the store, a run with the unlock remembered is as the one without it: up to this memory as long
as nothing settles it, and altogether from then on. -/
theorem run_recalling (unlock : Bool) (fails : manager.Along FailsIfLoading operations) :
    (manager.Along LeavesUnlock operations ∧
      (manager.recalling unlock).run operations = (manager.run operations).recalling unlock) ∨
    (¬ manager.Along LeavesUnlock operations ∧ (manager.recalling unlock).run operations = manager.run operations) := by
  induction operations generalizing manager with
  | nil => exact .inl ⟨trivial, rfl⟩
  | cons operation rest ih =>
      obtain ⟨now, later⟩ := fails
      cases settles : manager.settlesUnlock operation with
      | true =>
          have alike := congrArg Prod.fst (perform_recalling_of_settles settles now unlock)
          refine .inr ⟨fun along => ?_, congrArg (run · rest) alike⟩
          exact ne_true_of_eq_false along.1 settles
      | false =>
          have first : ((manager.recalling unlock).perform operation).1 = (manager.perform operation).1.recalling unlock :=
            congrArg Prod.fst (perform_recalling settles unlock)
          have whole : (manager.recalling unlock).run (operation :: rest) =
              ((manager.perform operation).1.recalling unlock).run rest := congrArg (run · rest) first
          rw [whole]
          exact (ih later).imp (fun same => ⟨⟨settles, same.1⟩, same.2⟩)
            fun same => ⟨fun along => same.1 along.2, same.2⟩

theorem awaitsUnlock_load {data : StoreData} (read : (manager.store.read manager.tenant).2 = .ok data) :
    manager.load.1.awaitsUnlock = !(manager.unlockDeferred || manager.platform.isUnlocked manager.tenant) := by
  obtain ⟨roster, books, -⟩ := books_replaceMemory
    { manager with store := (manager.store.read manager.tenant).1, unlockDeferred := false } data
    (manager.unlockDeferred || manager.platform.isUnlocked manager.tenant)
  rw [load_of_ok read]
  refine (congrArg Books.awaitsUnlock books).trans ?_
  rw [books_filled]

/-- Where an unlock was forgotten, the store is read without the section of the tenant, unless the tenant is unlocked
by then; where it is remembered, the section is read. -/
theorem load_recalling_iff {count : Nat} (loaded : manager.load.2 = .ok count) (forgot : manager.unlockDeferred = false) :
    (manager.load = (manager.recalling true).load ↔ manager.platform.isUnlocked manager.tenant = true) ∧
      (manager.recalling true).load.1.awaitsUnlock = false ∧
      manager.load.1.awaitsUnlock = !manager.platform.isUnlocked manager.tenant := by
  have read : ∃ data, (manager.store.read manager.tenant).2 = .ok data := by
    cases read : (manager.store.read manager.tenant).2 with
    | ok data => exact ⟨data, rfl⟩
    | error reason =>
        rw [load_eq_error read] at loaded
        cases loaded
  obtain ⟨data, read⟩ := read
  have again : ((manager.recalling true).store.read (manager.recalling true).tenant).2 = .ok data := read
  have remembered : (manager.recalling true).load.1.awaitsUnlock = false := awaitsUnlock_load again
  have forgotten : manager.load.1.awaitsUnlock = !manager.platform.isUnlocked manager.tenant := by
    rw [awaitsUnlock_load read, forgot, Bool.false_or]
  refine ⟨⟨fun alike => ?_, fun unlocked => ?_⟩, remembered, forgotten⟩
  · rw [← alike, forgotten, Bool.not_eq_false'] at remembered
    exact remembered
  · have same : manager.load.1 = (manager.recalling true).load.1 := by
      rw [load_of_ok read, load_of_ok again, forgot, unlocked]
      rfl
    rw [(load_eq_ok read).1, (load_eq_ok again).1, same]

/-- The same for the first load that reads the store after a run. -/
theorem load_run_recalling_iff {count : Nat} (forgot : manager.unlockDeferred = false)
    (fails : manager.Along FailsIfLoading operations) (loaded : (manager.run operations).load.2 = .ok count) :
    ((manager.run operations).load = ((manager.recalling true).run operations).load ↔
      ¬ manager.Along LeavesUnlock operations ∨
        (manager.run operations).platform.isUnlocked (manager.run operations).tenant = true) ∧
    ((manager.run operations).load ≠ ((manager.recalling true).run operations).load →
      (manager.run operations).load.1.awaitsUnlock = true ∧
        ((manager.recalling true).run operations).load.1.awaitsUnlock = false) := by
  obtain ⟨leaves, alike⟩ | ⟨settles, alike⟩ := run_recalling true fails
  · have forgotten : (manager.run operations).unlockDeferred = false := by
      have still : manager.recalling false = manager := by
        rw [← forgot]
        rfl
      obtain ⟨-, same⟩ | ⟨settles, -⟩ := run_recalling false fails
      · rw [still] at same
        rw [same]
        rfl
      · exact absurd leaves settles
    obtain ⟨same, taken, left⟩ := load_recalling_iff loaded forgotten
    rw [alike]
    refine ⟨⟨fun equal => .inr (same.1 equal), fun settled => same.2 (settled.resolve_left (not_not_intro leaves))⟩,
      fun locked => ⟨?_, taken⟩⟩
    rw [left, Bool.not_eq_true', Bool.eq_false_iff]
    exact fun unlocked => locked (same.2 unlocked)
  · rw [alike]
    exact ⟨iff_of_true rfl (.inl settles), fun different => absurd rfl different⟩

/-- A load that fails leaves everything as it was but for the store, whose contents stay, and the memory of an unlock
from before the store was read, which is lost. The next load that reads the store, whatever happens before it, does what
it would have done without the failed one unless such an unlock was remembered, nothing has settled what becomes of it,
and the tenant is not unlocked then; in that case it leaves the section out that it would have taken in. -/
theorem failedLoad_iff {failure : ManagerError} (failed : manager.load.2 = .error failure) :
    manager.load.1 = { manager with store := manager.load.1.store, unlockDeferred := false } ∧
      manager.load.1.store.SameContents manager.store ∧
      (manager.load.1 = manager.beforeLoad ↔ manager.unlockDeferred = false) ∧
      ∀ operations count, manager.load.1.Along FailsIfLoading operations →
        (manager.load.1.run operations).load.2 = .ok count →
        ((manager.load.1.run operations).load = (manager.beforeLoad.run operations).load ↔
          manager.unlockDeferred = false ∨ ¬ manager.load.1.Along LeavesUnlock operations ∨
            (manager.load.1.run operations).platform.isUnlocked (manager.load.1.run operations).tenant = true) ∧
        ((manager.load.1.run operations).load ≠ (manager.beforeLoad.run operations).load →
          (manager.load.1.run operations).load.1.awaitsUnlock = true ∧
            (manager.beforeLoad.run operations).load.1.awaitsUnlock = false) := by
  have after := load_of_failure failed
  have forgot : manager.load.1.unlockDeferred = false := by
    rw [after]
    rfl
  have recalled : manager.beforeLoad = manager.load.1.recalling manager.unlockDeferred := by
    rw [after]
    rfl
  have kept (none : manager.unlockDeferred = false) : manager.load.1 = manager.beforeLoad := by
    rw [recalled, none, after]
    rfl
  refine ⟨after, sameContents_beforeLoad failed, ⟨fun same => ?_, kept⟩, fun operations count fails loaded => ?_⟩
  · rw [same] at forgot
    exact forgot
  · cases remembered : manager.unlockDeferred with
    | false =>
        rw [← kept remembered]
        exact ⟨iff_of_true rfl (.inl rfl), fun different => absurd rfl different⟩
    | true =>
        rw [recalled, remembered]
        obtain ⟨same, apart⟩ := load_run_recalling_iff forgot fails loaded
        refine ⟨same.trans ⟨.inr, fun settled => settled.resolve_left nofun⟩, apart⟩

/-- A manager with a stored private profile and a locked tenant, after a restart: the next read of the store fails. -/
def failingToRead : Manager :=
  onEmptyStore.run [.load, .addOrUpdate { Draft.psk "Home" "password" with shared := false } ⟨Uid.system, "android"⟩,
    .change (.lock 0), .restart, .change .failNextRead]

theorem reachableAlone_failingToRead : failingToRead.ReachableAlone :=
  reachableAlone_onEmptyStore.run (by decide)

/-- Nothing is lost if the tenant is still unlocked when the load is tried again. -/
theorem failedLoad_unlockedAgain :
    (failingToRead.unlockTenant 0).load.2 = .error (.store .readRefused) ∧
      ((failingToRead.unlockTenant 0).load.1.run [.change (.unlock 0)]).load =
        ((failingToRead.unlockTenant 0).beforeLoad.run [.change (.unlock 0)]).load := by
  have failed : (failingToRead.unlockTenant 0).load.2 = .error (.store .readRefused) := by decide
  refine ⟨failed, ?_⟩
  have alike := (failedLoad_iff failed).2.2.2 [.change (.unlock 0)] 1 ⟨nofun, trivial⟩ (by decide)
  exact alike.1.mpr (.inr (.inr (by decide)))

/-- The tenant is told to be unlocked, and the store cannot be read: a second try leaves the private profile out. -/
theorem not_beforeLoad_failingToRead :
    (failingToRead.perform (.unlockTenant 0)).1.ReachableAlone ∧
      (failingToRead.unlockTenant 0).load.2 = .error (.store .readRefused) ∧
      (failingToRead.unlockTenant 0).load.1.unlockDeferred ≠ (failingToRead.unlockTenant 0).unlockDeferred ∧
      (failingToRead.unlockTenant 0).load.1.load.1.roster.visible = [] ∧
      (failingToRead.unlockTenant 0).beforeLoad.load.1.roster.visible.map Profile.ssid = ["Home"] := by
  refine ⟨reachableAlone_failingToRead.perform (by decide), ?_⟩
  decide

end SavedNetworks.Manager
