import SavedNetworks.Proofs.Manager.Polling
import SavedNetworks.Proofs.Manager.Reloading

/-!
Backoff across a restart. The time of a disabling is stored as the clock of its manager read it, and the next manager
compares it with readings of a clock that started over: the backoff is in time only if the old clock read zero
(`Manager.postpones_successor`).
-/

namespace SavedNetworks

/-- A time other than zero is after the first reading, or too long before the last one. -/
theorem SelectionStatus.exists_not_precedes {status : SelectionStatus} {since : Millis} (given : status.disabledAt = some since)
    (other : since ≠ 0) : ∃ now : Millis, 0 ≤ now.toInt ∧ ¬ status.Precedes now := by
  have apart : since.toInt ≠ 0 := fun same => other (Int64.toInt_inj.1 same)
  have lasted (now : Millis) : status.lasted now = now.toInt - since.toInt := by rw [lasted, given, Option.getD_some]
  by_cases after : 0 < since.toInt
  · refine ⟨0, by decide, fun precedes => ?_⟩
    have later := precedes.later
    rw [lasted, Int64.toInt_zero] at later
    omega
  · refine ⟨Int64.maxValue, by decide, fun precedes => ?_⟩
    have fits := precedes.fits
    rw [lasted] at fits
    omega

/-- Fewer blocked transmitters do not lengthen a backoff. -/
theorem Rule.isOver_of_le {rule : Rule} {base : Millis} (given : rule.timeout = some base) (nonneg : 0 ≤ base.toInt)
    {few many : Nat} (fewer : few ≤ many) {waited : Int} (ended : many = 0 ∨ base.toInt * 2 ^ (many - 1) ≤ waited) :
    rule.IsOver few waited := by
  by_cases none : few = 0
  · exact .inl none
  · have long : base.toInt * 2 ^ (many - 1) ≤ waited := ended.resolve_left fun zero => none (by omega)
    have powers : (2 : Int) ^ (few - 1) ≤ 2 ^ (many - 1) := by
      exact_mod_cast Nat.pow_le_pow_right (by decide) (Nat.sub_le_sub_right fewer 1)
    have shorter : base.toInt * 2 ^ (few - 1) ≤ base.toInt * 2 ^ (many - 1) := Int.mul_le_mul_of_nonneg_left powers nonneg
    exact .inr ⟨base, given, Int.le_trans (Int.min_le_left ..) (Int.le_trans shorter long)⟩

namespace Manager

variable {manager after : Manager} {profile old new : Profile} {base : Millis} {id : ProfileId}

/-- A poll enables a profile if its wait is over. -/
theorem tryEnable_eq_true_iff (found : manager.roster.get? id = some profile) :
    (manager.tryEnable id).2 = true ↔ manager.settings.rules.Releases profile.selection manager.platform.elapsed
      (min (manager.platform.blockedCount profile.ssid) manager.settings.maxBlocked).toNat := by
  rw [tryEnable, found]
  simp only [manager.rules_tryEnable_eq profile]
  split
  · next releases => exact iff_of_true rfl releases
  · next waits => exact iff_of_false Bool.false_ne_true waits

/-- The profile is seen, and temporarily disabled for a reason with a timeout. -/
structure Waits (manager : Manager) (profile : Profile) (base : Millis) : Prop where
  found : manager.roster.get? profile.id = some profile
  disabled : profile.selection.state = .temporarilyDisabled
  timeout : (manager.settings.rules.rule profile.selection.reason).timeout = some base

/-- At every reading at which the backoff would be over if it had begun at zero, a poll enables the profile. -/
def EndsInTime (manager : Manager) (profile : Profile) (base : Millis) : Prop :=
  ∀ platform : Platform, 0 ≤ platform.elapsed.toInt →
    ((platform.blockedCount profile.ssid).toNat = 0 ∨
      base.toInt * 2 ^ (min (platform.blockedCount profile.ssid).toNat 10 - 1) ≤ platform.elapsed.toInt) →
    ({ manager with platform }.tryEnable profile.id).2 = true

/-- The backoff is counted from a reading of the clock. -/
def CountsFrom (manager : Manager) (profile : Profile) (since : Millis) : Prop :=
  ∀ platform : Platform, 0 ≤ platform.elapsed.toInt →
    (({ manager with platform }.tryEnable profile.id).2 = true ↔ since.toInt ≤ platform.elapsed.toInt ∧
      (manager.settings.rules.rule profile.selection.reason).IsOver ({ manager with platform }.blockedFor profile)
        (platform.elapsed.toInt - since.toInt))

namespace Waits

theorem nonneg (waits : manager.Waits profile base) : 0 ≤ base.toInt :=
  Int64.le_iff_toInt_le.1 (Rules.timeout_nonneg manager.settings.ruleOverrides _ base waits.timeout)

theorem tryEnable_eq_true_iff (waits : manager.Waits profile base) (platform : Platform) :
    ({ manager with platform }.tryEnable profile.id).2 = true ↔
      profile.selection.Precedes platform.elapsed ∧
        (manager.settings.rules.rule profile.selection.reason).IsOver ({ manager with platform }.blockedFor profile)
          (profile.selection.lasted platform.elapsed) := by
  have polls := @Manager.tryEnable_eq_true_iff { manager with platform } profile profile.id waits.found
  have disabled : profile.selection.isTemporarilyDisabled = true := by
    simp [SelectionStatus.isTemporarilyDisabled, waits.disabled]
  rw [Rules.Releases, and_iff_right disabled, UInt32.toNat_min] at polls
  exact polls

theorem countsFrom (waits : manager.Waits profile base) {since : Millis} (given : profile.selection.disabledAt = some since)
    (start : 0 ≤ since.toInt) : manager.CountsFrom profile since := by
  intro platform reading
  have lasted : profile.selection.lasted platform.elapsed = platform.elapsed.toInt - since.toInt := by
    rw [SelectionStatus.lasted, given, Option.getD_some]
  have latest := (Millis.fits_toInt platform.elapsed).2
  have precedes : profile.selection.Precedes platform.elapsed ↔ since.toInt ≤ platform.elapsed.toInt :=
    ⟨fun precedes => Int.sub_nonneg.1 (lasted ▸ precedes.later),
      fun later => ⟨by rw [lasted]; omega, by rw [lasted]; omega⟩⟩
  rw [waits.tryEnable_eq_true_iff, lasted, precedes]

theorem blockedFor_le (platform : Platform) (profile : Profile) :
    { manager with platform }.blockedFor profile ≤ min (platform.blockedCount profile.ssid).toNat 10 := by
  have few : { manager with platform }.blockedFor profile =
    min (min (platform.blockedCount profile.ssid).toNat manager.settings.maxBlocked.toNat) 10 := rfl
  omega

theorem endsInTime_of_zero (waits : manager.Waits profile base) (given : profile.selection.disabledAt = some 0) :
    manager.EndsInTime profile base := by
  intro platform reading ended
  refine (waits.countsFrom given (by decide) platform reading).2 ⟨reading, ?_⟩
  rw [Int64.toInt_zero, Int.sub_zero]
  exact Rule.isOver_of_le waits.timeout waits.nonneg (blockedFor_le platform profile)
    (ended.imp_left fun none => by rw [none, Nat.zero_min])

/-- Where the time of the disabling is not known, the backoff is over at once, or not as long as a transmitter is blocked. -/
theorem endsInTime_iff_of_none (waits : manager.Waits profile base) (unknown : profile.selection.disabledAt = none) :
    manager.EndsInTime profile base ↔ base = 0 ∨ manager.settings.maxBlocked = 0 := by
  have lasted (now : Millis) : profile.selection.lasted now = 0 := by
    simp [SelectionStatus.lasted, unknown]
  constructor
  · intro inTime
    refine or_iff_not_imp_right.2 fun counted => ?_
    obtain ⟨platform, blocked, reading⟩ : ∃ platform : Platform,
        platform.blockedCount profile.ssid = 1 ∧ platform.elapsed = Int64.maxValue :=
      ⟨{ Platform.start Int64.maxValue 0 with blocked := SortedMap.empty.insert profile.ssid 1 },
        by simp [Platform.blockedCount], rfl⟩
    have once : { manager with platform }.blockedFor profile = 1 := by
      have some : manager.settings.maxBlocked.toNat ≠ 0 := fun none => counted (UInt32.toNat_inj.1 none)
      change min (min (platform.blockedCount profile.ssid).toNat manager.settings.maxBlocked.toNat) 10 = 1
      rw [blocked, UInt32.toNat_one]
      omega
    have long : base.toInt * 2 ^ (min (platform.blockedCount profile.ssid).toNat 10 - 1) ≤ platform.elapsed.toInt := by
      rw [blocked, reading]
      simpa using Int64.toInt_le base
    have enabled := inTime platform (by rw [reading]; decide) (.inr long)
    rw [waits.tryEnable_eq_true_iff, once, lasted] at enabled
    rcases enabled.2 with none | ⟨other, given, ended⟩
    · cases none
    · obtain rfl := Option.some.inj (waits.timeout.symm.trans given)
      have most : 0 < Int64.maxValue.toInt := by decide
      have start := waits.nonneg
      exact Int64.toInt_inj.1 (by rw [Int64.toInt_zero]; omega)
  · intro short platform reading ended
    rw [waits.tryEnable_eq_true_iff, lasted]
    refine ⟨⟨by rw [lasted], by rw [lasted]; decide⟩, ?_⟩
    rcases short with rfl | uncounted
    · exact .inr ⟨0, waits.timeout, by simp⟩
    · left
      change min (min (platform.blockedCount profile.ssid).toNat manager.settings.maxBlocked.toNat) 10 = 0
      rw [uncounted]
      simp

theorem endsInTime_iff (waits : manager.Waits profile base) :
    manager.EndsInTime profile base ↔ profile.selection.disabledAt = some 0 ∨
      profile.selection.disabledAt = none ∧ (base = 0 ∨ manager.settings.maxBlocked = 0) := by
  cases given : profile.selection.disabledAt with
  | none => simp [waits.endsInTime_iff_of_none given]
  | some since =>
      simp only [Option.some.injEq, reduceCtorEq, false_and, or_false]
      refine ⟨fun inTime => ?_, fun zero => waits.endsInTime_of_zero (given.trans (congrArg some zero))⟩
      by_contra other
      obtain ⟨now, reading, apart⟩ := SelectionStatus.exists_not_precedes given other
      have enabled := inTime (.start now 0) reading (.inl rfl)
      rw [waits.tryEnable_eq_true_iff] at enabled
      exact apart enabled.1

end Waits

theorem settings_load (manager : Manager) : manager.load.1.settings = manager.settings := by
  cases read : (manager.store.read manager.tenant).2 with
  | error failure => rw [load_of_error read]
  | ok data =>
      have inserted (other : Manager) (profiles : List Profile) : (other.insertAll profiles).settings = other.settings := by
        rw [insertAll_eq]
      have supplied (other : Manager) : other.supplyAddresses.settings = other.settings := by
        obtain ⟨_, _, same, _⟩ := supplyAddresses_eq other
        rw [same]
      rw [load_of_ok read]
      generalize (manager.unlockDeferred || manager.platform.isUnlocked manager.tenant) = withSection
      unfold replaceMemory takeSection
      cases withSection <;> simp [supplied, inserted, resetSim, announceReload, announce, notice, clearMemory]

theorem spec_successor (manager : Manager) (platform : Platform) (listeners : List Listener) (random : List UInt8) :
    (manager.successor platform listeners random).settings = manager.settings ∧
      (manager.successor platform listeners random).roster.WellFormed := by
  obtain ⟨_, opened⟩ := successor_eq manager platform listeners random
  rw [opened]
  exact ⟨rfl, Roster.wellFormed_empty.switchTo manager.tenant⟩

theorem exists_reloaded (sound : manager.books.Sound) (read : manager.awaitsStore = false)
    (loaded : manager.awaitsUnlock = false) (working : manager.store.works = true) {platform : Platform}
    (unlocked : platform.isUnlocked manager.tenant = true) (listeners : List Listener) (random : List UInt8) :
    (manager.save true).2 = .ok () ∧
      ∃ after, ((manager.save true).1.successor platform listeners random).load = (after, .ok manager.saved.length) ∧
        manager.Reloaded random after := by
  have wellFormed : manager.roster.WellFormed := sound.wellFormed
  have named : manager.writtenTenant = some manager.tenant := if_neg (ne_true_of_eq_false loaded)
  obtain ⟨written, data, answered, alike⟩ :=
    Store.read_reopen_write working (keysDistinct_sections wellFormed) manager.tenant true
  rw [save_of_read read, named, written]
  obtain ⟨_, opened⟩ := successor_eq
    { manager with store := (manager.store.write (some manager.tenant) manager.sections true).1 } platform listeners random
  rw [opened]
  exact ⟨rfl, reloaded_load sound answered alike unlocked rfl rfl rfl⟩

/-- A record is disabled as the profile was, and since the same reading. -/
theorem Waits.of_readAs {randomizer : Randomizer} (waits : manager.Waits old base) (tenant : after.tenant = manager.tenant)
    (settings : after.settings = manager.settings) (wellFormed : after.roster.WellFormed) (present : new ∈ after.roster.all)
    (readAs : old.persisted.ReadAs manager.tenant randomizer new) :
    after.Waits new base ∧ new.selection = old.selection.persisted := by
  have selection : new.selection = old.selection.persisted := congrArg Profile.selection readAs.same
  have visible : after.roster.isVisible new = true := by
    have shared : new.shared = old.shared := (congrArg Profile.shared readAs.same).trans rfl
    have creator : new.creator = old.creator := (congrArg Profile.creator readAs.same).trans rfl
    have seen := (Roster.get?_eq_some.1 waits.found).2
    have same : after.roster.tenant = manager.roster.tenant := tenant
    rw [Roster.isVisible, Profile.visibleTo, shared, creator, same]
    exact seen
  refine ⟨⟨Roster.get?_eq_some.2 ⟨wellFormed.mem_all_iff.1 present, visible⟩, ?_, ?_⟩, selection⟩
  · rw [selection]
    exact waits.disabled
  · rw [settings, selection]
    exact waits.timeout

/-- What is left of the backoff of a profile that a manager has saved when the next one has loaded it. -/
structure Postpones (before after : Manager) (old new : Profile) (base : Millis) : Prop where
  waits : after.Waits new base
  key : new.key = old.key
  /-- It is in time only if it began at zero, or has no beginning and no length. -/
  endsInTime : after.EndsInTime new base ↔ old.selection.disabledAt = some 0 ∨
    old.selection.disabledAt = none ∧ (base = 0 ∨ before.settings.maxBlocked = 0)
  counts : ∀ since ∈ old.selection.disabledAt, 0 ≤ since.toInt → after.CountsFrom new since

/-- A restart prolongs every backoff by what the old clock read when it began. -/
theorem postpones_successor (reached : manager.Reachable) (read : manager.awaitsStore = false)
    (loaded : manager.awaitsUnlock = false) (working : manager.store.works = true) (platform : Platform)
    (unlocked : platform.isUnlocked manager.tenant = true) (listeners : List Listener) (random : List UInt8)
    (waits : manager.Waits old base) (saved : old.isSaved = true) :
    (manager.save true).2 = .ok () ∧
      ∃ after, ((manager.save true).1.successor platform listeners random).load = (after, .ok manager.saved.length) ∧
        ∃ new, manager.Postpones after old new base := by
  obtain ⟨saves, after, loads, reloaded⟩ := exists_reloaded reached.sound read loaded working unlocked listeners random
  have same : after = ((manager.save true).1.successor platform listeners random).load.1 := (congrArg Prod.fst loads).symm
  have settings : after.settings = manager.settings := by
    rw [same, settings_load, (spec_successor ..).1, save_of_read read]
  have formed : after.roster.WellFormed := by
    rw [same]
    exact wellFormed_load (spec_successor ..).2
  have among : old ∈ manager.saved := List.mem_filter.2 ⟨Roster.mem_of_get? waits.found, saved⟩
  obtain ⟨new, present, readAs⟩ := reloaded.profiles.forth old among
  obtain ⟨still, selection⟩ := waits.of_readAs reloaded.tenant settings formed present readAs
  have disabledAt : new.selection.disabledAt = old.selection.disabledAt := by rw [selection]; rfl
  refine ⟨saves, after, loads, new, still, readAs.key.trans old.key_persisted, ?_, fun since given start => ?_⟩
  · rw [still.endsInTime_iff, disabledAt, settings]
  · exact still.countsFrom (disabledAt.trans given) start

/-- A network loses the internet when the clock of its manager has a certain reading. -/
def offlineAt (reading : Millis) : Manager :=
  onEmptyStore.run
    [.load, .addOrUpdate (.psk "Home" "password") ⟨Uid.system, "android"⟩, .enable ⟨0⟩ false ⟨Uid.system, "android"⟩,
      .change (.advance reading), .updateSelection ⟨0⟩ .noInternetTemporary]

/-- The next manager, on a device that has just been started. -/
def afterReboot (reading : Millis) : Manager :=
  (((offlineAt reading).save true).1.successor (.start 0 1700000000000) [] []).load.1

theorem postpones_offlineAt_zero :
    ∃ old new, (offlineAt 0).Waits old (10 * Millis.minute) ∧
      (offlineAt 0).Postpones (afterReboot 0) old new (10 * Millis.minute) ∧
      (afterReboot 0).EndsInTime new (10 * Millis.minute) := by
  have reached : (offlineAt 0).Reachable := (reachableAlone_onEmptyStore.run (by decide)).reachable
  obtain ⟨old, found, named, disabled, timeout, saved, given⟩ : ∃ old ∈ (offlineAt 0).roster.get? ⟨0⟩, old.id = ⟨0⟩ ∧
      old.selection.state = .temporarilyDisabled ∧
      ((offlineAt 0).settings.rules.rule old.selection.reason).timeout = some (10 * Millis.minute) ∧ old.isSaved = true ∧
      old.selection.disabledAt = some 0 := by decide
  have waits : (offlineAt 0).Waits old (10 * Millis.minute) := ⟨named ▸ found, disabled, timeout⟩
  obtain ⟨_, after, loads, new, postpones⟩ := postpones_successor reached (by decide) (by decide)
    (by decide) (.start 0 1700000000000) (by decide) [] [] waits saved
  have same : after = afterReboot 0 := (congrArg Prod.fst loads).symm
  rw [same] at postpones
  exact ⟨old, new, waits, postpones, postpones.endsInTime.2 (.inl given)⟩

theorem not_endsInTime_offlineAt_second :
    (offlineAt 1000).Reachable ∧ ((offlineAt 1000).save true).2 = .ok () ∧ ∃ new,
      (afterReboot 1000).Waits new (10 * Millis.minute) ∧ ¬ (afterReboot 1000).EndsInTime new (10 * Millis.minute) := by
  have reached : (offlineAt 1000).Reachable := (reachableAlone_onEmptyStore.run (by decide)).reachable
  obtain ⟨new, found, named, disabled, timeout⟩ : ∃ new ∈ (afterReboot 1000).roster.get? ⟨0⟩, new.id = ⟨0⟩ ∧
      new.selection.state = .temporarilyDisabled ∧
      ((afterReboot 1000).settings.rules.rule new.selection.reason).timeout = some (10 * Millis.minute) := by
    decide
  refine ⟨reached, by decide, new, ⟨named ▸ found, disabled, timeout⟩, fun inTime => ?_⟩
  have enabled := inTime (.start 0 1700000000000) (by decide) (.inl rfl)
  have refused : ({ afterReboot 1000 with platform := .start 0 1700000000000 }.tryEnable ⟨0⟩).2 = false := by
    decide
  rw [named, refused] at enabled
  cases enabled

end Manager

end SavedNetworks
