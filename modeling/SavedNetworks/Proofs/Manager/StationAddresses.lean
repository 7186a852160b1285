import SavedNetworks.Proofs.Manager.StoredAddresses

/-!
Which station addresses are usable (`Manager.usableAddresses_iff`). The device secret may give the sentinel to a key, and an
address that is kept until it expires is as usable as when it was stored: a record without an address that is taken in late
lends the sentinel to connections.
-/

namespace SavedNetworks.Manager

variable {manager : Manager} {id : ProfileId}

/-- What the manager shows is usable if the profile shows the station's own address or a usable one of its network. -/
theorem usable_connectionAddress_iff (manager : Manager) (id : ProfileId) :
    (∀ address, (manager.connectionAddress id).2 = some address → address.isUsable = true) ↔
      ∀ profile, manager.roster.get? id = some profile → manager.randomizer.policy.supported = true →
        profile.addressChoice ≠ .own → manager.randomizer.ShowsUsable profile manager.platform.wall := by
  unfold connectionAddress
  cases found : manager.roster.get? id with
  | none => simp
  | some profile =>
      simp only [Option.some.injEq, forall_eq']
      by_cases own : (!manager.randomizer.policy.supported || profile.addressChoice == .own) = true
      · rw [if_pos own]
        simp only [Bool.or_eq_true, Bool.not_eq_true', beq_iff_eq] at own
        rcases own with unsupported | own
        · simp [unsupported]
        · simp [own]
      · rw [if_neg own]
        simp only [Bool.or_eq_true, Bool.not_eq_true', beq_iff_eq, not_or, Bool.not_eq_false] at own
        have shown := Randomizer.usable_forConnection_iff manager.randomizer profile manager.platform.wall
        exact shown.trans ⟨fun usable _ _ => usable, fun usable => usable own.1 own.2⟩

theorem Addressed.isUsable (addressed : manager.Addressed) {address : Address}
    (shown : (manager.connectionAddress id).2 = some address) : address.isUsable = true := by
  refine (usable_connectionAddress_iff manager id).2 (fun profile found _ _ => ?_) address shown
  unfold Randomizer.ShowsUsable
  split
  · exact .inr (addressed.everywhere.memory profile (Roster.mem_of_get? found))
  · exact Randomizer.not_yieldsSentinel addressed.reliable profile.key.text

/-- Every address is usable but for the sentinel of the device secret, and for one that was stored and has not expired.
In a run with neither, there are usable addresses throughout. -/
theorem usableAddresses_iff (randomizer : Randomizer) (manager : Manager) :
    (∀ key, (∀ address, (randomizer.persistent key).2 = some address → address.isUsable = true) ↔
      ¬ randomizer.YieldsSentinel key) ∧
    (∀ profile, (∀ address, (randomizer.initial profile).2 = some address → address.isUsable = true) ↔
      (randomizer.policy.isAggressive profile = true ∨ ¬ randomizer.YieldsSentinel profile.key.text)) ∧
    (∀ profile now, (∀ address, (randomizer.forConnection profile now).2.2 = some address → address.isUsable = true) ↔
      randomizer.ShowsUsable profile now) ∧
    (∀ id,
      (∀ address, (manager.connectionAddress id).2 = some address → address.isUsable = true) ↔
        ∀ profile, manager.roster.get? id = some profile → manager.randomizer.policy.supported = true →
          profile.addressChoice ≠ .own → manager.randomizer.ShowsUsable profile manager.platform.wall) ∧
    ∀ (settings : Settings) (platform : Platform) (store : Store) (listeners : List Listener)
      (digest : String → Option (List UInt8)) (random : List UInt8) (operations : List Operation),
      store.Addressed → (∀ key, ∃ address, (digest key).bind Address.ofBytes? = some address ∧ address ≠ .sentinel) →
        (∀ operation ∈ operations, operation.WritesAddresses) →
          (∀ profile ∈ ((start settings platform store listeners digest random).run operations).roster.all,
            profile.HasAddress) ∧
          ∀ id address, (((start settings platform store listeners digest random).run operations).connectionAddress id).2 =
            some address → address.isUsable = true := by
  refine ⟨randomizer.usable_persistent_iff, randomizer.usable_initial_iff, randomizer.usable_forConnection_iff,
    manager.usable_connectionAddress_iff, ?_⟩
  intro settings platform store listeners digest random operations stored secret writes
  have reliable : (Randomizer.ofPolicy settings.randomizationPolicy digest random).Reliable := by
    intro key
    obtain ⟨address, derived, different⟩ := secret key
    have given : (Randomizer.ofPolicy settings.randomizationPolicy digest random).derived? key = some address := derived
    exact ⟨address, given, (Randomizer.isUsable_derived? given).2 different⟩
  have addressed := addressed_run (addressed_start settings platform stored listeners random reliable) writes
  exact ⟨addressed.everywhere.memory, fun id address => addressed.isUsable⟩

/-- The network Cafe opted into fresh addresses. -/
def freshAtCafe : Settings := { Settings.default with deviceAllowed := .ofList ["Cafe"] }

/-- A device secret that gives every key the same address. -/
def sameForAll : String → Option (List UInt8) := fun _ => some [2, 1, 2, 3, 4, 5]

def beforeCafe : Manager := start freshAtCafe (.start 0 1700000000000) (.immediate .empty) [] sameForAll []

def joiningCafe : List Operation :=
  [.load, .addOrUpdate (.unsecured "Cafe") ⟨Uid.system, "android"⟩, .connectionAddress ⟨0⟩, .recordDisconnected ⟨0⟩]

theorem usableAddresses_atCafe :
    ∃ address, ((beforeCafe.run joiningCafe).connectionAddress ⟨0⟩).2 = some address ∧ address.isUsable = true := by
  obtain ⟨_, _, _, _, run⟩ := usableAddresses_iff beforeCafe.randomizer beforeCafe
  have stored : (Store.immediate .empty).Addressed :=
    ⟨fun _ listed => absurd listed List.not_mem_nil, fun _ _ listed => absurd listed List.not_mem_nil⟩
  have secret : ∀ key, ∃ address, (sameForAll key).bind Address.ofBytes? = some address ∧ address ≠ .sentinel :=
    fun _ => ⟨⟨#v[2, 1, 2, 3, 4, 5]⟩, rfl, by simp [Address.sentinel]⟩
  have writes : ∀ operation ∈ joiningCafe, operation.WritesAddresses := by
    simp [joiningCafe, Operation.WritesAddresses]
  have usable := (run freshAtCafe (.start 0 1700000000000) _ [] sameForAll [] joiningCafe stored secret writes).2 ⟨0⟩
  have answered : ((beforeCafe.run joiningCafe).connectionAddress ⟨0⟩).2.isSome = true := by decide
  obtain ⟨address, shown⟩ := Option.isSome_iff_exists.1 answered
  exact ⟨address, shown, usable address shown⟩

/-- A private record of Cafe without an address. -/
def unaddressed : StoreData :=
  ⟨[], ⟨[{ Profile.blank "Cafe" .unsecured with shared := false, creator := ⟨Uid.system, "android"⟩ }], .empty⟩, .empty⟩

/-- The record is taken in by an unlock after the load, and the network is left. -/
def unlockedLate : Manager :=
  (start freshAtCafe (.start 0 1700000000000) ((Store.immediate .empty).writeOutside (some 0) unaddressed) [] sameForAll
    []).run [.change (.lock 0), .load, .change (.unlock 0), .unlockTenant 0, .recordDisconnected ⟨0⟩]

/-- The sentinel is shown, although the device secret gives it to no key; and a secret of zeros gives it to every key. -/
theorem not_usableAddresses_unlockedLate : unlockedLate.Reachable ∧
    (∀ key, unlockedLate.randomizer.digest key = some [2, 1, 2, 3, 4, 5]) ∧
    (unlockedLate.connectionAddress ⟨0⟩).2 = some .sentinel ∧
    (∀ key, ((Randomizer.ofPolicy freshAtCafe.randomizationPolicy (fun _ => some [0, 0, 0, 0, 0, 0]) []).persistent key).2 =
      some .sentinel) ∧
    Address.isUsable .sentinel = false := by
  have started : (start freshAtCafe (.start 0 1700000000000) ((Store.immediate .empty).writeOutside (some 0) unaddressed) []
      sameForAll []).Reachable := .start ..
  have zeros : Address.ofBytes? [0, 0, 0, 0, 0, 0] = some .sentinel := by decide
  exact ⟨started.run (by decide), fun _ => rfl, by decide, fun _ => zeros, by decide⟩

end SavedNetworks.Manager
