import SavedNetworks.Proofs.Millis
import SavedNetworks.Randomization

/-!
What a lookup of an address does to its source: entries of earlier releases that no address can be made of
are dropped, which changes no later answer. And for how long leases and disconnections keep an address, in the integers.
-/

namespace SavedNetworks

namespace StationAddress

variable {station : StationAddress} {now : Millis} {seconds : UInt32}

theorem address_renew (station : StationAddress) (seconds : UInt32) (now : Millis) :
    (station.renew seconds now).address = station.address := by
  unfold renew renew?
  cases Millis.add? now (leaseDuration seconds) <;> rfl

theorem address_extendAfterDisconnect (station : StationAddress) (now : Millis) :
    (station.extendAfterDisconnect now).address = station.address := by
  unfold extendAfterDisconnect extendAfterDisconnect?
  cases Millis.add? now keptAfterDisconnect <;> rfl

/-- An hour of milliseconds, as an integer. -/
def hour : Int := 3600000

/-- How long a lease keeps an address: as long as it lasts, but half an hour at least and a day at most. -/
def leaseSpan (seconds : UInt32) : Int := min (max (seconds.toNat * 1000) (hour / 2)) (24 * hour)

theorem leaseSpan_bounds (seconds : UInt32) : hour / 2 ≤ leaseSpan seconds ∧ leaseSpan seconds ≤ 24 * hour := by
  unfold leaseSpan hour
  omega

theorem toInt_leaseDuration (seconds : UInt32) : (leaseDuration seconds).toInt = leaseSpan seconds := by
  have asked : (Int64.ofNat seconds.toNat * 1000).toInt = seconds.toNat * 1000 := by
    have small := seconds.toNat_lt
    rw [Int64.toInt_mul, Int64.toInt_ofNat_of_lt (by omega)]
    exact Int.bmod_eq_of_le (by change _ ≤ (_ : Int) * 1000; omega) (by change (_ : Int) * 1000 < _; omega)
  have least : minLease.toInt = hour / 2 := by decide
  have most : maxLease.toInt = 24 * hour := by decide
  rw [leaseDuration, Millis.toInt_min, Millis.toInt_max, asked, least, most, leaseSpan]

theorem toInt_keptAfterDisconnect : keptAfterDisconnect.toInt = 4 * hour := by decide

/-- A lease keeps the address for its duration, unless the sum is too great. -/
theorem renew?_eq_some_iff {renewed : StationAddress} : station.renew? seconds now = some renewed ↔
    renewed.address = station.address ∧ renewed.expiresAt.toInt = now.toInt + leaseSpan seconds := by
  rw [renew?, Option.map_eq_some_iff, ← toInt_leaseDuration]
  simp only [Millis.add?_eq_some_iff]
  constructor
  · rintro ⟨sum, added, rfl⟩
    exact ⟨rfl, added⟩
  · rintro ⟨same, added⟩
    exact ⟨renewed.expiresAt, added, by rw [← same]⟩

theorem extendAfterDisconnect?_eq_some_iff {extended : StationAddress} : station.extendAfterDisconnect? now = some extended ↔
    Millis.Fits (now.toInt + 4 * hour) ∧ extended.address = station.address ∧
      extended.expiresAt.toInt = max station.expiresAt.toInt (now.toInt + 4 * hour) := by
  rw [extendAfterDisconnect?, Option.map_eq_some_iff, ← toInt_keptAfterDisconnect]
  simp only [Millis.add?_eq_some_iff]
  constructor
  · rintro ⟨sum, added, rfl⟩
    exact ⟨added ▸ Millis.fits_toInt sum, rfl, by rw [Millis.toInt_max, added]⟩
  · rintro ⟨fits, same, added⟩
    have sum := Millis.toInt_add_of_fits fits
    refine ⟨now + keptAfterDisconnect, sum, ?_⟩
    have later : max station.expiresAt (now + keptAfterDisconnect) = extended.expiresAt :=
      Int64.toInt_inj.1 (by rw [Millis.toInt_max, sum, added])
    rw [later, ← same]

theorem fits_of_later {span : Int} (positive : 0 ≤ span) (fits : now.toInt + span ≤ Int64.maxValue.toInt) :
    Millis.Fits (now.toInt + span) :=
  ⟨Int.le_trans (Millis.fits_toInt now).1 (by omega), fits⟩

theorem toInt_expiresAt_renew (fits : now.toInt + leaseSpan seconds ≤ Int64.maxValue.toInt) :
    (station.renew seconds now).expiresAt.toInt = now.toInt + leaseSpan seconds := by
  have bounds := leaseSpan_bounds seconds
  unfold hour at bounds
  have sum : Millis.Fits (now.toInt + (leaseDuration seconds).toInt) :=
    fits_of_later (by rw [toInt_leaseDuration]; omega) (by rw [toInt_leaseDuration]; exact fits)
  have renewed : station.renew? seconds now = some { station with expiresAt := now + leaseDuration seconds } :=
    renew?_eq_some_iff.2 ⟨rfl, by rw [Millis.toInt_add_of_fits sum, toInt_leaseDuration]⟩
  rw [renew, renewed]
  exact (renew?_eq_some_iff.1 renewed).2

theorem toInt_expiresAt_extendAfterDisconnect (fits : now.toInt + 4 * hour ≤ Int64.maxValue.toInt) :
    (station.extendAfterDisconnect now).expiresAt.toInt = max station.expiresAt.toInt (now.toInt + 4 * hour) := by
  have sum : Millis.Fits (now.toInt + keptAfterDisconnect.toInt) := fits_of_later (by decide) fits
  have kept : Millis.add? now keptAfterDisconnect = some (now + keptAfterDisconnect) := if_pos sum
  rw [extendAfterDisconnect, extendAfterDisconnect?, kept]
  exact (Millis.toInt_max ..).trans (by rw [Millis.toInt_add_of_fits sum, toInt_keptAfterDisconnect])

end StationAddress

namespace RandomizationPolicy

theorem randomizes {policy : RandomizationPolicy} {profile : Profile}
    (aggressive : policy.isAggressive profile = true) :
    ¬ (!policy.supported || profile.addressChoice == .own) = true := by
  simp only [isAggressive, Bool.and_eq_true, beq_iff_eq] at aggressive
  obtain ⟨⟨⟨supported, persistent⟩, _⟩, _⟩ := aggressive
  simp [supported, persistent]

end RandomizationPolicy

namespace Randomizer

variable {randomizer before middle after : Randomizer} {profile : Profile} {address : Address}

/-- The persistent address of a key: that of a usable legacy entry, or else the derived one. -/
def settled? (randomizer : Randomizer) (key : String) : Option Address :=
  (randomizer.legacy.get? key).bind usable? <|> randomizer.derived? key

/-- Some legacy entries without a usable address are gone; otherwise only random bytes were used. -/
structure Prunes (before after : Randomizer) : Prop where
  policy : after.policy = before.policy
  digest : after.digest = before.digest
  legacy : ∀ key, after.legacy.get? key = before.legacy.get? key ∨
    after.legacy.get? key = none ∧ ∃ stored, before.legacy.get? key = some stored ∧ usable? stored = none

/-- What a profile without an address is given: a fresh one if its network opted in, or else the persistent one of
its key, as long as there is one. -/
def Supplies (randomizer : Randomizer) (profile : Profile) (address : Address) : Prop :=
  if randomizer.policy.isAggressive profile then address.isUsable = true
  else address = (randomizer.settled? profile.key.text).getD profile.station.address

namespace Prunes

theorem refl (randomizer : Randomizer) : randomizer.Prunes randomizer := ⟨rfl, rfl, fun _ => .inl rfl⟩

theorem trans (first : before.Prunes middle) (second : middle.Prunes after) : before.Prunes after := by
  refine ⟨second.policy.trans first.policy, second.digest.trans first.digest, fun key => ?_⟩
  rcases second.legacy key with same | ⟨gone, stored, found, unusable⟩
  · rw [same]
    exact first.legacy key
  · rcases first.legacy key with same | ⟨absent, _⟩
    · exact .inr ⟨gone, stored, same ▸ found, unusable⟩
    · rw [absent] at found
      cases found

theorem settled? (pruned : before.Prunes after) (key : String) : after.settled? key = before.settled? key := by
  have derived : after.derived? key = before.derived? key := by rw [derived?, pruned.digest, derived?]
  unfold Randomizer.settled?
  rw [derived]
  rcases pruned.legacy key with same | ⟨gone, stored, found, unusable⟩
  · rw [same]
  · rw [gone, found, Option.bind_none, Option.bind_some, unusable]

theorem supplies_iff (pruned : before.Prunes after) : after.Supplies profile address ↔ before.Supplies profile address := by
  unfold Supplies
  rw [pruned.policy, pruned.settled?]

end Prunes

theorem persistent_spec (randomizer : Randomizer) (key : String) :
    randomizer.Prunes (randomizer.persistent key).1 ∧ (randomizer.persistent key).2 = randomizer.settled? key := by
  unfold persistent settled?
  cases found : randomizer.legacy.get? key with
  | none => exact ⟨.refl randomizer, rfl⟩
  | some stored =>
      cases read : usable? stored with
      | some address => simp [read, Prunes.refl]
      | none =>
          simp only [read, Option.bind_some]
          refine ⟨⟨rfl, rfl, fun other => ?_⟩, rfl⟩
          rw [SortedMap.get?_erase]
          by_cases same : other = key
          · rw [if_pos same, same]
            exact .inr ⟨rfl, stored, found, read⟩
          · exact .inl (if_neg same)

theorem initial_spec (randomizer : Randomizer) (profile : Profile) :
    randomizer.Prunes (randomizer.initial profile).1 ∧
      randomizer.Supplies profile ((randomizer.initial profile).2.getD profile.station.address) := by
  unfold initial Supplies
  split
  · exact ⟨⟨rfl, rfl, fun _ => .inl rfl⟩, isUsable_drawFresh randomizer⟩
  · obtain ⟨pruned, settled⟩ := persistent_spec randomizer profile.key.text
    exact ⟨pruned, by rw [settled]⟩

/-- The device secret gives the sentinel to a key that has no usable legacy entry. -/
def YieldsSentinel (randomizer : Randomizer) (key : String) : Prop :=
  (randomizer.legacy.get? key).bind usable? = none ∧ randomizer.derived? key = some .sentinel

/-- The device secret gives a usable address to every key. -/
def Reliable (randomizer : Randomizer) : Prop :=
  ∀ key, ∃ address, randomizer.derived? key = some address ∧ address.isUsable = true

/-- What a connection to a network shows is usable: a fresh address, one that is kept and usable, or a persistent one
other than the sentinel. -/
def ShowsUsable (randomizer : Randomizer) (profile : Profile) (now : Millis) : Prop :=
  if randomizer.policy.isAggressive profile then profile.station.expiresAt < now ∨ profile.station.address.isUsable = true
  else ¬ randomizer.YieldsSentinel profile.key.text

theorem Reliable.congr (reliable : before.Reliable) (same : after.digest = before.digest) : after.Reliable := by
  intro key
  unfold derived?
  rw [same]
  exact reliable key

/-- The only address of the device secret that is not usable is the sentinel. -/
theorem isUsable_derived? {key : String} (derived : randomizer.derived? key = some address) :
    address.isUsable = true ↔ address ≠ .sentinel := by
  obtain ⟨bytes, _, six⟩ := Option.bind_eq_some_iff.1 derived
  constructor
  · rintro usable rfl
    revert usable
    decide
  · intro different
    unfold Address.ofBytes? at six
    split at six
    · cases six
      exact Address.isUsable_unicast different
    · cases six

theorem usable_settled?_iff (randomizer : Randomizer) (key : String) :
    (∀ address, randomizer.settled? key = some address → address.isUsable = true) ↔ ¬ randomizer.YieldsSentinel key := by
  unfold settled? YieldsSentinel
  cases legacy : (randomizer.legacy.get? key).bind usable? with
  | some stored =>
      obtain ⟨text, _, read⟩ := Option.bind_eq_some_iff.1 legacy
      simp [isUsable_usable? read]
  | none =>
      cases derived : randomizer.derived? key with
      | none => simp
      | some address => simp [isUsable_derived? derived]

theorem not_yieldsSentinel (reliable : randomizer.Reliable) (key : String) : ¬ randomizer.YieldsSentinel key := by
  rintro ⟨_, sentinel⟩
  obtain ⟨address, derived, usable⟩ := reliable key
  exact (isUsable_derived? sentinel).1 (Option.some.inj (derived.symm.trans sentinel) ▸ usable) rfl

theorem usable_persistent_iff (randomizer : Randomizer) (key : String) :
    (∀ address, (randomizer.persistent key).2 = some address → address.isUsable = true) ↔
      ¬ randomizer.YieldsSentinel key := by
  rw [(persistent_spec randomizer key).2]
  exact usable_settled?_iff randomizer key

theorem usable_initial_iff (randomizer : Randomizer) (profile : Profile) :
    (∀ address, (randomizer.initial profile).2 = some address → address.isUsable = true) ↔
      (randomizer.policy.isAggressive profile = true ∨ ¬ randomizer.YieldsSentinel profile.key.text) := by
  unfold initial
  split
  · next aggressive => simp [aggressive, isUsable_drawFresh]
  · next persistent => simp [persistent, usable_persistent_iff]

theorem usable_forConnection_iff (randomizer : Randomizer) (profile : Profile) (now : Millis) :
    (∀ address, (randomizer.forConnection profile now).2.2 = some address → address.isUsable = true) ↔
      randomizer.ShowsUsable profile now := by
  unfold forConnection ShowsUsable
  simp only
  split
  · split
    · next expired => simp [expired, isUsable_drawFresh]
    · next kept => simp [kept]
  · rw [← usable_persistent_iff]
    generalize randomizer.persistent profile.key.text = settled
    obtain ⟨settled, _ | address⟩ := settled <;> simp

theorem exists_settled? (reliable : randomizer.Reliable) (key : String) :
    ∃ address, randomizer.settled? key = some address ∧ address.isUsable = true := by
  obtain ⟨address, derived, _⟩ := reliable key
  have answered : (randomizer.settled? key).isSome = true := by simp [settled?, derived]
  obtain ⟨given, settled⟩ := Option.isSome_iff_exists.1 answered
  exact ⟨given, settled, (usable_settled?_iff randomizer key).2 (not_yieldsSentinel reliable key) given settled⟩

theorem exists_initial (reliable : randomizer.Reliable) (profile : Profile) :
    ∃ address, (randomizer.initial profile).2 = some address ∧ address.isUsable = true := by
  unfold initial
  split
  · exact ⟨_, rfl, isUsable_drawFresh randomizer⟩
  · rw [(persistent_spec randomizer profile.key.text).2]
    exact exists_settled? reliable profile.key.text

/-- A reliable source keeps a usable address or gives another one. -/
theorem isUsable_forConnection (reliable : randomizer.Reliable) (usable : profile.station.address.isUsable = true)
    (now : Millis) : (randomizer.forConnection profile now).2.1.station.address.isUsable = true := by
  obtain ⟨address, settled, given⟩ := exists_settled? reliable profile.key.text
  rw [← (persistent_spec randomizer profile.key.text).2] at settled
  unfold forConnection
  simp only
  split
  · split
    · exact isUsable_drawFresh randomizer
    · exact usable
  · generalize randomizer.persistent profile.key.text = answer at settled
    obtain ⟨after, shown⟩ := answer
    subst settled
    exact given

theorem prunes_forConnection (randomizer : Randomizer) (profile : Profile) (now : Millis) :
    randomizer.Prunes (randomizer.forConnection profile now).1 := by
  have pruned := (persistent_spec randomizer profile.key.text).1
  unfold forConnection
  simp only
  split
  · split
    · exact ⟨rfl, rfl, fun _ => .inl rfl⟩
    · exact .refl randomizer
  · generalize randomizer.persistent profile.key.text = settled at pruned
    obtain ⟨settled, _ | address⟩ := settled <;> exact pruned

theorem policy_forConnection (randomizer : Randomizer) (profile : Profile) (now : Millis) :
    (randomizer.forConnection profile now).1.policy = randomizer.policy :=
  (prunes_forConnection randomizer profile now).policy

/-- What an attempt to connect shows: the stored address up to its expiry, and a fresh one afterwards. -/
def rotate (randomizer : Randomizer) (station : StationAddress) (now : Millis) : Randomizer × Address :=
  if now.toInt ≤ station.expiresAt.toInt then (randomizer, station.address) else randomizer.drawFresh

theorem rotate_of_le {station : StationAddress} {now : Millis}
    (early : now.toInt ≤ station.expiresAt.toInt) : randomizer.rotate station now = (randomizer, station.address) :=
  if_pos early

theorem rotate_of_lt {station : StationAddress} {now : Millis}
    (late : station.expiresAt.toInt < now.toInt) : randomizer.rotate station now = randomizer.drawFresh :=
  if_neg (Int.not_le.2 late)

theorem policy_rotate (randomizer : Randomizer) (station : StationAddress) (now : Millis) :
    (randomizer.rotate station now).1.policy = randomizer.policy := by
  unfold rotate
  split <;> rfl

theorem forConnection_of_isAggressive (aggressive : randomizer.policy.isAggressive profile = true) (now : Millis) :
    randomizer.forConnection profile now =
      ((randomizer.rotate profile.station now).1,
        { profile with station := { profile.station with address := (randomizer.rotate profile.station now).2 } },
        some (randomizer.rotate profile.station now).2) := by
  unfold forConnection
  rw [if_pos aggressive]
  by_cases late : profile.station.expiresAt < now
  · rw [if_pos late, rotate_of_lt (Int64.lt_iff_toInt_lt.1 late)]
  · rw [if_neg late, rotate_of_le (Int.not_lt.1 (mt Int64.lt_iff_toInt_lt.2 late))]

end Randomizer

end SavedNetworks
