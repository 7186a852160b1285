import SavedNetworks.Manager.Operation
import SavedNetworks.Proofs.Randomization
import SavedNetworks.Proofs.Selection.Backoff

/-!
Times that are too far apart. Where an age or an expiry is no time, the program stops, and integers would decide. This is
when that happens (`decidesExactly_iff`).
-/

namespace SavedNetworks

open StationAddress (hour leaseSpan)
open Millis (age)

namespace Rules

variable {rules : Rules} {status : SelectionStatus} {now : Millis} {blocked : UInt32}

/-- The status is temporarily disabled and its wait is over, in the integers. -/
def Due (rules : Rules) (status : SelectionStatus) (now : Millis) (blocked : Nat) : Prop :=
  status.isTemporarilyDisabled = true ∧
    ∃ wait ∈ (rules.rule status.reason).wait? (min blocked 10), wait ≤ status.lasted now

instance (rules : Rules) (status : SelectionStatus) (now : Millis) (blocked : Nat) :
    Decidable (rules.Due status now blocked) := inferInstanceAs (Decidable (_ ∧ _))

/-- A poll enables a status that is due in the integers, and leaves every other one alone. -/
def PollsExactly (rules : Rules) (status : SelectionStatus) (now : Millis) (blocked : UInt32) : Prop :=
  rules.tryEnable? status now blocked =
    some (if rules.Due status now blocked.toNat then (status.readied, .enabled) else (status, .unchanged))

instance (rules : Rules) (status : SelectionStatus) (now : Millis) (blocked : UInt32) :
    Decidable (rules.PollsExactly status now blocked) := inferInstanceAs (Decidable (_ = _))

/-- A temporary disabling that is not for ever has lasted longer than any time; or as long as any time, which is less than its
wait. -/
def OutOfRange (rules : Rules) (status : SelectionStatus) (now : Millis) (blocked : Nat) : Prop :=
  status.isTemporarilyDisabled = true ∧ ∃ wait ∈ (rules.rule status.reason).wait? (min blocked 10),
    Int64.maxValue.toInt < status.lasted now ∨
      status.lasted now = Int64.maxValue.toInt ∧ Int64.maxValue.toInt < wait

instance (rules : Rules) (status : SelectionStatus) (now : Millis) (blocked : Nat) :
    Decidable (rules.OutOfRange status now blocked) := inferInstanceAs (Decidable (_ ∧ _))

theorem tryEnable?_of_wait {wait : Int} (disabled : status.isTemporarilyDisabled = true) (nonneg : 0 ≤ wait)
    (lasts : (rules.rule status.reason).wait? (min blocked.toNat 10) = some wait) :
    rules.tryEnable? status now blocked = (Millis.sub? now (status.disabledAt.getD now)).map fun passed =>
      if min wait Int64.maxValue.toInt ≤ passed.toInt then (status.readied, .enabled) else (status, .unchanged) := by
  rw [tryEnable?, if_pos disabled, backoff?_eq, lasts]
  simp only [Option.map_some, SelectionStatus.force_enable_of_disabled disabled, Int64.le_iff_toInt_le,
    Millis.toInt_saturate_of_nonneg nonneg]

theorem tryEnable?_of_not_ends (endless : (rules.rule status.reason).wait? (min blocked.toNat 10) = none) :
    rules.tryEnable? status now blocked = some (status, .unchanged) := by
  rw [tryEnable?, backoff?_eq, endless]
  exact ite_self _

theorem pollsExactly_iff (nonneg : ∀ base ∈ (rules.rule status.reason).timeout, 0 ≤ base) (reading : 0 ≤ now.toInt) :
    rules.PollsExactly status now blocked ↔ ¬ rules.OutOfRange status now blocked.toNat := by
  by_cases disabled : status.isTemporarilyDisabled = true
  · cases lasts : (rules.rule status.reason).wait? (min blocked.toNat 10) with
    | none =>
        rw [PollsExactly, tryEnable?_of_not_ends lasts]
        simp [Due, OutOfRange, lasts]
    | some wait =>
        have due : rules.Due status now blocked.toNat ↔ wait ≤ status.lasted now := by simp [Due, disabled, lasts]
        have apart : rules.OutOfRange status now blocked.toNat ↔ Int64.maxValue.toInt < status.lasted now ∨
            status.lasted now = Int64.maxValue.toInt ∧ Int64.maxValue.toInt < wait := by
          simp [OutOfRange, disabled, lasts]
        rw [PollsExactly, tryEnable?_of_wait disabled (Rule.wait?_nonneg nonneg _ wait lasts) lasts, apart]
        simp only [due]
        cases passes : Millis.sub? now (status.disabledAt.getD now) with
        | none =>
            have exceeds : Int64.maxValue.toInt < status.lasted now := (Millis.sub?_eq_none_iff_lt_age reading).1 passes
            exact iff_of_false nofun fun within => within (.inl exceeds)
        | some passed =>
            have lasted : passed.toInt = status.lasted now := Millis.sub?_eq_some_iff.1 passes
            have most := (Millis.fits_toInt passed).2
            have same : (min wait Int64.maxValue.toInt ≤ passed.toInt ↔ wait ≤ status.lasted now) ↔
                ¬ (Int64.maxValue.toInt < status.lasted now ∨
                  status.lasted now = Int64.maxValue.toInt ∧ Int64.maxValue.toInt < wait) := by omega
            rw [← same, Option.map_some, Option.some.injEq]
            by_cases released : min wait Int64.maxValue.toInt ≤ passed.toInt <;> by_cases ended : wait ≤ status.lasted now <;>
              simp [released, ended]
  · rw [PollsExactly, tryEnable?, if_neg disabled]
    simp [Due, OutOfRange, disabled]

end Rules

/-- A dismissal is remembered as long as its age in the integers does not exceed the expiry. -/
def Manager.ChecksExactly (manager : Manager) (ssid : String) : Prop :=
  (manager.checkDismissal? ssid).map Prod.snd = some ((manager.dismissed.get? ssid).any fun dismissedAt =>
    age dismissedAt manager.platform.wall ≤ manager.settings.dismissalExpiry.toInt)

theorem Manager.checksExactly_iff (manager : Manager) (ssid : String) (reading : 0 ≤ manager.platform.wall.toInt) :
    manager.ChecksExactly ssid ↔
      ∀ dismissedAt ∈ manager.dismissed.get? ssid, age dismissedAt manager.platform.wall ≤ Int64.maxValue.toInt := by
  unfold ChecksExactly checkDismissal?
  cases manager.dismissed.get? ssid with
  | none => simp
  | some dismissedAt =>
      simp only
      cases passes : Millis.sub? manager.platform.wall dismissedAt with
      | none => simpa using (Millis.sub?_eq_none_iff_lt_age reading).1 passes
      | some passed =>
          have lasts : passed ≤ manager.settings.dismissalExpiry ↔
              age dismissedAt manager.platform.wall ≤ manager.settings.dismissalExpiry.toInt := by
            rw [Int64.le_iff_toInt_le, Millis.sub?_eq_some_iff.1 passes, age]
          refine iff_of_true ?_ (by simpa using Millis.age_le_of_sub? passes)
          by_cases kept : passed ≤ manager.settings.dismissalExpiry
          · simp [kept, lasts.1 kept]
          · simp only [Option.map_some, if_neg kept, Option.any_some, Option.some.injEq, decide_eq_false (lasts.not.1 kept)]
            split <;> rfl

/-- A sighting is fresh if its age in the integers is below the limit. -/
def Sighting.AgesExactly (sighting : Sighting) (now maxAge : Millis) : Prop :=
  SightingCache.isFresh? now maxAge sighting = some (decide (age sighting.seenAt now < maxAge.toInt))

instance (sighting : Sighting) (now maxAge : Millis) : Decidable (sighting.AgesExactly now maxAge) :=
  inferInstanceAs (Decidable (_ = _))

theorem Sighting.agesExactly_iff (sighting : Sighting) {now : Millis} (maxAge : Millis) (reading : 0 ≤ now.toInt) :
    sighting.AgesExactly now maxAge ↔ age sighting.seenAt now ≤ Int64.maxValue.toInt := by
  unfold AgesExactly SightingCache.isFresh?
  cases passes : Millis.sub? now sighting.seenAt with
  | none => exact iff_of_false nofun (Int.not_le.2 ((Millis.sub?_eq_none_iff_lt_age reading).1 passes))
  | some passed =>
      have younger : passed < maxAge ↔ age sighting.seenAt now < maxAge.toInt := by
        rw [Int64.lt_iff_toInt_lt, Millis.sub?_eq_some_iff.1 passes, age]
      exact iff_of_true (congrArg some (decide_eq_decide.2 younger)) (Millis.age_le_of_sub? passes)

namespace StationAddress

variable {station : StationAddress} {seconds : UInt32} {now : Millis}

/-- The expiry after a lease is that of the integers, or the greatest time. -/
def RenewsExactly (station : StationAddress) (seconds : UInt32) (now : Millis) : Prop :=
  station.renew? seconds now = some { station with expiresAt := Millis.saturate (now.toInt + leaseSpan seconds) }

instance (station : StationAddress) (seconds : UInt32) (now : Millis) : Decidable (station.RenewsExactly seconds now) :=
  inferInstanceAs (Decidable (_ = _))

/-- The expiry after a disconnection is that of the integers, or the greatest time. -/
def ExtendsExactly (station : StationAddress) (now : Millis) : Prop :=
  station.extendAfterDisconnect? now =
    some { station with expiresAt := Millis.saturate (max station.expiresAt.toInt (now.toInt + 4 * hour)) }

instance (station : StationAddress) (now : Millis) : Decidable (station.ExtendsExactly now) :=
  inferInstanceAs (Decidable (_ = _))

theorem renewsExactly_iff (station : StationAddress) (seconds : UInt32) (reading : 0 ≤ now.toInt) :
    station.RenewsExactly seconds now ↔ now.toInt + leaseSpan seconds ≤ Int64.maxValue.toInt := by
  have bounds := leaseSpan_bounds seconds
  unfold hour at bounds
  rw [RenewsExactly, renew?_eq_some_iff, and_iff_right rfl, Millis.toInt_saturate_of_nonneg (by omega)]
  omega

theorem extendsExactly_iff (station : StationAddress) (reading : 0 ≤ now.toInt) :
    station.ExtendsExactly now ↔ now.toInt + 4 * hour ≤ Int64.maxValue.toInt := by
  have stored := (Millis.fits_toInt station.expiresAt).2
  have fits : Millis.Fits (now.toInt + 4 * hour) ↔ now.toInt + 4 * hour ≤ Int64.maxValue.toInt :=
    ⟨And.right, fits_of_later (by decide)⟩
  have positive : 0 ≤ max station.expiresAt.toInt (now.toInt + 4 * hour) := by
    unfold hour
    omega
  rw [ExtendsExactly, extendAfterDisconnect?_eq_some_iff, and_iff_right rfl, Millis.toInt_saturate_of_nonneg positive, fits]
  omega

end StationAddress

/-- At a reading of the clock that is not negative, a decision is that of the integers unless an age is too great for a
time, and an expiry is that of the integers, or the greatest time, unless the sum is too great. -/
theorem decidesExactly_iff {now : Millis} (reading : 0 ≤ now.toInt) :
    (∀ overrides status blocked, (Rules.ofOverrides overrides).PollsExactly status now blocked ↔
      ¬ (Rules.ofOverrides overrides).OutOfRange status now blocked.toNat) ∧
    (∀ manager : Manager, manager.platform.wall = now → ∀ ssid, manager.ChecksExactly ssid ↔
      ∀ dismissedAt ∈ manager.dismissed.get? ssid, age dismissedAt now ≤ Int64.maxValue.toInt) ∧
    (∀ (sighting : Sighting) maxAge, sighting.AgesExactly now maxAge ↔ age sighting.seenAt now ≤ Int64.maxValue.toInt) ∧
    (∀ (station : StationAddress) seconds, station.RenewsExactly seconds now ↔
      now.toInt + leaseSpan seconds ≤ Int64.maxValue.toInt) ∧
    (∀ station : StationAddress, station.ExtendsExactly now ↔ now.toInt + 4 * hour ≤ Int64.maxValue.toInt) := by
  refine ⟨?polls, ?checks, ?ages, ?renews, ?lengthens⟩
  case polls => exact fun overrides status _ => Rules.pollsExactly_iff (Rules.timeout_nonneg overrides status.reason) reading
  case checks =>
    rintro manager rfl ssid
    exact manager.checksExactly_iff ssid reading
  case ages => exact fun sighting maxAge => sighting.agesExactly_iff maxAge reading
  case renews => exact fun station seconds => station.renewsExactly_iff seconds reading
  case lengthens => exact fun station => station.extendsExactly_iff reading

/-- A status that was disabled at some time for want of a lease. -/
def disabledSince (since : Millis) : SelectionStatus :=
  { SelectionStatus.initial with state := .temporarilyDisabled, reason := .dhcpFailure, disabledAt := some since }

/-- A manager that has loaded the dismissal of Cafe at some time. -/
def cafeDismissedAt (since wall : Millis) : Manager :=
  (Manager.start .default (.start 0 wall)
    ((Store.immediate .empty).writeOutside (some 0) ⟨[], ⟨[], .ofList [("Cafe", since)]⟩, .empty⟩) []
    (fun _ => none) []).run [.load]

/-- A sighting at some time. -/
def seenAt (moment : Millis) : Sighting :=
  ⟨"Cafe", ⟨#v[0x00, 0x24, 0x01, 0x10, 0x20, 0x02]⟩, .unsecured, -50, 2412, moment, moment, false⟩

/-- Times of one day are decided on as they should be. -/
theorem decidesExactly_withinDay : 0 ≤ (1700000000000 : Millis).toInt ∧
    (Rules.ofOverrides .empty).PollsExactly (disabledSince 1699999400000) 1700000000000 2 ∧
    (cafeDismissedAt 1699920000000 1700000000000).ChecksExactly "Cafe" ∧
    (seenAt 1699999990000).AgesExactly 1700000000000 60000 ∧
    (⟨.sentinel, 1700000000000⟩ : StationAddress).RenewsExactly 3600 1700000000000 ∧
    (⟨.sentinel, 1700000000000⟩ : StationAddress).ExtendsExactly 1700000000000 := by
  have reading : 0 ≤ (1700000000000 : Millis).toInt := by decide
  obtain ⟨polls, checks, ages, renews, lengthens⟩ := decidesExactly_iff reading
  refine ⟨reading, (polls _ _ _).2 (by decide), ?_, (ages _ _).2 (by decide), (renews _ _).2 (by decide),
    (lengthens _).2 (by decide)⟩
  refine (checks _ (by decide) _).2 fun dismissedAt noted => ?_
  have known : (cafeDismissedAt 1699920000000 1700000000000).dismissed.get? "Cafe" = some 1699920000000 := by decide
  obtain rfl := Option.some.inj (known.symm.trans noted)
  decide

/-- The program stops on the status, the dismissal and the sighting of long ago, and on the expiries at the end of time. -/
theorem not_decidesExactly_farApart :
    ¬ (Rules.ofOverrides .empty).PollsExactly (disabledSince Int64.minValue) 0 0 ∧
    ¬ (cafeDismissedAt Int64.minValue 1700000000000).ChecksExactly "Cafe" ∧
    ¬ (seenAt Int64.minValue).AgesExactly 1700000000000 60000 ∧
    ¬ (⟨.sentinel, 0⟩ : StationAddress).RenewsExactly 60 Int64.maxValue ∧
    ¬ (⟨.sentinel, 0⟩ : StationAddress).ExtendsExactly Int64.maxValue := by
  refine ⟨by decide, fun exactly => ?_, by decide, by decide, by decide⟩
  have stops : (cafeDismissedAt Int64.minValue 1700000000000).checkDismissal? "Cafe" = none := by
    have known : (cafeDismissedAt Int64.minValue 1700000000000).dismissed.get? "Cafe" = some Int64.minValue := by decide
    have apart : Millis.sub? (cafeDismissedAt Int64.minValue 1700000000000).platform.wall Int64.minValue = none := by decide
    simp only [Manager.checkDismissal?, known, apart, Option.map_none]
  rw [Manager.ChecksExactly, stops] at exactly
  cases exactly

end SavedNetworks
