import SavedNetworks.Proofs.Manager.Additions
import SavedNetworks.Proofs.Manager.Runs
import SavedNetworks.Proofs.Manager.StationAddresses

/-!
The fresh addresses of a network over time (`Manager.rotatesOnTime`): when attempts to connect keep the stored address and
when they replace it, while leases set its expiry and disconnections raise it.
-/

namespace SavedNetworks

open StationAddress (hour leaseSpan)

/-- What bears on the address of a network that opted into fresh ones. -/
inductive AddressEvent where
  | attempt
  | lease (seconds : UInt32)
  | disconnect
deriving DecidableEq

namespace AddressEvent

def operation (id : ProfileId) : AddressEvent → Operation
  | attempt => .connectionAddress id
  | lease seconds => .renewLease id seconds
  | disconnect => .recordDisconnected id

def isLease : AddressEvent → Bool
  | lease _ => true
  | _ => false

/-- How far ahead of its own time an event may put the expiry. -/
def span : AddressEvent → Int
  | attempt => 0
  | lease seconds => leaseSpan seconds
  | disconnect => 4 * hour

/-- The expiry after an event, by its time and the expiry before it. -/
def expiry (time before : Int) : AddressEvent → Int
  | attempt => before
  | lease seconds => time + leaseSpan seconds
  | disconnect => max before (time + 4 * hour)

theorem span_le (event : AddressEvent) : event.span ≤ 24 * hour := by
  cases event with
  | lease seconds => exact (StationAddress.leaseSpan_bounds seconds).2
  | attempt | disconnect => simp [span, hour]

theorem expiry_le (event : AddressEvent) (time before : Int) :
    event.expiry time before ≤ max before (time + event.span) := by
  cases event <;> simp only [expiry, span] <;> omega

theorem le_expiry {event : AddressEvent} (kept : event.isLease = false) (time before : Int) :
    before ≤ event.expiry time before := by
  cases event with
  | attempt => exact Int.le_refl before
  | lease => cases kept
  | disconnect => exact Int.le_max_left ..

end AddressEvent

/-- The events of one network with their times. -/
abbrev AddressTimeline := List (Millis × AddressEvent)

namespace AddressTimeline

variable {events : AddressTimeline} {start limit : Int}

def operations (events : AddressTimeline) (id : ProfileId) : List Operation :=
  events.flatMap fun entry => [.change (.setWall entry.1), entry.2.operation id]

/-- The expiry after all of the events. -/
def expiry (start : Int) (events : AddressTimeline) : Int :=
  events.foldl (fun before entry => entry.2.expiry entry.1.toInt before) start

/-- No time of an expiry is out of range. -/
def Fits (events : AddressTimeline) : Prop := ∀ entry ∈ events, entry.1.toInt + entry.2.span ≤ Int64.maxValue.toInt

/-- Every attempt comes before the address has expired. -/
def InTime (start : Int) (events : AddressTimeline) : Prop :=
  ∀ before time after, events = before ++ (time, .attempt) :: after → time.toInt ≤ expiry start before

/-- The last of the events that may put the expiry off. -/
def lastRenewal? (events : AddressTimeline) : Option (Millis × AddressEvent) :=
  (events.filter (·.2 ≠ .attempt)).getLast?

/-- Without leases the expiry only grows. -/
theorem le_expiry (kept : ∀ entry ∈ events, entry.2.isLease = false) : start ≤ expiry start events := by
  induction events generalizing start with
  | nil => exact Int.le_refl start
  | cons entry rest ih =>
      rw [List.forall_mem_cons] at kept
      exact Int.le_trans (AddressEvent.le_expiry kept.1 ..) (ih kept.2)

theorem expiry_le (started : start ≤ limit)
    (renewals : ∀ entry ∈ events, entry.2 ≠ .attempt → entry.1.toInt + 24 * hour ≤ limit) : expiry start events ≤ limit := by
  induction events generalizing start with
  | nil => exact started
  | cons entry rest ih =>
      rw [List.forall_mem_cons] at renewals
      have moved : entry.2.expiry entry.1.toInt start ≤ limit := by
        by_cases attempt : entry.2 = .attempt
        · rw [attempt]
          exact started
        · have reached := entry.2.expiry_le entry.1.toInt start
          have near := entry.2.span_le
          have early := renewals.1 attempt
          omega
      exact ih moved renewals.2

theorem inTime_of_le (started : limit ≤ start)
    (kept : ∀ entry ∈ events, entry.2.isLease = false ∧ entry.1.toInt ≤ limit) : InTime start events := by
  rintro before time after rfl
  simp only [List.forall_mem_append, List.forall_mem_cons] at kept
  have grown : start ≤ expiry start before := le_expiry fun entry listed => (kept.1 entry listed).1
  have early := kept.2.1.2
  omega

/-- In order of time, no renewal is later than the last one. -/
theorem exists_lastRenewal (ordered : events.Pairwise (·.1 ≤ ·.1)) {entry : Millis × AddressEvent} (listed : entry ∈ events)
    (renewal : entry.2 ≠ .attempt) : ∃ last, events.lastRenewal? = some last ∧ entry.1.toInt ≤ last.1.toInt := by
  have among : entry ∈ events.filter (·.2 ≠ .attempt) := List.mem_filter.2 ⟨listed, by simpa using renewal⟩
  have still := ordered.filter (·.2 ≠ .attempt)
  unfold lastRenewal?
  rcases List.eq_nil_or_concat (events.filter (·.2 ≠ .attempt)) with none | ⟨earlier, last, some⟩
  · rw [none] at among
    cases among
  · rw [some] at among still ⊢
    refine ⟨last, by simp, ?_⟩
    rcases List.mem_append.1 (List.concat_eq_append ▸ among) with before | same
    · rw [List.concat_eq_append, List.pairwise_append] at still
      exact Int64.le_iff_toInt_le.1 (still.2.2 entry before last List.mem_cons_self)
    · obtain rfl := List.mem_singleton.1 same
      exact Int.le_refl _

/-- A day after the last renewal the address has expired, once the expiry at the start is over too. -/
theorem expiry_lt_of_renewed (ordered : events.Pairwise (·.1 ≤ ·.1)) (started : start < limit)
    (renewed : ∀ last, events.lastRenewal? = some last → last.1.toInt + 24 * hour < limit) : expiry start events < limit := by
  refine Int.le_sub_one_iff.1 (expiry_le (Int.le_sub_one_iff.2 started) fun entry listed renewal => ?_)
  obtain ⟨last, found, before⟩ := exists_lastRenewal ordered listed renewal
  have ended := renewed last found
  omega

end AddressTimeline

namespace Manager

variable {manager : Manager} {id : ProfileId} {station : StationAddress} {events : AddressTimeline} {time : Millis}

def station? (manager : Manager) (id : ProfileId) : Option StationAddress := (manager.roster.get? id).map Profile.station

/-- The manager after the events of a network. -/
def afterEvents (manager : Manager) (id : ProfileId) (events : AddressTimeline) : Manager :=
  manager.run (events.operations id)

theorem afterEvents_append (manager : Manager) (id : ProfileId) (before after : AddressTimeline) :
    manager.afterEvents id (before ++ after) = (manager.afterEvents id before).afterEvents id after := by
  rw [afterEvents, AddressTimeline.operations, List.flatMap_append]
  exact manager.run_append ..

theorem afterEvents_cons (manager : Manager) (id : ProfileId) (time : Millis) (event : AddressEvent) (rest : AddressTimeline) :
    manager.afterEvents id ((time, event) :: rest) =
      ((manager.undergo (.setWall time)).perform (event.operation id)).1.afterEvents id rest := rfl

/-- An attempt to connect shows an address and stores it, with the expiry as it is. -/
structure Shows (asked : Manager) (id : ProfileId) (drawn : Randomizer × Address) : Prop where
  shown : (asked.connectionAddress id).2 = some drawn.2
  source : (asked.connectionAddress id).1.randomizer = drawn.1
  stored : ∃ station, asked.station? id = some station ∧
    (asked.connectionAddress id).1.station? id = some { station with address := drawn.2 }

/-- The network opted into fresh addresses, and this is the one that it has now. -/
def Rotates (manager : Manager) (id : ProfileId) (station : StationAddress) : Prop :=
  ∃ profile, manager.roster.get? id = some profile ∧ manager.randomizer.policy.isAggressive profile = true ∧
    profile.station = station

namespace Rotates

theorem station? (rotates : manager.Rotates id station) : manager.station? id = some station := by
  obtain ⟨profile, found, _, stored⟩ := rotates
  rw [Manager.station?, found, Option.map_some, stored]

theorem setWall (rotates : manager.Rotates id station) (time : Millis) :
    (manager.undergo (.setWall time)).Rotates id station := rotates

theorem isAggressive (rotates : manager.Rotates id station) : manager.isAggressive id = true := by
  obtain ⟨profile, found, aggressive, _⟩ := rotates
  rw [Manager.isAggressive, found, Option.any_some, aggressive]

/-- A change of the profile that leaves to it what the policy and the tenants go by. -/
theorem modify (rotates : manager.Rotates id station) {change : Profile → Profile} {next : StationAddress}
    (visible : ∀ profile, manager.roster.isVisible (change profile) = manager.roster.isVisible profile)
    (policy : ∀ profile, manager.randomizer.policy.isAggressive (change profile) =
      manager.randomizer.policy.isAggressive profile)
    (moved : ∀ profile : Profile, profile.station = station → (change profile).station = next) :
    (manager.modify id change).Rotates id next := by
  obtain ⟨profile, found, aggressive, stored⟩ := rotates
  refine ⟨change profile, ?_, (policy profile).trans aggressive, moved profile stored⟩
  have once : manager.roster.modify id change = manager.roster.modify id fun _ => change profile := by
    rw [Roster.modify, Roster.modify, found]
  change (manager.roster.modify id change).get? id = _
  rw [once]
  exact Roster.get?_modify_self found ((visible profile).trans (Roster.get?_eq_some.1 found).2)

theorem renewLease (rotates : manager.Rotates id station) (seconds : UInt32) :
    (manager.renewLease id seconds).1.Rotates id (station.renew seconds manager.platform.wall) := by
  rw [Manager.renewLease, if_pos rotates.isAggressive]
  exact rotates.modify (fun _ => rfl) (fun _ => rfl) fun _ stored => by rw [← stored]

theorem recordDisconnected (rotates : manager.Rotates id station) :
    (manager.recordDisconnected id).1.Rotates id (station.extendAfterDisconnect manager.platform.wall) := by
  have ⟨profile, found, _⟩ := rotates
  unfold Manager.recordDisconnected noteStored
  rw [found]
  change ((manager.modify id _).persist false).Rotates id _
  rw [persist_eq]
  exact rotates.modify (fun _ => rfl) (fun _ => rfl) fun _ stored => by rw [← stored]

/-- The address is kept up to its expiry, and replaced by a fresh one from then on. -/
theorem connectionAddress (rotates : manager.Rotates id station) :
    manager.Shows id (manager.randomizer.rotate station manager.platform.wall) ∧
      (manager.connectionAddress id).1.Rotates id
        { station with address := (manager.randomizer.rotate station manager.platform.wall).2 } := by
  have known := rotates.station?
  obtain ⟨profile, found, aggressive, rfl⟩ := rotates
  have policy := manager.randomizer.policy_rotate profile.station manager.platform.wall
  have answered : manager.connectionAddress id =
      ({ manager with randomizer := (manager.randomizer.rotate profile.station manager.platform.wall).1 }.modify id fun _ =>
        { profile with
          station :=
            { profile.station with
              address := (manager.randomizer.rotate profile.station manager.platform.wall).2 } },
        some (manager.randomizer.rotate profile.station manager.platform.wall).2) := by
    unfold Manager.connectionAddress
    rw [found]
    simp only [if_neg (RandomizationPolicy.randomizes aggressive), Randomizer.forConnection_of_isAggressive aggressive]
  generalize manager.randomizer.rotate profile.station manager.platform.wall = drawn at policy answered
  have after : (manager.connectionAddress id).1.Rotates id { profile.station with address := drawn.2 } := by
    rw [answered]
    refine ⟨_, Roster.get?_modify_self found (Roster.get?_eq_some.1 found).2, ?_, rfl⟩
    exact (congrArg (·.isAggressive profile) policy).trans aggressive
  exact ⟨⟨by rw [answered], by rw [answered]; rfl, _, known, after.station?⟩, after⟩

/-- One event moves the expiry as it should, and the address only by an attempt that comes too late. -/
theorem step (rotates : manager.Rotates id station) {event : AddressEvent}
    (fits : time.toInt + event.span ≤ Int64.maxValue.toInt) :
    ∃ next, ((manager.undergo (.setWall time)).perform (event.operation id)).1.Rotates id next ∧
      next.expiresAt.toInt = event.expiry time.toInt station.expiresAt.toInt ∧
      ((event = .attempt → time.toInt ≤ station.expiresAt.toInt) → next.address = station.address) := by
  have now := rotates.setWall time
  cases event with
  | attempt =>
      refine ⟨_, now.connectionAddress.2, rfl, fun early => ?_⟩
      exact congrArg (·.2) (Randomizer.rotate_of_le (early rfl))
  | lease seconds =>
      refine ⟨_, now.renewLease seconds, ?_, fun _ => ?_⟩
      · exact StationAddress.toInt_expiresAt_renew fits
      · exact station.address_renew ..
  | disconnect =>
      refine ⟨_, now.recordDisconnected, ?_, fun _ => ?_⟩
      · exact StationAddress.toInt_expiresAt_extendAfterDisconnect fits
      · exact station.address_extendAfterDisconnect _

/-- Events move the expiry as they should, and keep the address unless an attempt comes too late. -/
theorem afterEvents (rotates : manager.Rotates id station) (fits : events.Fits) :
    ∃ next, (manager.afterEvents id events).Rotates id next ∧
      next.expiresAt.toInt = events.expiry station.expiresAt.toInt ∧
      (events.InTime station.expiresAt.toInt → next.address = station.address) := by
  induction events generalizing manager station with
  | nil => exact ⟨station, rotates, rfl, fun _ => rfl⟩
  | cons entry rest ih =>
      obtain ⟨time, event⟩ := entry
      rw [AddressTimeline.Fits, List.forall_mem_cons] at fits
      obtain ⟨middle, now, moved, kept⟩ := rotates.step fits.1
      obtain ⟨last, after, expires, keeps⟩ := ih now fits.2
      rw [moved] at expires keeps
      refine ⟨last, after, expires, fun inTime => ?_⟩
      have early : event = .attempt → time.toInt ≤ station.expiresAt.toInt := by
        rintro rfl
        exact inTime [] time rest rfl
      refine (keeps fun before later onward split => ?_).trans (kept early)
      exact inTime ((time, event) :: before) later onward (by rw [split, List.cons_append])

/-- An attempt shows what its time and the expiry before it call for. -/
theorem attempt (rotates : manager.Rotates id station) (fits : events.Fits) (time : Millis) :
    ∃ next, (manager.afterEvents id events).station? id = some next ∧
      next.expiresAt.toInt = events.expiry station.expiresAt.toInt ∧
      ((manager.afterEvents id events).undergo (.setWall time)).Shows id
        ((manager.afterEvents id events).randomizer.rotate next time) := by
  obtain ⟨next, now, expires, _⟩ := rotates.afterEvents fits
  exact ⟨next, now.station?, expires, (now.setWall time).connectionAddress.1⟩

theorem stays (rotates : manager.Rotates id station) (fits : AddressTimeline.Fits ((time, .disconnect) :: events))
    (kept : ∀ entry ∈ events, entry.2.isLease = false ∧ entry.1.toInt ≤ time.toInt + 4 * hour) :
    ((manager.afterEvents id ((time, .disconnect) :: events)).station? id).map (·.address) = some station.address := by
  have ⟨reach, later⟩ := List.forall_mem_cons.1 fits
  obtain ⟨next, disconnected, expires, same⟩ := rotates.step reach
  have raised : time.toInt + 4 * hour ≤ next.expiresAt.toInt := expires ▸ Int.le_max_right ..
  obtain ⟨last, now, _, stays⟩ := disconnected.afterEvents later
  rw [afterEvents_cons, now.station?, Option.map_some, stays (AddressTimeline.inTime_of_le raised kept), same nofun]

end Rotates

/-- What becomes of an address in the course of events, at every place of it. -/
structure RotatesOnTime (manager : Manager) (id : ProfileId) (start : StationAddress) (events : AddressTimeline) : Prop where
  expires : ∀ before after, events = before ++ after → ∃ station,
    (manager.afterEvents id before).station? id = some station ∧
      station.expiresAt.toInt = before.expiry start.expiresAt.toInt
  keeps : ∀ before time after, events = before ++ (time, .attempt) :: after →
    time.toInt ≤ before.expiry start.expiresAt.toInt → ∃ station,
      (manager.afterEvents id before).station? id = some station ∧
        ((manager.afterEvents id before).undergo (.setWall time)).Shows id
          ((manager.afterEvents id before).randomizer, station.address)
  replaces : ∀ before time after, events = before ++ (time, .attempt) :: after →
    before.expiry start.expiresAt.toInt < time.toInt →
      ((manager.afterEvents id before).undergo (.setWall time)).Shows id (manager.afterEvents id before).randomizer.drawFresh
  /-- For four hours after a disconnection the address stays, unless there is a lease. -/
  stays : ∀ before time between after, events = before ++ (time, .disconnect) :: between ++ after →
    (∀ entry ∈ between, entry.2.isLease = false ∧ entry.1.toInt ≤ time.toInt + 4 * hour) → ∃ address,
      ((manager.afterEvents id before).station? id).map (·.address) = some address ∧
        ((manager.afterEvents id (before ++ (time, .disconnect) :: between)).station? id).map (·.address) = some address
  /-- A day after the last renewal the address is replaced, once the expiry at the start is over too. -/
  renews : ∀ before time after, events = before ++ (time, .attempt) :: after → start.expiresAt.toInt < time.toInt →
    (∀ last, before.lastRenewal? = some last → last.1.toInt + 24 * hour < time.toInt) →
      ((manager.afterEvents id before).undergo (.setWall time)).Shows id (manager.afterEvents id before).randomizer.drawFresh

/-- Attempts keep an address up to its expiry and replace it afterwards, and move no expiry; leases set it to half an hour
at least and a day at most from then, and disconnections raise it to four hours from then. -/
theorem rotatesOnTime {profile : Profile} (found : manager.roster.get? id = some profile)
    (aggressive : manager.randomizer.policy.isAggressive profile = true) (ordered : events.Pairwise (·.1 ≤ ·.1))
    (fits : events.Fits) : manager.RotatesOnTime id profile.station events := by
  have rotates : manager.Rotates id profile.station := ⟨profile, found, aggressive, rfl⟩
  have replaces : ∀ before time after, events = before ++ (time, .attempt) :: after →
      before.expiry profile.station.expiresAt.toInt < time.toInt →
        ((manager.afterEvents id before).undergo (.setWall time)).Shows id
          (manager.afterEvents id before).randomizer.drawFresh := by
    rintro before time after rfl late
    obtain ⟨station, _, expires, answered⟩ := rotates.attempt (List.forall_mem_append.1 fits).1 time
    rw [← expires] at late
    exact Randomizer.rotate_of_lt late ▸ answered
  refine ⟨?expires, ?keeps, replaces, ?stays, ?renews⟩
  case expires =>
    rintro before after rfl
    obtain ⟨station, now, expires, _⟩ := rotates.afterEvents (List.forall_mem_append.1 fits).1
    exact ⟨station, now.station?, expires⟩
  case keeps =>
    rintro before time after rfl early
    obtain ⟨station, known, expires, answered⟩ := rotates.attempt (List.forall_mem_append.1 fits).1 time
    rw [← expires] at early
    exact ⟨station, known, Randomizer.rotate_of_le early ▸ answered⟩
  case stays =>
    rintro before time between after rfl kept
    have ⟨earlier, later⟩ := List.forall_mem_append.1 (List.forall_mem_append.1 fits).1
    obtain ⟨station, left, _⟩ := rotates.afterEvents earlier
    refine ⟨station.address, by rw [left.station?, Option.map_some], ?_⟩
    rw [afterEvents_append]
    exact left.stays later kept
  case renews =>
    rintro before time after rfl started renewed
    have inOrder := (List.pairwise_append.1 ordered).1
    exact replaces before time after rfl (AddressTimeline.expiry_lt_of_renewed inOrder started renewed)

/-- Cafe was joined and left, with some random bytes to draw fresh addresses from. -/
def leftCafe : Manager :=
  (start freshAtCafe (.start 0 1700000000000) (.immediate .empty) [] sameForAll
    [2, 9, 8, 7, 6, 5, 2, 1, 1, 2, 3, 5, 2, 7, 1, 8, 2, 8]).run joiningCafe

/-- Cafe is joined again within four hours, for a lease of one minute, left, and joined again a day later. -/
def dayAtCafe : AddressTimeline :=
  [(1700000000000, .disconnect), (1700014400000, .attempt), (1700014400000, .lease 60), (1700015000000, .disconnect),
    (1700100000000, .attempt)]

/-- The address is kept for four hours after Cafe was left, and is another one the day after. -/
theorem rotatesOnTime_leftCafe : ∃ profile, leftCafe.roster.get? ⟨0⟩ = some profile ∧
    leftCafe.RotatesOnTime ⟨0⟩ profile.station dayAtCafe ∧
    ((leftCafe.afterEvents ⟨0⟩ (dayAtCafe.take 2)).station? ⟨0⟩).map (·.address) = some profile.station.address ∧
    ((leftCafe.afterEvents ⟨0⟩ dayAtCafe).station? ⟨0⟩).map (·.address) ≠ some profile.station.address := by
  have opted : leftCafe.isAggressive ⟨0⟩ = true := by decide
  obtain ⟨profile, found, aggressive⟩ := (Option.any_eq_true ..).1 opted
  have fits : dayAtCafe.Fits := by
    unfold AddressTimeline.Fits dayAtCafe
    decide
  have rotates := rotatesOnTime found aggressive (by decide : dayAtCafe.Pairwise (·.1 ≤ ·.1)) fits
  have stored : (leftCafe.station? ⟨0⟩).map (·.address) = some profile.station.address := by
    rw [station?, found, Option.map_some, Option.map_some]
  refine ⟨profile, found, rotates, ?_, ?_⟩
  · rw [← stored]
    decide
  · rw [← stored]
    decide

end Manager

end SavedNetworks
