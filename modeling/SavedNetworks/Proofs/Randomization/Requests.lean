import SavedNetworks.Proofs.Randomization

/-!
Requests for addresses, one after the other. Whatever was asked for in the meantime, a key has the address that it had at
the start. Of the entries of earlier releases only unusable ones are dropped, each by the first request for its key
(`Randomizer.stable_requests`).
-/

namespace SavedNetworks

/-- A request for the address of a key, of a profile that has none yet, or for the next connection of a profile. -/
inductive AddressRequest where
  | persistent (key : String)
  | initial (profile : Profile)
  | connection (profile : Profile) (now : Millis)

/-- The key whose persistent address is asked for; networks that opted into fresh addresses ask for none. -/
def AddressRequest.key? (policy : RandomizationPolicy) : AddressRequest → Option String
  | persistent key => some key
  | initial profile | connection profile _ =>
    if policy.isAggressive profile then none else some profile.key.text

namespace Randomizer

def answer (randomizer : Randomizer) : AddressRequest → Randomizer × Option Address
  | .persistent key => randomizer.persistent key
  | .initial profile => randomizer.initial profile
  | .connection profile now =>
    let (randomizer, _, address) := randomizer.forConnection profile now
    (randomizer, address)

/-- The source after some requests. -/
def afterAll (randomizer : Randomizer) (requests : List AddressRequest) : Randomizer :=
  requests.foldl (fun randomizer request => (randomizer.answer request).1) randomizer

/-- Every one of the requests that asks for a key gets this answer. -/
def Answers (start : Randomizer) (requests : List AddressRequest) (key : String) (address : Option Address) : Prop :=
  ∀ earlier request later, requests = earlier ++ request :: later → request.key? start.policy = some key →
    ((start.afterAll earlier).answer request).2 = address

/-- At every moment of the requests a key has this entry, by the requests so far. -/
def Holds (start : Randomizer) (requests : List AddressRequest) (key : String)
    (entry : List AddressRequest → Option String) : Prop :=
  ∀ earlier, earlier <+: requests → (start.afterAll earlier).legacy.get? key = entry earlier

/-- What requests are answered, and what they do to the entries of earlier releases. -/
structure Stable (start : Randomizer) (requests : List AddressRequest) : Prop where
  alike : ∀ key, ∃ address, start.Answers requests key address
  /-- A usable entry is the answer, and stays. -/
  usable : ∀ key stored address, start.legacy.get? key = some stored → Address.ofText? stored = some address →
    address.isUsable = true →
      start.Answers requests key (some address) ∧ start.Holds requests key fun _ => some stored
  /-- An unusable entry is gone after the first request for its key. This one and the later ones get the address that the
  device secret gives, if it gives one. -/
  unusable : ∀ key stored, start.legacy.get? key = some stored →
    (∀ address, Address.ofText? stored = some address → address.isUsable = false) →
      start.Answers requests key ((start.digest key).bind Address.ofBytes?) ∧
        start.Holds requests key fun earlier =>
          if ∃ request ∈ earlier, request.key? start.policy = some key then none else some stored
  absent : ∀ key, start.legacy.get? key = none →
    start.Answers requests key ((start.digest key).bind Address.ofBytes?) ∧ start.Holds requests key fun _ => none
  /-- A request leaves the entries of other keys alone. -/
  others : ∀ earlier request later, requests = earlier ++ request :: later →
    ∀ other, request.key? start.policy ≠ some other →
      ((start.afterAll earlier).answer request).1.legacy.get? other = (start.afterAll earlier).legacy.get? other

variable {randomizer start : Randomizer} {request : AddressRequest} {requests earlier : List AddressRequest}
  {key stored : String} {address : Address}

theorem usable?_eq_some_iff :
    usable? stored = some address ↔ Address.ofText? stored = some address ∧ address.isUsable = true :=
  Option.filter_eq_some_iff

theorem usable?_eq_none_iff :
    usable? stored = none ↔ ∀ address, Address.ofText? stored = some address → address.isUsable = false := by
  simp [usable?, Option.filter_eq_none_iff]

theorem get?_legacy_persistent (randomizer : Randomizer) (key other : String) :
    (randomizer.persistent key).1.legacy.get? other =
      if other = key then (randomizer.legacy.get? other).filter fun stored => (usable? stored).isSome
      else randomizer.legacy.get? other := by
  unfold persistent
  by_cases same : other = key
  · subst same
    cases found : randomizer.legacy.get? other with
    | none => simp [found]
    | some stored => cases read : usable? stored <;> simp [Option.filter, found, read, SortedMap.get?_erase]
  · cases found : randomizer.legacy.get? key with
    | none => simp [same]
    | some stored => cases read : usable? stored <;> simp [read, same, SortedMap.get?_erase]

theorem answer_of_key (asks : request.key? randomizer.policy = some key) :
    randomizer.answer request = randomizer.persistent key := by
  cases request with
  | persistent asked =>
      cases asks
      rfl
  | initial profile =>
      by_cases fresh : randomizer.policy.isAggressive profile = true
      · simp [AddressRequest.key?, fresh] at asks
      · simp only [AddressRequest.key?, fresh, Bool.false_eq_true, if_false, Option.some.injEq] at asks
        simp [answer, initial, fresh, asks]
  | connection profile now =>
      by_cases fresh : randomizer.policy.isAggressive profile = true
      · simp [AddressRequest.key?, fresh] at asks
      · simp only [AddressRequest.key?, fresh, Bool.false_eq_true, if_false, Option.some.injEq] at asks
        simp only [answer, forConnection, fresh, Bool.false_eq_true, if_false, asks]
        generalize randomizer.persistent key = settled
        obtain ⟨after, _ | address⟩ := settled <;> rfl

/-- A fresh address takes random bytes, and nothing else. -/
theorem legacy_answer_of_fresh (asks : request.key? randomizer.policy = none) :
    (randomizer.answer request).1.legacy = randomizer.legacy := by
  cases request with
  | persistent asked => cases asks
  | initial profile =>
      have fresh : randomizer.policy.isAggressive profile = true := by simpa [AddressRequest.key?] using asks
      simp [answer, initial, fresh, drawFresh]
  | connection profile now =>
      have fresh : randomizer.policy.isAggressive profile = true := by simpa [AddressRequest.key?] using asks
      simp only [answer, forConnection, fresh, if_true]
      split <;> rfl

theorem get?_legacy_answer (randomizer : Randomizer) (request : AddressRequest) (key : String) :
    (randomizer.answer request).1.legacy.get? key =
      if request.key? randomizer.policy = some key then
        (randomizer.legacy.get? key).filter fun stored => (usable? stored).isSome
      else randomizer.legacy.get? key := by
  cases asks : request.key? randomizer.policy with
  | none => simp [legacy_answer_of_fresh asks]
  | some asked => simp [answer_of_key asks, get?_legacy_persistent, eq_comm]

theorem prunes_answer (randomizer : Randomizer) (request : AddressRequest) :
    randomizer.Prunes (randomizer.answer request).1 := by
  cases request with
  | persistent key => exact (persistent_spec randomizer key).1
  | initial profile => exact (initial_spec randomizer profile).1
  | connection profile now => exact prunes_forConnection randomizer profile now

theorem prunes_afterAll (start : Randomizer) (requests : List AddressRequest) : start.Prunes (start.afterAll requests) := by
  induction requests generalizing start with
  | nil => exact .refl start
  | cons request rest ih => exact (start.prunes_answer request).trans (ih (start.answer request).1)

theorem get?_legacy_afterAll (start : Randomizer) (requests : List AddressRequest) (key : String) :
    (start.afterAll requests).legacy.get? key =
      if ∃ request ∈ requests, request.key? start.policy = some key then
        (start.legacy.get? key).filter fun stored => (usable? stored).isSome
      else start.legacy.get? key := by
  induction requests generalizing start with
  | nil => simp [afterAll]
  | cons request rest ih =>
      have later := ih (start.answer request).1
      rw [(start.prunes_answer request).policy, get?_legacy_answer] at later
      refine later.trans ?_
      by_cases now : request.key? start.policy = some key
      · simp [now]
      · simp [now]

theorem answer_afterAll (earlier : List AddressRequest) (asks : request.key? start.policy = some key) :
    ((start.afterAll earlier).answer request).2 = start.settled? key := by
  have pruned := start.prunes_afterAll earlier
  rw [← pruned.policy] at asks
  rw [answer_of_key asks, (persistent_spec _ key).2, pruned.settled? key]

theorem answers_settled (start : Randomizer) (requests : List AddressRequest) (key : String) :
    start.Answers requests key (start.settled? key) :=
  fun earlier _ _ _ asks => answer_afterAll earlier asks

theorem settled?_of_usable (found : start.legacy.get? key = some stored) (read : usable? stored = some address) :
    start.settled? key = some address := by
  simp [settled?, found, read]

/-- Whatever is asked for, a key has the address that it had at the start; and of the entries of earlier releases a request
drops the one of its key, if that is unusable. -/
theorem stable_requests (start : Randomizer) (requests : List AddressRequest) : start.Stable requests := by
  have answers := start.answers_settled requests
  refine ⟨fun key => ⟨_, answers key⟩, ?usable, ?unusable, ?absent, ?others⟩
  case usable =>
    intro key stored address found read fit
    have usable : usable? stored = some address := usable?_eq_some_iff.2 ⟨read, fit⟩
    refine ⟨settled?_of_usable found usable ▸ answers key, fun earlier _ => ?_⟩
    simp [get?_legacy_afterAll, found, usable]
  case unusable =>
    intro key stored found unfit
    have unusable : usable? stored = none := usable?_eq_none_iff.2 unfit
    have derived : start.settled? key = (start.digest key).bind Address.ofBytes? := by
      simp [settled?, found, unusable, derived?]
    refine ⟨derived ▸ answers key, fun earlier _ => ?_⟩
    simp [get?_legacy_afterAll, Option.filter, found, unusable]
  case absent =>
    intro key found
    have derived : start.settled? key = (start.digest key).bind Address.ofBytes? := by
      simp [settled?, found, derived?]
    refine ⟨derived ▸ answers key, fun earlier _ => ?_⟩
    simp [get?_legacy_afterAll, found]
  case others =>
    intro earlier request later _ other asks
    rw [get?_legacy_answer, (start.prunes_afterAll earlier).policy, if_neg asks]

/-- Of two entries of an earlier release the second stands for no address. -/
def migrated : Randomizer :=
  (ofPolicy ⟨true, .empty, .empty, .empty, .empty⟩ (fun _ => some [2, 1, 2, 3, 4, 5]) []).loadLegacy
    (.ofList [("\"Legacy\"NONE", "02:11:22:33:44:55"), ("\"Broken\"NONE", "not-a-mac")])

def afterMigration : List AddressRequest :=
  [.connection (.blank "Legacy" .unsecured) 1000, .initial (.blank "Broken" .unsecured), .persistent "\"Legacy\"NONE",
    .connection (.blank "Broken" .unsecured) 2000]

theorem stable_requests_migrated :
    migrated.Answers afterMigration "\"Legacy\"NONE" (some ⟨#v[0x02, 0x11, 0x22, 0x33, 0x44, 0x55]⟩) ∧
      migrated.Answers afterMigration "\"Broken\"NONE" (some ⟨#v[2, 1, 2, 3, 4, 5]⟩) ∧
      (migrated.afterAll afterMigration).legacy.keys = ["\"Legacy\"NONE"] := by
  have stable := stable_requests migrated afterMigration
  have legacy := stable.usable "\"Legacy\"NONE" "02:11:22:33:44:55" ⟨#v[0x02, 0x11, 0x22, 0x33, 0x44, 0x55]⟩ (by decide)
    (by decide) (by decide)
  have unread : Address.ofText? "not-a-mac" = none := by decide
  have broken := stable.unusable "\"Broken\"NONE" "not-a-mac" (by decide) (by simp [unread])
  exact ⟨legacy.1, broken.1, by decide⟩

end Randomizer

end SavedNetworks
