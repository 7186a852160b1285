import SavedNetworks.Proofs.Manager.Runs

/-!
What a refused addition or change leaves behind: nothing, but for the ephemeral profile that gave way before
the key store refused the saved one (`Manager.untouched_refused_iff`).
-/

namespace SavedNetworks

def Notice.event? : Notice → Option Event
  | .event told => some told
  | _ => none

namespace Manager

variable {manager before middle after : Manager} {draft : Draft} {caller : Owner} {edit : Edit} {failure : ManagerError}

/-- What the listeners were told so far. -/
def events (manager : Manager) : List Event := manager.journal.filterMap Notice.event?

/-- The manager with other answers from those that it asks for privileges and about keys. -/
def answering (manager : Manager) (privileges : Privileges) (acceptsKeys : Profile → Option Profile → Bool) : Manager :=
  manager.onPlatform ({ · with privileges, acceptsKeys })

/-- Nothing was changed that an owner or a listener would notice. -/
structure Untouched (before after : Manager) : Prop where
  roster : after.roster = before.roster
  caches : after.caches = before.caches
  lastSelected : after.lastSelected = before.lastSelected
  dismissed : after.dismissed = before.dismissed
  store : after.store = before.store
  events : after.events = before.events

/-- An ephemeral profile was removed with everything that refers to it, and nothing else was changed. -/
structure GaveWay (placeholder : Profile) (before after : Manager) : Prop where
  roster : after.roster = before.roster.drop placeholder.id placeholder.key
  caches : after.caches = before.caches.erase placeholder.id
  lastSelected : after.lastSelected = before.lastSelected.filter (·.1 != placeholder.id)
  dismissed : after.dismissed = before.dismissed
  store : after.store = before.store
  events : after.events = before.events ++ [.removed placeholder]

namespace Untouched

theorem refl (manager : Manager) : manager.Untouched manager := ⟨rfl, rfl, rfl, rfl, rfl, rfl⟩

theorem trans (first : before.Untouched middle) (second : middle.Untouched after) : before.Untouched after :=
  ⟨second.roster.trans first.roster, second.caches.trans first.caches, second.lastSelected.trans first.lastSelected,
    second.dismissed.trans first.dismissed, second.store.trans first.store, second.events.trans first.events⟩

end Untouched

namespace GaveWay

variable {placeholder : Profile}

theorem of_untouched (first : before.Untouched middle) (second : GaveWay placeholder middle after) :
    GaveWay placeholder before after :=
  ⟨first.roster ▸ second.roster, first.caches ▸ second.caches, first.lastSelected ▸ second.lastSelected,
    second.dismissed.trans first.dismissed, second.store.trans first.store, first.events ▸ second.events⟩

theorem trans (first : GaveWay placeholder before middle) (second : middle.Untouched after) :
    GaveWay placeholder before after :=
  ⟨second.roster.trans first.roster, second.caches.trans first.caches, second.lastSelected.trans first.lastSelected,
    second.dismissed.trans first.dismissed, second.store.trans first.store, second.events.trans first.events⟩

theorem not_untouched (gone : GaveWay placeholder before after) : ¬ before.Untouched after := by
  intro untouched
  have told := untouched.events
  rw [gone.events] at told
  simp at told

end GaveWay

theorem events_notice (manager : Manager) (notice : Notice) :
    (manager.notice notice).events = manager.events ++ notice.event?.toList := by
  unfold events Manager.notice
  rw [List.filterMap_append]
  cases told : notice.event? <;> simp [told]

/-- Telling the key store something is no event. -/
theorem untouched_notice {notice : Notice} (silent : notice.event? = none) (manager : Manager) :
    manager.Untouched (manager.notice notice) := by
  refine ⟨rfl, rfl, rfl, rfl, rfl, ?_⟩
  rw [events_notice, silent, Option.toList_none, List.append_nil]

theorem untouched_forgetKeys (manager : Manager) (profile : Profile) : manager.Untouched (manager.forgetKeys profile) := by
  unfold forgetKeys
  split
  · split
    · exact .refl manager
    · exact untouched_notice rfl manager
  · exact .refl manager

theorem untouched_showKeys (manager : Manager) (draft : Draft) (edit : Edit) :
    manager.Untouched (manager.showKeys draft edit).1 := by
  unfold showKeys
  split
  · exact untouched_notice rfl manager
  · exact .refl manager

theorem untouched_of_readied {profile : Profile} (readied : Readied edit before after profile) :
    before.Untouched after ∧ profile.key = edit.outcome.key := by
  cases readied with
  | fresh => exact ⟨⟨rfl, rfl, rfl, rfl, rfl, rfl⟩, rfl⟩
  | revised => exact ⟨.refl before, rfl⟩

theorem untouched_answering (manager : Manager) (privileges : Privileges)
    (acceptsKeys : Profile → Option Profile → Bool) : manager.Untouched (manager.answering privileges acceptsKeys) :=
  ⟨rfl, rfl, rfl, rfl, rfl, rfl⟩

/-- Removing a profile that is not saved. -/
theorem gaveWay_removeAnyway {profile : Profile} (found : manager.roster.get? profile.id = some profile)
    (unsaved : profile.isSaved = false) : GaveWay profile manager (manager.removeAnyway profile.id).1 := by
  have told := untouched_forgetKeys manager profile
  rw [removeAnyway_of_found found, unsaved, if_neg Bool.false_ne_true]
  refine .of_untouched told ⟨rfl, rfl, rfl, rfl, rfl, ?_⟩
  rw [announce, events_notice]
  rfl

/-- What an edit that is refused in the end costs, and who refuses it. -/
theorem carryOut_eq_error (refused : manager.carryOut draft edit = (after, .error failure)) :
    manager.Untouched after ∧ (failure = .keyStoreRejected edit.profile.key ∨
      ∃ profile conflict, profile.key = edit.outcome.key ∧ manager.roster.put profile = .error conflict) := by
  have shown := untouched_showKeys manager draft edit
  rcases manager.carryOut_spec draft edit with rejected | ⟨ready, profile, readied, ⟨conflict, stored, lost⟩ | ⟨_, _, done⟩⟩
  · rw [rejected] at refused
    obtain ⟨rfl, answer⟩ := Prod.mk.inj refused
    exact ⟨shown, .inl (Except.error.inj answer).symm⟩
  · rw [lost] at refused
    obtain ⟨rfl, _⟩ := Prod.mk.inj refused
    obtain ⟨still, named⟩ := untouched_of_readied readied
    have untouched := shown.trans still
    exact ⟨untouched, .inr ⟨profile, conflict, named, untouched.roster ▸ stored⟩⟩
  · rw [done] at refused
    cases (Prod.mk.inj refused).2

/-- Once an ephemeral profile gave way to a key, nobody holds that key. -/
theorem put_of_freed {placeholder profile : Profile} (wellFormed : manager.roster.WellFormed)
    (found : manager.roster.get? placeholder.id = some placeholder) (named : profile.key = placeholder.key) :
    ∃ roster, (manager.roster.drop placeholder.id placeholder.key).put profile = .ok roster := by
  refine (wellFormed.drop placeholder.id placeholder.key).put_ok_iff.2 fun other present same => ?_
  obtain ⟨old, among, apart, rfl⟩ := wellFormed.mem_drop.1 present
  have held := Roster.mem_of_get? found
  have keys : old.key = placeholder.key := by
    rw [← named, ← same, (Roster.released_name manager.roster placeholder.key old).2]
  exact absurd (congrArg Profile.id (wellFormed.eq_of_key among held keys)) apart

theorem eq_of_refused {first second : Prop} [Decidable first] [Decidable second] {proxy randomization : ManagerError}
    {done : Edit} (refused : (if first then Except.error proxy else if second then .error randomization else .ok done) =
      .error failure) : failure = proxy ∨ failure = randomization := by
  split at refused
  · exact .inl (Except.error.inj refused).symm
  · split at refused
    · exact .inr (Except.error.inj refused).symm
    · cases refused

theorem revise_eq_error {existing : Profile} (refused : manager.revise existing draft caller = .error failure) :
    (∃ reason, failure = .validation reason) ∨
      failure = .permissionDenied caller.uid existing.id ∧ manager.canModify existing caller = false := by
  unfold revise at refused
  cases valid : draft.validate .update with
  | error reason =>
      rw [valid] at refused
      exact .inl ⟨reason, (Except.error.inj refused).symm⟩
  | ok done =>
      rw [valid] at refused
      cases permitted : manager.canModify existing caller with
      | false =>
          rw [permitted] at refused
          exact .inr ⟨(Except.error.inj refused).symm, rfl⟩
      | true =>
          rw [permitted] at refused
          cases refused

theorem create_eq_error (refused : manager.create draft caller = .error failure) : ∃ reason, failure = .validation reason := by
  unfold create at refused
  cases valid : draft.validate .add with
  | error reason =>
      rw [valid] at refused
      exact ⟨reason, (Except.error.inj refused).symm⟩
  | ok done =>
      rw [valid] at refused
      cases named : draft.ssid with
      | none =>
          rw [named] at refused
          exact ⟨.missingSsid, (Except.error.inj refused).symm⟩
      | some ssid =>
          cases secured : draft.security with
          | none =>
              rw [named, secured] at refused
              exact ⟨.missingSsid, (Except.error.inj refused).symm⟩
          | some security =>
              rw [named, secured] at refused
              cases refused

/-- Why a draft is not worked in. -/
theorem prepare_eq_error {replaced : Option ProfileId} (refused : manager.prepare draft caller replaced = .error failure) :
    (∃ reason, failure = .validation reason) ∨ failure = .proxyPermissionDenied caller.uid ∨
      failure = .randomizationPermissionDenied caller.uid ∨
      ∃ existing, manager.edited? draft replaced = some existing ∧ failure = .permissionDenied caller.uid existing.id ∧
        manager.canModify existing caller = false := by
  unfold prepare at refused
  cases chosen : manager.edited? draft replaced with
  | some existing =>
      simp only [chosen] at refused
      cases revised : manager.revise existing draft caller with
      | error reason =>
          rw [revised] at refused
          obtain rfl := Except.error.inj refused
          rcases revise_eq_error revised with invalid | ⟨denied, barred⟩
          · exact .inl invalid
          · exact .inr (.inr (.inr ⟨existing, rfl, denied, barred⟩))
      | ok edit =>
          rw [revised] at refused
          rcases eq_of_refused refused with proxy | randomization
          · exact .inr (.inl proxy)
          · exact .inr (.inr (.inl randomization))
  | none =>
      simp only [chosen] at refused
      cases created : manager.create draft caller with
      | error reason =>
          rw [created] at refused
          obtain rfl := Except.error.inj refused
          exact .inl (create_eq_error created)
      | ok edit =>
          rw [created] at refused
          rcases eq_of_refused refused with proxy | randomization
          · exact .inr (.inl proxy)
          · exact .inr (.inr (.inl randomization))

/-- The key store is not asked while a draft is worked in. -/
theorem prepare_ne_keyStoreRejected (replaced : Option ProfileId) (key : ProfileKey) :
    manager.prepare draft caller replaced ≠ .error (.keyStoreRejected key) := by
  intro refused
  obtain ⟨_, other⟩ | other | other | ⟨_, _, other, _⟩ := prepare_eq_error refused
  all_goals cases other

/-- A refusal before anything was done, or one that may follow a removal. -/
theorem addOrUpdate_eq_error (refused : manager.addOrUpdate draft caller = (after, .error failure)) :
    (after = manager ∧ ∀ key, failure ≠ .keyStoreRejected key) ∨
      ∃ edit, manager.prepare draft caller (manager.replaced? draft) = .ok edit ∧
        (manager.giveWay draft).carryOut draft edit = (after, .error failure) := by
  unfold addOrUpdate at refused
  split at refused
  · obtain ⟨rfl, answer⟩ := Prod.mk.inj refused
    exact .inl ⟨rfl, by rw [← Except.error.inj answer]; exact nofun⟩
  · split at refused
    · obtain ⟨rfl, answer⟩ := Prod.mk.inj refused
      exact .inl ⟨rfl, by rw [← Except.error.inj answer]; exact nofun⟩
    · cases prepared : manager.prepare draft caller (manager.replaced? draft) with
      | error reason =>
          simp only [prepared] at refused
          obtain ⟨rfl, answer⟩ := Prod.mk.inj refused
          obtain rfl := Except.error.inj answer
          refine .inl ⟨rfl, fun key same => ?_⟩
          rw [same] at prepared
          exact prepare_ne_keyStoreRejected _ key prepared
      | ok edit =>
          simp only [prepared] at refused
          split at refused
          · next rest reason stopped =>
              have carried : (manager.giveWay draft).carryOut draft edit = (rest, .error reason) := stopped
              exact .inr ⟨edit, rfl, carried.trans refused⟩
          · cases refused

/-- Only the key store can refuse a draft once an ephemeral profile gave way to it. -/
theorem refused_cases (wellFormed : manager.roster.WellFormed)
    (refused : manager.addOrUpdate draft caller = (after, .error failure)) :
    (manager.Untouched after ∧ (manager.replaced? draft = none ∨ ∀ key, failure ≠ .keyStoreRejected key)) ∨
      ∃ placeholder, manager.replaced? draft = some placeholder.id ∧ failure = .keyStoreRejected placeholder.key ∧
        manager.roster.get? placeholder.id = some placeholder ∧ placeholder.ephemeral = true ∧
        GaveWay placeholder manager after := by
  obtain ⟨rfl, other⟩ | ⟨edit, prepared, carried⟩ := addOrUpdate_eq_error refused
  · exact .inl ⟨.refl after, .inr other⟩
  · obtain ⟨rest, reason⟩ := carryOut_eq_error carried
    cases replaced : manager.replaced? draft with
    | none =>
        rw [giveWay, replaced] at rest
        exact .inl ⟨rest, .inl rfl⟩
    | some id =>
        obtain ⟨placeholder, found, ephemeral, _, named⟩ := replaced?_eq_some wellFormed replaced
        obtain rfl := wellFormed.id_of_get? found
        have unsaved : placeholder.isSaved = false := by simp [Profile.isSaved, ephemeral]
        have gone := gaveWay_removeAnyway found unsaved
        simp only [giveWay, replaced] at rest reason
        have keys : edit.outcome.key = placeholder.key := key_of_prepared named prepared
        obtain rfl | ⟨profile, conflict, same, held⟩ := reason
        · have shown : edit.profile.key = placeholder.key := by
            rw [← keys, (Roster.keepsName_outline.same edit.outline_outcome).2]
          exact .inr ⟨placeholder, rfl, by rw [shown], found, ephemeral, gone.trans rest⟩
        · obtain ⟨roster, stored⟩ := put_of_freed wellFormed found (same.trans keys)
          rw [gone.roster, stored] at held
          cases held

/-- A refused addition or change leaves everything as it was, whoever refuses it, unless the key store refuses a
saved profile in place of an ephemeral one: then just the ephemeral one is gone. -/
theorem untouched_refused_iff (reached : manager.Reachable) {privileges : Privileges}
    {acceptsKeys : Profile → Option Profile → Bool}
    (refused : (manager.answering privileges acceptsKeys).addOrUpdate draft caller = (after, .error failure)) :
    (manager.Untouched after ↔ manager.replaced? draft = none ∨ ∀ key, failure ≠ .keyStoreRejected key) ∧
      ∀ id key, manager.replaced? draft = some id → failure = .keyStoreRejected key →
        ∃ placeholder, manager.roster.get? id = some placeholder ∧ placeholder.ephemeral = true ∧ placeholder.key = key ∧
          GaveWay placeholder manager after := by
  have asked := untouched_answering manager privileges acceptsKeys
  have wellFormed : (manager.answering privileges acceptsKeys).roster.WellFormed := reached.sound.wellFormed
  obtain ⟨untouched, harmless⟩ | ⟨placeholder, replaced, rfl, found, ephemeral, gone⟩ := refused_cases wellFormed refused
  · refine ⟨iff_of_true (asked.trans untouched) harmless, fun id key replaced reason => ?_⟩
    obtain absent | other := harmless
    · exact absurd (replaced.symm.trans absent) nofun
    · exact absurd reason (other key)
  · have gone := gone.of_untouched asked
    refine ⟨iff_of_false gone.not_untouched ?_, fun id key same reason => ?_⟩
    · rintro (absent | other)
      · exact absurd (replaced.symm.trans absent) nofun
      · exact other placeholder.key rfl
    · obtain rfl := Option.some.inj (replaced.symm.trans same)
      exact ⟨placeholder, found, ephemeral, ManagerError.keyStoreRejected.inj reason, gone⟩

/-- A network with a password of its own; as an ephemeral profile it is a provider's. -/
def cafe (ephemeral : Bool) : Draft :=
  { Draft.ofNetwork "Cafe" .eap with enterprise := some (.ofMethod .pwd), ephemeral, passpoint := ephemeral }

/-- A manager that has read an empty store and was given an ephemeral profile. -/
def withPlaceholder : Manager := onEmptyStore.run [.load, .addOrUpdate (cafe true) ⟨Uid.system, "android"⟩]

theorem reachableAlone_withPlaceholder : withPlaceholder.ReachableAlone :=
  reachableAlone_onEmptyStore.run (by decide)

def refusingKeys (manager : Manager) (draft : Draft) (caller : Owner) : Manager × Except ManagerError EditResult :=
  (manager.answering .none fun _ _ => false).addOrUpdate draft caller

theorem untouched_forbiddenRandomization :
    withPlaceholder.Untouched
      (withPlaceholder.refusingKeys { cafe false with addressChoice := .own } ⟨10001, "app"⟩).1 :=
  (untouched_refused_iff reachableAlone_withPlaceholder.reachable
    (Prod.ext rfl (by decide : (withPlaceholder.refusingKeys { cafe false with addressChoice := .own }
      ⟨10001, "app"⟩).2 = .error (.randomizationPermissionDenied 10001)))).1.mpr (.inr fun _ => nofun)

theorem not_untouched_rejectedKeys : withPlaceholder.ReachableAlone ∧
    (withPlaceholder.refusingKeys (cafe false) ⟨Uid.system, "android"⟩).2 =
      .error (.keyStoreRejected (.ofNetwork "Cafe" .eap)) ∧
    ¬ withPlaceholder.Untouched (withPlaceholder.refusingKeys (cafe false) ⟨Uid.system, "android"⟩).1 := by
  refine ⟨reachableAlone_withPlaceholder, by decide, fun untouched => ?_⟩
  exact absurd untouched.roster (by decide)

end Manager

end SavedNetworks
