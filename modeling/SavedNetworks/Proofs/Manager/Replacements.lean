import SavedNetworks.Proofs.Manager.Following
import SavedNetworks.Proofs.Manager.Links
import SavedNetworks.Proofs.Manager.Removals

/-!
What a removal leaves, and what a saved profile that comes in place of an ephemeral one: nothing of the profiles that are
taken out, and all others as they were (`Manager.removal_leavesNoTrace`).
-/

namespace SavedNetworks

/-- A removal for an app or a tenant returns the ids of what was taken out, any other one whether there was something. -/
def Operation.answerOf (ids : List ProfileId) : Operation → Answer
  | removeForApp _ | removeForTenant _ => .ids ids
  | _ => .flag !ids.isEmpty

namespace Manager

variable {manager before middle after : Manager} {newcomer profile record gone : Profile} {told : List Event} {id : ProfileId}
  {draft : Draft} {caller : Owner} {result : EditResult} {operation : Operation} {listed : List Profile}

/-- A profile comes in that names no other one, with something told, and all others are as they were. -/
structure Admits (before after : Manager) (newcomer : Profile) (told : List Event) : Prop where
  fresh : before.roster.profiles.get? newcomer.id = none
  nameless : ∀ key, newcomer.names key = false
  profiles : ∀ id, after.roster.profiles.get? id =
    if id = newcomer.id then some newcomer else before.roster.profiles.get? id
  tenant : after.tenant = before.tenant
  caches : after.caches = before.caches
  lastSelected : after.lastSelected = before.lastSelected
  events : after.events = before.events ++ told

namespace Admits

theorem announce (admits : before.Admits middle newcomer told) (event : Event) :
    before.Admits (middle.announce event) newcomer (told ++ [event]) where
  __ := admits
  events := by
    rw [Manager.announce, events_notice, admits.events, List.append_assoc]
    rfl

theorem persist (admits : before.Admits middle newcomer told) (force : Bool) :
    before.Admits (middle.persist force) newcomer told := by
  have events := events_persist middle force
  rw [persist_eq] at events ⊢
  exact ⟨admits.fresh, admits.nameless, admits.profiles, admits.tenant, admits.caches, admits.lastSelected,
    events.trans admits.events⟩

/-- It is found as it has come in. -/
theorem eq_of_found (admits : before.Admits after newcomer told) (found : after.roster.get? id = some profile)
    (named : newcomer.id = id) : profile = newcomer := by
  have stored := (Roster.get?_eq_some.1 found).1
  rw [admits.profiles, if_pos named.symm] at stored
  exact (Option.some.inj stored).symm

/-- A newcomer that waits for it is enabled. -/
theorem enable (admits : before.Admits middle profile told) (found : middle.roster.get? profile.id = some profile)
    (waits : profile.selection.isEnabled = false) :
    ∃ enabled, enabled.id = profile.id ∧ enabled.key = profile.key ∧
      before.Admits (middle.updateSelection profile.id .enable).1 enabled (told ++ [.enabled enabled]) := by
  obtain ⟨enabled, becomes, moved⟩ := updateSelection_of_waits found waits
  have named : enabled.id = profile.id := by rw [becomes]
  have changed : before.Admits (middle.modify profile.id fun _ => enabled) enabled told :=
    { fresh := named ▸ admits.fresh
      nameless := by
        rw [becomes]
        exact admits.nameless
      profiles := fun id => by
        rw [modify, Roster.modify, found]
        simp only [SortedMap.get?_insert, admits.profiles, named]
        split <;> rfl
      tenant := (Roster.tenant_modify ..).trans admits.tenant
      caches := admits.caches
      lastSelected := admits.lastSelected
      events := admits.events }
  refine ⟨enabled, named, by rw [becomes]; rfl, ?_⟩
  rw [moved]
  exact (changed.announce (.enabled enabled)).persist false

theorem undismiss (admits : before.Admits middle profile []) (found : middle.roster.get? profile.id = some profile)
    (waits : profile.selection.isEnabled = false) :
    ∃ newcomer dismissed told, newcomer.id = profile.id ∧ newcomer.key = profile.key ∧
      before.Admits (middle.undismiss profile.id) newcomer told ∧ told ++ [.added newcomer] = welcome dismissed newcomer := by
  unfold Manager.undismiss
  rw [found]
  simp only [Option.map_some, Option.getD_some]
  split
  · have forgiven : before.Admits { middle with dismissed := middle.dismissed.erase profile.ssid } profile [] :=
      { admits with }
    obtain ⟨newcomer, named, key, enabled⟩ := forgiven.enable found waits
    exact ⟨newcomer, true, _, named, key, enabled, rfl⟩
  · exact ⟨profile, false, [], rfl, rfl, admits, rfl⟩

/-- A newcomer is announced once its network is not dismissed any more. -/
theorem followUp (admits : before.Admits middle profile []) (found : middle.roster.get? profile.id = some profile)
    (waits : profile.selection.isEnabled = false) (named : result.id = profile.id) (new : result.isNew = true) :
    ∃ newcomer dismissed, newcomer.id = profile.id ∧ newcomer.key = profile.key ∧
      before.Admits (middle.followUp result) newcomer (welcome dismissed newcomer) := by
  obtain ⟨newcomer, dismissed, told, same, key, settled, events⟩ := admits.undismiss found waits
  have there := (undismiss_spec found).2
  have final := settled.eq_of_found there same
  refine ⟨newcomer, dismissed, same, key, ?_⟩
  rw [← events]
  have announced := settled.announce (.added newcomer)
  unfold Manager.followUp
  simp only [named, there, final, new, if_true]
  split
  · exact announced.persist true
  · exact announced

end Admits

theorem names_ofDraft (draft : Draft) (ssid : String) (security : Security) (caller : Owner) (stamp : String)
    (key : ProfileKey) : (Edit.mk none (.ofDraft draft ssid security caller stamp)).outcome.names key = false := by
  unfold Edit.outcome
  split <;> rfl

/-- A draft that is stored as a new profile. -/
theorem admits_carryOut {ssid : String} {security : Security} {stamp : String} (named : draft.ssid = some ssid)
    (free : manager.roster.profiles.get? ⟨manager.nextId⟩ = none)
    (carried : manager.carryOut draft ⟨none, .ofDraft draft ssid security caller stamp⟩ = (after, .ok result)) :
    ∃ profile, result.id = profile.id ∧ profile.id = ⟨manager.nextId⟩ ∧ profile.selection.isEnabled = false ∧
      (Edit.mk none (.ofDraft draft ssid security caller stamp)).IsStoredAs profile ∧ manager.Admits after profile [] := by
  have shown := untouched_showKeys manager draft ⟨none, .ofDraft draft ssid security caller stamp⟩
  obtain ⟨journal, told⟩ := manager.exists_showKeys draft ⟨none, .ofDraft draft ssid security caller stamp⟩
  rcases manager.carryOut_spec draft ⟨none, .ofDraft draft ssid security caller stamp⟩ with
    rejected | ⟨ready, profile, readied, ⟨conflict, _, refused⟩ | ⟨roster, stored, done⟩⟩
  · cases carried.symm.trans rejected
  · cases carried.symm.trans refused
  · obtain ⟨rfl, same⟩ := Prod.mk.inj (carried.symm.trans done)
    obtain rfl := Except.ok.inj same
    have untouched := shown.trans (untouched_of_readied readied).1
    have tenant : ready.tenant = manager.tenant := congrArg Roster.tenant untouched.roster
    obtain ⟨station, shape⟩ : ∃ station, profile =
        { Edit.outcome ⟨none, .ofDraft draft ssid security caller stamp⟩ with id := ⟨manager.nextId⟩, station } := by
      cases readied with
      | fresh _ _ station => exact ⟨station, by rw [told]⟩
      | revised existing old => cases old
    have fresh : profile.id = ⟨manager.nextId⟩ := by rw [shape]
    obtain ⟨_, rfl⟩ := Roster.put_eq_ok_iff.1 stored
    refine ⟨profile, rfl, fresh, ?_, ⟨fun _ => ⟨_, station, shape⟩, fun _ old => nomatch old⟩, fresh ▸ free, fun key => ?_,
      fun id => ?_, tenant, untouched.caches, untouched.lastSelected,
      untouched.events.trans (List.append_nil manager.events).symm⟩
    · rw [shape]
      exact (outcome_ofDraft named security caller stamp).2.2
    · rw [shape]
      exact names_ofDraft draft ssid security caller stamp key
    · rw [SortedMap.get?_insert, untouched.roster]

/-- An accepted addition, once an ephemeral profile gave way. -/
theorem admits_addOrUpdate (sound : manager.books.Sound) (accepted : (manager.addOrUpdate draft caller).2 = .ok result)
    (new : result.isNew = true) :
    ∃ newcomer dismissed, newcomer.id = result.id ∧ (∀ key, draft.key? = some key → newcomer.key = key) ∧
      (manager.giveWay draft).Admits (manager.addOrUpdate draft caller).1 newcomer (welcome dismissed newcomer) := by
  have wellFormed : manager.roster.WellFormed := sound.wellFormed
  obtain ⟨tenant, _, next⟩ := giveWay_keeps wellFormed draft
  obtain ⟨edit, _, prepared, same, _⟩ := settled_addOrUpdate wellFormed accepted
  rcases prepare_eq_ok prepared with ⟨existing, _, rfl⟩ | ⟨_, ssid, security, named, _, rfl⟩
  · rw [same] at new
    cases new
  · rcases addOrUpdate_cases manager draft caller with ⟨failure, refused⟩ | ⟨edit, owned, _, again, outcome⟩
    · rw [refused] at accepted
      cases accepted
    · obtain rfl := Except.ok.inj (again.symm.trans prepared)
      rw [outcome] at accepted ⊢
      rcases carried : (manager.giveWay draft).carryOut draft ⟨none, .ofDraft draft ssid security caller manager.stamp⟩ with
        ⟨after, refused | stored⟩
      · rw [carried] at accepted
        cases accepted
      · rw [carried] at accepted
        obtain rfl := Except.ok.inj accepted
        have absent : manager.ledger.profile? ⟨manager.nextId⟩ = none := absent_of_unborn sound (UInt32.le_refl _)
        have free : (manager.giveWay draft).roster.profiles.get? ⟨(manager.giveWay draft).nextId⟩ = none := by
          rw [next]
          exact (absent_giveWay wellFormed absent draft).1
        obtain ⟨profile, id, fresh, waits, shape, admits⟩ := admits_carryOut named free carried
        have found : after.roster.get? profile.id = some profile := by
          have visible : manager.roster.isVisible profile = true := isVisible_stored wellFormed owned prepared shape
          refine Roster.get?_eq_some.2 ⟨by rw [admits.profiles, if_pos rfl], ?_⟩
          rw [Roster.isVisible, show after.roster.tenant = manager.roster.tenant from admits.tenant.trans tenant]
          exact visible
        obtain ⟨newcomer, dismissed, same, key, admits⟩ := admits.followUp found waits id new
        refine ⟨newcomer, dismissed, same.trans id.symm, fun given listed => ?_, admits⟩
        obtain ⟨_, _, rfl⟩ := shape.added rfl
        exact key.trans (key_of_prepared listed prepared)

namespace Admits

/-- What has left no trace leaves none when somebody else comes in under its key. -/
theorem leavesNoTrace (admits : before.Admits after newcomer told) (wellFormed : after.roster.WellFormed)
    (trace : before.LeavesNoTrace record none) (found : after.roster.get? newcomer.id = some newcomer)
    (named : newcomer.key = record.key) (apart : record.id ≠ newcomer.id) :
    after.LeavesNoTrace record (some newcomer) where
  byId := by
    have still : after.roster.get? record.id = before.roster.get? record.id := by
      have tenant : after.roster.tenant = before.roster.tenant := admits.tenant
      have visible : after.roster.isVisible = before.roster.isVisible := by
        funext profile
        rw [Roster.isVisible, Roster.isVisible, tenant]
      rw [Roster.get?, Roster.get?, admits.profiles, if_neg apart, visible]
    exact still.trans trace.byId
  byKey := wellFormed.getByKey?_eq_some.2 ⟨found, named⟩
  unobserved := by
    rw [admits.caches]
    exact trace.unobserved
  unnamed profile present := by
    have stored := wellFormed.mem_all_iff.1 present
    rw [admits.profiles] at stored
    split at stored
    · obtain rfl := Option.some.inj stored
      exact admits.nameless record.key
    · exact trace.unnamed profile (SortedMap.mem_values_iff.2 ⟨profile.id, stored⟩)
  unselected selected last := trace.unselected selected (admits.lastSelected ▸ last)

end Admits

/-- The profiles that a removal is to take out. -/
def doomed? (manager : Manager) : Operation → Option (List Profile)
  | .remove id caller => some ((manager.roster.get? id).filter fun profile =>
      manager.hasUid caller.uid && manager.canModify profile caller).toList
  | .removeForApp app => some (manager.roster.visible.filter fun profile =>
      profile.creator.uid == app.uid && profile.creator.packageName == app.package)
  | .removeForTenant tenant => some (manager.roster.visible.filter (·.creator.uid.tenant == tenant))
  | .removeUnsaved => some (manager.roster.visible.filter fun profile => profile.ephemeral || profile.passpoint)
  | .removeSuggestion key => some ((manager.roster.getByKey? key).filter fun profile =>
      profile.ephemeral && profile.fromSuggestion).toList
  | .removePasspoint key => some ((manager.roster.getByKey? key).filter Profile.passpoint).toList
  | _ => none

/-- Distinct profiles, all of them seen. -/
structure Sees (manager : Manager) (listed : List Profile) : Prop where
  seen : ∀ profile ∈ listed, manager.roster.get? profile.id = some profile
  distinct : (listed.map Profile.id).Nodup

theorem Sees.isSome (sees : manager.Sees listed) : ∀ id ∈ listed.map Profile.id, (manager.roster.get? id).isSome = true := by
  intro id member
  obtain ⟨profile, chosen, rfl⟩ := List.mem_map.1 member
  rw [sees.seen profile chosen]
  rfl

theorem sees_filter (wellFormed : manager.roster.WellFormed) (keep : Profile → Bool) :
    manager.Sees (manager.roster.visible.filter keep) where
  seen _ among := wellFormed.mem_visible.1 (List.mem_filter.1 among).1
  distinct := (manager.roster.sublist_ids keep).nodup wellFormed.nodup_ids

theorem sees_toList {found : Option Profile}
    (seen : ∀ profile, found = some profile → manager.roster.get? profile.id = some profile) : manager.Sees found.toList where
  seen profile among := seen profile (Option.mem_toList.1 among)
  distinct := by cases found <;> simp

theorem sees_doomed (wellFormed : manager.roster.WellFormed) (doomed : manager.doomed? operation = some listed) :
    manager.Sees listed := by
  have byKey : ∀ key keep, manager.Sees ((manager.roster.getByKey? key).filter keep).toList := fun key keep =>
    sees_toList fun profile chosen => (wellFormed.getByKey?_eq_some.1 (Option.filter_eq_some_iff.1 chosen).1).1
  cases operation with
  | remove id caller =>
      obtain rfl := Option.some.inj doomed
      refine sees_toList fun profile chosen => ?_
      have found := (Option.filter_eq_some_iff.1 chosen).1
      rwa [wellFormed.id_of_get? found]
  | removeForApp | removeForTenant | removeUnsaved =>
      obtain rfl := Option.some.inj doomed
      exact sees_filter wellFormed _
  | removeSuggestion key | removePasspoint key =>
      obtain rfl := Option.some.inj doomed
      exact byKey key _
  | _ => cases doomed

/-- The removal of one profile, if there is one to remove. -/
def removeFound (manager : Manager) : Option Profile → Manager × Bool
  | some profile => manager.removeAnyway profile.id
  | none => (manager, false)

theorem removeFound_eq {found : Option Profile} (sees : manager.Sees found.toList) :
    manager.removeFound found = ((collect removeAnyway manager (found.toList.map Profile.id)).1,
      !(collect removeAnyway manager (found.toList.map Profile.id)).2.isEmpty) := by
  cases found with
  | none => rfl
  | some profile =>
      have done : (manager.removeAnyway profile.id).2 = true := by rw [removeAnyway_of_found (sees.seen profile (by simp))]
      refine Prod.ext rfl ?_
      simp only [Option.toList_some, List.map_cons, List.map_nil, collect, done, if_true]
      exact done

theorem remove_eq (wellFormed : manager.roster.WellFormed) (id : ProfileId) (caller : Owner) :
    manager.remove id caller = manager.removeFound ((manager.roster.get? id).filter fun profile =>
      manager.hasUid caller.uid && manager.canModify profile caller) := by
  unfold remove
  cases owned : manager.hasUid caller.uid with
  | false => cases manager.roster.get? id <;> rfl
  | true =>
      cases found : manager.roster.get? id with
      | none => rfl
      | some profile =>
          obtain rfl := wellFormed.id_of_get? found
          cases permitted : manager.canModify profile caller <;> simp [removeFound, Option.filter, permitted]

theorem removeByKey_eq (manager : Manager) (key : ProfileKey) (doomed : Profile → Bool) :
    manager.removeByKey key doomed = manager.removeFound ((manager.roster.getByKey? key).filter doomed) := by
  unfold removeByKey removeFound
  cases (manager.roster.getByKey? key).filter doomed <;> rfl

theorem perform_of_doomed (wellFormed : manager.roster.WellFormed) (doomed : manager.doomed? operation = some listed) :
    manager.perform operation = ((collect removeAnyway manager (listed.map Profile.id)).1,
      operation.answerOf (collect removeAnyway manager (listed.map Profile.id)).2) := by
  have sees := sees_doomed wellFormed doomed
  cases operation with
  | remove id caller =>
      obtain rfl := Option.some.inj doomed
      rw [perform, remove_eq wellFormed, removeFound_eq sees]
      rfl
  | removeForApp | removeForTenant =>
      obtain rfl := Option.some.inj doomed
      rfl
  | removeUnsaved =>
      obtain rfl := Option.some.inj doomed
      have unsaved : (fun profile : Profile => !profile.isSaved) = fun profile => profile.ephemeral || profile.passpoint := by
        funext profile
        rw [Profile.isSaved, Bool.not_and, Bool.not_not, Bool.not_not]
      rw [← unsaved]
      rfl
  | removeSuggestion key =>
      obtain rfl := Option.some.inj doomed
      rw [perform, removeSuggestion, removeByKey_eq, removeFound_eq sees]
      rfl
  | removePasspoint key =>
      obtain rfl := Option.some.inj doomed
      rw [perform, removePasspoint, removeByKey_eq, removeFound_eq sees]
      rfl
  | _ => cases doomed

theorem discards_giveWay (sees : manager.SeesAll) (found : manager.roster.get? gone.id = some gone)
    (replaced : manager.replaced? draft = some gone.id) : manager.Discards (manager.giveWay draft) [gone] := by
  rw [giveWay, replaced]
  exact discards_removeAnyway sees found

theorem id_ne_next (sound : manager.books.Sound) (present : profile ∈ manager.roster.all) : profile.id ≠ ⟨manager.nextId⟩ := by
  have known : profile.id.value < manager.nextId := sound.numbered profile present
  intro same
  rw [same] at known
  exact UInt32.lt_irrefl _ known

/-- A removal leaves nothing of what it takes out and everything else as it was, and so does what comes in place of an
ephemeral profile. -/
theorem removal_leavesNoTrace (alone : manager.ReachableAlone) :
    (∀ operation listed, manager.doomed? operation = some listed →
      (manager.perform operation).2 = operation.answerOf (listed.map Profile.id) ∧
      ∃ records, records.map Profile.id = listed.map Profile.id ∧ manager.Discards (manager.perform operation).1 records ∧
        ∀ record ∈ records, (manager.perform operation).1.LeavesNoTrace record none) ∧
    ∀ draft caller id result, manager.replaced? draft = some id → (manager.addOrUpdate draft caller).2 = .ok result →
      result.isNew = true →
      ∃ gone newcomer between dismissed, manager.roster.get? id = some gone ∧
        (manager.addOrUpdate draft caller).1.roster.get? result.id = some newcomer ∧ manager.Discards between [gone] ∧
        between.Admits (manager.addOrUpdate draft caller).1 newcomer (welcome dismissed newcomer) ∧
        (manager.addOrUpdate draft caller).1.LeavesNoTrace gone (some newcomer) := by
  have wellFormed : manager.roster.WellFormed := alone.sound.wellFormed
  have sees : manager.SeesAll := alone.placed.seen
  refine ⟨fun operation listed doomed => ?_, fun draft caller id result replaced accepted new => ?_⟩
  · have among := sees_doomed wellFormed doomed
    have still := wellFormed_perform wellFormed operation
    obtain ⟨returned, records, ids, discards⟩ := discards_collect wellFormed sees among.distinct among.isSome
    rw [perform_of_doomed wellFormed doomed] at still ⊢
    exact ⟨congrArg operation.answerOf returned, records, ids, discards, fun record member =>
      discards.leavesNoTrace wellFormed still member⟩
  · obtain ⟨gone, found, _, _, key⟩ := replaced?_eq_some wellFormed replaced
    obtain rfl := wellFormed.id_of_get? found
    have discards := discards_giveWay sees found replaced
    obtain ⟨newcomer, dismissed, named, keyed, admits⟩ := admits_addOrUpdate alone.sound accepted new
    obtain ⟨_, taker, _, there, _, fresh⟩ := addOrUpdate_eq_ok wellFormed accepted
    obtain rfl := admits.eq_of_found there named
    have apart : gone.id ≠ taker.id := named.trans (fresh new) ▸ id_ne_next alone.sound (Roster.mem_of_get? found)
    have trace := discards.leavesNoTrace wellFormed (wellFormed_giveWay wellFormed draft) (List.mem_singleton_self gone)
    have still : (manager.addOrUpdate draft caller).1.roster.WellFormed :=
      wellFormed_perform wellFormed (.addOrUpdate draft caller)
    exact ⟨gone, taker, manager.giveWay draft, dismissed, found, there, discards, admits,
      admits.leavesNoTrace still trace (named ▸ there) (keyed gone.key key) apart⟩

/-- An app prefers one of two linked networks to its own, and it is the last one selected. -/
def besideLinked : Manager :=
  onEmptyStore.run (linking ++ [.addOrUpdate (.psk "Guest" "password") ⟨10001, "app"⟩,
    .setConnectChoice ⟨2⟩ ⟨.ofNetwork "Upstairs" .psk, 1700000000000⟩, .enable ⟨0⟩ true ⟨Uid.system, "android"⟩])

theorem removal_leavesNoTrace_linked :
    (besideLinked.roster.all.map (·.names (.ofNetwork "Upstairs" .psk)) = [false, true, true] ∧
      (besideLinked.perform (.removeForApp ⟨Uid.system, "android"⟩)).2 = .ids [⟨0⟩, ⟨1⟩] ∧
      ∃ records, records.map Profile.id = [⟨0⟩, ⟨1⟩] ∧
        besideLinked.Discards (besideLinked.perform (.removeForApp ⟨Uid.system, "android"⟩)).1 records ∧
        ∀ record ∈ records, (besideLinked.perform (.removeForApp ⟨Uid.system, "android"⟩)).1.LeavesNoTrace record none) ∧
    ∃ gone newcomer, withPlaceholder.roster.get? ⟨0⟩ = some gone ∧
      (withPlaceholder.addOrUpdate (cafe false) ⟨Uid.system, "android"⟩).1.roster.get? ⟨1⟩ = some newcomer ∧
      (withPlaceholder.addOrUpdate (cafe false) ⟨Uid.system, "android"⟩).1.LeavesNoTrace gone (some newcomer) := by
  have alone : besideLinked.ReachableAlone := reachableAlone_onEmptyStore.run (by decide)
  have listed : (besideLinked.roster.visible.filter fun profile =>
      profile.creator.uid == Uid.system && profile.creator.packageName == "android").map Profile.id = [⟨0⟩, ⟨1⟩] := by decide
  refine ⟨⟨by decide, ?_⟩, ?_⟩
  · rw [← listed]
    exact (removal_leavesNoTrace alone).1 (.removeForApp ⟨Uid.system, "android"⟩) _ rfl
  · have accepted : (withPlaceholder.addOrUpdate (cafe false) ⟨Uid.system, "android"⟩).2 =
        .ok ⟨⟨1⟩, true, true, true, true⟩ := by decide
    obtain ⟨gone, newcomer, _, _, found, there, _, _, trace⟩ := (removal_leavesNoTrace reachableAlone_withPlaceholder).2
      (cafe false) ⟨Uid.system, "android"⟩ ⟨0⟩ _ (by decide) accepted rfl
    exact ⟨gone, newcomer, found, there, trace⟩

end Manager

end SavedNetworks
