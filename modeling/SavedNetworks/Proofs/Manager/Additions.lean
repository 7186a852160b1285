import SavedNetworks.Proofs.Manager.Identity
import SavedNetworks.Proofs.Manager.Passages

/-!
What an addition says about the profile that it adds (`Manager.heard_addOrUpdate`): that it was added, once it was enabled
if its network had been dismissed.
-/

namespace SavedNetworks

theorem Rules.apply_enable (rules : Rules) {status : SelectionStatus} (waits : status.isEnabled = false) (now : Millis)
    (ignoring : Bool) :
    rules.apply status .enable now ignoring =
      ({ status with state := .enabled, reason := .enable, disabledAt := none, counters := SelectionStatus.noFailures },
        .enabled) := by
  rw [apply, if_pos rfl, SelectionStatus.force, if_pos rfl, waits]
  rfl

theorem Roster.get?_modify_self {roster : Roster} {id : ProfileId} {profile changed : Profile}
    (found : roster.get? id = some profile) (visible : roster.isVisible changed = true) :
    (roster.modify id fun _ => changed).get? id = some changed := by
  have profiles : (roster.modify id fun _ => changed).profiles.get? id = some changed := by
    unfold modify
    rw [found]
    exact SortedMap.get?_insert_self ..
  refine get?_eq_some.2 ⟨profiles, ?_⟩
  rw [isVisible, tenant_modify]
  exact visible

namespace Manager

variable {manager : Manager} {draft : Draft} {caller : Owner} {edit : Edit} {id : ProfileId} {profile : Profile}

theorem heard_persist (manager : Manager) (force : Bool) (id : ProfileId) :
    (manager.persist force).heard id = manager.heard id :=
  (persists_persist manager force).heard id

theorem heard_showKeys (manager : Manager) (draft : Draft) (edit : Edit) (id : ProfileId) :
    (manager.showKeys draft edit).1.heard id = manager.heard id := by
  unfold showKeys
  split
  · exact Ledger.heard_of_silent rfl manager.ledger id
  · rfl

theorem heard_carryOut (manager : Manager) (draft : Draft) (edit : Edit) (id : ProfileId) :
    (manager.carryOut draft edit).1.heard id = manager.heard id := by
  have shown := heard_showKeys manager draft edit id
  rcases manager.carryOut_spec draft edit with rejected | ⟨ready, _, readied, ⟨_, _, refused⟩ | ⟨_, _, carried⟩⟩
  · rw [rejected]
    exact shown
  · rw [refused]
    cases readied <;> exact shown
  · rw [carried]
    cases readied <;> exact shown

theorem updateSelection_of_waits (found : manager.roster.get? id = some profile) (waits : profile.selection.isEnabled = false) :
    ∃ enabled : Profile, enabled = { profile with
        selection :=
          { profile.selection with
            state := .enabled, reason := .enable, disabledAt := none, counters := SelectionStatus.noFailures }
        status := .enabled } ∧
      (manager.updateSelection id .enable).1 =
        ((manager.modify id fun _ => enabled).announce (.enabled enabled)).persist false := by
  have applied := manager.settings.rules.apply_enable waits manager.platform.elapsed manager.platform.watchdog
  refine ⟨_, rfl, ?_⟩
  unfold updateSelection
  rw [found]
  simp only [applied]
  rfl

/-- A profile that waits for it is enabled. -/
theorem exists_enabled (found : manager.roster.get? id = some profile) (waits : profile.selection.isEnabled = false)
    (named : profile.id = id) :
    ∃ enabled, (manager.updateSelection id .enable).1.roster.get? id = some enabled ∧ enabled.id = id ∧
      (manager.updateSelection id .enable).1.heard id = manager.heard id ++ [.enabled enabled] := by
  obtain ⟨enabled, becomes, moved⟩ := updateSelection_of_waits found waits
  have same : enabled.id = id := by rw [becomes]; exact named
  have about : (Event.enabled enabled).isAbout id = true := by simp [Event.isAbout, Event.profile?, same]
  refine ⟨enabled, ?_, same, ?_⟩
  · have visible : manager.roster.isVisible enabled = true := by
      rw [becomes]
      exact (Roster.get?_eq_some.1 found).2
    rw [moved, persist_eq]
    exact Roster.get?_modify_self found visible
  · rw [moved, heard_persist]
    exact Ledger.heard_of_isAbout about (manager.modify id fun _ => enabled).ledger

/-- What is said of a new profile. -/
def welcome (dismissed : Bool) (profile : Profile) : List Event :=
  if dismissed then [.enabled profile, .added profile] else [.added profile]

theorem exists_undismissed (found : manager.roster.get? id = some profile) (waits : profile.selection.isEnabled = false)
    (named : profile.id = id) :
    ∃ settled, (manager.undismiss id).roster.get? id = some settled ∧ settled.id = id ∧
      (manager.undismiss id).heard id ++ [.added settled] =
        manager.heard id ++ welcome (manager.dismissed.contains profile.ssid) settled := by
  unfold undismiss welcome
  rw [found]
  simp only [Option.map_some, Option.getD_some]
  split
  · generalize forgiving : { manager with dismissed := manager.dismissed.erase profile.ssid } = forgiven
    have kept : forgiven.roster.get? id = some profile := by rw [← forgiving]; exact found
    have silent : forgiven.heard id = manager.heard id := by rw [← forgiving]; rfl
    obtain ⟨enabled, there, same, told⟩ := exists_enabled kept waits named
    refine ⟨enabled, there, same, ?_⟩
    rw [told, silent, List.append_assoc]
    rfl
  · exact ⟨profile, found, named, rfl⟩

theorem exists_welcomed {result : EditResult} (found : manager.roster.get? result.id = some profile)
    (waits : profile.selection.isEnabled = false) (named : profile.id = result.id) (new : result.isNew = true) :
    ∃ settled, (manager.followUp result).heard result.id =
      manager.heard result.id ++ welcome (manager.dismissed.contains profile.ssid) settled := by
  obtain ⟨settled, there, same, told⟩ := exists_undismissed found waits named
  refine ⟨settled, ?_⟩
  rw [← told]
  have about : (Event.added settled).isAbout result.id = true := by simp [Event.isAbout, Event.profile?, same]
  have said := Ledger.heard_of_isAbout about (manager.undismiss result.id).ledger
  unfold followUp
  simp only [there, new, if_true]
  split
  · exact (heard_persist _ true _).trans said
  · exact said

theorem absent_giveWay (wellFormed : manager.roster.WellFormed) (absent : manager.ledger.profile? id = none) (draft : Draft) :
    (manager.giveWay draft).ledger.profile? id = none ∧ (manager.giveWay draft).heard id = manager.heard id := by
  have fate := ((deeds_giveWay manager draft).spec wellFormed).2.2 id
  refine ⟨fate.absent absent, ?_⟩
  cases fate with
  | kept _ silent => exact silent
  | removed found => cases absent.symm.trans found

theorem dismissed_giveWay (wellFormed : manager.roster.WellFormed) (draft : Draft) :
    (manager.giveWay draft).dismissed = manager.dismissed := by
  cases replaced : manager.replaced? draft with
  | none => rw [giveWay, replaced]
  | some id =>
      obtain ⟨_, _, _, _, books⟩ := giveWay_of_replaced wellFormed replaced
      exact congrArg Books.dismissed books

/-- A new profile is its caller's, of the network that the draft names, and not enabled. -/
theorem outcome_ofDraft {ssid : String} (named : draft.ssid = some ssid) (security : Security) (caller : Owner)
    (stamp : String) :
    (Edit.mk none (.ofDraft draft ssid security caller stamp)).outcome.creator = caller ∧
      (Edit.mk none (.ofDraft draft ssid security caller stamp)).outcome.ssid = ssid ∧
      (Edit.mk none (.ofDraft draft ssid security caller stamp)).outcome.selection.isEnabled = false := by
  have outlines := (Edit.mk none (.ofDraft draft ssid security caller stamp)).outline_outcome
  have mood := mood_outcome ⟨none, .ofDraft draft ssid security caller stamp⟩
  have state : (Edit.mk none (.ofDraft draft ssid security caller stamp)).outcome.selection.state = .permanentlyDisabled :=
    congrArg Prod.fst mood
  have given : (Profile.ofDraft draft ssid security caller stamp).ssid = draft.ssid.getD ssid := rfl
  rw [named] at given
  refine ⟨Profile.same_of_look Profile.creator (fun _ => rfl) outlines,
    (Profile.same_of_look Profile.ssid (fun _ => rfl) outlines).trans given, ?_⟩
  rw [SelectionStatus.isEnabled, state]
  rfl

/-- An edit that takes an id stores a new profile under it, seen and not enabled. -/
theorem exists_newcomer (wellFormed : manager.roster.WellFormed) (owned : manager.hasUid caller.uid = true)
    (prepared : manager.prepare draft caller (manager.replaced? draft) = .ok edit) {after : Manager} {result : EditResult}
    (carried : (manager.giveWay draft).carryOut draft edit = (after, .ok result)) (spent : after.nextId ≠ manager.nextId) :
    ∃ profile, result.isNew = true ∧ result.id = ⟨manager.nextId⟩ ∧ profile.id = result.id ∧
      after.roster.get? result.id = some profile ∧ profile.selection.isEnabled = false ∧
      draft.ssid.any manager.dismissed.contains = after.dismissed.contains profile.ssid := by
  obtain ⟨tenant, _, next⟩ := giveWay_keeps wellFormed draft
  rcases carryOut_cases (manager.giveWay draft) draft edit with
    ⟨failure, other, refused, _⟩ | ⟨profile, roster, other, accepted, stored, how⟩
  · cases carried.symm.trans refused
  · obtain ⟨rfl, same⟩ := Prod.mk.inj (carried.symm.trans accepted)
    obtain rfl := Except.ok.inj same
    rcases prepare_eq_ok prepared with ⟨existing, _, rfl⟩ | ⟨_, ssid, security, named, _, rfl⟩
    · rcases how with ⟨none, _⟩ | ⟨_, _, books⟩
      · cases none
      · exact absurd ((congrArg Books.nextId books).trans next) spent
    · rcases how with ⟨_, ⟨station, shape⟩, books⟩ | ⟨⟨_, old⟩, _⟩
      · obtain ⟨creator, network, waits⟩ : profile.creator = caller ∧ profile.ssid = ssid ∧
            profile.selection.isEnabled = false := by
          rw [shape]
          exact outcome_ofDraft named security caller manager.stamp
        have visible : (manager.giveWay draft).roster.isVisible profile = true := by
          rw [Roster.isVisible, Profile.visibleTo, creator, tenant, Bool.or_eq_true]
          exact .inr owned
        have rosters : after.roster = roster := congrArg Books.roster books
        have dismissed : after.dismissed = manager.dismissed :=
          (congrArg Books.dismissed books).trans (dismissed_giveWay wellFormed draft)
        have fresh : profile.id = ⟨manager.nextId⟩ := by rw [shape, next]
        refine ⟨profile, rfl, fresh, rfl, ?_, waits, ?_⟩
        · rw [rosters]
          exact (wellFormed_giveWay wellFormed draft).get?_put stored visible
        · rw [named, network, dismissed]
          rfl
      · cases old

/-- The draft is accepted, and its network had been dismissed. -/
def Redeems (manager : Manager) (draft : Draft) (caller : Owner) : Prop :=
  (∃ result, (manager.addOrUpdate draft caller).2 = .ok result) ∧ draft.ssid.any manager.dismissed.contains = true

/-- An addition that takes an id says nothing about it and stores nobody under it, or welcomes the new profile. -/
theorem heard_addOrUpdate (wellFormed : manager.roster.WellFormed) (absent : manager.ledger.profile? ⟨manager.nextId⟩ = none)
    (spent : (manager.addOrUpdate draft caller).1.nextId ≠ manager.nextId) :
    ((∀ result, (manager.addOrUpdate draft caller).2 ≠ .ok result) ∧
        (manager.addOrUpdate draft caller).1.heard ⟨manager.nextId⟩ = manager.heard ⟨manager.nextId⟩ ∧
        (manager.addOrUpdate draft caller).1.ledger.profile? ⟨manager.nextId⟩ = none) ∨
      ((∃ result, (manager.addOrUpdate draft caller).2 = .ok result) ∧
        ∃ settled, (manager.addOrUpdate draft caller).1.heard ⟨manager.nextId⟩ =
          manager.heard ⟨manager.nextId⟩ ++ welcome (draft.ssid.any manager.dismissed.contains) settled) := by
  rcases addOrUpdate_cases manager draft caller with ⟨failure, refused⟩ | ⟨edit, owned, read, prepared, outcome⟩
  · rw [refused] at spent
    exact absurd rfl spent
  · obtain ⟨tenant, _, next⟩ := giveWay_keeps wellFormed draft
    obtain ⟨gone, quiet⟩ := absent_giveWay wellFormed absent draft
    have shown := heard_carryOut (manager.giveWay draft) draft edit ⟨manager.nextId⟩
    rcases carryOut_cases (manager.giveWay draft) draft edit with
      ⟨failure, after, refused, books⟩ | ⟨profile, roster, after, carried, stored, how⟩
    · rw [refused] at outcome shown
      rw [outcome]
      have same : after.roster = (manager.giveWay draft).roster := by
        rcases books with books | books <;> exact congrArg Books.roster books
      exact .inl ⟨fun _ => nofun, shown.trans quiet, (congrArg (·.profiles.get? ⟨manager.nextId⟩) same).trans gone⟩
    · rw [carried] at outcome shown
      rw [outcome] at spent ⊢
      have taken : after.nextId ≠ manager.nextId := fun same => spent ((nextId_followUp after _).trans same)
      obtain ⟨newcomer, new, fresh, named, there, waits, dismissed⟩ := exists_newcomer wellFormed owned prepared carried taken
      obtain ⟨settled, told⟩ := exists_welcomed there waits named new
      refine .inr ⟨⟨_, rfl⟩, settled, ?_⟩
      rw [fresh] at told
      rw [dismissed, ← quiet, ← shown]
      exact told

end Manager

end SavedNetworks
