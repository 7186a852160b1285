import SavedNetworks.Proofs.Manager.Additions
import SavedNetworks.Proofs.Manager.Polling

/-!
Where an accepted edit ends. The outcome of the edit is found under the id that is returned, and its network is not
dismissed any more; one whose network was dismissed is turned on (`Manager.settled_addOrUpdate`).
-/

namespace SavedNetworks

namespace Profile

/-- Enabled, with everything about earlier failures forgotten. The coarse status follows where that is a change. -/
def turnedOn (profile : Profile) : Profile :=
  { profile with
    selection := profile.selection.readied
    status := if profile.selection.isEnabled then profile.status else .enabled }

/-- The profile once a call has forgotten the dismissal of its network, if there was one. -/
def settled (profile : Profile) (dismissed : Bool) : Profile := if dismissed then profile.turnedOn else profile

theorem ssid_settled (profile : Profile) (dismissed : Bool) : (profile.settled dismissed).ssid = profile.ssid := by
  cases dismissed <;> rfl

end Profile

/-- What an edit is stored as: its outcome, with an id and a station address of its own if it is new. -/
structure Edit.IsStoredAs (edit : Edit) (profile : Profile) : Prop where
  added : edit.existing = none → ∃ id station, profile = { edit.outcome with id, station }
  changed : ∀ existing, edit.existing = some existing → profile = edit.outcome

namespace Manager

variable {manager : Manager} {draft : Draft} {caller : Owner} {edit : Edit} {id : ProfileId} {profile : Profile}
  {result : EditResult}

/-- What a reason makes of a profile. -/
def taking (manager : Manager) (reason : Reason) (profile : Profile) : Profile :=
  let moved := manager.settings.rules.apply profile.selection reason manager.platform.elapsed manager.platform.watchdog
  { profile with selection := moved.1, status := (statusAfter moved.2).getD profile.status }

theorem updateSelection_of_isAccepted {reason : Reason} (found : manager.roster.get? id = some profile)
    (accepted : (manager.settings.rules.apply profile.selection reason manager.platform.elapsed
      manager.platform.watchdog).2.isAccepted = true) :
    ∃ store journal, manager.updateSelection id reason =
      ({ manager with roster := manager.roster.modify id fun _ => manager.taking reason profile, store, journal }, true) := by
  obtain ⟨store, journal, moved⟩ := manager.setSelection_eq id profile
    (manager.settings.rules.apply profile.selection reason manager.platform.elapsed manager.platform.watchdog).1
    (manager.settings.rules.apply profile.selection reason manager.platform.elapsed manager.platform.watchdog).2
  refine ⟨store, journal, ?_⟩
  unfold updateSelection
  rw [found]
  simp only [accepted, if_true, moved]
  rfl

theorem updateSelection_enable (found : manager.roster.get? id = some profile) :
    ∃ store journal, (manager.updateSelection id .enable).1 =
      { manager with roster := manager.roster.modify id fun _ => profile.turnedOn, store, journal } := by
  have applied : manager.settings.rules.apply profile.selection .enable manager.platform.elapsed
      manager.platform.watchdog =
        (profile.selection.readied, if profile.selection.isEnabled then .unchanged else .enabled) := by
    rw [Rules.apply, if_pos rfl, SelectionStatus.force_enable]
  have becomes : manager.taking .enable profile = profile.turnedOn := by
    unfold taking Profile.turnedOn
    rw [applied]
    cases profile.selection.isEnabled <;> rfl
  have accepted : (manager.settings.rules.apply profile.selection .enable manager.platform.elapsed
      manager.platform.watchdog).2.isAccepted = true := by
    rw [applied]
    cases profile.selection.isEnabled <;> rfl
  obtain ⟨store, journal, moved⟩ := updateSelection_of_isAccepted found accepted
  exact ⟨store, journal, by rw [moved, becomes]⟩

theorem undismiss_spec (found : manager.roster.get? id = some profile) :
    (manager.undismiss id).dismissed = manager.dismissed.erase profile.ssid ∧
      (manager.undismiss id).roster.get? id = some (profile.settled (manager.dismissed.contains profile.ssid)) := by
  unfold undismiss
  rw [found]
  simp only [Option.map_some, Option.getD_some]
  cases dismissed : manager.dismissed.contains profile.ssid with
  | false =>
      rw [if_neg Bool.false_ne_true, SortedMap.erase_of_not_contains dismissed]
      exact ⟨rfl, found⟩
  | true =>
      have kept : ({ manager with dismissed := manager.dismissed.erase profile.ssid } : Manager).roster.get? id =
          some profile := found
      obtain ⟨store, journal, moved⟩ := updateSelection_enable kept
      rw [if_pos rfl, moved]
      have visible : manager.roster.isVisible profile.turnedOn = true := (Roster.get?_eq_some.1 found).2
      exact ⟨rfl, Roster.get?_modify_self found visible⟩

/-- What is told and written after an edit changes neither the profiles nor the dismissals. -/
theorem followUp_eq (manager : Manager) (result : EditResult) :
    ∃ store journal, manager.followUp result = { manager.undismiss result.id with store, journal } := by
  unfold followUp
  simp only
  split
  · exact ⟨_, _, rfl⟩
  · split
    · rw [persist_eq]
      exact ⟨_, _, rfl⟩
    · exact ⟨_, _, rfl⟩

/-- Whoever may make an edit sees what it is stored as. -/
theorem isVisible_stored (wellFormed : manager.roster.WellFormed) (owned : manager.hasUid caller.uid = true)
    (prepared : manager.prepare draft caller (manager.replaced? draft) = .ok edit) (stored : edit.IsStoredAs profile) :
    manager.roster.isVisible profile = true := by
  rcases prepare_eq_ok prepared with ⟨existing, chosen, rfl⟩ | ⟨_, ssid, security, named, _, rfl⟩
  · have outlines := (manager.revision existing draft caller).outline_outcome
    have same : (manager.revision existing draft caller).outcome.visibleTo manager.roster.tenant =
        (manager.revision existing draft caller).profile.visibleTo manager.roster.tenant :=
      Profile.same_of_look (·.visibleTo manager.roster.tenant) (·.visibleTo_outline manager.roster.tenant) outlines
    rw [stored.changed existing rfl, Roster.isVisible, same]
    exact (Roster.get?_eq_some.1 (edited?_eq_some wellFormed chosen).1).2
  · obtain ⟨id, station, rfl⟩ := stored.added rfl
    have creator := (outcome_ofDraft named security caller manager.stamp).1
    rw [Roster.isVisible, Profile.visibleTo, Bool.or_eq_true]
    exact .inr (creator.symm ▸ owned)

/-- An accepted edit returns the id of its outcome, which is found there, turned on if its network was dismissed. -/
theorem settled_addOrUpdate (wellFormed : manager.roster.WellFormed)
    (accepted : (manager.addOrUpdate draft caller).2 = .ok result) :
    ∃ edit stored, manager.prepare draft caller (manager.replaced? draft) = .ok edit ∧ result = edit.result stored.id ∧
      edit.IsStoredAs stored ∧
      (manager.addOrUpdate draft caller).1.dismissed = manager.dismissed.erase stored.ssid ∧
      (manager.addOrUpdate draft caller).1.roster.get? stored.id =
        some (stored.settled (manager.dismissed.contains stored.ssid)) := by
  rcases addOrUpdate_cases manager draft caller with ⟨failure, refused⟩ | ⟨edit, owned, read, prepared, outcome⟩
  · rw [refused] at accepted
    cases accepted
  · rw [outcome] at accepted ⊢
    rcases carryOut_cases (manager.giveWay draft) draft edit with
      ⟨failure, after, refused, _⟩ | ⟨stored, roster, after, carried, put, how⟩
    · rw [refused] at accepted
      cases accepted
    · rw [carried] at accepted ⊢
      obtain rfl := Except.ok.inj accepted
      obtain ⟨shape, rosters, dismissals⟩ : edit.IsStoredAs stored ∧ after.roster = roster ∧
          after.dismissed = (manager.giveWay draft).dismissed := by
        rcases how with ⟨new, ⟨station, shape⟩, books⟩ | ⟨⟨existing, old⟩, shape, books⟩
        · exact ⟨⟨fun _ => ⟨_, station, shape⟩, fun _ old => (nomatch new.symm.trans old)⟩,
            congrArg Books.roster books, congrArg Books.dismissed books⟩
        · exact ⟨⟨fun new => (nomatch new.symm.trans old), fun _ _ => shape⟩,
            congrArg Books.roster books, congrArg Books.dismissed books⟩
      have visible : (manager.giveWay draft).roster.isVisible stored = true := by
        rw [Roster.isVisible, (giveWay_keeps wellFormed draft).1]
        exact isVisible_stored wellFormed owned prepared shape
      have found : after.roster.get? stored.id = some stored := by
        rw [rosters]
        exact (wellFormed_giveWay wellFormed draft).get?_put put visible
      obtain ⟨erased, there⟩ := undismiss_spec found
      obtain ⟨store, journal, followed⟩ := after.followUp_eq (edit.result stored.id)
      rw [dismissals, dismissed_giveWay wellFormed] at erased there
      simp only [followed]
      exact ⟨edit, stored, prepared, rfl, shape, erased, there⟩

end Manager

end SavedNetworks
