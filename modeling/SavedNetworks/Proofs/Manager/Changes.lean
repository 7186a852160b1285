import SavedNetworks.Proofs.Manager.Moves

/-!
The moves that removals, dismissals, scans and connections consist of.
-/

namespace SavedNetworks

namespace Manager

variable {allowed : Move → Prop} {manager : Manager} {id : ProfileId}

/-- The key store may be told to forget keys, and that is all. -/
theorem exists_forgetKeys (manager : Manager) (profile : Profile) :
    ∃ journal, manager.forgetKeys profile = { manager with journal } := by
  unfold forgetKeys
  split
  · split
    · exact ⟨_, rfl⟩
    · exact ⟨_, rfl⟩
  · exact ⟨_, rfl⟩

theorem deselect_eq (manager : Manager) (id : ProfileId) :
    manager.deselect id = { manager with lastSelected := manager.lastSelected.filter (·.1 != id) } := by
  unfold deselect
  cases last : manager.lastSelected with
  | none =>
      rw [Option.any_none, if_neg Bool.false_ne_true, Option.filter_none, ← last]
  | some selected =>
      by_cases same : selected.1 = id
      · simp [same, Option.filter]
      · have kept : (some selected).filter (·.1 != id) = some selected := by simp [Option.filter, same]
        rw [Option.any_some, if_neg (by simpa using same), kept, ← last]

/-- The manager without a profile and all that refers to it. -/
def without (manager : Manager) (id : ProfileId) (profile : Profile) : Manager :=
  { manager with
    roster := manager.roster.drop id profile.key
    caches := manager.caches.erase id
    platform := { manager.platform with blocked := manager.platform.blocked.erase profile.ssid }
    lastSelected := manager.lastSelected.filter (·.1 != id) }

theorem removeAnyway_of_not_found (missing : manager.roster.get? id = none) : manager.removeAnyway id = (manager, false) := by
  unfold removeAnyway
  rw [missing]

theorem removeAnyway_of_found {profile : Profile} (found : manager.roster.get? id = some profile) :
    manager.removeAnyway id = ((if profile.isSaved then ((manager.forgetKeys profile).without id profile).persist true
      else (manager.forgetKeys profile).without id profile).announce (.removed profile), true) := by
  unfold removeAnyway
  rw [found]
  simp only [deselect_eq]
  rfl

/-- A removal saves the rest, unless the profile was not saved itself. -/
theorem books_removeAnyway {profile : Profile} (found : manager.roster.get? id = some profile) :
    ∃ left : Manager, left.books = { manager.books with roster := manager.roster.drop id profile.key } ∧
      (manager.removeAnyway id).1.books = (if profile.isSaved then left.persist true else left).books := by
  obtain ⟨journal, told⟩ := manager.exists_forgetKeys profile
  refine ⟨(manager.forgetKeys profile).without id profile, ?_, ?_⟩
  · rw [told]
    rfl
  · rw [removeAnyway_of_found found]
    rfl

theorem moves_removeAnyway (lenient : Lenient allowed) (permitted : allowed (.drop id)) (manager : Manager) :
    Moves allowed manager.books (manager.removeAnyway id).1.books := by
  cases found : manager.roster.get? id with
  | none =>
      rw [removeAnyway_of_not_found found]
      exact .refl
  | some profile =>
      obtain ⟨left, dropped, after⟩ := books_removeAnyway found
      have moved : Moves allowed manager.books left.books := by
        rw [dropped]
        exact .one permitted (.drop found)
      rw [after]
      split
      · exact moved.trans (moves_persist lenient.write left true)
      · exact moved

theorem moves_removeMatching (lenient : Lenient allowed) {doomed : Profile → Bool}
    (wellFormed : manager.roster.WellFormed)
    (permitted : ∀ id profile, manager.roster.get? id = some profile → doomed profile = true → allowed (.drop id)) :
    Moves allowed manager.books (manager.removeMatching doomed).1.books := by
  refine moves_collect (fun id among other => moves_removeAnyway lenient ?_ other) manager
  obtain ⟨profile, chosen, rfl⟩ := List.mem_map.1 among
  obtain ⟨seen, selected⟩ := List.mem_filter.1 chosen
  obtain ⟨present, visible⟩ := List.mem_filter.1 seen
  exact permitted profile.id profile (Roster.get?_eq_some.2 ⟨wellFormed.mem_all_iff.1 present, visible⟩) selected

theorem moves_removeByKey (lenient : Lenient allowed) {doomed : Profile → Bool} {key : ProfileKey}
    (permitted : ∀ profile, manager.roster.getByKey? key = some profile → doomed profile = true → allowed (.drop profile.id)) :
    Moves allowed manager.books (manager.removeByKey key doomed).1.books := by
  unfold removeByKey
  split
  · next profile found =>
      obtain ⟨held, selected⟩ := Option.filter_eq_some_iff.1 found
      exact moves_removeAnyway lenient (permitted profile held selected) manager
  · exact .refl

/-- A caller's removal is refused, or goes through. -/
theorem remove_cases (manager : Manager) (id : ProfileId) (caller : Owner) :
    manager.remove id caller = (manager, false) ∨
      manager.remove id caller = manager.removeAnyway id ∧ (manager.removeAnyway id).2 = true := by
  unfold remove
  split
  · exact .inl rfl
  · split
    · exact .inl rfl
    · next profile found =>
        have done : (manager.removeAnyway id).2 = true := by rw [removeAnyway_of_found found]
        split
        · exact .inr ⟨rfl, done⟩
        · exact .inl rfl

theorem outline_forgetChoice (profile : Profile) (key : ProfileKey) : (profile.forgetChoice key).outline = profile.outline :=
  rfl

theorem moves_decide (lenient : Lenient allowed) (manager : Manager) (id : ProfileId) (reason : Reason) (caller : Owner) :
    Moves allowed manager.books (manager.decide id reason caller).1.books := by
  have selected := moves_updateSelection lenient manager id reason
  unfold decide
  split
  · split
    · next after moved =>
        rw [moved] at selected
        exact selected.trans (moves_persist lenient.write after true)
    · next after moved =>
        rw [moved] at selected
        exact selected
  · exact .refl

theorem moves_enable (lenient : Lenient allowed) (manager : Manager) (id : ProfileId) (exclusive : Bool)
    (caller : Owner) : Moves allowed manager.books (manager.enable id exclusive caller).1.books := by
  unfold enable
  split
  · exact .refl
  · split
    · exact moves_decide lenient { manager with lastSelected := some (id, manager.platform.elapsed) } id .enable caller
    · exact moves_decide lenient manager id .enable caller

theorem moves_disable (lenient : Lenient allowed) (manager : Manager) (id : ProfileId) (caller : Owner) :
    Moves allowed manager.books (manager.disable id caller).1.books := by
  unfold disable
  split
  · exact .refl
  · have decided := moves_decide lenient (manager.deselect id) id .byManager caller
    rw [deselect_eq] at decided ⊢
    exact decided

theorem moves_dismiss (lenient : Lenient allowed) (permitted : allowed .dismiss) (manager : Manager) (ssid : String) :
    Moves allowed manager.books (manager.dismiss ssid).1.books := by
  unfold dismiss
  split
  · exact .refl
  · next profile _ =>
      have remembered : Moves allowed manager.books
          { manager with dismissed := manager.dismissed.insert ssid manager.platform.wall }.books :=
        .one permitted (.dismiss _)
      generalize { manager with dismissed := manager.dismissed.insert ssid manager.platform.wall } = noted at remembered
      have forgotten : Moves allowed noted.books (noted.forgetChoices profile.key).books :=
        .one lenient.note (.note (Roster.through_modifyVisible fun profile => outline_forgetChoice profile _))
      exact (remembered.trans forgotten).trans (moves_updateSelection lenient _ profile.id .byManager)

theorem moves_forgive (lenient : Lenient allowed) (manager : Manager) (ssid : String) :
    Moves allowed manager.books { manager with dismissed := manager.dismissed.erase ssid }.books := by
  refine .one lenient.forgive (.forgive fun other dismissedAt found => ?_)
  rw [SortedMap.get?_erase] at found
  split at found
  · cases found
  · exact found

theorem moves_checkDismissal (lenient : Lenient allowed) (manager : Manager) (ssid : String) :
    Moves allowed manager.books (manager.checkDismissal ssid).1.books := by
  have forgiven := moves_forgive lenient manager ssid
  rw [checkDismissal_eq]
  split
  · exact .refl
  · split
    · exact .refl
    · simp only
      split
      · exact forgiven.trans (moves_updateSelection lenient _ _ .enable)
      · exact forgiven

theorem moves_clearDismissals (lenient : Lenient allowed) (manager : Manager) :
    Moves allowed manager.books manager.clearDismissals.books :=
  .one lenient.forgive (.forgive nofun)

theorem moves_undismiss (lenient : Lenient allowed) (manager : Manager) (id : ProfileId) :
    Moves allowed manager.books (manager.undismiss id).books := by
  unfold undismiss
  simp only
  split
  · exact (moves_forgive lenient manager _).trans (moves_updateSelection lenient _ id .enable)
  · exact .refl

theorem moves_followUp (lenient : Lenient allowed) (manager : Manager) (result : EditResult) :
    Moves allowed manager.books (manager.followUp result).books := by
  have undismissed := moves_undismiss lenient manager result.id
  unfold followUp
  simp only
  generalize manager.undismiss result.id = noted at undismissed
  split
  · exact undismissed
  · next profile _ =>
      generalize (if result.isNew = true then Event.added profile else Event.updated profile) = event
      split
      · exact undismissed.trans (moves_persist lenient.write (noted.announce event) true)
      · exact undismissed

theorem moves_observe (permitted : allowed .relink) (manager : Manager) (id : ProfileId) (sighting : Sighting) :
    Moves allowed manager.books (manager.observe id sighting).1.books := by
  unfold observe
  split
  · exact .refl
  · exact .one permitted (.relink manager.settings.linkRule _ id)

theorem books_observeLive (manager : Manager) (id : ProfileId) (bssid : Address) (level : Int32) :
    (manager.observeLive id bssid level).1.books = manager.books := by
  unfold observeLive
  split <;> rfl

theorem outline_forConnection (randomizer : Randomizer) (profile : Profile) (now : Millis) :
    (randomizer.forConnection profile now).2.1.outline = profile.outline := by
  unfold Randomizer.forConnection
  simp only
  split
  · split <;> rfl
  · split <;> rfl

theorem moves_connectionAddress (lenient : Lenient allowed) (manager : Manager) (id : ProfileId) :
    Moves allowed manager.books (manager.connectionAddress id).1.books := by
  unfold connectionAddress
  split
  · exact .refl
  · next profile found =>
      split
      · exact .refl
      · have outlines := outline_forConnection manager.randomizer profile manager.platform.wall
        generalize manager.randomizer.forConnection profile manager.platform.wall = shown at outlines
        obtain ⟨randomizer, changed, address⟩ := shown
        have noted : ∀ same, manager.roster.get? id = some same → changed.outline = same.outline := by
          intro same again
          rw [found, Option.some.injEq] at again
          rw [← again]
          exact outlines
        have moved : Moves allowed { manager with randomizer }.books
            ({ manager with randomizer }.modify id fun _ => changed).books := moves_modify lenient noted
        exact moved

theorem moves_renewLease (lenient : Lenient allowed) (manager : Manager) (id : ProfileId) (seconds : UInt32) :
    Moves allowed manager.books (manager.renewLease id seconds).1.books := by
  unfold renewLease
  split
  · exact moves_modify lenient fun _ _ => rfl
  · exact .refl

theorem outline_resetSim (profile : Profile) :
    { profile with enterprise := profile.enterprise.map Enterprise.resetSim }.outline = profile.outline := by
  unfold Profile.outline
  simp only [Enterprise.map_resetSim_resetSim]

theorem moves_resetSim (lenient : Lenient allowed) (manager : Manager) :
    Moves allowed manager.books manager.resetSim.books :=
  .one lenient.note (.note (Roster.through_modifyVisible outline_resetSim))

end Manager

end SavedNetworks
