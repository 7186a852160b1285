import SavedNetworks.Proofs.Manager.Following
import SavedNetworks.Proofs.Manager.Identity
import SavedNetworks.Proofs.Manager.Moods

/-!
Who listens knows the state and reason of every profile: each change of them is announced once, with the new ones, and
nothing else is announced as one (`Manager.announcedMoods_perform`).
-/

namespace SavedNetworks

/-- The state and reason that a change of selection is announced with. -/
def Event.mood? : Event → Option (Eligibility × Reason)
  | .enabled _ => some (.enabled, .enable)
  | .temporarilyDisabled _ reason => some (.temporarilyDisabled, reason)
  | .permanentlyDisabled _ reason => some (.permanentlyDisabled, reason)
  | _ => none

/-- A transition is announced if and only if it changes the mood, with the mood and the profile that it leads to. -/
theorem Transition.Reports.announced {old new : Profile} {transition : Transition}
    (reports : transition.Reports old.selection new.selection) :
    (new.mood = old.mood ∧ Manager.eventOf? new transition = none) ∨
      (new.mood ≠ old.mood ∧ ∃ event, Manager.eventOf? new transition = some event ∧ event.mood? = some new.mood ∧
        event.profile? = some new) := by
  cases reports with
  | enabled now other => exact .inr ⟨other, _, rfl, congrArg some now.symm, rfl⟩
  | temporarilyDisabled now other => exact .inr ⟨other, _, rfl, congrArg some now.symm, rfl⟩
  | permanentlyDisabled now other => exact .inr ⟨other, _, rfl, congrArg some now.symm, rfl⟩
  | nothing still same =>
      refine .inl ⟨same, ?_⟩
      cases transition with
      | enabled | temporarilyDisabled | permanentlyDisabled => cases still
      | unchanged | debounced | ignored => rfl

namespace Manager

variable {manager : Manager} {operation : Operation}

/-- The changes of selection that were announced about an id. -/
def announcedMoods (manager : Manager) (id : ProfileId) : List Event :=
  (manager.heard id).filter (·.mood?.isSome)

/-- An operation changes the state or the reason of a profile that stays if and only if it announces one change of its
selection and no more, with the new state and reason and with the profile as the operation leaves it. -/
theorem announcedMoods_perform (alone : manager.ReachableAlone) (goes : operation ≠ .restart)
    (room : operation.followsTenants = true → manager.nextId.toNat + manager.idsTaken operation < UInt32.size)
    {id : ProfileId} {before after : Profile} (found : manager.roster.profiles.get? id = some before)
    (stayed : (manager.perform operation).1.roster.profiles.get? id = some after) :
    ∃ announced, (manager.perform operation).1.announcedMoods id = manager.announcedMoods id ++ announced ∧
      (after.mood = before.mood ↔ announced = []) ∧
      (after.mood ≠ before.mood ↔
        ∃ event, announced = [event] ∧ event.mood? = some after.mood ∧ event.profile? = some after) := by
  have wellFormed : manager.roster.WellFormed := alone.sound.wellFormed
  obtain ⟨present, named⟩ := wellFormed.get?_eq_some_iff.1 found
  have known : id.value < manager.nextId := named ▸ alone.sound.numbered before present
  cases passage_perform wellFormed goes room known with
  | absent there => cases there.symm.trans found
  | dropped _ gone | removed _ gone => cases gone.symm.trans stayed
  | @stayed old new transition updates there now reports told edited =>
      obtain rfl := Option.some.inj (there.symm.trans found)
      obtain rfl := Option.some.inj (now.symm.trans stayed)
      have calls : (manager.perform operation).1.announcedMoods id =
          manager.announcedMoods id ++ (eventOf? new transition).toList.filter (·.mood?.isSome) := by
        have plain : updates.filter (·.mood?.isSome) = [] := by rcases edited with rfl | rfl <;> rfl
        have heard := congrArg (List.filter (·.mood?.isSome)) told
        rw [List.filter_append, List.filter_append, plain, List.append_nil] at heard
        exact heard
      rcases (reports (alone.coherent.memory old present)).announced with ⟨same, silent⟩ | ⟨other, event, one, mood, copy⟩
      · rw [silent, Option.toList_none, List.filter_nil] at calls
        refine ⟨[], calls, iff_of_true same rfl, iff_of_false (not_not_intro same) ?_⟩
        rintro ⟨event, one, _⟩
        cases one
      · have only : [event].filter (·.mood?.isSome) = [event] := by rw [List.filter_singleton, mood]; rfl
        rw [one, Option.toList_some, only] at calls
        exact ⟨[event], calls, iff_of_false other (List.cons_ne_nil event []), iff_of_true other ⟨event, rfl, mood, copy⟩⟩

theorem announcedMoods_pickedHome :
    ∃ event, (onEmptyStore.run pickedHome).announcedMoods ⟨0⟩ = [event] ∧ event.mood? = some (.enabled, .enable) := by
  have alone : (onEmptyStore.run (pickedHome.take 2)).ReachableAlone := reachableAlone_onEmptyStore.run (by decide)
  obtain ⟨before, found, disabled⟩ := Option.map_eq_some_iff.1 (by decide :
    ((onEmptyStore.run (pickedHome.take 2)).roster.profiles.get? ⟨0⟩).map Profile.mood = some (.permanentlyDisabled, .byManager))
  obtain ⟨after, stayed, enabled⟩ := Option.map_eq_some_iff.1 (by decide :
    (((onEmptyStore.run (pickedHome.take 2)).perform (.enable ⟨0⟩ true ⟨Uid.system, "android"⟩)).1.roster.profiles.get?
      ⟨0⟩).map Profile.mood = some (.enabled, .enable))
  have silent : (onEmptyStore.run (pickedHome.take 2)).announcedMoods ⟨0⟩ = [] := by decide
  have goes : Operation.enable ⟨0⟩ true ⟨Uid.system, "android"⟩ ≠ .restart := nofun
  obtain ⟨announced, told, _, changed⟩ := announcedMoods_perform alone goes nofun found stayed
  obtain ⟨event, rfl, mood, _⟩ := changed.1 (by rw [disabled, enabled]; decide)
  rw [silent] at told
  exact ⟨event, told, mood.trans (congrArg some enabled)⟩

end Manager

end SavedNetworks
