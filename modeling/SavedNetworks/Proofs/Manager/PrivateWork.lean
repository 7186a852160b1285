import SavedNetworks.Proofs.Manager.LeftAlone

/-!
Work on the private profiles of the current tenant: adding, changing and removing them, observing them, choosing
and dismissing them. What stays when the tenant leaves is as before, but for the links to private profiles and the
choices of them (`Manager.beside_perform`). Work on what is under one key leaves alone what stays under any other.
-/

namespace SavedNetworks

namespace Manager

variable {manager : Manager} {id : ProfileId} {key : ProfileKey} {keys : ProfileKey → Prop} {operation : Operation}

/-- Makes a private profile of the current tenant the choice against another one. -/
def choosesPrivate (manager : Manager) : Operation → Bool
  | .setConnectChoice _ choice =>
      manager.roster.all.any fun profile => profile.key == choice.key && !manager.belongsToShared profile
  | _ => false

/-- Is about private profiles of the current tenant alone, or makes one of them the choice against another profile. -/
def worksPrivately (manager : Manager) (operation : Operation) : Bool :=
  manager.worksOn (!manager.belongsToShared ·) operation || manager.choosesPrivate operation

/-- Is about private profiles of the current tenant, and about what is under one key. -/
def worksUnder (manager : Manager) (key : ProfileKey) (operation : Operation) : Bool :=
  manager.worksOn (fun profile => !manager.belongsToShared profile || profile.key == key) operation

/-- Work on private profiles leaves alone what stays, under any key. -/
def Beside (before after : Manager) : Prop := LeavesAlone (fun _ => True) before after

theorem outside_of_owned {profile : Profile} (owned : manager.belongsToShared profile = false) :
    manager.Outside keys profile := fun belongs => Bool.noConfusion (owned.symm.trans belongs)

/-- A private profile is preferred to another one. -/
theorem leavesAlone_setConnectChoice {profile : Profile} (wellFormed : manager.roster.WellFormed)
    (present : profile ∈ manager.roster.all) (owned : manager.belongsToShared profile = false) (id : ProfileId)
    (choice : ConnectChoice) : LeavesAlone keys manager (manager.setConnectChoice id choice).1 := by
  unfold setConnectChoice noteStored
  split
  · have looks : (manager.roster.modify id fun other =>
        other.withSelection { other.selection with connectChoice := some choice }).through (Profile.besides profile.id) =
          manager.roster.through (Profile.besides profile.id) :=
      Roster.through_modify fun _ _ => Profile.besides_congr rfl (fun _ => rfl) (.inl rfl)
    have moved : LeavesAlone keys manager (manager.modify id fun other =>
        other.withSelection { other.selection with connectChoice := some choice }) := by
      refine .of_looks (.of_eq rfl (Roster.tenant_of_through looks)) wellFormed looks fun other among same => ?_
      obtain rfl := wellFormed.eq_of_id among present same
      exact outside_of_owned owned
    exact moved.trans (leavesAlone_persist _ false)
  · exact .refl keys manager

theorem leavesAlone_of_choosesPrivate (wellFormed : manager.roster.WellFormed) (chooses : manager.choosesPrivate operation = true) :
    LeavesAlone keys manager (manager.perform operation).1 := by
  cases operation with
  | setConnectChoice id choice =>
      obtain ⟨profile, present, matching⟩ := List.any_eq_true.1 chooses
      have owned : manager.belongsToShared profile = false := by
        simpa using (Bool.and_eq_true_iff.1 matching).2
      exact leavesAlone_setConnectChoice wellFormed present owned id choice
  | _ => cases chooses

theorem beside_perform (sound : manager.books.Sound) (works : manager.worksPrivately operation = true) :
    manager.Beside (manager.perform operation).1 := by
  rcases Bool.or_eq_true_iff.1 works with about | chooses
  · exact leavesAlone_perform sound (fun profile owned => outside_of_owned (Bool.not_eq_true' _ ▸ owned)) about
  · exact leavesAlone_of_choosesPrivate sound.wellFormed chooses

/-- Work under a key leaves alone what stays under the others. -/
theorem leavesAlone_of_worksUnder (sound : manager.books.Sound) (works : manager.worksUnder key operation = true) :
    LeavesAlone (· ≠ key) manager (manager.perform operation).1 := by
  refine leavesAlone_perform sound (fun profile permitted belongs elsewhere => ?_) works
  rcases Bool.or_eq_true_iff.1 permitted with owned | same
  · rw [belongs] at owned
    cases owned
  · exact elsewhere (beq_iff_eq.1 same)

theorem beside_run {operations : List Operation} (sound : manager.books.Sound) (ordinary : manager.Along Ordinary operations)
    (works : manager.Along (fun manager operation => manager.worksPrivately operation = true) operations) :
    manager.Beside (manager.run operations) := by
  induction operations generalizing manager with
  | nil => exact .refl _ manager
  | cons operation rest ih =>
      obtain ⟨now, later⟩ := ordinary
      exact (beside_perform sound works.1).trans (ih (sound_perform sound now.room) later works.2)

end Manager

end SavedNetworks
