import SavedNetworks.Proofs.Manager.References
import SavedNetworks.Proofs.Manager.Runs
import SavedNetworks.Proofs.Randomization
import SavedNetworks.Proofs.Store.Reading

/-!
Work on the profile of one id: noting something on it, selecting, observing and connecting it. Every other
profile is as before, but for the profiles that it names (`Manager.about_perform`).
-/

namespace SavedNetworks

namespace Store

/-- A write for others changes no answer to the reader of a section. -/
theorem answer_write_of_ne {named : Option Tenant} {tenant : Tenant} (other : named ≠ some tenant) (store : Store)
    (data : StoreData) (force : Bool) :
    ((store.write named data force).1.readTenant tenant).2 = (store.readTenant tenant).2 := by
  have found := sectionFound_write_of_ne other store data force
  cases store with
  | immediate store =>
      have failing : (store.write named data force).1.failNextRead = store.failNextRead := by
        unfold ImmediateStore.write
        split <;> rfl
      have same : (store.write named data force).1.section? tenant = store.section? tenant := Except.ok.inj found
      simp only [write, readTenant, ImmediateStore.readTenant, ImmediateStore.answer, failing, same]
      split <;> rfl
  | buffered store => exact found

end Store

namespace Profile

/-- A profile without what it names: the profiles linked to it, and the one that the user preferred to it. -/
def nameless (profile : Profile) : Profile :=
  { profile with linked := .empty, selection := { profile.selection with connectChoice := none } }

/-- Profiles without what they name, and the frame alone of the one that is worked on. -/
def besides (id : ProfileId) (profile : Profile) : Profile :=
  if profile.id = id then profile.frame else profile.nameless

variable {id : ProfileId} {profile other : Profile}

theorem id_besides (id : ProfileId) (profile : Profile) : (profile.besides id).id = profile.id := by
  unfold besides
  split <;> rfl

theorem owner_besides (id : ProfileId) (profile : Profile) :
    (profile.besides id).shared = profile.shared ∧ (profile.besides id).creator = profile.creator := by
  unfold besides
  split <;> exact ⟨rfl, rfl⟩

theorem besides_congr (same : profile.id = other.id) (frames : profile.id = id → profile.frame = other.frame)
    (names : profile.nameless = other.nameless ∨ profile.id = id) : profile.besides id = other.besides id := by
  unfold besides
  by_cases worked : profile.id = id
  · rw [if_pos worked, if_pos (same ▸ worked), frames worked]
  · rw [if_neg worked, if_neg (same ▸ worked), names.resolve_right worked]

theorem nameless_of_besides (same : profile.besides id = other.besides id) (elsewhere : other.id ≠ id) :
    profile.nameless = other.nameless := by
  have ids : profile.id = other.id := by rw [← id_besides id profile, same, id_besides]
  unfold besides at same
  rwa [if_neg (ids ▸ elsewhere), if_neg elsewhere] at same

theorem nameless_forgetChoice (profile : Profile) (key : ProfileKey) : (profile.forgetChoice key).nameless = profile.nameless := by
  unfold forgetChoice SelectionStatus.forgetChoice
  split <;> rfl

theorem hidesLinks_nameless : Roster.HidesLinks nameless := ⟨fun _ _ => rfl, fun _ _ => rfl⟩

theorem nameless_released (roster : Roster) (key : ProfileKey) (profile : Profile) :
    (roster.released key profile).nameless = profile.nameless :=
  hidesLinks_nameless.released nameless_forgetChoice roster key profile

theorem besides_forgetChoice (id : ProfileId) (profile : Profile) (key : ProfileKey) :
    (profile.forgetChoice key).besides id = profile.besides id :=
  besides_congr rfl (fun _ => rfl) (.inl (nameless_forgetChoice profile key))

theorem hidesLinks_besides (id : ProfileId) : Roster.HidesLinks (besides id) :=
  ⟨fun _ _ => besides_congr rfl (fun _ => rfl) (.inl rfl), fun _ _ => besides_congr rfl (fun _ => rfl) (.inl rfl)⟩

end Profile

/-- The profile that an operation works on. -/
def Operation.subject? : Operation → Option ProfileId
  | enable id _ _ | disable id _ | updateSelection id _ | updateSelectionCode id _ | tryEnable id | recordConnected id
  | recordDisconnected id | setConnectChoice id _ | clearConnectChoice id | setCandidate id _ | clearCandidate id
  | reportNoInternet id | setValidated id _ | setNoInternetExpected id _ | setAutojoin id _ | setLastConnectUid id _
  | setRecentFailure id _ | clearRecentFailure id | setGateway id _ | observe id _ | observeLive id _ _
  | connectionAddress id | renewLease id _ => some id
  | _ => none

namespace Manager

variable {manager before middle after : Manager} {id : ProfileId} {operation : Operation} {change : Profile → Profile}

/-- All that counts beside the profiles. -/
def surroundings (manager : Manager) : Bool × SortedSet Tenant × RandomizationPolicy × Store :=
  (manager.awaitsStore, manager.platform.unlocked, manager.randomizer.policy, manager.store)

/-- The same tenant is in the foreground, and others find the same when they come. -/
structure SameSurroundings (before after : Manager) : Prop where
  tenant : after.tenant = before.tenant
  read : after.awaitsStore = before.awaitsStore
  unlocked : after.platform.unlocked = before.platform.unlocked
  policy : after.randomizer.policy = before.randomizer.policy
  answers : ∀ target, target ≠ before.tenant →
    (after.store.readTenant target).2 = (before.store.readTenant target).2

namespace SameSurroundings

theorem of_eq (same : after.surroundings = before.surroundings) (tenant : after.tenant = before.tenant) :
    before.SameSurroundings after := by
  obtain ⟨read, others⟩ := Prod.mk.inj same
  obtain ⟨unlocked, others⟩ := Prod.mk.inj others
  obtain ⟨policy, store⟩ := Prod.mk.inj others
  exact ⟨tenant, read, unlocked, policy, fun target _ => by rw [store]⟩

theorem refl (manager : Manager) : manager.SameSurroundings manager := of_eq rfl rfl

theorem trans (first : before.SameSurroundings middle) (second : middle.SameSurroundings after) :
    before.SameSurroundings after where
  tenant := second.tenant.trans first.tenant
  read := second.read.trans first.read
  unlocked := second.unlocked.trans first.unlocked
  policy := second.policy.trans first.policy
  answers := fun target different =>
    (second.answers target (first.tenant ▸ different)).trans (first.answers target different)

end SameSurroundings

/-- A write is for the tenant in the foreground. -/
theorem sameSurroundings_persist (manager : Manager) (force : Bool) : manager.SameSurroundings (manager.persist force) := by
  have same : (manager.persist force).awaitsStore = manager.awaitsStore ∧
      (manager.persist force).platform.unlocked = manager.platform.unlocked ∧
      (manager.persist force).randomizer.policy = manager.randomizer.policy ∧
      (manager.persist force).tenant = manager.tenant := by
    rw [persist_eq]
    exact ⟨rfl, rfl, rfl, rfl⟩
  obtain ⟨read, unlocked, policy, tenant⟩ := same
  refine ⟨tenant, read, unlocked, policy, fun target different => ?_⟩
  obtain unread | ready := Bool.eq_false_or_eq_true manager.awaitsStore
  · rw [persist_of_awaitsStore unread]
  · have elsewhere : manager.writtenTenant ≠ some target :=
      fun named => different (Books.Placed.tenant_of_writtenTenant (show manager.books.writtenTenant = some target from named)).symm
    unfold persist
    rw [save_of_read ready]
    exact Store.answer_write_of_ne elsewhere manager.store manager.sections force

theorem surroundings_carryOut (manager : Manager) (draft : Draft) (edit : Edit) :
    (manager.carryOut draft edit).1.surroundings = manager.surroundings := by
  obtain ⟨_, _, _, _, same, pruned⟩ := carryOut_frame manager draft edit
  rw [same]
  exact congrArg (fun policy => (manager.awaitsStore, manager.platform.unlocked, policy, manager.store)) pruned.policy

/-- Every profile but that of the id is as before, up to what it names; and so are all if the id is not seen. -/
structure About (before : Manager) (id : ProfileId) (after : Manager) : Prop extends before.SameSurroundings after where
  looks : after.roster.through (Profile.besides id) = before.roster.through (Profile.besides id)
  unseen : before.roster.get? id = none → after.roster = before.roster

namespace About

theorem of_roster (same : after.surroundings = before.surroundings) (roster : after.roster = before.roster) :
    before.About id after :=
  ⟨.of_eq same (congrArg Roster.tenant roster), congrArg (Roster.through (Profile.besides id)) roster, fun _ => roster⟩

theorem of_looks {profile : Profile} (same : after.surroundings = before.surroundings)
    (looks : after.roster.through (Profile.besides id) = before.roster.through (Profile.besides id))
    (found : before.roster.get? id = some profile) : before.About id after :=
  ⟨.of_eq same (Roster.tenant_of_through looks), looks, fun missing => by cases found.symm.trans missing⟩

theorem refl (manager : Manager) (id : ProfileId) : manager.About id manager := of_roster rfl rfl

theorem trans (first : before.About id middle) (second : middle.About id after) : before.About id after where
  toSameSurroundings := first.toSameSurroundings.trans second.toSameSurroundings
  looks := second.looks.trans first.looks
  unseen := fun missing => by
    have same := first.unseen missing
    exact (second.unseen (same ▸ missing)).trans same

end About

theorem about_persist (manager : Manager) (id : ProfileId) (force : Bool) : manager.About id (manager.persist force) := by
  have same : (manager.persist force).roster = manager.roster := by rw [persist_eq]
  exact ⟨sameSurroundings_persist manager force, congrArg (Roster.through (Profile.besides id)) same, fun _ => same⟩

theorem about_announce (manager : Manager) (id : ProfileId) (event : Event) : manager.About id (manager.announce event) :=
  .of_roster rfl rfl

section Notes

variable (wellFormed : manager.roster.WellFormed)

include wellFormed

theorem about_modify (noted : ∀ profile, manager.roster.get? id = some profile → (change profile).outline = profile.outline) :
    manager.About id (manager.modify id change) := by
  refine ⟨.of_eq rfl (Roster.tenant_modify ..), Roster.through_modify fun profile found => ?_, fun missing => ?_⟩
  · have outlines := noted profile found
    have worked := wellFormed.id_of_get? found
    have same := (Roster.keepsName_outline.same outlines).1
    exact Profile.besides_congr same (fun _ => congrArg (fun outline : Profile => { outline with linked := .empty }) outlines)
      (.inr (same.trans worked))
  · simp only [modify, Roster.modify, missing]

theorem about_note (noted : ∀ profile, (change profile).outline = profile.outline) :
    manager.About id (manager.note id change).1 := by
  unfold note
  split
  · exact about_modify wellFormed fun profile _ => noted profile
  · exact .refl manager id

theorem about_noteStored (noted : ∀ profile, (change profile).outline = profile.outline) :
    manager.About id (manager.noteStored id change).1 := by
  unfold noteStored
  split
  · exact (about_modify wellFormed fun profile _ => noted profile).trans (about_persist _ id false)
  · exact .refl manager id

theorem about_setSelection {profile : Profile} (found : manager.roster.get? id = some profile) (selection : SelectionStatus)
    (transition : Transition) : manager.About id (manager.setSelection id profile selection transition) := by
  unfold setSelection
  have noted : manager.About id (manager.modify id fun _ =>
      { profile with selection, status := (statusAfter transition).getD profile.status }) := by
    refine about_modify wellFormed fun same again => ?_
    obtain rfl := Option.some.inj (found.symm.trans again)
    rfl
  simp only
  split
  · exact (noted.trans (about_announce _ id _)).trans (about_persist _ id false)
  · exact noted

theorem about_updateSelection (id : ProfileId) (reason : Reason) : manager.About id (manager.updateSelection id reason).1 := by
  unfold updateSelection
  split
  · exact .refl manager id
  · next profile found =>
      simp only
      split
      · exact about_setSelection wellFormed found _ _
      · exact .refl manager id

theorem about_tryEnable (id : ProfileId) : manager.About id (manager.tryEnable id).1 := by
  unfold tryEnable
  split
  · exact .refl manager id
  · next profile found => exact about_setSelection wellFormed found _ _

theorem about_decide (id : ProfileId) (reason : Reason) (caller : Owner) : manager.About id (manager.decide id reason caller).1 := by
  have selected := about_updateSelection wellFormed id reason
  unfold decide
  split
  · split
    · next after moved =>
        rw [moved] at selected
        exact selected.trans (about_persist after id true)
    · next after moved =>
        rw [moved] at selected
        exact selected
  · exact .refl manager id

theorem about_enable (id : ProfileId) (exclusive : Bool) (caller : Owner) :
    manager.About id (manager.enable id exclusive caller).1 := by
  unfold enable
  split
  · exact .refl manager id
  · split
    · have picked : manager.About id { manager with lastSelected := some (id, manager.platform.elapsed) } := .of_roster rfl rfl
      have still : ({ manager with lastSelected := some (id, manager.platform.elapsed) } : Manager).roster.WellFormed := wellFormed
      exact picked.trans (about_decide still id .enable caller)
    · exact about_decide wellFormed id .enable caller

theorem about_disable (id : ProfileId) (caller : Owner) : manager.About id (manager.disable id caller).1 := by
  have dropped : manager.About id (manager.deselect id) ∧ (manager.deselect id).roster.WellFormed := by
    rw [deselect_eq]
    exact ⟨.of_roster rfl rfl, wellFormed⟩
  unfold disable
  split
  · exact .refl manager id
  · exact dropped.1.trans (about_decide dropped.2 id .byManager caller)

theorem about_connectionAddress (id : ProfileId) : manager.About id (manager.connectionAddress id).1 := by
  unfold connectionAddress
  split
  · exact .refl manager id
  · next profile found =>
      split
      · exact .refl manager id
      · have policy := manager.randomizer.policy_forConnection profile manager.platform.wall
        have outlines := outline_forConnection manager.randomizer profile manager.platform.wall
        generalize manager.randomizer.forConnection profile manager.platform.wall = shown at policy outlines
        obtain ⟨randomizer, changed, address⟩ := shown
        have drawn : manager.About id { manager with randomizer } := .of_roster (congrArg (fun policy =>
          (manager.awaitsStore, manager.platform.unlocked, policy, manager.store)) policy) rfl
        have still : ({ manager with randomizer } : Manager).roster.WellFormed := wellFormed
        refine drawn.trans (about_modify still fun same again => ?_)
        obtain rfl := Option.some.inj (found.symm.trans again)
        exact outlines

theorem about_followUp (result : EditResult) : manager.About result.id (manager.followUp result) := by
  have undismissed : manager.About result.id (manager.undismiss result.id) := by
    unfold undismiss
    simp only
    split
    · generalize erasing : manager.dismissed.erase _ = dismissed
      have erased : manager.About result.id { manager with dismissed } := .of_roster rfl rfl
      have still : ({ manager with dismissed } : Manager).roster.WellFormed := wellFormed
      exact erased.trans (about_updateSelection still result.id .enable)
    · exact .refl manager result.id
  unfold followUp
  simp only
  split
  · exact undismissed
  · split
    · exact (undismissed.trans (about_announce _ _ _)).trans (about_persist _ _ true)
    · exact undismissed.trans (about_announce _ _ _)

theorem get?_of_unsaved? {ssid : String} {profile : Profile} (found : manager.unsaved? ssid = some profile) :
    manager.roster.get? profile.id = some profile := wellFormed.mem_visible.1 (List.mem_of_find?_eq_some found)

theorem about_dismiss {ssid : String} {profile : Profile} (found : manager.unsaved? ssid = some profile) :
    manager.About profile.id (manager.dismiss ssid).1 := by
  have looks : (manager.roster.modifyVisible (·.forgetChoice profile.key)).through (Profile.besides profile.id) =
      manager.roster.through (Profile.besides profile.id) :=
    Roster.through_modifyVisible fun other => Profile.besides_forgetChoice profile.id other profile.key
  unfold dismiss
  simp only [found]
  generalize manager.dismissed.insert ssid manager.platform.wall = dismissed
  have forgotten : manager.About profile.id (({ manager with dismissed } : Manager).forgetChoices profile.key) :=
    .of_looks rfl looks (get?_of_unsaved? wellFormed found)
  have still : (({ manager with dismissed } : Manager).forgetChoices profile.key).roster.WellFormed :=
    wellFormed.modifyVisible (Roster.keepsName_forgetChoice profile.key)
  exact forgotten.trans (about_updateSelection still profile.id .byManager)

theorem about_checkDismissal {ssid : String} {profile : Profile} (found : manager.unsaved? ssid = some profile) :
    manager.About profile.id (manager.checkDismissal ssid).1 := by
  rw [checkDismissal_eq]
  split
  · exact .refl manager profile.id
  · split
    · exact .refl manager profile.id
    · have forgiven : manager.About profile.id { manager with dismissed := manager.dismissed.erase ssid } := .of_roster rfl rfl
      have still : ({ manager with dismissed := manager.dismissed.erase ssid } : Manager).roster.WellFormed := wellFormed
      have seen : ({ manager with dismissed := manager.dismissed.erase ssid } : Manager).unsaved? ssid = some profile := found
      simp only [seen]
      exact forgiven.trans (about_updateSelection still profile.id .enable)

theorem about_renewLease (id : ProfileId) (seconds : UInt32) : manager.About id (manager.renewLease id seconds).1 := by
  unfold renewLease
  split
  · exact about_modify wellFormed fun _ _ => rfl
  · exact .refl manager id

end Notes

/-- The links of a profile are decided again, on both sides. -/
theorem about_observe (manager : Manager) (id : ProfileId) (sighting : Sighting) : manager.About id (manager.observe id sighting).1 := by
  unfold observe
  split
  · exact .refl manager id
  · next profile found =>
      exact .of_looks rfl
        ((Profile.hidesLinks_besides id).through_reconsider manager.settings.linkRule manager.roster _ id) found

theorem about_observeLive (manager : Manager) (id : ProfileId) (bssid : Address) (level : Int32) :
    manager.About id (manager.observeLive id bssid level).1 := by
  unfold observeLive
  split <;> exact .of_roster rfl rfl

theorem about_perform (wellFormed : manager.roster.WellFormed) (subject : operation.subject? = some id) :
    manager.About id (manager.perform operation).1 := by
  cases operation with
  | enable other exclusive caller =>
      obtain rfl := Option.some.inj subject
      exact about_enable wellFormed other exclusive caller
  | disable other caller =>
      obtain rfl := Option.some.inj subject
      exact about_disable wellFormed other caller
  | updateSelection other reason =>
      obtain rfl := Option.some.inj subject
      exact about_updateSelection wellFormed other reason
  | updateSelectionCode other code =>
      obtain rfl := Option.some.inj subject
      simp only [perform, updateSelectionCode, Prod.map_fst, id_eq]
      split
      · exact about_updateSelection wellFormed other _
      · exact .refl manager other
  | tryEnable other =>
      obtain rfl := Option.some.inj subject
      exact about_tryEnable wellFormed other
  | recordConnected | recordDisconnected | setConnectChoice | clearConnectChoice | reportNoInternet | setValidated
  | setNoInternetExpected | setAutojoin | setGateway =>
      obtain rfl := Option.some.inj subject
      exact about_noteStored wellFormed fun _ => rfl
  | setCandidate | clearCandidate | setRecentFailure | clearRecentFailure =>
      obtain rfl := Option.some.inj subject
      exact about_note wellFormed fun _ => rfl
  | setLastConnectUid other uid =>
      obtain rfl := Option.some.inj subject
      simp only [perform, setLastConnectUid, Prod.map_fst, id_eq]
      split
      · exact about_noteStored wellFormed fun _ => rfl
      · exact .refl manager other
  | observe other sighting =>
      obtain rfl := Option.some.inj subject
      exact about_observe manager other sighting
  | observeLive other bssid level =>
      obtain rfl := Option.some.inj subject
      exact about_observeLive manager other bssid level
  | connectionAddress other =>
      obtain rfl := Option.some.inj subject
      exact about_connectionAddress wellFormed other
  | renewLease other seconds =>
      obtain rfl := Option.some.inj subject
      exact about_renewLease wellFormed other seconds
  | _ => cases subject

end Manager

end SavedNetworks
