import SavedNetworks.Manager.Loading
import SavedNetworks.Proofs.Roster.WellFormed

/-!
The outline of a profile: its network, its credentials up to what a reset of SIM identities forgets, its
owner and its links. Everything that is merely noted on a profile leaves its outline alone, and so leaves
alone every property of rosters that depends on outlines.
-/

namespace SavedNetworks

namespace Enterprise

theorem resetSim_resetSim (enterprise : Enterprise) : enterprise.resetSim.resetSim = enterprise.resetSim := by
  obtain ⟨method, identity, anonymous, password, caCertificate, clientCertificate⟩ := enterprise
  by_cases sim : method.usesSim = true
  · by_cases stays : anonymousAtRealm.isPrefixOf anonymous.toList = true
    · simp only [resetSim, usesSim, sim, stays, if_true]
    · simp only [resetSim, usesSim, sim, stays, if_true, if_false, Bool.false_eq_true, ite_self]
  · simp only [resetSim, usesSim, sim, if_false, Bool.false_eq_true]

theorem map_resetSim_resetSim (enterprise : Option Enterprise) :
    (enterprise.map resetSim).map resetSim = enterprise.map resetSim := by
  rw [Option.map_map]
  exact congrArg (Option.map · enterprise) (funext resetSim_resetSim)

end Enterprise

namespace Profile

def outline (profile : Profile) : Profile :=
  { profile with
    enterprise := profile.enterprise.map Enterprise.resetSim
    autojoin := true
    noInternetExpected := false
    defaultGateway := none
    recentFailure := none
    status := .disabled
    stats := .none
    selection := .initial
    station := .unset }

/-- The outline without the links. -/
def frame (profile : Profile) : Profile := { profile.outline with linked := .empty }

theorem visibleTo_outline (profile : Profile) (tenant : Tenant) :
    profile.outline.visibleTo tenant = profile.visibleTo tenant := rfl

theorem visibleTo_frame (profile : Profile) (tenant : Tenant) :
    profile.frame.visibleTo tenant = profile.visibleTo tenant := rfl

theorem owner_outline (profile : Profile) :
    profile.outline.shared = profile.shared ∧ profile.outline.creator = profile.creator := ⟨rfl, rfl⟩

theorem owner_frame (profile : Profile) :
    profile.frame.shared = profile.shared ∧ profile.frame.creator = profile.creator := ⟨rfl, rfl⟩

/-- What is read off a look at profiles is the same for profiles that look the same. -/
theorem same_of_look {α : Type} {look : Profile → Profile} (field : Profile → α)
    (shown : ∀ profile, field (look profile) = field profile) {left right : Profile} (same : look left = look right) :
    field left = field right := by
  rw [← shown left, same, shown right]

end Profile

namespace Roster

variable {roster after : Roster} {profile : Profile} {id : ProfileId} {change look : Profile → Profile}

/-- The roster with a look at each profile in its place. -/
def through (look : Profile → Profile) (roster : Roster) : Roster :=
  { roster with profiles := roster.profiles.mapValues fun _ profile => look profile }

theorem keepsName_outline : KeepsName Profile.outline := fun _ => ⟨rfl, rfl⟩

theorem keepsName_frame : KeepsName Profile.frame := fun _ => ⟨rfl, rfl⟩

theorem get?_through (look : Profile → Profile) (roster : Roster) (id : ProfileId) :
    (roster.through look).profiles.get? id = (roster.profiles.get? id).map look :=
  SortedMap.get?_mapValues roster.profiles look id

theorem through_eq_iff : after.through look = roster.through look ↔
    after.index = roster.index ∧ after.tenant = roster.tenant ∧
      ∀ id, (after.profiles.get? id).map look = (roster.profiles.get? id).map look := by
  constructor
  · intro same
    have index : (after.through look).index = (roster.through look).index := by rw [same]
    have tenant : (after.through look).tenant = (roster.through look).tenant := by rw [same]
    refine ⟨index, tenant, fun id => ?_⟩
    rw [← get?_through, ← get?_through, same]
  · rintro ⟨index, tenant, profiles⟩
    have same : (after.through look).profiles = (roster.through look).profiles := by
      refine SortedMap.ext_get? fun id => ?_
      rw [get?_through, get?_through, profiles]
    cases after
    cases roster
    simp_all [through]

/-- Whoever sees the outlines sees the frames. -/
theorem frame_of_outline (same : after.through Profile.outline = roster.through Profile.outline) :
    after.through Profile.frame = roster.through Profile.frame := by
  obtain ⟨index, tenant, profiles⟩ := through_eq_iff.1 same
  refine through_eq_iff.2 ⟨index, tenant, fun id => ?_⟩
  have outlines := congrArg (Option.map fun profile : Profile => { profile with linked := .empty }) (profiles id)
  rw [Option.map_map, Option.map_map] at outlines
  exact outlines

/-- Changing one profile without a trace in the look. -/
theorem through_modify (unseen : ∀ profile, roster.get? id = some profile → look (change profile) = look profile) :
    (roster.modify id change).through look = roster.through look := by
  refine through_eq_iff.2 ⟨index_modify roster id change, tenant_modify roster id change, fun other => ?_⟩
  unfold modify
  cases seen : roster.get? id with
  | none => rfl
  | some profile =>
      have found := (get?_eq_some.1 seen).1
      simp only [SortedMap.get?_insert]
      split
      · next same => rw [same, found, Option.map_some, Option.map_some, unseen profile seen]
      · rfl

theorem through_modifyVisible (unseen : ∀ profile, look (change profile) = look profile) :
    (roster.modifyVisible change).through look = roster.through look := by
  refine through_eq_iff.2 ⟨rfl, rfl, fun id => ?_⟩
  rw [get?_modifyVisible, Option.map_map]
  congr 1
  funext profile
  simp only [Function.comp_apply, changeVisible]
  split
  · exact unseen profile
  · rfl

theorem get?_of_through (same : after.through look = roster.through look)
    (found : after.profiles.get? id = some profile) :
    ∃ old, roster.profiles.get? id = some old ∧ look old = look profile := by
  obtain ⟨_, _, profiles⟩ := through_eq_iff.1 same
  have here := profiles id
  rw [found, Option.map_some, eq_comm, Option.map_eq_some_iff] at here
  exact here

theorem holder?_of_through (same : after.through look = roster.through look) (key : ProfileKey) :
    (after.holder? key).map look = (roster.holder? key).map look := by
  obtain ⟨index, _, profiles⟩ := through_eq_iff.1 same
  unfold holder?
  rw [index]
  cases roster.index.get? key with
  | none => rfl
  | some id => exact profiles id

theorem mem_of_through (same : after.through look = roster.through look) (present : profile ∈ after.all) :
    ∃ old ∈ roster.all, look old = look profile := by
  unfold all at present ⊢
  obtain ⟨id, found⟩ := SortedMap.mem_values_iff.1 present
  obtain ⟨old, earlier, looks⟩ := get?_of_through same found
  exact ⟨old, SortedMap.mem_values_iff.2 ⟨id, earlier⟩, looks⟩

theorem KeepsName.same (keeps : KeepsName look) {left right : Profile} (same : look left = look right) :
    left.id = right.id ∧ left.key = right.key :=
  ⟨Profile.same_of_look Profile.id (fun profile => (keeps profile).1) same,
    Profile.same_of_look Profile.key (fun profile => (keeps profile).2) same⟩

theorem WellFormed.of_through (wellFormed : roster.WellFormed) (keeps : KeepsName look)
    (same : after.through look = roster.through look) : after.WellFormed := by
  refine ⟨fun id profile found => ?_, fun key id => ?_⟩
  · obtain ⟨old, earlier, looks⟩ := get?_of_through same found
    rw [← (keeps.same looks).1]
    exact wellFormed.keyed id old earlier
  · rw [(through_eq_iff.1 same).1, wellFormed.indexed]
    constructor
    · rintro ⟨old, earlier, named⟩
      obtain ⟨profile, found, looks⟩ := get?_of_through same.symm earlier
      exact ⟨profile, found, (keeps.same looks).2.trans named⟩
    · rintro ⟨profile, found, named⟩
      obtain ⟨old, earlier, looks⟩ := get?_of_through same found
      exact ⟨old, earlier, (keeps.same looks).2.trans named⟩

theorem tenant_of_through (same : after.through look = roster.through look) : after.tenant = roster.tenant :=
  (through_eq_iff.1 same).2.1

theorem frame_link (profile : Profile) (key : ProfileKey) : (profile.link key).frame = profile.frame := rfl

theorem frame_unlink (profile : Profile) (key : ProfileKey) : (profile.unlink key).frame = profile.frame := rfl

/-- Shows no links. -/
structure HidesLinks (look : Profile → Profile) : Prop where
  link : ∀ profile key, look (profile.link key) = look profile
  unlink : ∀ profile key, look (profile.unlink key) = look profile

namespace HidesLinks

/-- Nor does it show anything of a removal, if it shows no choices either. -/
theorem released (hides : HidesLinks look) (forgets : ∀ profile key, look (profile.forgetChoice key) = look profile)
    (roster : Roster) (key : ProfileKey) (profile : Profile) : look (roster.released key profile) = look profile := by
  by_cases visible : roster.isVisible profile = true
  · rw [released_of_isVisible visible, hides.unlink, forgets]
  · rw [released_of_not_isVisible visible]

theorem through_settle (hides : HidesLinks look) (roster : Roster) (subject other : Profile) (link : Bool) :
    (LinkRule.settle roster subject other link).through look = roster.through look := by
  unfold LinkRule.settle
  split
  · exact (through_modify fun one _ => hides.link one _).trans (through_modify fun one _ => hides.link one _)
  · exact (through_modify fun one _ => hides.unlink one _).trans (through_modify fun one _ => hides.unlink one _)

theorem through_settleAll (hides : HidesLinks look) (subject : Profile) (decisions : List (Profile × Bool))
    (done : Roster × LinkChanges) : (LinkRule.settleAll subject decisions done).1.through look = done.1.through look := by
  induction decisions generalizing done with
  | nil => rfl
  | cons decision rest ih =>
      obtain ⟨other, link⟩ := decision
      exact (ih _).trans (hides.through_settle done.1 subject other link)

theorem through_reconsider (hides : HidesLinks look) (rule : LinkRule) (roster : Roster) (caches : Caches)
    (id : ProfileId) : (rule.reconsider roster caches id).1.through look = roster.through look := by
  unfold LinkRule.reconsider
  split
  · rfl
  · simp only
    split
    · rfl
    · exact hides.through_settleAll _ _ _

end HidesLinks

theorem hidesLinks_frame : HidesLinks Profile.frame := ⟨frame_link, frame_unlink⟩

theorem frame_released (roster : Roster) (key : ProfileKey) (profile : Profile) :
    (roster.released key profile).frame = profile.frame :=
  hidesLinks_frame.released (fun _ _ => rfl) roster key profile

theorem through_reconsider (rule : LinkRule) (roster : Roster) (caches : Caches) (id : ProfileId) :
    (rule.reconsider roster caches id).1.through Profile.frame = roster.through Profile.frame :=
  hidesLinks_frame.through_reconsider rule roster caches id

end Roster

end SavedNetworks
