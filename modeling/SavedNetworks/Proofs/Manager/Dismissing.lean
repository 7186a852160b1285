import SavedNetworks.Proofs.Manager.Decisions
import SavedNetworks.Proofs.Manager.Outcomes
import SavedNetworks.Proofs.Manager.ScanLists

/-!
What a dismissal does to the profiles. It disables the first profile of the network that is not saved, and makes it nobody's
choice; further profiles of the same network, of other kinds of security, stay as they are
(`Manager.settled_dismiss_run_iff`).
-/

namespace SavedNetworks

/-- The user preferred the profile of the key to this one. -/
def Profile.prefers (profile : Profile) (key : ProfileKey) : Bool := profile.selection.connectChoice.any (·.key == key)

theorem SelectionStatus.connectChoice_forgetChoice (status : SelectionStatus) (key : ProfileKey) :
    (status.forgetChoice key).connectChoice = status.connectChoice.filter (·.key != key) := by
  unfold forgetChoice
  cases chosen : status.connectChoice with
  | none => simp [chosen]
  | some choice =>
      by_cases same : choice.key = key
      · simp [same, Option.filter]
      · simp [same, Option.filter, chosen]

theorem SelectionStatus.state_forgetChoice (status : SelectionStatus) (key : ProfileKey) :
    (status.forgetChoice key).state = status.state := by
  unfold forgetChoice
  split <;> rfl

theorem Profile.prefers_forgetChoice (profile : Profile) (forgotten key : ProfileKey) :
    (profile.forgetChoice forgotten).prefers key = (profile.prefers key && key != forgotten) := by
  change (profile.selection.forgetChoice forgotten).connectChoice.any _ = _
  rw [SelectionStatus.connectChoice_forgetChoice, prefers]
  cases profile.selection.connectChoice with
  | none => rfl
  | some choice =>
      by_cases known : choice.key = forgotten
      · subst known
        by_cases same : choice.key = key <;> simp [Option.filter, same]
      · by_cases same : choice.key = key
        · subst same
          simp [Option.filter, known]
        · simp [Option.filter, same, known]

namespace Manager

variable {manager : Manager} {ssid : String} {first old new profile : Profile}

/-- An explicit disabling is never dropped. -/
theorem isAccepted_byManager (rules : Rules) (status : SelectionStatus) (now : Millis) (ignoring : Bool) :
    (rules.apply status .byManager now ignoring).2.isAccepted = true := by
  rw [Rules.apply, if_neg (by decide), if_neg (by simp [Reason.isGated])]
  simp only
  split
  · rfl
  · rw [SelectionStatus.force, if_neg (by decide), if_pos (by decide)]
    split <;> rfl

theorem connectChoice_apply (rules : Rules) (status : SelectionStatus) (reason : Reason) (now : Millis) (ignoring : Bool) :
    (rules.apply status reason now ignoring).1.connectChoice = status.connectChoice := by
  have forced (counted : SelectionStatus) : (counted.force reason now).1.connectChoice = counted.connectChoice := by
    unfold SelectionStatus.force
    split
    · rfl
    · split <;> split <;> rfl
  unfold Rules.apply
  split
  · exact forced status
  · split
    · rfl
    · simp only
      split
      · rfl
      · exact forced _

theorem unsaved?_eq_some (found : manager.unsaved? ssid = some first) :
    first ∈ manager.roster.visible ∧ first.isSaved = false ∧ first.ssid = ssid := by
  obtain ⟨unsaved, named⟩ : first.isSaved = false ∧ first.ssid = ssid := by
    simpa using List.find?_some found
  exact ⟨List.mem_of_find?_eq_some found, unsaved, named⟩

/-- What a dismissal returns is the first profile of the network that is not saved, as it then is. -/
theorem exists_unsaved? {profile : Profile} (returned : (manager.dismiss ssid).2 = some profile) :
    ∃ first, manager.unsaved? ssid = some first ∧ (manager.dismiss ssid).1.roster.get? first.id = some profile := by
  cases found : manager.unsaved? ssid with
  | none =>
      rw [dismiss, found] at returned
      cases returned
  | some first =>
      refine ⟨first, rfl, ?_⟩
      rw [← returned]
      unfold dismiss
      rw [found]

theorem dismiss_eq (wellFormed : manager.roster.WellFormed) (found : manager.unsaved? ssid = some first) :
    ∃ store journal, (manager.dismiss ssid).1 =
      { manager with
        roster := (manager.roster.modifyVisible (·.forgetChoice first.key)).modify first.id (manager.taking .byManager)
        store
        journal
        dismissed := manager.dismissed.insert ssid manager.platform.wall } := by
  obtain ⟨seen, _, _⟩ := unsaved?_eq_some found
  have visible : manager.roster.isVisible first = true := (List.mem_filter.1 seen).2
  have there : (manager.roster.modifyVisible (·.forgetChoice first.key)).get? first.id =
      some (first.forgetChoice first.key) := by
    rw [Roster.get?_eq_some, Roster.get?_modifyVisible, (Roster.get?_eq_some.1 (wellFormed.mem_visible.1 seen)).1]
    refine ⟨?_, visible⟩
    rw [Option.map_some, Roster.changeVisible, if_pos visible]
  have changed : ((manager.roster.modifyVisible (·.forgetChoice first.key)).modify first.id fun _ =>
        manager.taking .byManager (first.forgetChoice first.key)) =
      (manager.roster.modifyVisible (·.forgetChoice first.key)).modify first.id (manager.taking .byManager) :=
    Roster.modify_congr there rfl
  unfold dismiss
  rw [found]
  simp only
  generalize noting : { manager with dismissed := manager.dismissed.insert ssid manager.platform.wall } = noted
  have kept : (noted.forgetChoices first.key).roster.get? first.id = some (first.forgetChoice first.key) := by
    rw [← noting]
    exact there
  obtain ⟨store, journal, moved⟩ := updateSelection_of_isAccepted kept (isAccepted_byManager ..)
  refine ⟨store, journal, ?_⟩
  rw [moved, ← noting, ← changed]
  rfl

/-- What a dismissal of `first` makes of a profile. -/
structure Dismisses (manager : Manager) (first old new : Profile) : Prop where
  id : new.id = old.id
  key : new.key = old.key
  ssid : new.ssid = old.ssid
  isSaved : new.isSaved = old.isSaved
  visibleTo : ∀ tenant, new.visibleTo tenant = old.visibleTo tenant
  state : new.selection.state = if old.id = first.id then .permanentlyDisabled else old.selection.state
  prefers : ∀ key, new.prefers key = (old.prefers key && !(manager.roster.isVisible old && key == first.key))

/-- The dismissed profile takes in the disabling, and forgets that it was preferred to itself. -/
theorem dismisses_first (single : (manager.settings.rules.rule .byManager).threshold = 1)
    (visible : manager.roster.isVisible first = true) :
    manager.Dismisses first first
      ((manager.roster.modifyVisible (·.forgetChoice first.key)).changeAt first.id (manager.taking .byManager)
        (manager.roster.changeVisible (·.forgetChoice first.key) first)) := by
  have still : (manager.roster.modifyVisible (·.forgetChoice first.key)).isVisible (first.forgetChoice first.key) = true :=
    visible
  have named : (first.forgetChoice first.key).id = first.id := rfl
  rw [Roster.changeVisible, if_pos visible, Roster.changeAt, if_pos named, Roster.changeVisible, if_pos still]
  refine ⟨rfl, rfl, rfl, rfl, fun _ => rfl, ?_, fun key => ?_⟩
  · have reaches : manager.settings.rules.ReachesNext (first.forgetChoice first.key).selection .byManager := by
      rw [Rules.ReachesNext, single]
      exact Nat.succ_le_succ (Nat.zero_le _)
    rw [if_pos rfl]
    exact ((manager.settings.rules.isTurnedOff_apply_iff (first.forgetChoice first.key).selection
      manager.platform.elapsed manager.platform.watchdog).2 (.inr reaches)).1
  · have kept : (manager.taking .byManager (first.forgetChoice first.key)).prefers key =
        (first.forgetChoice first.key).prefers key := by
      unfold Profile.prefers taking
      simp only [connectChoice_apply]
    rw [kept, Profile.prefers_forgetChoice, visible, Bool.true_and]
    rfl

theorem dismisses_other (apart : old.id ≠ first.id) :
    manager.Dismisses first old
      ((manager.roster.modifyVisible (·.forgetChoice first.key)).changeAt first.id (manager.taking .byManager)
        (manager.roster.changeVisible (·.forgetChoice first.key) old)) := by
  have named : (manager.roster.changeVisible (·.forgetChoice first.key) old).id ≠ first.id := by
    rw [((Roster.keepsName_forgetChoice first.key).changeVisible manager.roster old).1]
    exact apart
  rw [Roster.changeAt, if_neg named, Roster.changeVisible]
  cases visible : manager.roster.isVisible old with
  | true =>
      rw [if_pos rfl]
      refine ⟨rfl, rfl, rfl, rfl, fun _ => rfl, ?_, fun key => ?_⟩
      · rw [if_neg apart]
        exact SelectionStatus.state_forgetChoice old.selection first.key
      · rw [Profile.prefers_forgetChoice, visible, Bool.true_and]
        rfl
  | false =>
      rw [if_neg Bool.false_ne_true]
      refine ⟨rfl, rfl, rfl, rfl, fun _ => rfl, (if_neg apart).symm, fun key => ?_⟩
      rw [visible, Bool.false_and, Bool.not_false, Bool.and_true]

theorem dismisses_dismiss (wellFormed : manager.roster.WellFormed)
    (single : (manager.settings.rules.rule .byManager).threshold = 1) (found : manager.unsaved? ssid = some first) :
    (∀ new ∈ (manager.dismiss ssid).1.roster.all, ∃ old ∈ manager.roster.all, manager.Dismisses first old new) ∧
      ∀ old ∈ manager.roster.all, ∃ new ∈ (manager.dismiss ssid).1.roster.all, manager.Dismisses first old new := by
  obtain ⟨seen, _, _⟩ := unsaved?_eq_some found
  obtain ⟨present, visible⟩ := List.mem_filter.1 seen
  obtain ⟨store, journal, dismissed⟩ := dismiss_eq wellFormed found
  have forgets := Roster.keepsName_forgetChoice first.key
  have takes : Roster.KeepsName (manager.taking .byManager) := fun _ => ⟨rfl, rfl⟩
  have member {new : Profile} : new ∈ (manager.dismiss ssid).1.roster.all ↔ ∃ old ∈ manager.roster.all,
      (manager.roster.modifyVisible (·.forgetChoice first.key)).changeAt first.id (manager.taking .byManager)
        (manager.roster.changeVisible (·.forgetChoice first.key) old) = new := by
    rw [dismissed]
    simp only [(wellFormed.modifyVisible forgets).mem_modify takes, wellFormed.mem_modifyVisible forgets]
    simp
  have reached : ∀ old ∈ manager.roster.all, manager.Dismisses first old
      ((manager.roster.modifyVisible (·.forgetChoice first.key)).changeAt first.id (manager.taking .byManager)
        (manager.roster.changeVisible (·.forgetChoice first.key) old)) := by
    intro old here
    by_cases same : old.id = first.id
    · obtain rfl := wellFormed.eq_of_id here present same
      exact dismisses_first single visible
    · exact dismisses_other same
  refine ⟨fun new there => ?_, fun old there => ⟨_, member.2 ⟨old, there, rfl⟩, reached old there⟩⟩
  obtain ⟨old, here, rfl⟩ := member.1 there
  exact ⟨old, here, reached old here⟩

/-- The profile is disabled for good, and nobody's choice. -/
def Settled (manager : Manager) (profile : Profile) : Prop :=
  profile.selection.state = .permanentlyDisabled ∧ ∀ other ∈ manager.roster.all, other.prefers profile.key = false

/-- A profile of the network that is seen and not saved. -/
structure Offers (manager : Manager) (ssid : String) (profile : Profile) : Prop where
  seen : profile ∈ manager.roster.visible
  unsaved : profile.isSaved = false
  named : profile.ssid = ssid

/-- All that a dismissal of `first` does not reach is in order already: the other profiles of the network, and the choices
of profiles that are not seen. -/
structure LeavesNothing (manager : Manager) (ssid : String) (first : Profile) : Prop where
  others : ∀ profile, manager.Offers ssid profile → profile.id ≠ first.id → manager.Settled profile
  unseen : ∀ other ∈ manager.roster.all, manager.roster.isVisible other = false → other.prefers first.key = false

section

variable (wellFormed : manager.roster.WellFormed) (single : (manager.settings.rules.rule .byManager).threshold = 1)
  (found : manager.unsaved? ssid = some first)

include wellFormed single found

/-- Only a choice of the dismissed profile by one that is seen is forgotten. -/
theorem unwanted_dismiss_iff (key : ProfileKey) :
    (∀ other ∈ (manager.dismiss ssid).1.roster.all, other.prefers key = false) ↔
      ∀ other ∈ manager.roster.all, other.prefers key = true → manager.roster.isVisible other = true ∧ key = first.key := by
  obtain ⟨before, after⟩ := dismisses_dismiss wellFormed single found
  constructor
  · intro nobody other present
    obtain ⟨new, there, dismisses⟩ := after other present
    have unwanted := nobody new there
    rw [dismisses.prefers] at unwanted
    simpa using unwanted
  · intro nobody new there
    obtain ⟨old, present, dismisses⟩ := before new there
    rw [dismisses.prefers]
    simpa using nobody old present

omit single in
theorem offers_dismiss (dismisses : manager.Dismisses first old new) (present : old ∈ manager.roster.all)
    (there : new ∈ (manager.dismiss ssid).1.roster.all) :
    (manager.dismiss ssid).1.Offers ssid new ↔ manager.Offers ssid old := by
  have visible : (manager.dismiss ssid).1.roster.isVisible new = manager.roster.isVisible old := by
    obtain ⟨store, journal, dismissed⟩ := dismiss_eq wellFormed found
    rw [dismissed, Roster.isVisible, Roster.isVisible, Roster.tenant_modify]
    exact dismisses.visibleTo _
  constructor
  · rintro ⟨seen, unsaved, named⟩
    have shown := (List.mem_filter.1 seen).2
    exact ⟨List.mem_filter.2 ⟨present, visible ▸ shown⟩, dismisses.isSaved ▸ unsaved, dismisses.ssid ▸ named⟩
  · rintro ⟨seen, unsaved, named⟩
    have shown := (List.mem_filter.1 seen).2
    exact ⟨List.mem_filter.2 ⟨there, visible.trans shown⟩, dismisses.isSaved.trans unsaved, dismisses.ssid.trans named⟩

theorem settled_first (dismisses : manager.Dismisses first first new) :
    (manager.dismiss ssid).1.Settled new ↔
      ∀ other ∈ manager.roster.all, manager.roster.isVisible other = false → other.prefers first.key = false := by
  have disabled : new.selection.state = .permanentlyDisabled := dismisses.state.trans (if_pos rfl)
  rw [Settled, and_iff_right disabled, dismisses.key, unwanted_dismiss_iff wellFormed single found]
  refine forall₂_congr fun other _ => ?_
  cases other.prefers first.key <;> simp

theorem settled_other (dismisses : manager.Dismisses first old new) (apart : old.id ≠ first.id)
    (present : old ∈ manager.roster.all) : (manager.dismiss ssid).1.Settled new ↔ manager.Settled old := by
  obtain ⟨among, _⟩ := List.mem_filter.1 (unsaved?_eq_some found).1
  have different : old.key ≠ first.key := fun same => apart (congrArg Profile.id (wellFormed.eq_of_key present among same))
  have same : new.selection.state = old.selection.state := dismisses.state.trans (if_neg apart)
  rw [Settled, Settled, same, dismisses.key, unwanted_dismiss_iff wellFormed single found]
  refine and_congr_right fun _ => forall₂_congr fun other _ => ?_
  simp [different]

/-- A dismissal settles all profiles of its network just if there was nothing to do but for the first one. -/
theorem settled_dismiss_iff :
    (∀ profile, (manager.dismiss ssid).1.Offers ssid profile → (manager.dismiss ssid).1.Settled profile) ↔
      manager.LeavesNothing ssid first := by
  obtain ⟨before, after⟩ := dismisses_dismiss wellFormed single found
  obtain ⟨seen, unsaved, named⟩ := unsaved?_eq_some found
  have among := (List.mem_filter.1 seen).1
  constructor
  · intro settled
    refine ⟨fun old offers apart => ?_, ?_⟩
    · have present := (List.mem_filter.1 offers.seen).1
      obtain ⟨new, there, dismisses⟩ := after old present
      have offered := (offers_dismiss wellFormed found dismisses present there).2 offers
      exact (settled_other wellFormed single found dismisses apart present).1 (settled new offered)
    · obtain ⟨new, there, dismisses⟩ := after first among
      have offered := (offers_dismiss wellFormed found dismisses among there).2 ⟨seen, unsaved, named⟩
      exact (settled_first wellFormed single found dismisses).1 (settled new offered)
  · rintro ⟨others, unseen⟩ new offers
    have there := (List.mem_filter.1 offers.seen).1
    obtain ⟨old, present, dismisses⟩ := before new there
    have offered := (offers_dismiss wellFormed found dismisses present there).1 offers
    by_cases same : old.id = first.id
    · obtain rfl := wellFormed.eq_of_id present among same
      exact (settled_first wellFormed single found dismisses).2 unseen
    · exact (settled_other wellFormed single found dismisses same present).2 (others old offered same)

end

/-- After any run under the usual rules, a dismissal of a network settles all its profiles that are seen and not saved,
whatever their security, just if it leaves nothing: the others were settled before, and no profile that is not seen has the
first one as its choice. The first one is disabled for good in any case, and is found as it is returned. -/
theorem settled_dismiss_run_iff (settings : Settings) (platform : Platform) (store : Store) (listeners : List Listener)
    (digest : String → Option (List UInt8)) (random : List UInt8) (operations : List Operation)
    (reached : manager = (start settings platform store listeners digest random).run operations)
    (usual : manager.settings.rules = .default) (dismissed : (manager.dismiss ssid).2 = some profile) :
    ∃ first, manager.unsaved? ssid = some first ∧ (manager.dismiss ssid).1.roster.get? first.id = some profile ∧
      profile.selection.state = .permanentlyDisabled ∧
      ((∀ profile, (manager.dismiss ssid).1.Offers ssid profile → (manager.dismiss ssid).1.Settled profile) ↔
        manager.LeavesNothing ssid first) := by
  have wellFormed : manager.roster.WellFormed := reached ▸ wellFormed_run Roster.wellFormed_empty operations
  have single : (manager.settings.rules.rule .byManager).threshold = 1 := by
    rw [usual]
    rfl
  obtain ⟨first, found, returned⟩ := exists_unsaved? dismissed
  refine ⟨first, found, returned, ?_, settled_dismiss_iff wellFormed single found⟩
  have after : (manager.dismiss ssid).1.roster.WellFormed := wellFormed_perform wellFormed (.dismiss ssid)
  obtain ⟨old, present, dismisses⟩ := (dismisses_dismiss wellFormed single found).1 profile (Roster.mem_of_get? returned)
  have same : old.id = first.id := dismisses.id.symm.trans (after.id_of_get? returned)
  exact dismisses.state.trans (if_pos same)

/-- An ephemeral network, which the user preferred to another one. -/
def cafePreferred : List Operation :=
  [.load, .addOrUpdate (.psk "Home" "password") ⟨Uid.system, "android"⟩,
    .addOrUpdate { Draft.unsecured "Cafe" with ephemeral := true } ⟨Uid.system, "android"⟩,
    .enable ⟨1⟩ false ⟨Uid.system, "android"⟩, .setConnectChoice ⟨0⟩ ⟨.ofNetwork "Cafe" .unsecured, 1700000000000⟩]

theorem settled_cafePreferred :
    (onEmptyStore.run cafePreferred).roster.visible.map (·.selection.state) = [.permanentlyDisabled, .enabled] ∧
      ∀ profile, ((onEmptyStore.run cafePreferred).dismiss "Cafe").1.Offers "Cafe" profile →
        ((onEmptyStore.run cafePreferred).dismiss "Cafe").1.Settled profile := by
  have dismissed : ∃ profile, ((onEmptyStore.run cafePreferred).dismiss "Cafe").2 = some profile :=
    Option.isSome_iff_exists.1 (by decide)
  obtain ⟨profile, dismissed⟩ := dismissed
  obtain ⟨first, found, _, _, settles⟩ := settled_dismiss_run_iff .default (.start 0 1700000000000) (.immediate .empty) []
    (fun _ => none) [] cafePreferred rfl rfl dismissed
  have lone : ∀ other ∈ (onEmptyStore.run cafePreferred).roster.visible, other.isSaved = false → other.id = ⟨1⟩ := by
    decide
  have all : ∀ other ∈ (onEmptyStore.run cafePreferred).roster.all,
      (onEmptyStore.run cafePreferred).roster.isVisible other = true := by
    decide
  obtain ⟨seen, unsaved, _⟩ := unsaved?_eq_some found
  refine ⟨by decide, settles.2 ⟨fun other offers apart => ?_, fun other present unseen => ?_⟩⟩
  · exact absurd ((lone other offers.seen offers.unsaved).trans (lone first seen unsaved).symm) apart
  · cases (all other present).symm.trans unseen

/-- An ephemeral network without security and one with a passphrase, of one name. -/
def twoCafes : List Operation :=
  [.load, .addOrUpdate { Draft.unsecured "Cafe" with ephemeral := true } ⟨Uid.system, "android"⟩,
    .addOrUpdate { Draft.psk "Cafe" "espresso1" with ephemeral := true } ⟨Uid.system, "android"⟩,
    .enable ⟨0⟩ false ⟨Uid.system, "android"⟩, .enable ⟨1⟩ false ⟨Uid.system, "android"⟩]

/-- The one with the passphrase stays enabled. -/
theorem not_settled_twoCafes :
    (∃ profile, ((onEmptyStore.run twoCafes).dismiss "Cafe").2 = some profile) ∧
      ¬ ∀ profile, ((onEmptyStore.run twoCafes).dismiss "Cafe").1.Offers "Cafe" profile →
        ((onEmptyStore.run twoCafes).dismiss "Cafe").1.Settled profile := by
  refine ⟨Option.isSome_iff_exists.1 (by decide), fun settled => ?_⟩
  have enabled : ∃ profile ∈ ((onEmptyStore.run twoCafes).dismiss "Cafe").1.roster.visible, profile.isSaved = false ∧
      profile.ssid = "Cafe" ∧ profile.selection.state = .enabled := by decide
  obtain ⟨profile, seen, unsaved, named, enabled⟩ := enabled
  cases enabled.symm.trans (settled profile ⟨seen, unsaved, named⟩).1

end Manager

end SavedNetworks
