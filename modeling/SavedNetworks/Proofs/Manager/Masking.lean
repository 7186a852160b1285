import Mathlib.Data.List.Forall2
import SavedNetworks.Proofs.Manager.Runs

/-!
What masked queries show. Two managers whose profiles differ in nothing but the secrets and the station addresses
answer a stranger's queries alike, profile by profile, and the owner of a profile sees it as it is stored
(`Manager.masked_queries`).
-/

namespace SavedNetworks

/-- The same, or both there and not empty. -/
def Secret.Resemble (left right : Option String) : Prop :=
  left = right ∨ ∃ here there, left = some here ∧ right = some there ∧ here ≠ "" ∧ there ≠ ""

namespace Secret

variable {left right : Option String}

theorem hide_eq_none_iff (secret : Option String) : hide secret = none ↔ secret = none := by
  cases secret <;> simp [hide]

theorem hide_of_ne_empty {secret : String} (plain : secret ≠ "") : hide (some secret) = some mask := by
  have full : secret.isEmpty = false := by simpa using plain
  rw [hide, full, if_neg Bool.false_ne_true]

theorem hide_empty : hide (some "") = some "" := by decide

/-- A hidden secret shows whether there is one, and whether it is empty. -/
theorem hide_eq_hide_iff : hide left = hide right ↔ Resemble left right := by
  constructor
  · intro same
    cases left with
    | none => exact .inl ((hide_eq_none_iff right).1 same.symm).symm
    | some here =>
        cases right with
        | none => exact .inl ((hide_eq_none_iff (some here)).1 same)
        | some there =>
            by_cases first : here = "" <;> by_cases second : there = ""
            · exact .inl (by rw [first, second])
            · rw [first, hide_empty, hide_of_ne_empty second] at same
              exact absurd same (by decide)
            · rw [second, hide_empty, hide_of_ne_empty first] at same
              exact absurd same (by decide)
            · exact .inr ⟨here, there, rfl, rfl, first, second⟩
  · rintro (rfl | ⟨here, there, rfl, rfl, first, second⟩)
    · rfl
    · rw [hide_of_ne_empty first, hide_of_ne_empty second]

end Secret

/-- Equal but for the value of the password. -/
structure Enterprise.Resembles (left right : Enterprise) : Prop where
  password : Secret.Resemble left.password right.password
  rest : { left with password := none } = { right with password := none }

namespace Profile

/-- A profile without its secrets and its station address. -/
def secretless (profile : Profile) : Profile :=
  { profile with
    preSharedKey := none
    wepKeys := .none
    enterprise := none
    station := { profile.station with address := .sentinel } }

/-- Equal but for the values of the secrets that are there and not empty, and the station address. -/
structure Resembles (left right : Profile) : Prop where
  preSharedKey : Secret.Resemble left.preSharedKey right.preSharedKey
  wepKeys : ∀ slot : Fin 4, Secret.Resemble left.wepKeys[slot] right.wepKeys[slot]
  enterprise : Option.Rel Enterprise.Resembles left.enterprise right.enterprise
  rest : left.secretless = right.secretless

/-- The copy for those who may see neither the secrets nor the station address. -/
def veiled (profile : Profile) : Profile := profile.hideSecrets.hideAddress

theorem secretless_veiled (profile : Profile) : profile.veiled.secretless = profile.secretless := rfl

theorem creator_veiled (profile : Profile) : profile.veiled.creator = profile.creator := rfl

/-- Made by the identity, or the identity acts for the device. -/
def Trusts (profile : Profile) (uid : Uid) : Prop :=
  uid = profile.creator.uid ∨ uid = Uid.system ∨ uid = Uid.wifi

variable {left right : Profile}

theorem hideSecrets_eq_iff {left right : Enterprise} : left.hideSecrets = right.hideSecrets ↔ left.Resembles right := by
  constructor
  · intro same
    refine ⟨Secret.hide_eq_hide_iff.1 (congrArg Enterprise.password same), ?_⟩
    exact congrArg (fun shown : Enterprise => { shown with password := none }) same
  · intro alike
    have shown : ∀ one : Enterprise,
        one.hideSecrets = { { one with password := none } with password := Secret.hide one.password } := fun _ => rfl
    rw [shown left, shown right, alike.rest, Secret.hide_eq_hide_iff.2 alike.password]

theorem map_hideSecrets_eq_iff {left right : Option Enterprise} :
    left.map Enterprise.hideSecrets = right.map Enterprise.hideSecrets ↔ Option.Rel Enterprise.Resembles left right := by
  constructor
  · intro same
    cases left with
    | none =>
        cases right with
        | none => exact .none
        | some there => cases same
    | some here =>
        cases right with
        | none => cases same
        | some there => exact .some (hideSecrets_eq_iff.1 (Option.some.inj same))
  · intro alike
    cases alike with
    | none => rfl
    | some both => exact congrArg some (hideSecrets_eq_iff.2 both)

theorem map_hide_eq_iff {left right : WepKeys} :
    left.map Secret.hide = right.map Secret.hide ↔ ∀ slot : Fin 4, Secret.Resemble left[slot] right[slot] := by
  simp only [← Secret.hide_eq_hide_iff]
  constructor
  · intro same slot
    have here := congrArg (fun keys : WepKeys => keys[slot]) same
    simpa using here
  · intro each
    refine Vector.ext fun slot bound => ?_
    simpa using each ⟨slot, bound⟩

/-- Veiled copies are the same just when nothing but veiled values differs. -/
theorem veiled_eq_iff : left.veiled = right.veiled ↔ left.Resembles right := by
  constructor
  · intro same
    exact ⟨Secret.hide_eq_hide_iff.1 (congrArg preSharedKey same), map_hide_eq_iff.1 (congrArg wepKeys same),
      map_hideSecrets_eq_iff.1 (congrArg enterprise same), same_of_look secretless secretless_veiled same⟩
  · intro alike
    have shown : ∀ one : Profile, one.veiled =
        { one.secretless with
          preSharedKey := Secret.hide one.preSharedKey
          wepKeys := one.wepKeys.map Secret.hide
          enterprise := one.enterprise.map Enterprise.hideSecrets } := fun _ => rfl
    rw [shown left, shown right, alike.rest, Secret.hide_eq_hide_iff.2 alike.preSharedKey,
      map_hide_eq_iff.2 alike.wepKeys, map_hideSecrets_eq_iff.2 alike.enterprise]

theorem hidesFrom_unlessOwner (profile : Profile) (uid : Uid) :
    (Masking.unlessOwner uid).hidesFrom profile = true ↔ ¬ profile.Trusts uid := by
  simp [Masking.hidesFrom, Trusts, and_assoc]

end Profile

/-- The same keys, owned by profiles that resemble each other. -/
structure Roster.Resembles (left right : Roster) : Prop where
  index : left.index = right.index
  tenant : left.tenant = right.tenant
  profiles : ∀ id, Option.Rel Profile.Resembles (left.profiles.get? id) (right.profiles.get? id)

namespace Roster

variable {left right : Roster}

theorem rel_resembles_iff {left right : Option Profile} :
    Option.Rel Profile.Resembles left right ↔ left.map Profile.veiled = right.map Profile.veiled := by
  constructor
  · intro alike
    cases alike with
    | none => rfl
    | some both => exact congrArg some (Profile.veiled_eq_iff.2 both)
  · intro same
    cases left with
    | none =>
        cases right with
        | none => exact .none
        | some there => cases same
    | some here =>
        cases right with
        | none => cases same
        | some there => exact .some (Profile.veiled_eq_iff.1 (Option.some.inj same))

theorem resembles_iff : left.Resembles right ↔ left.through Profile.veiled = right.through Profile.veiled := by
  rw [through_eq_iff]
  constructor
  · intro alike
    exact ⟨alike.index, alike.tenant, fun id => rel_resembles_iff.1 (alike.profiles id)⟩
  · rintro ⟨index, tenant, profiles⟩
    exact ⟨index, tenant, fun id => rel_resembles_iff.2 (profiles id)⟩

theorem get?_veiled (roster : Roster) (id : ProfileId) :
    (roster.through Profile.veiled).get? id = (roster.get? id).map Profile.veiled := by
  unfold get?
  rw [get?_through, Option.filter_map]
  rfl

theorem getByKey?_veiled (roster : Roster) (key : ProfileKey) :
    (roster.through Profile.veiled).getByKey? key = (roster.getByKey? key).map Profile.veiled := by
  have index : (roster.through Profile.veiled).index = roster.index := rfl
  unfold getByKey?
  rw [index]
  cases roster.index.get? key with
  | none => rfl
  | some id => exact get?_veiled roster id

theorem visible_veiled (roster : Roster) :
    (roster.through Profile.veiled).visible = roster.visible.map Profile.veiled := by
  have all : (roster.through Profile.veiled).all = roster.all.map Profile.veiled := by
    unfold Roster.all through SortedMap.values SortedMap.mapValues
    rw [List.map_map, List.map_map]
    rfl
  unfold visible
  rw [all, List.filter_map]
  rfl

end Roster

/-- Managers that agree on what queries read, but for the secrets and the station addresses of the profiles. -/
structure Manager.Resembles (left right : Manager) : Prop where
  roster : left.roster.Resembles right.roster
  supported : left.randomizer.policy.supported = right.randomizer.policy.supported

namespace Manager

variable {left right manager : Manager} {uid : Uid}

/-- A profile as it is stored, with no randomization shown where it is not supported. -/
def asStored (manager : Manager) (profile : Profile) : Profile :=
  if manager.randomizer.policy.supported then profile else { profile with addressChoice := .own }

/-- Two copies differ in secrets and station addresses alone, and not at all for those whom the profile does not trust. -/
structure ShownAlike (uid : Uid) (shown other : Profile) : Prop where
  resemble : shown.Resembles other
  same : ¬ shown.Trusts uid → shown = other

/-- The copies in the answers of two managers stand in a relation, one by one. -/
structure AnswerAlike (shown : Profile → Profile → Prop) (masking : Masking) (left right : Manager) : Prop where
  byId : ∀ id, Option.Rel shown (left.get? id masking) (right.get? id masking)
  byKey : ∀ key, Option.Rel shown (left.getByKey? key masking) (right.getByKey? key masking)
  listed : ∀ savedOnly, List.Forall₂ shown (left.list savedOnly masking) (right.list savedOnly masking)

/-- Whoever is trusted gets the profiles as they are stored. -/
structure AnswersTrusted (manager : Manager) (uid : Uid) : Prop where
  byId : ∀ id profile, manager.roster.get? id = some profile → profile.Trusts uid →
    manager.get? id (.unlessOwner uid) = some (manager.asStored profile)
  byKey : ∀ key profile, manager.roster.getByKey? key = some profile → profile.Trusts uid →
    manager.getByKey? key (.unlessOwner uid) = some (manager.asStored profile)
  listed : ∀ savedOnly, List.Forall₂ (fun profile shown => profile.Trusts uid → shown = manager.asStored profile)
    (manager.roster.visible.filter fun profile => !savedOnly || profile.isSaved) (manager.list savedOnly (.unlessOwner uid))

theorem view_of_trusts {profile : Profile} (trusted : profile.Trusts uid) :
    manager.view (.unlessOwner uid) profile = manager.asStored profile := by
  have shown : ¬ (Masking.unlessOwner uid).hidesFrom profile = true := by
    rw [Profile.hidesFrom_unlessOwner]
    exact not_not_intro trusted
  unfold view
  rw [if_neg shown]
  rfl

theorem view_of_not_trusts {profile : Profile} (stranger : ¬ profile.Trusts uid) :
    manager.view (.unlessOwner uid) profile = manager.asStored profile.veiled := by
  unfold view
  rw [if_pos ((Profile.hidesFrom_unlessOwner profile uid).2 stranger)]
  rfl

theorem asStored_veiled (manager : Manager) (profile : Profile) :
    manager.asStored profile.veiled = (manager.asStored profile).veiled := by
  unfold asStored
  split <;> rfl

theorem trusts_asStored (manager : Manager) (profile : Profile) :
    (manager.asStored profile).Trusts uid ↔ profile.Trusts uid := by
  unfold asStored
  split <;> rfl

theorem answersTrusted (manager : Manager) (uid : Uid) : manager.AnswersTrusted uid := by
  refine ⟨fun id profile found trusted => ?_, fun key profile found trusted => ?_, fun savedOnly => ?_⟩
  · rw [get?, found, Option.map_some, view_of_trusts trusted]
  · rw [getByKey?, found, Option.map_some, view_of_trusts trusted]
  · rw [list, List.forall₂_map_right_iff, List.forall₂_same]
    exact fun profile _ trusted => view_of_trusts trusted

/-- What a listing leaves out, a veil does not cover. -/
theorem listed_veiled (manager : Manager) (savedOnly : Bool) :
    ((manager.roster.through Profile.veiled).visible.filter fun profile => !savedOnly || profile.isSaved) =
      (manager.roster.visible.filter fun profile => !savedOnly || profile.isSaved).map Profile.veiled := by
  rw [Roster.visible_veiled, List.filter_map]
  rfl

section Resembling

variable (alike : left.Resembles right)

include alike

theorem asStored_congr (profile : Profile) : left.asStored profile = right.asStored profile := by
  rw [asStored, asStored, alike.supported]

/-- What holds of the views of any two profiles that resemble each other holds of the answers. -/
theorem answerAlike_of_view {masking : Masking} {shown : Profile → Profile → Prop}
    (views : ∀ here there : Profile, here.Resembles there → shown (left.view masking here) (right.view masking there)) :
    AnswerAlike shown masking left right := by
  have rosters := Roster.resembles_iff.1 alike.roster
  have found : ∀ here there : Option Profile, here.map Profile.veiled = there.map Profile.veiled →
      Option.Rel shown (here.map (left.view masking)) (there.map (right.view masking)) := by
    intro here there both
    cases Roster.rel_resembles_iff.2 both with
    | none => exact .none
    | some resemble => exact .some (views _ _ resemble)
  refine ⟨fun id => found _ _ ?_, fun key => found _ _ ?_, fun savedOnly => ?_⟩
  · rw [← Roster.get?_veiled, rosters, Roster.get?_veiled]
  · rw [← Roster.getByKey?_veiled, rosters, Roster.getByKey?_veiled]
  · have listed := (listed_veiled left savedOnly).symm
    rw [rosters, listed_veiled right, ← List.forall₂_eq_eq_eq, List.forall₂_map_left_iff, List.forall₂_map_right_iff] at listed
    rw [list, list, List.forall₂_map_left_iff, List.forall₂_map_right_iff]
    exact listed.imp fun here there same => views here there (Profile.veiled_eq_iff.1 same)

theorem view_full_congr {here there : Profile} (both : here.Resembles there) : left.view .full here = right.view .full there := by
  change left.asStored here.veiled = right.asStored there.veiled
  rw [Profile.veiled_eq_iff.2 both, asStored_congr alike]

theorem shownAlike_view {here there : Profile} (both : here.Resembles there) :
    ShownAlike uid (left.view (.unlessOwner uid) here) (right.view (.unlessOwner uid) there) := by
  have veils := Profile.veiled_eq_iff.2 both
  have creator : here.creator = there.creator := Profile.same_of_look Profile.creator Profile.creator_veiled veils
  have agree : here.Trusts uid ↔ there.Trusts uid := by rw [Profile.Trusts, Profile.Trusts, creator]
  by_cases trusted : here.Trusts uid
  · rw [view_of_trusts trusted, view_of_trusts (agree.1 trusted)]
    refine ⟨Profile.veiled_eq_iff.1 ?_, fun stranger => absurd ((trusts_asStored left here).2 trusted) stranger⟩
    rw [← asStored_veiled, ← asStored_veiled, veils, asStored_congr alike]
  · have same : left.view (.unlessOwner uid) here = right.view (.unlessOwner uid) there := by
      rw [view_of_not_trusts trusted, view_of_not_trusts (mt agree.2 trusted), veils, asStored_congr alike]
    rw [same]
    exact ⟨Profile.veiled_eq_iff.1 rfl, fun _ => rfl⟩

/-- Between two managers whose profiles differ in secrets and station addresses alone, masked queries tell no difference;
those masked for everybody but the owner tell none in a profile that does not trust the one who asks, and show a
profile as it is stored to whom it trusts. -/
theorem masked_queries :
    (∀ id, left.get? id .full = right.get? id .full) ∧
      (∀ key, left.getByKey? key .full = right.getByKey? key .full) ∧
      (∀ savedOnly, left.list savedOnly .full = right.list savedOnly .full) ∧
      ∀ uid, AnswerAlike (ShownAlike uid) (.unlessOwner uid) left right ∧ left.AnswersTrusted uid ∧ right.AnswersTrusted uid := by
  have full : AnswerAlike Eq .full left right := answerAlike_of_view alike fun _ _ => view_full_congr alike
  have rel_eq : ∀ {here there : Option Profile}, Option.Rel Eq here there → here = there := by
    intro here there both
    cases both with
    | none => rfl
    | some same => exact congrArg some same
  refine ⟨fun id => rel_eq (full.byId id), fun key => rel_eq (full.byKey key), fun savedOnly => ?_, fun uid => ?_⟩
  · exact List.forall₂_eq_eq_eq ▸ full.listed savedOnly
  · exact ⟨answerAlike_of_view alike fun _ _ => shownAlike_view alike, answersTrusted left uid, answersTrusted right uid⟩

end Resembling

/-- An app's network, with a passphrase. -/
def withPassphrase (passphrase : String) : Manager :=
  onEmptyStore.run [.load, .addOrUpdate (.psk "Home" passphrase) ⟨10001, "app"⟩]

theorem masked_withPassphrase :
    (withPassphrase "password").list false .none ≠ (withPassphrase "12345678").list false .none ∧
      (withPassphrase "password").list false .full = (withPassphrase "12345678").list false .full ∧
      AnswerAlike (ShownAlike 10002) (.unlessOwner 10002) (withPassphrase "password") (withPassphrase "12345678") ∧
      (withPassphrase "password").AnswersTrusted 10001 := by
  have alike : (withPassphrase "password").Resembles (withPassphrase "12345678") :=
    ⟨Roster.resembles_iff.2 (by decide +kernel), rfl⟩
  obtain ⟨_, _, listed, owned⟩ := masked_queries alike
  exact ⟨by decide, listed false, (owned 10002).1, (owned 10001).2.1⟩

end Manager

end SavedNetworks
