import SavedNetworks.Proofs.Manager.Identity
import SavedNetworks.Proofs.Manager.Refusals

/-!
What a caller leaves alone who may not modify a profile: the profile stays as it is, but for what referred to a profile
that is rightly gone, and but for an ephemeral profile that a saved one takes the place of (`Manager.guarded_iff`).
-/

namespace SavedNetworks

namespace Roster

variable {before middle after : Roster} {id : ProfileId}

/-- All profiles but one are as they were. -/
def SameBesides (id : ProfileId) (before after : Roster) : Prop :=
  ∀ profile ∈ before.all, profile.id ≠ id → profile ∈ after.all

theorem SameBesides.trans (first : SameBesides id before middle) (second : SameBesides id middle after) :
    SameBesides id before after :=
  fun profile present other => second profile (first profile present other) other

theorem SameBesides.refl (id : ProfileId) (roster : Roster) : SameBesides id roster roster := fun _ present _ => present

theorem WellFormed.sameBesides_modify (wellFormed : before.WellFormed) (id : ProfileId) (change : Profile → Profile) :
    SameBesides id before (before.modify id change) := by
  intro profile present other
  refine SortedMap.mem_values_iff.2 ⟨profile.id, ?_⟩
  rw [wellFormed.get?_modify, wellFormed.mem_all_iff.1 present, Option.map_some, changeAt, if_neg other]

theorem WellFormed.sameBesides_put {profile : Profile} (wellFormed : before.WellFormed)
    (stored : before.put profile = .ok after) : SameBesides profile.id before after :=
  fun _ present other => (wellFormed.mem_put stored).2 (.inr ⟨present, other⟩)

end Roster

namespace Manager

variable {manager after : Manager} {id : ProfileId} {caller : Owner} {draft : Draft} {operation : Operation}

section OneProfile

variable (wellFormed : manager.roster.WellFormed)

include wellFormed

theorem sameBesides_updateSelection (id : ProfileId) (reason : Reason) :
    Roster.SameBesides id manager.roster (manager.updateSelection id reason).1.roster := by
  unfold updateSelection
  split
  · exact .refl id manager.roster
  · simp only
    split
    · unfold setSelection
      simp only
      split
      · rw [persist_eq]
        exact wellFormed.sameBesides_modify id _
      · exact wellFormed.sameBesides_modify id _
    · exact .refl id manager.roster

theorem sameBesides_decide (id : ProfileId) (reason : Reason) (caller : Owner) :
    Roster.SameBesides id manager.roster (manager.decide id reason caller).1.roster := by
  have selected := sameBesides_updateSelection wellFormed id reason
  unfold decide
  split
  · split
    · next after moved =>
        rw [moved] at selected
        rw [persist_eq]
        exact selected
    · next after moved =>
        rw [moved] at selected
        exact selected
  · exact .refl id manager.roster

theorem sameBesides_followUp (result : EditResult) :
    Roster.SameBesides result.id manager.roster (manager.followUp result).roster := by
  have undismissed : Roster.SameBesides result.id manager.roster (manager.undismiss result.id).roster := by
    unfold undismiss
    simp only
    split
    · generalize manager.dismissed.erase _ = dismissed
      have still : ({ manager with dismissed } : Manager).roster.WellFormed := wellFormed
      exact sameBesides_updateSelection still result.id .enable
    · exact .refl result.id manager.roster
  unfold followUp
  simp only
  split
  · exact undismissed
  · split
    · rw [persist_eq]
      exact undismissed
    · exact undismissed

end OneProfile

section Barred

variable {profile : Profile} (wellFormed : manager.roster.WellFormed) (present : profile ∈ manager.roster.all)
  (barred : manager.canModify profile caller = false)

include wellFormed present barred

/-- Whatever the caller may modify is another profile. -/
theorem id_ne_of_barred {other : Profile} (found : other ∈ manager.roster.all)
    (permitted : manager.canModify other caller = true) : profile.id ≠ other.id := by
  intro same
  rw [wellFormed.eq_of_id present found same, permitted] at barred
  cases barred

theorem mem_decide (id : ProfileId) (reason : Reason) : profile ∈ (manager.decide id reason caller).1.roster.all := by
  by_cases own : profile.id = id
  · have refused : manager.decide id reason caller = (manager, false) := by
      unfold decide
      refine if_neg fun permitted => ?_
      obtain ⟨other, found, permitted⟩ := (Option.any_eq_true ..).1 permitted
      exact id_ne_of_barred wellFormed present barred (Roster.mem_of_get? found) permitted
        (own.trans (wellFormed.id_of_get? found).symm)
    rw [refused]
    exact present
  · exact sameBesides_decide wellFormed id reason caller profile present own

theorem mem_enable (id : ProfileId) (exclusive : Bool) :
    profile ∈ (manager.enable id exclusive caller).1.roster.all := by
  unfold enable
  split
  · exact present
  · cases exclusive with
    | false => exact mem_decide wellFormed present barred id .enable
    | true =>
        exact @mem_decide { manager with lastSelected := some (id, manager.platform.elapsed) } caller profile wellFormed
          present barred id .enable

theorem mem_disable (id : ProfileId) : profile ∈ (manager.disable id caller).1.roster.all := by
  unfold disable
  split
  · exact present
  · rw [deselect_eq]
    exact @mem_decide { manager with lastSelected := manager.lastSelected.filter (·.1 != id) } caller profile wellFormed
      present barred id .byManager

end Barred

theorem roster_removeAnyway {profile : Profile} (found : manager.roster.get? id = some profile) :
    (manager.removeAnyway id).1.roster = manager.roster.drop id profile.key := by
  obtain ⟨left, dropped, after⟩ := books_removeAnyway found
  have roster : left.roster = manager.roster.drop id profile.key := congrArg Books.roster dropped
  rw [show (manager.removeAnyway id).1.roster = _ from congrArg Books.roster after, ← roster]
  split
  · rw [persist_eq]
    rfl
  · rfl

/-- A caller's removal is refused, or the caller may modify the profile, which is dropped. -/
theorem roster_remove (wellFormed : manager.roster.WellFormed) (id : ProfileId) (caller : Owner) :
    manager.remove id caller = (manager, false) ∨
    ∃ gone, manager.roster.get? gone.id = some gone ∧ gone.id = id ∧ manager.canModify gone caller = true ∧
      (manager.remove id caller).2 = true ∧ (manager.remove id caller).1.roster = manager.roster.drop gone.id gone.key := by
  unfold remove
  split
  · exact .inl rfl
  · cases found : manager.roster.get? id with
    | none => exact .inl rfl
    | some gone =>
        simp only
        split
        · next permitted =>
            obtain rfl := wellFormed.id_of_get? found
            have done : (manager.removeAnyway gone.id).2 = true := by rw [removeAnyway_of_found found]
            exact .inr ⟨gone, found, rfl, permitted, done, roster_removeAnyway found⟩
        · exact .inl rfl

/-- Whoever may not modify the profile that a draft changes is told so, unless the draft is not valid. -/
theorem prepare_of_barred {replaced : Option ProfileId} {existing : Profile}
    (chosen : manager.edited? draft replaced = some existing) (barred : manager.canModify existing caller = false) :
    (∃ reason, manager.prepare draft caller replaced = .error (.validation reason)) ∨
      manager.prepare draft caller replaced = .error (.permissionDenied caller.uid existing.id) := by
  unfold prepare revise
  simp only [chosen, barred]
  cases draft.validate .update with
  | error reason => exact .inl ⟨reason, rfl⟩
  | ok done => exact .inr rfl

theorem canModify_of_prepared {replaced : Option ProfileId} {existing : Profile} {edit : Edit}
    (chosen : manager.edited? draft replaced = some existing) (prepared : manager.prepare draft caller replaced = .ok edit) :
    manager.canModify existing caller = true := by
  by_contra barred
  rw [Bool.not_eq_true] at barred
  obtain ⟨reason, refused⟩ | refused := prepare_of_barred chosen barred
  all_goals cases refused.symm.trans prepared

/-- The profile that an accepted draft is stored as, in place of what the caller may modify or under a new id, with the
others as they were when the ephemeral profile had given way. -/
theorem accepted_cases (wellFormed : manager.roster.WellFormed) {result : EditResult}
    (accepted : (manager.addOrUpdate draft caller).2 = .ok result) :
    Roster.SameBesides result.id (manager.giveWay draft).roster (manager.addOrUpdate draft caller).1.roster ∧
    ∃ taker ∈ (manager.addOrUpdate draft caller).1.roster.all, taker.id = result.id ∧
      (∀ key, draft.key? = some key → taker.key = key) ∧
      ((manager.edited? draft (manager.replaced? draft) = none ∧ result.id = ⟨manager.nextId⟩ ∧
          taker.ephemeral = draft.ephemeral) ∨
        ∃ existing, manager.edited? draft (manager.replaced? draft) = some existing ∧ result.id = existing.id ∧
          manager.canModify existing caller = true ∧ taker.ephemeral = existing.ephemeral) := by
  obtain ⟨edit, taker, prepared, found, looks, -⟩ := addOrUpdate_eq_ok wellFormed accepted
  have after : (manager.addOrUpdate draft caller).1.roster.WellFormed := wellFormed_perform wellFormed (.addOrUpdate draft caller)
  have id : taker.id = result.id := after.id_of_get? found
  have key : ∀ key, draft.key? = some key → taker.key = key := fun key named => by
    rw [(Roster.keepsName_outline.same looks).2, ← key_of_prepared named prepared,
      (Roster.keepsName_outline.same edit.outline_outcome).2]
    rfl
  have shown : ∀ profile : Profile, profile.outline.ephemeral = profile.ephemeral := fun _ => rfl
  have ephemeral : taker.ephemeral = (edit.profile.withId result.id).ephemeral :=
    Profile.same_of_look Profile.ephemeral shown looks
  obtain ⟨failure, refused⟩ | ⟨same, _, _, again, outcome⟩ := addOrUpdate_cases manager draft caller
  · rw [refused] at accepted
    cases accepted
  · obtain rfl := Except.ok.inj (again.symm.trans prepared)
    have way := wellFormed_giveWay wellFormed draft
    obtain ⟨failure, stopped, refused, _⟩ | ⟨profile, roster, stored, carried, put, _, how⟩ :=
      carryOut_of_prepared wellFormed prepared
    · rw [outcome, refused] at accepted
      cases accepted
    · rw [outcome, carried] at accepted
      obtain rfl := Except.ok.inj accepted
      have filed : stored.roster = roster := by
        obtain ⟨_, _, _, _, _, _, books⟩ | ⟨_, _, _, _, _, _, _, _, _, books⟩ := how <;> exact congrArg Books.roster books
      have others : Roster.SameBesides profile.id (manager.giveWay draft).roster (manager.addOrUpdate draft caller).1.roster := by
        rw [outcome, carried]
        refine (way.sameBesides_put put).trans ?_
        rw [← filed]
        exact sameBesides_followUp (filed ▸ way.put put) (same.result profile.id)
      refine ⟨others, taker, Roster.mem_of_get? found, id, key, ?_⟩
      obtain ⟨new, _, fresh, _⟩ | ⟨existing, _, chosen, _, named, _⟩ := how
      · obtain ⟨existing, chosen, _⟩ | ⟨_, ssid, security, _, _, rfl⟩ := prepare_eq_ok prepared
        · cases new.symm.trans chosen
        · exact .inl ⟨new, fresh, ephemeral⟩
      · obtain rfl := revision_of_prepared chosen prepared
        exact .inr ⟨existing, chosen, named, canModify_of_prepared chosen prepared, ephemeral⟩

/-- What a caller asks for on its own behalf. -/
inductive AskedBy (caller : Owner) : Operation → Prop where
  | addOrUpdate (draft : Draft) : AskedBy caller (.addOrUpdate draft caller)
  | remove (id : ProfileId) : AskedBy caller (.remove id caller)
  | enable (id : ProfileId) (exclusive : Bool) : AskedBy caller (.enable id exclusive caller)
  | disable (id : ProfileId) : AskedBy caller (.disable id caller)

/-- A profile is gone by right: a caller who may modify it had it removed, or it was ephemeral and a saved profile, of an
addition or change that was accepted, has its key. -/
inductive GoneByRight (before after : Manager) (caller : Owner) (gone : Profile) : Operation → Answer → Prop where
  | removed (permitted : before.canModify gone caller = true) :
    GoneByRight before after caller gone (.remove gone.id caller) (.flag true)
  | replaced {draft : Draft} {result : EditResult} {taker : Profile} (ephemeral : gone.ephemeral = true)
    (present : taker ∈ after.roster.all) (accepted : taker.id = result.id) (named : taker.key = gone.key)
    (saved : taker.ephemeral = false) : GoneByRight before after caller gone (.addOrUpdate draft caller) (.edited result)

/-- A profile is as it was, but for what referred to another one that is gone by right, or is gone by right itself. -/
inductive Guarded (before after : Manager) (caller : Owner) (profile : Profile) (operation : Operation) (answer : Answer) :
    Prop where
  | kept (present : profile ∈ after.roster.all)
  | released (gone : Profile) (earlier : gone ∈ before.roster.all) (apart : gone.id ≠ profile.id)
    (right : GoneByRight before after caller gone operation answer)
    (present : (profile.forgetChoice gone.key).unlink gone.key ∈ after.roster.all)
  | gaveWay (right : GoneByRight before after caller profile operation answer)

/-- An ephemeral profile gives way to a draft that is refused by the key store all the same, or that changes a profile that
is ephemeral as well. -/
def GivesWayInVain (manager : Manager) (draft : Draft) (answer : Answer) (placeholder : Profile) : Prop :=
  placeholder ∈ manager.roster.all ∧ manager.replaced? draft = some placeholder.id ∧
    (answer = .failed (.keyStoreRejected placeholder.key) ∨
      ∃ result existing, answer = .edited result ∧
        manager.edited? draft (manager.replaced? draft) = some existing ∧ existing.ephemeral = true)

/-- A profile gives way in vain, or refers to one that does. -/
def LosesInVain (manager : Manager) (profile : Profile) (operation : Operation) (answer : Answer) : Prop :=
  ∃ draft caller placeholder, operation = .addOrUpdate draft caller ∧ manager.GivesWayInVain draft answer placeholder ∧
    (profile.id = placeholder.id ∨ manager.roster.released placeholder.key profile ≠ profile)

theorem losesInVain_addOrUpdate {profile : Profile} {answer : Answer} :
    manager.LosesInVain profile (.addOrUpdate draft caller) answer ↔
      ∃ placeholder, manager.GivesWayInVain draft answer placeholder ∧
        (profile.id = placeholder.id ∨ manager.roster.released placeholder.key profile ≠ profile) := by
  constructor
  · rintro ⟨_, _, placeholder, same, vain, lost⟩
    obtain ⟨rfl, rfl⟩ := Operation.addOrUpdate.inj same
    exact ⟨placeholder, vain, lost⟩
  · rintro ⟨placeholder, vain, lost⟩
    exact ⟨draft, caller, placeholder, rfl, vain, lost⟩

theorem not_losesInVain {profile : Profile} {answer : Answer} (other : ∀ draft caller, operation ≠ .addOrUpdate draft caller) :
    ¬ manager.LosesInVain profile operation answer := by
  rintro ⟨draft, caller, _, same, _⟩
  exact other draft caller same

section Guarded

variable {profile placeholder : Profile} {answer : Answer}

theorem Guarded.of_released {gone : Profile} (earlier : gone ∈ manager.roster.all) (apart : profile.id ≠ gone.id)
    (right : GoneByRight manager after caller gone operation answer)
    (left : manager.roster.released gone.key profile ∈ after.roster.all) :
    Guarded manager after caller profile operation answer := by
  by_cases visible : manager.roster.isVisible profile = true
  · rw [Roster.released_of_isVisible visible] at left
    exact .released gone earlier apart.symm right left
  · rw [Roster.released_of_not_isVisible visible] at left
    exact .kept left

variable (wellFormed : manager.roster.WellFormed)

include wellFormed

/-- Where a profile gives way and nobody is gone by right, just that profile and what referred to it is lost. -/
theorem guarded_iff_of_vain (vain : manager.GivesWayInVain draft answer placeholder)
    (nobody : ∀ gone, ¬ GoneByRight manager after caller gone (.addOrUpdate draft caller) answer)
    (formed : after.roster.WellFormed) (own : profile.id = placeholder.id → profile ∉ after.roster.all)
    (others : profile.id ≠ placeholder.id → manager.roster.released placeholder.key profile ∈ after.roster.all) :
    Guarded manager after caller profile (.addOrUpdate draft caller) answer ↔
      ¬ manager.LosesInVain profile (.addOrUpdate draft caller) answer := by
  have kept : Guarded manager after caller profile (.addOrUpdate draft caller) answer ↔ profile ∈ after.roster.all := by
    constructor
    · rintro (still | ⟨gone, _, _, right, _⟩ | right)
      · exact still
      · exact absurd right (nobody gone)
      · exact absurd right (nobody profile)
    · exact .kept
  have lost : manager.LosesInVain profile (.addOrUpdate draft caller) answer ↔
      profile.id = placeholder.id ∨ manager.roster.released placeholder.key profile ≠ profile := by
    rw [losesInVain_addOrUpdate]
    constructor
    · rintro ⟨other, ⟨among, same, _⟩, lost⟩
      obtain rfl := wellFormed.eq_of_id among vain.1 (Option.some.inj (same.symm.trans vain.2.1))
      exact lost
    · exact fun lost => ⟨placeholder, vain, lost⟩
  rw [kept, lost, not_or, not_not]
  constructor
  · intro still
    have apart : profile.id ≠ placeholder.id := fun same => own same still
    exact ⟨apart, formed.eq_of_id (others apart) still (Roster.released_name ..).1⟩
  · rintro ⟨apart, same⟩
    exact same ▸ others apart

variable (present : profile ∈ manager.roster.all)

include present

theorem guarded_refused_iff {failure : ManagerError} (refused : manager.addOrUpdate draft caller = (after, .error failure)) :
    Guarded manager after caller profile (.addOrUpdate draft caller) (.failed failure) ↔
      ¬ manager.LosesInVain profile (.addOrUpdate draft caller) (.failed failure) := by
  obtain ⟨untouched, harmless⟩ | ⟨placeholder, replaced, rfl, found, ephemeral, gone⟩ := refused_cases wellFormed refused
  · refine iff_of_true (.kept (untouched.roster ▸ present)) fun lost => ?_
    obtain ⟨placeholder, ⟨_, replaced, reason | ⟨_, _, done, _⟩⟩, _⟩ := losesInVain_addOrUpdate.1 lost
    · obtain absent | other := harmless
      · cases replaced.symm.trans absent
      · exact other placeholder.key (Answer.failed.inj reason)
    · cases done
  · have formed : after.roster.WellFormed := gone.roster ▸ wellFormed.drop placeholder.id placeholder.key
    refine guarded_iff_of_vain wellFormed ⟨Roster.mem_of_get? found, replaced, .inl rfl⟩ (fun _ => nofun) formed ?_ ?_
    · rintro same still
      rw [gone.roster] at still
      obtain ⟨old, _, apart, rfl⟩ := wellFormed.mem_drop.1 still
      exact apart ((Roster.released_name ..).1.symm.trans same)
    · intro apart
      rw [gone.roster]
      exact wellFormed.mem_drop.2 ⟨profile, present, apart, rfl⟩

variable (barred : manager.canModify profile caller = false)

include barred

theorem guarded_remove (id : ProfileId) :
    Guarded manager (manager.remove id caller).1 caller profile (.remove id caller) (.flag (manager.remove id caller).2) := by
  obtain same | ⟨gone, found, rfl, permitted, done, roster⟩ := roster_remove wellFormed id caller
  · exact .kept (by rw [same]; exact present)
  · have earlier := Roster.mem_of_get? found
    have apart := id_ne_of_barred wellFormed present barred earlier permitted
    rw [done]
    refine .of_released earlier apart (.removed permitted) ?_
    rw [roster]
    exact wellFormed.mem_drop.2 ⟨profile, present, apart, rfl⟩

end Guarded

/-- An accepted draft has the key of the profile that gave way, which did so in vain if what is stored is ephemeral too. -/
theorem exists_taker (wellFormed : manager.roster.WellFormed) {placeholder : Profile} {result : EditResult}
    (accepted : (manager.addOrUpdate draft caller).2 = .ok result) (replaced : manager.replaced? draft = some placeholder.id)
    (found : manager.roster.get? placeholder.id = some placeholder) :
    ∃ taker ∈ (manager.addOrUpdate draft caller).1.roster.all, taker.id = result.id ∧ taker.key = placeholder.key ∧
      (manager.GivesWayInVain draft (.edited result) placeholder ↔ taker.ephemeral = true) := by
  obtain ⟨held, seen, _, saved, named⟩ := replaced?_eq_some wellFormed replaced
  obtain rfl := Option.some.inj (found.symm.trans seen)
  obtain ⟨_, taker, among, id, key, how⟩ := accepted_cases wellFormed accepted
  refine ⟨taker, among, id, key _ named, fun vain => ?_, fun unsaved => ?_⟩
  · obtain ⟨_, _, reason | ⟨_, existing, _, chosen, unsaved⟩⟩ := vain
    · cases reason
    · obtain ⟨new, _⟩ | ⟨other, again, _, _, same⟩ := how
      · cases chosen.symm.trans new
      · obtain rfl := Option.some.inj (chosen.symm.trans again)
        exact same.trans unsaved
  · obtain ⟨_, _, same⟩ | ⟨existing, chosen, _, _, same⟩ := how
    · cases unsaved.symm.trans (same.trans saved)
    · exact ⟨Roster.mem_of_get? found, replaced, .inr ⟨result, existing, rfl, chosen, same.symm.trans unsaved⟩⟩

section Accepted

variable {profile placeholder : Profile} {result : EditResult} (sound : manager.books.Sound)
  (present : profile ∈ manager.roster.all) (barred : manager.canModify profile caller = false)
  (accepted : (manager.addOrUpdate draft caller).2 = .ok result)

include sound present barred accepted

theorem id_ne_of_accepted : profile.id ≠ result.id := by
  have wellFormed : manager.roster.WellFormed := sound.wellFormed
  obtain ⟨_, _, _, _, _, ⟨_, fresh, _⟩ | ⟨existing, chosen, named, permitted, _⟩⟩ := accepted_cases wellFormed accepted
  · rw [fresh]
    have named : (profile.withId ⟨manager.nextId⟩).id = ⟨manager.nextId⟩ := rfl
    exact sound.ne_of_fresh named present
  · rw [named]
    exact id_ne_of_barred wellFormed present barred (Roster.mem_of_get? (edited?_eq_some wellFormed chosen).1) permitted

theorem mem_of_accepted (nobody : manager.replaced? draft = none) : profile ∈ (manager.addOrUpdate draft caller).1.roster.all := by
  have others := (accepted_cases sound.wellFormed accepted).1
  rw [giveWay, nobody] at others
  exact others profile present (id_ne_of_accepted sound present barred accepted)

theorem released_mem_of_accepted (replaced : manager.replaced? draft = some placeholder.id)
    (found : manager.roster.get? placeholder.id = some placeholder) (apart : profile.id ≠ placeholder.id) :
    manager.roster.released placeholder.key profile ∈ (manager.addOrUpdate draft caller).1.roster.all := by
  have others := (accepted_cases sound.wellFormed accepted).1
  rw [giveWay, replaced] at others
  simp only [roster_removeAnyway found] at others
  have dropped : manager.roster.released placeholder.key profile ∈ (manager.roster.drop placeholder.id placeholder.key).all :=
    Roster.WellFormed.mem_drop sound.wellFormed |>.2 ⟨profile, present, apart, rfl⟩
  refine others _ dropped fun same => ?_
  exact id_ne_of_accepted sound present barred accepted ((Roster.released_name ..).1.symm.trans same)

theorem guarded_accepted_iff :
    Guarded manager (manager.addOrUpdate draft caller).1 caller profile (.addOrUpdate draft caller) (.edited result) ↔
      ¬ manager.LosesInVain profile (.addOrUpdate draft caller) (.edited result) := by
  have wellFormed : manager.roster.WellFormed := sound.wellFormed
  cases replaced : manager.replaced? draft with
  | none =>
      refine iff_of_true (.kept (mem_of_accepted sound present barred accepted replaced)) fun lost => ?_
      obtain ⟨placeholder, ⟨_, same, _⟩, _⟩ := losesInVain_addOrUpdate.1 lost
      cases same.symm.trans replaced
  | some gone =>
      obtain ⟨placeholder, found, ephemeral, _⟩ := replaced?_eq_some wellFormed replaced
      obtain rfl := wellFormed.id_of_get? found
      have earlier := Roster.mem_of_get? found
      have left := released_mem_of_accepted sound present barred accepted replaced found
      have formed : (manager.addOrUpdate draft caller).1.roster.WellFormed :=
        wellFormed_perform wellFormed (.addOrUpdate draft caller)
      obtain ⟨taker, among, id, holds, vain⟩ := exists_taker wellFormed accepted replaced found
      cases kind : taker.ephemeral with
      | false =>
          have right : GoneByRight manager (manager.addOrUpdate draft caller).1 caller placeholder
              (.addOrUpdate draft caller) (.edited result) := .replaced ephemeral among id holds kind
          refine iff_of_true ?_ fun lost => ?_
          · by_cases own : profile.id = placeholder.id
            · obtain rfl := wellFormed.eq_of_id present earlier own
              exact .gaveWay right
            · exact .of_released earlier own right (left own)
          · obtain ⟨other, lostIn, _⟩ := losesInVain_addOrUpdate.1 lost
            obtain rfl := wellFormed.eq_of_id lostIn.1 earlier (Option.some.inj (lostIn.2.1.symm.trans replaced))
            cases kind.symm.trans (vain.1 lostIn)
      | true =>
          refine guarded_iff_of_vain wellFormed (vain.2 kind) ?_ formed ?_ left
          · rintro gone (_ | ⟨_, there, again, _, other⟩)
            rw [formed.eq_of_id there among (again.trans id.symm), kind] at other
            cases other
          · intro own still
            have one : profile = placeholder := wellFormed.eq_of_id present earlier own
            have same : profile = taker := formed.eq_of_key still among (one ▸ holds.symm)
            exact id_ne_of_accepted sound present barred accepted (same ▸ id)

end Accepted

/-- A draft that changes a profile is refused to those who may not modify it, before anything is done. -/
theorem addOrUpdate_of_barred {profile : Profile} (chosen : manager.edited? draft (manager.replaced? draft) = some profile)
    (barred : manager.canModify profile caller = false) :
    ∃ failure, manager.addOrUpdate draft caller = (manager, .error failure) ∧
      (failure = .foreignTenant caller.uid ∨ failure = .storeNotRead ∨ (∃ reason, failure = .validation reason) ∨
        failure = .permissionDenied caller.uid profile.id) := by
  unfold addOrUpdate
  split
  · exact ⟨_, rfl, .inl rfl⟩
  · split
    · exact ⟨_, rfl, .inr (.inl rfl)⟩
    · obtain ⟨reason, refused⟩ | refused := prepare_of_barred chosen barred
      · simp only [refused]
        exact ⟨_, rfl, .inr (.inr (.inl ⟨reason, rfl⟩))⟩
      · simp only [refused]
        exact ⟨_, rfl, .inr (.inr (.inr rfl))⟩

theorem guarded_iff_of_sound {profile : Profile} (sound : manager.books.Sound) (asked : AskedBy caller operation)
    (present : profile ∈ manager.roster.all) (barred : manager.canModify profile caller = false) :
    Guarded manager (manager.perform operation).1 caller profile operation (manager.perform operation).2 ↔
      ¬ manager.LosesInVain profile operation (manager.perform operation).2 := by
  have wellFormed : manager.roster.WellFormed := sound.wellFormed
  cases asked with
  | addOrUpdate draft =>
      cases outcome : (manager.addOrUpdate draft caller).2 with
      | error failure =>
          have refused : manager.addOrUpdate draft caller = ((manager.addOrUpdate draft caller).1, .error failure) :=
            Prod.ext rfl outcome
          have answer : (manager.perform (.addOrUpdate draft caller)).2 = .failed failure :=
            congrArg (Answer.ofExcept .edited) outcome
          rw [answer]
          exact guarded_refused_iff wellFormed present refused
      | ok result =>
          have answer : (manager.perform (.addOrUpdate draft caller)).2 = .edited result :=
            congrArg (Answer.ofExcept .edited) outcome
          rw [answer]
          exact guarded_accepted_iff sound present barred outcome
  | remove id => exact iff_of_true (guarded_remove wellFormed present barred id) (not_losesInVain fun _ _ => nofun)
  | enable id exclusive =>
      exact iff_of_true (.kept (mem_enable wellFormed present barred id exclusive)) (not_losesInVain fun _ _ => nofun)
  | disable id => exact iff_of_true (.kept (mem_disable wellFormed present barred id)) (not_losesInVain fun _ _ => nofun)

/-- Whatever a caller asks for, whoever it is and whatever it was granted: a profile that it may not modify stays as it is,
but for what referred to a profile that is gone by right and unless it gives way to a saved one, and but for what is lost
to an ephemeral profile that gives way in vain. An addition or change of the profile itself is refused. -/
theorem guarded_iff (reached : manager.Reachable) {privileges : Privileges} {acceptsKeys : Profile → Option Profile → Bool}
    {profile : Profile} (asked : AskedBy caller operation) (present : profile ∈ manager.roster.all)
    (barred : (manager.answering privileges acceptsKeys).canModify profile caller = false) :
    (Guarded (manager.answering privileges acceptsKeys) ((manager.answering privileges acceptsKeys).perform operation).1 caller
        profile operation ((manager.answering privileges acceptsKeys).perform operation).2 ↔
      ¬ manager.LosesInVain profile operation ((manager.answering privileges acceptsKeys).perform operation).2) ∧
    ∀ draft, operation = .addOrUpdate draft caller → manager.edited? draft (manager.replaced? draft) = some profile →
      ∃ failure, (manager.answering privileges acceptsKeys).perform operation =
          (manager.answering privileges acceptsKeys, .failed failure) ∧
        (failure = .foreignTenant caller.uid ∨ failure = .storeNotRead ∨ (∃ reason, failure = .validation reason) ∨
          failure = .permissionDenied caller.uid profile.id) := by
  have sound : (manager.answering privileges acceptsKeys).books.Sound := reached.sound
  refine ⟨guarded_iff_of_sound sound asked present barred, ?_⟩
  rintro draft rfl chosen
  have still : (manager.answering privileges acceptsKeys).edited? draft (manager.replaced? draft) = some profile := chosen
  obtain ⟨failure, refused, which⟩ := addOrUpdate_of_barred still barred
  refine ⟨failure, ?_, which⟩
  rw [perform, refused]
  rfl

/-- A saved network of the system's. -/
def withOffice : Manager := onEmptyStore.run [.load, .addOrUpdate (.psk "Office" "password") ⟨Uid.system, "android"⟩]

/-- Another app would give it another name. -/
def renamingOffice : Draft := { Draft.psk "Lobby" "password" with id := some ⟨0⟩ }

theorem guarded_renamingOffice : withOffice.roster.all ≠ [] ∧ ∀ profile ∈ withOffice.roster.all,
    Guarded (withOffice.answering .none fun _ _ => true)
        ((withOffice.answering .none fun _ _ => true).perform (.addOrUpdate renamingOffice ⟨10001, "app"⟩)).1 ⟨10001, "app"⟩ profile
        (.addOrUpdate renamingOffice ⟨10001, "app"⟩) (.failed (.permissionDenied 10001 ⟨0⟩)) := by
  have reached : withOffice.Reachable := (reachableAlone_onEmptyStore.run (by decide)).reachable
  have barred : ∀ profile ∈ withOffice.roster.all,
      (withOffice.answering .none fun _ _ => true).canModify profile ⟨10001, "app"⟩ = false := by decide
  have refused : ((withOffice.answering .none fun _ _ => true).perform (.addOrUpdate renamingOffice ⟨10001, "app"⟩)).2 =
      .failed (.permissionDenied 10001 ⟨0⟩) := by decide
  have nobody : withOffice.replaced? renamingOffice = none := by decide
  refine ⟨by decide, fun profile present => ?_⟩
  rw [← refused]
  refine (guarded_iff reached (.addOrUpdate renamingOffice) present (barred profile present)).1.2 fun lost => ?_
  obtain ⟨placeholder, ⟨_, same, _⟩, _⟩ := losesInVain_addOrUpdate.1 lost
  cases same.symm.trans nobody

/-- The ephemeral profile of the system's gives way to an app's, which the key store refuses. -/
theorem not_guarded_rejectedKeys : withPlaceholder.ReachableAlone ∧ ∃ profile ∈ withPlaceholder.roster.all,
    (withPlaceholder.answering .none fun _ _ => false).canModify profile ⟨10001, "app"⟩ = false ∧
    ((withPlaceholder.answering .none fun _ _ => false).perform (.addOrUpdate (cafe false) ⟨10001, "app"⟩)).2 =
      .failed (.keyStoreRejected (.ofNetwork "Cafe" .eap)) ∧
    ¬ Guarded (withPlaceholder.answering .none fun _ _ => false)
      ((withPlaceholder.answering .none fun _ _ => false).perform (.addOrUpdate (cafe false) ⟨10001, "app"⟩)).1 ⟨10001, "app"⟩
      profile (.addOrUpdate (cafe false) ⟨10001, "app"⟩) (.failed (.keyStoreRejected (.ofNetwork "Cafe" .eap))) := by
  have nothing : ((withPlaceholder.answering .none fun _ _ => false).perform
      (.addOrUpdate (cafe false) ⟨10001, "app"⟩)).1.roster.all = [] := by decide
  obtain ⟨profile, present, barred⟩ : ∃ profile ∈ withPlaceholder.roster.all,
      (withPlaceholder.answering .none fun _ _ => false).canModify profile ⟨10001, "app"⟩ = false := by decide
  refine ⟨reachableAlone_withPlaceholder, profile, present, barred, by decide, ?_⟩
  rintro (still | ⟨gone, _, _, right, _⟩ | right)
  · rw [nothing] at still
    cases still
  · cases right
  · cases right

end Manager

end SavedNetworks
