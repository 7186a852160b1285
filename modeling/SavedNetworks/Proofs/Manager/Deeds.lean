import Mathlib.Data.List.Nodup
import Mathlib.Logic.Relation
import SavedNetworks.Proofs.Manager.Operations
import SavedNetworks.Proofs.Manager.Refusals
import SavedNetworks.Proofs.Selection.Coherence

/-!
What operations do to the selection of profiles and what they announce, in order: deeds that leave the moods alone, then
the selections of distinct profiles, then an edit's own announcement. Every operation that does not follow the tenants
goes that way (`Manager.conduct_perform`).
-/

namespace SavedNetworks

namespace Profile

def mood (profile : Profile) : Eligibility × Reason := profile.selection.mood

/-- A profile's network, owner and mood. -/
def stance (profile : Profile) : Profile :=
  { blank profile.ssid profile.security with
    id := profile.id
    creator := profile.creator
    shared := profile.shared
    selection :=
      { SelectionStatus.initial with
        state := profile.selection.state
        reason := profile.selection.reason } }

theorem mood_stance (profile : Profile) : profile.stance.mood = profile.mood := rfl

theorem mood_of_stance {left right : Profile} (same : left.stance = right.stance) : left.mood = right.mood :=
  same_of_look mood mood_stance same

theorem stance_forgetChoice (profile : Profile) (key : ProfileKey) : (profile.forgetChoice key).stance = profile.stance := by
  unfold forgetChoice SelectionStatus.forgetChoice
  split <;> rfl

end Profile

namespace Roster

theorem keepsName_stance : KeepsName Profile.stance := fun _ => ⟨rfl, rfl⟩

theorem hidesLinks_stance : HidesLinks Profile.stance := ⟨fun _ _ => rfl, fun _ _ => rfl⟩

theorem stance_released (roster : Roster) (key : ProfileKey) (profile : Profile) :
    (roster.released key profile).stance = profile.stance :=
  hidesLinks_stance.released Profile.stance_forgetChoice roster key profile

end Roster

/-- The books of a manager, and what it announced and asked of the key store. -/
structure Ledger where
  books : Books
  journal : List Notice

namespace Ledger

def tell (ledger : Ledger) (notice : Notice) : Ledger := { ledger with journal := ledger.journal ++ [notice] }

def announce (ledger : Ledger) (event : Event) : Ledger := ledger.tell (.event event)

def announceAll (ledger : Ledger) (events : List Event) : Ledger :=
  { ledger with journal := ledger.journal ++ events.map .event }

theorem announceAll_nil (ledger : Ledger) : ledger.announceAll [] = ledger := by
  rw [announceAll, List.map_nil, List.append_nil]

def withRoster (ledger : Ledger) (roster : Roster) : Ledger := { ledger with books := { ledger.books with roster } }

/-- The profiles are written, if the store is read and the write is due. -/
inductive Persists : Ledger → Ledger → Prop where
  | unread {ledger : Ledger} : Persists ledger ledger
  | write {ledger : Ledger} (addresses : SortedMap String String) (force : Bool) :
    Persists ledger
      { ledger with
        books :=
          { ledger.books with
            store := (ledger.books.store.write ledger.books.writtenTenant (ledger.books.sections addresses) force).1 } }

/-- What changes no mood. -/
inductive Deed : Ledger → Ledger → Prop where
  | tell {ledger : Ledger} {notice : Notice} (silent : notice.event? = none) : Deed ledger (ledger.tell notice)
  /-- Something besides the profiles changes. -/
  | aside {ledger : Ledger} {books : Books} (roster : books.roster = ledger.books.roster)
    (ids : books.nextId = ledger.books.nextId) (same : books.store.SameContents ledger.books.store) :
    Deed ledger { ledger with books }
  | persist {before after : Ledger} (written : Persists before after) : Deed before after
  /-- Something is noted on profiles. -/
  | note {ledger : Ledger} {roster : Roster}
    (stances : roster.through Profile.stance = ledger.books.roster.through Profile.stance) :
    Deed ledger (ledger.withRoster roster)
  | drop {ledger : Ledger} {id : ProfileId} {profile : Profile} (found : ledger.books.roster.get? id = some profile) :
    Deed ledger ((ledger.withRoster (ledger.books.roster.drop id profile.key)).announce (.removed profile))
  | revise {ledger : Ledger} {current profile : Profile} {roster : Roster}
    (found : ledger.books.roster.get? profile.id = some current) (mood : profile.mood = current.mood)
    (stored : ledger.books.roster.put profile = .ok roster) : Deed ledger (ledger.withRoster roster)

abbrev Deeds : Ledger → Ledger → Prop := Relation.ReflTransGen Deed

/-- The next id may be handed out, to a new profile or in vain. -/
inductive Enters : Ledger → Ledger → Prop where
  | nobody {ledger : Ledger} : Enters ledger ledger
  | lost {ledger : Ledger} : Enters ledger { ledger with books := { ledger.books with nextId := ledger.books.nextId + 1 } }
  | filed {ledger : Ledger} {profile : Profile} {roster : Roster} (fresh : profile.id = ⟨ledger.books.nextId⟩)
    (coherent : profile.selection.Coherent) (stored : ledger.books.roster.put profile = .ok roster) :
    Enters ledger { ledger with books := { ledger.books with roster, nextId := ledger.books.nextId + 1 } }

/-- One visible profile takes in a reason or a poll. A change of state is announced with the profile as it then is. -/
inductive Picks (id : ProfileId) : Ledger → Ledger → Prop where
  | intro {ledger : Ledger} {profile changed : Profile} {selection : SelectionStatus} {transition : Transition}
    (found : ledger.books.roster.get? id = some profile) (moved : Moved profile.selection selection transition)
    (settled : changed = { profile with selection, status := (Manager.statusAfter transition).getD profile.status }) :
    Picks id ledger
      ((ledger.withRoster (ledger.books.roster.modify id fun _ => changed)).announceAll
        (Manager.eventOf? changed transition).toList)

/-- Some profiles do, one after the other, and are written each time. -/
inductive Selects : List ProfileId → Ledger → Ledger → Prop where
  | nil {ledger : Ledger} : Selects [] ledger ledger
  | cons {id : ProfileId} {ids : List ProfileId} {first second third last : Ledger} (picked : Picks id first second)
    (written : Persists second third) (rest : Selects ids third last) : Selects (id :: ids) first last

/-- What comes last: an edit is announced, whose id is the next one if its profile is new. -/
inductive Closes (next : UInt32) : Ledger → Ledger → Prop where
  | quietly {before after : Ledger} (written : Persists before after) : Closes next before after
  | added {before after : Ledger} {profile : Profile} (found : before.books.roster.get? ⟨next⟩ = some profile)
    (written : Persists (before.announce (.added profile)) after) : Closes next before after
  | updated {before after : Ledger} {id : ProfileId} {profile : Profile} (found : before.books.roster.get? id = some profile)
    (written : Persists (before.announce (.updated profile)) after) : Closes next before after

/-- The course of an operation that does not follow the tenants. -/
inductive Conduct : Ledger → Ledger → Prop where
  | intro {first second third fourth fifth last : Ledger} {ids : List ProfileId} (former : Deeds first second)
    (enters : Enters second third) (latter : Deeds third fourth) (distinct : ids.Nodup) (selects : Selects ids fourth fifth)
    (closes : Closes first.books.nextId fifth last) : Conduct first last

theorem Selects.append {ids others : List ProfileId} {first second last : Ledger} (former : Selects ids first second)
    (latter : Selects others second last) : Selects (ids ++ others) first last := by
  induction former with
  | nil => exact latter
  | cons picked written _ ih => exact .cons picked written (ih latter)

theorem Conduct.of_deeds {first last : Ledger} (deeds : Deeds first last) : Conduct first last :=
  .intro deeds .nobody .refl .nil .nil (.quietly .unread)

theorem Conduct.of_selects {first second third last : Ledger} {ids : List ProfileId} (deeds : Deeds first second)
    (distinct : ids.Nodup) (selects : Selects ids second third) (written : Persists third last) : Conduct first last :=
  .intro deeds .nobody .refl distinct selects (.quietly written)

end Ledger

def Manager.ledger (manager : Manager) : Ledger := ⟨manager.books, manager.journal⟩

namespace Manager

open Ledger (Persists Deed Deeds Selects Conduct)

variable {manager : Manager} {id : ProfileId} {draft : Draft} {caller : Owner} {edit : Edit}

theorem persists_persist (manager : Manager) (force : Bool) : Persists manager.ledger (manager.persist force).ledger := by
  cases read : manager.awaitsStore with
  | true =>
      rw [persist_of_awaitsStore read]
      exact .unread
  | false =>
      have journal : (manager.persist force).journal = manager.journal := by rw [persist_eq]
      unfold ledger
      rw [books_persist read, journal]
      exact .write manager.randomizer.legacy force

theorem announce_persist (manager : Manager) (event : Event) (force : Bool) :
    (manager.persist force).announce event = (manager.announce event).persist force := by
  unfold persist save
  cases read : manager.awaitsStore with
  | true =>
      have unread : (manager.announce event).awaitsStore = true := read
      rw [if_pos rfl, unread, if_pos rfl]
  | false =>
      have told : (manager.announce event).awaitsStore = false := read
      rw [if_neg Bool.false_ne_true, told, if_neg Bool.false_ne_true]
      rfl

theorem deeds_persist (manager : Manager) (force : Bool) : Deeds manager.ledger (manager.persist force).ledger :=
  .single (.persist (persists_persist manager force))

theorem deeds_modify {change : Profile → Profile}
    (noted : ∀ profile, manager.roster.get? id = some profile → (change profile).stance = profile.stance) :
    Deeds manager.ledger (manager.modify id change).ledger :=
  .single (.note (Roster.through_modify noted))

theorem deeds_note {change : Profile → Profile} (noted : ∀ profile, (change profile).stance = profile.stance)
    (manager : Manager) (id : ProfileId) : Deeds manager.ledger (manager.note id change).1.ledger := by
  unfold note
  split
  · exact deeds_modify fun profile _ => noted profile
  · exact .refl

theorem deeds_noteStored {change : Profile → Profile} (noted : ∀ profile, (change profile).stance = profile.stance)
    (manager : Manager) (id : ProfileId) : Deeds manager.ledger (manager.noteStored id change).1.ledger := by
  unfold noteStored
  split
  · exact (deeds_modify fun profile _ => noted profile).trans (deeds_persist _ false)
  · exact .refl

theorem deeds_forgetKeys (manager : Manager) (profile : Profile) : Deeds manager.ledger (manager.forgetKeys profile).ledger := by
  unfold forgetKeys
  split
  · split
    · exact .refl
    · exact .single (.tell rfl)
  · exact .refl

theorem deeds_removeAnyway (manager : Manager) (id : ProfileId) : Deeds manager.ledger (manager.removeAnyway id).1.ledger := by
  cases found : manager.roster.get? id with
  | none => rw [removeAnyway_of_not_found found]
  | some profile =>
      obtain ⟨journal, told⟩ := manager.exists_forgetKeys profile
      have still : (manager.forgetKeys profile).roster.get? id = some profile := by rw [told]; exact found
      have dropped : Deed (manager.forgetKeys profile).ledger
          (((manager.forgetKeys profile).without id profile).announce (.removed profile)).ledger := .drop still
      have gone := (deeds_forgetKeys manager profile).tail dropped
      rw [removeAnyway_of_found found]
      cases profile.isSaved with
      | true =>
          rw [if_pos rfl, announce_persist]
          exact gone.trans (deeds_persist _ true)
      | false => exact gone

theorem deeds_collect {operation : Manager → ProfileId → Manager × Bool}
    (each : ∀ manager id, Deeds (ledger manager) (operation manager id).1.ledger) (manager : Manager) (ids : List ProfileId) :
    Deeds manager.ledger (collect operation manager ids).1.ledger := by
  induction ids generalizing manager with
  | nil => exact .refl
  | cons id rest ih => exact (each manager id).trans (ih _)

theorem deeds_removeMatching (manager : Manager) (doomed : Profile → Bool) :
    Deeds manager.ledger (manager.removeMatching doomed).1.ledger :=
  deeds_collect deeds_removeAnyway manager _

theorem deeds_removeByKey (manager : Manager) (key : ProfileKey) (doomed : Profile → Bool) :
    Deeds manager.ledger (manager.removeByKey key doomed).1.ledger := by
  unfold removeByKey
  split
  · exact deeds_removeAnyway manager _
  · exact .refl

theorem selects_setSelection {profile : Profile} (found : manager.roster.get? id = some profile)
    {selection : SelectionStatus} {transition : Transition} (moved : Moved profile.selection selection transition) :
    Selects [id] manager.ledger (manager.setSelection id profile selection transition).ledger := by
  have there : manager.ledger.books.roster.get? id = some profile := found
  refine .cons (.intro there moved rfl) ?_ .nil
  unfold setSelection
  simp only
  generalize { profile with selection, status := (statusAfter transition).getD profile.status } = changed
  cases told : eventOf? changed transition with
  | none =>
      rw [Option.toList_none, Ledger.announceAll_nil]
      exact .unread
  | some event => exact persists_persist ((manager.modify id fun _ => changed).announce event) false

/-- A profile takes in a reason, unless it is not seen or the watchdog drops the reason. -/
theorem selects_updateSelection (manager : Manager) (id : ProfileId) (reason : Reason) :
    ∃ ids, ids.Sublist [id] ∧ Selects ids manager.ledger (manager.updateSelection id reason).1.ledger := by
  unfold updateSelection
  split
  · exact ⟨[], List.nil_sublist _, .nil⟩
  · next profile found =>
      simp only
      split
      · exact ⟨[id], List.Sublist.refl _, selects_setSelection found (.applied ..)⟩
      · exact ⟨[], List.nil_sublist _, .nil⟩

theorem selects_tryEnable (manager : Manager) (id : ProfileId) :
    ∃ ids, ids.Sublist [id] ∧ Selects ids manager.ledger (manager.tryEnable id).1.ledger := by
  unfold tryEnable
  split
  · exact ⟨[], List.nil_sublist _, .nil⟩
  · next profile found => exact ⟨[id], List.Sublist.refl _, selects_setSelection found (.polled ..)⟩

theorem selects_collect {operation : Manager → ProfileId → Manager × Bool}
    (each : ∀ manager id, ∃ ids, ids.Sublist [id] ∧ Selects ids (ledger manager) (operation manager id).1.ledger)
    (manager : Manager) (ids : List ProfileId) :
    ∃ chosen, chosen.Sublist ids ∧ Selects chosen manager.ledger (collect operation manager ids).1.ledger := by
  induction ids generalizing manager with
  | nil => exact ⟨[], List.Sublist.refl _, .nil⟩
  | cons id rest ih =>
      obtain ⟨first, fewer, selects⟩ := each manager id
      obtain ⟨others, less, later⟩ := ih (operation manager id).1
      exact ⟨first ++ others, fewer.append less, selects.append later⟩

theorem conduct_updateSelection {before : Ledger} (deeds : Deeds before manager.ledger) (id : ProfileId) (reason : Reason) :
    Conduct before (manager.updateSelection id reason).1.ledger := by
  obtain ⟨ids, fewer, selects⟩ := selects_updateSelection manager id reason
  exact .of_selects deeds (fewer.nodup (List.nodup_singleton id)) selects .unread

theorem conduct_decide {before : Ledger} (deeds : Deeds before manager.ledger) (id : ProfileId) (reason : Reason)
    (caller : Owner) : Conduct before (manager.decide id reason caller).1.ledger := by
  obtain ⟨ids, fewer, selects⟩ := selects_updateSelection manager id reason
  have distinct := fewer.nodup (List.nodup_singleton id)
  unfold decide
  split
  · split
    · next after moved =>
        rw [moved] at selects
        exact .of_selects deeds distinct selects (persists_persist after true)
    · next after moved =>
        rw [moved] at selects
        exact .of_selects deeds distinct selects .unread
  · exact .of_deeds deeds

theorem conduct_enable (manager : Manager) (id : ProfileId) (exclusive : Bool) (caller : Owner) :
    Conduct manager.ledger (manager.enable id exclusive caller).1.ledger := by
  unfold enable
  split
  · exact .of_deeds .refl
  · refine conduct_decide ?_ id .enable caller
    split <;> exact .refl

theorem conduct_disable (manager : Manager) (id : ProfileId) (caller : Owner) :
    Conduct manager.ledger (manager.disable id caller).1.ledger := by
  unfold disable
  split
  · exact .of_deeds .refl
  · refine conduct_decide ?_ id .byManager caller
    rw [deselect_eq]
    exact .refl

theorem deeds_forgive (manager : Manager) (dismissed : SortedMap String Millis) :
    Deeds manager.ledger { manager with dismissed }.ledger :=
  .single (.aside rfl rfl (.refl _))

theorem conduct_dismiss (manager : Manager) (ssid : String) : Conduct manager.ledger (manager.dismiss ssid).1.ledger := by
  unfold dismiss
  split
  · exact .of_deeds .refl
  · next profile _ =>
      refine conduct_updateSelection (.tail (deeds_forgive manager (manager.dismissed.insert ssid manager.platform.wall)) ?_)
        profile.id .byManager
      exact .note (Roster.through_modifyVisible fun one => one.stance_forgetChoice profile.key)

theorem conduct_checkDismissal (manager : Manager) (ssid : String) :
    Conduct manager.ledger (manager.checkDismissal ssid).1.ledger := by
  rw [checkDismissal_eq]
  split
  · exact .of_deeds .refl
  · split
    · exact .of_deeds .refl
    · simp only
      split
      · exact conduct_updateSelection (deeds_forgive manager _) _ .enable
      · exact .of_deeds (deeds_forgive manager _)

theorem conduct_tryEnableAll (wellFormed : manager.roster.WellFormed) : Conduct manager.ledger manager.tryEnableAll.1.ledger := by
  obtain ⟨chosen, fewer, selects⟩ := selects_collect selects_tryEnable manager
    ((manager.roster.visible.filter (·.selection.isTemporarilyDisabled)).map Profile.id)
  have listed : (manager.roster.visible.filter (·.selection.isTemporarilyDisabled)).map Profile.id |>.Sublist
      (manager.roster.all.map Profile.id) := (List.filter_sublist.trans List.filter_sublist).map _
  exact .of_selects .refl ((fewer.trans listed).nodup wellFormed.nodup_ids) selects .unread

theorem stance_forConnection (randomizer : Randomizer) (profile : Profile) (now : Millis) :
    (randomizer.forConnection profile now).2.1.stance = profile.stance := by
  unfold Randomizer.forConnection
  simp only
  split
  · split <;> rfl
  · split <;> rfl

theorem deeds_connectionAddress (manager : Manager) (id : ProfileId) :
    Deeds manager.ledger (manager.connectionAddress id).1.ledger := by
  unfold connectionAddress
  split
  · exact .refl
  · next profile found =>
      split
      · exact .refl
      · have stances := stance_forConnection manager.randomizer profile manager.platform.wall
        generalize manager.randomizer.forConnection profile manager.platform.wall = shown at stances
        obtain ⟨randomizer, changed, address⟩ := shown
        have noted : ∀ same, manager.roster.get? id = some same → changed.stance = same.stance := by
          intro same again
          rw [found, Option.some.injEq] at again
          rw [← again]
          exact stances
        have deeds : Deeds { manager with randomizer }.ledger
            ({ manager with randomizer }.modify id fun _ => changed).ledger := deeds_modify noted
        exact deeds

theorem deeds_renewLease (manager : Manager) (id : ProfileId) (seconds : UInt32) :
    Deeds manager.ledger (manager.renewLease id seconds).1.ledger := by
  unfold renewLease
  split
  · exact deeds_modify fun _ _ => rfl
  · exact .refl

theorem deeds_observe (manager : Manager) (id : ProfileId) (sighting : Sighting) :
    Deeds manager.ledger (manager.observe id sighting).1.ledger := by
  unfold observe
  split
  · exact .refl
  · exact .single (.note (Roster.hidesLinks_stance.through_reconsider _ _ _ _))

theorem ledger_observeLive (manager : Manager) (id : ProfileId) (bssid : Address) (level : Int32) :
    (manager.observeLive id bssid level).1.ledger = manager.ledger := by
  unfold observeLive
  split <;> rfl

theorem deeds_undergo (manager : Manager) (change : Change) (ours : (Operation.change change).isForeign = false) :
    Deeds manager.ledger (manager.undergo change).ledger := by
  cases change with
  | failNextRead => exact .single (.aside rfl rfl manager.store.sameContents_failNextRead)
  | failWrites fail => exact .single (.aside rfl rfl (manager.store.sameContents_failWrites fail))
  | write tenant data => cases ours
  | advance | setWall | block | setWatchdog | unlock | lock => exact .refl

/-- What an edit starts from is still there when another profile gave way, but for what referred to that one. -/
theorem exists_giveWay (wellFormed : manager.roster.WellFormed) {existing : Profile}
    (found : manager.roster.get? existing.id = some existing) (apart : some existing.id ≠ manager.replaced? draft) :
    ∃ current, (manager.giveWay draft).roster.get? existing.id = some current ∧ current.mood = existing.mood := by
  cases replaced : manager.replaced? draft with
  | none =>
      refine ⟨existing, ?_, rfl⟩
      rw [giveWay, replaced]
      exact found
  | some id =>
      obtain ⟨profile, _, _, _, books⟩ := giveWay_of_replaced wellFormed replaced
      have roster : (manager.giveWay draft).roster = manager.roster.drop id profile.key := congrArg Books.roster books
      rw [replaced, ne_eq, Option.some.injEq] at apart
      refine ⟨_, by rw [roster, Roster.get?_drop_of_ne found apart], ?_⟩
      exact Profile.mood_of_stance ((Roster.hidesLinks_stance.unlink _ _).trans (existing.stance_forgetChoice _))

theorem deeds_giveWay (manager : Manager) (draft : Draft) : Deeds manager.ledger (manager.giveWay draft).ledger := by
  unfold giveWay
  split
  · exact deeds_removeAnyway manager _
  · exact .refl

theorem deeds_showKeys (manager : Manager) (draft : Draft) (edit : Edit) :
    Deeds manager.ledger (manager.showKeys draft edit).1.ledger := by
  unfold showKeys
  split
  · exact .single (.tell rfl)
  · exact .refl

theorem mood_outcome (edit : Edit) : edit.outcome.mood = edit.profile.mood := by
  unfold Edit.outcome
  split <;> rfl

/-- An edit is refused, which may cost an id, or its outcome is stored under the next id or in place of what it revises. -/
theorem filed_of_prepared (wellFormed : manager.roster.WellFormed)
    (prepared : manager.prepare draft caller (manager.replaced? draft) = .ok edit) :
    ∃ middle, Deeds manager.ledger middle ∧
      ((∃ failure after, (manager.giveWay draft).carryOut draft edit = (after, .error failure) ∧
          Ledger.Enters middle after.ledger) ∨
        ∃ (profile : Profile) (after : Manager),
          (manager.giveWay draft).carryOut draft edit = (after, .ok (edit.result profile.id)) ∧
          ((edit.isNew = true ∧ profile.id = ⟨manager.nextId⟩ ∧ Ledger.Enters middle after.ledger) ∨
            (edit.isNew = false ∧ Deed middle after.ledger))) := by
  have ready := (deeds_giveWay manager draft).trans (deeds_showKeys (manager.giveWay draft) draft edit)
  refine ⟨_, ready, ?_⟩
  obtain ⟨journal, told⟩ := (manager.giveWay draft).exists_showKeys draft edit
  have next : ((manager.giveWay draft).showKeys draft edit).1.nextId = manager.nextId := by
    rw [told]
    exact (giveWay_keeps wellFormed draft).2.2
  rcases (manager.giveWay draft).carryOut_spec draft edit with
    rejected | ⟨_, profile, readied, ⟨conflict, _, refused⟩ | ⟨roster, stored, carried⟩⟩
  · exact .inl ⟨_, _, rejected, .nobody⟩
  · cases readied with
    | fresh => exact .inl ⟨_, _, refused, .lost⟩
    | revised => exact .inl ⟨_, _, refused, .nobody⟩
  · refine .inr ⟨_, _, carried, ?_⟩
    rcases prepare_eq_ok prepared with ⟨existing, chosen, rfl⟩ | ⟨_, ssid, security, _, _, rfl⟩
    · cases readied with
      | fresh new => cases new
      | revised =>
          obtain ⟨seen, apart⟩ := edited?_eq_some wellFormed chosen
          obtain ⟨current, found, mood⟩ := exists_giveWay wellFormed seen apart
          have id : (manager.revision existing draft caller).outcome.id = existing.id :=
            (Roster.keepsName_outline.same (manager.revision existing draft caller).outline_outcome).1
          have there : ((manager.giveWay draft).showKeys draft (manager.revision existing draft caller)).1.roster.get?
              (manager.revision existing draft caller).outcome.id = some current := by
            rw [told, id]
            exact found
          exact .inr ⟨rfl, .revise there ((mood_outcome _).trans mood.symm) stored⟩
    · cases readied with
      | fresh new randomizer station =>
          have coherent := (SelectionStatus.coherent_congr
            (mood_outcome ⟨none, .ofDraft draft ssid security caller manager.stamp⟩)).2 rfl
          refine .inl ⟨rfl, congrArg ProfileId.mk next, .filed rfl ?_ stored⟩
          exact coherent
      | revised existing old => cases old

/-- A stored edit is announced once a dismissed profile is enabled again. -/
theorem conduct_followUp {first second third : Ledger} {result : EditResult} (former : Deeds first second)
    (enters : Ledger.Enters second third) (latter : Deeds third manager.ledger)
    (fresh : result.isNew = true → result.id = ⟨first.books.nextId⟩) :
    Conduct first (manager.followUp result).ledger := by
  obtain ⟨ready, ids, deeds, fewer, selects⟩ : ∃ ready ids, Deeds manager.ledger ready ∧ ids.Sublist [result.id] ∧
      Selects ids ready (manager.undismiss result.id).ledger := by
    unfold undismiss
    simp only
    split
    · obtain ⟨ids, fewer, selects⟩ := selects_updateSelection
        { manager with dismissed := manager.dismissed.erase (((manager.roster.get? result.id).map Profile.ssid).getD "") }
        result.id .enable
      exact ⟨_, ids, deeds_forgive manager _, fewer, selects⟩
    · exact ⟨_, [], .refl, List.nil_sublist _, .nil⟩
  refine .intro former enters (latter.trans deeds) (fewer.nodup (List.nodup_singleton _)) selects ?_
  unfold followUp
  simp only
  generalize manager.undismiss result.id = settled
  split
  · exact .quietly .unread
  · next profile found =>
      cases new : result.isNew with
      | true =>
          rw [fresh new] at found
          simp only [if_true]
          refine .added found ?_
          split
          · exact persists_persist (settled.announce (.added profile)) true
          · exact .unread
      | false =>
          simp only [Bool.false_eq_true, if_false]
          refine .updated found ?_
          split
          · exact persists_persist (settled.announce (.updated profile)) true
          · exact .unread

theorem conduct_addOrUpdate (wellFormed : manager.roster.WellFormed) (draft : Draft) (caller : Owner) :
    Conduct manager.ledger (manager.addOrUpdate draft caller).1.ledger := by
  rcases addOrUpdate_cases manager draft caller with ⟨failure, refused⟩ | ⟨edit, _, _, prepared, outcome⟩
  · rw [refused]
    exact .of_deeds .refl
  · rw [outcome]
    obtain ⟨middle, ready, ⟨failure, after, refused, enters⟩ |
      ⟨profile, after, carried, ⟨new, fresh, enters⟩ | ⟨old, revised⟩⟩⟩ := filed_of_prepared wellFormed prepared
    · rw [refused]
      exact .intro ready enters .refl .nil .nil (.quietly .unread)
    · rw [carried]
      exact conduct_followUp ready enters .refl fun _ => fresh
    · rw [carried]
      exact conduct_followUp ready .nobody (.single revised) fun new => Bool.noConfusion (old.symm.trans new)

/-- Every operation that does not follow the tenants goes that way. -/
theorem conduct_perform (wellFormed : manager.roster.WellFormed) {operation : Operation}
    (stays : operation.followsTenants = false) (ours : operation.isForeign = false) :
    Conduct manager.ledger (manager.perform operation).1.ledger := by
  have noted : ∀ id {change : Profile → Profile}, (∀ profile, (change profile).stance = profile.stance) →
      Conduct manager.ledger (manager.note id change).1.ledger := fun id _ same => .of_deeds (deeds_note same manager id)
  have kept : ∀ id {change : Profile → Profile}, (∀ profile, (change profile).stance = profile.stance) →
      Conduct manager.ledger (manager.noteStored id change).1.ledger := fun id _ same =>
    .of_deeds (deeds_noteStored same manager id)
  -- An operation that selects nobody is a sequence of deeds; the others also have a turn of each profile they select.
  cases operation with
  | restart | load | switchTenant | unlockTenant | stopTenant => cases stays
  | change change => exact .of_deeds (deeds_undergo manager change ours)
  | addListener | setVerbose => exact .of_deeds .refl
  | save force => exact .of_deeds (deeds_persist manager force)
  | flush => exact .of_deeds (.single (.aside rfl rfl manager.store.sameContents_flush))
  | addOrUpdate draft caller => exact conduct_addOrUpdate wellFormed draft caller
  | remove id caller =>
      simp only [perform, Prod.map_fst, id_eq]
      rcases manager.remove_cases id caller with refused | ⟨granted, _⟩
      · rw [refused]
        exact .of_deeds .refl
      · rw [granted]
        exact .of_deeds (deeds_removeAnyway manager id)
  | enable id exclusive caller => exact conduct_enable manager id exclusive caller
  | disable id caller => exact conduct_disable manager id caller
  | dismiss ssid => exact conduct_dismiss manager ssid
  | checkDismissal ssid => exact conduct_checkDismissal manager ssid
  | clearDismissals => exact .of_deeds (deeds_forgive manager _)
  | removeForApp app => exact .of_deeds (deeds_removeMatching manager _)
  | removeForTenant tenant => exact .of_deeds (deeds_removeMatching manager _)
  | removeUnsaved => exact .of_deeds (deeds_removeMatching manager _)
  | removeSuggestion key => exact .of_deeds (deeds_removeByKey manager key _)
  | removePasspoint key => exact .of_deeds (deeds_removeByKey manager key _)
  | updateSelection id reason => exact conduct_updateSelection .refl id reason
  | updateSelectionCode id code =>
      simp only [perform, updateSelectionCode, Prod.map_fst, id_eq]
      split
      · exact conduct_updateSelection .refl id _
      · exact .of_deeds .refl
  | tryEnable id =>
      obtain ⟨ids, fewer, selects⟩ := selects_tryEnable manager id
      exact .of_selects .refl (fewer.nodup (List.nodup_singleton id)) selects .unread
  | tryEnableAll => exact conduct_tryEnableAll wellFormed
  | recordConnected id | recordDisconnected id | setConnectChoice id | clearConnectChoice id | reportNoInternet id
  | setValidated id | setNoInternetExpected id | setAutojoin id | setGateway id => exact kept id fun _ => rfl
  | setCandidate id | clearCandidate id | setRecentFailure id | clearRecentFailure id => exact noted id fun _ => rfl
  | setLastConnectUid id uid =>
      simp only [perform, setLastConnectUid, Prod.map_fst, id_eq]
      split
      · exact kept id fun _ => rfl
      · exact .of_deeds .refl
  | observe id sighting => exact .of_deeds (deeds_observe manager id sighting)
  | observeLive id bssid level =>
      rw [show (manager.perform (.observeLive id bssid level)).1.ledger = manager.ledger from
        ledger_observeLive manager id bssid level]
      exact .of_deeds .refl
  | connectionAddress id => exact .of_deeds (deeds_connectionAddress manager id)
  | renewLease id seconds => exact .of_deeds (deeds_renewLease manager id seconds)
  | resetSim => exact .of_deeds (.single (.note (Roster.through_modifyVisible fun _ => rfl)))

end Manager

end SavedNetworks
