import SavedNetworks.Proofs.Manager.Additions
import SavedNetworks.Proofs.Manager.Following

/-!
The stream of events about one id. An addition starts it, unless the network had been dismissed, a removal ends it, and
each comes once at most (`Manager.orderly_heard_iff`).
-/

namespace SavedNetworks

namespace Event

def isAdded : Event → Bool
  | .added _ => true
  | _ => false

def isRemoved : Event → Bool
  | .removed _ => true
  | _ => false

/-- Neither an addition nor a removal. -/
def IsPlain (event : Event) : Prop := event.isAdded = false ∧ event.isRemoved = false

/-- A profile is added once and removed once at most, and nothing is said about it from then on. -/
structure Orderly (stream : List Event) : Prop where
  addedOnce : stream.countP isAdded ≤ 1
  removedOnce : stream.countP isRemoved ≤ 1
  removedLast : ∀ event ∈ stream.dropLast, event.isRemoved = false

/-- What is said first is that the profile was added. -/
def StartsAdded (stream : List Event) : Prop := ∀ event ∈ stream.head?, event.isAdded = true

variable {opening changes stream : List Event}

theorem orderly_of_kept (once : stream.countP isAdded ≤ 1) (kept : ∀ event ∈ stream, event.isRemoved = false) :
    Orderly stream := by
  have none : stream.countP isRemoved = 0 :=
    List.countP_eq_zero.2 fun event member => ne_true_of_eq_false (kept event member)
  exact ⟨once, none ▸ Nat.zero_le 1, fun event member => kept event ((List.dropLast_sublist stream).subset member)⟩

theorem orderly_remove (once : stream.countP isAdded ≤ 1) (kept : ∀ event ∈ stream, event.isRemoved = false)
    (profile : Profile) : Orderly (stream ++ [.removed profile]) := by
  have none : stream.countP isRemoved = 0 :=
    List.countP_eq_zero.2 fun event member => ne_true_of_eq_false (kept event member)
  refine ⟨?_, ?_, ?_⟩
  · rw [List.countP_append]
    exact once
  · rw [List.countP_append, none]
    exact Nat.le_refl 1
  · rw [List.dropLast_concat]
    exact kept

theorem countP_append_plain (plain : ∀ event ∈ changes, event.IsPlain) :
    (opening ++ changes).countP isAdded = opening.countP isAdded := by
  have none : changes.countP isAdded = 0 :=
    List.countP_eq_zero.2 fun event member => ne_true_of_eq_false (plain event member).1
  rw [List.countP_append, none, Nat.add_zero]

theorem kept_append_plain (kept : ∀ event ∈ opening, event.isRemoved = false)
    (plain : ∀ event ∈ changes, event.IsPlain) : ∀ event ∈ opening ++ changes, event.isRemoved = false :=
  List.forall_mem_append.2 ⟨kept, fun event member => (plain event member).2⟩

end Event

namespace Ledger

variable {id : ProfileId} {first middle last : Ledger}

/-- How a stream goes on about an id that was handed out: with plain events, and at last a removal at most. -/
inductive Sequel (id : ProfileId) (first last : Ledger) : Prop where
  | goesOn {changes : List Event} (plain : ∀ event ∈ changes, event.IsPlain)
    (told : last.heard id = first.heard id ++ changes)
    (absent : first.profile? id = none → changes = [] ∧ last.profile? id = none) : Sequel id first last
  | ends {changes : List Event} {old profile : Profile} (found : first.profile? id = some old)
    (plain : ∀ event ∈ changes, event.IsPlain)
    (told : last.heard id = first.heard id ++ changes ++ [.removed profile]) (gone : last.profile? id = none) :
    Sequel id first last

namespace Sequel

theorem of_silent (told : last.heard id = first.heard id) (absent : first.profile? id = none → last.profile? id = none) :
    Sequel id first last :=
  .goesOn (List.forall_mem_nil _) (told.trans (List.append_nil _).symm) fun before => ⟨rfl, absent before⟩

theorem trans (former : Sequel id first middle) (latter : Sequel id middle last) : Sequel id first last := by
  cases former with
  | @goesOn changes plain told absent =>
      cases latter with
      | @goesOn others simple said still =>
          refine .goesOn (List.forall_mem_append.2 ⟨plain, simple⟩) ?_ fun before => ?_
          · rw [said, told, List.append_assoc]
          · obtain ⟨rfl, gone⟩ := absent before
            exact still gone
      | @ends others old profile there simple said gone =>
          cases found : first.profile? id with
          | none => cases (absent found).2.symm.trans there
          | some one =>
              have both : last.heard id = first.heard id ++ (changes ++ others) ++ [.removed profile] := by
                rw [said, told, List.append_assoc (first.heard id)]
              exact .ends found (List.forall_mem_append.2 ⟨plain, simple⟩) both gone
  | ends found plain told gone =>
      cases latter with
      | goesOn _ said still =>
          obtain ⟨rfl, absent⟩ := still gone
          exact .ends found plain (said.trans ((List.append_nil _).trans told)) absent
      | ends there => cases gone.symm.trans there

end Sequel

theorem plain_eventOf? (profile : Profile) (transition : Transition) :
    ∀ event ∈ (Manager.eventOf? profile transition).toList, event.IsPlain := by
  cases transition <;> simp [Manager.eventOf?, Event.IsPlain, Event.isAdded, Event.isRemoved]

theorem Passage.sequel (passage : Passage id first last) : Sequel id first last := by
  cases passage with
  | absent before after silent => exact .of_silent silent fun _ => after
  | dropped found gone silent => exact .of_silent silent fun _ => gone
  | removed found gone told => exact .ends found (List.forall_mem_nil _) (by rw [told, List.append_nil]) gone
  | @stayed old new transition updates found now reports told edited =>
      have plain : ∀ event ∈ updates, event.IsPlain := by
        rcases edited with rfl | rfl
        · exact List.forall_mem_nil _
        · exact List.forall_mem_singleton.2 ⟨rfl, rfl⟩
      refine .goesOn (List.forall_mem_append.2 ⟨plain_eventOf? new transition, plain⟩) (told.trans (List.append_assoc ..)) ?_
      exact fun before => absurd (before.symm.trans found) nofun

end Ledger

namespace Manager

open Ledger (Sequel)

variable {manager : Manager} {operations : List Operation} {draft : Draft} {caller : Owner} {id : ProfileId}

/-- The process goes on, and the ids last. -/
def Lasts (manager : Manager) (operation : Operation) : Prop :=
  operation ≠ .restart ∧ manager.nextId.toNat + manager.idsTaken operation < UInt32.size

instance (manager : Manager) (operation : Operation) : Decidable (manager.Lasts operation) :=
  inferInstanceAs (Decidable (_ ∧ _))

theorem nextId_le_perform {operation : Operation} (wellFormed : manager.roster.WellFormed) (lasts : manager.Lasts operation) :
    manager.nextId ≤ (manager.perform operation).1.nextId := by
  have counted : (manager.perform operation).1.nextId.toNat = manager.nextId.toNat + manager.idsTaken operation :=
    (handsOut_perform wellFormed lasts.1 lasts.2).counted
  rw [UInt32.le_iff_toNat_le, counted]
  exact Nat.le_add_right _ _

theorem nextId_le_run (wellFormed : manager.roster.WellFormed) (lasts : manager.Along Lasts operations) :
    manager.nextId ≤ (manager.run operations).nextId := by
  induction operations generalizing manager with
  | nil => exact UInt32.le_refl _
  | cons operation rest ih =>
      obtain ⟨now, later⟩ := lasts
      exact UInt32.le_trans (nextId_le_perform wellFormed now) (ih (wellFormed_perform wellFormed operation) later)

/-- A run says nothing about the ids that it does not hand out. -/
theorem heard_run_of_unborn (sound : manager.books.Sound) (lasts : manager.Along Lasts operations)
    (unborn : (manager.run operations).nextId ≤ id.value) : (manager.run operations).heard id = manager.heard id := by
  -- On the operations. The next id never falls while ids last, so an id unborn at the end is unborn after each of them.
  induction operations generalizing manager with
  | nil => rfl
  | cons operation rest ih =>
      obtain ⟨now, later⟩ := lasts
      have after := sound_of_taken sound now.2
      have soon : (manager.perform operation).1.nextId ≤ id.value :=
        UInt32.le_trans (nextId_le_run after.wellFormed later) unborn
      exact (ih after later unborn).trans (heard_of_unborn sound now.1 now.2 soon)

/-- What a run says about an id that was handed out before. -/
theorem sequel_run (wellFormed : manager.roster.WellFormed) (lasts : manager.Along Lasts operations)
    (known : id.value < manager.nextId) : Sequel id manager.ledger (manager.run operations).ledger := by
  induction operations generalizing manager with
  | nil => exact .of_silent rfl fun absent => absent
  | cons operation rest ih =>
      obtain ⟨now, later⟩ := lasts
      have soon : id.value < (manager.perform operation).1.nextId :=
        UInt32.lt_of_lt_of_le known (nextId_le_perform wellFormed now)
      have first := (passage_perform wellFormed now.1 (fun _ => now.2) known).sequel
      exact first.trans (ih (wellFormed_perform wellFormed operation) later soon)

theorem welcome_spec (dismissed : Bool) (profile : Profile) :
    (welcome dismissed profile).countP Event.isAdded = 1 ∧
      (∀ event ∈ welcome dismissed profile, event.isRemoved = false) ∧
      ∀ rest, Event.StartsAdded (welcome dismissed profile ++ rest) ↔ dismissed = false := by
  cases dismissed with
  | false | true =>
      exact ⟨rfl, by simp [welcome, Event.isRemoved], fun rest => by simp [welcome, Event.StartsAdded, Event.isAdded]⟩

/-- The stream of an id from the addition on that hands it out. -/
theorem orderly_run (sound : manager.books.Sound) {later : List Operation}
    (lasts : manager.Along Lasts (.addOrUpdate draft caller :: later))
    (spent : (manager.addOrUpdate draft caller).1.nextId ≠ manager.nextId) :
    ∃ stream, (manager.run (.addOrUpdate draft caller :: later)).heard ⟨manager.nextId⟩ =
        manager.heard ⟨manager.nextId⟩ ++ stream ∧
      Event.Orderly stream ∧ (Event.StartsAdded stream ↔ ¬ manager.Redeems draft caller) := by
  obtain ⟨now, after⟩ := lasts
  have wellFormed : manager.roster.WellFormed := sound.wellFormed
  have known : manager.nextId < (manager.perform (.addOrUpdate draft caller)).1.nextId :=
    UInt32.lt_of_le_of_ne (nextId_le_perform wellFormed now) (Ne.symm spent)
  have sequel : Sequel ⟨manager.nextId⟩ (manager.addOrUpdate draft caller).1.ledger
      (manager.run (.addOrUpdate draft caller :: later)).ledger :=
    sequel_run (wellFormed_perform wellFormed (.addOrUpdate draft caller)) after known
  rcases heard_addOrUpdate wellFormed (absent_of_unborn sound (UInt32.le_refl _)) spent with
    ⟨refused, silent, absent⟩ | ⟨accepted, settled, told⟩
  · have nobody : ¬ manager.Redeems draft caller := fun redeems => redeems.1.elim refused
    cases sequel with
    | goesOn plain said still =>
        obtain ⟨rfl, _⟩ := still absent
        refine ⟨[], said.trans (congrArg (· ++ []) silent), ?_, iff_of_true (fun _ first => ?_) nobody⟩
        · exact Event.orderly_of_kept (Nat.zero_le 1) (List.forall_mem_nil _)
        · cases first
    | ends found => cases absent.symm.trans found
  · obtain ⟨once, kept, starts⟩ := welcome_spec (draft.ssid.any manager.dismissed.contains) settled
    have first : ∀ rest, Event.StartsAdded (welcome (draft.ssid.any manager.dismissed.contains) settled ++ rest) ↔
        ¬ manager.Redeems draft caller := fun rest => by
      rw [starts, Redeems, and_iff_right accepted, Bool.not_eq_true]
    have single : ∀ {changes : List Event}, (∀ event ∈ changes, event.IsPlain) →
        (welcome (draft.ssid.any manager.dismissed.contains) settled ++ changes).countP Event.isAdded ≤ 1 := fun plain =>
      Nat.le_of_eq ((Event.countP_append_plain plain).trans once)
    cases sequel with
    | @goesOn changes plain said =>
        refine ⟨_ ++ changes, ?_, Event.orderly_of_kept (single plain) (Event.kept_append_plain kept plain), first changes⟩
        rw [← List.append_assoc, ← told]
        exact said
    | @ends changes old profile found plain said =>
        refine ⟨_ ++ changes ++ [.removed profile], ?_, Event.orderly_remove (single plain) (Event.kept_append_plain kept plain)
          profile, ?_⟩
        · rw [← List.append_assoc, ← List.append_assoc, ← told]
          exact said
        · rw [List.append_assoc]
          exact first _

/-- In every run the stream of an id that an addition hands out is in order, and starts with the addition if and only if
it is not of a network that had been dismissed. -/
theorem orderly_heard_iff {given : List ProfileId} (reached : ReachableWith given manager) {earlier later : List Operation}
    (lasts : manager.Along Lasts (earlier ++ .addOrUpdate draft caller :: later))
    (spent : ((manager.run earlier).addOrUpdate draft caller).1.nextId ≠ (manager.run earlier).nextId) :
    ∃ stream, (manager.run (earlier ++ .addOrUpdate draft caller :: later)).heard ⟨(manager.run earlier).nextId⟩ =
        manager.heard ⟨(manager.run earlier).nextId⟩ ++ stream ∧
      Event.Orderly stream ∧ (Event.StartsAdded stream ↔ ¬ (manager.run earlier).Redeems draft caller) := by
  obtain ⟨before, after⟩ := along_append.1 lasts
  have keeps : ∀ manager operation, Lasts manager operation → manager.books.Sound →
      (manager.perform operation).1.books.Sound := fun _ _ lasts sound => sound_of_taken sound lasts.2
  have sound : (manager.run earlier).books.Sound := before.invariant keeps reached.given_eq.1
  have early : (manager.run earlier).heard ⟨(manager.run earlier).nextId⟩ =
      manager.heard ⟨(manager.run earlier).nextId⟩ := heard_run_of_unborn reached.given_eq.1 before (UInt32.le_refl _)
  rw [run_append, ← early]
  exact orderly_run sound after spent

/-- A network is picked and removed. -/
def pickedAndRemoved : List Operation :=
  [.enable ⟨0⟩ true ⟨Uid.system, "android"⟩, .remove ⟨0⟩ ⟨Uid.system, "android"⟩]

theorem orderly_pickedAndRemoved :
    ∃ stream, (onEmptyStore.run (.load :: .addOrUpdate (.psk "Home" "password") ⟨Uid.system, "android"⟩ ::
        pickedAndRemoved)).heard ⟨0⟩ = stream ∧ stream.length = 3 ∧ Event.Orderly stream ∧ Event.StartsAdded stream := by
  have start : ReachableWith [] onEmptyStore := .start ..
  have lasts : onEmptyStore.Along Lasts ([.load] ++
      .addOrUpdate (.psk "Home" "password") ⟨Uid.system, "android"⟩ :: pickedAndRemoved) := by decide
  have next : (onEmptyStore.run [.load]).nextId = 0 := by decide
  have silent : onEmptyStore.heard ⟨0⟩ = [] := rfl
  have fresh : ¬ (onEmptyStore.run [.load]).Redeems (.psk "Home" "password") ⟨Uid.system, "android"⟩ := fun redeems =>
    absurd redeems.2 (by decide)
  obtain ⟨stream, told, orderly, first⟩ := orderly_heard_iff start lasts (by decide)
  rw [next, silent, List.nil_append] at told
  exact ⟨stream, told, told ▸ by decide, orderly, first.2 fresh⟩

/-- An ephemeral network is dismissed and then saved. -/
def savingDismissed : List Operation :=
  [.load, .addOrUpdate { Draft.unsecured "Cafe" with ephemeral := true } ⟨Uid.system, "android"⟩, .dismiss "Cafe"]

theorem not_startsAdded_savingDismissed :
    ((onEmptyStore.run savingDismissed).addOrUpdate (.unsecured "Cafe") ⟨Uid.system, "android"⟩).1.nextId ≠
        (onEmptyStore.run savingDismissed).nextId ∧
      ¬ Event.StartsAdded ((onEmptyStore.run (savingDismissed ++
        [.addOrUpdate (.unsecured "Cafe") ⟨Uid.system, "android"⟩])).heard ⟨(onEmptyStore.run savingDismissed).nextId⟩) := by
  refine ⟨by decide, fun starts => ?_⟩
  obtain ⟨event, first, enabled⟩ := Option.map_eq_some_iff.1 (by decide :
    ((onEmptyStore.run (savingDismissed ++ [.addOrUpdate (.unsecured "Cafe") ⟨Uid.system, "android"⟩])).heard
      ⟨(onEmptyStore.run savingDismissed).nextId⟩).head?.map Event.isAdded = some false)
  exact absurd (starts event first) (ne_true_of_eq_false enabled)

end Manager

end SavedNetworks
