import SavedNetworks.Proofs.Manager.Deeds

/-!
What an operation does to the profile of one id, and what it announces about it (`Manager.passage_perform`). Nothing
happens to an id that nobody has; a profile is removed and that is the last of it; or it stays, and then the transition
of its selection is announced, followed by its update if it was edited. Loads and changes of tenants say nothing about
profiles, and leave those alone that they do not drop.
-/

namespace SavedNetworks

def Event.isAbout (id : ProfileId) (event : Event) : Bool := event.profile?.any (·.id == id)

/-- The events about an id that were announced, in order. -/
def Manager.heard (manager : Manager) (id : ProfileId) : List Event := manager.events.filter (Event.isAbout id)

namespace Ledger

variable {id : ProfileId} {first second last before after : Ledger} {ids : List ProfileId} {next : UInt32}

def profile? (ledger : Ledger) (id : ProfileId) : Option Profile := ledger.books.roster.profiles.get? id

def heard (ledger : Ledger) (id : ProfileId) : List Event :=
  (ledger.journal.filterMap Notice.event?).filter (Event.isAbout id)

theorem heard_tell (ledger : Ledger) (notice : Notice) (id : ProfileId) :
    (ledger.tell notice).heard id = ledger.heard id ++ notice.event?.toList.filter (Event.isAbout id) := by
  unfold heard tell
  rw [List.filterMap_append, List.filter_append]
  cases told : notice.event? <;> simp [told]

theorem heard_of_silent {notice : Notice} (silent : notice.event? = none) (ledger : Ledger) (id : ProfileId) :
    (ledger.tell notice).heard id = ledger.heard id := by
  rw [heard_tell, silent, Option.toList_none, List.filter_nil, List.append_nil]

theorem heard_of_isAbout {event : Event} (about : event.isAbout id = true) (ledger : Ledger) :
    (ledger.announce event).heard id = ledger.heard id ++ [event] := by
  have told : (Notice.event event).event?.toList = [event] := rfl
  rw [announce, heard_tell, told, List.filter_singleton, about, cond_true]

theorem heard_of_not_isAbout {event : Event} (other : event.isAbout id = false) (ledger : Ledger) :
    (ledger.announce event).heard id = ledger.heard id := by
  have told : (Notice.event event).event?.toList = [event] := rfl
  rw [announce, heard_tell, told, List.filter_singleton, other, cond_false, List.append_nil]

theorem heard_announceAll (ledger : Ledger) (events : List Event) (id : ProfileId) :
    (ledger.announceAll events).heard id = ledger.heard id ++ events.filter (Event.isAbout id) := by
  have told : (events.map Notice.event).filterMap Notice.event? = events := by
    rw [List.filterMap_map]
    exact List.filterMap_some
  rw [heard, announceAll, List.filterMap_append, List.filter_append, told]
  rfl

/-- The part of a passage in which no mood changes. -/
inductive Fate (id : ProfileId) (first last : Ledger) : Prop where
  | kept (moods : (last.profile? id).map Profile.mood = (first.profile? id).map Profile.mood)
    (silent : last.heard id = first.heard id) : Fate id first last
  | removed {old profile : Profile} (found : first.profile? id = some old) (gone : last.profile? id = none)
    (told : last.heard id = first.heard id ++ [.removed profile]) : Fate id first last

namespace Fate

theorem refl (ledger : Ledger) : Fate id ledger ledger := .kept rfl rfl

theorem trans (former : Fate id first second) (latter : Fate id second last) : Fate id first last := by
  cases former with
  | kept moods silent =>
      cases latter with
      | kept again still => exact .kept (again.trans moods) (still.trans silent)
      | removed found gone told =>
          rw [found, Option.map_some, eq_comm, Option.map_eq_some_iff] at moods
          obtain ⟨old, earlier, _⟩ := moods
          exact .removed earlier gone (silent ▸ told)
  | removed found gone told =>
      cases latter with
      | kept again still =>
          rw [gone, Option.map_none, Option.map_eq_none_iff] at again
          exact .removed found again (still.trans told)
      | removed there =>
          rw [gone] at there
          cases there

theorem absent (fate : Fate id first last) (before : first.profile? id = none) : last.profile? id = none := by
  cases fate with
  | kept moods =>
      rw [before, Option.map_none, Option.map_eq_none_iff] at moods
      exact moods
  | removed found => cases before.symm.trans found

theorem of_same (profiles : last.books.roster = first.books.roster) (journal : last.journal = first.journal) :
    Fate id first last := by
  refine .kept ?_ ?_
  · rw [profile?, profile?, profiles]
  · rw [heard, heard, journal]

end Fate

theorem Persists.same (written : Persists before after) :
    after.books.roster = before.books.roster ∧ after.books.nextId = before.books.nextId ∧ after.journal = before.journal := by
  cases written with
  | unread => exact ⟨rfl, rfl, rfl⟩
  | write => exact ⟨rfl, rfl, rfl⟩

theorem Persists.profile? (written : Persists before after) (id : ProfileId) : after.profile? id = before.profile? id := by
  rw [Ledger.profile?, Ledger.profile?, written.same.1]

theorem Persists.heard (written : Persists before after) (id : ProfileId) : after.heard id = before.heard id := by
  rw [Ledger.heard, Ledger.heard, written.same.2.2]

namespace Deed

theorem nextId (deed : Deed before after) : after.books.nextId = before.books.nextId := by
  cases deed with
  | aside roster ids same => exact ids
  | persist written => exact written.same.2.1
  | tell | note | drop | revise => rfl

theorem wellFormed (deed : Deed before after) (wellFormed : before.books.roster.WellFormed) :
    after.books.roster.WellFormed := by
  cases deed with
  | tell => exact wellFormed
  | aside roster ids same => exact roster ▸ wellFormed
  | persist written => exact written.same.1 ▸ wellFormed
  | note stances => exact wellFormed.of_through Roster.keepsName_stance stances
  | drop found => exact wellFormed.drop _ _
  | revise found mood stored => exact wellFormed.put stored

theorem fate (deed : Deed before after) (wellFormed : before.books.roster.WellFormed) (id : ProfileId) :
    Fate id before after := by
  cases deed with
  | tell silent => exact .kept rfl (heard_of_silent silent before id)
  | aside roster ids same => exact .of_same roster rfl
  | persist written => exact .of_same written.same.1 written.same.2.2
  | note stances =>
      have here := congrArg (Option.map Profile.mood) ((Roster.through_eq_iff.1 stances).2.2 id)
      rw [Option.map_map, Option.map_map] at here
      exact .kept here rfl
  | @drop target profile found =>
      have named := wellFormed.id_of_get? found
      have profiles := Roster.get?_drop before.books.roster target id profile.key
      by_cases same : id = target
      · rw [if_pos same] at profiles
        have about : (Event.removed profile).isAbout id = true := by simp [Event.isAbout, Event.profile?, named, same]
        exact .removed (same ▸ (Roster.get?_eq_some.1 found).1) profiles (heard_of_isAbout about _)
      · rw [if_neg same] at profiles
        have other : (Event.removed profile).isAbout id = false := by
          simp [Event.isAbout, Event.profile?, named, Ne.symm same]
        refine .kept ?_ (heard_of_not_isAbout other _)
        have moods : Profile.mood ∘ before.books.roster.released profile.key = Profile.mood :=
          funext fun one => Profile.mood_of_stance (Roster.stance_released before.books.roster profile.key one)
        have here := congrArg (Option.map Profile.mood) profiles
        rw [Option.map_map, moods] at here
        exact here
  | @revise current profile roster found mood stored =>
      refine .kept ?_ rfl
      obtain ⟨_, rfl⟩ := Roster.put_eq_ok_iff.1 stored
      change Option.map _ ((before.books.roster.profiles.insert profile.id profile).get? id) = _
      rw [SortedMap.get?_insert]
      split
      · next same => rw [profile?, same, (Roster.get?_eq_some.1 found).1, Option.map_some, Option.map_some, mood]
      · rfl

end Deed

theorem Deeds.spec (deeds : Deeds first last) (wellFormed : first.books.roster.WellFormed) :
    last.books.roster.WellFormed ∧ last.books.nextId = first.books.nextId ∧ ∀ id, Fate id first last := by
  induction deeds with
  | refl => exact ⟨wellFormed, rfl, fun _ => .refl first⟩
  | tail _ deed ih =>
      obtain ⟨formed, ids, fates⟩ := ih
      exact ⟨deed.wellFormed formed, deed.nextId.trans ids, fun id => (fates id).trans (deed.fate formed id)⟩

theorem Enters.wellFormed (enters : Enters before after) (wellFormed : before.books.roster.WellFormed) :
    after.books.roster.WellFormed := by
  cases enters with
  | nobody | lost => exact wellFormed
  | filed fresh coherent stored => exact wellFormed.put stored

/-- Whoever has another id than the next one does not notice, nor does anybody if that is not handed out. -/
theorem Enters.fate (enters : Enters before after)
    (known : id ≠ ⟨before.books.nextId⟩ ∨ after.books.nextId = before.books.nextId) : Fate id before after := by
  cases enters with
  | nobody | lost => exact .of_same rfl rfl
  | @filed profile roster fresh coherent stored =>
      have spent : before.books.nextId + 1 ≠ before.books.nextId := by grind
      have other : id ≠ ⟨before.books.nextId⟩ := known.resolve_right spent
      refine .kept ?_ rfl
      obtain ⟨_, rfl⟩ := Roster.put_eq_ok_iff.1 stored
      change Option.map _ ((before.books.roster.profiles.insert profile.id profile).get? id) = _
      rw [SortedMap.get?_insert_of_ne _ _ (fresh ▸ other)]
      rfl

theorem filter_eventOf? (profile : Profile) (transition : Transition) (id : ProfileId) :
    (Manager.eventOf? profile transition).toList.filter (Event.isAbout id) =
      if profile.id = id then (Manager.eventOf? profile transition).toList else [] := by
  cases transition with
  | enabled | temporarilyDisabled | permanentlyDisabled =>
      simp only [Manager.eventOf?, Option.toList_some, List.filter_singleton, Event.isAbout, Event.profile?, Option.any_some,
        cond_eq_ite, beq_iff_eq]
  | unchanged | debounced | ignored => simp [Manager.eventOf?]

/-- The part of a passage in which the selection may change. -/
inductive Turn (id : ProfileId) (first last : Ledger) : Prop where
  | apart (same : last.profile? id = first.profile? id) (silent : last.heard id = first.heard id) : Turn id first last
  | picked {old new : Profile} {transition : Transition} (found : first.profile? id = some old)
    (now : last.profile? id = some new) (moved : Moved old.selection new.selection transition)
    (told : last.heard id = first.heard id ++ (Manager.eventOf? new transition).toList) : Turn id first last

theorem Turn.absent (turn : Turn id first last) (before : first.profile? id = none) : last.profile? id = none := by
  cases turn with
  | apart same => exact same.trans before
  | picked found => cases before.symm.trans found

namespace Picks

variable {target : ProfileId}

theorem nextId (picks : Picks target before after) : after.books.nextId = before.books.nextId := by
  cases picks
  rfl

theorem wellFormed (picks : Picks target before after) (wellFormed : before.books.roster.WellFormed) :
    after.books.roster.WellFormed := by
  cases picks with
  | @intro profile changed _ _ found moved settled =>
      refine wellFormed.of_through Roster.keepsName_outline (Roster.through_modify fun one again => ?_)
      obtain rfl := Option.some.inj (found.symm.trans again)
      rw [settled]
      rfl

/-- Only the one that is picked changes, and it alone is spoken of. -/
theorem turn (picks : Picks target before after) (wellFormed : before.books.roster.WellFormed) (id : ProfileId) :
    (id ≠ target → after.profile? id = before.profile? id ∧ after.heard id = before.heard id) ∧
      (id = target → ∃ old new transition, before.profile? id = some old ∧ after.profile? id = some new ∧
        Moved old.selection new.selection transition ∧
        after.heard id = before.heard id ++ (Manager.eventOf? new transition).toList) := by
  cases picks with
  | @intro profile changed selection transition found moved settled =>
      have same : changed.id = profile.id := by rw [settled]
      have named : changed.id = target := same.trans (wellFormed.id_of_get? found)
      have profiles : (before.books.roster.modify target fun _ => changed).profiles =
          before.books.roster.profiles.insert target changed := by
        unfold Roster.modify
        rw [found]
      have heard := heard_announceAll (before.withRoster (before.books.roster.modify target fun _ => changed))
        (Manager.eventOf? changed transition).toList id
      rw [filter_eventOf?, named] at heard
      constructor
      · intro other
        rw [if_neg (Ne.symm other), List.append_nil] at heard
        refine ⟨?_, heard⟩
        change (before.books.roster.modify target fun _ => changed).profiles.get? id = _
        rw [profiles, SortedMap.get?_insert_of_ne _ _ other]
        rfl
      · rintro rfl
        rw [if_pos rfl] at heard
        refine ⟨profile, changed, transition, (Roster.get?_eq_some.1 found).1, ?_, ?_, heard⟩
        · change (before.books.roster.modify id fun _ => changed).profiles.get? id = _
          rw [profiles, SortedMap.get?_insert_self]
        · rw [settled]
          exact moved

end Picks

namespace Selects

theorem nextId (selects : Selects ids first last) : last.books.nextId = first.books.nextId := by
  induction selects with
  | nil => rfl
  | cons picked written _ ih => exact ih.trans (written.same.2.1.trans picked.nextId)

theorem wellFormed (selects : Selects ids first last) (wellFormed : first.books.roster.WellFormed) :
    last.books.roster.WellFormed := by
  induction selects with
  | nil => exact wellFormed
  | cons picked written _ ih => exact ih (written.same.1 ▸ picked.wellFormed wellFormed)

theorem apart (selects : Selects ids first last) (wellFormed : first.books.roster.WellFormed) (other : id ∉ ids) :
    last.profile? id = first.profile? id ∧ last.heard id = first.heard id := by
  induction selects with
  | nil => exact ⟨rfl, rfl⟩
  | cons picked written _ ih =>
      obtain ⟨different, others⟩ := not_or.1 (mt List.mem_cons.2 other)
      obtain ⟨profiles, silent⟩ := (picked.turn wellFormed id).1 different
      obtain ⟨later, still⟩ := ih (written.same.1 ▸ picked.wellFormed wellFormed) others
      exact ⟨later.trans ((written.profile? id).trans profiles), still.trans ((written.heard id).trans silent)⟩

/-- Where each one is picked once, a profile has one turn at most. -/
theorem turn (selects : Selects ids first last) (wellFormed : first.books.roster.WellFormed) (distinct : ids.Nodup)
    (id : ProfileId) : Turn id first last := by
  -- On the picks. After its own turn an id is not among the rest, so nothing that follows is about it.
  induction selects with
  | nil => exact .apart rfl rfl
  | @cons target rest first second third last picked written later ih =>
      obtain ⟨once, others⟩ := List.nodup_cons.1 distinct
      have formed : third.books.roster.WellFormed := written.same.1 ▸ picked.wellFormed wellFormed
      have profiles := written.profile? id
      have silent := written.heard id
      by_cases same : id = target
      · obtain ⟨old, new, transition, found, now, moved, told⟩ := (picked.turn wellFormed id).2 same
        obtain ⟨kept, still⟩ := later.apart formed (same ▸ once)
        exact .picked found (kept.trans (profiles.trans now)) moved (still.trans (silent.trans told))
      · obtain ⟨kept, still⟩ := (picked.turn wellFormed id).1 same
        rw [kept] at profiles
        rw [still] at silent
        cases ih formed others with
        | apart again quiet => exact .apart (again.trans profiles) (quiet.trans silent)
        | picked found now moved told => exact .picked (profiles ▸ found) now moved (silent ▸ told)

end Selects

theorem Closes.nextId (closes : Closes next before after) : after.books.nextId = before.books.nextId := by
  cases closes with
  | quietly written => exact written.same.2.1
  | added _ written => exact written.same.2.1
  | updated _ written => exact written.same.2.1

/-- What an edit says at last of the profile of an id: nothing, or that it was updated. -/
inductive LastWord : Option Profile → List Event → Prop where
  | nothing {profile : Option Profile} : LastWord profile []
  | updated {profile : Profile} : LastWord (some profile) [.updated profile]

theorem LastWord.eq_or {profile : Profile} {updates : List Event} (word : LastWord (some profile) updates) :
    updates = [] ∨ updates = [.updated profile] := by
  cases word with
  | nothing => exact .inl rfl
  | updated => exact .inr rfl

/-- An announced edit leaves the profiles alone, and is about a profile that is there. -/
theorem Closes.spec (closes : Closes next before after) (wellFormed : before.books.roster.WellFormed)
    (known : id ≠ ⟨next⟩ ∨ before.profile? id = none) :
    after.profile? id = before.profile? id ∧
      ∃ updates, after.heard id = before.heard id ++ updates ∧ LastWord (before.profile? id) updates := by
  have silent : ∀ {spoken : Ledger}, Persists spoken after → spoken.heard id = before.heard id →
      ∃ updates, after.heard id = before.heard id ++ updates ∧ LastWord (before.profile? id) updates := fun written quiet =>
    ⟨[], ((written.heard id).trans quiet).trans (List.append_nil _).symm, .nothing⟩
  cases closes with
  | quietly written => exact ⟨written.profile? id, silent written rfl⟩
  | @added profile found written =>
      have apart : id ≠ ⟨next⟩ := by
        refine known.elim (fun other => other) fun absent same => ?_
        have there := (Roster.get?_eq_some.1 found).1
        rw [← same] at there
        cases absent.symm.trans there
      have other : (Event.added profile).isAbout id = false := by
        simp [Event.isAbout, Event.profile?, wellFormed.id_of_get? found, Ne.symm apart]
      exact ⟨written.profile? id, silent written (heard_of_not_isAbout other before)⟩
  | @updated target profile found written =>
      have named := wellFormed.id_of_get? found
      refine ⟨written.profile? id, ?_⟩
      by_cases same : target = id
      · have there : before.profile? id = some profile := same ▸ (Roster.get?_eq_some.1 found).1
        have about : (Event.updated profile).isAbout id = true := by simp [Event.isAbout, Event.profile?, named, same]
        exact ⟨_, (written.heard id).trans (heard_of_isAbout about before), there ▸ .updated⟩
      · have other : (Event.updated profile).isAbout id = false := by simp [Event.isAbout, Event.profile?, named, same]
        exact silent written (heard_of_not_isAbout other before)

/-- What becomes of the profile of an id, and what is announced about it. -/
inductive Passage (id : ProfileId) (first last : Ledger) : Prop where
  | absent (before : first.profile? id = none) (after : last.profile? id = none)
    (silent : last.heard id = first.heard id) : Passage id first last
  /-- Only the tenants and the loads take a profile out of memory like this. -/
  | dropped {old : Profile} (found : first.profile? id = some old) (gone : last.profile? id = none)
    (silent : last.heard id = first.heard id) : Passage id first last
  | removed {old profile : Profile} (found : first.profile? id = some old) (gone : last.profile? id = none)
    (told : last.heard id = first.heard id ++ [.removed profile]) : Passage id first last
  | stayed {old new : Profile} {transition : Transition} {updates : List Event} (found : first.profile? id = some old)
    (now : last.profile? id = some new)
    (reports : old.selection.Coherent → transition.Reports old.selection new.selection)
    (told : last.heard id = first.heard id ++ (Manager.eventOf? new transition).toList ++ updates)
    (edited : updates = [] ∨ updates = [.updated new]) : Passage id first last

/-- A passage takes its parts together. -/
theorem Fate.passage {third : Ledger} {updates : List Event} (fate : Fate id first second) (turn : Turn id second third)
    (still : last.profile? id = third.profile? id) (said : last.heard id = third.heard id ++ updates)
    (word : LastWord (third.profile? id) updates) : Passage id first last := by
  cases turn with
  | apart apart silent =>
      rw [apart] at still word
      cases fate with
      | removed found gone told =>
          rw [gone] at still word
          cases word
          exact .removed found still (by rw [said, silent, told, List.append_nil])
      | kept moods quiet =>
          rw [silent, quiet] at said
          cases found : first.profile? id with
          | none =>
              rw [found, Option.map_none, Option.map_eq_none_iff] at moods
              rw [moods] at still word
              cases word
              exact .absent found still (said.trans (List.append_nil _))
          | some old =>
              rw [found, Option.map_some, Option.map_eq_some_iff] at moods
              obtain ⟨new, now, mood⟩ := moods
              rw [now] at still word
              have reports : Transition.unchanged.Reports old.selection new.selection := .nothing rfl mood
              have told : last.heard id = first.heard id ++ (Manager.eventOf? new .unchanged).toList ++ updates := by
                simpa [Manager.eventOf?] using said
              exact .stayed found still (fun _ => reports) told word.eq_or
  | @picked old new transition there now moved told =>
      rw [now] at still word
      cases fate with
      | removed found gone => cases gone.symm.trans there
      | kept moods quiet =>
          rw [there, Option.map_some, eq_comm, Option.map_eq_some_iff] at moods
          obtain ⟨one, found, mood⟩ := moods
          have reports : one.selection.Coherent → transition.Reports one.selection new.selection := fun coherent =>
            (moved.reports ((SelectionStatus.coherent_congr mood).1 coherent)).of_mood mood.symm
          rw [told, quiet] at said
          exact .stayed found still reports said word.eq_or

/-- Nobody but the next id fares otherwise, and that only if it is handed out. -/
theorem Conduct.passage (conduct : Conduct first last) (wellFormed : first.books.roster.WellFormed)
    (known : id ≠ ⟨first.books.nextId⟩ ∨ first.profile? id = none ∧ last.books.nextId = first.books.nextId) :
    Passage id first last := by
  cases conduct with
  | @intro second third fourth fifth _ ids former enters latter distinct selects closes =>
      obtain ⟨formed, same, early⟩ := former.spec wellFormed
      obtain ⟨ready, again, late⟩ := latter.spec (enters.wellFormed formed)
      have entry : Fate id second third := by
        refine enters.fate (known.imp (same ▸ ·) fun unborn => ?_)
        rw [← again, ← selects.nextId, ← closes.nextId, unborn.2, same]
      have fate := ((early id).trans entry).trans (late id)
      have turn := selects.turn ready distinct id
      have told : id ≠ ⟨first.books.nextId⟩ ∨ fifth.profile? id = none :=
        known.imp_right fun unborn => turn.absent (fate.absent unborn.1)
      obtain ⟨still, updates, said, word⟩ := closes.spec (selects.wellFormed ready) told
      exact fate.passage turn still said word

end Ledger

end SavedNetworks
