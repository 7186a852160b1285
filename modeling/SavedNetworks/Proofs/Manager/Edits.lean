import SavedNetworks.Proofs.Manager.Changes
import SavedNetworks.Proofs.Manager.Loads
import SavedNetworks.Proofs.Randomization

/-!
Adding and changing profiles: an ephemeral profile gives way first, then the outcome is stored under a new
id or in place of what it was made from, then the edit is followed up.
-/

namespace SavedNetworks

namespace Edit

theorem outline_outcome (edit : Edit) : edit.outcome.outline = edit.profile.outline := by
  unfold outcome
  split <;> rfl

end Edit

namespace Manager

variable {allowed : Move → Prop} {manager : Manager} {draft : Draft} {caller : Owner} {edit : Edit}

/-- A draft worked into a profile that is there. -/
def revision (manager : Manager) (existing : Profile) (draft : Draft) (caller : Owner) : Edit :=
  ⟨some existing, { existing.update draft with lastUpdater := caller, updatedAt := manager.stamp }⟩

theorem revise_eq_ok {existing : Profile} (revised : manager.revise existing draft caller = .ok edit) :
    edit = manager.revision existing draft caller := by
  unfold revise at revised
  cases valid : draft.validate .update with
  | error failure =>
      rw [valid] at revised
      cases revised
  | ok done =>
      rw [valid] at revised
      change (if manager.canModify existing caller then _ else _) = _ at revised
      split at revised
      · exact (Except.ok.inj revised).symm
      · cases revised

theorem create_eq_ok (created : manager.create draft caller = .ok edit) :
    ∃ ssid security, draft.ssid = some ssid ∧ draft.security = some security ∧
      edit = ⟨none, .ofDraft draft ssid security caller manager.stamp⟩ := by
  unfold create at created
  cases valid : draft.validate .add with
  | error failure =>
      rw [valid] at created
      cases created
  | ok done =>
      rw [valid] at created
      cases named : draft.ssid with
      | none =>
          rw [named] at created
          cases created
      | some ssid =>
          cases secured : draft.security with
          | none =>
              rw [named, secured] at created
              cases created
          | some security =>
              rw [named, secured] at created
              exact ⟨ssid, security, rfl, rfl, (Except.ok.inj created).symm⟩

theorem eq_of_checked {first second : Prop} [Decidable first] [Decidable second] {proxy randomization : ManagerError}
    {done : Edit} (passed : (if first then Except.error proxy else if second then .error randomization else .ok done) =
      .ok edit) : done = edit := by
  split at passed
  · cases passed
  · split at passed
    · cases passed
    · exact Except.ok.inj passed

/-- What an accepted draft describes. -/
theorem prepare_eq_ok {replaced : Option ProfileId} (prepared : manager.prepare draft caller replaced = .ok edit) :
    (∃ existing, manager.edited? draft replaced = some existing ∧ edit = manager.revision existing draft caller) ∨
    (manager.edited? draft replaced = none ∧ ∃ ssid security, draft.ssid = some ssid ∧ draft.security = some security ∧
      edit = ⟨none, .ofDraft draft ssid security caller manager.stamp⟩) := by
  unfold prepare at prepared
  cases chosen : manager.edited? draft replaced with
  | some existing =>
      cases revised : manager.revise existing draft caller with
      | error failure =>
          simp only [chosen, revised] at prepared
          cases prepared
      | ok done =>
          simp only [chosen, revised] at prepared
          obtain rfl := eq_of_checked prepared
          exact .inl ⟨existing, rfl, revise_eq_ok revised⟩
  | none =>
      cases created : manager.create draft caller with
      | error failure =>
          simp only [chosen, created] at prepared
          cases prepared
      | ok done =>
          simp only [chosen, created] at prepared
          obtain rfl := eq_of_checked prepared
          exact .inr ⟨rfl, create_eq_ok created⟩

theorem revision_of_prepared {replaced : Option ProfileId} {existing : Profile}
    (chosen : manager.edited? draft replaced = some existing) (prepared : manager.prepare draft caller replaced = .ok edit) :
    edit = manager.revision existing draft caller := by
  rcases prepare_eq_ok prepared with ⟨other, found, rfl⟩ | ⟨absent, _⟩
  · rw [Option.some.inj (chosen.symm.trans found)]
  · cases chosen.symm.trans absent

theorem key_update {key : ProfileKey} (named : draft.key? = some key) (existing : Profile) :
    (existing.update draft).key = key := by
  unfold Draft.key? at named
  obtain ⟨ssid, given, rest⟩ := Option.bind_eq_some_iff.1 named
  obtain ⟨security, secured, same⟩ := Option.bind_eq_some_iff.1 rest
  rw [← Option.some.inj same]
  unfold Profile.update Profile.key
  rw [given, secured]
  rfl

theorem key_of_prepared {replaced : Option ProfileId} {key : ProfileKey} (named : draft.key? = some key)
    (prepared : manager.prepare draft caller replaced = .ok edit) : edit.outcome.key = key := by
  rw [(Roster.keepsName_outline.same edit.outline_outcome).2]
  rcases prepare_eq_ok prepared with ⟨existing, _, rfl⟩ | ⟨_, ssid, security, _, _, rfl⟩
  · exact key_update named existing
  · exact key_update named (.blank ssid security)

/-- The manager after an ephemeral profile gave way to a saved draft. -/
def giveWay (manager : Manager) (draft : Draft) : Manager :=
  match manager.replaced? draft with
  | some id => (manager.removeAnyway id).1
  | none => manager

theorem addOrUpdate_cases (manager : Manager) (draft : Draft) (caller : Owner) :
    (∃ failure, manager.addOrUpdate draft caller = (manager, .error failure)) ∨
    ∃ edit, manager.hasUid caller.uid = true ∧ manager.awaitsStore = false ∧
      manager.prepare draft caller (manager.replaced? draft) = .ok edit ∧
      manager.addOrUpdate draft caller = match (manager.giveWay draft).carryOut draft edit with
        | (after, .error failure) => (after, .error failure)
        | (after, .ok result) => (after.followUp result, .ok result) := by
  unfold addOrUpdate
  cases owned : manager.hasUid caller.uid with
  | false => exact .inl ⟨_, rfl⟩
  | true =>
      cases read : manager.awaitsStore with
      | true => exact .inl ⟨_, rfl⟩
      | false =>
          cases prepared : manager.prepare draft caller (manager.replaced? draft) with
          | error failure =>
              left
              refine ⟨failure, ?_⟩
              simp only [prepared]
              rfl
          | ok edit =>
              right
              refine ⟨edit, rfl, rfl, rfl, ?_⟩
              simp only [prepared, Bool.not_true, Bool.false_eq_true, if_false]
              rfl

/-- The key store may be told, and that is all. -/
theorem exists_showKeys (manager : Manager) (draft : Draft) (edit : Edit) :
    ∃ journal, (manager.showKeys draft edit).1 = { manager with journal } := by
  unfold showKeys
  split
  · exact ⟨_, rfl⟩
  · exact ⟨_, rfl⟩

/-- The profile that an edit is to be stored as, and the manager that stores it: a new one takes the next id. -/
inductive Readied (edit : Edit) (before : Manager) : Manager → Profile → Prop where
  | fresh (new : edit.existing = none) (randomizer : Randomizer) (station : StationAddress)
    (pruned : before.randomizer.Prunes randomizer) :
    Readied edit before { before with randomizer, nextId := before.nextId + 1 }
      { edit.outcome with id := ⟨before.nextId⟩, station }
  | revised (existing : Profile) (old : edit.existing = some existing) : Readied edit before before edit.outcome

theorem readied_register (manager : Manager) (new : edit.existing = none) :
    Readied edit manager (manager.register edit.outcome).1 (manager.register edit.outcome).2 :=
  .fresh new _ (manager.register edit.outcome).2.station
    (manager.randomizer.initial_spec { edit.outcome with id := ⟨manager.nextId⟩ }).1

/-- The key store rejects an edit, or it is readied and then stored unless somebody has its key. -/
theorem carryOut_spec (manager : Manager) (draft : Draft) (edit : Edit) :
    manager.carryOut draft edit = ((manager.showKeys draft edit).1, .error (.keyStoreRejected edit.profile.key)) ∨
    ∃ ready profile, Readied edit (manager.showKeys draft edit).1 ready profile ∧
      ((∃ conflict, ready.roster.put profile = .error conflict ∧
          manager.carryOut draft edit = (ready, .error (.duplicateKey conflict))) ∨
        ∃ roster, ready.roster.put profile = .ok roster ∧
          manager.carryOut draft edit = ({ ready with roster }, .ok (edit.result profile.id))) := by
  unfold carryOut
  generalize manager.showKeys draft edit = shown
  obtain ⟨told, accepted⟩ := shown
  cases accepted with
  | false => exact .inl rfl
  | true =>
      right
      cases existing : edit.existing with
      | none =>
          refine ⟨_, _, told.readied_register existing, ?_⟩
          simp only [Bool.not_true, Bool.false_eq_true, if_false, Edit.isNew, existing, Option.isNone_none, if_true]
          cases stored : (told.register edit.outcome).1.roster.put (told.register edit.outcome).2 with
          | error conflict => exact .inl ⟨conflict, rfl, rfl⟩
          | ok roster => exact .inr ⟨roster, rfl, rfl⟩
      | some old =>
          refine ⟨told, edit.outcome, .revised old existing, ?_⟩
          simp only [Bool.not_true, Bool.false_eq_true, if_false, Edit.isNew, existing, Option.isNone_some]
          cases stored : told.roster.put edit.outcome with
          | error conflict => exact .inl ⟨conflict, rfl, rfl⟩
          | ok roster => exact .inr ⟨roster, rfl, rfl⟩

/-- Whatever comes of an edit, it changes nothing else. -/
theorem carryOut_frame (manager : Manager) (draft : Draft) (edit : Edit) :
    ∃ roster randomizer nextId journal,
      (manager.carryOut draft edit).1 = { manager with roster, randomizer, nextId, journal } ∧
        manager.randomizer.Prunes randomizer := by
  obtain ⟨journal, shown⟩ := manager.exists_showKeys draft edit
  have same := Randomizer.Prunes.refl manager.randomizer
  have spec := manager.carryOut_spec draft edit
  rw [shown] at spec
  rcases spec with rejected | ⟨ready, profile, readied, ⟨conflict, _, refused⟩ | ⟨roster, _, carried⟩⟩
  · exact ⟨_, _, _, _, congrArg Prod.fst rejected, same⟩
  · cases readied with
    | fresh _ randomizer station pruned => exact ⟨_, _, _, _, congrArg Prod.fst refused, pruned⟩
    | revised => exact ⟨_, _, _, _, congrArg Prod.fst refused, same⟩
  · cases readied with
    | fresh _ randomizer station pruned => exact ⟨_, _, _, _, congrArg Prod.fst carried, pruned⟩
    | revised => exact ⟨_, _, _, _, congrArg Prod.fst carried, same⟩

/-- A stored edit, or a refused one that cost an id at most. -/
theorem carryOut_cases (manager : Manager) (draft : Draft) (edit : Edit) :
    (∃ failure after, manager.carryOut draft edit = (after, .error failure) ∧
      (after.books = manager.books ∨ after.books = { manager.books with nextId := manager.nextId + 1 })) ∨
    ∃ profile roster after, manager.carryOut draft edit = (after, .ok (edit.result profile.id)) ∧
      manager.roster.put profile = .ok roster ∧
      ((edit.existing = none ∧ (∃ station, profile = { edit.outcome with id := ⟨manager.nextId⟩, station }) ∧
          after.books = { manager.books with roster, nextId := manager.nextId + 1 }) ∨
        ((∃ existing, edit.existing = some existing) ∧ profile = edit.outcome ∧
          after.books = { manager.books with roster })) := by
  obtain ⟨journal, shown⟩ := manager.exists_showKeys draft edit
  have spec := manager.carryOut_spec draft edit
  rw [shown] at spec
  rcases spec with rejected | ⟨ready, profile, readied, ⟨conflict, _, refused⟩ | ⟨roster, stored, carried⟩⟩
  · exact .inl ⟨_, _, rejected, .inl rfl⟩
  · cases readied with
    | fresh => exact .inl ⟨_, _, refused, .inr rfl⟩
    | revised => exact .inl ⟨_, _, refused, .inl rfl⟩
  · cases readied with
    | fresh new randomizer station => exact .inr ⟨_, _, _, carried, stored, .inl ⟨new, ⟨station, rfl⟩, rfl⟩⟩
    | revised existing old => exact .inr ⟨_, _, _, carried, stored, .inr ⟨⟨existing, old⟩, rfl, rfl⟩⟩

theorem edited?_eq_some (wellFormed : manager.roster.WellFormed) {replaced : Option ProfileId} {existing : Profile}
    (chosen : manager.edited? draft replaced = some existing) :
    manager.roster.get? existing.id = some existing ∧ some existing.id ≠ replaced := by
  obtain ⟨found, apart⟩ := Option.filter_eq_some_iff.1 chosen
  refine ⟨?_, by simpa using apart⟩
  cases byId : draft.id.bind manager.roster.get? with
  | some profile =>
      rw [byId] at found
      cases found
      obtain ⟨id, _, seen⟩ := Option.bind_eq_some_iff.1 byId
      obtain rfl := wellFormed.id_of_get? seen
      exact seen
  | none =>
      rw [byId] at found
      obtain ⟨key, _, held⟩ := Option.bind_eq_some_iff.1 found
      exact (wellFormed.getByKey?_eq_some.1 held).1

theorem replaced?_eq_some (wellFormed : manager.roster.WellFormed) {id : ProfileId}
    (replaced : manager.replaced? draft = some id) :
    ∃ profile, manager.roster.get? id = some profile ∧ profile.ephemeral = true ∧ draft.ephemeral = false ∧
      draft.key? = some profile.key := by
  unfold replaced? at replaced
  split at replaced
  · cases replaced
  · next saved =>
      obtain ⟨profile, found, rfl⟩ := Option.map_eq_some_iff.1 replaced
      obtain ⟨held, ephemeral⟩ := Option.filter_eq_some_iff.1 found
      obtain ⟨key, named, byKey⟩ := Option.bind_eq_some_iff.1 held
      obtain ⟨seen, rfl⟩ := wellFormed.getByKey?_eq_some.1 byKey
      exact ⟨profile, seen, ephemeral, by simpa using saved, named⟩

theorem giveWay_of_replaced (wellFormed : manager.roster.WellFormed) {id : ProfileId}
    (replaced : manager.replaced? draft = some id) :
    ∃ profile, manager.roster.get? id = some profile ∧ profile.ephemeral = true ∧ draft.key? = some profile.key ∧
      (manager.giveWay draft).books = { manager.books with roster := manager.roster.drop id profile.key } := by
  obtain ⟨profile, found, ephemeral, _, named⟩ := replaced?_eq_some wellFormed replaced
  obtain ⟨left, dropped, after⟩ := books_removeAnyway found
  refine ⟨profile, found, ephemeral, named, ?_⟩
  have unsaved : ¬ profile.isSaved = true := by simp [Profile.isSaved, ephemeral]
  rw [if_neg unsaved, dropped] at after
  simp only [giveWay, replaced, after]

/-- What an edit starts from is still there when another profile gave way. -/
theorem get?_giveWay (wellFormed : manager.roster.WellFormed) {existing : Profile}
    (found : manager.roster.get? existing.id = some existing) (apart : some existing.id ≠ manager.replaced? draft) :
    ∃ current, (manager.giveWay draft).roster.get? existing.id = some current ∧ existing.key = current.key ∧
      existing.shared = current.shared ∧ existing.creator = current.creator ∧ existing.isSaved = current.isSaved := by
  cases replaced : manager.replaced? draft with
  | none =>
      refine ⟨existing, ?_, rfl, rfl, rfl, rfl⟩
      rw [giveWay, replaced]
      exact found
  | some id =>
      obtain ⟨profile, _, _, _, books⟩ := giveWay_of_replaced wellFormed replaced
      have roster : (manager.giveWay draft).roster = manager.roster.drop id profile.key := congrArg Books.roster books
      rw [replaced, ne_eq, Option.some.injEq] at apart
      rw [roster, Roster.get?_drop_of_ne found apart]
      exact ⟨_, rfl, rfl, rfl, rfl, rfl⟩

theorem giveWay_keeps (wellFormed : manager.roster.WellFormed) (draft : Draft) :
    (manager.giveWay draft).roster.tenant = manager.roster.tenant ∧
      (manager.giveWay draft).awaitsStore = manager.awaitsStore ∧
      (manager.giveWay draft).nextId = manager.nextId := by
  cases replaced : manager.replaced? draft with
  | none => simp [giveWay, replaced]
  | some id =>
      obtain ⟨profile, _, _, _, books⟩ := giveWay_of_replaced wellFormed replaced
      have roster : (manager.giveWay draft).roster = manager.roster.drop id profile.key := congrArg Books.roster books
      have read : (manager.giveWay draft).awaitsStore = manager.awaitsStore := congrArg Books.awaitsStore books
      have ids : (manager.giveWay draft).nextId = manager.nextId := congrArg Books.nextId books
      exact ⟨by rw [roster, Roster.tenant_drop], read, ids⟩

theorem moves_giveWay (wellFormed : manager.roster.WellFormed) (draft : Draft)
    (permitted : ∀ id, manager.replaced? draft = some id → allowed (.drop id)) :
    Moves allowed manager.books (manager.giveWay draft).books := by
  cases replaced : manager.replaced? draft with
  | none =>
      rw [giveWay, replaced]
      exact .refl
  | some id =>
      obtain ⟨profile, found, _, _, books⟩ := giveWay_of_replaced wellFormed replaced
      rw [books]
      exact .one (permitted id replaced) (.drop found)

theorem wellFormed_giveWay (wellFormed : manager.roster.WellFormed) (draft : Draft) :
    (manager.giveWay draft).roster.WellFormed := by
  have way : Moves (fun _ => True) manager.books (manager.giveWay draft).books :=
    moves_giveWay wellFormed draft fun _ _ => trivial
  exact way.invariant (fun _ _ _ _ taken => taken.wellFormed) wellFormed

theorem nextId_followUp (manager : Manager) (result : EditResult) : (manager.followUp result).nextId = manager.nextId := by
  have lenient : Lenient Move.IsFrugal := ⟨trivial, trivial, trivial, trivial⟩
  have keeps : ∀ move before after, Move.IsFrugal move → Step move before after → before.nextId = manager.nextId →
      after.nextId = manager.nextId := fun _ _ _ frugal taken same => (taken.nextId frugal).trans same
  exact (moves_followUp lenient manager result).invariant keeps rfl

/-- What is stored is what the draft was worked into: under the next id, or in place of the profile that it changes. -/
theorem carryOut_of_prepared (wellFormed : manager.roster.WellFormed)
    (prepared : manager.prepare draft caller (manager.replaced? draft) = .ok edit) :
    (∃ failure after, (manager.giveWay draft).carryOut draft edit = (after, .error failure) ∧
      (after.books = (manager.giveWay draft).books ∨
        after.books = { (manager.giveWay draft).books with nextId := manager.nextId + 1 })) ∨
    ∃ profile roster after, (manager.giveWay draft).carryOut draft edit = (after, .ok (edit.result profile.id)) ∧
      (manager.giveWay draft).roster.put profile = .ok roster ∧
      profile.outline = (edit.profile.withId profile.id).outline ∧
      ((manager.edited? draft (manager.replaced? draft) = none ∧ edit.isNew = true ∧ profile.id = ⟨manager.nextId⟩ ∧
          profile.shared = draft.shared ∧ profile.creator = caller ∧ profile.linked = .empty ∧
          after.books = { (manager.giveWay draft).books with roster, nextId := manager.nextId + 1 }) ∨
        ∃ existing current, manager.edited? draft (manager.replaced? draft) = some existing ∧ edit.isNew = false ∧
          profile.id = existing.id ∧ (manager.giveWay draft).roster.get? profile.id = some current ∧
          profile.shared = current.shared ∧ profile.creator = current.creator ∧ profile.isSaved = current.isSaved ∧
          after.books = { (manager.giveWay draft).books with roster }) := by
  obtain ⟨_, _, next⟩ := giveWay_keeps wellFormed draft
  have outlines := edit.outline_outcome
  rw [← next]
  rcases carryOut_cases (manager.giveWay draft) draft edit with refused | ⟨profile, roster, after, carried, stored, how⟩
  · exact .inl refused
  · refine .inr ⟨profile, roster, after, carried, stored, ?_⟩
    rcases prepare_eq_ok prepared with ⟨existing, chosen, rfl⟩ | ⟨new, ssid, security, _, _, rfl⟩
    · rcases how with ⟨absent, _⟩ | ⟨_, rfl, books⟩
      · cases absent
      · obtain ⟨seen, apart⟩ := edited?_eq_some wellFormed chosen
        obtain ⟨current, found, _, shared, creator, saved⟩ := get?_giveWay wellFormed seen apart
        have id := (Roster.keepsName_outline.same outlines).1
        refine ⟨?_, .inr ⟨existing, current, chosen, rfl, id, id ▸ found, ?_, ?_, ?_, books⟩⟩
        · rw [outlines, id]
          rfl
        · exact (Profile.same_of_look Profile.shared (fun _ => rfl) outlines).trans shared
        · exact (Profile.same_of_look Profile.creator (fun _ => rfl) outlines).trans creator
        · exact (Profile.same_of_look Profile.isSaved (fun _ => rfl) outlines).trans saved
    · rcases how with ⟨_, ⟨station, named⟩, books⟩ | ⟨⟨_, absent⟩, _⟩
      · refine ⟨?_, .inl ⟨new, rfl, by rw [named], ?_, ?_, ?_, books⟩⟩
        · rw [named]
          exact congrArg (·.withId ⟨(manager.giveWay draft).nextId⟩) outlines
        all_goals rw [named]
        · exact Profile.same_of_look Profile.shared (fun _ => rfl) outlines
        · exact Profile.same_of_look Profile.creator (fun _ => rfl) outlines
        · exact Profile.same_of_look Profile.linked (fun _ => rfl) outlines
      · cases absent

theorem filed_carryOut (wellFormed : manager.roster.WellFormed) (owned : manager.hasUid caller.uid = true)
    (read : manager.awaitsStore = false)
    (prepared : manager.prepare draft caller (manager.replaced? draft) = .ok edit)
    (added : manager.edited? draft (manager.replaced? draft) = none → allowed (.add draft.shared))
    (updated : ∀ existing, manager.edited? draft (manager.replaced? draft) = some existing → allowed (.update existing.id)) :
    Filed allowed (manager.giveWay draft).books ((manager.giveWay draft).carryOut draft edit).1.books := by
  obtain ⟨tenant, waits, next⟩ := giveWay_keeps wellFormed draft
  rcases carryOut_of_prepared wellFormed prepared with
    ⟨failure, after, outcome, same | lost⟩ | ⟨profile, roster, after, outcome, stored, _, how⟩
  all_goals rw [outcome]
  · rw [same]
    exact .refused
  · rw [lost, ← next]
    exact .lost
  · rcases how with ⟨new, _, fresh, shared, creator, linked, books⟩ |
      ⟨existing, current, chosen, _, id, found, shared, creator, saved, books⟩
    · rw [books, ← next]
      refine .added (shared ▸ added new) (waits.trans read) (fresh.trans (congrArg ProfileId.mk next.symm)) linked ?_ stored
      rw [creator]
      exact tenant ▸ owned
    · rw [books]
      exact .updated (id ▸ updated existing chosen) found shared creator saved stored

/-- An edit is refused, or filed once an ephemeral profile gave way, and then followed up. -/
theorem filed_addOrUpdate {noting : Move → Prop} (lenient : Lenient noting) (wellFormed : manager.roster.WellFormed)
    (added : manager.edited? draft (manager.replaced? draft) = none → allowed (.add draft.shared))
    (updated : ∀ existing, manager.edited? draft (manager.replaced? draft) = some existing → allowed (.update existing.id)) :
    (manager.addOrUpdate draft caller).1.books = manager.books ∨
      ∃ edit after, manager.prepare draft caller (manager.replaced? draft) = .ok edit ∧
        Filed allowed (manager.giveWay draft).books after ∧ Moves noting after (manager.addOrUpdate draft caller).1.books ∧
        (manager.addOrUpdate draft caller).1.nextId = after.nextId := by
  rcases addOrUpdate_cases manager draft caller with ⟨failure, refused⟩ | ⟨edit, owned, read, prepared, outcome⟩
  · exact .inl (by rw [refused])
  · right
    have filed := filed_carryOut wellFormed owned read prepared added updated
    rw [outcome]
    generalize (manager.giveWay draft).carryOut draft edit = carried at filed
    obtain ⟨after, answer⟩ := carried
    cases answer with
    | error failure => exact ⟨edit, after.books, prepared, filed, .refl, rfl⟩
    | ok result =>
        exact ⟨edit, after.books, prepared, filed, moves_followUp lenient after result, nextId_followUp after result⟩

theorem moves_addOrUpdate (lenient : Lenient allowed) (wellFormed : manager.roster.WellFormed) (skips : allowed .skip)
    (room : (manager.addOrUpdate draft caller).1.nextId ≠ manager.nextId → manager.nextId.toNat + 1 < UInt32.size)
    (dropped : ∀ id edit, manager.replaced? draft = some id →
      manager.prepare draft caller (manager.replaced? draft) = .ok edit → allowed (.drop id))
    (added : manager.edited? draft (manager.replaced? draft) = none → allowed (.add draft.shared))
    (updated : ∀ existing, manager.edited? draft (manager.replaced? draft) = some existing → allowed (.update existing.id)) :
    Moves allowed manager.books (manager.addOrUpdate draft caller).1.books := by
  rcases filed_addOrUpdate lenient wellFormed added updated with same | ⟨edit, after, prepared, filed, moves, ids⟩
  · rw [same]
    exact .refl
  · have given : (manager.giveWay draft).books.nextId = manager.nextId := (giveWay_keeps wellFormed draft).2.2
    rw [ids, ← given] at room
    have way := moves_giveWay wellFormed draft fun id replaced => dropped id edit replaced prepared
    exact (way.trans (filed.moves skips room)).trans moves

end Manager

end SavedNetworks
