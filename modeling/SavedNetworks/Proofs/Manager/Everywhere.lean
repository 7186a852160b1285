import SavedNetworks.Proofs.Manager.Runs

/-!
Rules that profiles keep wherever they are, in memory and in every section of the store. A rule that is about neither
ids, links nor what is merely noted on profiles is kept by every operation, if it is kept by the profiles that are filed
(`Manager.everywhere_perform`).
-/

namespace SavedNetworks

namespace Profile

/-- A rule that a profile keeps under any id, whatever is noted on it and whomever it is linked with. -/
structure IsSteady (rule : Profile → Prop) : Prop where
  frame : ∀ profile, rule profile.frame ↔ rule profile
  number : ∀ profile id, rule (profile.withId id) ↔ rule profile

namespace IsSteady

variable {rule : Profile → Prop} {left right : Profile}

theorem of_frame (steady : IsSteady rule) (same : left.frame = right.frame) : rule left ↔ rule right := by
  rw [← steady.frame left, same, steady.frame]

theorem of_outline (steady : IsSteady rule) (same : left.outline = right.outline) : rule left ↔ rule right :=
  steady.of_frame (congrArg (fun outline => { outline with linked := .empty }) same)

theorem persisted (steady : IsSteady rule) (profile : Profile) : rule profile.persisted ↔ rule profile := by
  have same : profile.persisted.frame = (profile.withId .unset).frame := rfl
  exact (steady.of_frame same).trans (steady.number profile .unset)

end IsSteady

/-- A rule that is kept by what is written of a profile, and by what a load makes of a record. -/
structure IsLasting (rule : Profile → Prop) : Prop where
  persisted : ∀ profile, rule profile → rule profile.persisted
  number : ∀ profile id, rule profile → rule (profile.withId id)
  address : ∀ profile address, rule profile → profile.station.address = .sentinel →
    rule { profile with station := { profile.station with address } }
  reset : ∀ profile, rule profile → rule { profile with enterprise := profile.enterprise.map Enterprise.resetSim }

namespace IsLasting

variable {rule : Profile → Prop} {left right : Profile}

theorem of_steady (steady : IsSteady rule) : IsLasting rule where
  persisted profile := (steady.persisted profile).2
  number profile id := (steady.number profile id).2
  address profile address kept _ := by
    have same : ({ profile with station := { profile.station with address } } : Profile).outline = profile.outline := rfl
    exact (steady.of_outline same).2 kept
  reset profile := (steady.of_outline (Manager.outline_resetSim profile)).2

theorem of_unnumbered (lasting : IsLasting rule) (same : left.unnumbered = right.unnumbered) (kept : rule right) :
    rule left := by
  rw [eq_withId_of_unnumbered same]
  exact lasting.number right left.id kept

end IsLasting

end Profile

/-- The moves that store no profile. -/
def Move.FilesNothing : Move → Prop
  | .add _ | .update _ => False
  | _ => True

/-- Every profile in memory and every record keeps a rule. -/
structure Books.Everywhere (rule : Profile → Prop) (books : Books) : Prop where
  memory : ∀ profile ∈ books.roster.all, rule profile
  shared : StoredProfile.AllRead rule books.store.storedShared
  sections : ∀ tenant, StoredProfile.AllRead rule (books.store.storedSection tenant).profiles

namespace Books.Everywhere

variable {rule : Profile → Prop} {before after : Books} (everywhere : before.Everywhere rule) (steady : Profile.IsSteady rule)

include everywhere

theorem imp {weaker : Profile → Prop} (implied : ∀ profile, rule profile → weaker profile) : before.Everywhere weaker where
  memory profile present := implied profile (everywhere.memory profile present)
  shared one listed := (everywhere.shared one listed).imp fun profile => And.imp_right (implied profile)
  sections tenant one listed := (everywhere.sections tenant one listed).imp fun profile => And.imp_right (implied profile)

/-- The store keeps its part through everything but a write. -/
theorem of_sameContents (same : after.store.SameContents before.store) (memory : ∀ profile ∈ after.roster.all, rule profile) :
    after.Everywhere rule :=
  ⟨memory, same.shared ▸ everywhere.shared, fun tenant => same.sections tenant ▸ everywhere.sections tenant⟩

theorem of_empty (same : after.store.SameContents before.store) (none : after.roster.all = []) : after.Everywhere rule :=
  everywhere.of_sameContents same fun _ present => absurd present (none ▸ List.not_mem_nil)

theorem of_through {look : Profile → Profile} (shown : ∀ left right, look left = look right → (rule left ↔ rule right))
    (roster : after.roster.through look = before.roster.through look) (same : after.store.SameContents before.store) :
    after.Everywhere rule := by
  refine everywhere.of_sameContents same fun profile present => ?_
  obtain ⟨old, earlier, looks⟩ := Roster.mem_of_through roster present
  exact (shown old profile looks).1 (everywhere.memory old earlier)

/-- Somebody who keeps the rule is stored. -/
theorem put {profile : Profile} {roster : Roster} (wellFormed : before.roster.WellFormed) (keeps : rule profile)
    (stored : before.roster.put profile = .ok roster) (nextId : UInt32) :
    ({ before with roster, nextId } : Books).Everywhere rule := by
  refine everywhere.of_sameContents (.refl _) fun other present => ?_
  rcases (wellFormed.mem_put stored).1 present with rfl | ⟨earlier, _⟩
  · exact keeps
  · exact everywhere.memory other earlier

/-- A write puts profiles that keep the rule in the place of those that were stored. -/
theorem stored {store : Store} (named : Option Tenant) (data : StoreData) (force : Bool)
    (kept : ∀ written ∈ data.shared ++ data.tenant.profiles, rule written.persisted)
    (same : store.SameContents before.store) :
    ({ before with store := (store.write named data force).1 } : Books).Everywhere rule := by
  refine ⟨everywhere.memory, ?_, fun tenant => ?_⟩
  · simp only [Store.storedShared_write]
    split
    · exact Store.allRead_rendition (fun written chosen => kept written (List.mem_append_left _ chosen)) _ _
    · exact same.shared ▸ everywhere.shared
  · simp only [Store.storedSection_write]
    split
    · exact Store.allRead_rendition (fun written chosen => kept written (List.mem_append_right _ chosen)) _ _
    · exact same.sections tenant ▸ everywhere.sections tenant

theorem write (lasting : Profile.IsLasting rule) (addresses : SortedMap String String) (force : Bool) :
    ({ before with
      store := (before.store.write before.writtenTenant (before.sections addresses) force).1 } : Books).Everywhere rule := by
  refine everywhere.stored before.writtenTenant (before.sections addresses) force (fun written among => ?_) (.refl _)
  have saved : written ∈ before.roster.all.filter Profile.isSaved := by
    rcases List.mem_append.1 among with common | ours
    · exact (List.mem_filter.1 common).1
    · exact (List.mem_filter.1 ours).1
  exact lasting.persisted written (everywhere.memory written (List.mem_filter.1 saved).1)

theorem writeOutside (named : Option Tenant) (data : StoreData)
    (kept : ∀ written ∈ data.shared ++ data.tenant.profiles, rule written.persisted) :
    ({ before with store := before.store.writeOutside named data } : Books).Everywhere rule := by
  have passing := everywhere.stored named data true kept (Store.sameContents_failWrites before.store false)
  exact passing.of_sameContents (Store.sameContents_writeOutside before.store named data) everywhere.memory

include steady

theorem step {move : Move} (taken : Step move before after) (nothing : move.FilesNothing)
    (wellFormed : before.roster.WellFormed) : after.Everywhere rule := by
  cases taken with
  | note outlines => exact everywhere.of_through (fun _ _ => steady.of_outline) outlines (.refl _)
  | relink linkRule caches id =>
      have frames := Roster.through_reconsider linkRule before.roster caches id
      exact everywhere.of_through (fun _ _ => steady.of_frame) frames (.refl _)
  | dismiss | forgive | skip => exact everywhere.of_sameContents (.refl _) everywhere.memory
  | settle same => exact everywhere.of_sameContents same everywhere.memory
  | write read addresses force => exact everywhere.write (.of_steady steady) addresses force
  | drop found =>
      refine everywhere.of_sameContents (.refl _) fun profile present => ?_
      obtain ⟨old, earlier, _, rfl⟩ := wellFormed.mem_drop.1 present
      exact (steady.of_frame (Roster.frame_released ..)).2 (everywhere.memory old earlier)
  | add | update => cases nothing

theorem moves {allowed : Move → Prop} (nothing : ∀ move, allowed move → move.FilesNothing)
    (moves : Moves allowed before after)
    (wellFormed : before.roster.WellFormed) : after.Everywhere rule := by
  have keeps : ∀ move first last, allowed move → Step move first last →
      first.roster.WellFormed ∧ first.Everywhere rule → last.roster.WellFormed ∧ last.Everywhere rule :=
    fun move _ _ permitted taken both => ⟨taken.wellFormed both.1, both.2.step steady taken (nothing move permitted) both.1⟩
  exact (moves.invariant keeps ⟨wellFormed, everywhere⟩).2

end Books.Everywhere

namespace Manager

variable {rule : Profile → Prop} {manager : Manager} {operation : Operation} {draft : Draft} {caller : Owner}

theorem everywhere_start (rule : Profile → Prop) {store : Store} (empty : store.IsEmpty) (settings : Settings)
    (platform : Platform) (listeners : List Listener) (digest : String → Option (List UInt8)) (random : List UInt8) :
    (start settings platform store listeners digest random).books.Everywhere rule := by
  refine ⟨fun profile present => absurd present List.not_mem_nil, ?_, fun tenant => ?_⟩
  · have stored : (start settings platform store listeners digest random).books.store.storedShared = [] := empty.shared
    rw [stored]
    exact fun one listed => absurd listed List.not_mem_nil
  · have stored : (start settings platform store listeners digest random).books.store.storedSection tenant = .empty :=
      empty.sections tenant
    rw [stored]
    exact fun one listed => absurd listed List.not_mem_nil

section Loading

variable (lasting : Profile.IsLasting rule)

include lasting

theorem everywhere_persist (everywhere : manager.books.Everywhere rule) (force : Bool) :
    (manager.persist force).books.Everywhere rule := by
  cases read : manager.awaitsStore with
  | true =>
      rw [persist_of_awaitsStore read]
      exact everywhere
  | false =>
      rw [books_persist read]
      exact everywhere.write lasting manager.randomizer.legacy force

omit lasting in
theorem everywhere_clearTenant (wellFormed : manager.roster.WellFormed) (everywhere : manager.books.Everywhere rule) :
    manager.clearTenant.books.Everywhere rule :=
  everywhere.of_sameContents (.refl _) fun profile present =>
    everywhere.memory profile ((mem_clearTenant wellFormed).1 present).1

theorem keeps_insertAll (wellFormed : manager.roster.WellFormed) {profiles : List Profile}
    (memory : ∀ profile ∈ manager.roster.all, rule profile) (read : ∀ profile ∈ profiles, rule profile) :
    ∀ profile ∈ (manager.insertAll profiles).roster.all, rule profile := by
  intro profile present
  rcases mem_insertAll wellFormed present with earlier | ⟨loaded, member, same⟩
  · exact memory profile earlier
  · exact lasting.of_unnumbered same (read loaded member)

omit lasting in
theorem keeps_modify {roster : Roster} {id : ProfileId} {change : Profile → Profile}
    (memory : ∀ profile ∈ roster.all, rule profile)
    (kept : ∀ profile, roster.get? id = some profile → rule (change profile)) :
    ∀ profile ∈ (roster.modify id change).all, rule profile := by
  intro profile present
  unfold Roster.modify at present
  split at present
  · next old found =>
      obtain ⟨other, there⟩ := SortedMap.mem_values_iff.1 present
      rw [SortedMap.get?_insert] at there
      split at there
      · cases there
        exact kept old found
      · exact memory profile (SortedMap.mem_values_iff.2 ⟨other, there⟩)
  · exact memory profile present

omit lasting in
theorem keeps_modifyVisible {roster : Roster} (wellFormed : roster.WellFormed) {change : Profile → Profile}
    (named : Roster.KeepsName change) (kept : ∀ profile, rule profile → rule (change profile))
    (memory : ∀ profile ∈ roster.all, rule profile) : ∀ profile ∈ (roster.modifyVisible change).all, rule profile := by
  intro profile present
  obtain ⟨old, earlier, rfl⟩ := (wellFormed.mem_modifyVisible named).1 present
  have before := memory old earlier
  unfold Roster.changeVisible
  split
  · exact kept old before
  · exact before

theorem keeps_supplyAddress (memory : ∀ profile ∈ manager.roster.all, rule profile) (id : ProfileId) :
    ∀ profile ∈ (manager.supplyAddress id).roster.all, rule profile := by
  unfold supplyAddress
  split
  · exact memory
  · next missing found =>
      split
      · next sentinel =>
          simp only
          split
          · refine keeps_modify memory fun profile same => ?_
            obtain rfl := Option.some.inj (found.symm.trans same)
            exact lasting.address missing _ (memory missing (Roster.mem_of_get? found)) sentinel
          · exact memory
      · exact memory

theorem keeps_supplyAddresses (memory : ∀ profile ∈ manager.roster.all, rule profile) :
    ∀ profile ∈ manager.supplyAddresses.roster.all, rule profile := by
  unfold supplyAddresses
  generalize manager.roster.ids = ids
  induction ids generalizing manager with
  | nil => exact memory
  | cons id rest ih => exact ih (keeps_supplyAddress lasting memory id)

theorem everywhere_loadSection (wellFormed : manager.roster.WellFormed) (everywhere : manager.books.Everywhere rule) :
    manager.loadSection.books.Everywhere rule := by
  have same := manager.store.sameContents_readTenant manager.tenant
  cases read : (manager.store.readTenant manager.tenant).2 with
  | error failure =>
      rw [loadSection_of_error read]
      exact everywhere.of_sameContents same everywhere.memory
  | ok tenantSection =>
      rw [books_loadSection read]
      refine everywhere_persist lasting ?_ true
      rw [books_opened]
      refine everywhere.of_sameContents same (keeps_insertAll lasting wellFormed everywhere.memory fun profile member => ?_)
      exact (everywhere.sections manager.tenant).of_among ((Store.among_of_readTenant read).2 member)

theorem everywhere_replaceMemory (everywhere : manager.books.Everywhere rule) {data : StoreData} (withSection : Bool)
    (kept : ∀ profile ∈ data.loaded withSection, rule profile) : (manager.replaceMemory data withSection).books.Everywhere rule := by
  obtain ⟨roster, books, outlines⟩ := books_replaceMemory manager data withSection
  have none : ∀ profile ∈ manager.clearMemory.roster.all, rule profile := fun profile present => absurd present List.not_mem_nil
  have cleared : manager.clearMemory.roster.WellFormed := Roster.wellFormed_clear manager.roster
  have taken : (manager.filled data withSection).roster = (manager.clearMemory.insertAll (data.loaded withSection)).roster :=
    congrArg Books.roster (books_filled manager data withSection)
  have filled : ∀ profile ∈ (manager.filled data withSection).roster.all, rule profile := by
    rw [taken]
    exact keeps_insertAll lasting cleared none kept
  have formed : (manager.filled data withSection).roster.WellFormed := taken ▸ wellFormed_insertAll cleared _
  obtain ⟨_, _, supplied, outlines⟩ := supplyAddresses_eq (manager.filled data withSection)
  have ready : (manager.filled data withSection).supplyAddresses.roster.WellFormed := by
    rw [supplied]
    exact formed.of_through Roster.keepsName_outline outlines
  have memory : ∀ profile ∈ (manager.replaceMemory data withSection).roster.all, rule profile := by
    refine keeps_modifyVisible ready ?_ lasting.reset (keeps_supplyAddresses lasting filled)
    exact fun _ => ⟨rfl, rfl⟩
  have same : (manager.replaceMemory data withSection).books.store = manager.store := by
    rw [books, books_filled]
  exact everywhere.of_sameContents (same ▸ .refl _) memory

theorem everywhere_load (everywhere : manager.books.Everywhere rule) : manager.load.1.books.Everywhere rule := by
  have same := manager.store.sameContents_read manager.tenant
  cases read : (manager.store.read manager.tenant).2 with
  | error failure =>
      rw [load_of_error read]
      exact everywhere.of_sameContents same everywhere.memory
  | ok data =>
      have reading : ({ manager with store := (manager.store.read manager.tenant).1, unlockDeferred := false } :
          Manager).books.Everywhere rule := everywhere.of_sameContents same everywhere.memory
      rw [load_of_ok read]
      refine everywhere_replaceMemory lasting reading _ fun profile member => ?_
      rcases List.mem_append.1 member with common | ours
      · exact everywhere.shared.of_among ((Store.among_of_read read).1.2 common)
      · split at ours
        · exact (everywhere.sections manager.tenant).of_among ((Store.among_of_read read).2.2 ours)
        · cases ours

theorem everywhere_leave (wellFormed : manager.roster.WellFormed) (everywhere : manager.books.Everywhere rule)
    (tenant : Tenant) : (manager.leave tenant).books.Everywhere rule := by
  have away : manager.putAway.books.Everywhere rule := by
    unfold putAway
    split
    · exact everywhere_persist lasting everywhere true
    · exact everywhere
  have cleared := everywhere_clearTenant (wellFormed_putAway wellFormed) away
  exact cleared.of_sameContents (.refl _) cleared.memory

theorem everywhere_switchTenant (wellFormed : manager.roster.WellFormed) (everywhere : manager.books.Everywhere rule)
    (tenant : Tenant) : (manager.switchTenant tenant).1.books.Everywhere rule := by
  have left := everywhere_leave lasting wellFormed everywhere tenant
  obtain ⟨_, switched⟩ | ⟨_, _, switched⟩ | ⟨_, _, _, switched⟩ | ⟨_, _, _, switched⟩ := manager.switchTenant_cases tenant
  all_goals rw [switched]
  · exact everywhere
  · exact everywhere.of_sameContents (.refl _) everywhere.memory
  · exact everywhere_loadSection lasting (wellFormed_leave wellFormed tenant) left
  · exact left.of_sameContents (.refl _) left.memory

theorem everywhere_unlockTenant (wellFormed : manager.roster.WellFormed) (everywhere : manager.books.Everywhere rule)
    (tenant : Tenant) : (manager.unlockTenant tenant).books.Everywhere rule := by
  obtain ⟨_, same⟩ | ⟨_, _, _, loads⟩ := manager.unlockTenant_cases tenant
  · rw [same]
    exact everywhere
  · rw [loads]
    exact everywhere_loadSection lasting wellFormed everywhere

theorem everywhere_stopTenant (wellFormed : manager.roster.WellFormed) (everywhere : manager.books.Everywhere rule)
    (tenant : Tenant) : (manager.stopTenant tenant).books.Everywhere rule := by
  obtain ⟨_, same⟩ | ⟨_, _, stops⟩ := manager.stopTenant_cases tenant
  · rw [same]
    exact everywhere
  · rw [stops]
    exact everywhere_clearTenant (wellFormed_persist wellFormed true) (everywhere_persist lasting everywhere true)

theorem everywhere_of_followsTenants (wellFormed : manager.roster.WellFormed) (everywhere : manager.books.Everywhere rule)
    (follows : operation.followsTenants = true) : (manager.perform operation).1.books.Everywhere rule := by
  cases operation with
  | restart => exact everywhere.of_empty (Store.sameContents_reopen manager.store) rfl
  | load => exact everywhere_load lasting everywhere
  | switchTenant tenant => exact everywhere_switchTenant lasting wellFormed everywhere tenant
  | unlockTenant tenant => exact everywhere_unlockTenant lasting wellFormed everywhere tenant
  | stopTenant tenant => exact everywhere_stopTenant lasting wellFormed everywhere tenant
  | _ => cases follows

end Loading

section Filing

variable (steady : Profile.IsSteady rule)

include steady

theorem everywhere_giveWay (wellFormed : manager.roster.WellFormed) (everywhere : manager.books.Everywhere rule)
    (draft : Draft) : (manager.giveWay draft).books.Everywhere rule := by
  have way : Moves (fun move => ∃ id, move = .drop id) manager.books (manager.giveWay draft).books :=
    moves_giveWay wellFormed draft fun id _ => ⟨id, rfl⟩
  exact everywhere.moves steady (fun move dropped => by obtain ⟨id, rfl⟩ := dropped; trivial) way wellFormed

theorem everywhere_followUp (wellFormed : manager.roster.WellFormed) (everywhere : manager.books.Everywhere rule)
    (result : EditResult) : (manager.followUp result).books.Everywhere rule := by
  refine everywhere.moves steady (fun move quiet => ?_) (moves_followUp Move.lenient_isQuiet manager result) wellFormed
  cases move with
  | add | update => cases quiet
  | _ => trivial

/-- Of an addition or change that is accepted, the outcome counts. -/
theorem everywhere_addOrUpdate (wellFormed : manager.roster.WellFormed) (everywhere : manager.books.Everywhere rule)
    (filed : ∀ edit result, manager.prepare draft caller (manager.replaced? draft) = .ok edit →
      (manager.addOrUpdate draft caller).2 = .ok result → rule edit.profile) :
    (manager.addOrUpdate draft caller).1.books.Everywhere rule := by
  have way := everywhere_giveWay steady wellFormed everywhere draft
  have ready := wellFormed_giveWay wellFormed draft
  obtain ⟨failure, refused⟩ | ⟨edit, _, _, prepared, outcome⟩ := addOrUpdate_cases manager draft caller
  · rw [refused]
    exact everywhere
  · obtain ⟨failure, after, refused, books⟩ | ⟨profile, roster, after, carried, stored, looks, how⟩ :=
      carryOut_of_prepared wellFormed prepared
    · rw [outcome, refused]
      obtain same | lost := books
      · exact same ▸ way
      · exact lost ▸ way.of_sameContents (.refl _) way.memory
    · have keeps : rule profile := by
        have accepted : (manager.addOrUpdate draft caller).2 = .ok (edit.result profile.id) := by rw [outcome, carried]
        rw [steady.of_outline looks, steady.number]
        exact filed edit _ prepared accepted
      have put : after.books.roster.WellFormed ∧ after.books.Everywhere rule := by
        obtain ⟨_, _, _, _, _, _, books⟩ | ⟨_, _, _, _, _, _, _, _, _, books⟩ := how
        all_goals rw [books]
        · exact ⟨ready.put stored, way.put ready keeps stored _⟩
        · exact ⟨ready.put stored, way.put ready keeps stored _⟩
      rw [outcome, carried]
      exact everywhere_followUp steady put.1 put.2 _

omit steady in
theorem filesNothing_of_permits {move : Move} (other : ∀ draft caller, operation ≠ .addOrUpdate draft caller)
    (permitted : manager.permits operation move) : move.FilesNothing := by
  cases move with
  | add shared =>
      obtain ⟨draft, caller, same, _⟩ := permitted
      exact other draft caller same
  | update id =>
      cases operation with
      | addOrUpdate draft caller => exact other draft caller rfl
      | _ => cases permitted
  | _ => trivial

/-- Whatever happens, but for somebody else's writes, a rule is kept everywhere if the outcome of every accepted addition
or change keeps it. -/
theorem everywhere_perform (wellFormed : manager.roster.WellFormed) (everywhere : manager.books.Everywhere rule)
    (ours : operation.isForeign = false)
    (filed : ∀ draft caller edit result, operation = .addOrUpdate draft caller →
      manager.prepare draft caller (manager.replaced? draft) = .ok edit →
      (manager.addOrUpdate draft caller).2 = .ok result → rule edit.profile) :
    (manager.perform operation).1.books.Everywhere rule := by
  cases operation with
  | restart | load | switchTenant | unlockTenant | stopTenant =>
      exact everywhere_of_followsTenants (.of_steady steady) wellFormed everywhere rfl
  | addOrUpdate draft caller =>
      exact everywhere_addOrUpdate steady wellFormed everywhere fun edit result => filed draft caller edit result rfl
  | _ =>
      have moves := moves_perform wellFormed (hasRoom_of_idsFor rfl).taking rfl ours
      exact everywhere.moves steady (fun _ => filesNothing_of_permits fun _ _ same => by cases same) moves wellFormed

end Filing

section Running

variable {operations : List Operation} (wellFormed : manager.roster.WellFormed) (everywhere : manager.books.Everywhere rule)
  (ours : ∀ operation ∈ operations, operation.isForeign = false)

include wellFormed everywhere ours

/-- A rule that no operation breaks is kept to the end of a run. -/
theorem everywhere_run
    (step : ∀ (manager : Manager) operation, manager.roster.WellFormed → manager.books.Everywhere rule →
      operation.isForeign = false → (manager.perform operation).1.books.Everywhere rule) :
    (manager.run operations).books.Everywhere rule := by
  induction operations generalizing manager with
  | nil => exact everywhere
  | cons operation rest ih =>
      exact ih (wellFormed_perform wellFormed operation)
        (step manager operation wellFormed everywhere (ours operation (List.mem_cons_self ..)))
        fun later among => ours later (List.mem_cons_of_mem _ among)

/-- A rule that is kept by just the operations that suit is kept throughout by just the runs of such operations. -/
theorem everywhere_take_iff {suits : Manager → Operation → Prop}
    (step : ∀ (manager : Manager) operation, manager.roster.WellFormed → manager.books.Everywhere rule →
      operation.isForeign = false → ((manager.perform operation).1.books.Everywhere rule ↔ suits manager operation)) :
    (∀ count, (manager.run (operations.take count)).books.Everywhere rule) ↔ manager.Along suits operations := by
  induction operations generalizing manager with
  | nil =>
      refine ⟨fun _ => trivial, fun _ count => ?_⟩
      rw [List.take_nil]
      exact everywhere
  | cons operation rest ih =>
      have now := step manager operation wellFormed everywhere (ours operation (List.mem_cons_self ..))
      have onward (kept : (manager.perform operation).1.books.Everywhere rule) :=
        ih (wellFormed_perform wellFormed operation) kept fun later among => ours later (List.mem_cons_of_mem _ among)
      constructor
      · intro throughout
        have kept : (manager.perform operation).1.books.Everywhere rule := throughout 1
        exact ⟨now.1 kept, (onward kept).1 fun count => throughout (count + 1)⟩
      · rintro ⟨suitable, along⟩ count
        cases count with
        | zero => exact everywhere
        | succ count => exact (onward (now.2 suitable)).2 along count

end Running

section Gathering

variable {α : Type} {gives : Manager → Operation → List α} {operations : List Operation}

/-- What the operations of a run give, one after the other. -/
def gathered (gives : Manager → Operation → List α) : Manager → List Operation → List α
  | _, [] => []
  | manager, operation :: rest => gives manager operation ++ gathered gives (manager.perform operation).1 rest

theorem along_iff_gathered {fits : α → Prop} : manager.Along (fun manager operation => ∀ one ∈ gives manager operation, fits one)
    operations ↔ ∀ one ∈ manager.gathered gives operations, fits one := by
  induction operations generalizing manager with
  | nil => simp [Along, gathered]
  | cons operation rest ih => simp only [Along, gathered, List.mem_append, or_imp, forall_and, ih]

/-- A rule about what was gathered so far, which is kept as more comes in, is kept if the outcomes of edits keep it. -/
theorem everywhere_gathered {ruleOf : List α → Profile → Prop} (steady : ∀ known, Profile.IsSteady (ruleOf known))
    (widens : ∀ known more profile, known ⊆ more → ruleOf known profile → ruleOf more profile)
    (filed : ∀ (manager : Manager) draft caller edit result known, manager.roster.WellFormed →
      (∀ profile ∈ manager.roster.all, ruleOf known profile) →
      manager.prepare draft caller (manager.replaced? draft) = .ok edit → (manager.addOrUpdate draft caller).2 = .ok result →
      ruleOf (known ++ gives manager (.addOrUpdate draft caller)) edit.profile)
    {known : List α} (wellFormed : manager.roster.WellFormed) (everywhere : manager.books.Everywhere (ruleOf known))
    (ours : ∀ operation ∈ operations, operation.isForeign = false) :
    (manager.run operations).books.Everywhere (ruleOf (known ++ manager.gathered gives operations)) := by
  induction operations generalizing manager known with
  | nil =>
      rw [gathered, List.append_nil]
      exact everywhere
  | cons operation rest ih =>
      have widened : manager.books.Everywhere (ruleOf (known ++ gives manager operation)) :=
        everywhere.imp fun profile => widens _ _ profile (List.subset_append_left ..)
      have now : (manager.perform operation).1.books.Everywhere (ruleOf (known ++ gives manager operation)) := by
        refine everywhere_perform (steady _) wellFormed widened (ours operation (List.mem_cons_self ..)) ?_
        rintro draft caller edit result rfl prepared accepted
        exact filed manager draft caller edit result known wellFormed everywhere.memory prepared accepted
      have onward := ih (wellFormed_perform wellFormed operation) now fun later among => ours later (List.mem_cons_of_mem _ among)
      rw [List.append_assoc] at onward
      exact onward

end Gathering

end Manager

end SavedNetworks
