import SavedNetworks.Manager.Operation
import SavedNetworks.Proofs.Roster.Outline
import SavedNetworks.Proofs.Store.Sections

/-!
What operations do, apart from restarting, reading the store and following the tenants, as sequences of a
few kinds of moves. A property that every permitted move keeps is kept by the operation
(`Moves.invariant`, `Manager.moves_perform`).
-/

namespace SavedNetworks

/-- The part of a manager that its guarantees about profiles and the store depend on. -/
structure Books where
  roster : Roster
  store : Store
  dismissed : SortedMap String Millis
  nextId : UInt32
  awaitsStore : Bool
  awaitsUnlock : Bool

namespace Books

def belongsToShared (books : Books) (profile : Profile) : Bool :=
  profile.shared || !profile.creator.uid.inTenant books.roster.tenant

theorem belongsToShared_congr {before after : Books} {old new : Profile}
    (tenant : after.roster.tenant = before.roster.tenant) (shared : new.shared = old.shared)
    (creator : new.creator = old.creator) : after.belongsToShared new = before.belongsToShared old := by
  unfold belongsToShared
  rw [shared, creator, tenant]

theorem belongsToShared_of_shared {books : Books} {profile : Profile} (shared : profile.shared = true) :
    books.belongsToShared profile = true := by
  rw [belongsToShared, shared, Bool.true_or]

/-- What is to be written, beside the addresses of earlier releases. -/
def sections (books : Books) (addresses : SortedMap String String) : StoreData :=
  let saved := books.roster.all.filter Profile.isSaved
  { shared := saved.filter books.belongsToShared
    tenant :=
      { profiles := saved.filter fun profile => !books.belongsToShared profile
        dismissed := books.dismissed }
    addresses }

def writtenTenant (books : Books) : Option Tenant :=
  if books.awaitsUnlock then none else some books.roster.tenant

end Books

def Manager.books (manager : Manager) : Books :=
  { roster := manager.roster
    store := manager.store
    dismissed := manager.dismissed
    nextId := manager.nextId
    awaitsStore := manager.awaitsStore
    awaitsUnlock := manager.awaitsUnlock }

inductive Move where
  | note
  | relink
  | dismiss
  | forgive
  | write
  | settle
  | skip
  | drop (id : ProfileId)
  | add (shared : Bool)
  | update (id : ProfileId)
deriving DecidableEq

inductive Step : Move → Books → Books → Prop where
  /-- Something is noted on profiles. -/
  | note {books : Books} {roster : Roster} (outlines : roster.through Profile.outline = books.roster.through Profile.outline) :
    Step .note books { books with roster }
  /-- The links of one profile are decided again. -/
  | relink {books : Books} (rule : LinkRule) (caches : Caches) (id : ProfileId) :
    Step .relink books { books with roster := (rule.reconsider books.roster caches id).1 }
  | dismiss {books : Books} (dismissed : SortedMap String Millis) : Step .dismiss books { books with dismissed }
  /-- Some dismissals are forgotten. -/
  | forgive {books : Books} {dismissed : SortedMap String Millis}
    (fewer : ∀ ssid dismissedAt, dismissed.get? ssid = some dismissedAt → books.dismissed.get? ssid = some dismissedAt) :
    Step .forgive books { books with dismissed }
  | write {books : Books} (read : books.awaitsStore = false) (addresses : SortedMap String String) (force : Bool) :
    Step .write books
      { books with store := (books.store.write books.writtenTenant (books.sections addresses) force).1 }
  /-- The store changes, but not what it holds. -/
  | settle {books : Books} {store : Store} (same : store.SameContents books.store) :
    Step .settle books { books with store }
  /-- An id is handed out in vain. -/
  | skip {books : Books} (room : books.nextId.toNat + 1 < UInt32.size) :
    Step .skip books { books with nextId := books.nextId + 1 }
  | drop {books : Books} {id : ProfileId} {profile : Profile} (found : books.roster.get? id = some profile) :
    Step (.drop id) books { books with roster := books.roster.drop id profile.key }
  | add {books : Books} {profile : Profile} {roster : Roster} (read : books.awaitsStore = false)
    (room : books.nextId.toNat + 1 < UInt32.size) (fresh : profile.id = ⟨books.nextId⟩) (unlinked : profile.linked = .empty)
    (owned : profile.creator.uid.inTenant books.roster.tenant = true) (stored : books.roster.put profile = .ok roster) :
    Step (.add profile.shared) books { books with roster, nextId := books.nextId + 1 }
  | update {books : Books} {current profile : Profile} {roster : Roster}
    (found : books.roster.get? profile.id = some current) (shared : profile.shared = current.shared)
    (creator : profile.creator = current.creator) (saved : profile.isSaved = current.isSaved)
    (stored : books.roster.put profile = .ok roster) :
    Step (.update profile.id) books { books with roster }

theorem Step.flags {move : Move} {before after : Books} (taken : Step move before after) :
    after.roster.tenant = before.roster.tenant ∧ after.awaitsStore = before.awaitsStore ∧
      after.awaitsUnlock = before.awaitsUnlock := by
  cases taken with
  | note outlines => exact ⟨Roster.tenant_of_through outlines, rfl, rfl⟩
  | relink rule caches id => exact ⟨Roster.tenant_of_through (Roster.through_reconsider rule before.roster caches id), rfl, rfl⟩
  | dismiss | forgive | write | settle | skip => exact ⟨rfl, rfl, rfl⟩
  | drop found => exact ⟨Roster.tenant_drop _ _ _, rfl, rfl⟩
  | add read room fresh unlinked owned stored | update found shared creator saved stored =>
      exact ⟨Roster.tenant_put stored, rfl, rfl⟩

theorem Step.wellFormed {move : Move} {before after : Books} (taken : Step move before after)
    (wellFormed : before.roster.WellFormed) : after.roster.WellFormed := by
  cases taken with
  | note outlines => exact wellFormed.of_through Roster.keepsName_outline outlines
  | relink rule caches id =>
      exact wellFormed.of_through Roster.keepsName_frame (Roster.through_reconsider rule before.roster caches id)
  | dismiss | forgive | write | settle | skip => exact wellFormed
  | drop found => exact wellFormed.drop _ _
  | add read room fresh unlinked owned stored | update found shared creator saved stored => exact wellFormed.put stored

/-- The moves that hand out no id. -/
def Move.IsFrugal : Move → Prop
  | .skip | .add _ => False
  | _ => True

theorem Step.nextId {move : Move} {before after : Books} (taken : Step move before after) (frugal : move.IsFrugal) :
    after.nextId = before.nextId := by
  cases taken with
  | skip | add => cases frugal
  | note | relink | dismiss | forgive | write | settle | drop | update => rfl

/-- Only a write changes what is stored, and only once the store was read. -/
theorem Step.write_or_same {move : Move} {before after : Books} (taken : Step move before after) :
    (before.awaitsStore = false ∧ ∃ addresses force,
      after = { before with store := (before.store.write before.writtenTenant (before.sections addresses) force).1 }) ∨
      after.store.SameContents before.store := by
  cases taken with
  | write read addresses force => exact .inl ⟨read, addresses, force, rfl⟩
  | settle same => exact .inr same
  | note | relink | dismiss | forgive | skip | drop | add | update => exact .inr (.refl _)

inductive Moves (allowed : Move → Prop) : Books → Books → Prop where
  | refl {books : Books} : Moves allowed books books
  | step {first second last : Books} {move : Move} (permitted : allowed move) (one : Step move first second)
    (rest : Moves allowed second last) : Moves allowed first last

namespace Moves

variable {allowed wider : Move → Prop} {first second last : Books} {move : Move}

theorem one (permitted : allowed move) (step : Step move first second) : Moves allowed first second :=
  .step permitted step .refl

theorem trans (former : Moves allowed first second) (latter : Moves allowed second last) : Moves allowed first last := by
  induction former with
  | refl => exact latter
  | step permitted step _ ih => exact .step permitted step (ih latter)

theorem invariant {property : Books → Prop}
    (keeps : ∀ move before after, allowed move → Step move before after → property before → property after)
    (moves : Moves allowed first last) (holds : property first) : property last := by
  induction moves with
  | refl => exact holds
  | step permitted step _ ih => exact ih (keeps _ _ _ permitted step holds)

end Moves

/-- What an accepted edit does, whether the ids last or not: it is refused, with or without the loss of an id, or
its outcome is stored under the next id or in place of what it revises. -/
inductive Filed (allowed : Move → Prop) : Books → Books → Prop where
  | refused {books : Books} : Filed allowed books books
  | lost {books : Books} : Filed allowed books { books with nextId := books.nextId + 1 }
  | added {books : Books} {profile : Profile} {roster : Roster} (permitted : allowed (.add profile.shared))
    (read : books.awaitsStore = false) (fresh : profile.id = ⟨books.nextId⟩) (unlinked : profile.linked = .empty)
    (owned : profile.creator.uid.inTenant books.roster.tenant = true) (stored : books.roster.put profile = .ok roster) :
    Filed allowed books { books with roster, nextId := books.nextId + 1 }
  | updated {books : Books} {current profile : Profile} {roster : Roster} (permitted : allowed (.update profile.id))
    (found : books.roster.get? profile.id = some current) (shared : profile.shared = current.shared)
    (creator : profile.creator = current.creator) (saved : profile.isSaved = current.isSaved)
    (stored : books.roster.put profile = .ok roster) : Filed allowed books { books with roster }

namespace Filed

variable {allowed : Move → Prop} {before after : Books}

theorem moves (filed : Filed allowed before after) (skips : allowed .skip)
    (room : after.nextId ≠ before.nextId → before.nextId.toNat + 1 < UInt32.size) : Moves allowed before after := by
  have counted : before.nextId + 1 ≠ before.nextId := by grind
  cases filed with
  | refused => exact .refl
  | lost => exact .one skips (.skip (room counted))
  | added permitted read fresh unlinked owned stored =>
      exact .one permitted (.add read (room counted) fresh unlinked owned stored)
  | updated permitted found shared creator saved stored => exact .one permitted (.update found shared creator saved stored)

theorem wellFormed (filed : Filed allowed before after) (wellFormed : before.roster.WellFormed) :
    after.roster.WellFormed := by
  cases filed with
  | refused | lost => exact wellFormed
  | added permitted read fresh unlinked owned stored | updated permitted found shared creator saved stored =>
      exact wellFormed.put stored

end Filed

/-- Allows the moves that take no profile in or out, link none, dismiss nothing and hand out no id. -/
structure Lenient (allowed : Move → Prop) : Prop where
  note : allowed .note
  forgive : allowed .forgive
  write : allowed .write
  settle : allowed .settle

/-- The moves that leave every outline as it is. -/
def Move.IsQuiet : Move → Prop
  | .note | .forgive | .write | .settle | .skip => True
  | _ => False

namespace Move

theorem lenient_isQuiet : Lenient IsQuiet := ⟨trivial, trivial, trivial, trivial⟩

end Move

theorem Step.outlines_of_isQuiet {move : Move} {before after : Books} (taken : Step move before after)
    (quiet : move.IsQuiet) : after.roster.through Profile.outline = before.roster.through Profile.outline := by
  cases taken with
  | note outlines => exact outlines
  | forgive | write | settle | skip => rfl
  | relink | dismiss | drop | add | update => cases quiet

namespace Manager

variable {allowed : Move → Prop} {manager : Manager} {id : ProfileId}

theorem save_of_read (read : manager.awaitsStore = false) (force : Bool) :
    manager.save force =
      ({ manager with store := (manager.store.write manager.writtenTenant manager.sections force).1 },
        (manager.store.write manager.writtenTenant manager.sections force).2.mapError .store) := by
  unfold save
  rw [if_neg (by simp [read])]

theorem books_persist (read : manager.awaitsStore = false) (force : Bool) :
    (manager.persist force).books =
      { manager.books with
        store := (manager.store.write manager.books.writtenTenant
          (manager.books.sections manager.randomizer.legacy) force).1 } :=
  congrArg (·.1.books) (save_of_read read force)

theorem persist_of_awaitsStore (unread : manager.awaitsStore = true) (force : Bool) :
    manager.persist force = manager := by
  unfold persist save
  rw [if_pos unread]

theorem persist_eq (manager : Manager) (force : Bool) :
    manager.persist force = { manager with store := (manager.persist force).store } := by
  unfold persist save
  split <;> rfl

theorem moves_persist (permitted : allowed .write) (manager : Manager) (force : Bool) :
    Moves allowed manager.books (manager.persist force).books := by
  cases read : manager.awaitsStore with
  | true =>
      rw [persist_of_awaitsStore read]
      exact .refl
  | false =>
      rw [books_persist read]
      exact .one permitted (.write read manager.randomizer.legacy force)

theorem moves_flush (lenient : Lenient allowed) (manager : Manager) : Moves allowed manager.books manager.flush.1.books :=
  .one lenient.settle (.settle manager.store.sameContents_flush)

theorem moves_modify (lenient : Lenient allowed) {change : Profile → Profile}
    (noted : ∀ profile, manager.roster.get? id = some profile → (change profile).outline = profile.outline) :
    Moves allowed manager.books (manager.modify id change).books :=
  .one lenient.note (.note (Roster.through_modify noted))

theorem moves_note (lenient : Lenient allowed) {change : Profile → Profile}
    (noted : ∀ profile, (change profile).outline = profile.outline) (manager : Manager) (id : ProfileId) :
    Moves allowed manager.books (manager.note id change).1.books := by
  unfold note
  split
  · exact moves_modify lenient fun profile _ => noted profile
  · exact .refl

theorem moves_noteStored (lenient : Lenient allowed) {change : Profile → Profile}
    (noted : ∀ profile, (change profile).outline = profile.outline) (manager : Manager) (id : ProfileId) :
    Moves allowed manager.books (manager.noteStored id change).1.books := by
  unfold noteStored
  split
  · exact (moves_modify lenient fun profile _ => noted profile).trans (moves_persist lenient.write _ false)
  · exact .refl

theorem moves_setSelection (lenient : Lenient allowed) {profile : Profile} (found : manager.roster.get? id = some profile)
    (selection : SelectionStatus) (transition : Transition) :
    Moves allowed manager.books (manager.setSelection id profile selection transition).books := by
  unfold setSelection
  generalize marked : { profile with selection, status := (statusAfter transition).getD profile.status } = changed
  have outlines : changed.outline = profile.outline := by
    rw [← marked]
    rfl
  have noted : Moves allowed manager.books (manager.modify id fun _ => changed).books := by
    refine moves_modify lenient fun same again => ?_
    rw [found, Option.some.injEq] at again
    rw [← again]
    exact outlines
  simp only
  split
  · next event _ => exact noted.trans (moves_persist lenient.write ((manager.modify id fun _ => changed).announce event) false)
  · exact noted

theorem moves_updateSelection (lenient : Lenient allowed) (manager : Manager) (id : ProfileId) (reason : Reason) :
    Moves allowed manager.books (manager.updateSelection id reason).1.books := by
  unfold updateSelection
  split
  · exact .refl
  · next profile found =>
      simp only
      split
      · exact moves_setSelection lenient found _ _
      · exact .refl

theorem moves_tryEnable (lenient : Lenient allowed) (manager : Manager) (id : ProfileId) :
    Moves allowed manager.books (manager.tryEnable id).1.books := by
  unfold tryEnable
  split
  · exact .refl
  · next profile found => exact moves_setSelection lenient found _ _

theorem moves_collect {operation : Manager → ProfileId → Manager × Bool} {ids : List ProfileId}
    (each : ∀ id ∈ ids, ∀ manager, Moves allowed (books manager) (operation manager id).1.books) (manager : Manager) :
    Moves allowed manager.books (collect operation manager ids).1.books := by
  induction ids generalizing manager with
  | nil => exact .refl
  | cons id rest ih =>
      exact (each id (List.mem_cons_self ..) manager).trans
        (ih (fun other later => each other (List.mem_cons_of_mem _ later)) _)

end Manager

end SavedNetworks
