import Mathlib.Data.List.Defs
import SavedNetworks.Proofs.Store.Reading

/-!
To those who read and write, a store in a file that lets writes wait is as good as a store in memory that
takes each at once (`Store.answers_alike`).
-/

namespace SavedNetworks

/-- What is asked of a store. -/
inductive StoreCall where
  | write (tenant : Option Tenant) (data : StoreData) (force : Bool)
  | read (tenant : Tenant)
  | readTenant (tenant : Tenant)
  | flush
deriving DecidableEq

inductive StoreAnswer where
  | done (answer : Except StoreError Unit)
  | data (answer : Except StoreError StoreData)
  | tenantSection (answer : Except StoreError TenantSection)

namespace StoreCall

/-- Writes no section with two profiles of one key. -/
def KeysDistinct : StoreCall → Prop
  | write _ data _ => data.KeysDistinct
  | _ => True

instance : DecidablePred KeysDistinct
  | write _ data _ => inferInstanceAs (Decidable data.KeysDistinct)
  | read _ | readTenant _ | flush => inferInstanceAs (Decidable True)

end StoreCall

namespace StoreAnswer

/-- Both stores did what they were asked, with the same result up to the order of profiles. -/
inductive Alike : StoreAnswer → StoreAnswer → Prop where
  | done : Alike (.done (.ok ())) (.done (.ok ()))
  | data {left right : StoreData} (same : left.Alike right) : Alike (.data (.ok left)) (.data (.ok right))
  | tenantSection {left right : TenantSection} (same : left.Alike right) :
    Alike (.tenantSection (.ok left)) (.tenantSection (.ok right))

end StoreAnswer

namespace Store

def call (store : Store) : StoreCall → Store × StoreAnswer
  | .write tenant data force => (store.write tenant data force).map id .done
  | .read tenant => (store.read tenant).map id .data
  | .readTenant tenant => (store.readTenant tenant).map id .tenantSection
  | .flush => store.flush.map id .done

/-- The answers to a sequence of calls. -/
def answers (store : Store) : List StoreCall → List StoreAnswer
  | [] => []
  | call :: rest => (store.call call).2 :: (store.call call).1.answers rest

/-- Once its waiting write is committed, the file holds what the memory holds, and neither fails. -/
structure Mirrors (buffered : BufferedStore) (immediate : ImmediateStore) : Prop where
  answering : immediate.failNextRead = false
  accepting : immediate.failWrites = false
  shared : ∃ found, StoreFile.readProfiles buffered.flush.file.shared.entries = .ok found ∧ found.Perm immediate.shared
  sections : ∀ tenant, ∃ found, buffered.flush.file.readTenant tenant = .ok found ∧
    found.Alike (immediate.section? tenant)
  addresses : buffered.flush.file.addresses = immediate.addresses

namespace Mirrors

variable {buffered : BufferedStore} {immediate : ImmediateStore} {data : StoreData}

theorem empty : Mirrors (.ofFile .empty) .empty :=
  ⟨rfl, rfl, ⟨[], rfl, .nil⟩, fun _ => ⟨.empty, rfl, .nil, rfl⟩, rfl⟩

theorem flush (mirrors : Mirrors buffered immediate) : Mirrors buffered.flush immediate := by
  obtain ⟨answering, accepting, shared, sections, addresses⟩ := mirrors
  rw [← flush_flush buffered] at shared sections addresses
  exact ⟨answering, accepting, shared, sections, addresses⟩

theorem write (mirrors : Mirrors buffered immediate) (distinct : data.KeysDistinct) (named : Option Tenant) (force : Bool) :
    Mirrors (buffered.write named data force) (immediate.accept named data force) := by
  refine ⟨mirrors.answering, mirrors.accepting, buffered.readShared_write distinct named force, fun tenant => ?_,
    buffered.addresses_write named data force⟩
  by_cases own : named = some tenant
  · subst own
    obtain ⟨found, read, alike⟩ := buffered.readTenant_write distinct tenant force
    have stored : (immediate.accept (some tenant) data force).section? tenant = data.persisted.tenant := by
      simp [ImmediateStore.section?, ImmediateStore.accept, StoreData.persisted]
    rw [stored]
    exact ⟨found, read, alike⟩
  · have untouched : (immediate.accept named data force).section? tenant = immediate.section? tenant := by
      cases named with
      | none => rfl
      | some current =>
          have apart : tenant ≠ current := fun same => own (congrArg some same.symm)
          simp only [ImmediateStore.section?, ImmediateStore.accept, SortedMap.get?_insert_of_ne _ _ apart]
    rw [BufferedStore.readTenant_write_of_ne own, untouched]
    exact mirrors.sections tenant

theorem read (mirrors : Mirrors buffered immediate) (tenant : Tenant) :
    ∃ found, buffered.flush.file.read tenant = .ok found ∧ found.Alike (immediate.contents tenant) := by
  obtain ⟨shared, sharedRead, listed⟩ := mirrors.shared
  obtain ⟨tenantSection, sectionRead, alike⟩ := mirrors.sections tenant
  exact ⟨_, StoreFile.read_eq_ok sectionRead sharedRead, listed, alike, mirrors.addresses⟩

/-- A call has the same answer from both, and they mirror each other after it. -/
theorem call (mirrors : Mirrors buffered immediate) {call : StoreCall} (distinct : call.KeysDistinct) :
    ((Store.buffered buffered).call call).2.Alike ((Store.immediate immediate).call call).2 ∧
      ∃ file memory, ((Store.buffered buffered).call call).1 = .buffered file ∧
        ((Store.immediate immediate).call call).1 = .immediate memory ∧ Mirrors file memory := by
  cases call with
  | write named data force =>
      have accepted : immediate.write named data force = (immediate.accept named data force, .ok ()) := by
        simp [ImmediateStore.write, mirrors.accepting]
      simp only [Store.call, Store.write, accepted]
      exact ⟨.done, _, _, rfl, rfl, mirrors.write distinct named force⟩
  | read tenant =>
      obtain ⟨found, read, alike⟩ := mirrors.read tenant
      have answered : immediate.read tenant = (immediate, .ok (immediate.contents tenant)) := by
        simp [ImmediateStore.read, ImmediateStore.answer, mirrors.answering]
      simp only [Store.call, Store.read, BufferedStore.read, answered, read]
      exact ⟨.data alike, _, _, rfl, rfl, mirrors.flush⟩
  | readTenant tenant =>
      obtain ⟨found, read, alike⟩ := mirrors.sections tenant
      have answered : immediate.readTenant tenant = (immediate, .ok (immediate.section? tenant)) := by
        simp [ImmediateStore.readTenant, ImmediateStore.answer, mirrors.answering]
      simp only [Store.call, Store.readTenant, BufferedStore.readTenant, answered, read]
      exact ⟨.tenantSection alike, _, _, rfl, rfl, mirrors.flush⟩
  | flush =>
      have flushed : immediate.flush = .ok () := by simp [ImmediateStore.flush, mirrors.accepting]
      simp only [Store.call, Store.flush, flushed]
      exact ⟨.done, _, _, rfl, rfl, mirrors.flush⟩

theorem answers {calls : List StoreCall} (mirrors : Mirrors buffered immediate)
    (distinct : ∀ call ∈ calls, call.KeysDistinct) :
    List.Forall₂ StoreAnswer.Alike ((Store.buffered buffered).answers calls) ((Store.immediate immediate).answers calls) := by
  induction calls generalizing buffered immediate with
  | nil => exact .nil
  | cons call rest ih =>
      obtain ⟨alike, file, memory, here, there, still⟩ := mirrors.call (distinct call (List.mem_cons_self ..))
      have later := ih still fun other among => distinct other (List.mem_cons_of_mem _ among)
      simp only [Store.answers, here, there]
      exact .cons alike later

end Mirrors

/-- Whatever is written, read and flushed on two empty stores, both answer alike: the file neither loses nor mixes up
nor brings back what waits. -/
theorem answers_alike {calls : List StoreCall} (distinct : ∀ call ∈ calls, call.KeysDistinct) :
    List.Forall₂ StoreAnswer.Alike ((Store.buffered (.ofFile .empty)).answers calls)
      ((Store.immediate .empty).answers calls) :=
  Mirrors.empty.answers distinct

/-- A private section waits while the shared one is written, and then another tenant's. -/
def waitingCalls : List StoreCall :=
  let home := { StoreData.empty with tenant := ⟨[.blank "Home" .psk], .empty⟩ }
  let cafe := { StoreData.empty with shared := [.blank "Cafe" .unsecured] }
  [.write (some 0) home false, .write none cafe false, .write (some 1) cafe false, .readTenant 0, .read 1]

theorem answers_waitingCalls :
    List.Forall₂ StoreAnswer.Alike ((Store.buffered (.ofFile .empty)).answers waitingCalls)
      ((Store.immediate .empty).answers waitingCalls) :=
  answers_alike (by decide)

end Store

end SavedNetworks
