import SavedNetworks.Profile.Record
import SavedNetworks.Store.Data

/-!
A store in a file of four sorted tables. A write that is not forced waits, and is committed with the next
forced write, before a waiting write of another tenant, or by a flush; every read flushes first.
-/

namespace SavedNetworks

/-- The tables of the file. Private records and dismissals have the tenant in front of their keys. -/
structure StoreFile where
  shared : SortedMap String String
  tenantProfiles : SortedMap String String
  dismissed : SortedMap String Millis
  addresses : SortedMap String String
deriving DecidableEq

namespace StoreFile

def empty : StoreFile := ⟨.empty, .empty, .empty, .empty⟩

/-- What the keys of a tenant start with. -/
def tenantMark (tenant : Tenant) : List Char := Text.decimal tenant.toNat ++ ['/']

def tenantKey (tenant : Tenant) (rest : String) : String :=
  String.ofList (tenantMark tenant ++ rest.toList)

/-- The key of a tenant's record without the mark; none for a record of another tenant. -/
def withoutMark? (tenant : Tenant) (key : String) : Option String :=
  let mark := tenantMark tenant
  if mark.isPrefixOf key.toList then some (String.ofList (key.toList.drop mark.length)) else none

def isOf {α : Type} (tenant : Tenant) (key : String) (_ : α) : Bool := (withoutMark? tenant key).isSome

/-- A table of records for profiles, by the keys that `keyOf` gives them. -/
def putProfiles (keyOf : Profile → String) (table : SortedMap String String) (profiles : List Profile) :
    SortedMap String String :=
  profiles.foldl (fun table profile => table.insert (keyOf profile) profile.toRecord) table

/-- Replaces the section of one tenant. -/
def commitTenant (file : StoreFile) (tenant : Tenant) (data : TenantSection) : StoreFile :=
  { file with
    tenantProfiles := putProfiles (fun profile => tenantKey tenant profile.key.text)
      (file.tenantProfiles.filter fun key value => !isOf tenant key value) data.profiles
    dismissed := data.dismissed.entries.foldl
      (fun table (ssid, at_) => table.insert (tenantKey tenant ssid) at_)
      (file.dismissed.filter fun key value => !isOf tenant key value) }

/-- Replaces the shared section and the addresses, and the section of `tenant` if one is named. -/
def commit (file : StoreFile) (tenant : Option Tenant) (data : StoreData) : StoreFile :=
  let file := match tenant with
    | some tenant => file.commitTenant tenant data.tenant
    | none => file
  { file with
    shared := putProfiles (fun profile => profile.key.text) .empty data.shared
    addresses := data.addresses }

/-- The profiles of records, or the key of the first that is none. -/
def readProfiles (records : List (String × String)) : Except StoreError (List Profile) :=
  records.mapM fun (key, record) =>
    match Profile.ofRecord? record with
    | some profile => .ok profile
    | none => .error (.corrupt key)

def readTenant (file : StoreFile) (tenant : Tenant) : Except StoreError TenantSection := do
  let profiles ← readProfiles (file.tenantProfiles.filter (isOf tenant)).entries
  let dismissed := file.dismissed.entries.filterMap fun (key, at_) =>
    (withoutMark? tenant key).map fun ssid => (ssid, at_)
  .ok ⟨profiles, .ofList dismissed⟩

/-- Reads the private section before the shared one. -/
def read (file : StoreFile) (tenant : Tenant) : Except StoreError StoreData := do
  let tenantSection ← file.readTenant tenant
  let shared ← readProfiles file.shared.entries
  .ok ⟨shared, tenantSection, file.addresses⟩

end StoreFile

structure BufferedStore where
  file : StoreFile
  /-- The write that waits, with the tenant whose section it holds. -/
  pending : Option (Option Tenant × StoreData)
deriving DecidableEq

namespace BufferedStore

def ofFile (file : StoreFile) : BufferedStore := ⟨file, none⟩

/-- Opens the file of a directory; none stands for a directory that is not there. -/
def open? : Option StoreFile → Except StoreError BufferedStore
  | some file => .ok (ofFile file)
  | none => .error .database

def hasPending (store : BufferedStore) : Bool := store.pending.isSome

def flush (store : BufferedStore) : BufferedStore :=
  match store.pending with
  | some (tenant, data) => ofFile (store.file.commit tenant data)
  | none => store

/-- Closes the store, which flushes it, and opens its file again. -/
def reopen (store : BufferedStore) : BufferedStore := ofFile store.flush.file

def read (store : BufferedStore) (tenant : Tenant) : BufferedStore × Except StoreError StoreData :=
  (store.flush, store.flush.file.read tenant)

def readTenant (store : BufferedStore) (tenant : Tenant) : BufferedStore × Except StoreError TenantSection :=
  (store.flush, store.flush.file.readTenant tenant)

/-- A write merged with the one that waits: a write of the shared section alone keeps the private section
that waits, any other write replaces a waiting one of the same tenant. -/
def merge (pending : Option (Option Tenant × StoreData)) (tenant : Option Tenant) (data : StoreData) :
    Option Tenant × StoreData :=
  match pending, tenant with
  | some (some waiting, held), none => (some waiting, { data with tenant := held.tenant })
  | _, _ => (tenant, data)

/-- The file after the waiting write of another tenant, which a write for `tenant` does not replace. -/
def settled (store : BufferedStore) (tenant : Option Tenant) : StoreFile :=
  match store.pending, tenant with
  | some (some waiting, held), some current =>
    if waiting = current then store.file else store.file.commit (some waiting) held
  | _, _ => store.file

def write (store : BufferedStore) (tenant : Option Tenant) (data : StoreData) (force : Bool) : BufferedStore :=
  let file := store.settled tenant
  let (tenant, data) := merge store.pending tenant data
  if force then ofFile (file.commit tenant data) else ⟨file, some (tenant, data)⟩

end BufferedStore

end SavedNetworks
