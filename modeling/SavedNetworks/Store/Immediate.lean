import SavedNetworks.Store.Data

/-!
A store in memory that takes every write at once. It counts what it took, and it can be told to fail.
-/

namespace SavedNetworks

structure ImmediateStore where
  shared : List Profile
  tenants : SortedMap Tenant TenantSection
  addresses : SortedMap String String
  writes : Nat
  forcedWrites : Nat
  failNextRead : Bool
  failWrites : Bool
deriving DecidableEq

namespace ImmediateStore

def empty : ImmediateStore :=
  { shared := []
    tenants := .empty
    addresses := .empty
    writes := 0
    forcedWrites := 0
    failNextRead := false
    failWrites := false }

def section? (store : ImmediateStore) (tenant : Tenant) : TenantSection :=
  (store.tenants.get? tenant).getD .empty

/-- What is stored for one tenant. -/
def contents (store : ImmediateStore) (tenant : Tenant) : StoreData :=
  ⟨store.shared, store.section? tenant, store.addresses⟩

/-- Answers a read, unless this read was made to fail; the next one is answered again. -/
def answer {α : Type} (store : ImmediateStore) (content : α) : ImmediateStore × Except StoreError α :=
  if store.failNextRead then ({ store with failNextRead := false }, .error .readRefused)
  else (store, .ok content)

def read (store : ImmediateStore) (tenant : Tenant) : ImmediateStore × Except StoreError StoreData :=
  store.answer (store.contents tenant)

def readTenant (store : ImmediateStore) (tenant : Tenant) :
    ImmediateStore × Except StoreError TenantSection :=
  store.answer (store.section? tenant)

/-- The section as it is stored. -/
def stored (tenantSection : TenantSection) : TenantSection :=
  { tenantSection with profiles := tenantSection.profiles.map Profile.persisted }

/-- Replaces the shared section and the addresses, and the private section of `tenant` if one is
named. -/
def accept (store : ImmediateStore) (tenant : Option Tenant) (data : StoreData) (force : Bool) :
    ImmediateStore :=
  { store with
    shared := data.shared.map Profile.persisted
    tenants := match tenant with
      | some tenant => store.tenants.insert tenant (stored data.tenant)
      | none => store.tenants
    addresses := data.addresses
    writes := store.writes + 1
    forcedWrites := if force then store.forcedWrites + 1 else store.forcedWrites }

def write (store : ImmediateStore) (tenant : Option Tenant) (data : StoreData) (force : Bool) :
    ImmediateStore × Except StoreError Unit :=
  if store.failWrites then (store, .error (.unavailable "injected write failure"))
  else (store.accept tenant data force, .ok ())

def flush (store : ImmediateStore) : Except StoreError Unit :=
  if store.failWrites then .error (.unavailable "injected flush failure") else .ok ()

end ImmediateStore

end SavedNetworks
