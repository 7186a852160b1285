import SavedNetworks.Store.Buffered
import SavedNetworks.Store.Immediate

/-!
The store that a manager works with: either of the two kinds.
-/

namespace SavedNetworks

inductive Store where
  | immediate (store : ImmediateStore)
  | buffered (store : BufferedStore)
deriving DecidableEq

namespace Store

/-- The shared section and the private section of one tenant. -/
def read (tenant : Tenant) : Store → Store × Except StoreError StoreData
  | immediate store => let (store, answer) := store.read tenant; (immediate store, answer)
  | buffered store => let (store, answer) := store.read tenant; (buffered store, answer)

/-- The private section of one tenant. -/
def readTenant (tenant : Tenant) : Store → Store × Except StoreError TenantSection
  | immediate store => let (store, answer) := store.readTenant tenant; (immediate store, answer)
  | buffered store => let (store, answer) := store.readTenant tenant; (buffered store, answer)

/-- Replaces the stored contents. Without a tenant, the private sections stay as they are. A write that
is not forced may wait. -/
def write (tenant : Option Tenant) (data : StoreData) (force : Bool) :
    Store → Store × Except StoreError Unit
  | immediate store => let (store, answer) := store.write tenant data force; (immediate store, answer)
  | buffered store => (buffered (store.write tenant data force), .ok ())

/-- Commits a write that waits. -/
def flush : Store → Store × Except StoreError Unit
  | immediate store => (immediate store, store.flush)
  | buffered store => (buffered store.flush, .ok ())

/-- Closes the store and opens it again. -/
def reopen : Store → Store
  | immediate store => immediate store
  | buffered store => buffered store.reopen

/-- Makes the next read fail; a store in a file does not fail. -/
def failNextRead : Store → Store
  | immediate store => immediate { store with failNextRead := true }
  | buffered store => buffered store

/-- Makes writes and flushes fail, or lets them pass again; a store in a file does not fail. -/
def failWrites (fail : Bool) : Store → Store
  | immediate store => immediate { store with failWrites := fail }
  | buffered store => buffered store

/-- A forced write by somebody else, which never fails. -/
def writeOutside (tenant : Option Tenant) (data : StoreData) : Store → Store
  | immediate store => immediate (store.accept tenant data true)
  | buffered store => buffered (store.write tenant data true)

end Store

end SavedNetworks
