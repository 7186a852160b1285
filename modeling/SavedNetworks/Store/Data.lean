import SavedNetworks.Profile.Basic

/-!
What is stored: a section of profiles that every tenant shares, a private section for each tenant, and
the station addresses that earlier releases kept apart from the profiles.
-/

namespace SavedNetworks

/-- The private section of one tenant. -/
structure TenantSection where
  profiles : List Profile
  /-- The SSIDs of dismissed ephemeral networks, with the wall-clock time of the dismissal. -/
  dismissed : SortedMap String Millis
deriving DecidableEq

structure StoreData where
  shared : List Profile
  tenant : TenantSection
  addresses : SortedMap String String
deriving DecidableEq

inductive StoreError where
  /-- A record that cannot be read, by its key. -/
  | corrupt (key : String)
  /-- A read that was made to fail. -/
  | readRefused
  | unavailable (reason : String)
  /-- The file cannot be opened. -/
  | database
deriving DecidableEq

namespace TenantSection

def empty : TenantSection := ⟨[], .empty⟩

end TenantSection

namespace StoreData

def empty : StoreData := ⟨[], .empty, .empty⟩

end StoreData

end SavedNetworks
