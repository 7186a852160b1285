/-!
Who acts: user identities, the tenants they belong to, and the owner that a record names.
-/

namespace SavedNetworks

abbrev Uid := UInt32

abbrev Tenant := UInt32

namespace Uid

def system : Uid := 1000

def wifi : Uid := 1010

/-- How many identities each tenant has. -/
def perTenant : UInt32 := 100000

def tenant (uid : Uid) : Tenant := uid / perTenant

def inTenant (uid : Uid) (tenant : Tenant) : Bool := uid == system || Uid.tenant uid == tenant

theorem inTenant_tenant (uid : Uid) : inTenant uid (Uid.tenant uid) = true := by simp [inTenant]

end Uid

structure Owner where
  uid : Uid
  package : String
deriving DecidableEq

namespace Owner

def unknown : Owner := ⟨0, ""⟩

/-- The package up to its first colon, which starts the mark of a shared identity. -/
def packageName (owner : Owner) : String :=
  String.ofList (owner.package.toList.takeWhile (· != ':'))

end Owner

end SavedNetworks
