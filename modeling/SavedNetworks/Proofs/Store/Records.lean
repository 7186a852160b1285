import SavedNetworks.Proofs.Profile.Key
import SavedNetworks.Proofs.Roster.Outline
import SavedNetworks.Proofs.Store.Sections

/-!
Which stored profiles are as good as a given record: those of the same network with the same credentials.
-/

namespace SavedNetworks

structure Credentials where
  preSharedKey : Option String
  wepKeys : WepKeys
  wepTransmitIndex : UInt8
  enterprise : Option Enterprise
deriving DecidableEq

namespace Profile

variable {profile other record : Profile}

/-- The credentials, without identities that came from a SIM card: every load forgets those. -/
def credentials (profile : Profile) : Credentials :=
  ⟨profile.preSharedKey, profile.wepKeys, profile.wepTransmitIndex, profile.enterprise.map Enterprise.resetSim⟩

/-- Has the SSID, the security and the credentials of the record. -/
structure StandsFor (profile record : Profile) : Prop where
  ssid : profile.ssid = record.ssid
  security : profile.security = record.security
  credentials : profile.credentials = record.credentials

theorem StandsFor.refl (profile : Profile) : profile.StandsFor profile := ⟨rfl, rfl, rfl⟩

theorem standsFor_iff : profile.StandsFor record ↔ profile.key = record.key ∧ profile.credentials = record.credentials := by
  constructor
  · rintro ⟨ssid, security, same⟩
    exact ⟨by rw [key, ssid, security, key], same⟩
  · rintro ⟨named, same⟩
    obtain ⟨ssid, security⟩ := ProfileKey.ofNetwork_injective named
    exact ⟨ssid, security, same⟩

/-- Is saved, and stands for the record. -/
structure StandsIn (profile record : Profile) : Prop where
  saved : profile.isSaved = true
  same : profile.StandsFor record

theorem StandsIn.key (good : profile.StandsIn record) : profile.key = record.key := (standsFor_iff.1 good.same).1

instance (profile record : Profile) : Decidable (profile.StandsFor record) :=
  decidable_of_iff (profile.ssid = record.ssid ∧ profile.security = record.security ∧ profile.credentials = record.credentials)
    ⟨fun ⟨ssid, security, credentials⟩ => ⟨ssid, security, credentials⟩,
      fun ⟨ssid, security, credentials⟩ => ⟨ssid, security, credentials⟩⟩

instance (profile record : Profile) : Decidable (profile.StandsIn record) :=
  decidable_of_iff (profile.isSaved = true ∧ profile.StandsFor record)
    ⟨fun ⟨saved, same⟩ => ⟨saved, same⟩, fun ⟨saved, same⟩ => ⟨saved, same⟩⟩

/-- A profile without its id and all that is noted on it. -/
def bare (profile : Profile) : Profile := { profile.frame with id := .unset }

theorem credentials_bare (profile : Profile) : profile.bare.credentials = profile.credentials :=
  congrArg (Credentials.mk profile.preSharedKey profile.wepKeys profile.wepTransmitIndex)
    (Enterprise.map_resetSim_resetSim profile.enterprise)

theorem bare_of_frame (same : profile.frame = other.frame) : profile.bare = other.bare :=
  congrArg (fun framed : Profile => { framed with id := .unset }) same

theorem StandsIn.of_bare (good : other.StandsIn record) (same : profile.bare = other.bare) : profile.StandsIn record :=
  ⟨(same_of_look isSaved (fun _ => rfl) same).trans good.saved,
    (same_of_look Profile.ssid (fun _ => rfl) same).trans good.same.ssid,
    (same_of_look Profile.security (fun _ => rfl) same).trans good.same.security,
    (same_of_look credentials credentials_bare same).trans good.same.credentials⟩

theorem owner_bare (profile : Profile) : profile.bare.shared = profile.shared ∧ profile.bare.creator = profile.creator :=
  ⟨rfl, rfl⟩

theorem owner_of_bare (same : profile.bare = other.bare) : profile.shared = other.shared ∧ profile.creator = other.creator :=
  ⟨same_of_look Profile.shared (fun one => (owner_bare one).1) same,
    same_of_look Profile.creator (fun one => (owner_bare one).2) same⟩

end Profile

namespace Store

variable {store other : Store} {tenant : Tenant} {record : Profile}

/-- The shared section or that of the tenant has a profile that stands for the record. -/
def Holds (store : Store) (tenant : Tenant) (record : Profile) : Prop :=
  ∃ profile, (StoredProfile.Among profile store.storedShared ∨
    StoredProfile.Among profile (store.storedSection tenant).profiles) ∧ profile.StandsFor record

instance (store : Store) (tenant : Tenant) (record : Profile) : Decidable (store.Holds tenant record) :=
  decidable_of_iff (∃ profile ∈ (store.storedShared ++ (store.storedSection tenant).profiles).filterMap StoredProfile.profile?,
      profile.StandsFor record) <| by
    simp only [Holds, StoredProfile.Among, List.mem_filterMap, List.mem_append, or_and_right, exists_or]

/-- The section of the tenant does. -/
def HoldsPrivately (store : Store) (tenant : Tenant) (record : Profile) : Prop :=
  ∃ profile, StoredProfile.Among profile (store.storedSection tenant).profiles ∧ profile.StandsFor record

/-- The shared section does, and whatever it lists under the key of the record is shared and stands in for it. -/
structure HoldsShared (store : Store) (record : Profile) : Prop where
  listed : ∃ profile, StoredProfile.Among profile store.storedShared ∧ profile.key = record.key
  good : ∀ profile, StoredProfile.Among profile store.storedShared → profile.key = record.key →
    profile.shared = true ∧ profile.StandsIn record

theorem HoldsPrivately.holds (held : store.HoldsPrivately tenant record) : store.Holds tenant record := by
  obtain ⟨profile, among, same⟩ := held
  exact ⟨profile, .inr among, same⟩

theorem HoldsShared.holds (held : store.HoldsShared record) : store.Holds tenant record := by
  obtain ⟨profile, among, named⟩ := held.listed
  exact ⟨profile, .inl among, (held.good profile among named).2.same⟩

theorem HoldsPrivately.of_section (held : store.HoldsPrivately tenant record)
    (same : other.storedSection tenant = store.storedSection tenant) : other.HoldsPrivately tenant record := by
  unfold HoldsPrivately at held ⊢
  rw [same]
  exact held

theorem HoldsShared.of_shared (held : store.HoldsShared record) (same : other.storedShared = store.storedShared) :
    other.HoldsShared record :=
  ⟨same ▸ held.listed, same ▸ held.good⟩

end Store

end SavedNetworks
