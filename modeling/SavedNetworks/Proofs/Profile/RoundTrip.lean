import SavedNetworks.Profile.Record
import SavedNetworks.Proofs.Address
import SavedNetworks.Proofs.Json.Fields
import SavedNetworks.Proofs.Json.RoundTrip

/-!
A stored record reads back as the profile that it was written from, but for what does not outlive the run
(`Profile.ofRecord?_toRecord`).
-/

namespace SavedNetworks

open Json.Fields (required_cons optional_cons)

@[simp] theorem Json.nullable?_text (value : Option String) :
    nullable? text? (ofOption text value) = some value :=
  nullable?_ofOption text?_text nofun value

@[simp] theorem Json.listOf?_ofTexts (values : List String) : listOf? text? (ofTexts values) = some values :=
  listOf?_map text?_text values

@[simp] theorem Security.ofJson?_toJson (security : Security) : ofJson? security.toJson = some security :=
  ofName?_name security

@[simp] theorem MeteredOverride.ofJson?_toJson (choice : MeteredOverride) : ofJson? choice.toJson = some choice :=
  ofName?_name choice

@[simp] theorem AddressChoice.ofJson?_toJson (choice : AddressChoice) : ofJson? choice.toJson = some choice :=
  ofName?_name choice

@[simp] theorem IpAssignment.ofJson?_toJson (assignment : IpAssignment) :
    ofJson? assignment.toJson = some assignment :=
  ofName?_name assignment

@[simp] theorem EapMethod.ofJson?_toJson (method : EapMethod) : ofJson? method.toJson = some method :=
  ofName?_name method

@[simp] theorem Reason.ofJson?_toJson (reason : Reason) : ofJson? reason.toJson = some reason :=
  ofName?_name reason

@[simp] theorem Eligibility.ofJson?_toJson (state : Eligibility) : ofJson? state.toJson = some state :=
  ofName?_name state

@[simp] theorem ProfileStatus.ofJson?_toJson (status : ProfileStatus) : ofJson? status.toJson = some status :=
  ofName?_name status

@[simp] theorem ProfileKey.ofJson?_toJson (key : ProfileKey) : ofJson? key.toJson = some key := rfl

@[simp] theorem Owner.ofJson?_toJson (owner : Owner) : ofJson? owner.toJson = some owner := by
  unfold ofJson? toJson
  rw [Json.fields?_object (by rfl) (by decide)]
  simp [required_cons]

@[simp] theorem FixedIp.ofJson?_toJson (fixed : FixedIp) : ofJson? fixed.toJson = some fixed := by
  unfold ofJson? toJson
  rw [Json.fields?_object (by rfl) (by decide)]
  simp [required_cons, optional_cons]

@[simp] theorem Proxy.ofJson?_toJson (origin : Json.Origin) (proxy : Proxy) :
    ofJson? origin proxy.toJson = some proxy := by
  cases proxy with
  | unassigned => rfl
  | direct => rfl
  | server host port exclusions =>
      change (Json.contentFields? origin ["host", "port", "exclusions"] _).bind _ = _
      rw [Json.contentFields?_object (by rfl) (by decide)]
      simp [required_cons]
  | script url =>
      change (Json.contentFields? origin ["url"] _).bind _ = _
      rw [Json.contentFields?_object (by rfl) (by decide)]
      simp [required_cons]

@[simp] theorem IpSettings.ofJson?_toJson (origin : Json.Origin) (ip : IpSettings) :
    ofJson? origin ip.toJson = some ip := by
  have fixed := Json.nullable?_ofOption FixedIp.ofJson?_toJson nofun ip.fixed
  unfold ofJson? toJson
  rw [Json.fields?_object (by rfl) (by decide)]
  simp [required_cons, optional_cons, fixed]

@[simp] theorem Enterprise.ofJson?_toJson (enterprise : Enterprise) : ofJson? enterprise.toJson = some enterprise := by
  unfold ofJson? toJson
  rw [Json.fields?_object (by rfl) (by decide)]
  simp [required_cons, optional_cons]

@[simp] theorem Address.ofJson?_toJson (address : Address) : ofJson? address.toJson = some address := by
  rw [ofJson?, toJson, Json.text?_text, Option.bind_some, ofText?_text]

@[simp] theorem StationAddress.ofJson?_toJson (station : StationAddress) : ofJson? station.toJson = some station := by
  unfold ofJson? toJson
  rw [Json.fields?_object (by rfl) (by decide)]
  simp [required_cons]

@[simp] theorem ConnectChoice.ofJson?_toJson (choice : ConnectChoice) : ofJson? choice.toJson = some choice := by
  unfold ofJson? toJson
  rw [Json.fields?_object (by rfl) (by decide)]
  simp [required_cons]

@[simp] theorem ConnectionStats.ofJson?_toJson (stats : ConnectionStats) : ofJson? stats.toJson = some stats := by
  have uid := Json.nullable?_ofOption Json.uint32?_ofUInt32 nofun stats.lastConnectUid
  unfold ofJson? toJson
  rw [Json.fields?_object (by rfl) (by decide)]
  simp [required_cons, optional_cons, uid]

@[simp] theorem SelectionStatus.ofJson?_toJson (status : SelectionStatus) :
    ofJson? status.toJson = some status.persisted := by
  have counters := Json.vectorOf?_toList Json.uint32?_ofUInt32 status.counters
  have disabledAt := Json.nullable?_ofOption Json.int64?_ofInt64 nofun status.disabledAt
  have choice := Json.nullable?_ofOption ConnectChoice.ofJson?_toJson nofun status.connectChoice
  unfold ofJson? toJson toMembers
  rw [Json.fields?_object (by rfl) (by decide)]
  simp [required_cons, optional_cons, counters, disabledAt, choice, persisted, clearCandidate]

@[simp] theorem WepKeys.ofJson?_toJson (keys : WepKeys) : ofJson? keys.toJson = some keys :=
  Json.vectorOf?_toList Json.nullable?_text keys

namespace Profile

theorem ofFields?_toMembers (profile : Profile) : ofFields? .text profile.toMembers = some profile.persisted := by
  have enterprise := Json.nullable?_ofOption Enterprise.ofJson?_toJson nofun profile.enterprise
  have linked := Json.setOf?_toList ProfileKey.ofJson?_toJson profile.linked
  unfold ofFields? toMembers
  simp [required_cons, optional_cons, enterprise, linked, persisted]

theorem ofJson?_toJson (profile : Profile) : ofJson? .text profile.toJson = some profile.persisted := by
  have fields : profile.toJson.fields? fieldNames = some profile.toMembers := Json.fields?_object rfl (by decide)
  rw [ofJson?, fields, Option.bind_some, ofFields?_toMembers]

/-- A stored record reads back as the profile, without what does not outlive the run. -/
theorem ofRecord?_toRecord (profile : Profile) : ofRecord? profile.toRecord = some profile.persisted := by
  rw [ofRecord?, toRecord, Json.parse?_render, Option.bind_some, ofJson?_toJson]

/-- What does not outlive the run leaves no trace in the record. -/
theorem toRecord_persisted (profile : Profile) : profile.persisted.toRecord = profile.toRecord := by
  have same : profile.persisted.toJson = profile.toJson := rfl
  rw [toRecord, same, toRecord]

/-- Whatever the profile, its record reads back as the profile with the defaults for the id, the recent failure and the
candidate of the last round, and that is written as the same record again. -/
theorem record_roundTrip (profile : Profile) :
    ∃ read, ofRecord? profile.toRecord = some read ∧
      read =
        { profile with
          id := .unset
          recentFailure := none
          selection := { profile.selection with candidate := none, seenInLastRound := false } } ∧
      read.toRecord = profile.toRecord :=
  ⟨profile.persisted, ofRecord?_toRecord profile, rfl, toRecord_persisted profile⟩

end Profile

end SavedNetworks
