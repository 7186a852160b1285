import SavedNetworks.Profile.Record
import SavedNetworks.Proofs.Profile.Merging

/-!
What an update does to the fields that a document leaves out. Those that a draft may leave open stay; the others are filled
in with a default, and so stay only where that is what the profile has (`Profile.keepsOmitted_update_iff`).
-/

namespace SavedNetworks

namespace Json

variable {α : Type}

/-- No member of the document has the name. -/
def Omits (document : Json) (name : String) : Prop := document.member? name = none

theorem mem_of_knownMembers {names : List String} {members : List (Option String × Json)} {fields : Fields}
    (known : knownMembers names members = some fields) {entry : String × Json} (present : entry ∈ fields) :
    (some entry.1, entry.2) ∈ members := by
  induction members generalizing fields with
  | nil =>
      obtain rfl := Option.some.inj known
      cases present
  | cons member rest ih =>
      obtain ⟨name | name, value⟩ := member
      · cases known
      · obtain ⟨others, read, chosen⟩ := Option.bind_eq_some_iff.1 known
        split at chosen
        · obtain rfl := Option.some.inj chosen
          exact List.mem_cons_of_mem _ (ih read present)
        · split at chosen
          · cases chosen
          · obtain rfl := Option.some.inj chosen
            rcases List.mem_cons.1 present with rfl | later
            · exact List.mem_cons_self
            · exact List.mem_cons_of_mem _ (ih read later)

/-- What the document omits is no field either. -/
theorem Omits.lookup_eq_none {names : List String} {members : List (Option String × Json)} {fields : Fields} {name : String}
    (omitted : (record members).Omits name) (known : knownMembers names members = some fields) :
    fields.lookup name = none := by
  rw [List.lookup_eq_none_iff]
  intro entry present
  have absent : ¬ (some entry.1 == some name) = true :=
    List.find?_eq_none.1 (Option.map_eq_none_iff.1 omitted) _ (List.mem_reverse.2 (mem_of_knownMembers known present))
  rw [bne_iff_ne]
  rintro rfl
  exact absent (beq_self_eq_true _)

namespace Fields

variable {fields : Fields} {name : String} {read : Json → Option α}

theorem optional_of_lookup (absent : fields.lookup name = none) : fields.optional name read = some none := by
  rw [optional, absent]

theorem orDefault_of_lookup (absent : fields.lookup name = none) (default : α) :
    fields.orDefault name read default = some default := by
  rw [orDefault, absent]

end Fields

end Json

/-- What the document omits is in the draft as it is in the empty one. -/
structure Draft.EmptyWhereOmitted (draft : Draft) (document : Json) : Prop where
  ssid : document.Omits "ssid" → draft.ssid = none
  bssid : document.Omits "bssid" → draft.bssid = none
  security : document.Omits "security" → draft.security = none
  preSharedKey : document.Omits "pre_shared_key" → draft.preSharedKey = none
  wepKeys : document.Omits "wep_keys" → draft.wepKeys = none
  wepTransmitIndex : document.Omits "wep_tx_key_index" → draft.wepTransmitIndex = empty.wepTransmitIndex
  enterprise : document.Omits "enterprise" → draft.enterprise = none
  hidden : document.Omits "hidden" → draft.hidden = empty.hidden
  requirePmf : document.Omits "require_pmf" → draft.requirePmf = empty.requirePmf
  fqdn : document.Omits "fqdn" → draft.fqdn = none
  providerName : document.Omits "provider_friendly_name" → draft.providerName = none
  ip : document.Omits "ip" → draft.ip = empty.ip
  meteredHint : document.Omits "metered_hint" → draft.meteredHint = empty.meteredHint
  meteredOverride : document.Omits "metered_override" → draft.meteredOverride = empty.meteredOverride
  addressChoice : document.Omits "randomization" → draft.addressChoice = empty.addressChoice

theorem Draft.emptyWhereOmitted {origin : Json.Origin} {members : List (Option String × Json)} {draft : Draft}
    (read : ofJson? origin (.record members) = some draft) : draft.EmptyWhereOmitted (.record members) := by
  -- Outermost first: inside a bind nothing can be read off yet, and rewriting there is slow.
  dsimp only [ofJson?, Option.bind_eq_bind] at read
  simp only [↓Option.bind_eq_some_iff, Option.some.injEq] at read
  obtain ⟨fields, known, id, idRead, ssid, ssidRead, bssid, bssidRead, security, securityRead, preSharedKey, preSharedKeyRead,
    wepKeys, wepKeysRead, index, indexRead, enterprise, enterpriseRead, hidden, hiddenRead, requirePmf, requirePmfRead,
    fqdn, fqdnRead, providerName, providerNameRead, ip, ipRead, meteredHint, meteredHintRead, meteredOverride,
    meteredOverrideRead, addressChoice, addressChoiceRead, _, _, _, _, _, _, _, _, _, _, _, _, _, _, rfl⟩ := read
  have unsaid {α : Type} {name : String} {read : Json → Option α} {value : Option α}
      (given : fields.optional name read = some value) (omitted : (Json.record members).Omits name) : value = none :=
    Option.some.inj (given.symm.trans (Json.Fields.optional_of_lookup (omitted.lookup_eq_none known)))
  have filled {α : Type} {name : String} {read : Json → Option α} {default value : α}
      (given : fields.orDefault name read default = some value) (omitted : (Json.record members).Omits name) :
      value = default :=
    Option.some.inj (given.symm.trans (Json.Fields.orDefault_of_lookup (omitted.lookup_eq_none known) default))
  exact
    { ssid := unsaid ssidRead
      bssid := unsaid bssidRead
      security := unsaid securityRead
      preSharedKey := unsaid preSharedKeyRead
      wepKeys := unsaid wepKeysRead
      wepTransmitIndex := filled indexRead
      enterprise := unsaid enterpriseRead
      hidden := filled hiddenRead
      requirePmf := filled requirePmfRead
      fqdn := unsaid fqdnRead
      providerName := unsaid providerNameRead
      ip := filled ipRead
      meteredHint := filled meteredHintRead
      meteredOverride := filled meteredOverrideRead
      addressChoice := filled addressChoiceRead }

namespace Profile

variable {before : Profile} {document : Json} {draft : Draft}

/-- The fields that a draft may leave open stay where the document omits them, and those that it has no say in in any
case. -/
structure KeepsOpen (document : Json) (before after : Profile) : Prop extends KeepsRecords before after where
  ssid : document.Omits "ssid" → after.ssid = before.ssid
  bssid : document.Omits "bssid" → after.bssid = before.bssid
  security : document.Omits "security" → after.security = before.security
  preSharedKey : document.Omits "pre_shared_key" → after.preSharedKey = before.preSharedKey
  wepKeys : document.Omits "wep_keys" → after.wepKeys = before.wepKeys
  enterprise : document.Omits "enterprise" → after.enterprise = before.enterprise
  fqdn : document.Omits "fqdn" → after.fqdn = before.fqdn
  providerName : document.Omits "provider_friendly_name" → after.providerName = before.providerName
  ip : document.Omits "ip" → after.ip = before.ip

/-- Every field stays that a document may give and omits. -/
structure KeepsOmitted (document : Json) (before after : Profile) : Prop extends KeepsOpen document before after where
  wepTransmitIndex : document.Omits "wep_tx_key_index" → after.wepTransmitIndex = before.wepTransmitIndex
  hidden : document.Omits "hidden" → after.hidden = before.hidden
  requirePmf : document.Omits "require_pmf" → after.requirePmf = before.requirePmf
  meteredHint : document.Omits "metered_hint" → after.meteredHint = before.meteredHint
  meteredOverride : document.Omits "metered_override" → after.meteredOverride = before.meteredOverride
  addressChoice : document.Omits "randomization" → after.addressChoice = before.addressChoice

/-- The defaults that are filled in for what a document omits are what the profile has; that of the transmit index
counts only with a key that is no mask. -/
structure HasDefaults (document : Json) (draft : Draft) (before : Profile) : Prop where
  wepTransmitIndex : document.Omits "wep_tx_key_index" → draft.wepKeys.any WepKeys.anyPlain = true →
    before.wepTransmitIndex = Draft.empty.wepTransmitIndex
  hidden : document.Omits "hidden" → before.hidden = Draft.empty.hidden
  requirePmf : document.Omits "require_pmf" → before.requirePmf = Draft.empty.requirePmf
  meteredHint : document.Omits "metered_hint" → before.meteredHint = Draft.empty.meteredHint
  meteredOverride : document.Omits "metered_override" → before.meteredOverride = Draft.empty.meteredOverride
  addressChoice : document.Omits "randomization" → before.addressChoice = Draft.empty.addressChoice

variable (lastUpdater : Owner) (updatedAt : String) (status : ProfileStatus) (selection : SelectionStatus)

theorem keepsOpen_update (empty : draft.EmptyWhereOmitted document) (before : Profile) :
    before.KeepsOpen document { before.update draft with lastUpdater, updatedAt, status, selection } := by
  unfold update
  exact
    { toKeepsRecords := by constructor <;> rfl
      ssid := fun omitted => by rw [empty.ssid omitted]; rfl
      bssid := fun omitted => by rw [empty.bssid omitted]; rfl
      security := fun omitted => by rw [empty.security omitted]; rfl
      preSharedKey := fun omitted => by rw [empty.preSharedKey omitted]; rfl
      wepKeys := fun omitted => by rw [empty.wepKeys omitted]
      enterprise := fun omitted => by rw [empty.enterprise omitted]
      fqdn := fun omitted => by rw [empty.fqdn omitted]; rfl
      providerName := fun omitted => by rw [empty.providerName omitted]; rfl
      ip := fun omitted => by rw [empty.ip omitted]; rfl }

/-- An update keeps all that the document omits just if the defaults are what the profile has. -/
theorem keepsOmitted_update_iff (empty : draft.EmptyWhereOmitted document) :
    before.KeepsOmitted document { before.update draft with lastUpdater, updatedAt, status, selection } ↔
      before.HasDefaults document draft := by
  have index (omitted : document.Omits "wep_tx_key_index") : (before.update draft).wepTransmitIndex =
      if draft.wepKeys.any WepKeys.anyPlain then Draft.empty.wepTransmitIndex else before.wepTransmitIndex := by
    unfold update
    rw [empty.wepTransmitIndex omitted]
  constructor
  · intro keeps
    refine
      { wepTransmitIndex := fun omitted plain => ?_
        hidden := fun omitted => (keeps.hidden omitted).symm.trans (empty.hidden omitted)
        requirePmf := fun omitted => (keeps.requirePmf omitted).symm.trans (empty.requirePmf omitted)
        meteredHint := fun omitted => (keeps.meteredHint omitted).symm.trans (empty.meteredHint omitted)
        meteredOverride := fun omitted => (keeps.meteredOverride omitted).symm.trans (empty.meteredOverride omitted)
        addressChoice := fun omitted => (keeps.addressChoice omitted).symm.trans (empty.addressChoice omitted) }
    exact (keeps.wepTransmitIndex omitted).symm.trans ((index omitted).trans (if_pos plain))
  · intro defaults
    refine
      { toKeepsOpen := keepsOpen_update lastUpdater updatedAt status selection empty before
        wepTransmitIndex := fun omitted => ?_
        hidden := fun omitted => (empty.hidden omitted).trans (defaults.hidden omitted).symm
        requirePmf := fun omitted => (empty.requirePmf omitted).trans (defaults.requirePmf omitted).symm
        meteredHint := fun omitted => (empty.meteredHint omitted).trans (defaults.meteredHint omitted).symm
        meteredOverride := fun omitted => (empty.meteredOverride omitted).trans (defaults.meteredOverride omitted).symm
        addressChoice := fun omitted => (empty.addressChoice omitted).trans (defaults.addressChoice omitted).symm }
    refine (index omitted).trans ?_
    split
    · next plain => exact (defaults.wepTransmitIndex omitted plain).symm
    · rfl

end Profile

end SavedNetworks
