import SavedNetworks.Profile.Draft

/-!
What an update does to a profile. A secret that the draft leaves out, or gives as the mask, stays, and every other one is
taken as it is given; so a draft that echoes a masked copy changes no credential (`Profile.sameCredentials_of_echoes`).
-/

namespace SavedNetworks

/-- A secret after an update: the one that is given, or as before where none or only the mask is. -/
structure Secret.Merges (stored given merged : Option String) : Prop where
  kept : given = none ∨ given = some mask → merged = stored
  taken : ∀ secret, given = some secret → secret ≠ mask → merged = some secret

namespace Secret

theorem merges_update (stored given : Option String) : Merges stored given (update stored given) where
  kept nothing := by
    rcases nothing with rfl | rfl
    · rfl
    · exact update_mask stored
  taken secret supplied plain := by
    rw [supplied]
    exact update_of_ne_mask stored plain

theorem merges_none (stored : Option String) : Merges stored none stored := merges_update stored none

/-- The owner of a secret may send back what is shown in its place. -/
theorem update_hide (stored : Option String) : update stored (hide stored) = stored := by
  cases stored with
  | none => rfl
  | some secret =>
      by_cases empty : secret = ""
      · rw [empty]
        decide
      · have hidden : hide (some secret) = some mask := by
          rw [hide, if_neg fun shown => empty (String.isEmpty_iff.1 shown)]
        rw [hidden]
        exact update_mask _

end Secret

theorem Enterprise.update_hideSecrets (stored : Enterprise) : stored.update stored.hideSecrets = stored := by
  unfold update
  congr 1
  · exact Secret.update_hide stored.password
  · simp [hideSecrets]
  · simp [hideSecrets]

namespace WepKeys

theorem get_update (stored given : WepKeys) (slot : Fin 4) :
    (stored.update given).get slot = Secret.update (stored.get slot) (given.get slot) :=
  Vector.getElem_zipWith slot.isLt

theorem update_hide (stored : WepKeys) : stored.update (stored.map Secret.hide) = stored := by
  refine Vector.ext fun slot bound => ?_
  simp [update, Secret.update_hide]

end WepKeys

/-- The credentials of a draft are those of a copy, as far as it gives any. -/
structure Draft.Echoes (draft : Draft) (copy : Profile) : Prop where
  security : draft.security = none ∨ draft.security = some copy.security
  preSharedKey : draft.preSharedKey = none ∨ draft.preSharedKey = copy.preSharedKey
  wepKeys : draft.wepKeys = none ∨
    draft.wepKeys = some copy.wepKeys ∧ draft.wepTransmitIndex = copy.wepTransmitIndex
  enterprise : draft.enterprise = none ∨ draft.enterprise = copy.enterprise

namespace Profile

variable {profile before after : Profile} {draft : Draft}

/-- What is kept about a profile, and no update has a say in. -/
structure KeepsRecords (before after : Profile) : Prop where
  id : after.id = before.id
  creator : after.creator = before.creator
  createdAt : after.createdAt = before.createdAt
  ephemeral : after.ephemeral = before.ephemeral
  shared : after.shared = before.shared
  trusted : after.trusted = before.trusted
  fromSuggestion : after.fromSuggestion = before.fromSuggestion
  fromSpecifier : after.fromSpecifier = before.fromSpecifier
  passpoint : after.passpoint = before.passpoint
  stats : after.stats = before.stats
  defaultGateway : after.defaultGateway = before.defaultGateway
  autojoin : after.autojoin = before.autojoin
  noInternetExpected : after.noInternetExpected = before.noInternetExpected
  recentFailure : after.recentFailure = before.recentFailure
  station : after.station = before.station
  linked : after.linked = before.linked

/-- The secrets of a profile after an update. -/
structure MergesSecrets (before : Profile) (draft : Draft) (after : Profile) : Prop where
  preSharedKey : Secret.Merges before.preSharedKey draft.preSharedKey after.preSharedKey
  wepKeys : ∀ slot : Fin 4,
    Secret.Merges (before.wepKeys.get slot) (draft.wepKeys.bind (·.get slot)) (after.wepKeys.get slot)
  password : Secret.Merges (before.enterprise.bind Enterprise.password) (draft.enterprise.bind Enterprise.password)
    (after.enterprise.bind Enterprise.password)

/-- All that a connection is authenticated with is the same. -/
structure SameCredentials (before after : Profile) : Prop where
  security : after.security = before.security
  preSharedKey : after.preSharedKey = before.preSharedKey
  wepKeys : after.wepKeys = before.wepKeys
  wepTransmitIndex : after.wepTransmitIndex = before.wepTransmitIndex
  enterprise : after.enterprise = before.enterprise

theorem credentialsDiffer_eq_true_iff : before.credentialsDiffer after = true ↔ ¬ before.SameCredentials after := by
  rw [← Bool.not_eq_false]
  refine not_congr ?_
  simp only [credentialsDiffer, Bool.or_eq_false_iff, bne_eq_false_iff_eq]
  constructor
  · rintro ⟨⟨⟨⟨security, preSharedKey⟩, wepKeys⟩, wepTransmitIndex⟩, enterprise⟩
    exact ⟨security.symm, preSharedKey.symm, wepKeys.symm, wepTransmitIndex.symm, enterprise.symm⟩
  · rintro ⟨security, preSharedKey, wepKeys, wepTransmitIndex, enterprise⟩
    exact ⟨⟨⟨⟨security.symm, preSharedKey.symm⟩, wepKeys.symm⟩, wepTransmitIndex.symm⟩, enterprise.symm⟩

theorem mergesSecrets_update (profile : Profile) (draft : Draft) : profile.MergesSecrets draft (profile.update draft) where
  preSharedKey := Secret.merges_update ..
  wepKeys slot := by
    unfold update
    cases draft.wepKeys with
    | none => exact Secret.merges_none _
    | some given =>
        simp only [Option.bind_some, WepKeys.get_update]
        exact Secret.merges_update ..
  password := by
    unfold update
    cases draft.enterprise with
    | none => exact Secret.merges_none _
    | some given =>
        have stored : (profile.enterprise.getD (.ofMethod given.method)).password =
            profile.enterprise.bind Enterprise.password := by
          cases profile.enterprise <;> rfl
        simp only [Option.bind_some, ← stored]
        exact Secret.merges_update ..

/-- A draft that sends back what a masked copy shows changes no credential. -/
theorem sameCredentials_of_echoes (echoes : draft.Echoes profile.hideSecrets) :
    profile.SameCredentials (profile.update draft) where
  security := by
    unfold update
    rcases echoes.security with absent | same
    · rw [absent]; rfl
    · rw [same]; rfl
  preSharedKey := by
    unfold update
    rcases echoes.preSharedKey with absent | same
    · rw [absent]; rfl
    · rw [same]
      exact Secret.update_hide profile.preSharedKey
  wepKeys := by
    unfold update
    rcases echoes.wepKeys with absent | ⟨same, _⟩
    · rw [absent]
    · rw [same]
      exact WepKeys.update_hide profile.wepKeys
  wepTransmitIndex := by
    unfold update
    rcases echoes.wepKeys with absent | ⟨_, same⟩
    · rw [absent]; rfl
    · rw [same]
      exact ite_self _
  enterprise := by
    unfold update
    rcases echoes.enterprise with absent | same
    · rw [absent]
    · rw [same]
      unfold hideSecrets
      cases profile.enterprise with
      | none => rfl
      | some stored => exact congrArg some stored.update_hideSecrets

end Profile

end SavedNetworks
