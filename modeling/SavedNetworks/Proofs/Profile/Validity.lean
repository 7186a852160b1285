import SavedNetworks.Profile.Validation

/-!
What the checks of a draft come to for the profile that it describes. A draft that passes them leaves a legal profile
legal. Whether the credentials still go with the security is checked for a new profile only: of a change nothing but the
draft is looked at, and what becomes of the profile depends on both (`Profile.goesTogether_update_iff`).
-/

namespace SavedNetworks

namespace Secret

theorem update_ne_mask {stored : Option String} (plain : stored ≠ some mask) (given : Option String) :
    update stored given ≠ some mask := by
  unfold update
  split
  · split
    · exact plain
    · next different => exact fun same => different (Option.some.inj same)
  · exact plain

/-- There is a secret if there was one, or one was given. -/
theorem isSome_update {stored given : Option String} : (update stored given).isSome = true ↔
    stored.isSome = true ∨ ∃ secret, given = some secret ∧ secret ≠ mask := by
  cases given with
  | none => simp
  | some secret =>
      by_cases masked : secret = mask
      · simp [masked]
      · simp [update_of_ne_mask stored masked, masked]

end Secret

namespace Draft

variable {draft : Draft} {use : DraftUse}

/-- What the checks make sure of. -/
structure Valid (draft : Draft) (use : DraftUse) : Prop where
  ssid : ∀ ssid, draft.ssid = some ssid → 0 < ssid.utf8ByteSize ∧ ssid.utf8ByteSize ≤ 32
  preSharedKey : ∀ secret, draft.preSharedKey = some secret → secret ≠ Secret.mask → Secret.isPreSharedKey secret = true
  transmit : draft.wepKeys.isSome = true → draft.wepTransmitIndex < 4
  unexpected : ∀ security, draft.security = some security → draft.enterprise.isSome = true → security = .eap
  fixed : draft.ip.assignment = .fixed → draft.ip.fixed.isSome = true
  keyed : use = .add → draft.security = some .psk ∨ draft.security = some .sae →
    ∃ secret, draft.preSharedKey = some secret ∧ secret ≠ Secret.mask
  enterprise : use = .add → draft.security = some .eap → draft.enterprise.isSome = true

theorem both_ok {first : Except ValidationError Unit} {rest : Unit → Except ValidationError Unit}
    (passed : (first >>= rest) = .ok ()) : first = .ok () ∧ rest () = .ok () := by
  cases first with
  | error failure => cases passed
  | ok done => exact ⟨rfl, passed⟩

theorem keyed_of_named (draft : Draft) {security : Security} (named : draft.security = some security)
    (asked : security = .psk ∨ security = .sae) : draft.security = some .psk ∨ draft.security = some .sae := by
  rw [named]
  exact asked.imp (congrArg some) (congrArg some)

theorem ssid_of_checked (passed : draft.checkSsid use = .ok ()) {ssid : String} (given : draft.ssid = some ssid) :
    0 < ssid.utf8ByteSize ∧ ssid.utf8ByteSize ≤ 32 := by
  unfold checkSsid at passed
  simp only [given] at passed
  split at passed
  · cases passed
  · omega

theorem acceptable_of_checked (passed : draft.checkPreSharedKey use = .ok ()) {secret : String}
    (given : draft.preSharedKey = some secret) : Secret.isAcceptable Secret.isPreSharedKey use secret = true := by
  unfold checkPreSharedKey at passed
  simp only [given] at passed
  split at passed
  · next acceptable => exact acceptable
  · cases passed

theorem given_of_checked (passed : draft.checkPreSharedKey .add = .ok ())
    (keyed : draft.security = some .psk ∨ draft.security = some .sae) :
    ∃ secret, draft.preSharedKey = some secret ∧ secret ≠ Secret.mask := by
  cases given : draft.preSharedKey with
  | none =>
      unfold checkPreSharedKey at passed
      simp only [given, true_and, if_pos keyed] at passed
      cases passed
  | some secret =>
      refine ⟨secret, rfl, ?_⟩
      rintro rfl
      have acceptable := acceptable_of_checked passed given
      simp [Secret.isAcceptable] at acceptable

theorem transmit_of_checked (passed : draft.checkWepKeys use = .ok ()) (given : draft.wepKeys.isSome = true) :
    draft.wepTransmitIndex < 4 := by
  obtain ⟨keys, present⟩ := Option.isSome_iff_exists.1 given
  unfold checkWepKeys at passed
  simp only [present] at passed
  split at passed
  · cases passed
  · split at passed
    · cases passed
    · next below => exact UInt8.not_le.1 below

theorem security_of_checked (passed : draft.checkEnterprise use = .ok ()) {security : Security}
    (named : draft.security = some security) (given : draft.enterprise.isSome = true) : security = .eap := by
  obtain ⟨enterprise, present⟩ := Option.isSome_iff_exists.1 given
  unfold checkEnterprise at passed
  simp only [named, present] at passed
  split at passed
  · next same => exact same
  · cases passed

theorem enterprise_of_checked (passed : draft.checkEnterprise .add = .ok ()) (named : draft.security = some .eap) :
    draft.enterprise.isSome = true := by
  cases present : draft.enterprise with
  | some enterprise => rfl
  | none =>
      unfold checkEnterprise at passed
      simp only [named, present] at passed
      cases passed

theorem fixed_of_checked (passed : draft.checkIp = .ok ()) (assigned : draft.ip.assignment = .fixed) :
    draft.ip.fixed.isSome = true := by
  unfold checkIp at passed
  split at passed
  · cases passed
  · next settled => exact Option.isSome_iff_ne_none.2 fun missing => settled ⟨assigned, missing⟩

theorem valid_of_validate (passed : draft.validate use = .ok ()) : draft.Valid use := by
  obtain ⟨ssid, passed⟩ := both_ok passed
  obtain ⟨_, passed⟩ := both_ok passed
  obtain ⟨_, passed⟩ := both_ok passed
  obtain ⟨key, passed⟩ := both_ok passed
  obtain ⟨wep, passed⟩ := both_ok passed
  obtain ⟨enterprise, passed⟩ := both_ok passed
  obtain ⟨ip, _⟩ := both_ok passed
  refine ⟨fun _ => ssid_of_checked ssid, fun secret given plain => ?_, transmit_of_checked wep,
    fun _ => security_of_checked enterprise, fixed_of_checked ip, ?_, ?_⟩
  · have acceptable := acceptable_of_checked key given
    rwa [Secret.isAcceptable, if_neg plain] at acceptable
  · rintro rfl
    exact given_of_checked key
  · rintro rfl
    exact enterprise_of_checked enterprise

end Draft

namespace Profile

variable {profile : Profile} {draft : Draft} {use : DraftUse} {ssid : String} {security : Security}

/-- What every accepted draft leaves as it is. -/
structure Legal (profile : Profile) : Prop where
  ssid : 0 < profile.ssid.utf8ByteSize ∧ profile.ssid.utf8ByteSize ≤ 32
  preSharedKey : ∀ secret, profile.preSharedKey = some secret → Secret.isPreSharedKey secret = true
  transmit : profile.wepTransmitIndex < 4
  assigned : profile.ip.assignment ≠ .unassigned
  fixed : profile.ip.assignment = .fixed → profile.ip.fixed.isSome = true
  proxied : profile.ip.proxy ≠ .unassigned
  keyShown : profile.preSharedKey ≠ some Secret.mask
  wepKeysShown : ∀ key ∈ profile.wepKeys.toList, key ≠ some Secret.mask
  passwordShown : ∀ enterprise, profile.enterprise = some enterprise → enterprise.password ≠ some Secret.mask

/-- The credentials are those that the security calls for. -/
structure GoesTogether (profile : Profile) : Prop where
  keyed : profile.security = .psk ∨ profile.security = .sae → profile.preSharedKey.isSome = true
  enterprise : profile.security = .eap ↔ profile.enterprise.isSome = true

theorem legal_blank (named : 0 < ssid.utf8ByteSize ∧ ssid.utf8ByteSize ≤ 32) (security : Security) :
    (blank ssid security).Legal where
  ssid := named
  preSharedKey := nofun
  transmit := (by decide : (0 : UInt8) < 4)
  assigned := nofun
  fixed := nofun
  proxied := nofun
  keyShown := nofun
  wepKeysShown := (by decide : ∀ key ∈ WepKeys.none.toList, key ≠ some Secret.mask)
  passwordShown := nofun

theorem Legal.update (legal : profile.Legal) (valid : draft.Valid use) : (profile.update draft).Legal where
  ssid := by
    cases given : draft.ssid with
    | none => simpa [Profile.update, given] using legal.ssid
    | some ssid => simpa [Profile.update, given] using valid.ssid ssid given
  preSharedKey secret stored := by
    cases given : draft.preSharedKey with
    | none =>
        rw [Profile.update, given] at stored
        exact legal.preSharedKey secret stored
    | some supplied =>
        by_cases masked : supplied = Secret.mask
        · rw [Profile.update, given, masked, Secret.update_mask] at stored
          exact legal.preSharedKey secret stored
        · simp only [Profile.update, given, Secret.update_of_ne_mask _ masked] at stored
          exact Option.some.inj stored ▸ valid.preSharedKey supplied given masked
  transmit := by
    unfold Profile.update
    simp only
    split
    · next plain => exact valid.transmit (Option.isSome_of_any plain)
    · exact legal.transmit
  assigned := by
    simp only [Profile.update, IpSettings.update]
    split
    · exact legal.assigned
    · next assigned => exact assigned
  fixed := by
    simp only [Profile.update, IpSettings.update]
    split
    · next left =>
        rw [left, if_neg nofun]
        exact legal.fixed
    · intro fixed
      rw [if_pos fixed]
      exact valid.fixed fixed
  proxied := by
    simp only [Profile.update, IpSettings.update]
    split
    · exact legal.proxied
    · next proxied => exact proxied
  keyShown := Secret.update_ne_mask legal.keyShown draft.preSharedKey
  wepKeysShown := by
    unfold Profile.update
    simp only
    split
    · next given _ =>
        intro key among
        obtain ⟨place, below, rfl⟩ := Vector.mem_iff_getElem.1 (Vector.mem_toList_iff.1 among)
        rw [WepKeys.update, Vector.getElem_zipWith]
        exact Secret.update_ne_mask (legal.wepKeysShown _ (Vector.mem_toList_iff.2 (Vector.getElem_mem _))) _
    · exact legal.wepKeysShown
  passwordShown enterprise stored := by
    unfold Profile.update at stored
    simp only at stored
    split at stored
    · next given _ =>
        obtain rfl := Option.some.inj stored
        refine Secret.update_ne_mask ?_ given.password
        cases earlier : profile.enterprise with
        | none => exact nofun
        | some enterprise => exact legal.passwordShown enterprise earlier
    · exact legal.passwordShown enterprise stored

/-- A new profile is legal. -/
theorem legal_ofDraft (valid : draft.Valid use) (named : draft.ssid = some ssid) (security : Security) (caller : Owner)
    (stamp : String) : (ofDraft draft ssid security caller stamp).Legal :=
  { (legal_blank (valid.ssid ssid named) security).update valid with }

end Profile

/-- What a change of a profile has to meet, beside the checks, for its credentials to go with its security afterwards. -/
structure Draft.Suits (draft : Draft) (stored : Profile) : Prop where
  /-- A security that needs a key finds one, or is given one. -/
  keyed : draft.security = some .psk ∨ draft.security = some .sae →
    stored.preSharedKey.isSome = true ∨ ∃ secret, draft.preSharedKey = some secret ∧ secret ≠ Secret.mask
  /-- A profile becomes an enterprise one together with the configuration. -/
  enters : draft.security = some .eap → stored.security = .eap ∨ draft.enterprise.isSome = true
  /-- The configuration cannot be taken out, so that the profile stays an enterprise one. -/
  leaves : ∀ security, draft.security = some security → stored.security = .eap → security = .eap
  /-- Without a security, a configuration is given to enterprise profiles alone. -/
  keeps : draft.security = none → draft.enterprise.isSome = true → stored.security = .eap

namespace Profile

variable {profile : Profile} {draft : Draft} {use : DraftUse} {ssid : String} {security : Security}

theorem isSome_enterprise_update (profile : Profile) (draft : Draft) : (profile.update draft).enterprise.isSome = true ↔
    draft.enterprise.isSome = true ∨ profile.enterprise.isSome = true := by
  unfold update
  cases draft.enterprise <;> simp

theorem security_update (profile : Profile) (draft : Draft) :
    (profile.update draft).security = draft.security.getD profile.security := rfl

theorem isSome_preSharedKey_update (profile : Profile) (draft : Draft) :
    (profile.update draft).preSharedKey.isSome = true ↔
      profile.preSharedKey.isSome = true ∨ ∃ secret, draft.preSharedKey = some secret ∧ secret ≠ Secret.mask :=
  Secret.isSome_update

/-- A change that passes the checks keeps the credentials together if and only if it suits the profile. -/
theorem goesTogether_update_iff (together : profile.GoesTogether) (valid : draft.Valid use) :
    (profile.update draft).GoesTogether ↔ draft.Suits profile := by
  have enterprise := isSome_enterprise_update profile draft
  have security := security_update profile draft
  constructor
  · intro after
    refine ⟨fun asked => ?_, fun named => ?_, fun changed named was => ?_, fun silent given => ?_⟩
    · refine (isSome_preSharedKey_update profile draft).1 (after.keyed ?_)
      rw [security]
      exact asked.imp (fun named => by rw [named]; rfl) fun named => by rw [named]; rfl
    · have present := enterprise.1 (after.enterprise.1 (by rw [security, named]; rfl))
      exact present.symm.imp_left together.enterprise.2
    · have still := after.enterprise.2 (enterprise.2 (.inr (together.enterprise.1 was)))
      rwa [security, named] at still
    · have still := after.enterprise.2 (enterprise.2 (.inl given))
      rwa [security, silent] at still
  · intro suits
    refine ⟨fun asked => (isSome_preSharedKey_update profile draft).2 ?_, ?_⟩
    · rw [security] at asked
      cases named : draft.security with
      | none =>
          rw [named] at asked
          exact .inl (together.keyed asked)
      | some changed =>
          rw [named] at asked
          exact suits.keyed (draft.keyed_of_named named asked)
    · rw [enterprise, security]
      cases named : draft.security with
      | none =>
          refine ⟨fun same => .inr (together.enterprise.1 same), ?_⟩
          rintro (given | had)
          · exact suits.keeps named given
          · exact together.enterprise.2 had
      | some changed =>
          constructor
          · intro same
            exact (suits.enters (named.trans (congrArg some same))).symm.imp_right together.enterprise.1
          · rintro (given | had)
            · exact valid.unexpected changed named given
            · exact suits.leaves changed named (together.enterprise.2 had)

theorem goesTogether_blank_update (valid : draft.Valid .add) (named : draft.security = some security) :
    ((blank ssid security).update draft).GoesTogether := by
  have becomes : ((blank ssid security).update draft).security = security := by
    rw [security_update, named]
    rfl
  refine ⟨fun asked => (isSome_preSharedKey_update _ draft).2 (.inr (valid.keyed rfl ?_)), ?_⟩
  · rw [becomes] at asked
    exact draft.keyed_of_named named asked
  · rw [becomes, isSome_enterprise_update]
    constructor
    · exact fun same => .inl (valid.enterprise rfl (named.trans (congrArg some same)))
    · rintro (given | had)
      · exact valid.unexpected security named given
      · cases had

/-- A new profile has the credentials that its security calls for. -/
theorem goesTogether_ofDraft (valid : draft.Valid .add) (named : draft.security = some security) (ssid : String)
    (caller : Owner) (stamp : String) : (ofDraft draft ssid security caller stamp).GoesTogether :=
  { goesTogether_blank_update valid named with }

end Profile

end SavedNetworks
