import SavedNetworks.Proofs.Manager.Everywhere
import SavedNetworks.Proofs.Manager.Identity
import SavedNetworks.Proofs.Profile.Validity

/-!
Which profiles are legal, in a run from an empty store: all of them, in memory and in the store. That their credentials
go with their security is kept by additions, but not by changes, of which only the draft is checked
(`Manager.goesTogether_throughout_iff`).
-/

namespace SavedNetworks

namespace Enterprise

theorem password_resetSim (enterprise : Enterprise) : enterprise.resetSim.password = enterprise.password := by
  unfold resetSim
  split <;> rfl

end Enterprise

namespace Profile

theorem isSteady_legal : IsSteady Legal where
  frame profile := by
    refine ⟨fun legal => { legal with passwordShown := fun enterprise stored => ?_ },
      fun legal => { legal with passwordShown := fun reset stored => ?_ }⟩
    · rw [← enterprise.password_resetSim]
      exact legal.passwordShown enterprise.resetSim (congrArg (Option.map Enterprise.resetSim) stored)
    · obtain ⟨enterprise, earlier, rfl⟩ := Option.map_eq_some_iff.1 stored
      rw [enterprise.password_resetSim]
      exact legal.passwordShown enterprise earlier
  number _ _ := ⟨fun legal => { legal with }, fun legal => { legal with }⟩

theorem isSteady_goesTogether : IsSteady GoesTogether where
  frame profile := by
    have same : profile.frame.enterprise.isSome = profile.enterprise.isSome := Option.isSome_map
    constructor
    · intro together
      refine ⟨together.keyed, ?_⟩
      rw [← same]
      exact together.enterprise
    · intro together
      refine ⟨together.keyed, ?_⟩
      rw [same]
      exact together.enterprise
  number _ _ := ⟨fun together => { together with }, fun together => { together with }⟩

end Profile

namespace Manager

variable {manager : Manager} {operation : Operation} {operations : List Operation} {draft : Draft} {caller : Owner}
  {edit : Edit} {replaced : Option ProfileId} {existing : Profile}

theorem validate_of_revised (chosen : manager.edited? draft replaced = some existing)
    (prepared : manager.prepare draft caller replaced = .ok edit) : draft.validate .update = .ok () := by
  unfold prepare revise at prepared
  simp only [chosen] at prepared
  cases passed : draft.validate .update with
  | error failure =>
      rw [passed] at prepared
      cases prepared
  | ok done => rfl

theorem validate_of_created (new : manager.edited? draft replaced = none)
    (prepared : manager.prepare draft caller replaced = .ok edit) : draft.validate .add = .ok () := by
  unfold prepare create at prepared
  simp only [new] at prepared
  cases passed : draft.validate .add with
  | error failure =>
      rw [passed] at prepared
      cases prepared
  | ok done => rfl

theorem valid_of_revised (chosen : manager.edited? draft replaced = some existing)
    (prepared : manager.prepare draft caller replaced = .ok edit) : draft.Valid .update :=
  Draft.valid_of_validate (validate_of_revised chosen prepared)

theorem valid_of_created (new : manager.edited? draft replaced = none)
    (prepared : manager.prepare draft caller replaced = .ok edit) : draft.Valid .add :=
  Draft.valid_of_validate (validate_of_created new prepared)

theorem legal_of_prepared (legal : ∀ profile ∈ manager.roster.all, profile.Legal) (wellFormed : manager.roster.WellFormed)
    (prepared : manager.prepare draft caller replaced = .ok edit) : edit.profile.Legal := by
  obtain ⟨existing, chosen, rfl⟩ | ⟨new, ssid, security, named, _, rfl⟩ := prepare_eq_ok prepared
  · have present := Roster.mem_of_get? (edited?_eq_some wellFormed chosen).1
    exact { (legal existing present).update (valid_of_revised chosen prepared) with }
  · exact Profile.legal_ofDraft (valid_of_created new prepared) named security caller manager.stamp

/-- A change that is accepted suits the profile that it changes. -/
def SuitsStored (manager : Manager) : Operation → Prop
  | .addOrUpdate draft caller => ∀ existing result, manager.edited? draft (manager.replaced? draft) = some existing →
      (manager.addOrUpdate draft caller).2 = .ok result → draft.Suits existing
  | _ => True

section Step

variable (wellFormed : manager.roster.WellFormed)

include wellFormed

theorem goesTogether_of_prepared (together : ∀ profile ∈ manager.roster.all, profile.GoesTogether)
    (suits : ∀ existing, manager.edited? draft replaced = some existing → draft.Suits existing)
    (prepared : manager.prepare draft caller replaced = .ok edit) : edit.profile.GoesTogether := by
  obtain ⟨existing, chosen, rfl⟩ | ⟨new, ssid, security, _, secured, rfl⟩ := prepare_eq_ok prepared
  · have present := Roster.mem_of_get? (edited?_eq_some wellFormed chosen).1
    have kept := (Profile.goesTogether_update_iff (together existing present) (valid_of_revised chosen prepared)).2
      (suits existing chosen)
    exact { kept with }
  · exact Profile.goesTogether_ofDraft (valid_of_created new prepared) secured ssid caller manager.stamp

/-- Additions are of no harm, and changes are if they do not suit. -/
theorem goesTogether_perform_iff (together : manager.books.Everywhere Profile.GoesTogether)
    (ours : operation.isForeign = false) :
    (manager.perform operation).1.books.Everywhere Profile.GoesTogether ↔ manager.SuitsStored operation := by
  constructor
  · intro after
    cases operation with
    | addOrUpdate draft caller =>
        intro existing result chosen accepted
        obtain ⟨edit, profile, prepared, found, looks, _⟩ := addOrUpdate_eq_ok wellFormed accepted
        have present := Roster.mem_of_get? (edited?_eq_some wellFormed chosen).1
        have kept : profile.GoesTogether := after.memory profile (Roster.mem_of_get? found)
        obtain rfl := revision_of_prepared chosen prepared
        rw [Profile.isSteady_goesTogether.of_outline looks, Profile.isSteady_goesTogether.number] at kept
        have changed : (existing.update draft).GoesTogether := { kept with }
        exact (Profile.goesTogether_update_iff (together.memory existing present) (valid_of_revised chosen prepared)).1 changed
    | _ => trivial
  · intro suits
    refine everywhere_perform Profile.isSteady_goesTogether wellFormed together ours ?_
    rintro draft caller edit result rfl prepared accepted
    exact goesTogether_of_prepared wellFormed together.memory (fun existing chosen => suits existing result chosen accepted)
      prepared

end Step

theorem legal_run (wellFormed : manager.roster.WellFormed) (legal : manager.books.Everywhere Profile.Legal)
    (ours : ∀ operation ∈ operations, operation.isForeign = false) :
    (manager.run operations).books.Everywhere Profile.Legal := by
  refine everywhere_run wellFormed legal ours fun manager operation wellFormed legal ours => ?_
  refine everywhere_perform Profile.isSteady_legal wellFormed legal ours ?_
  exact fun _ _ _ _ _ prepared _ => legal_of_prepared legal.memory wellFormed prepared

theorem goesTogether_take_iff (wellFormed : manager.roster.WellFormed)
    (together : manager.books.Everywhere Profile.GoesTogether)
    (ours : ∀ operation ∈ operations, operation.isForeign = false) :
    (∀ count, (manager.run (operations.take count)).books.Everywhere Profile.GoesTogether) ↔
      manager.Along SuitsStored operations :=
  everywhere_take_iff wellFormed together ours fun _ _ => goesTogether_perform_iff

/-- In a run from an empty store, every profile in memory and every record is legal throughout, and the credentials of
each go with its security throughout if and only if every change that is accepted suits the profile that it changes. -/
theorem goesTogether_throughout_iff {store : Store} (empty : store.IsEmpty) (settings : Settings) (platform : Platform)
    (listeners : List Listener) (digest : String → Option (List UInt8)) (random : List UInt8)
    (ours : ∀ operation ∈ operations, operation.isForeign = false) :
    (∀ count, ((start settings platform store listeners digest random).run (operations.take count)).books.Everywhere
      Profile.Legal) ∧
    ((∀ count, ((start settings platform store listeners digest random).run (operations.take count)).books.Everywhere
        Profile.GoesTogether) ↔
      (start settings platform store listeners digest random).Along SuitsStored operations) :=
  ⟨fun _ => legal_run Roster.wellFormed_empty (everywhere_start Profile.Legal empty settings platform listeners digest random)
      fun operation among => ours operation (List.mem_of_mem_take among),
    goesTogether_take_iff Roster.wellFormed_empty
      (everywhere_start Profile.GoesTogether empty settings platform listeners digest random) ours⟩

/-- Another security for a network, with the password that it has. -/
def adoptingSae : Draft := { Draft.empty with id := some ⟨0⟩, security := some .sae, preSharedKey := some Secret.mask }

def strengthening : List Operation :=
  [.load, .addOrUpdate (.psk "Home" "password") ⟨Uid.system, "android"⟩, .addOrUpdate adoptingSae ⟨Uid.system, "android"⟩]

theorem suitsStored_strengthening : onEmptyStore.Along SuitsStored strengthening := by
  have home : ∀ stored ∈ (onEmptyStore.run (strengthening.take 2)).edited? adoptingSae none,
      stored.security = .psk ∧ stored.preSharedKey.isSome = true := by decide
  refine ⟨trivial, fun existing result chosen => ?_, fun existing result chosen _ => ?_, trivial⟩
  · exact absurd (Option.isSome_of_eq_some chosen) (by decide)
  · obtain ⟨psk, keyed⟩ := home existing chosen
    exact ⟨fun _ => .inl keyed, nofun, fun _ _ eap => absurd (psk.symm.trans eap) nofun, nofun⟩

theorem goesTogether_strengthening :
    (∀ count, (onEmptyStore.run (strengthening.take count)).books.Everywhere Profile.GoesTogether) ∧
      ∃ profile ∈ (onEmptyStore.run strengthening).roster.all, profile.security = .sae :=
  ⟨(goesTogether_throughout_iff isEmpty_immediate_empty .default (.start 0 1700000000000) [] (fun _ => none) []
    (by decide)).2.2 suitsStored_strengthening, by decide⟩

/-- A network without a password is said to have one. -/
def claimingPassword : List Operation :=
  [.load, .addOrUpdate (.unsecured "Cafe") ⟨Uid.system, "android"⟩,
    .addOrUpdate { Draft.empty with id := some ⟨0⟩, security := some .psk } ⟨Uid.system, "android"⟩]

theorem not_goesTogether_claimingPassword : onEmptyStore.Along Ordinary claimingPassword ∧
    ¬ (onEmptyStore.run claimingPassword).books.Everywhere Profile.GoesTogether := by
  refine ⟨by decide, fun everywhere => ?_⟩
  obtain ⟨profile, present, psk, keyless⟩ : ∃ profile ∈ (onEmptyStore.run claimingPassword).roster.all,
      profile.security = .psk ∧ profile.preSharedKey.isSome = false := by decide
  have keyed := (everywhere.memory profile present).keyed (.inl psk)
  rw [keyless] at keyed
  cases keyed

end Manager

end SavedNetworks
