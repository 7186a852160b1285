import SavedNetworks.Proofs.Address.Grammar
import SavedNetworks.Proofs.Manager.Validity

/-!
The address of its transmitter that a profile may be bound to. It is checked as it reads, but kept as it was written, in
lower case: it is the text of an address only if it was supplied without white space and without a sign
(`Manager.canonicalBssid_throughout_iff`).
-/

namespace SavedNetworks

namespace Address

/-- Nothing but six groups of two digits between colons. -/
def IsPlain (text : String) : Prop := ∃ address, Spells WritesOctet text.toList address

theorem isPlain_iff {text : String} : IsPlain text ↔ ∃ address : Address, Text.lower text = address.text := by
  constructor
  · rintro ⟨address, spelled⟩
    exact ⟨address, lower_eq_text spelled⟩
  · rintro ⟨address, same⟩
    have read : ofText? text = some address := by rw [← ofText?_lower, same, ofText?_text]
    exact ⟨address, spells_of_lower_eq_text read same⟩

/-- The text was made from another by lowering its letters, and both read as one address. -/
def IsLowered (text kept : String) : Prop :=
  kept = Text.lower text ∧ ∃ address, ofText text = .ok address ∧ ofText kept = .ok address

theorem isLowered_of_reads {text : String} (reads : (ofText? text).isSome = true) : IsLowered text (Text.lower text) := by
  obtain ⟨address, read⟩ := Option.isSome_iff_exists.1 reads
  refine ⟨rfl, address, ?_, ?_⟩
  · rw [ofText, read]
  · rw [ofText, ofText?_lower, read]

end Address

namespace Profile

/-- The text that is kept is one of some texts, in lower case. -/
def BssidFrom (texts : List String) (profile : Profile) : Prop :=
  ∀ kept ∈ profile.bssid, ∃ text ∈ texts, Address.IsLowered text kept

/-- The text that is kept is the text of an address. -/
def CanonicalBssid (profile : Profile) : Prop := ∀ kept ∈ profile.bssid, ∃ address : Address, kept = address.text

theorem isSteady_bssidFrom (texts : List String) : IsSteady (BssidFrom texts) where
  frame _ := Iff.rfl
  number _ _ := Iff.rfl

theorem isSteady_canonicalBssid : IsSteady CanonicalBssid where
  frame _ := Iff.rfl
  number _ _ := Iff.rfl

theorem BssidFrom.mono {texts more : List String} {profile : Profile} (within : texts ⊆ more)
    (kept : profile.BssidFrom texts) : profile.BssidFrom more := by
  intro text present
  obtain ⟨supplied, among, lowered⟩ := kept text present
  exact ⟨supplied, within among, lowered⟩

theorem CanonicalBssid.eq_of_read {left right : Profile} (left_canonical : left.CanonicalBssid)
    (right_canonical : right.CanonicalBssid) {here there : String} (left_kept : here ∈ left.bssid)
    (right_kept : there ∈ right.bssid) (same : Address.ofText? here = Address.ofText? there) : here = there := by
  obtain ⟨address, rfl⟩ := left_canonical here left_kept
  obtain ⟨other, rfl⟩ := right_canonical there right_kept
  rw [Address.ofText?_text, Address.ofText?_text] at same
  rw [Option.some.inj same]

end Profile

theorem Draft.bssid_of_validate {draft : Draft} {use : DraftUse} (passed : draft.validate use = .ok ()) :
    ∀ text ∈ draft.bssid, (Address.ofText? text).isSome = true := by
  intro text supplied
  obtain ⟨_, passed⟩ := both_ok passed
  obtain ⟨_, passed⟩ := both_ok passed
  obtain ⟨bssid, _⟩ := both_ok passed
  unfold checkBssid at bssid
  simp only [Option.mem_def.1 supplied] at bssid
  split at bssid
  · next read => exact read
  · cases bssid

namespace Manager

variable {manager : Manager} {operation : Operation} {operations : List Operation} {draft : Draft} {caller : Owner}
  {edit : Edit} {replaced : Option ProfileId} {result : EditResult}

theorem bssid_of_prepared (prepared : manager.prepare draft caller replaced = .ok edit) :
    ∀ text ∈ draft.bssid, (Address.ofText? text).isSome = true := by
  cases chosen : manager.edited? draft replaced with
  | some existing => exact Draft.bssid_of_validate (validate_of_revised chosen prepared)
  | none => exact Draft.bssid_of_validate (validate_of_created chosen prepared)

/-- A supplied text is lowered; if none is supplied, the profile that is changed keeps its own. -/
theorem bssid_edit (prepared : manager.prepare draft caller replaced = .ok edit) :
    edit.profile.bssid = (draft.bssid.map Text.lower <|> (manager.edited? draft replaced).bind Profile.bssid) := by
  rcases prepare_eq_ok prepared with ⟨existing, chosen, rfl⟩ | ⟨new, ssid, security, _, _, rfl⟩
  · rw [chosen]
    rfl
  · rw [new]
    rfl

theorem bssid_edit_of_supplied {text : String} (supplied : draft.bssid = some text)
    (prepared : manager.prepare draft caller replaced = .ok edit) : edit.profile.bssid = some (Text.lower text) := by
  rw [bssid_edit prepared, supplied]
  rfl

theorem bssid_edit_of_omitted (omitted : draft.bssid = none) (prepared : manager.prepare draft caller replaced = .ok edit) :
    edit.profile.bssid = (manager.edited? draft replaced).bind Profile.bssid := by
  rw [bssid_edit prepared, omitted]
  rfl

theorem exists_edited_of_omitted (wellFormed : manager.roster.WellFormed) (omitted : draft.bssid = none)
    (prepared : manager.prepare draft caller replaced = .ok edit) :
    ∀ kept ∈ edit.profile.bssid, ∃ existing ∈ manager.roster.all, kept ∈ existing.bssid := by
  intro kept present
  rw [bssid_edit_of_omitted omitted prepared] at present
  obtain ⟨existing, chosen, own⟩ := Option.bind_eq_some_iff.1 present
  exact ⟨existing, Roster.mem_of_get? (edited?_eq_some wellFormed chosen).1, own⟩

/-- The text that an operation supplies, if it is accepted. -/
def suppliedBssid (manager : Manager) : Operation → List String
  | .addOrUpdate draft caller => if (manager.addOrUpdate draft caller).2.isOk then draft.bssid.toList else []
  | _ => []

def SuppliesPlain (manager : Manager) (operation : Operation) : Prop :=
  ∀ text ∈ manager.suppliedBssid operation, Address.IsPlain text

theorem suppliedBssid_of_accepted (accepted : (manager.addOrUpdate draft caller).2 = .ok result) :
    manager.suppliedBssid (.addOrUpdate draft caller) = draft.bssid.toList := by
  rw [suppliedBssid, accepted]
  rfl

/-- An accepted edit keeps a supplied text in lower case, and otherwise the text that was there. -/
def KeepsBssidText (manager : Manager) : Operation → Prop
  | .addOrUpdate draft caller => ∀ result, (manager.addOrUpdate draft caller).2 = .ok result →
      ∃ profile, (manager.addOrUpdate draft caller).1.roster.get? result.id = some profile ∧
        (draft.bssid = none → profile.bssid = (manager.edited? draft (manager.replaced? draft)).bind Profile.bssid) ∧
        ∀ text, draft.bssid = some text → ∃ kept, profile.bssid = some kept ∧ Address.IsLowered text kept
  | _ => True

section Step

variable (wellFormed : manager.roster.WellFormed)

include wellFormed

theorem keepsBssidText (operation : Operation) : manager.KeepsBssidText operation := by
  cases operation with
  | addOrUpdate draft caller =>
      intro result accepted
      obtain ⟨edit, profile, prepared, found, looks, _⟩ := addOrUpdate_eq_ok wellFormed accepted
      have kept := Profile.same_of_look Profile.bssid (fun _ => rfl) looks
      refine ⟨profile, found, fun omitted => kept.trans ?_, fun text supplied => ⟨Text.lower text, kept.trans ?_, ?_⟩⟩
      · rw [← bssid_edit_of_omitted omitted prepared]
        rfl
      · exact bssid_edit_of_supplied supplied prepared
      · exact Address.isLowered_of_reads (bssid_of_prepared prepared text supplied)
  | _ => trivial

theorem keepsBssidText_run (operations : List Operation) : manager.Along KeepsBssidText operations := by
  induction operations generalizing manager with
  | nil => trivial
  | cons operation rest ih => exact ⟨keepsBssidText wellFormed operation, ih (wellFormed_perform wellFormed operation)⟩

theorem bssidFrom_of_prepared {texts : List String} (kept : ∀ profile ∈ manager.roster.all, profile.BssidFrom texts)
    (prepared : manager.prepare draft caller replaced = .ok edit) :
    edit.profile.BssidFrom (texts ++ draft.bssid.toList) := by
  intro text present
  cases supplied : draft.bssid with
  | none =>
      obtain ⟨existing, known, own⟩ := exists_edited_of_omitted wellFormed supplied prepared text present
      exact (kept existing known).mono (List.subset_append_left ..) text own
  | some given =>
      rw [bssid_edit_of_supplied supplied prepared] at present
      obtain rfl := Option.some.inj present
      exact ⟨given, by simp, Address.isLowered_of_reads (bssid_of_prepared prepared given supplied)⟩

theorem canonicalBssid_of_prepared_iff (canonical : ∀ profile ∈ manager.roster.all, profile.CanonicalBssid)
    (prepared : manager.prepare draft caller replaced = .ok edit) :
    edit.profile.CanonicalBssid ↔ ∀ text ∈ draft.bssid, Address.IsPlain text := by
  cases supplied : draft.bssid with
  | none =>
      refine ⟨fun _ => nofun, fun _ kept present => ?_⟩
      obtain ⟨existing, known, own⟩ := exists_edited_of_omitted wellFormed supplied prepared kept present
      exact canonical existing known kept own
  | some text =>
      rw [Profile.CanonicalBssid, bssid_edit_of_supplied supplied prepared]
      simp only [Option.mem_some_iff, forall_eq', Address.isPlain_iff]

theorem canonicalBssid_perform_iff (canonical : manager.books.Everywhere Profile.CanonicalBssid)
    (ours : operation.isForeign = false) :
    (manager.perform operation).1.books.Everywhere Profile.CanonicalBssid ↔ manager.SuppliesPlain operation := by
  constructor
  · intro after
    cases operation with
    | addOrUpdate draft caller =>
        intro text supplied
        cases outcome : (manager.addOrUpdate draft caller).2 with
        | error failure =>
            rw [suppliedBssid, outcome] at supplied
            exact absurd supplied List.not_mem_nil
        | ok result =>
            obtain ⟨edit, profile, prepared, found, looks, _⟩ := addOrUpdate_eq_ok wellFormed outcome
            have kept : profile.CanonicalBssid := after.memory profile (Roster.mem_of_get? found)
            rw [Profile.isSteady_canonicalBssid.of_outline looks, Profile.isSteady_canonicalBssid.number] at kept
            rw [suppliedBssid_of_accepted outcome, Option.mem_toList] at supplied
            exact (canonicalBssid_of_prepared_iff wellFormed canonical.memory prepared).1 kept text supplied
    | _ => exact nofun
  · intro plain
    refine everywhere_perform Profile.isSteady_canonicalBssid wellFormed canonical ours ?_
    rintro draft caller edit result rfl prepared accepted
    rw [SuppliesPlain, suppliedBssid_of_accepted accepted] at plain
    exact (canonicalBssid_of_prepared_iff wellFormed canonical.memory prepared).2 fun text supplied =>
      plain text (Option.mem_toList.2 supplied)

end Step

/-- In a run from an empty store, every text that is kept is one that an accepted edit supplied, in lower case, and reads
as the same address. It is the text of that address throughout if and only if all that are supplied are plain. Where it
is, equal addresses are kept as equal texts. -/
theorem canonicalBssid_throughout_iff {store : Store} (empty : store.IsEmpty) (settings : Settings) (platform : Platform)
    (listeners : List Listener) (digest : String → Option (List UInt8)) (random : List UInt8)
    (ours : ∀ operation ∈ operations, operation.isForeign = false) :
    (start settings platform store listeners digest random).Along KeepsBssidText operations ∧
    ((start settings platform store listeners digest random).run operations).books.Everywhere
      (Profile.BssidFrom ((start settings platform store listeners digest random).gathered suppliedBssid operations)) ∧
    ((∀ count, ((start settings platform store listeners digest random).run (operations.take count)).books.Everywhere
        Profile.CanonicalBssid) ↔
      ∀ text ∈ (start settings platform store listeners digest random).gathered suppliedBssid operations, Address.IsPlain text) ∧
    ∀ left right : Profile, left.CanonicalBssid → right.CanonicalBssid → ∀ here ∈ left.bssid, ∀ there ∈ right.bssid,
      Address.ofText? here = Address.ofText? there → here = there := by
  refine ⟨keepsBssidText_run Roster.wellFormed_empty operations, ?_, ?_, fun left right left_canonical right_canonical
    here left_kept there right_kept => left_canonical.eq_of_read right_canonical left_kept right_kept⟩
  · refine everywhere_gathered Profile.isSteady_bssidFrom (fun _ _ _ => Profile.BssidFrom.mono) ?_
      Roster.wellFormed_empty (everywhere_start (Profile.BssidFrom []) empty settings platform listeners digest random) ours
    intro manager draft caller edit result texts wellFormed kept prepared accepted
    rw [suppliedBssid_of_accepted accepted]
    exact bssidFrom_of_prepared wellFormed kept prepared
  · rw [← along_iff_gathered]
    exact everywhere_take_iff Roster.wellFormed_empty
      (everywhere_start Profile.CanonicalBssid empty settings platform listeners digest random) ours
      fun _ _ => canonicalBssid_perform_iff

/-- A network that is bound to a transmitter. -/
def boundTo (text : String) : List Operation :=
  [.load, .addOrUpdate { Draft.unsecured "Cafe" with bssid := some text } ⟨Uid.system, "android"⟩]

theorem canonicalBssid_boundTo :
    (∀ count, (onEmptyStore.run ((boundTo "AA:bb:0C:dd:ee:ff").take count)).books.Everywhere Profile.CanonicalBssid) ∧
      ∃ profile ∈ (onEmptyStore.run (boundTo "AA:bb:0C:dd:ee:ff")).roster.all, profile.bssid = some "aa:bb:0c:dd:ee:ff" := by
  have plain : Address.IsPlain "AA:bb:0C:dd:ee:ff" :=
    Address.isPlain_iff.2 ⟨⟨#v[0xaa, 0xbb, 0x0c, 0xdd, 0xee, 0xff]⟩, by decide⟩
  have supplied : onEmptyStore.gathered suppliedBssid (boundTo "AA:bb:0C:dd:ee:ff") = ["AA:bb:0C:dd:ee:ff"] := by decide
  refine ⟨(canonicalBssid_throughout_iff isEmpty_immediate_empty .default (.start 0 1700000000000) [] (fun _ => none) []
    (by decide)).2.2.1.2 fun text among => ?_, by decide⟩
  obtain rfl := List.mem_singleton.1 (supplied ▸ among)
  exact plain

theorem not_canonicalBssid_leadingSpace : onEmptyStore.Along Ordinary (boundTo " aa:bb:cc:dd:ee:ff") ∧
    ¬ (onEmptyStore.run (boundTo " aa:bb:cc:dd:ee:ff")).books.Everywhere Profile.CanonicalBssid := by
  refine ⟨by decide, fun everywhere => ?_⟩
  obtain ⟨profile, present, kept⟩ : ∃ profile ∈ (onEmptyStore.run (boundTo " aa:bb:cc:dd:ee:ff")).roster.all,
      profile.bssid = some " aa:bb:cc:dd:ee:ff" := by decide
  obtain ⟨address, same⟩ := everywhere.memory profile present " aa:bb:cc:dd:ee:ff" kept
  have blank : ' ' ∈ address.characters := by
    rw [← String.ofList_inj.1 same]
    decide
  exact absurd (address.not_isBlank_characters ' ' blank) (by decide)

end Manager

end SavedNetworks
