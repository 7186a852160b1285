import SavedNetworks.Proofs.Manager.Upkeep

/-!
How the coarse status of a profile goes with the state of its selection. What is disabled in the one sense is never enabled
in the other. Beyond that the two agree throughout a run if and only if no connection ends for a profile that was disabled
for good meanwhile, and no temporary reason takes hold of a profile that is disabled (`Manager.standings_run_iff`).
-/

namespace SavedNetworks

/-- What is required of standings, where transitions lead to no others and a connection says nothing about the selection. -/
structure Agreement (fits : ProfileStatus × Eligibility → Prop) : Prop where
  enabled : fits (.enabled, .enabled)
  disabled : fits (.disabled, .permanentlyDisabled)
  current : ∀ state, fits (.current, state)

theorem Agreement.leads {fits : ProfileStatus × Eligibility → Prop} (agreement : Agreement fits)
    {transition : Transition} (lasting : transition.suspends = false) {standing : ProfileStatus × Eligibility}
    (fitting : fits standing) : fits (transition.leads standing) := by
  obtain same | enabled | disabled := transition.leads_cases lasting standing
  · exact same.symm ▸ fitting
  · exact enabled.symm ▸ agreement.enabled
  · exact disabled.symm ▸ agreement.disabled

namespace Profile

theorem standing_of_posture {left right : Profile} (same : left.posture = right.posture) : left.standing = right.standing := by
  have standings : left.posture.standing = right.posture.standing := by rw [same]
  exact standings

theorem standing_forConnection (randomizer : Randomizer) (profile : Profile) (now : Millis) :
    (randomizer.forConnection profile now).2.1.standing = profile.standing := by
  unfold Randomizer.forConnection
  simp only
  split
  · split <;> rfl
  · split <;> rfl

theorem isLasting_standing (fits : ProfileStatus × Eligibility → Prop) : IsLasting fun profile => fits profile.standing where
  persisted _ fitting := fitting
  number _ _ fitting := fitting
  address _ _ fitting _ := fitting
  reset _ fitting := fitting

end Profile

theorem Roster.mem_modify_self {roster : Roster} {id : ProfileId} {profile : Profile} (found : roster.get? id = some profile)
    (change : Profile → Profile) : change profile ∈ (roster.modify id change).all := by
  unfold modify
  rw [found]
  exact SortedMap.mem_values_iff.2 ⟨id, SortedMap.get?_insert_self ..⟩

theorem Edit.standing_outcome (edit : Edit) : edit.outcome.standing = edit.profile.standing := by
  unfold outcome
  split <;> rfl

/-- The reason that an operation reports for a profile. -/
def Operation.reported? : Operation → Option (ProfileId × Reason)
  | updateSelection id reason => some (id, reason)
  | updateSelectionCode id code => (Reason.ofCode? code).map (id, ·)
  | _ => none

instance (rules : Rules) (status : SelectionStatus) (call : SelectionCall) (reason : Reason) :
    Decidable (rules.TakesHold status call reason) := inferInstanceAs (Decidable (_ ∨ _))

namespace Manager

variable {manager : Manager} {operation : Operation} {operations : List Operation} {id : ProfileId} {profile : Profile}
  {fits : ProfileStatus × Eligibility → Prop}

/-- A temporary reason takes hold of a profile, were it reported now. -/
def Suspends (manager : Manager) (reason : Reason) (profile : Profile) : Prop :=
  reason.isTemporary = true ∧ manager.settings.rules.TakesHold profile.selection
    (.apply reason manager.platform.elapsed manager.platform.watchdog) reason

instance (manager : Manager) (reason : Reason) (profile : Profile) : Decidable (manager.Suspends reason profile) :=
  inferInstanceAs (Decidable (_ ∧ _))

/-- The standing that an operation gives to a profile without regard for one half of the one that it had: where a connection
ends, for the selection, and where a temporary reason takes hold, for the coarse status. -/
def imposed? (manager : Manager) : Operation → Option (ProfileStatus × Eligibility)
  | .recordDisconnected id => (manager.roster.get? id).bind fun profile =>
      if profile.status = .current then some (.enabled, profile.selection.state) else none
  | operation => operation.reported?.bind fun report => (manager.roster.get? report.1).bind fun profile =>
      if manager.Suspends report.2 profile then some (profile.status, .temporarilyDisabled) else none

theorem imposed?_of_reported {reason : Reason} (reported : operation.reported? = some (id, reason)) :
    manager.imposed? operation = (manager.roster.get? id).bind fun profile =>
      if manager.Suspends reason profile then some (profile.status, .temporarilyDisabled) else none := by
  cases operation with
  | updateSelection | updateSelectionCode => simp only [imposed?, reported, Option.bind_some]
  | _ => cases reported

theorem imposed?_cases {standing : ProfileStatus × Eligibility} (imposed : manager.imposed? operation = some standing) :
    standing.1 = .enabled ∨ standing.2 = .temporarilyDisabled := by
  unfold imposed? at imposed
  split at imposed
  · obtain ⟨profile, _, given⟩ := Option.bind_eq_some_iff.1 imposed
    split at given
    · obtain rfl := Option.some.inj given
      exact .inl rfl
    · cases given
  · obtain ⟨report, _, given⟩ := Option.bind_eq_some_iff.1 imposed
    obtain ⟨profile, _, given⟩ := Option.bind_eq_some_iff.1 given
    split at given
    · obtain rfl := Option.some.inj given
      exact .inr rfl
    · cases given

/-- Everybody, in memory and in the store, has a standing that is as required. -/
structure Poised (fits : ProfileStatus × Eligibility → Prop) (manager : Manager) : Prop where
  wellFormed : manager.roster.WellFormed
  everywhere : manager.books.Everywhere fun profile => fits profile.standing

theorem Poised.of_books {after : Manager} {books : Books} (same : after.books = books) (formed : books.roster.WellFormed)
    (everywhere : books.Everywhere fun profile => fits profile.standing) : after.Poised fits := by
  subst same
  exact ⟨formed, everywhere⟩

theorem Poised.modify (poised : manager.Poised fits) {change : Profile → Profile}
    (outlines : ∀ profile, manager.roster.get? id = some profile → (change profile).outline = profile.outline)
    (fitting : ∀ profile, manager.roster.get? id = some profile → fits (change profile).standing) :
    (manager.modify id change).Poised fits where
  wellFormed := poised.wellFormed.of_through Roster.keepsName_outline (Roster.through_modify outlines)
  everywhere := poised.everywhere.of_sameContents (.refl _) (keeps_modify poised.everywhere.memory fitting)

theorem Poised.taking (poised : manager.Poised fits) (found : manager.roster.get? id = some profile) {reason : Reason}
    (fitting : fits (manager.taking reason profile).standing) :
    (manager.modify id fun _ => manager.taking reason profile).Poised fits := by
  refine poised.modify (fun same again => ?_) fun _ _ => fitting
  rw [← Option.some.inj (found.symm.trans again)]
  rfl

/-- An accepted edit leaves the standing alone, and one that is new is disabled. -/
theorem Poised.files (poised : manager.Poised fits) (agreement : Agreement fits) {draft : Draft} {caller : Owner} {edit : Edit}
    (prepared : manager.prepare draft caller (manager.replaced? draft) = .ok edit)
    (given : (manager.giveWay draft).Poised fits) : ((manager.giveWay draft).carryOut draft edit).1.Poised fits := by
  have fitting : fits edit.outcome.standing := by
    rw [edit.standing_outcome]
    obtain ⟨existing, chosen, rfl⟩ | ⟨_, ssid, security, _, _, rfl⟩ := prepare_eq_ok prepared
    · exact poised.everywhere.memory existing (Roster.mem_of_get? (edited?_eq_some poised.wellFormed chosen).1)
    · exact agreement.disabled
  obtain ⟨failure, after, refused, books⟩ | ⟨stored, roster, after, carried, put, how⟩ :=
    (manager.giveWay draft).carryOut_cases draft edit
  · rw [refused]
    obtain same | lost := books
    · exact .of_books same given.wellFormed given.everywhere
    · exact .of_books lost given.wellFormed (given.everywhere.of_sameContents (.refl _) given.everywhere.memory)
  · have seen : fits stored.standing := by
      obtain ⟨_, ⟨station, rfl⟩, _⟩ | ⟨_, rfl, _⟩ := how
      · exact fitting
      · exact fitting
    rw [carried]
    obtain ⟨_, _, books⟩ | ⟨_, _, books⟩ := how
    all_goals exact .of_books books (given.wellFormed.put put) (given.everywhere.put given.wellFormed seen put _)

theorem upkeep_poised (agreement : Agreement fits) : Upkeep (Poised fits) where
  looks poised _ same postures :=
    { wellFormed := poised.wellFormed.of_through Roster.keepsName_posture postures
      everywhere := poised.everywhere.of_through
        (fun _ _ looks => by rw [Profile.standing_of_posture looks]) postures same }
  persist poised force :=
    ⟨wellFormed_persist poised.wellFormed force, everywhere_persist (Profile.isLasting_standing fits) poised.everywhere force⟩
  drop {manager id profile} poised _ := by
    refine ⟨poised.wellFormed.drop id profile.key, poised.everywhere.of_sameContents (.refl _) fun last present => ?_⟩
    obtain ⟨old, earlier, _, rfl⟩ := poised.wellFormed.mem_drop.1 present
    rw [Profile.standing_of_posture (Roster.posture_released manager.roster profile.key old)]
    exact poised.everywhere.memory old earlier
  moves {manager id profile selection transition} poised found moved lasting := by
    refine poised.modify (fun same again => ?_) fun _ _ => ?_
    · rw [← Option.some.inj (found.symm.trans again)]
      rfl
    · rw [moved.standing_eq]
      exact agreement.leads lasting (poised.everywhere.memory profile (Roster.mem_of_get? found))
  files poised prepared given := poised.files agreement prepared given

theorem standing_of_suspends {reason : Reason} (suspends : manager.Suspends reason profile) :
    (manager.taking reason profile).standing = (profile.status, .temporarilyDisabled) := by
  obtain ⟨state, status, _⟩ := Rules.standing_of_takesHold suspends.1 suspends.2
  refine Prod.ext ?_ state
  simp only [Profile.standing, taking, status, Option.getD_none]

theorem fits_taking (agreement : Agreement fits) {reason : Reason} (lasting : ¬ manager.Suspends reason profile)
    (fitting : fits profile.standing) : fits (manager.taking reason profile).standing := by
  have stays : (manager.settings.rules.apply profile.selection reason manager.platform.elapsed
      manager.platform.watchdog).2.suspends = false :=
    Bool.eq_false_iff.2 fun suspends => lasting (Rules.takesHold_of_suspends suspends)
  have led : (manager.taking reason profile).standing = Transition.leads _ profile.standing :=
    Moved.standing_eq (.applied manager.settings.rules reason manager.platform.elapsed manager.platform.watchdog)
  rw [led]
  exact agreement.leads stays fitting

section Operating

variable (agreement : Agreement fits) (poised : manager.Poised fits)

include poised

theorem Poised.connectionAddress (id : ProfileId) : (manager.connectionAddress id).1.Poised fits := by
  unfold Manager.connectionAddress
  split
  · exact poised
  · next profile found =>
      split
      · exact poised
      · have outlines := outline_forConnection manager.randomizer profile manager.platform.wall
        have standings := Profile.standing_forConnection manager.randomizer profile manager.platform.wall
        generalize manager.randomizer.forConnection profile manager.platform.wall = shown at outlines standings
        obtain ⟨randomizer, changed, address⟩ := shown
        have aside : ({ manager with randomizer } : Manager).Poised fits := ⟨poised.wellFormed, poised.everywhere⟩
        refine aside.modify (fun same again => ?_) fun _ _ => ?_
        · rw [← Option.some.inj (found.symm.trans again)]
          exact outlines
        · rw [standings]
          exact poised.everywhere.memory profile (Roster.mem_of_get? found)

include agreement

theorem poised_report {reason : Reason} (reported : operation.reported? = some (id, reason))
    (suits : ∀ standing, manager.imposed? operation = some standing → fits standing) :
    (manager.updateSelection id reason).1.Poised fits := by
  refine (upkeep_poised agreement).updateSelection_of_modify poised fun profile found => poised.taking found ?_
  by_cases suspends : manager.Suspends reason profile
  · rw [standing_of_suspends suspends]
    refine suits _ ?_
    rw [imposed?_of_reported reported, found, Option.bind_some, if_pos suspends]
  · exact fits_taking agreement suspends (poised.everywhere.memory profile (Roster.mem_of_get? found))

theorem poised_recordDisconnected
    (suits : ∀ standing, manager.imposed? (.recordDisconnected id) = some standing → fits standing) :
    (manager.recordDisconnected id).1.Poised fits := by
  refine (upkeep_poised agreement).noteStored_of_modify poised fun _ _ => ?_
  refine poised.modify (fun _ _ => rfl) fun profile found => ?_
  by_cases connected : profile.status = .current
  · refine suits _ ?_
    rw [imposed?, found, Option.bind_some, if_pos connected]
    simp only [Profile.standing, if_pos connected]
  · simp only [Profile.standing, if_neg connected]
    exact poised.everywhere.memory profile (Roster.mem_of_get? found)

/-- Everybody's standing stays as required, if an imposed one is. -/
theorem poised_perform (ours : operation.isForeign = false)
    (suits : ∀ standing, manager.imposed? operation = some standing → fits standing) :
    (manager.perform operation).1.Poised fits := by
  have upkeep := upkeep_poised agreement
  cases everyday : operation.isEveryday with
  | true => exact upkeep.perform poised everyday
  | false =>
      cases operation with
      | restart | load | switchTenant | unlockTenant | stopTenant =>
          have lasting := Profile.isLasting_standing fits
          exact ⟨wellFormed_perform poised.wellFormed _,
            everywhere_of_followsTenants lasting poised.wellFormed poised.everywhere rfl⟩
      | change change =>
          cases change with
          | write => cases ours
          | _ => cases everyday
      | connectionAddress id => exact poised.connectionAddress id
      | recordConnected id =>
          exact upkeep.noteStored_of_modify poised fun _ _ => poised.modify (fun _ _ => rfl) fun _ _ => agreement.current _
      | recordDisconnected id => exact poised_recordDisconnected agreement poised suits
      | updateSelection id reason => exact poised_report agreement poised rfl suits
      | updateSelectionCode id code =>
          simp only [perform, updateSelectionCode, Prod.map_fst, id_eq]
          cases meant : Reason.ofCode? code with
          | none => exact poised
          | some reason =>
              refine poised_report agreement poised ?_ suits
              rw [Operation.reported?, meant, Option.map_some]
      | _ => cases everyday

end Operating

theorem exists_of_reported {reason : Reason} (reported : operation.reported? = some (id, reason))
    {standing : ProfileStatus × Eligibility} (imposed : manager.imposed? operation = some standing) :
    ∃ profile ∈ (manager.updateSelection id reason).1.roster.all, profile.standing = standing := by
  rw [imposed?_of_reported reported] at imposed
  obtain ⟨profile, found, given⟩ := Option.bind_eq_some_iff.1 imposed
  split at given
  · next suspends =>
      obtain rfl := Option.some.inj given
      obtain ⟨_, _, accepted⟩ := Rules.standing_of_takesHold suspends.1 suspends.2
      obtain ⟨store, journal, moved⟩ := updateSelection_of_isAccepted found accepted
      rw [moved]
      exact ⟨manager.taking reason profile, Roster.mem_modify_self found _, standing_of_suspends suspends⟩
  · cases given

theorem exists_of_imposed {standing : ProfileStatus × Eligibility} (imposed : manager.imposed? operation = some standing) :
    ∃ profile ∈ (manager.perform operation).1.roster.all, profile.standing = standing := by
  cases operation with
  | recordDisconnected id =>
      obtain ⟨profile, found, given⟩ := Option.bind_eq_some_iff.1 imposed
      split at given
      · next connected =>
          obtain rfl := Option.some.inj given
          simp only [perform, recordDisconnected, noteStored, found, Prod.map_fst, id_eq]
          rw [persist_eq]
          exact ⟨_, Roster.mem_modify_self found _, by simp only [Profile.standing, if_pos connected]⟩
      · cases given
  | updateSelection id reason => exact exists_of_reported rfl imposed
  | updateSelectionCode id code =>
      cases meant : Reason.ofCode? code with
      | none => simp [imposed?, Operation.reported?, meant] at imposed
      | some reason =>
          simp only [perform, updateSelectionCode, meant, Prod.map_fst, id_eq]
          refine exists_of_reported ?_ imposed
          rw [Operation.reported?, meant, Option.map_some]
  | _ => cases imposed

theorem everywhere_standing_iff (agreement : Agreement fits) (wellFormed : manager.roster.WellFormed)
    (everywhere : manager.books.Everywhere fun profile => fits profile.standing) (ours : operation.isForeign = false) :
    ((manager.perform operation).1.books.Everywhere fun profile => fits profile.standing) ↔
      ∀ standing, manager.imposed? operation = some standing → fits standing := by
  refine ⟨fun after standing imposed => ?_, fun suits => (poised_perform agreement ⟨wellFormed, everywhere⟩ ours suits).everywhere⟩
  obtain ⟨profile, present, rfl⟩ := exists_of_imposed imposed
  exact after.memory profile present

theorem fits_enabled_iff :
    (∀ standing, manager.imposed? operation = some standing → standing.1 = .enabled → standing.2 ≠ .permanentlyDisabled) ↔
      manager.imposed? operation ≠ some (.enabled, .permanentlyDisabled) := by
  refine ⟨fun suits imposed => suits _ imposed rfl rfl, fun other standing imposed enabled permanently => other ?_⟩
  rw [imposed, ← enabled, ← permanently]

theorem fits_disabled_iff :
    (∀ standing, manager.imposed? operation = some standing → standing.1 = .disabled → standing.2 = .permanentlyDisabled) ↔
      manager.imposed? operation ≠ some (.disabled, .temporarilyDisabled) := by
  refine ⟨fun suits imposed => (nomatch suits _ imposed rfl), fun other standing imposed disabled => absurd ?_ other⟩
  obtain enabled | temporarily := imposed?_cases imposed
  · cases disabled.symm.trans enabled
  · rw [imposed, ← disabled, ← temporarily]

/-- In a run from an empty store, whatever is disabled in its coarse status is not enabled for selection. What is enabled
there is not disabled for good throughout the run if and only if no connection ends for a profile that is; and what is
disabled there is disabled for good throughout if and only if no temporary reason takes hold of such a profile. -/
theorem standings_run_iff {store : Store} (empty : store.IsEmpty) (settings : Settings) (platform : Platform)
    (listeners : List Listener) (digest : String → Option (List UInt8)) (random : List UInt8)
    (ours : ∀ operation ∈ operations, operation.isForeign = false)
    (started : manager = start settings platform store listeners digest random) :
    (∀ count, (manager.run (operations.take count)).books.Everywhere fun profile =>
      profile.status = .disabled → profile.selection.state ≠ .enabled) ∧
    ((∀ count, (manager.run (operations.take count)).books.Everywhere fun profile =>
        profile.status = .enabled → profile.selection.state ≠ .permanentlyDisabled) ↔
      manager.Along (fun manager operation => manager.imposed? operation ≠ some (.enabled, .permanentlyDisabled))
        operations) ∧
    ((∀ count, (manager.run (operations.take count)).books.Everywhere fun profile =>
        profile.status = .disabled → profile.selection.state = .permanentlyDisabled) ↔
      manager.Along (fun manager operation => manager.imposed? operation ≠ some (.disabled, .temporarilyDisabled))
        operations) := by
  have wellFormed : manager.roster.WellFormed := started ▸ Roster.wellFormed_empty
  have initially (rule : Profile → Prop) : manager.books.Everywhere rule :=
    started ▸ everywhere_start rule empty settings platform listeners digest random
  have apart : Agreement fun standing => standing.1 = .disabled → standing.2 ≠ .enabled :=
    ⟨nofun, fun _ => nofun, fun _ => nofun⟩
  have whenEnabled : Agreement fun standing => standing.1 = .enabled → standing.2 ≠ .permanentlyDisabled :=
    ⟨fun _ => nofun, nofun, fun _ => nofun⟩
  have whenDisabled : Agreement fun standing => standing.1 = .disabled → standing.2 = .permanentlyDisabled :=
    ⟨nofun, fun _ => rfl, fun _ => nofun⟩
  refine ⟨fun count => ?_, ?_, ?_⟩
  · refine everywhere_run wellFormed (initially _) (fun operation among => ours operation (List.mem_of_mem_take among)) ?_
    refine fun manager operation formed everywhere ordinary =>
      (everywhere_standing_iff apart formed everywhere ordinary).2 fun standing imposed disabled enabled => ?_
    obtain status | state := imposed?_cases imposed
    · cases disabled.symm.trans status
    · cases enabled.symm.trans state
  · exact everywhere_take_iff wellFormed (initially _) ours fun manager operation formed everywhere ordinary =>
      (everywhere_standing_iff whenEnabled formed everywhere ordinary).trans fits_enabled_iff
  · exact everywhere_take_iff wellFormed (initially _) ours fun manager operation formed everywhere ordinary =>
      (everywhere_standing_iff whenDisabled formed everywhere ordinary).trans fits_disabled_iff

/-- Cafe is enabled, used, loses the internet for a while, and is disabled in the end. -/
def eveningAtCafe : List Operation :=
  [.load, .addOrUpdate (.psk "Cafe" "espresso1") ⟨Uid.system, "android"⟩, .enable ⟨0⟩ true ⟨Uid.system, "android"⟩,
    .recordConnected ⟨0⟩, .updateSelection ⟨0⟩ .noInternetTemporary, .recordDisconnected ⟨0⟩,
    .change (.advance (10 * Millis.minute)), .tryEnableAll, .recordConnected ⟨0⟩, .disable ⟨0⟩ ⟨Uid.system, "android"⟩,
    .recordDisconnected ⟨0⟩]

theorem standings_eveningAtCafe :
    (∀ count, (onEmptyStore.run (eveningAtCafe.take count)).books.Everywhere fun profile =>
      profile.status = .enabled → profile.selection.state ≠ .permanentlyDisabled) ∧
    ∀ count, (onEmptyStore.run (eveningAtCafe.take count)).books.Everywhere fun profile =>
      profile.status = .disabled → profile.selection.state = .permanentlyDisabled := by
  have ours : ∀ operation ∈ eveningAtCafe, operation.isForeign = false := by decide
  obtain ⟨_, whenEnabled, whenDisabled⟩ := standings_run_iff isEmpty_immediate_empty .default (.start 0 1700000000000) []
    (fun _ => none) [] ours rfl
  exact ⟨whenEnabled.2 (by decide), whenDisabled.2 (by decide)⟩

/-- A new network is used before it is enabled. -/
def usedUnselected : Manager :=
  onEmptyStore.run [.load, .addOrUpdate (.unsecured "Cafe") ⟨Uid.system, "android"⟩, .recordConnected ⟨0⟩, .recordDisconnected ⟨0⟩]

/-- A new network fails before it is enabled. -/
def failedUnselected : Manager :=
  onEmptyStore.run
    [.load, .addOrUpdate (.unsecured "Cafe") ⟨Uid.system, "android"⟩, .updateSelection ⟨0⟩ .noInternetTemporary]

/-- Coarsely enabled, a network may be disabled for good, and coarsely disabled it may be disabled for a time. -/
theorem not_agreeing_unselected :
    (¬ ∀ manager, ReachableAlone manager → ∀ profile ∈ manager.roster.all,
      profile.status = .enabled → profile.selection.state ≠ .permanentlyDisabled) ∧
    ¬ ∀ manager, ReachableAlone manager → ∀ profile ∈ manager.roster.all,
      profile.status = .disabled → profile.selection.state = .permanentlyDisabled := by
  have used : usedUnselected.ReachableAlone := reachableAlone_onEmptyStore.run (by decide)
  have failed : failedUnselected.ReachableAlone := reachableAlone_onEmptyStore.run (by decide)
  exact ⟨fun agreeing => absurd (agreeing usedUnselected used) (by decide),
    fun agreeing => absurd (agreeing failedUnselected failed) (by decide)⟩

end Manager

end SavedNetworks
