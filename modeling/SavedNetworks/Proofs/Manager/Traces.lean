import SavedNetworks.Manager.Viewing
import SavedNetworks.Proofs.Manager.PrivateWork
import SavedNetworks.Proofs.Roster.Renaming

/-!
What is left of the private profiles of a tenant when it makes way for another one, in two runs that differ only
in the work on them: the answers to the other tenant differ in the ids, and in what shared profiles name.
-/

namespace SavedNetworks

namespace Profile

/-- Names another profile by its key, as linked or as preferred by the user. -/
def names (profile : Profile) (key : ProfileKey) : Bool :=
  profile.linked.contains key || profile.selection.connectChoice.any (·.key == key)

/-- What a profile names: the profiles linked to it, and the one that the user preferred to it. -/
def named (profile : Profile) : SortedSet ProfileKey × Option ConnectChoice :=
  (profile.linked, profile.selection.connectChoice)

theorem eq_of_nameless {profile other : Profile} (same : profile.nameless = other.nameless)
    (named : profile.named = other.named) : profile = other := by
  have whole : ∀ one : Profile, one = { one.nameless with
      linked := one.named.1
      selection := { one.nameless.selection with connectChoice := one.named.2 } } := fun _ => rfl
  rw [whole profile, whole other, same, named]

end Profile

namespace Manager

variable {manager left right : Manager} {target : Tenant} {key : ProfileKey} {rename : Equiv.Perm ProfileId}

/-- The answers of one manager are those of another under new ids; a list may come in another order. -/
structure AnswersAs (rename : Equiv.Perm ProfileId) (left right : Manager) : Prop where
  byId : ∀ id masking, right.get? (rename id) masking = (left.get? id masking).map (Profile.renamed rename)
  byKey : ∀ key masking, right.getByKey? key masking = (left.getByKey? key masking).map (Profile.renamed rename)
  listed : ∀ savedOnly masking,
    (right.list savedOnly masking).Perm ((left.list savedOnly masking).map (Profile.renamed rename))

/-- The answers of two managers are the same up to a renaming of ids. -/
def AnswersAlike (left right : Manager) : Prop := ∃ rename, AnswersAs rename left right

theorem view_renamed (manager : Manager) (masking : Masking) (profile : Profile) :
    manager.view masking (profile.renamed rename) = (manager.view masking profile).renamed rename := by
  have hides : masking.hidesFrom (profile.renamed rename) = masking.hidesFrom profile := by cases masking <;> rfl
  unfold view
  rw [hides]
  split <;> split <;> rfl

theorem AnswersAs.of_renamed (here : left.roster.WellFormed) (there : right.roster.WellFormed)
    (supported : right.randomizer.policy.supported = left.randomizer.policy.supported)
    (renamed : left.roster.Renamed rename right.roster) : AnswersAs rename left right := by
  have views : right.view = left.view := by
    unfold view
    rw [supported]
  have shown : ∀ masking, left.view masking ∘ Profile.renamed rename = Profile.renamed rename ∘ left.view masking :=
    fun masking => funext fun profile => left.view_renamed masking profile
  refine ⟨fun id masking => ?_, fun key masking => ?_, fun savedOnly masking => ?_⟩
  · rw [get?, get?, views, renamed id, Option.map_map, Option.map_map, shown]
  · rw [getByKey?, getByKey?, views, renamed.getByKey? here there, Option.map_map, Option.map_map, shown]
  · have seen := ((renamed.visible_perm here there).filter fun profile => !savedOnly || profile.isSaved).map (left.view masking)
    rw [List.filter_map, List.map_map, shown, ← List.map_map] at seen
    rw [list, list, views]
    exact seen

/-- The records that come in with a tenant. -/
def incoming (manager : Manager) (target : Tenant) : List Profile :=
  if manager.awaitsStore then []
  else if manager.platform.isUnlocked target then manager.sectionOf target else []

/-- What a tenant is to be shown under a key once it is in the foreground. -/
def shownTo (manager : Manager) (target : Tenant) (key : ProfileKey) : Option Profile :=
  (((manager.stays? key).or ((manager.incoming target).find? (·.key = key))).map Profile.unnumbered).filter
    (·.visibleTo target)

theorem sectionOf_putAway (different : target ≠ manager.tenant) : manager.putAway.sectionOf target = manager.sectionOf target := by
  have answers : (manager.putAway.store.readTenant target).2 = (manager.store.readTenant target).2 := by
    unfold putAway
    split
    · exact (sameSurroundings_persist manager true).answers target different
    · rfl
  unfold sectionOf
  rw [answers]

theorem holder?_switchTenant (sound : manager.books.Sound) (idle : manager.books.Idle)
    (room : manager.HasRoom (.switchTenant target)) (different : target ≠ manager.tenant) (key : ProfileKey) :
    ((manager.switchTenant target).1.roster.holder? key).map Profile.unnumbered =
      ((manager.stays? key).or ((manager.incoming target).find? (·.key = key))).map Profile.unnumbered := by
  unfold incoming
  obtain ⟨same, _⟩ | ⟨_, unread, switched⟩ | ⟨_, read, unlocked, switched⟩ | ⟨_, read, locked, switched⟩ :=
    manager.switchTenant_cases target
  · exact absurd same different
  · have none : manager.roster.holder? key = Option.none := sound.wellFormed.holder?_eq_none_iff.2 fun profile present => by
      rw [idle unread] at present
      cases present
    rw [switched, if_pos unread, stays?, none]
    simp [none]
  · rw [if_neg (ne_true_of_eq_false read), if_pos unlocked, switched, roster_loadSection, tenant_leave,
      holder?_insertAll (sound_leave sound target) (room_leave room unlocked), holder?_leave sound, sectionOf_leave,
      sectionOf_putAway different]
  · have left : ({ manager.leave target with awaitsUnlock := true } : Manager).roster.holder? = manager.stays? :=
      holder?_leave sound target
    rw [if_neg (ne_true_of_eq_false read), if_neg (ne_true_of_eq_false locked), switched, left]
    simp

theorem tenant_switchTenant (manager : Manager) (target : Tenant) : (manager.switchTenant target).1.tenant = target := by
  obtain ⟨same, switched⟩ | ⟨_, _, switched⟩ | ⟨_, _, _, switched⟩ | ⟨_, _, _, switched⟩ := manager.switchTenant_cases target
  all_goals rw [switched]
  · exact same.symm
  · rfl
  · rw [Manager.tenant, roster_loadSection, tenant_insertAll]
    rfl
  · rfl

theorem getByKey?_switchTenant (sound : manager.books.Sound) (idle : manager.books.Idle)
    (room : manager.HasRoom (.switchTenant target)) (different : target ≠ manager.tenant) (key : ProfileKey) :
    ((manager.switchTenant target).1.roster.getByKey? key).map Profile.unnumbered = manager.shownTo target key := by
  have visible : (manager.switchTenant target).1.roster.isVisible = (·.visibleTo target) := by
    have current := tenant_switchTenant manager target
    funext profile
    unfold Roster.isVisible
    unfold Manager.tenant at current
    rw [current]
  have unnumbered : ∀ held : Option Profile, (held.filter (·.visibleTo target)).map Profile.unnumbered =
      (held.map Profile.unnumbered).filter (·.visibleTo target) := by
    intro held
    rw [Option.filter_map]
    rfl
  rw [Roster.getByKey?_eq, visible, unnumbered, holder?_switchTenant sound idle room different, shownTo]

/-- What stays under a key is the same on either side, but for the id and for what it names. -/
def StaysAlike (left right : Manager) (key : ProfileKey) : Prop :=
  (right.stays? key).map (Profile.unnumbered ∘ Profile.nameless) = (left.stays? key).map (Profile.unnumbered ∘ Profile.nameless)

/-- Two managers are about to bring a tenant to the foreground: they agree on what stays in memory but for the ids
and for what it names, on the section of that tenant, and on what decides about reading it and about the answers. -/
structure Counterparts (left right : Manager) (target : Tenant) : Prop where
  tenant : right.tenant = left.tenant
  read : right.awaitsStore = left.awaitsStore
  unlocked : right.platform.isUnlocked target = left.platform.isUnlocked target
  supported : right.randomizer.policy.supported = left.randomizer.policy.supported
  sections : ∀ key, ((right.sectionOf target).find? (·.key = key)).map Profile.unnumbered =
    ((left.sectionOf target).find? (·.key = key)).map Profile.unnumbered
  stays : ∀ key, left.StaysAlike right key

/-- What stays in memory and is to be shown to a tenant names the same profiles on either side. -/
def SameNames (left right : Manager) (target : Tenant) : Prop :=
  ∀ mine ∈ left.roster.all, left.belongsToShared mine = true → mine.visibleTo target = true →
    ∀ theirs ∈ right.roster.all, theirs.key = mine.key → theirs.named = mine.named

namespace Counterparts

theorem refl (manager : Manager) (target : Tenant) : manager.Counterparts manager target :=
  ⟨rfl, rfl, rfl, rfl, fun _ => rfl, fun _ => rfl⟩

theorem symm (counterparts : left.Counterparts right target) : right.Counterparts left target :=
  ⟨counterparts.tenant.symm, counterparts.read.symm, counterparts.unlocked.symm, counterparts.supported.symm,
    fun key => (counterparts.sections key).symm, fun key => (counterparts.stays key).symm⟩

/-- Work that leaves alone what stays under some keys, and comes to the same under the others, leaves the sides
counterparts. -/
theorem of_leavesAlone {keys : ProfileKey → Prop} {mine theirs : Manager} (counterparts : left.Counterparts right target)
    (different : target ≠ left.tenant) (here : LeavesAlone keys left mine) (there : LeavesAlone keys right theirs)
    (alike : ∀ key, ¬ keys key → mine.StaysAlike theirs key) : mine.Counterparts theirs target where
  tenant := there.tenant.trans (counterparts.tenant.trans here.tenant.symm)
  read := there.read.trans (counterparts.read.trans here.read.symm)
  unlocked := by
    unfold Platform.isUnlocked at *
    rw [here.unlocked, there.unlocked]
    exact counterparts.unlocked
  supported := by
    rw [here.policy, there.policy]
    exact counterparts.supported
  sections := by
    have apart : target ≠ right.tenant := counterparts.tenant ▸ different
    have leftSame : mine.sectionOf target = left.sectionOf target := by
      unfold sectionOf
      rw [here.answers target different]
    have rightSame : theirs.sectionOf target = right.sectionOf target := by
      unfold sectionOf
      rw [there.answers target apart]
    rw [leftSame, rightSame]
    exact counterparts.sections
  stays := fun key => by
    by_cases among : keys key
    · have same := counterparts.stays key
      rw [StaysAlike, ← Option.map_map, ← Option.map_map] at same ⊢
      rw [there.stays key among, here.stays key among, same]
    · exact alike key among

/-- Work on private profiles on one side leaves the sides counterparts. -/
theorem beside {after : Manager} (counterparts : left.Counterparts right target) (different : target ≠ left.tenant)
    (beside : left.Beside after) : after.Counterparts right target :=
  counterparts.of_leavesAlone different beside (.refl _ right) fun _ outside => absurd trivial outside

theorem incoming_find? (counterparts : left.Counterparts right target) (key : ProfileKey) :
    ((right.incoming target).find? (·.key = key)).map Profile.unnumbered =
      ((left.incoming target).find? (·.key = key)).map Profile.unnumbered := by
  unfold incoming
  rw [counterparts.read, counterparts.unlocked]
  split
  · rfl
  · split
    · exact counterparts.sections key
    · rfl

theorem visibleTo_of_looks {mine theirs : Profile}
    (looks : (Profile.unnumbered ∘ Profile.nameless) theirs = (Profile.unnumbered ∘ Profile.nameless) mine) (target : Tenant) :
    theirs.unnumbered.visibleTo target = mine.unnumbered.visibleTo target := by
  have sight := congrArg (fun profile : Profile => profile.visibleTo target) looks
  exact sight

theorem sameNames_of_shownTo (counterparts : left.Counterparts right target) (here : left.roster.WellFormed)
    (there : right.roster.WellFormed)
    (shown : ∀ key, (right.shownTo target key).map Profile.named = (left.shownTo target key).map Profile.named) :
    left.SameNames right target := by
  intro mine present belongs visible theirs among same
  have kept : left.stays? mine.key = some mine := (stays?_eq_some_iff here).2 ⟨⟨present, belongs⟩, rfl⟩
  have alike := counterparts.stays mine.key
  rw [StaysAlike, kept, Option.map_some, Option.map_eq_some_iff] at alike
  obtain ⟨partner, stays, looks⟩ := alike
  obtain ⟨⟨listed, _⟩, named⟩ := (stays?_eq_some_iff there).1 stays
  obtain rfl := there.eq_of_key among listed (same.trans named.symm)
  have seen : mine.unnumbered.visibleTo target = true := visible
  have sight : theirs.unnumbered.visibleTo target = true := (visibleTo_of_looks looks target).trans seen
  have equal := shown mine.key
  simp only [shownTo, kept, stays, Option.some_or, Option.map_some, Option.filter_some, seen, sight, if_true,
    Option.some.injEq] at equal
  exact equal

theorem shownTo_of_sameNames (counterparts : left.Counterparts right target) (here : left.roster.WellFormed)
    (there : right.roster.WellFormed) (names : left.SameNames right target) (key : ProfileKey) :
    right.shownTo target key = left.shownTo target key := by
  have alike := counterparts.stays key
  unfold StaysAlike at alike
  unfold shownTo
  cases kept : left.stays? key with
  | none =>
      rw [kept, Option.map_none, Option.map_eq_none_iff] at alike
      rw [alike, Option.none_or, Option.none_or, counterparts.incoming_find? key]
  | some mine =>
      rw [kept, Option.map_some, Option.map_eq_some_iff] at alike
      obtain ⟨theirs, stays, looks⟩ := alike
      obtain ⟨⟨present, belongs⟩, named⟩ := (stays?_eq_some_iff here).1 kept
      obtain ⟨⟨among, _⟩, same⟩ := (stays?_eq_some_iff there).1 stays
      have sight := visibleTo_of_looks looks target
      simp only [stays, Option.some_or, Option.map_some, Option.filter_some, sight]
      cases visible : mine.unnumbered.visibleTo target with
      | false => rfl
      | true =>
          have equal : theirs.unnumbered = mine.unnumbered :=
            Profile.eq_of_nameless looks (names mine present belongs visible theirs among (same.trans named.symm))
          rw [equal]

/-- The other tenant is answered alike if and only if the same names are left. -/
theorem answersAlike_iff (counterparts : left.Counterparts right target) (leftReached : left.Reachable)
    (rightReached : right.Reachable) (different : target ≠ left.tenant) (leftRoom : left.HasRoom (.switchTenant target))
    (rightRoom : right.HasRoom (.switchTenant target)) :
    (left.switchTenant target).1.AnswersAlike (right.switchTenant target).1 ↔ left.SameNames right target := by
  have apart : target ≠ right.tenant := counterparts.tenant ▸ different
  have mine := getByKey?_switchTenant leftReached.sound leftReached.idle leftRoom different
  have theirs := getByKey?_switchTenant rightReached.sound rightReached.idle rightRoom apart
  constructor
  · rintro ⟨rename, answers⟩
    refine counterparts.sameNames_of_shownTo leftReached.sound.wellFormed rightReached.sound.wellFormed fun key => ?_
    have equal := congrArg (Option.map Profile.named) (answers.byKey key .none)
    have viewed : ∀ manager : Manager, Profile.named ∘ manager.view .none = Profile.named := by
      intro manager
      funext profile
      simp only [Function.comp_apply, view, Masking.hidesFrom]
      split <;> rfl
    have renamed : Profile.named ∘ Profile.renamed rename = Profile.named := rfl
    have unnumbered : Profile.named ∘ Profile.unnumbered = Profile.named := rfl
    rw [getByKey?, getByKey?, Option.map_map, Option.map_map, Option.map_map, renamed, viewed, viewed] at equal
    rw [← mine, ← theirs, Option.map_map, Option.map_map, unnumbered, equal]
  · intro names
    have alike := counterparts.shownTo_of_sameNames leftReached.sound.wellFormed rightReached.sound.wellFormed names
    have here : (left.switchTenant target).1.roster.WellFormed := (sound_switchTenant leftReached.sound leftRoom.taking).wellFormed
    have there : (right.switchTenant target).1.roster.WellFormed := (sound_switchTenant rightReached.sound rightRoom.taking).wellFormed
    obtain ⟨rename, renamed⟩ := Roster.exists_renaming here there fun key => by rw [mine, theirs, alike]
    refine ⟨rename, .of_renamed here there ?_ renamed⟩
    rw [randomizer_switchTenant, randomizer_switchTenant, counterparts.supported]

end Counterparts

/-- A shared profile names a private one. -/
def NamesPrivate (manager : Manager) : Prop :=
  ∃ gone ∈ manager.roster.all, manager.belongsToShared gone = false ∧
    ∃ kept ∈ manager.roster.all, kept.shared = true ∧ kept.names gone.key = true

/-- A shared profile names a private one that a switch dropped. -/
def LeavesTrace (manager : Manager) (target : Tenant) : Prop :=
  ∃ gone ∈ manager.roster.all, manager.belongsToShared gone = false ∧
    ∃ old ∈ manager.roster.all, old.shared = true ∧
      ∃ kept ∈ (manager.switchTenant target).1.roster.all, kept.id = old.id ∧ kept.names gone.key = true

theorem mem_switchTenant (sound : manager.books.Sound) (room : manager.HasRoom (.switchTenant target)) {profile : Profile}
    (present : profile ∈ manager.roster.all) (belongs : manager.belongsToShared profile = true) :
    profile ∈ (manager.switchTenant target).1.roster.all := by
  have left : profile ∈ (manager.leave target).roster.all := (mem_leave sound.wellFormed).2 ⟨present, belongs⟩
  obtain ⟨_, switched⟩ | ⟨_, _, switched⟩ | ⟨_, _, unlocked, switched⟩ | ⟨_, _, _, switched⟩ := manager.switchTenant_cases target
  all_goals rw [switched]
  · exact present
  · exact present
  · exact mem_loadSection (sound_leave sound target) (room_leave room unlocked) left
  · exact left

theorem leavesTrace_iff (sound : manager.books.Sound) (room : manager.HasRoom (.switchTenant target)) :
    manager.LeavesTrace target ↔ manager.NamesPrivate := by
  have stays : ∀ old ∈ manager.roster.all, old.shared = true → old ∈ (manager.switchTenant target).1.roster.all := by
    intro old present shared
    refine mem_switchTenant sound room present ?_
    rw [belongsToShared, shared, Bool.true_or]
  constructor
  · rintro ⟨gone, present, owned, old, among, shared, kept, after, same, names⟩
    obtain rfl := (sound_switchTenant sound room.taking).wellFormed.eq_of_id after (stays old among shared) same
    exact ⟨gone, present, owned, kept, among, shared, names⟩
  · rintro ⟨gone, present, owned, kept, among, shared, names⟩
    exact ⟨gone, present, owned, kept, among, shared, kept, stays kept among shared, rfl, names⟩

/-- Two runs come up to the switch to another tenant. They start from counterparts, say from one state. Then either of
them does work on private profiles of the current tenant, of its own; and both do work on a shared profile, each
where it has it, from which that profile comes out alike. -/
inductive Abreast (target : Tenant) : Manager → Manager → Prop where
  | start {left right : Manager} (leftReached : left.Reachable) (rightReached : right.Reachable)
    (different : target ≠ left.tenant) (counterparts : left.Counterparts right target) : Abreast target left right
  | mine {left right : Manager} {operations : List Operation} (before : Abreast target left right)
    (ordinary : left.Along Ordinary operations)
    (works : left.Along (fun manager operation => manager.worksPrivately operation = true) operations) :
    Abreast target (left.run operations) right
  | theirs {left right : Manager} {operations : List Operation} (before : Abreast target left right)
    (ordinary : right.Along Ordinary operations)
    (works : right.Along (fun manager operation => manager.worksPrivately operation = true) operations) :
    Abreast target left (right.run operations)
  | both {left right : Manager} {mine theirs : Operation} (before : Abreast target left right) (key : ProfileKey)
    (leftOrdinary : left.Ordinary mine) (rightOrdinary : right.Ordinary theirs)
    (leftWorks : left.worksUnder key mine = true) (rightWorks : right.worksUnder key theirs = true)
    (alike : (left.perform mine).1.StaysAlike (right.perform theirs).1 key) :
    Abreast target (left.perform mine).1 (right.perform theirs).1

/-- The runs stay counterparts. -/
theorem Abreast.counterparts (abreast : Abreast target left right) :
    left.Reachable ∧ right.Reachable ∧ target ≠ left.tenant ∧ left.Counterparts right target := by
  induction abreast with
  | start leftReached rightReached different counterparts => exact ⟨leftReached, rightReached, different, counterparts⟩
  | mine before ordinary works ih =>
      obtain ⟨leftReached, rightReached, different, counterparts⟩ := ih
      have beside := beside_run leftReached.sound ordinary works
      exact ⟨leftReached.run ordinary, rightReached, beside.tenant ▸ different, counterparts.beside different beside⟩
  | theirs before ordinary works ih =>
      obtain ⟨leftReached, rightReached, different, counterparts⟩ := ih
      have beside := beside_run rightReached.sound ordinary works
      have apart := counterparts.tenant ▸ different
      exact ⟨leftReached, rightReached.run ordinary, different, (counterparts.symm.beside apart beside).symm⟩
  | both before key leftOrdinary rightOrdinary leftWorks rightWorks alike ih =>
      obtain ⟨leftReached, rightReached, different, counterparts⟩ := ih
      have here := leavesAlone_of_worksUnder leftReached.sound leftWorks
      have there := leavesAlone_of_worksUnder rightReached.sound rightWorks
      refine ⟨leftReached.perform leftOrdinary.room, rightReached.perform rightOrdinary.room, here.tenant ▸ different,
        counterparts.of_leavesAlone different here there fun other same => ?_⟩
      rw [not_not.1 same]
      exact alike

/-- The tenant that comes to the foreground is answered alike in both runs, up to a renaming of ids, if and only if
what is shown to it names the same profiles in both; and a shared profile names a private one that was dropped if and
only if it did so before. -/
theorem answersAlike_switchTenant_iff (abreast : Abreast target left right) (leftRoom : left.HasRoom (.switchTenant target))
    (rightRoom : right.HasRoom (.switchTenant target)) :
    ((left.switchTenant target).1.AnswersAlike (right.switchTenant target).1 ↔ left.SameNames right target) ∧
      (left.LeavesTrace target ↔ left.NamesPrivate) ∧ (right.LeavesTrace target ↔ right.NamesPrivate) := by
  obtain ⟨leftReached, rightReached, different, counterparts⟩ := abreast.counterparts
  exact ⟨counterparts.answersAlike_iff leftReached rightReached different leftRoom rightRoom,
    leavesTrace_iff leftReached.sound leftRoom, leavesTrace_iff rightReached.sound rightRoom⟩

instance (left right : Manager) (key : ProfileKey) : Decidable (left.StaysAlike right key) := inferInstanceAs (Decidable (_ = _))

instance (left right : Manager) (target : Tenant) : Decidable (left.SameNames right target) :=
  inferInstanceAs (Decidable (∀ mine ∈ left.roster.all, _))

def addLobby : Operation := .addOrUpdate (.psk "Lobby" "password") ⟨Uid.system, "android"⟩

def addHome : Operation := .addOrUpdate { Draft.psk "Home" "password" with shared := false } ⟨Uid.system, "android"⟩

/-- A network is observed behind some gateway, and picked. -/
def workAtHome (id : ProfileId) (gateway : String) : List Operation :=
  [.setGateway id gateway,
    .observe id ⟨"Home", ⟨#v[0x00, 0x24, 0x01, 0x10, 0x20, 0x03]⟩, .psk, -50, 2412, 0, 0, false⟩,
    .enable id true ⟨Uid.system, "android"⟩]

def withNothing : Manager := onEmptyStore.run [.load, .change (.unlock 1)]

/-- A shared network behind a gateway. -/
def withLobby : Manager := withNothing.run [addLobby, .setGateway ⟨0⟩ "aa:bb:cc:dd:ee:ff"]

/-- A private network, and a shared one that was added after it. -/
def withHomeAndLobby : Manager := withNothing.run [addHome, addLobby, .setGateway ⟨1⟩ "aa:bb:cc:dd:ee:ff"]

theorem reachable_withNothing : withNothing.Reachable := (reachableAlone_onEmptyStore.run (by decide)).reachable

theorem abreast_withHomeAndLobby : Abreast 1 withHomeAndLobby withLobby := by
  have started : Abreast 1 withNothing withNothing :=
    .start reachable_withNothing reachable_withNothing (by decide) (.refl withNothing 1)
  have alone : Abreast 1 (withNothing.run [addHome]) withNothing := started.mine (by decide) (by decide)
  have added : Abreast 1 ((withNothing.run [addHome]).perform addLobby).1 (withNothing.perform addLobby).1 :=
    alone.both (.ofNetwork "Lobby" .psk) (by decide) (by decide) (by decide) (by decide)
      (by decide)
  exact added.both (.ofNetwork "Lobby" .psk) (by decide) (by decide) (by decide) (by decide)
    (by decide)

/-- Work at another gateway leaves no trace. -/
theorem answersAlike_workAtHome :
    ((withHomeAndLobby.run (workAtHome ⟨0⟩ "00:24:01:10:20:01")).switchTenant 1).1.AnswersAlike (withLobby.switchTenant 1).1 := by
  have abreast : Abreast 1 (withHomeAndLobby.run (workAtHome ⟨0⟩ "00:24:01:10:20:01")) withLobby :=
    abreast_withHomeAndLobby.mine (by decide) (by decide)
  exact (answersAlike_switchTenant_iff abreast (by decide) (by decide)).1.2 (by decide)

/-- At the same gateway, the shared network is linked to the private one, and still is when that one is dropped. -/
theorem not_answersAlike_sameGateway :
    Abreast 1 (withLobby.run (addHome :: workAtHome ⟨1⟩ "aa:bb:cc:dd:ee:ff")) withLobby ∧
    ¬ ((withLobby.run (addHome :: workAtHome ⟨1⟩ "aa:bb:cc:dd:ee:ff")).switchTenant 1).1.AnswersAlike
        (withLobby.switchTenant 1).1 ∧
    (withLobby.run (addHome :: workAtHome ⟨1⟩ "aa:bb:cc:dd:ee:ff")).LeavesTrace 1 := by
  have reached : withLobby.Reachable := abreast_withHomeAndLobby.counterparts.2.1
  have started : Abreast 1 withLobby withLobby := .start reached reached (by decide) (.refl withLobby 1)
  refine ⟨started.mine (by decide) (by decide), ?_, ?_⟩
  · rintro ⟨rename, answers⟩
    have equal := congrArg (Option.map Profile.named) (answers.byKey (.ofNetwork "Lobby" .psk) .none)
    rw [Option.map_map] at equal
    have different : ((withLobby.switchTenant 1).1.getByKey? (.ofNetwork "Lobby" .psk) .none).map Profile.named ≠
        (((withLobby.run (addHome :: workAtHome ⟨1⟩ "aa:bb:cc:dd:ee:ff")).switchTenant 1).1.getByKey? (.ofNetwork "Lobby" .psk)
          .none).map Profile.named := by decide
    exact different equal
  · unfold LeavesTrace
    decide

end Manager

end SavedNetworks
