import SavedNetworks.Proofs.Manager.ProfileWork

/-!
What work on some profiles leaves alone. Of the profiles that stay when the tenant leaves, those under the keys that
the work is not about are as before, but for the profiles that they name (`Manager.leavesAlone_perform`); the
profiles that go with the tenant may be worked on under any key.
-/

namespace SavedNetworks

namespace Manager

variable {manager before middle after : Manager} {id : ProfileId} {key : ProfileKey} {keys : ProfileKey → Prop}
  {profile : Profile} {draft : Draft} {caller : Owner} {edit : Edit} {operation : Operation}

theorem belongsToShared_congr {old new : Profile} (tenant : after.tenant = before.tenant) (shared : new.shared = old.shared)
    (creator : new.creator = old.creator) : after.belongsToShared new = before.belongsToShared old := by
  have current : after.books.roster.tenant = before.books.roster.tenant := tenant
  exact Books.belongsToShared_congr current shared creator

theorem stays?_eq_some_iff (wellFormed : manager.roster.WellFormed) :
    manager.stays? key = some profile ↔
      (profile ∈ manager.roster.all ∧ manager.belongsToShared profile = true) ∧ profile.key = key := by
  rw [stays?, Option.filter_eq_some_iff, wellFormed.holder?_eq_some_iff]
  exact and_right_comm

/-- What stays under some keys is as before, but for what it names. -/
structure LeavesAlone (keys : ProfileKey → Prop) (before after : Manager) : Prop extends before.SameSurroundings after where
  stays : ∀ key, keys key → (after.stays? key).map Profile.nameless = (before.stays? key).map Profile.nameless

/-- A profile that goes when the tenant leaves, or is under none of the keys. -/
def Outside (keys : ProfileKey → Prop) (manager : Manager) (profile : Profile) : Prop :=
  manager.belongsToShared profile = true → ¬ keys profile.key

theorem Outside.congr {old new : Profile} (outside : before.Outside keys old) (tenant : after.tenant = before.tenant)
    (named : new.key = old.key) (shared : new.shared = old.shared) (creator : new.creator = old.creator) :
    after.Outside keys new := by
  intro belongs
  rw [named]
  exact outside ((belongsToShared_congr tenant shared creator).symm.trans belongs)

namespace LeavesAlone

theorem of_roster (same : before.SameSurroundings after) (roster : after.roster = before.roster) :
    LeavesAlone keys before after := by
  have stays : after.stays? = before.stays? := by
    unfold stays? belongsToShared hasUid Manager.tenant
    rw [roster]
  exact ⟨same, fun key _ => by rw [stays]⟩

theorem refl (keys : ProfileKey → Prop) (manager : Manager) : LeavesAlone keys manager manager := of_roster (.refl manager) rfl

theorem trans (first : LeavesAlone keys before middle) (second : LeavesAlone keys middle after) :
    LeavesAlone keys before after where
  toSameSurroundings := first.toSameSurroundings.trans second.toSameSurroundings
  stays := fun key among => (second.stays key among).trans (first.stays key among)

/-- Whoever sees the profiles besides one that is outside of the keys sees what stays under them. -/
theorem of_looks (same : before.SameSurroundings after) (wellFormed : before.roster.WellFormed)
    (looks : after.roster.through (Profile.besides id) = before.roster.through (Profile.besides id))
    (outside : ∀ profile ∈ before.roster.all, profile.id = id → before.Outside keys profile) :
    LeavesAlone keys before after := by
  refine ⟨same, fun key among => ?_⟩
  have holders := Roster.holder?_of_through looks key
  unfold stays?
  cases there : before.roster.holder? key with
  | none =>
      rw [there, Option.map_none, Option.map_eq_none_iff] at holders
      rw [holders]
      rfl
  | some old =>
      rw [there, Option.map_some, Option.map_eq_some_iff] at holders
      obtain ⟨new, here, alike⟩ := holders
      have shared := Profile.same_of_look Profile.shared (fun profile => (Profile.owner_besides id profile).1) alike
      have creator := Profile.same_of_look Profile.creator (fun profile => (Profile.owner_besides id profile).2) alike
      have belongs : after.belongsToShared new = before.belongsToShared old := belongsToShared_congr same.tenant shared creator
      obtain ⟨present, named⟩ := wellFormed.holder?_eq_some_iff.1 there
      rw [here]
      cases staying : before.belongsToShared old with
      | false => rw [Option.filter_some_neg staying, Option.filter_some_neg (belongs.trans staying)]
      | true =>
          have apart : old.id ≠ id := fun worked => outside old present worked staying (named ▸ among)
          rw [Option.filter_some_pos staying, Option.filter_some_pos (belongs.trans staying), Option.map_some,
            Option.map_some, Profile.nameless_of_besides alike apart]

end LeavesAlone

theorem leavesAlone_persist (manager : Manager) (force : Bool) : LeavesAlone keys manager (manager.persist force) :=
  .of_roster (sameSurroundings_persist manager force) (by rw [persist_eq])

theorem leavesAlone_announce (manager : Manager) (event : Event) : LeavesAlone keys manager (manager.announce event) :=
  .of_roster (.of_eq rfl rfl) rfl

theorem About.leavesAlone (about : before.About id after) (wellFormed : before.roster.WellFormed)
    (outside : ∀ profile, before.roster.get? id = some profile → before.Outside keys profile) :
    LeavesAlone keys before after := by
  cases found : before.roster.get? id with
  | none => exact .of_roster about.toSameSurroundings (about.unseen found)
  | some profile =>
      refine .of_looks about.toSameSurroundings wellFormed about.looks fun other among worked => ?_
      obtain rfl := wellFormed.eq_of_id among (Roster.mem_of_get? found) (worked.trans (wellFormed.id_of_get? found).symm)
      exact outside other found

/-- Some profile that stays looks like the record, but for what it names. -/
def StaysAs (manager : Manager) (record : Profile) : Prop :=
  ∃ profile, (profile ∈ manager.roster.all ∧ manager.belongsToShared profile = true) ∧ profile.nameless = record

namespace LeavesAlone

theorem of_staysAs (surroundings : before.SameSurroundings after) (ready : before.roster.WellFormed)
    (still : after.roster.WellFormed) (same : ∀ record, keys record.key → (after.StaysAs record ↔ before.StaysAs record)) :
    LeavesAlone keys before after := by
  refine ⟨surroundings, fun key among => ?_⟩
  ext record
  have named : ∀ {manager : Manager}, manager.roster.WellFormed →
      ((manager.stays? key).map Profile.nameless = some record ↔ record.key = key ∧ manager.StaysAs record) := by
    intro manager wellFormed
    simp only [Option.map_eq_some_iff, stays?_eq_some_iff wellFormed, StaysAs]
    constructor
    · rintro ⟨profile, ⟨stays, rfl⟩, rfl⟩
      exact ⟨rfl, profile, stays, rfl⟩
    · rintro ⟨rfl, profile, stays, rfl⟩
      exact ⟨profile, ⟨stays, rfl⟩, rfl⟩
  rw [named still, named ready]
  exact and_congr_right fun here => same record (here ▸ among)

/-- A profile is gone, with what referred to it. -/
theorem of_drop (wellFormed : before.roster.WellFormed) (found : before.roster.get? id = some profile)
    (outside : before.Outside keys profile) (surroundings : after.surroundings = before.surroundings)
    (roster : after.roster = before.roster.drop id profile.key) : LeavesAlone keys before after := by
  have tenant : after.tenant = before.tenant := (congrArg Roster.tenant roster).trans (Roster.tenant_drop ..)
  have still : after.roster.WellFormed := roster ▸ wellFormed.drop id profile.key
  have belongs : ∀ old, after.belongsToShared (before.roster.released profile.key old) = before.belongsToShared old := by
    intro old
    obtain ⟨shared, creator⟩ := Roster.released_owner before.roster profile.key old
    exact belongsToShared_congr tenant shared creator
  refine .of_staysAs (.of_eq surroundings tenant) wellFormed still fun record among => ?_
  unfold StaysAs
  rw [roster]
  simp only [wellFormed.mem_drop]
  constructor
  · rintro ⟨_, ⟨⟨old, present, _, rfl⟩, stays⟩, rfl⟩
    exact ⟨old, ⟨present, (belongs old).symm.trans stays⟩, (Profile.nameless_released ..).symm⟩
  · rintro ⟨old, ⟨present, stays⟩, rfl⟩
    have elsewhere : old.id ≠ id := by
      intro same
      obtain rfl := wellFormed.eq_of_id present (Roster.mem_of_get? found) (same.trans (wellFormed.id_of_get? found).symm)
      exact outside stays among
    exact ⟨_, ⟨⟨old, present, elsewhere, rfl⟩, (belongs old).trans stays⟩, Profile.nameless_released ..⟩

/-- A profile is stored, under an id that none of those that stay under the keys has. -/
theorem of_put {roster : Roster} (wellFormed : before.roster.WellFormed) (stored : before.roster.put profile = .ok roster)
    (outside : before.Outside keys profile)
    (apart : ∀ other ∈ before.roster.all, other.id = profile.id → before.Outside keys other)
    (surroundings : after.surroundings = before.surroundings) (same : after.roster = roster) :
    LeavesAlone keys before after := by
  have tenant : after.tenant = before.tenant := (congrArg Roster.tenant same).trans (Roster.tenant_put stored)
  have still : after.roster.WellFormed := same ▸ wellFormed.put stored
  have belongs : after.belongsToShared = before.belongsToShared := funext fun _ => belongsToShared_congr tenant rfl rfl
  refine .of_staysAs (.of_eq surroundings tenant) wellFormed still fun record among => ?_
  unfold StaysAs
  rw [same, belongs]
  simp only [wellFormed.mem_put stored]
  constructor
  · rintro ⟨other, ⟨rfl | ⟨present, _⟩, stays⟩, rfl⟩
    · exact absurd among (outside stays)
    · exact ⟨other, ⟨present, stays⟩, rfl⟩
  · rintro ⟨other, ⟨present, stays⟩, rfl⟩
    exact ⟨other, ⟨.inr ⟨present, fun clash => apart other present clash stays among⟩, stays⟩, rfl⟩

end LeavesAlone

theorem leavesAlone_removeAnyway (wellFormed : manager.roster.WellFormed)
    (outside : ∀ profile, manager.roster.get? id = some profile → manager.Outside keys profile) :
    LeavesAlone keys manager (manager.removeAnyway id).1 := by
  cases found : manager.roster.get? id with
  | none =>
      rw [removeAnyway_of_not_found found]
      exact .refl keys manager
  | some profile =>
      obtain ⟨journal, told⟩ := manager.exists_forgetKeys profile
      have dropped : LeavesAlone keys manager ((manager.forgetKeys profile).without id profile) := by
        rw [told]
        exact .of_drop wellFormed found (outside profile found) rfl rfl
      rw [removeAnyway_of_found found]
      split
      · exact (dropped.trans (leavesAlone_persist _ true)).trans (leavesAlone_announce _ _)
      · exact dropped.trans (leavesAlone_announce _ _)

theorem leavesAlone_remove (wellFormed : manager.roster.WellFormed)
    (outside : ∀ profile, manager.roster.get? id = some profile → manager.Outside keys profile) (caller : Owner) :
    LeavesAlone keys manager (manager.remove id caller).1 := by
  rcases remove_cases manager id caller with refused | ⟨goes, _⟩
  · rw [refused]
    exact .refl keys manager
  · rw [goes]
    exact leavesAlone_removeAnyway wellFormed outside

theorem leavesAlone_giveWay (wellFormed : manager.roster.WellFormed)
    (outside : ∀ id profile, manager.replaced? draft = some id → manager.roster.get? id = some profile →
      manager.Outside keys profile) : LeavesAlone keys manager (manager.giveWay draft) := by
  unfold giveWay
  split
  · next id replaced => exact leavesAlone_removeAnyway wellFormed fun profile => outside id profile replaced
  · exact .refl keys manager

/-- The id of what an edit stores: the next one, or that of the profile that the edit changes. -/
def TakesId (manager : Manager) (draft : Draft) (id : ProfileId) : Prop :=
  id = ⟨manager.nextId⟩ ∨ ∃ existing, manager.edited? draft (manager.replaced? draft) = some existing ∧ id = existing.id

/-- Whoever has that id when the edit is stored is the profile that it changes. -/
theorem TakesId.exists_edited (takes : manager.TakesId draft profile.id) (sound : manager.books.Sound) {other : Profile}
    (present : other ∈ (manager.giveWay draft).roster.all) (same : other.id = profile.id) :
    ∃ existing, manager.edited? draft (manager.replaced? draft) = some existing ∧ other.key = existing.key ∧
      other.shared = existing.shared ∧ other.creator = existing.creator := by
  have ready := sound_giveWay sound draft
  rcases takes with fresh | ⟨existing, chosen, named⟩
  · have given : (manager.giveWay draft).books.nextId = manager.nextId := (giveWay_keeps sound.wellFormed draft).2.2
    exact absurd same (ready.ne_of_fresh (given ▸ fresh) present)
  · obtain ⟨seen, apart⟩ := edited?_eq_some sound.wellFormed chosen
    obtain ⟨current, still, key, shared, creator, _⟩ := get?_giveWay sound.wellFormed seen apart
    have sameId := (same.trans named).trans (ready.wellFormed.id_of_get? still).symm
    obtain rfl := ready.wellFormed.eq_of_id present (Roster.mem_of_get? still) sameId
    exact ⟨existing, chosen, key.symm, shared.symm, creator.symm⟩

/-- An edit is refused and changes no profile, or its outcome is stored. -/
theorem carryOut_stores (sound : manager.books.Sound)
    (prepared : manager.prepare draft caller (manager.replaced? draft) = .ok edit) :
    ((manager.giveWay draft).carryOut draft edit).1.roster = (manager.giveWay draft).roster ∧
        (∃ failure, ((manager.giveWay draft).carryOut draft edit).2 = .error failure) ∨
      ∃ profile roster, (manager.giveWay draft).roster.put profile = .ok roster ∧
        ((manager.giveWay draft).carryOut draft edit).1.roster = roster ∧
        ((manager.giveWay draft).carryOut draft edit).2 = .ok (edit.result profile.id) ∧
        (profile.key = edit.outcome.key ∧ profile.shared = edit.outcome.shared ∧ profile.creator = edit.outcome.creator) ∧
        manager.TakesId draft profile.id := by
  have outlines := edit.outline_outcome
  rcases carryOut_of_prepared sound.wellFormed prepared with
    ⟨failure, after, carried, unchanged⟩ | ⟨profile, roster, after, carried, stored, looks, how⟩
  all_goals rw [carried]
  · refine .inl ⟨?_, failure, rfl⟩
    rcases unchanged with same | same <;> exact congrArg Books.roster same
  · have same : ∀ {α : Type} (field : Profile → α), (∀ profile, field profile.outline = field profile) →
        (∀ profile id, field (profile.withId id) = field profile) → field profile = field edit.outcome := by
      intro α field shown unmoved
      rw [Profile.same_of_look field shown looks, unmoved, Profile.same_of_look field shown outlines]
    have owned := And.intro (same Profile.shared (fun _ => rfl) fun _ _ => rfl) (same Profile.creator (fun _ => rfl) fun _ _ => rfl)
    have key := same Profile.key (fun _ => rfl) fun _ _ => rfl
    rcases how with ⟨_, _, fresh, _, _, _, books⟩ | ⟨existing, _, chosen, _, id, _, _, _, _, books⟩
    · exact .inr ⟨profile, roster, stored, congrArg Books.roster books, rfl, ⟨key, owned⟩, .inl fresh⟩
    · exact .inr ⟨profile, roster, stored, congrArg Books.roster books, rfl, ⟨key, owned⟩, .inr ⟨existing, chosen, id⟩⟩

/-- An edit whose placeholder, source and outcome are outside of the keys. -/
theorem leavesAlone_addOrUpdate (sound : manager.books.Sound)
    (placeholder : ∀ id profile, manager.replaced? draft = some id → manager.roster.get? id = some profile →
      manager.Outside keys profile)
    (source : ∀ existing, manager.edited? draft (manager.replaced? draft) = some existing → manager.Outside keys existing)
    (outcome : ∀ edit, manager.hasUid caller.uid = true → manager.prepare draft caller (manager.replaced? draft) = .ok edit →
      manager.Outside keys edit.outcome) :
    LeavesAlone keys manager (manager.addOrUpdate draft caller).1 := by
  rcases addOrUpdate_cases manager draft caller with ⟨failure, refused⟩ | ⟨edit, owned, _, prepared, answered⟩
  · rw [refused]
    exact .refl keys manager
  · have ready := sound_giveWay sound draft
    have gave := leavesAlone_giveWay sound.wellFormed placeholder
    have surroundings := (manager.giveWay draft).surroundings_carryOut draft edit
    have stores := carryOut_stores sound prepared
    rw [answered]
    generalize (manager.giveWay draft).carryOut draft edit = done at surroundings stores
    obtain ⟨after, answer⟩ := done
    rcases stores with ⟨same, failure, rfl⟩ | ⟨profile, roster, stored, same, rfl, ⟨key, shared, creator⟩, under⟩
    · exact gave.trans (.of_roster (.of_eq surroundings (congrArg Roster.tenant same)) same)
    · have outside : ∀ {later : Manager}, later.tenant = manager.tenant → later.Outside keys profile :=
        fun tenant => (outcome edit owned prepared).congr tenant key shared creator
      have placed : LeavesAlone keys (manager.giveWay draft) after := by
        refine .of_put ready.wellFormed stored (outside gave.tenant) (fun other present clash => ?_) surroundings same
        obtain ⟨existing, chosen, named, shared, creator⟩ := under.exists_edited sound present clash
        exact (source existing chosen).congr gave.tenant named shared creator
      have still : after.roster.WellFormed := same ▸ ready.wellFormed.put stored
      refine (gave.trans placed).trans ((about_followUp still (edit.result profile.id)).leavesAlone still fun other found => ?_)
      have present := Roster.mem_of_get? found
      rw [same] at present
      rcases (ready.wellFormed.mem_put stored).1 present with rfl | ⟨_, elsewhere⟩
      · exact outside (placed.tenant.trans gave.tenant)
      · exact absurd (still.id_of_get? found) elsewhere

/-- The id leads to a profile that may be worked on, or to none. -/
def leadsTo (manager : Manager) (permits : Profile → Bool) (id : ProfileId) : Bool := (manager.roster.get? id).all permits

/-- What gives way to a draft, what the draft changes and what comes out may be worked on. -/
def editsOn (manager : Manager) (permits : Profile → Bool) (draft : Draft) (caller : Owner) : Bool :=
  (manager.replaced? draft).all (manager.leadsTo permits) &&
    (manager.edited? draft (manager.replaced? draft)).all permits &&
    (!manager.hasUid caller.uid || (manager.prepare draft caller (manager.replaced? draft)).toOption.all (permits ·.outcome))

/-- Is about profiles that may be worked on, or about none at all. -/
def worksOn (manager : Manager) (permits : Profile → Bool) : Operation → Bool
  | .addOrUpdate draft caller => manager.editsOn permits draft caller
  | .remove id _ => manager.leadsTo permits id
  | .removeSuggestion key | .removePasspoint key => (manager.roster.getByKey? key).all permits
  | .dismiss ssid | .checkDismissal ssid => (manager.unsaved? ssid).all permits
  | .change (.advance _) | .change (.setWall _) | .change (.block ..) | .change (.setWatchdog _) | .addListener _
  | .setVerbose _ | .save _ | .clearDismissals => true
  | operation => operation.subject?.any (manager.leadsTo permits)

theorem leavesAlone_removeByKey (wellFormed : manager.roster.WellFormed)
    (outside : ∀ profile, manager.roster.getByKey? key = some profile → manager.Outside keys profile) (doomed : Profile → Bool) :
    LeavesAlone keys manager (manager.removeByKey key doomed).1 := by
  unfold removeByKey
  split
  · next profile chosen =>
      have held := (Option.filter_eq_some_iff.1 chosen).1
      have found := (wellFormed.getByKey?_eq_some.1 held).1
      refine leavesAlone_removeAnyway wellFormed fun other again => ?_
      obtain rfl := Option.some.inj (found.symm.trans again)
      exact outside profile held
  · exact .refl keys manager

section Dismissals

variable {ssid : String} (wellFormed : manager.roster.WellFormed)
  (outside : ∀ profile, manager.unsaved? ssid = some profile → manager.Outside keys profile)

include wellFormed outside

theorem leavesAlone_of_unsaved? (found : manager.unsaved? ssid = some profile) (about : manager.About profile.id after) :
    LeavesAlone keys manager after := by
  refine about.leavesAlone wellFormed fun other again => ?_
  obtain rfl := Option.some.inj ((get?_of_unsaved? wellFormed found).symm.trans again)
  exact outside profile found

theorem leavesAlone_dismiss : LeavesAlone keys manager (manager.dismiss ssid).1 := by
  cases found : manager.unsaved? ssid with
  | none =>
      have same : (manager.dismiss ssid).1 = manager := by simp only [dismiss, found]
      rw [same]
      exact .refl keys manager
  | some profile => exact leavesAlone_of_unsaved? wellFormed outside found (about_dismiss wellFormed found)

theorem leavesAlone_checkDismissal : LeavesAlone keys manager (manager.checkDismissal ssid).1 := by
  cases found : manager.unsaved? ssid with
  | none =>
      have same : ∃ dismissed, (manager.checkDismissal ssid).1 = { manager with dismissed } := by
        have still : ({ manager with dismissed := manager.dismissed.erase ssid } : Manager).unsaved? ssid = none := found
        rw [checkDismissal_eq]
        split
        · exact ⟨_, rfl⟩
        · split
          · exact ⟨_, rfl⟩
          · simp only [still]
            exact ⟨_, rfl⟩
      obtain ⟨dismissed, same⟩ := same
      rw [same]
      exact .of_roster (.of_eq rfl rfl) rfl
  | some profile => exact leavesAlone_of_unsaved? wellFormed outside found (about_checkDismissal wellFormed found)

end Dismissals

/-- Work on profiles that are outside of some keys. -/
theorem leavesAlone_perform {permits : Profile → Bool} (sound : manager.books.Sound)
    (outside : ∀ profile, permits profile = true → manager.Outside keys profile)
    (works : manager.worksOn permits operation = true) : LeavesAlone keys manager (manager.perform operation).1 := by
  have wellFormed : manager.roster.WellFormed := sound.wellFormed
  have all : ∀ {found : Option Profile}, found.all permits = true → ∀ profile, found = some profile →
      manager.Outside keys profile :=
    fun every profile here => outside profile ((Option.all_eq_true ..).1 every profile here)
  have onSubject : operation.subject?.any (manager.leadsTo permits) = true → LeavesAlone keys manager (manager.perform operation).1 := by
    intro worked
    obtain ⟨id, subject, leads⟩ := (Option.any_eq_true ..).1 worked
    exact (about_perform wellFormed subject).leavesAlone wellFormed (all leads)
  cases operation with
  | addOrUpdate draft caller =>
      have edits : manager.editsOn permits draft caller = true := works
      simp only [editsOn, Bool.and_eq_true, Bool.or_eq_true, Bool.not_eq_true'] at edits
      obtain ⟨⟨placeholder, source⟩, outcome⟩ := edits
      refine leavesAlone_addOrUpdate sound (fun id profile replaced => all ((Option.all_eq_true ..).1 placeholder id replaced) profile)
        (all source) fun edit owned prepared => ?_
      have permitted := outcome.resolve_left (ne_false_of_eq_true owned)
      rw [prepared] at permitted
      exact outside edit.outcome permitted
  | remove id caller => exact leavesAlone_remove wellFormed (all works) caller
  | removeSuggestion key => exact leavesAlone_removeByKey wellFormed (all works) _
  | removePasspoint key => exact leavesAlone_removeByKey wellFormed (all works) _
  | dismiss ssid => exact leavesAlone_dismiss wellFormed (all works)
  | checkDismissal ssid => exact leavesAlone_checkDismissal wellFormed (all works)
  | change change =>
      cases change with
      | advance | setWall | block | setWatchdog => exact .of_roster (.of_eq rfl rfl) rfl
      | unlock | lock | failNextRead | failWrites | write => cases works
  | addListener | setVerbose | clearDismissals => exact .of_roster (.of_eq rfl rfl) rfl
  | save force => exact leavesAlone_persist manager force
  | _ => exact onSubject works

end Manager

end SavedNetworks
