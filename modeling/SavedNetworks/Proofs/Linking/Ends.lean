import Mathlib.Data.List.Nodup
import SavedNetworks.Proofs.Roster.Outline

/-!
Which profile has a link to which key, and what carrying out decisions makes of that. Together with the profiles without
their links this is all there is to a roster (`Roster.eq_of_linksTo_iff`).
-/

namespace SavedNetworks

namespace Profile

/-- A profile without its links. -/
def unlinked (profile : Profile) : Profile := { profile with linked := .empty }

variable {left right : Profile}

theorem same_of_unlinked (same : left.unlinked = right.unlinked) :
    left.id = right.id ∧ left.security = right.security ∧ left.ephemeral = right.ephemeral := by
  have id := congrArg Profile.id same
  have security := congrArg Profile.security same
  have ephemeral := congrArg Profile.ephemeral same
  exact ⟨id, security, ephemeral⟩

theorem eq_of_unlinked (same : left.unlinked = right.unlinked) (linked : left.linked = right.linked) :
    left = right :=
  calc
    left = { left.unlinked with linked := left.linked } := rfl
    _ = { right.unlinked with linked := right.linked } := by rw [same, linked]
    _ = right := rfl

end Profile

namespace Roster

variable {roster after : Roster} {profile : Profile} {id holder : ProfileId} {key : ProfileKey}
  {change : Profile → Profile}

/-- The profile under an id has a link to a key. -/
def LinksTo (roster : Roster) (id : ProfileId) (key : ProfileKey) : Prop :=
  ∃ profile, roster.profiles.get? id = some profile ∧ key ∈ profile.linked

theorem linksTo_iff (found : roster.profiles.get? id = some profile) (key : ProfileKey) :
    roster.LinksTo id key ↔ key ∈ profile.linked := by
  simp [LinksTo, found]

instance (roster : Roster) (id : ProfileId) (key : ProfileKey) : Decidable (roster.LinksTo id key) :=
  decidable_of_iff ((roster.profiles.get? id).any (key ∈ ·.linked) = true) (by simp [LinksTo, Option.any_eq_true])

theorem keepsName_unlinked : KeepsName Profile.unlinked := fun _ => ⟨rfl, rfl⟩

theorem hidesLinks_unlinked : HidesLinks Profile.unlinked := ⟨fun _ _ => rfl, fun _ _ => rfl⟩

/-- Rosters that differ in their links at most, and not in those either. -/
theorem eq_of_linksTo_iff (same : after.through Profile.unlinked = roster.through Profile.unlinked)
    (links : ∀ id key, after.LinksTo id key ↔ roster.LinksTo id key) : after = roster := by
  obtain ⟨index, tenant, looks⟩ := through_eq_iff.1 same
  have profiles : after.profiles = roster.profiles := by
    refine SortedMap.ext_get? fun id => ?_
    have look := looks id
    cases here : after.profiles.get? id with
    | none =>
        rw [here, Option.map_none, eq_comm, Option.map_eq_none_iff] at look
        exact look.symm
    | some profile =>
        rw [here, Option.map_some, eq_comm, Option.map_eq_some_iff] at look
        obtain ⟨other, there, look⟩ := look
        have linked : profile.linked = other.linked := SortedSet.ext_mem fun key => by
          rw [← linksTo_iff here key, ← linksTo_iff there key, links]
        rw [there, Profile.eq_of_unlinked look.symm linked]
  cases after
  cases roster
  simp_all

/-- Who is seen does not depend on links. -/
theorem map_get?_of_through (same : after.through Profile.unlinked = roster.through Profile.unlinked) (id : ProfileId) :
    (after.get? id).map Profile.unlinked = (roster.get? id).map Profile.unlinked := by
  obtain ⟨_, tenant, looks⟩ := through_eq_iff.1 same
  have seen (one : Roster) : (one.get? id).map Profile.unlinked =
      ((one.profiles.get? id).map Profile.unlinked).filter (·.visibleTo one.tenant) := by
    unfold get?
    cases one.profiles.get? id with
    | none => rfl
    | some profile =>
        have look : profile.unlinked.visibleTo one.tenant = one.isVisible profile := rfl
        rw [Option.map_some, Option.filter_some, Option.filter_some, look]
        split <;> rfl
  rw [seen, seen, looks, tenant]

theorem isSome_get?_of_through (same : after.through Profile.unlinked = roster.through Profile.unlinked)
    (id : ProfileId) : (after.get? id).isSome = (roster.get? id).isSome := by
  have seen := congrArg Option.isSome (map_get?_of_through same id)
  rwa [Option.isSome_map, Option.isSome_map] at seen

theorem linksTo_modify (found : roster.get? id = some profile) :
    (roster.modify id change).LinksTo holder key ↔
      if holder = id then key ∈ (change profile).linked else roster.LinksTo holder key := by
  simp only [LinksTo, modify, found, SortedMap.get?_insert]
  split <;> simp

end Roster

namespace LinkRule

variable {roster : Roster} {subject other : Profile} {id : ProfileId} {key : ProfileKey}
  {decisions : List (Profile × Bool)}

theorem isLinked_iff (here : (roster.get? id).isSome) : isLinked roster id key = true ↔ roster.LinksTo id key := by
  obtain ⟨profile, found⟩ := Option.isSome_iff_exists.1 here
  rw [isLinked, found, Roster.linksTo_iff (Roster.get?_eq_some.1 found).1]
  exact SortedSet.mem_iff_contains.symm

/-- The keys that one profile came to be linked to, and those that it no longer is linked to. -/
structure Reports (changes : LinkChanges) (before after : Roster) (id : ProfileId) : Prop where
  linked : ∀ key, key ∈ changes.linked ↔ after.LinksTo id key ∧ ¬ before.LinksTo id key
  unlinked : ∀ key, key ∈ changes.unlinked ↔ before.LinksTo id key ∧ ¬ after.LinksTo id key
  linkedOnce : changes.linked.Nodup
  unlinkedOnce : changes.unlinked.Nodup

/-- Where nothing changes, nothing is reported. -/
theorem Reports.eq_nothing {changes : LinkChanges} (reports : Reports changes roster roster id) : changes = ⟨[], []⟩ := by
  obtain ⟨linked, unlinked⟩ := changes
  have noneLinked : linked = [] := List.eq_nil_iff_forall_not_mem.2 fun key among => by
    have both := (reports.linked key).1 among
    exact both.2 both.1
  have noneUnlinked : unlinked = [] := List.eq_nil_iff_forall_not_mem.2 fun key among => by
    have both := (reports.unlinked key).1 among
    exact both.2 both.1
  rw [noneLinked, noneUnlinked]

/-- One of the two ends of the link between two profiles. -/
def IsEnd (left right : Profile) (id : ProfileId) (key : ProfileKey) : Prop :=
  id = left.id ∧ key = right.key ∨ id = right.id ∧ key = left.key

theorem isEnd_comm (left right : Profile) : IsEnd left right id key ↔ IsEnd right left id key := Or.comm

theorem linksTo_settle (here : (roster.get? subject.id).isSome) (there : (roster.get? other.id).isSome)
    (apart : other.id ≠ subject.id) (link : Bool) :
    (settle roster subject other link).LinksTo id key ↔ (IsEnd subject other id key ∧ link = true) ∨
      roster.LinksTo id key ∧ ¬ (IsEnd subject other id key ∧ link = false) := by
  obtain ⟨current, found⟩ := Option.isSome_iff_exists.1 here
  obtain ⟨partner, seen⟩ := Option.isSome_iff_exists.1 there
  have stored := Roster.linksTo_iff (Roster.get?_eq_some.1 found).1 key
  have known := Roster.linksTo_iff (Roster.get?_eq_some.1 seen).1 key
  have still (change : Profile → Profile) := (Roster.get?_modify_of_ne apart change).trans seen
  unfold settle IsEnd
  cases link with
  | true =>
      rw [if_pos rfl, Roster.linksTo_modify (still _), Roster.linksTo_modify found]
      simp only [Profile.link, SortedSet.mem_insert]
      grind
  | false =>
      rw [if_neg Bool.false_ne_true, Roster.linksTo_modify (still _), Roster.linksTo_modify found]
      simp only [Profile.unlink, SortedSet.mem_erase]
      grind

/-- One of some decisions is for or against the link at one end. -/
def Decide (subject : Profile) (decisions : List (Profile × Bool)) (id : ProfileId) (key : ProfileKey) (link : Bool) :
    Prop :=
  ∃ other, (other, link) ∈ decisions ∧ IsEnd subject other id key

/-- Decisions that can be carried out: the profiles are seen, and no two of them are the same. -/
structure Applicable (roster : Roster) (subject : Profile) (decisions : List (Profile × Bool)) : Prop where
  here : (roster.get? subject.id).isSome
  there : ∀ decision ∈ decisions, decision.1.id ≠ subject.id ∧ (roster.get? decision.1.id).isSome
  ids : (decisions.map (·.1.id)).Nodup
  keys : (decisions.map (·.1.key)).Nodup

theorem decide_cons (subject : Profile) (decision : Profile × Bool) (rest : List (Profile × Bool)) (link : Bool) :
    Decide subject (decision :: rest) id key link ↔
      (IsEnd subject decision.1 id key ∧ decision.2 = link) ∨ Decide subject rest id key link := by
  unfold Decide
  constructor
  · intro decided
    obtain ⟨other, among, isEnd⟩ := decided
    cases List.mem_cons.1 among with
    | inl same => exact .inl (same ▸ ⟨isEnd, rfl⟩)
    | inr later => exact .inr ⟨other, later, isEnd⟩
  · intro decided
    cases decided with
    | inl first => exact ⟨decision.1, first.2 ▸ List.mem_cons_self .., first.1⟩
    | inr later =>
        obtain ⟨other, among, isEnd⟩ := later
        exact ⟨other, List.mem_cons_of_mem _ among, isEnd⟩

namespace Applicable

theorem of_cons {decision : Profile × Bool} (applicable : Applicable roster subject (decision :: decisions))
    (link : Bool) : Applicable (settle roster subject decision.1 link) subject decisions := by
  have seen := Roster.isSome_get?_of_through (Roster.hidesLinks_unlinked.through_settle roster subject decision.1 link)
  obtain ⟨here, there, ids, keys⟩ := applicable
  refine ⟨(seen subject.id).trans here, fun later among => ?_, (List.nodup_cons.1 ids).2, (List.nodup_cons.1 keys).2⟩
  obtain ⟨apart, known⟩ := there later (List.mem_cons_of_mem _ among)
  exact ⟨apart, (seen later.1.id).trans known⟩

/-- No end is decided upon twice. -/
theorem not_both (applicable : Applicable roster subject decisions) (made : Decide subject decisions id key true) :
    ¬ Decide subject decisions id key false := by
  intro broken
  obtain ⟨other, among, isEnd⟩ := made
  obtain ⟨another, also, isEndToo⟩ := broken
  have apart := (applicable.there _ among).1
  have elsewhere := (applicable.there _ also).1
  have sameId := List.inj_on_of_nodup_map applicable.ids among also
  have sameKey := List.inj_on_of_nodup_map applicable.keys among also
  unfold IsEnd at isEnd isEndToo
  grind

theorem linksTo_settleAll (applicable : Applicable roster subject decisions) (changes : LinkChanges) :
    (settleAll subject decisions (roster, changes)).1.LinksTo id key ↔ Decide subject decisions id key true ∨
      roster.LinksTo id key ∧ ¬ Decide subject decisions id key false := by
  -- On the decisions: the first one is carried out, and no later one is about the same end to the contrary.
  induction decisions generalizing roster changes with
  | nil => simp [settleAll, Decide]
  | cons decision rest ih =>
      obtain ⟨other, link⟩ := decision
      obtain ⟨apart, seen⟩ := applicable.there _ (List.mem_cons_self ..)
      have once : Decide subject ((other, link) :: rest) id key true →
          ¬ Decide subject ((other, link) :: rest) id key false := applicable.not_both
      rw [decide_cons, decide_cons] at once ⊢
      rw [settleAll, ih (applicable.of_cons link), linksTo_settle applicable.here seen apart]
      grind

/-- A decision about one link leaves the others of the subject as they are. -/
theorem isLinked_settle {decision : Profile × Bool} (applicable : Applicable roster subject (decision :: decisions))
    (link : Bool) (different : key ≠ decision.1.key) :
    isLinked (settle roster subject decision.1 link) subject.id key = isLinked roster subject.id key := by
  obtain ⟨apart, seen⟩ := applicable.there _ (List.mem_cons_self ..)
  rw [Bool.eq_iff_iff, isLinked_iff (applicable.of_cons link).here, isLinked_iff applicable.here,
    linksTo_settle applicable.here seen apart]
  have no : ¬ IsEnd subject decision.1 subject.id key := by
    unfold IsEnd
    grind
  simp [no]

/-- What is reported: the decisions that differ from what there was. -/
theorem changes_settleAll (applicable : Applicable roster subject decisions) (changes : LinkChanges) :
    (settleAll subject decisions (roster, changes)).2 =
      ⟨changes.linked ++
        (decisions.filter fun decision => decision.2 && !isLinked roster subject.id decision.1.key).map (·.1.key),
       changes.unlinked ++
        (decisions.filter fun decision => !decision.2 && isLinked roster subject.id decision.1.key).map (·.1.key)⟩ := by
  induction decisions generalizing roster changes with
  | nil => simp [settleAll]
  | cons decision rest ih =>
      obtain ⟨other, link⟩ := decision
      have still : ∀ later ∈ rest, isLinked (settle roster subject other link) subject.id later.1.key =
          isLinked roster subject.id later.1.key := by
        intro later among
        refine applicable.isLinked_settle link fun same => (List.nodup_cons.1 applicable.keys).1 ?_
        exact List.mem_map.2 ⟨later, among, same⟩
      have made := List.filter_congr fun later among => congrArg (later.2 && !·) (still later among)
      have broken := List.filter_congr fun later among => congrArg (!later.2 && ·) (still later among)
      rw [settleAll, ih (applicable.of_cons link), made, broken]
      cases link <;> cases earlier : isLinked roster subject.id other.key <;> simp [earlier]

/-- The decisions about the ends at the subject itself. -/
theorem decide_here (applicable : Applicable roster subject decisions) (link : Bool) :
    Decide subject decisions subject.id key link ↔ ∃ other, (other, link) ∈ decisions ∧ other.key = key := by
  unfold Decide IsEnd
  constructor
  · intro decided
    obtain ⟨other, among, isEnd⟩ := decided
    cases isEnd with
    | inl here => exact ⟨other, among, here.2.symm⟩
    | inr there => exact absurd there.1.symm (applicable.there _ among).1
  · intro decided
    obtain ⟨other, among, named⟩ := decided
    exact ⟨other, among, .inl ⟨rfl, named.symm⟩⟩

theorem reports_settleAll (applicable : Applicable roster subject decisions) :
    Reports (settleAll subject decisions (roster, ⟨[], []⟩)).2 roster (settleAll subject decisions (roster, ⟨[], []⟩)).1
      subject.id := by
  have links (key : ProfileKey) : isLinked roster subject.id key = true ↔ roster.LinksTo subject.id key :=
    isLinked_iff applicable.here
  have once (key : ProfileKey) : Decide subject decisions subject.id key true →
      ¬ Decide subject decisions subject.id key false := applicable.not_both
  have nodup (chosen : Profile × Bool → Bool) : ((decisions.filter chosen).map (·.1.key)).Nodup :=
    applicable.keys.sublist (List.filter_sublist.map _)
  have reported := applicable.changes_settleAll ⟨[], []⟩
  simp only [List.nil_append] at reported
  rw [reported]
  refine ⟨fun key => ?_, fun key => ?_, nodup _, nodup _⟩
  · have gained : key ∈ (decisions.filter fun decision => decision.2 && !isLinked roster subject.id decision.1.key).map
        (·.1.key) ↔ Decide subject decisions subject.id key true ∧ ¬ roster.LinksTo subject.id key := by
      rw [applicable.decide_here, ← links]
      simp only [List.mem_map, List.mem_filter]
      grind
    rw [gained, applicable.linksTo_settleAll]
    grind
  · have lost : key ∈ (decisions.filter fun decision => !decision.2 && isLinked roster subject.id decision.1.key).map
        (·.1.key) ↔ Decide subject decisions subject.id key false ∧ roster.LinksTo subject.id key := by
      rw [applicable.decide_here, ← links]
      simp only [List.mem_map, List.mem_filter]
      grind
    rw [lost, applicable.linksTo_settleAll]
    grind

end Applicable

end LinkRule

end SavedNetworks
