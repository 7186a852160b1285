import Mathlib.Logic.Function.Basic
import SavedNetworks.Linking
import SavedNetworks.Proofs.Roster.Outline

/-!
Links between the profiles of a roster. Whether they are intact depends on nothing but the keys that are
held and the links of their holders.
-/

namespace SavedNetworks

/-- The links of each key that is held. -/
abbrev Links := ProfileKey → Option (SortedSet ProfileKey)

/-- Every link leads to another held key, and back. -/
def Interlinked (links : Links) : Prop :=
  ∀ key linked, links key = some linked → ∀ other ∈ linked,
    other ≠ key ∧ ∃ back, links other = some back ∧ key ∈ back

namespace Interlinked

variable {links : Links} {key other : ProfileKey} {linked back : SortedSet ProfileKey}

theorem none : Interlinked fun _ => none := nofun

theorem link (intact : Interlinked links) (here : links key = some linked) (there : links other = some back)
    (apart : other ≠ key) :
    Interlinked (Function.update (Function.update links key (some (linked.insert other))) other (some (back.insert key))) := by
  have differ := apart.symm
  intro one others held
  simp only [Function.update_apply] at held ⊢
  have symmetric := intact one
  grind [SortedSet.mem_insert]

theorem unlink (intact : Interlinked links) (here : links key = some linked) (there : links other = some back) :
    Interlinked (Function.update (Function.update links key (some (linked.erase other))) other (some (back.erase key))) := by
  intro one others held
  simp only [Function.update_apply] at held ⊢
  have symmetric := intact one
  grind [SortedSet.mem_erase]

theorem forget (intact : Interlinked links) (key : ProfileKey) :
    Interlinked fun other => if other = key then Option.none else (links other).map (·.erase key) := by
  intro one others held other among
  dsimp only at held
  split at held
  · cases held
  · next apart =>
      obtain ⟨linked, earlier, rfl⟩ := Option.map_eq_some_iff.1 held
      obtain ⟨stays, member⟩ := SortedSet.mem_erase.1 among
      obtain ⟨different, back, there, returns⟩ := intact one linked earlier other member
      refine ⟨different, back.erase key, ?_, SortedSet.mem_erase.2 ⟨apart, returns⟩⟩
      simp only [if_neg stays, there, Option.map_some]

theorem hold (intact : Interlinked links) (free : links key = Option.none) :
    Interlinked (Function.update links key (some .empty)) := by
  intro one others held other among
  rw [Function.update_apply] at held
  split at held
  · obtain rfl := Option.some.inj held
    exact absurd among (SortedSet.not_mem_empty other)
  · obtain ⟨different, back, there, returns⟩ := intact one others held other among
    have stays : other ≠ key := by
      rintro rfl
      rw [free] at there
      cases there
    exact ⟨different, back, by rw [Function.update_of_ne stays, there], returns⟩

/-- A holder that takes another key, with the links that it had or one to that key besides: the links stay
intact if and only if there are none. -/
theorem rename_iff (intact : Interlinked links) (here : links key = some back) (free : links other = Option.none)
    (kept : ∀ one ∈ back, one ∈ linked) (more : ∀ one ∈ linked, one ≠ other → one ∈ back) :
    Interlinked (Function.update (Function.update links key Option.none) other (some linked)) ↔ linked = .empty := by
  have apart : key ≠ other := by
    rintro rfl
    rw [free] at here
    cases here
  have gone : Function.update (Function.update links key Option.none) other (some linked) key = Option.none := by
    rw [Function.update_of_ne apart, Function.update_self]
  constructor
  · intro still
    refine SortedSet.ext_mem fun one => ⟨fun member => ?_, fun member => absurd member (SortedSet.not_mem_empty one)⟩
    obtain ⟨different, _⟩ := still other linked (Function.update_self ..) one member
    obtain ⟨elsewhere, theirs, there, returns⟩ := intact key back here one (more one member different)
    have same : Function.update (Function.update links key Option.none) other (some linked) one = some theirs := by
      rw [Function.update_of_ne different, Function.update_of_ne elsewhere, there]
    obtain ⟨_, _, absent, _⟩ := still one theirs same key returns
    rw [gone] at absent
    cases absent
  · rintro rfl one others held next member
    rw [Function.update_apply, Function.update_apply] at held
    split at held
    · obtain rfl := Option.some.inj held
      exact absurd member (SortedSet.not_mem_empty next)
    · split at held
      · cases held
      · next unchanged =>
          obtain ⟨different, theirs, there, returns⟩ := intact one others held next member
          have stays : next ≠ other := by
            rintro rfl
            rw [free] at there
            cases there
          have remains : next ≠ key := by
            rintro rfl
            rw [here, Option.some.injEq] at there
            subst there
            exact SortedSet.not_mem_empty one (kept one returns)
          exact ⟨different, theirs, by rw [Function.update_of_ne stays, Function.update_of_ne remains, there], returns⟩

end Interlinked

namespace Roster

variable {roster after : Roster} {profile : Profile} {id : ProfileId} {key : ProfileKey}
  {change look : Profile → Profile} {linked : SortedSet ProfileKey}

/-- Every link of a profile leads to another profile, and back. -/
def LinksIntact (roster : Roster) : Prop :=
  ∀ profile ∈ roster.all, ∀ key ∈ profile.linked,
    ∃ other ∈ roster.all, other ≠ profile ∧ other.key = key ∧ profile.key ∈ other.linked

def links (roster : Roster) : Links := fun key => (roster.holder? key).map Profile.linked

namespace WellFormed

theorem links_eq_some_iff (wellFormed : roster.WellFormed) :
    roster.links key = some linked ↔ ∃ profile ∈ roster.all, profile.key = key ∧ profile.linked = linked := by
  simp only [links, Option.map_eq_some_iff, wellFormed.holder?_eq_some_iff, and_assoc]

theorem links_key (wellFormed : roster.WellFormed) (present : profile ∈ roster.all) :
    roster.links profile.key = some profile.linked :=
  wellFormed.links_eq_some_iff.2 ⟨profile, present, rfl, rfl⟩

theorem links_eq_none_iff (wellFormed : roster.WellFormed) :
    roster.links key = none ↔ ∀ profile ∈ roster.all, profile.key ≠ key := by
  rw [links, Option.map_eq_none_iff, wellFormed.holder?_eq_none_iff]

theorem linksIntact_iff (wellFormed : roster.WellFormed) : roster.LinksIntact ↔ Interlinked roster.links := by
  constructor
  · intro intact key linked held other member
    obtain ⟨profile, present, rfl, rfl⟩ := wellFormed.links_eq_some_iff.1 held
    obtain ⟨partner, among, apart, rfl, returns⟩ := intact profile present other member
    exact ⟨fun same => apart (wellFormed.eq_of_key among present same), partner.linked, wellFormed.links_key among, returns⟩
  · intro intact profile present key member
    obtain ⟨apart, back, held, returns⟩ := intact profile.key profile.linked (wellFormed.links_key present) key member
    obtain ⟨partner, among, rfl, rfl⟩ := wellFormed.links_eq_some_iff.1 held
    exact ⟨partner, among, fun same => apart (same ▸ rfl), rfl, returns⟩

end WellFormed

theorem links_of_through (shown : ∀ profile, (look profile).linked = profile.linked)
    (same : after.through look = roster.through look) : after.links = roster.links := by
  obtain ⟨index, _, profiles⟩ := through_eq_iff.1 same
  funext key
  unfold links holder?
  rw [index]
  cases roster.index.get? key with
  | none => rfl
  | some id =>
      have found := congrArg (Option.map Profile.linked) (profiles id)
      rw [Option.map_map, Option.map_map] at found
      have unseen : Profile.linked ∘ look = Profile.linked := funext shown
      rw [unseen] at found
      exact found

theorem linked_outline (profile : Profile) : profile.outline.linked = profile.linked := rfl

theorem WellFormed.links_modify (wellFormed : roster.WellFormed) (keeps : KeepsName change)
    (found : roster.get? id = some profile) :
    (roster.modify id change).links = Function.update roster.links profile.key (some (change profile).linked) := by
  obtain ⟨there, visible⟩ := get?_eq_some.1 found
  obtain ⟨present, named⟩ := wellFormed.get?_eq_some_iff.1 there
  have changed : roster.changeAt id change profile = change profile := by
    rw [changeAt, if_pos named, changeVisible, if_pos visible]
  funext key
  ext linked
  rw [(wellFormed.modify keeps id).links_eq_some_iff, Function.update_apply]
  split
  · next same =>
      subst same
      constructor
      · rintro ⟨other, among, same, rfl⟩
        obtain ⟨old, earlier, rfl⟩ := (wellFormed.mem_modify keeps).1 among
        rw [(keeps.changeAt roster id old).2] at same
        rw [wellFormed.eq_of_key earlier present same, changed]
      · intro same
        refine ⟨change profile, (wellFormed.mem_modify keeps).2 ⟨profile, present, changed⟩, (keeps profile).2, ?_⟩
        exact Option.some.inj same
  · next different =>
      rw [wellFormed.links_eq_some_iff]
      have unchanged : ∀ old ∈ roster.all, old.key = key → roster.changeAt id change old = old := by
        rintro old earlier rfl
        refine if_neg fun same => different ?_
        rw [wellFormed.eq_of_id earlier present (same.trans named.symm)]
      constructor
      · rintro ⟨other, among, same, rfl⟩
        obtain ⟨old, earlier, rfl⟩ := (wellFormed.mem_modify keeps).1 among
        rw [(keeps.changeAt roster id old).2] at same
        exact ⟨old, earlier, same, by rw [unchanged old earlier same]⟩
      · rintro ⟨old, earlier, same, rfl⟩
        exact ⟨old, (wellFormed.mem_modify keeps).2 ⟨old, earlier, unchanged old earlier same⟩, same, rfl⟩

theorem WellFormed.links_drop (wellFormed : roster.WellFormed) (found : roster.get? id = some profile)
    (seen : ∀ other ∈ roster.all, roster.isVisible other = true) :
    (roster.drop id profile.key).links = fun other =>
      if other = profile.key then none else (roster.links other).map (·.erase profile.key) := by
  obtain ⟨present, named⟩ := wellFormed.get?_eq_some_iff.1 (get?_eq_some.1 found).1
  funext key
  ext linked
  rw [(wellFormed.drop id profile.key).links_eq_some_iff]
  constructor
  · rintro ⟨other, among, rfl, rfl⟩
    obtain ⟨old, earlier, apart, rfl⟩ := wellFormed.mem_drop.1 among
    rw [(released_name roster profile.key old).2]
    have different : old.key ≠ profile.key := fun same =>
      apart (by rw [wellFormed.eq_of_key earlier present same, named])
    rw [if_neg different, wellFormed.links_key earlier, released_of_isVisible (seen old earlier)]
    rfl
  · intro held
    split at held
    · cases held
    · next different =>
        obtain ⟨before, earlier, rfl⟩ := Option.map_eq_some_iff.1 held
        obtain ⟨old, there, rfl, rfl⟩ := wellFormed.links_eq_some_iff.1 earlier
        have apart : old.id ≠ id := fun same =>
          different (by rw [wellFormed.eq_of_id there present (same.trans named.symm)])
        refine ⟨roster.released profile.key old, wellFormed.mem_drop.2 ⟨old, there, apart, rfl⟩,
          (released_name roster profile.key old).2, ?_⟩
        rw [released_of_isVisible (seen old there)]
        rfl

theorem WellFormed.links_put (wellFormed : roster.WellFormed) (stored : roster.put profile = .ok after)
    (fresh : ∀ other ∈ roster.all, other.id ≠ profile.id) :
    roster.links profile.key = none ∧ after.links = Function.update roster.links profile.key (some profile.linked) := by
  have free : ∀ other ∈ roster.all, other.key ≠ profile.key := fun other present same =>
    fresh other present (wellFormed.put_ok_iff.1 ⟨after, stored⟩ other present same)
  refine ⟨wellFormed.links_eq_none_iff.2 free, ?_⟩
  funext key
  ext linked
  rw [(wellFormed.put stored).links_eq_some_iff, Function.update_apply]
  simp only [wellFormed.mem_put stored]
  split
  · next same =>
      subst same
      constructor
      · rintro ⟨other, rfl | ⟨earlier, _⟩, same, rfl⟩
        · rfl
        · exact absurd same (free other earlier)
      · intro same
        exact ⟨profile, .inl rfl, rfl, Option.some.inj same⟩
  · next different =>
      rw [wellFormed.links_eq_some_iff]
      constructor
      · rintro ⟨other, rfl | ⟨earlier, _⟩, rfl, rfl⟩
        · exact absurd rfl different
        · exact ⟨other, earlier, rfl, rfl⟩
      · rintro ⟨other, earlier, rfl, rfl⟩
        exact ⟨other, .inr ⟨earlier, fresh other earlier⟩, rfl, rfl⟩

/-- A profile that takes the place of another one gives up its key, if that was another one. -/
theorem WellFormed.links_put_of_mem (wellFormed : roster.WellFormed) (stored : roster.put profile = .ok after)
    {current : Profile} (present : current ∈ roster.all) (same : current.id = profile.id) :
    (current.key = profile.key ∨ roster.links profile.key = none) ∧
      after.links = Function.update (Function.update roster.links current.key none) profile.key (some profile.linked) := by
  have only : ∀ other ∈ roster.all, other.key = profile.key → other = current := fun other among named =>
    wellFormed.eq_of_id among present ((wellFormed.put_ok_iff.1 ⟨after, stored⟩ other among named).trans same.symm)
  refine ⟨?_, ?_⟩
  · rw [wellFormed.links_eq_none_iff, or_iff_not_imp_left]
    intro renamed other among named
    exact renamed (only other among named ▸ named)
  · funext key
    ext linked
    rw [(wellFormed.put stored).links_eq_some_iff, Function.update_apply, Function.update_apply]
    simp only [wellFormed.mem_put stored]
    split
    · next named =>
        subst named
        constructor
        · rintro ⟨other, rfl | ⟨among, apart⟩, named, rfl⟩
          · rfl
          · exact absurd (only other among named ▸ same) apart
        · intro named
          exact ⟨profile, .inl rfl, rfl, Option.some.inj named⟩
    · next different =>
        split
        · next former =>
            subst former
            simp only [reduceCtorEq, iff_false, not_exists, not_and]
            rintro other (rfl | ⟨among, apart⟩) named
            · exact absurd named.symm different
            · exact absurd (wellFormed.eq_of_key among present named ▸ same) apart
        · next unheld =>
            rw [wellFormed.links_eq_some_iff]
            constructor
            · rintro ⟨other, rfl | ⟨among, _⟩, rfl, rfl⟩
              · exact absurd rfl different
              · exact ⟨other, among, rfl, rfl⟩
            · rintro ⟨other, among, rfl, rfl⟩
              refine ⟨other, .inr ⟨among, fun apart => unheld ?_⟩, rfl, rfl⟩
              rw [wellFormed.eq_of_id among present (apart.trans same.symm)]

/-! A pass keeps links intact: each decision is carried out on both ends. -/

theorem WellFormed.interlinked_settle (wellFormed : roster.WellFormed) {subject other current partner : Profile}
    (here : roster.get? subject.id = some current) (named : current.key = subject.key)
    (there : roster.get? other.id = some partner) (known : partner.key = other.key) (apart : other.id ≠ subject.id)
    (intact : Interlinked roster.links) (link : Bool) :
    Interlinked (LinkRule.settle roster subject other link).links := by
  obtain ⟨stored, sameId⟩ := wellFormed.get?_eq_some_iff.1 (get?_eq_some.1 here).1
  obtain ⟨among, partnerId⟩ := wellFormed.get?_eq_some_iff.1 (get?_eq_some.1 there).1
  have subjectLinks := named ▸ wellFormed.links_key stored
  have partnerLinks := known ▸ wellFormed.links_key among
  have different : other.key ≠ subject.key := by
    rw [← named, ← known]
    intro same
    rw [wellFormed.eq_of_key among stored same, sameId] at partnerId
    exact apart partnerId.symm
  cases link with
  | true =>
      have first := wellFormed.links_modify (keepsName_link other.key) here
      have second := (wellFormed.modify (keepsName_link other.key) subject.id).links_modify (keepsName_link subject.key)
        ((get?_modify_of_ne apart _).trans there)
      rw [first, named, known] at second
      rw [LinkRule.settle, if_pos rfl, second]
      exact intact.link subjectLinks partnerLinks different
  | false =>
      have first := wellFormed.links_modify (keepsName_unlink other.key) here
      have second := (wellFormed.modify (keepsName_unlink other.key) subject.id).links_modify (keepsName_unlink subject.key)
        ((get?_modify_of_ne apart _).trans there)
      rw [first, named, known] at second
      rw [LinkRule.settle, if_neg Bool.false_ne_true, second]
      exact intact.unlink subjectLinks partnerLinks

theorem seen_of_through (keeps : KeepsName look)
    (visible : ∀ profile tenant, (look profile).visibleTo tenant = profile.visibleTo tenant)
    (same : after.through look = roster.through look) (found : roster.get? id = some profile) :
    ∃ other, after.get? id = some other ∧ other.key = profile.key := by
  obtain ⟨there, seen⟩ := get?_eq_some.1 found
  obtain ⟨other, stored, looks⟩ := get?_of_through same.symm there
  refine ⟨other, get?_eq_some.2 ⟨stored, ?_⟩, (keeps.same looks).2⟩
  unfold isVisible at seen ⊢
  rw [tenant_of_through same, Profile.same_of_look (Profile.visibleTo · _) (visible · _) looks]
  exact seen

theorem interlinked_settleAll {subject : Profile} {decisions : List (Profile × Bool)} {done : Roster × LinkChanges}
    (wellFormed : done.1.WellFormed) (here : ∃ current, done.1.get? subject.id = some current ∧ current.key = subject.key)
    (there : ∀ decision ∈ decisions, decision.1.id ≠ subject.id ∧
      ∃ partner, done.1.get? decision.1.id = some partner ∧ partner.key = decision.1.key)
    (intact : Interlinked done.1.links) : Interlinked (LinkRule.settleAll subject decisions done).1.links := by
  -- On the decisions. Settling one touches links alone, so ids, keys and what is seen are the same for those that follow.
  induction decisions generalizing done with
  | nil => exact intact
  | cons decision rest ih =>
      obtain ⟨roster, changes⟩ := done
      obtain ⟨other, link⟩ := decision
      obtain ⟨current, found, named⟩ := here
      obtain ⟨apart, partner, seen, known⟩ := there (other, link) (List.mem_cons_self ..)
      have frames := hidesLinks_frame.through_settle roster subject other link
      have again : ∀ {id profile key}, roster.get? id = some profile → profile.key = key →
          ∃ one, (LinkRule.settle roster subject other link).get? id = some one ∧ one.key = key := by
        intro id profile key before same
        obtain ⟨one, after, still⟩ := seen_of_through keepsName_frame Profile.visibleTo_frame frames before
        exact ⟨one, after, still.trans same⟩
      refine ih (wellFormed.of_through keepsName_frame frames) (again found named) (fun decision later => ?_) ?_
      · obtain ⟨elsewhere, one, before, same⟩ := there decision (List.mem_cons_of_mem _ later)
        exact ⟨elsewhere, again before same⟩
      · exact wellFormed.interlinked_settle found named seen known apart intact link

theorem WellFormed.interlinked_reconsider (wellFormed : roster.WellFormed) (rule : LinkRule) (caches : Caches)
    (id : ProfileId) (intact : Interlinked roster.links) : Interlinked (rule.reconsider roster caches id).1.links := by
  unfold LinkRule.reconsider
  split
  · exact intact
  · next subject found =>
      obtain rfl := wellFormed.keyed id subject (get?_eq_some.1 found).1
      simp only
      split
      · exact intact
      · refine interlinked_settleAll wellFormed ⟨subject, found, rfl⟩ (fun decision decided => ?_) intact
        obtain ⟨other, chosen, rfl⟩ := List.mem_map.1 decided
        obtain ⟨seen, criteria⟩ := List.mem_filter.1 chosen
        obtain ⟨present, visible⟩ := List.mem_filter.1 seen
        simp only [Bool.and_eq_true, bne_iff_ne] at criteria
        exact ⟨criteria.1.1.1, other, get?_eq_some.2 ⟨wellFormed.mem_all_iff.1 present, visible⟩, rfl⟩

end Roster

end SavedNetworks
