import SavedNetworks.Proofs.Linking.Ends
import SavedNetworks.Proofs.Manager.Loads

/-!
What passes of links come to. A pass decides about the links of one profile by what the two profiles of each link are,
whatever links there are, and either of the two decides the same. So passes may come in any order, and any number of times
(`LinkRule.settlesLinks_reconsider`).
-/

namespace SavedNetworks

namespace LinkRule

variable {rule : LinkRule} {caches : Caches} {roster after : Roster} {subject other profile : Profile}
  {id passed : ProfileId} {key : ProfileKey} {ids left right : List ProfileId} {link : Bool}

/-- A profile for which links are made: it has a pre-shared key, and not too many transmitters are cached for it. -/
structure TakesPart (rule : LinkRule) (caches : Caches) (profile : Profile) : Prop where
  preShared : profile.security.isPreSharedKey = true
  uncrowded : ∀ cache, caches.get? profile.id = some cache → cache.size ≤ rule.maxCacheSize

/-- Another profile that may be linked to `subject`. -/
structure Partner (rule : LinkRule) (caches : Caches) (roster : Roster) (subject other : Profile) : Prop where
  seen : other ∈ roster.visible
  apart : other.id ≠ subject.id
  lasting : other.ephemeral = false
  takesPart : rule.TakesPart caches other

/-- A pass for `subject` decides about its link with `other`. -/
structure Considers (rule : LinkRule) (caches : Caches) (roster : Roster) (subject other : Profile) : Prop where
  seen : subject ∈ roster.visible
  takesPart : rule.TakesPart caches subject
  partner : rule.Partner caches roster subject other

def belong (rule : LinkRule) (caches : Caches) (left right : Profile) : Bool :=
  rule.shouldLink left right (caches.get? left.id) (caches.get? right.id)

/-- Passes for some profiles decide for or against the link at one end. -/
def Decided (rule : LinkRule) (caches : Caches) (roster : Roster) (ids : List ProfileId) (id : ProfileId)
    (key : ProfileKey) (link : Bool) : Prop :=
  ∃ subject other, subject.id ∈ ids ∧ rule.Considers caches roster subject other ∧ IsEnd subject other id key ∧
    rule.belong caches subject other = link

/-- Passes for some profiles, one after the other. -/
def reconsiderAll (rule : LinkRule) (roster : Roster) (caches : Caches) (ids : List ProfileId) : Roster :=
  ids.foldl (fun roster id => (rule.reconsider roster caches id).1) roster

theorem sharesTransmitter_comm (rule : LinkRule) (left right : SightingCache) :
    rule.sharesTransmitter left right = rule.sharesTransmitter right left := by
  rw [Bool.eq_iff_iff]
  simp only [sharesTransmitter, List.any_eq_true]
  constructor
  · intro shared
    obtain ⟨here, among, there, also, agree⟩ := shared
    exact ⟨there, also, here, among, (rule.addressesMatch_comm there here).trans agree⟩
  · intro shared
    obtain ⟨there, also, here, among, agree⟩ := shared
    exact ⟨here, among, there, also, (rule.addressesMatch_comm here there).trans agree⟩

theorem shouldLink_comm (rule : LinkRule) (left right : Profile) (leftCache rightCache : Option SightingCache) :
    rule.shouldLink left right leftCache rightCache = rule.shouldLink right left rightCache leftCache := by
  unfold shouldLink
  have credentials : (left.preSharedKey != right.preSharedKey) = (right.preSharedKey != left.preSharedKey) := bne_comm
  rw [credentials]
  split
  · rfl
  · cases left.defaultGateway with
    | none => cases right.defaultGateway <;> cases leftCache <;> cases rightCache <;> simp [sharesTransmitter_comm]
    | some here =>
        cases right.defaultGateway with
        | none => cases leftCache <;> cases rightCache <;> simp [sharesTransmitter_comm]
        | some there => exact Text.sameLetters_comm ..

theorem belong_comm (rule : LinkRule) (caches : Caches) (left right : Profile) :
    rule.belong caches left right = rule.belong caches right left := rule.shouldLink_comm ..

/-- The two profiles of an end are known by it. -/
theorem IsEnd.eq_or_eq (wellFormed : roster.WellFormed) {one another : Profile} (isEnd : IsEnd subject other id key)
    (isEndToo : IsEnd one another id key) (here : subject ∈ roster.all) (there : other ∈ roster.all)
    (first : one ∈ roster.all) (second : another ∈ roster.all) :
    (one = subject ∧ another = other) ∨ (one = other ∧ another = subject) := by
  have byId : ∀ left ∈ roster.all, ∀ right ∈ roster.all, left.id = right.id → left = right :=
    fun _ left _ right => wellFormed.eq_of_id left right
  have byKey : ∀ left ∈ roster.all, ∀ right ∈ roster.all, left.key = right.key → left = right :=
    fun _ left _ right => wellFormed.eq_of_key left right
  unfold IsEnd at isEnd isEndToo
  grind

theorem Considers.mem_all (considers : rule.Considers caches roster subject other) :
    subject ∈ roster.all ∧ other ∈ roster.all :=
  ⟨(List.mem_filter.1 considers.seen).1, (List.mem_filter.1 considers.partner.seen).1⟩

theorem not_decided_both (wellFormed : roster.WellFormed) (made : rule.Decided caches roster left id key true) :
    ¬ rule.Decided caches roster right id key false := by
  intro broken
  obtain ⟨subject, other, _, considers, isEnd, together⟩ := made
  obtain ⟨one, another, _, considersToo, isEndToo, apart⟩ := broken
  obtain ⟨here, there⟩ := considers.mem_all
  obtain ⟨first, second⟩ := considersToo.mem_all
  have verdict : rule.belong caches one another = rule.belong caches subject other := by
    cases isEnd.eq_or_eq wellFormed isEndToo here there first second with
    | inl same => rw [same.1, same.2]
    | inr turned => rw [turned.1, turned.2, belong_comm]
  rw [verdict, together] at apart
  cases apart

theorem decided_cons (rule : LinkRule) (caches : Caches) (roster : Roster) (passed : ProfileId) (ids : List ProfileId) :
    rule.Decided caches roster (passed :: ids) id key link ↔
      rule.Decided caches roster [passed] id key link ∨ rule.Decided caches roster ids id key link := by
  simp only [Decided, List.mem_cons, List.not_mem_nil, or_false, or_and_right, exists_or]

/-- What a pass for one profile decides. -/
theorem decided_singleton_iff (wellFormed : roster.WellFormed) (seen : subject ∈ roster.visible) :
    rule.Decided caches roster [subject.id] id key link ↔
      ∃ other, rule.Considers caches roster subject other ∧ IsEnd subject other id key ∧
        rule.belong caches subject other = link := by
  constructor
  · intro decided
    obtain ⟨one, other, asked, considers, isEnd, verdict⟩ := decided
    have same : one = subject :=
      wellFormed.eq_of_id considers.mem_all.1 (List.mem_filter.1 seen).1 (List.mem_singleton.1 asked)
    subst same
    exact ⟨other, considers, isEnd, verdict⟩
  · intro decided
    obtain ⟨other, considers, isEnd, verdict⟩ := decided
    exact ⟨subject, other, List.mem_singleton_self _, considers, isEnd, verdict⟩

theorem mem_visible_of_through (wellFormed : roster.WellFormed) (still : after.WellFormed)
    (same : after.through Profile.unlinked = roster.through Profile.unlinked) (seen : profile ∈ after.visible) :
    ∃ old ∈ roster.visible, old.unlinked = profile.unlinked := by
  have looks := Roster.map_get?_of_through same profile.id
  rw [still.mem_visible.1 seen, Option.map_some, eq_comm, Option.map_eq_some_iff] at looks
  obtain ⟨old, found, looks⟩ := looks
  obtain ⟨named, _⟩ := Profile.same_of_unlinked looks
  exact ⟨old, wellFormed.mem_visible.2 (named ▸ found), looks⟩

theorem TakesPart.of_unlinked (same : other.unlinked = profile.unlinked) (takesPart : rule.TakesPart caches profile) :
    rule.TakesPart caches other := by
  obtain ⟨named, security, _⟩ := Profile.same_of_unlinked same
  exact ⟨security ▸ takesPart.preShared, named ▸ takesPart.uncrowded⟩

theorem belong_of_unlinked {one another : Profile} (first : one.unlinked = subject.unlinked)
    (second : another.unlinked = other.unlinked) : rule.belong caches one another = rule.belong caches subject other := by
  have look : ∀ left right : Profile, rule.belong caches left.unlinked right.unlinked = rule.belong caches left right :=
    fun _ _ => rfl
  rw [← look one, ← look subject, first, second]

theorem IsEnd.of_unlinked {one another : Profile} (first : one.unlinked = subject.unlinked)
    (second : another.unlinked = other.unlinked) (isEnd : IsEnd subject other id key) : IsEnd one another id key := by
  have look : ∀ left right : Profile, IsEnd left.unlinked right.unlinked id key = IsEnd left right id key :=
    fun _ _ => rfl
  rw [← look, first, second]
  exact isEnd

theorem Considers.of_through (wellFormed : roster.WellFormed) (still : after.WellFormed)
    (same : after.through Profile.unlinked = roster.through Profile.unlinked)
    (considers : rule.Considers caches after subject other) :
    ∃ one another, one.unlinked = subject.unlinked ∧ another.unlinked = other.unlinked ∧
      rule.Considers caches roster one another := by
  obtain ⟨seen, takesPart, partner⟩ := considers
  obtain ⟨one, here, first⟩ := mem_visible_of_through wellFormed still same seen
  obtain ⟨another, there, second⟩ := mem_visible_of_through wellFormed still same partner.seen
  obtain ⟨subjectId, _, _⟩ := Profile.same_of_unlinked first
  obtain ⟨otherId, _, lasting⟩ := Profile.same_of_unlinked second
  have apart : another.id ≠ one.id := by
    rw [subjectId, otherId]
    exact partner.apart
  exact ⟨one, another, first, second, here, takesPart.of_unlinked first, there, apart, lasting ▸ partner.lasting,
    partner.takesPart.of_unlinked second⟩

theorem Decided.of_through (wellFormed : roster.WellFormed) (still : after.WellFormed)
    (same : after.through Profile.unlinked = roster.through Profile.unlinked)
    (decided : rule.Decided caches after ids id key link) : rule.Decided caches roster ids id key link := by
  obtain ⟨subject, other, asked, considers, isEnd, verdict⟩ := decided
  obtain ⟨one, another, first, second, considers⟩ := considers.of_through wellFormed still same
  refine ⟨one, another, ?_, considers, isEnd.of_unlinked first second, (belong_of_unlinked first second).trans verdict⟩
  rw [(Profile.same_of_unlinked first).1]
  exact asked

theorem isCrowded_eq_false_iff (rule : LinkRule) (cache : Option SightingCache) :
    rule.isCrowded cache = false ↔ ∀ one, cache = some one → one.size ≤ rule.maxCacheSize := by
  cases cache with
  | none => simp [isCrowded]
  | some one => simp [isCrowded]

theorem mem_partners : other ∈ rule.partners roster caches subject.id ↔ rule.Partner caches roster subject other := by
  simp only [partners, List.mem_filter, Bool.and_eq_true, bne_iff_ne, Bool.not_eq_true', isCrowded_eq_false_iff]
  constructor
  · intro chosen
    obtain ⟨seen, ⟨⟨apart, lasting⟩, preShared⟩, uncrowded⟩ := chosen
    exact ⟨seen, apart, lasting, preShared, uncrowded⟩
  · intro partner
    exact ⟨partner.seen, ⟨⟨partner.apart, partner.lasting⟩, partner.takesPart.preShared⟩, partner.takesPart.uncrowded⟩

/-- What a pass for `subject` decides about each of its partners. -/
def decisions (rule : LinkRule) (roster : Roster) (caches : Caches) (subject : Profile) : List (Profile × Bool) :=
  (rule.partners roster caches subject.id).map fun other => (other, rule.belong caches subject other)

theorem mem_decisions : (other, link) ∈ rule.decisions roster caches subject ↔
    rule.Partner caches roster subject other ∧ rule.belong caches subject other = link := by
  simp only [decisions, List.mem_map, Prod.mk.injEq, mem_partners]
  constructor
  · intro chosen
    obtain ⟨one, partner, same, verdict⟩ := chosen
    exact same ▸ ⟨partner, verdict⟩
  · exact fun chosen => ⟨other, chosen.1, rfl, chosen.2⟩

theorem reconsider_of_takesPart (found : roster.get? subject.id = some subject)
    (takesPart : rule.TakesPart caches subject) : rule.reconsider roster caches subject.id =
      settleAll subject (rule.decisions roster caches subject) (roster, ⟨[], []⟩) := by
  have uncrowded := (rule.isCrowded_eq_false_iff _).2 takesPart.uncrowded
  simp only [reconsider, found, takesPart.preShared, uncrowded]
  rfl

theorem reconsider_of_not_takesPart (wellFormed : roster.WellFormed)
    (nobody : ∀ subject, roster.get? passed = some subject → ¬ rule.TakesPart caches subject) :
    rule.reconsider roster caches passed = (roster, ⟨[], []⟩) := by
  unfold reconsider
  split
  · rfl
  · next subject found =>
      have named := wellFormed.id_of_get? found
      refine if_pos ?_
      rw [Bool.or_eq_true, Bool.not_eq_true', ← Bool.not_eq_false (rule.isCrowded _), isCrowded_eq_false_iff]
      by_cases preShared : subject.security.isPreSharedKey = true
      · exact .inr fun uncrowded => nobody subject found ⟨preShared, named ▸ uncrowded⟩
      · exact .inl (Bool.eq_false_iff.2 preShared)

theorem applicable_decisions (wellFormed : roster.WellFormed) (found : roster.get? subject.id = some subject) :
    Applicable roster subject (rule.decisions roster caches subject) := by
  have part : (rule.partners roster caches subject.id).Sublist roster.all :=
    List.filter_sublist.trans List.filter_sublist
  refine ⟨Option.isSome_of_eq_some found, fun decision among => ?_, ?_, ?_⟩
  · obtain ⟨partner, _⟩ := mem_decisions.1 (show (decision.1, decision.2) ∈ _ from among)
    exact ⟨partner.apart, Option.isSome_of_eq_some (wellFormed.mem_visible.1 partner.seen)⟩
  · rw [decisions, List.map_map]
    exact wellFormed.nodup_ids.sublist (part.map _)
  · rw [decisions, List.map_map]
    exact wellFormed.nodup_keys.sublist (part.map _)

theorem decide_decisions (wellFormed : roster.WellFormed) (found : roster.get? subject.id = some subject)
    (takesPart : rule.TakesPart caches subject) :
    Decide subject (rule.decisions roster caches subject) id key link ↔
      rule.Decided caches roster [subject.id] id key link := by
  have seen : subject ∈ roster.visible := wellFormed.mem_visible.2 found
  simp only [Decide, mem_decisions, decided_singleton_iff wellFormed seen]
  constructor
  · intro decided
    obtain ⟨other, ⟨partner, verdict⟩, isEnd⟩ := decided
    exact ⟨other, ⟨seen, takesPart, partner⟩, isEnd, verdict⟩
  · intro decided
    obtain ⟨other, considers, isEnd, verdict⟩ := decided
    exact ⟨other, ⟨considers.partner, verdict⟩, isEnd⟩

/-- A profile that takes part, or nothing to decide. -/
theorem takesPart_or_not (wellFormed : roster.WellFormed) (rule : LinkRule) (caches : Caches) (passed : ProfileId) :
    (∃ subject, subject.id = passed ∧ roster.get? subject.id = some subject ∧ rule.TakesPart caches subject) ∨
      rule.reconsider roster caches passed = (roster, ⟨[], []⟩) ∧
        ∀ id key link, ¬ rule.Decided caches roster [passed] id key link := by
  by_cases active : ∃ subject, roster.get? passed = some subject ∧ rule.TakesPart caches subject
  · obtain ⟨subject, found, takesPart⟩ := active
    have named := wellFormed.id_of_get? found
    exact .inl ⟨subject, named, named ▸ found, takesPart⟩
  · have nobody : ∀ subject, roster.get? passed = some subject → ¬ rule.TakesPart caches subject :=
      fun subject found takesPart => active ⟨subject, found, takesPart⟩
    refine .inr ⟨reconsider_of_not_takesPart wellFormed nobody, fun id key link decided => ?_⟩
    obtain ⟨subject, other, asked, considers, _⟩ := decided
    obtain rfl := List.mem_singleton.1 asked
    exact active ⟨subject, wellFormed.mem_visible.1 considers.seen, considers.takesPart⟩

theorem linksTo_reconsider (wellFormed : roster.WellFormed) (rule : LinkRule) (caches : Caches) (passed : ProfileId) :
    (rule.reconsider roster caches passed).1.LinksTo id key ↔ rule.Decided caches roster [passed] id key true ∨
      roster.LinksTo id key ∧ ¬ rule.Decided caches roster [passed] id key false := by
  rcases takesPart_or_not wellFormed rule caches passed with ⟨subject, rfl, found, takesPart⟩ | ⟨idle, none⟩
  · rw [reconsider_of_takesPart found takesPart, (applicable_decisions wellFormed found).linksTo_settleAll,
      decide_decisions wellFormed found takesPart, decide_decisions wellFormed found takesPart]
  · simp [idle, none]

/-- Either end of a link with a partner is there afterwards if and only if the two belong together. -/
theorem linksTo_of_considers (wellFormed : roster.WellFormed) (considers : rule.Considers caches roster subject other)
    (isEnd : IsEnd subject other id key) :
    (rule.reconsider roster caches subject.id).1.LinksTo id key ↔ rule.belong caches subject other = true := by
  have decided : rule.Decided caches roster [subject.id] id key (rule.belong caches subject other) :=
    (decided_singleton_iff wellFormed considers.seen).2 ⟨other, considers, isEnd, rfl⟩
  rw [linksTo_reconsider wellFormed]
  cases together : rule.belong caches subject other with
  | true =>
      rw [together] at decided
      simp [decided]
  | false =>
      rw [together] at decided
      have no : ¬ rule.Decided caches roster [subject.id] id key true :=
        fun made => not_decided_both wellFormed made decided
      simp [decided, no]

theorem linksTo_of_no_partner (wellFormed : roster.WellFormed) (seen : subject ∈ roster.visible)
    (apart : ∀ other, rule.Partner caches roster subject other → ¬ IsEnd subject other id key) :
    (rule.reconsider roster caches subject.id).1.LinksTo id key ↔ roster.LinksTo id key := by
  have undecided (link : Bool) : ¬ rule.Decided caches roster [subject.id] id key link := by
    intro decided
    obtain ⟨other, considers, isEnd, _⟩ := (decided_singleton_iff wellFormed seen).1 decided
    exact apart other considers.partner isEnd
  rw [linksTo_reconsider wellFormed]
  simp [undecided]

theorem reports_reconsider (wellFormed : roster.WellFormed) (rule : LinkRule) (caches : Caches) (passed : ProfileId) :
    Reports (rule.reconsider roster caches passed).2 roster (rule.reconsider roster caches passed).1 passed := by
  rcases takesPart_or_not wellFormed rule caches passed with ⟨subject, rfl, found, takesPart⟩ | ⟨idle, _⟩
  · rw [reconsider_of_takesPart found takesPart]
    exact (applicable_decisions wellFormed found).reports_settleAll
  · rw [idle]
    exact ⟨by simp, by simp, .nil, .nil⟩

theorem unlinked_reconsider (rule : LinkRule) (roster : Roster) (caches : Caches) (passed : ProfileId) :
    (rule.reconsider roster caches passed).1.through Profile.unlinked = roster.through Profile.unlinked :=
  Roster.hidesLinks_unlinked.through_reconsider rule roster caches passed

theorem wellFormed_reconsider (wellFormed : roster.WellFormed) (rule : LinkRule) (caches : Caches) (passed : ProfileId) :
    (rule.reconsider roster caches passed).1.WellFormed :=
  wellFormed.of_through Roster.keepsName_unlinked (unlinked_reconsider rule roster caches passed)

theorem unlinked_reconsiderAll (rule : LinkRule) (roster : Roster) (caches : Caches) (ids : List ProfileId) :
    (rule.reconsiderAll roster caches ids).through Profile.unlinked = roster.through Profile.unlinked := by
  induction ids generalizing roster with
  | nil => rfl
  | cons passed rest ih => exact (ih _).trans (unlinked_reconsider rule roster caches passed)

/-- Each end is as decided, whoever decides, or as it was. -/
theorem linksTo_reconsiderAll (wellFormed : roster.WellFormed) (rule : LinkRule) (caches : Caches)
    (ids : List ProfileId) : (rule.reconsiderAll roster caches ids).LinksTo id key ↔
      rule.Decided caches roster ids id key true ∨ roster.LinksTo id key ∧ ¬ rule.Decided caches roster ids id key false := by
  induction ids generalizing roster with
  | nil => simp [reconsiderAll, Decided]
  | cons passed rest ih =>
      have still := wellFormed_reconsider wellFormed rule caches passed
      have same := unlinked_reconsider rule roster caches passed
      have later (link : Bool) : rule.Decided caches (rule.reconsider roster caches passed).1 rest id key link ↔
          rule.Decided caches roster rest id key link :=
        ⟨.of_through wellFormed still same, .of_through still wellFormed same.symm⟩
      have once : rule.Decided caches roster [passed] id key true → ¬ rule.Decided caches roster rest id key false :=
        not_decided_both wellFormed
      rw [show rule.reconsiderAll roster caches (passed :: rest) =
        rule.reconsiderAll (rule.reconsider roster caches passed).1 caches rest from rfl,
        ih still, later, later, linksTo_reconsider wellFormed]
      simp only [rule.decided_cons caches roster passed rest]
      grind

theorem reconsiderAll_congr (wellFormed : roster.WellFormed) (rule : LinkRule) (caches : Caches)
    (same : ∀ id, id ∈ left ↔ id ∈ right) :
    rule.reconsiderAll roster caches left = rule.reconsiderAll roster caches right := by
  refine Roster.eq_of_linksTo_iff ?_ fun id key => ?_
  · rw [unlinked_reconsiderAll, unlinked_reconsiderAll]
  · rw [linksTo_reconsiderAll wellFormed, linksTo_reconsiderAll wellFormed]
    simp only [Decided, same]

theorem reconsider_reconsider (wellFormed : roster.WellFormed) (rule : LinkRule) (caches : Caches) (passed : ProfileId) :
    rule.reconsider (rule.reconsider roster caches passed).1 caches passed =
      ((rule.reconsider roster caches passed).1, ⟨[], []⟩) := by
  have settled : (rule.reconsider (rule.reconsider roster caches passed).1 caches passed).1 =
      (rule.reconsider roster caches passed).1 :=
    reconsiderAll_congr wellFormed rule caches (show ∀ id, id ∈ [passed, passed] ↔ id ∈ [passed] by simp)
  have reports := reports_reconsider (wellFormed_reconsider wellFormed rule caches passed) rule caches passed
  rw [settled] at reports
  exact Prod.ext settled reports.eq_nothing

/-- A pass settles the links of `subject` with all its partners and nothing else. -/
structure SettlesLinks (rule : LinkRule) (caches : Caches) (roster : Roster) (subject : Profile) : Prop where
  /-- Either end of a link with a partner is there if and only if the two belong together. -/
  agreed : ∀ other, rule.Partner caches roster subject other → ∀ id key, IsEnd subject other id key →
    ((rule.reconsider roster caches subject.id).1.LinksTo id key ↔
      rule.shouldLink subject other (caches.get? subject.id) (caches.get? other.id) = true)
  others : ∀ id key, (∀ other, rule.Partner caches roster subject other → ¬ IsEnd subject other id key) →
    ((rule.reconsider roster caches subject.id).1.LinksTo id key ↔ roster.LinksTo id key)
  unlinked : (rule.reconsider roster caches subject.id).1.through Profile.unlinked = roster.through Profile.unlinked
  reports : Reports (rule.reconsider roster caches subject.id).2 roster (rule.reconsider roster caches subject.id).1
    subject.id
  /-- A second pass finds nothing to change. -/
  settled : rule.reconsider (rule.reconsider roster caches subject.id).1 caches subject.id =
    ((rule.reconsider roster caches subject.id).1, ⟨[], []⟩)

theorem settlesLinks_reconsider (wellFormed : roster.WellFormed) (seen : subject ∈ roster.visible)
    (takesPart : rule.TakesPart caches subject) :
    rule.SettlesLinks caches roster subject ∧
    (∀ left right leftCache rightCache,
      rule.shouldLink left right leftCache rightCache = rule.shouldLink right left rightCache leftCache) ∧
    ∀ left right : List ProfileId, (∀ id, id ∈ left ↔ id ∈ right) →
      rule.reconsiderAll roster caches left = rule.reconsiderAll roster caches right := by
  have settles : rule.SettlesLinks caches roster subject := {
    agreed := fun other partner id key => linksTo_of_considers wellFormed ⟨seen, takesPart, partner⟩
    others := fun id key => linksTo_of_no_partner wellFormed seen
    unlinked := unlinked_reconsider rule roster caches subject.id
    reports := reports_reconsider wellFormed rule caches subject.id
    settled := reconsider_reconsider wellFormed rule caches subject.id }
  exact ⟨settles, rule.shouldLink_comm, fun left right => reconsiderAll_congr wellFormed rule caches⟩

/-- A network behind one gateway, the same for all of them. -/
def behindGateway (id : UInt32) (ssid : String) (ephemeral : Bool) : Profile :=
  { Profile.blank ssid .psk with
    id := ⟨id⟩
    preSharedKey := some "password"
    defaultGateway := some "aa:bb:cc:dd:ee:ff"
    ephemeral }

def home : Profile := behindGateway 1 "Home" false

def guest (ephemeral : Bool) : Profile := behindGateway 2 "Guest" ephemeral

/-- Two networks, neither linked to the other yet. -/
def neighbours (ephemeral : Bool) : Roster := (Roster.empty.takeIn home).takeIn (guest ephemeral)

theorem wellFormed_neighbours (ephemeral : Bool) : (neighbours ephemeral).WellFormed :=
  (Roster.wellFormed_empty.takeIn _).takeIn _

theorem settlesLinks_neighbours : (neighbours false).WellFormed ∧ home ∈ (neighbours false).visible ∧
    default.TakesPart .empty home ∧ default.SettlesLinks .empty (neighbours false) home ∧
    (default.reconsider (neighbours false) .empty home.id).2 = ⟨[(guest false).key], []⟩ ∧
    default.reconsiderAll (neighbours false) .empty [home.id, (guest false).id] =
      default.reconsiderAll (neighbours false) .empty [(guest false).id, home.id, (guest false).id] := by
  have wellFormed := wellFormed_neighbours false
  have seen : home ∈ (neighbours false).visible := by decide
  have takesPart : default.TakesPart .empty home := ⟨by decide, nofun⟩
  obtain ⟨settles, _, congr⟩ := settlesLinks_reconsider wellFormed seen takesPart
  exact ⟨wellFormed, seen, takesPart, settles, by decide, congr _ _ (by simp [or_comm])⟩

end LinkRule

end SavedNetworks
