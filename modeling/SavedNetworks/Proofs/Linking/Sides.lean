import SavedNetworks.Proofs.Linking.Passes

/-!
What the two profiles of a link make of it. They decide alike, but which of them is ephemeral is asked only about the
partner: a pass for an ephemeral profile links it, and no pass for its partner ever considers that link
(`LinkRule.sidesAgree_iff`).
-/

namespace SavedNetworks

namespace LinkRule

variable {rule : LinkRule} {caches : Caches} {roster : Roster} {left right profile : Profile} {id passed : ProfileId}
  {key : ProfileKey} {link : Bool}

/-- A pass makes one end of a link. -/
def Makes (rule : LinkRule) (caches : Caches) (roster : Roster) (passed id : ProfileId) (key : ProfileKey) : Prop :=
  ¬ roster.LinksTo id key ∧ (rule.reconsider roster caches passed).1.LinksTo id key

/-- A pass breaks one end of a link. -/
def Breaks (rule : LinkRule) (caches : Caches) (roster : Roster) (passed id : ProfileId) (key : ProfileKey) : Prop :=
  roster.LinksTo id key ∧ ¬ (rule.reconsider roster caches passed).1.LinksTo id key

/-- A pass makes an end of a link that a profile has or that leads to it. -/
def Binds (rule : LinkRule) (caches : Caches) (roster : Roster) (passed : ProfileId) (profile : Profile) : Prop :=
  ∃ id key, (id = profile.id ∨ key = profile.key) ∧ rule.Makes caches roster passed id key

/-- The passes for two profiles make and break the same ends of the link between them. -/
def SidesAgree (rule : LinkRule) (caches : Caches) (roster : Roster) (left right : Profile) : Prop :=
  ∀ id key, IsEnd left right id key →
    (rule.Makes caches roster left.id id key ↔ rule.Makes caches roster right.id id key) ∧
    (rule.Breaks caches roster left.id id key ↔ rule.Breaks caches roster right.id id key)

/-- Two profiles take part, one of them is ephemeral, and their link is not as it is to be. -/
structure OneSided (rule : LinkRule) (caches : Caches) (roster : Roster) (left right : Profile) : Prop where
  takesPart : rule.TakesPart caches left ∧ rule.TakesPart caches right
  differ : left.ephemeral ≠ right.ephemeral
  stale : ∃ id key, IsEnd left right id key ∧ ¬ (roster.LinksTo id key ↔ rule.belong caches left right = true)

theorem makes_iff (wellFormed : roster.WellFormed) : rule.Makes caches roster passed id key ↔
    ¬ roster.LinksTo id key ∧ rule.Decided caches roster [passed] id key true := by
  rw [Makes, linksTo_reconsider wellFormed]
  grind

theorem breaks_iff (wellFormed : roster.WellFormed) : rule.Breaks caches roster passed id key ↔
    roster.LinksTo id key ∧ rule.Decided caches roster [passed] id key false := by
  have once : rule.Decided caches roster [passed] id key true → ¬ rule.Decided caches roster [passed] id key false :=
    not_decided_both wellFormed
  rw [Breaks, linksTo_reconsider wellFormed]
  grind

/-- A pass for one of two profiles decides about their link if both take part and the other one is not ephemeral. -/
theorem decided_end_iff (wellFormed : roster.WellFormed) (here : left ∈ roster.visible) (there : right ∈ roster.visible)
    (apart : right.id ≠ left.id) (isEnd : IsEnd left right id key) :
    rule.Decided caches roster [left.id] id key link ↔ rule.TakesPart caches left ∧ rule.TakesPart caches right ∧
      right.ephemeral = false ∧ rule.belong caches left right = link := by
  constructor
  · intro decided
    obtain ⟨another, considers, isEndToo, verdict⟩ := (decided_singleton_iff wellFormed here).1 decided
    obtain ⟨first, second⟩ := considers.mem_all
    cases isEnd.eq_or_eq wellFormed isEndToo first (List.mem_filter.1 there).1 first second with
    | inl same =>
        obtain ⟨_, rfl⟩ := same
        exact ⟨considers.takesPart, considers.partner.takesPart, considers.partner.lasting, verdict⟩
    | inr turned => exact absurd (congrArg Profile.id turned.1).symm apart
  · intro conditions
    obtain ⟨takesPart, partnerTakesPart, lasting, verdict⟩ := conditions
    have considers : rule.Considers caches roster left right :=
      ⟨here, takesPart, there, apart, lasting, partnerTakesPart⟩
    exact (decided_singleton_iff wellFormed here).2 ⟨right, considers, isEnd, verdict⟩

/-- The two sides agree about an end, unless only one of them may decide about it and it is not as it is to be. -/
theorem agree_iff (wellFormed : roster.WellFormed) (here : left ∈ roster.visible) (there : right ∈ roster.visible)
    (apart : left.id ≠ right.id) (isEnd : IsEnd left right id key) :
    ((rule.Makes caches roster left.id id key ↔ rule.Makes caches roster right.id id key) ∧
      (rule.Breaks caches roster left.id id key ↔ rule.Breaks caches roster right.id id key)) ↔
    ¬ ((rule.TakesPart caches left ∧ rule.TakesPart caches right) ∧ left.ephemeral ≠ right.ephemeral ∧
      ¬ (roster.LinksTo id key ↔ rule.belong caches left right = true)) := by
  have onLeft (link : Bool) : rule.Decided caches roster [left.id] id key link ↔ _ :=
    decided_end_iff wellFormed here there apart.symm isEnd
  have onRight (link : Bool) : rule.Decided caches roster [right.id] id key link ↔ _ :=
    decided_end_iff wellFormed there here apart ((isEnd_comm left right).1 isEnd)
  simp only [makes_iff wellFormed, breaks_iff wellFormed, onLeft, onRight, rule.belong_comm caches right left]
  cases left.ephemeral <;> cases right.ephemeral <;> cases rule.belong caches left right <;> grind

theorem sidesAgree_iff_not_oneSided (wellFormed : roster.WellFormed) (here : left ∈ roster.visible)
    (there : right ∈ roster.visible) (apart : left.id ≠ right.id) :
    rule.SidesAgree caches roster left right ↔ ¬ rule.OneSided caches roster left right := by
  constructor
  · intro agree oneSided
    obtain ⟨takesPart, differ, id, key, isEnd, stale⟩ := oneSided
    exact (agree_iff wellFormed here there apart isEnd).1 (agree id key isEnd) ⟨takesPart, differ, stale⟩
  · intro evenly id key isEnd
    refine (agree_iff wellFormed here there apart isEnd).2 fun conditions => evenly ?_
    obtain ⟨takesPart, differ, stale⟩ := conditions
    exact ⟨takesPart, differ, id, key, isEnd, stale⟩

/-- No pass but its own binds an ephemeral profile. -/
theorem binds_ephemeral_iff (wellFormed : roster.WellFormed) (seen : profile ∈ roster.visible)
    (ephemeral : profile.ephemeral = true) :
    rule.Binds caches roster passed profile ↔ passed = profile.id ∧ rule.TakesPart caches profile ∧
      ∃ other, rule.Partner caches roster profile other ∧ rule.belong caches profile other = true ∧
        ∃ id key, IsEnd profile other id key ∧ ¬ roster.LinksTo id key := by
  have present := (List.mem_filter.1 seen).1
  constructor
  · intro binds
    obtain ⟨id, key, touches, makes⟩ := binds
    obtain ⟨missing, subject, other, asked, considers, isEnd, together⟩ := (makes_iff wellFormed).1 makes
    obtain ⟨here, there⟩ := considers.mem_all
    have lasting : other ≠ profile := by
      intro same
      have unlike := considers.partner.lasting
      rw [same, ephemeral] at unlike
      cases unlike
    have own : subject = profile := by
      have byId : ∀ one ∈ roster.all, one.id = profile.id → one = profile :=
        fun _ one => wellFormed.eq_of_id one present
      have byKey : ∀ one ∈ roster.all, one.key = profile.key → one = profile :=
        fun _ one => wellFormed.eq_of_key one present
      unfold IsEnd at isEnd
      grind
    subst own
    have named := List.mem_singleton.1 asked
    exact ⟨named.symm, considers.takesPart, other, considers.partner, together, id, key, isEnd, missing⟩
  · intro own
    obtain ⟨rfl, takesPart, other, partner, together, id, key, isEnd, missing⟩ := own
    have touches : id = profile.id ∨ key = profile.key := isEnd.imp And.left And.right
    have decided : rule.Decided caches roster [profile.id] id key true :=
      (decided_singleton_iff wellFormed seen).2 ⟨other, ⟨seen, takesPart, partner⟩, isEnd, together⟩
    exact ⟨id, key, touches, (makes_iff wellFormed).2 ⟨missing, decided⟩⟩

/-- Passes for either of two profiles come to the same for their link, unless one of them is ephemeral; then its own
passes link it, and nobody else's. -/
theorem sidesAgree_iff (wellFormed : roster.WellFormed) (here : left ∈ roster.visible) (there : right ∈ roster.visible)
    (apart : left.id ≠ right.id) :
    (rule.SidesAgree caches roster left right ↔ ¬ rule.OneSided caches roster left right) ∧
    (left.ephemeral = true → ∀ passed, rule.Binds caches roster passed left ↔
      passed = left.id ∧ rule.TakesPart caches left ∧
        ∃ other, rule.Partner caches roster left other ∧
          rule.shouldLink left other (caches.get? left.id) (caches.get? other.id) = true ∧
          ∃ id key, IsEnd left other id key ∧ ¬ roster.LinksTo id key) := by
  refine ⟨sidesAgree_iff_not_oneSided wellFormed here there apart, fun ephemeral passed => ?_⟩
  exact binds_ephemeral_iff wellFormed here ephemeral

theorem sidesAgree_neighbours : (neighbours false).WellFormed ∧ home ∈ (neighbours false).visible ∧
    guest false ∈ (neighbours false).visible ∧ home.id ≠ (guest false).id ∧
    default.SidesAgree .empty (neighbours false) home (guest false) := by
  have wellFormed := wellFormed_neighbours false
  have here : home ∈ (neighbours false).visible := by decide
  have there : guest false ∈ (neighbours false).visible := by decide
  have apart : home.id ≠ (guest false).id := by decide
  obtain ⟨agree, _⟩ := sidesAgree_iff wellFormed here there apart
  exact ⟨wellFormed, here, there, apart, agree.2 fun oneSided => oneSided.differ rfl⟩

/-- A pass for an ephemeral network links it, and one for its neighbour does not. -/
theorem not_sidesAgree_neighbours : (neighbours true).WellFormed ∧ home ∈ (neighbours true).visible ∧
    guest true ∈ (neighbours true).visible ∧ default.Binds .empty (neighbours true) (guest true).id (guest true) ∧
    ¬ default.SidesAgree .empty (neighbours true) home (guest true) := by
  have makes : default.Makes .empty (neighbours true) (guest true).id home.id (guest true).key :=
    ⟨by decide, by decide⟩
  have leaves : ¬ (default.reconsider (neighbours true) .empty home.id).1.LinksTo home.id (guest true).key := by
    decide
  refine ⟨wellFormed_neighbours true, by decide, by decide, ⟨_, _, .inr rfl, makes⟩, fun agree => ?_⟩
  have same := (agree home.id (guest true).key (.inl ⟨rfl, rfl⟩)).1
  exact leaves (same.2 makes).2

end LinkRule

end SavedNetworks
