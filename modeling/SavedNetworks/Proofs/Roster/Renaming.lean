import Mathlib.Data.FinEnum
import Mathlib.Data.Fintype.Sum
import SavedNetworks.Proofs.Roster.WellFormed

/-!
Rosters that hold the same profiles under other ids.
-/

namespace SavedNetworks

instance : Finite ProfileId :=
  Finite.of_injective ProfileId.value fun left right same => by
    cases left
    cases right
    exact congrArg ProfileId.mk same

namespace Profile

/-- A profile under the id that a renaming gives it. -/
def renamed (rename : Equiv.Perm ProfileId) (profile : Profile) : Profile := profile.withId (rename profile.id)

theorem renamed_injective (rename : Equiv.Perm ProfileId) : Function.Injective (renamed rename) := by
  intro one other same
  have ids := rename.injective (congrArg Profile.id same)
  have numbered := congrArg (Profile.withId · one.id) same
  exact numbered.trans (congrArg other.withId ids)

end Profile

namespace Roster

variable {left right : Roster} {profile : Profile} {key : ProfileKey} {id : ProfileId} {rename : Equiv.Perm ProfileId}

/-- What the tenant of one roster finds under an id, the tenant of the other one finds under the new id. -/
def Renamed (rename : Equiv.Perm ProfileId) (left right : Roster) : Prop :=
  ∀ id, right.get? (rename id) = (left.get? id).map (Profile.renamed rename)

theorem WellFormed.get?_of_getByKey? (wellFormed : left.WellFormed) (found : left.getByKey? key = some profile) :
    left.get? profile.id = some profile := (wellFormed.getByKey?_eq_some.1 found).1

theorem WellFormed.nodup_visible (wellFormed : left.WellFormed) : left.visible.Nodup :=
  (List.Nodup.of_map _ wellFormed.nodup_ids).filter _

/-- The id of the profile that holds in one roster the key that an id stands for in another. -/
def partner (left right : Roster) (id : ProfileId) : ProfileId :=
  ((left.get? id).bind fun profile => right.getByKey? profile.key).elim id Profile.id

section Pairs

variable (here : left.WellFormed) (there : right.WellFormed)
  (alike : ∀ key, (right.getByKey? key).map Profile.unnumbered = (left.getByKey? key).map Profile.unnumbered)

include here alike

/-- One with the same key is found on the other side. -/
theorem exists_alike {mine : Profile} (found : left.get? id = some mine) :
    ∃ theirs, right.getByKey? mine.key = some theirs ∧ theirs.unnumbered = mine.unnumbered := by
  have same := alike mine.key
  rwa [here.getByKey?_eq_some.2 ⟨here.id_of_get? found ▸ found, rfl⟩, Option.map_some, Option.map_eq_some_iff] at same

include there

theorem exists_partner {mine : Profile} (found : left.get? id = some mine) :
    ∃ theirs, right.get? (left.partner right id) = some theirs ∧ theirs.unnumbered = mine.unnumbered := by
  obtain ⟨theirs, held, looks⟩ := exists_alike here alike found
  have named : left.partner right id = theirs.id := by simp [partner, found, held]
  exact ⟨theirs, named ▸ there.get?_of_getByKey? held, looks⟩

theorem injOn_partner : Set.InjOn (left.partner right) {id | (left.get? id).isSome = true} := by
  intro first seen second found same
  obtain ⟨one, seen⟩ := Option.isSome_iff_exists.1 seen
  obtain ⟨other, found⟩ := Option.isSome_iff_exists.1 found
  obtain ⟨theirs, held, looks⟩ := exists_partner here there alike seen
  obtain ⟨again, still, equal⟩ := exists_partner here there alike found
  rw [same, still, Option.some.injEq] at held
  subst held
  have keys := congrArg Profile.key (looks.symm.trans equal)
  obtain rfl := here.eq_of_key (mem_of_get? seen) (mem_of_get? found) keys
  exact (here.id_of_get? seen).symm.trans (here.id_of_get? found)

/-- The pairs of ids extend to all ids, as there are finitely many. -/
theorem exists_extension :
    ∃ rename : Equiv.Perm ProfileId, ∀ id mine, left.get? id = some mine → rename id = left.partner right id := by
  have : Fintype ProfileId := Fintype.ofFinite ProfileId
  obtain ⟨extended, continues⟩ := Set.MapsTo.exists_equiv_extend_of_card_eq Finset.card_univ.symm
    (fun id _ => Finset.mem_coe.2 (Finset.mem_univ (left.partner right id))) (injOn_partner here there alike)
  exact ⟨extended.trans (Equiv.subtypeUnivEquiv Finset.mem_univ),
    fun id _ found => continues id (Option.isSome_of_eq_some found)⟩

/-- Profiles alike by their keys are found under ids that a renaming pairs. -/
theorem exists_renaming : ∃ rename, Renamed rename left right := by
  obtain ⟨rename, continues⟩ := exists_extension here there alike
  have renames : ∀ id mine, left.get? id = some mine → right.get? (rename id) = some (mine.renamed rename) := by
    intro id mine found
    obtain ⟨theirs, held, looks⟩ := exists_partner here there alike found
    rw [← continues id mine found] at held
    rw [held, Profile.eq_withId_of_unnumbered looks, there.id_of_get? held, Profile.renamed, here.id_of_get? found]
  refine ⟨rename, fun id => ?_⟩
  cases found : left.get? id with
  | some mine => exact renames id mine found
  | none =>
      rw [Option.map_none, Option.eq_none_iff_forall_ne_some]
      intro theirs held
      obtain ⟨mine, kept, looks⟩ := exists_alike there (fun key => (alike key).symm) held
      have seen := here.get?_of_getByKey? kept
      have counterpart := renames mine.id mine seen
      have keys := congrArg Profile.key looks
      have equal := there.eq_of_key (mem_of_get? counterpart) (mem_of_get? held) keys
      have ids := congrArg Profile.id equal
      rw [there.id_of_get? held] at ids
      have same := rename.injective ids
      rw [← same, seen] at found
      cases found

end Pairs

namespace Renamed

variable (here : left.WellFormed) (there : right.WellFormed) (renamed : Renamed rename left right)

include here renamed

theorem get?_eq_some_iff : right.get? profile.id = some profile ↔
    ∃ mine, left.get? mine.id = some mine ∧ mine.renamed rename = profile := by
  constructor
  · intro found
    have back := renamed (rename.symm profile.id)
    rw [Equiv.apply_symm_apply, found, eq_comm, Option.map_eq_some_iff] at back
    obtain ⟨mine, seen, same⟩ := back
    exact ⟨mine, here.id_of_get? seen ▸ seen, same⟩
  · rintro ⟨mine, seen, rfl⟩
    have found := renamed mine.id
    rw [seen, Option.map_some] at found
    exact found

include there

theorem getByKey? (key : ProfileKey) : right.getByKey? key = (left.getByKey? key).map (Profile.renamed rename) := by
  ext theirs
  rw [there.getByKey?_eq_some, renamed.get?_eq_some_iff here, Option.map_eq_some_iff]
  constructor
  · rintro ⟨⟨mine, seen, rfl⟩, named⟩
    exact ⟨mine, here.getByKey?_eq_some.2 ⟨seen, named⟩, rfl⟩
  · rintro ⟨mine, held, rfl⟩
    obtain ⟨seen, named⟩ := here.getByKey?_eq_some.1 held
    exact ⟨⟨mine, seen, rfl⟩, named⟩

theorem visible_perm : right.visible.Perm (left.visible.map (Profile.renamed rename)) := by
  rw [List.perm_ext_iff_of_nodup there.nodup_visible (here.nodup_visible.map (Profile.renamed_injective rename))]
  intro theirs
  rw [there.mem_visible, renamed.get?_eq_some_iff here, List.mem_map]
  simp only [here.mem_visible]

end Renamed

end Roster

end SavedNetworks
