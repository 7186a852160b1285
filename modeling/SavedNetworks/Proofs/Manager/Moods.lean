import SavedNetworks.Proofs.Manager.Everywhere
import SavedNetworks.Proofs.Manager.Passages

/-!
In a run from an empty store every state of a profile is the one that its reason asks for, in memory and in the store
(`Manager.ReachableAlone.coherent`).
-/

namespace SavedNetworks

theorem Profile.isLasting_coherent : IsLasting fun profile => profile.selection.Coherent where
  persisted _ coherent := coherent
  number _ _ coherent := coherent
  address _ _ coherent _ := coherent
  reset _ coherent := coherent

/-- Every profile in memory and every record has a coherent status. -/
abbrev Books.Coherent (books : Books) : Prop := books.Everywhere fun profile => profile.selection.Coherent

namespace Ledger

variable {id : ProfileId} {ids : List ProfileId} {next : UInt32} {first last before after : Ledger}

theorem Persists.coherent (written : Persists before after) (coherent : before.books.Coherent) : after.books.Coherent := by
  cases written with
  | unread => exact coherent
  | write addresses force => exact coherent.write Profile.isLasting_coherent addresses force

theorem Deed.coherent (deed : Deed before after) (wellFormed : before.books.roster.WellFormed)
    (coherent : before.books.Coherent) : after.books.Coherent := by
  cases deed with
  | tell => exact coherent
  | aside roster ids same => exact coherent.of_sameContents same fun profile present => coherent.memory profile (roster ▸ present)
  | persist written => exact written.coherent coherent
  | note stances =>
      exact coherent.of_through (fun _ _ same => SelectionStatus.coherent_congr (Profile.mood_of_stance same)) stances (.refl _)
  | @drop id dropped found =>
      refine coherent.of_sameContents (.refl _) fun profile present => ?_
      obtain ⟨old, earlier, _, rfl⟩ := wellFormed.mem_drop.1 present
      have mood := Profile.mood_of_stance (Roster.stance_released before.books.roster dropped.key old)
      exact (SelectionStatus.coherent_congr mood).2 (coherent.memory old earlier)
  | revise found mood stored =>
      have old := coherent.memory _ (Roster.mem_of_get? found)
      exact coherent.put wellFormed ((SelectionStatus.coherent_congr mood).2 old) stored _

theorem Deeds.coherent (deeds : Deeds first last) (wellFormed : first.books.roster.WellFormed)
    (coherent : first.books.Coherent) : last.books.Coherent := by
  induction deeds with
  | refl => exact coherent
  | tail earlier deed ih => exact deed.coherent (Deeds.spec earlier wellFormed).1 ih

theorem Enters.coherent (enters : Enters before after) (wellFormed : before.books.roster.WellFormed)
    (coherent : before.books.Coherent) : after.books.Coherent := by
  cases enters with
  | nobody => exact coherent
  | lost => exact coherent.of_sameContents (.refl _) coherent.memory
  | filed fresh new stored => exact coherent.put wellFormed new stored _

theorem Picks.coherent (picks : Picks id before after) (wellFormed : before.books.roster.WellFormed)
    (coherent : before.books.Coherent) : after.books.Coherent := by
  have same : after.books.store.SameContents before.books.store := by
    cases picks
    exact .refl _
  refine coherent.of_sameContents same fun profile present => ?_
  obtain ⟨other, there⟩ := SortedMap.mem_values_iff.1 present
  obtain ⟨apart, picked⟩ := picks.turn wellFormed other
  by_cases chosen : other = id
  · obtain ⟨old, new, transition, earlier, now, moved, _⟩ := picked chosen
    obtain rfl := Option.some.inj (now.symm.trans there)
    exact moved.coherent (coherent.memory old (SortedMap.mem_values_iff.2 ⟨other, earlier⟩))
  · exact coherent.memory profile (SortedMap.mem_values_iff.2 ⟨other, (apart chosen).1.symm.trans there⟩)

theorem Selects.coherent (selects : Selects ids first last) (wellFormed : first.books.roster.WellFormed)
    (coherent : first.books.Coherent) : last.books.Coherent := by
  induction selects with
  | nil => exact coherent
  | cons picked written _ ih =>
      exact ih (written.same.1 ▸ picked.wellFormed wellFormed) (written.coherent (picked.coherent wellFormed coherent))

theorem Closes.coherent (closes : Closes next before after) (coherent : before.books.Coherent) : after.books.Coherent := by
  cases closes with
  | quietly written => exact written.coherent coherent
  | added found written => exact written.coherent coherent
  | updated found written => exact written.coherent coherent

theorem Conduct.coherent (conduct : Conduct first last) (wellFormed : first.books.roster.WellFormed)
    (coherent : first.books.Coherent) : last.books.Coherent := by
  cases conduct with
  | intro former enters latter distinct selects closes =>
      have formed := (former.spec wellFormed).1
      have filed := enters.wellFormed formed
      have ready := (latter.spec filed).1
      have early := former.coherent wellFormed coherent
      have entered := enters.coherent formed early
      exact closes.coherent (selects.coherent ready (latter.coherent filed entered))

end Ledger

namespace Manager

variable {manager : Manager} {operation : Operation}

theorem coherent_perform (wellFormed : manager.roster.WellFormed) (coherent : manager.books.Coherent)
    (ours : operation.isForeign = false) : (manager.perform operation).1.books.Coherent := by
  cases stays : operation.followsTenants with
  | false => exact (conduct_perform wellFormed stays ours).coherent wellFormed coherent
  | true => exact everywhere_of_followsTenants Profile.isLasting_coherent wellFormed coherent stays

theorem ReachableAlone.coherent (alone : manager.ReachableAlone) : manager.books.Coherent := by
  induction alone with
  | start empty settings platform listeners digest random =>
      exact everywhere_start _ empty settings platform listeners digest random
  | perform alone ordinary ih => exact coherent_perform alone.sound.wellFormed ih ordinary.ours

end Manager

end SavedNetworks
