/-!
Stable sorting: where the order of a sort does not tell two elements apart, they stay in the order that they had.
-/

namespace SavedNetworks

universe u

variable {α : Type u} {before : α → α → Prop} {listed : List α}

theorem nodup_of_pairwise (strict : ∀ one, ¬ before one one) (ordered : listed.Pairwise before) : listed.Nodup :=
  ordered.imp fun earlier same => by
    subst same
    exact strict _ earlier

theorem not_both_sublist {one other : α} (distinct : listed.Nodup) (forward : [one, other].Sublist listed) :
    ¬ [other, one].Sublist listed := by
  induction listed with
  | nil => simp at forward
  | cons first rest ih =>
      obtain ⟨absent, rest_distinct⟩ := List.nodup_cons.1 distinct
      intro backward
      cases forward with
      | cons _ later =>
          cases backward with
          | cons _ behind => exact ih rest_distinct later behind
          | cons_cons _ behind => exact absent (later.mem (by simp))
      | cons_cons _ later =>
          cases backward with
          | cons _ behind => exact absent (behind.mem (by simp))
          | cons_cons _ behind => exact absent (later.mem (by simp))

theorem sublist_or_sublist {one other : α} (here : one ∈ listed) (there : other ∈ listed) (apart : one ≠ other) :
    [one, other].Sublist listed ∨ [other, one].Sublist listed := by
  induction listed with
  | nil => cases here
  | cons first rest ih =>
      cases here with
      | head =>
          cases there with
          | head => exact absurd rfl apart
          | tail _ later => exact .inl (.cons_cons _ (List.singleton_sublist.2 later))
      | tail _ earlier =>
          cases there with
          | head => exact .inr (.cons_cons _ (List.singleton_sublist.2 earlier))
          | tail _ later =>
              cases ih earlier later with
              | inl forward => exact .inl (forward.cons _)
              | inr backward => exact .inr (backward.cons _)

/-- A list in one strict order, sorted by another one, is in the second order and, among ties, in the first. -/
theorem pairwise_mergeSort_of_ordered (le : α → α → Bool) (strict : ∀ one, ¬ before one one)
    (ordered : listed.Pairwise before)
    (trans : ∀ one two three, le one two = true → le two three = true → le one three = true)
    (total : ∀ one two, (le one two || le two one) = true) :
    (listed.mergeSort le).Pairwise fun one two => le one two = true ∧ (le two one = true → before one two) := by
  have distinct := nodup_of_pairwise strict ordered
  have sorted := List.pairwise_mergeSort trans total listed
  rw [List.pairwise_iff_forall_sublist] at sorted ordered ⊢
  intro one two forward
  refine ⟨sorted forward, fun tied => ?_⟩
  have still : (listed.mergeSort le).Nodup := (List.mergeSort_perm listed le).nodup_iff.2 distinct
  have apart : one ≠ two := by
    intro same
    have pair := still.sublist forward
    simp [same] at pair
  have here : one ∈ listed := List.mem_mergeSort.1 (forward.mem (by simp))
  have there : two ∈ listed := List.mem_mergeSort.1 (forward.mem (by simp))
  cases sublist_or_sublist here there apart with
  | inl kept => exact ordered kept
  | inr turned => exact absurd (List.pair_sublist_mergeSort trans total tied turned) (not_both_sublist still forward)

end SavedNetworks
