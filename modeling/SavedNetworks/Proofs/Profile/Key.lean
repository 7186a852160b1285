import SavedNetworks.Profile.Key

/-!
A key determines the network that it was made for: the ending of a key holds no quote, so the last quote
of the text is where the SSID stops.
-/

namespace SavedNetworks

/-- Texts that part at their last mark have the same parts. -/
theorem eq_of_append_mark {α : Type} {mark : α} {left right leftEnd rightEnd : List α} (leftClean : mark ∉ leftEnd)
    (rightClean : mark ∉ rightEnd) (same : left ++ mark :: leftEnd = right ++ mark :: rightEnd) :
    left = right ∧ leftEnd = rightEnd := by
  rcases List.append_eq_append_iff.1 same with ⟨more, split, tail⟩ | ⟨more, split, tail⟩
  · cases more with
    | nil => simp_all
    | cons first rest =>
        rw [List.cons_append, List.cons.injEq] at tail
        exact absurd (by rw [tail.2]; simp) leftClean
  · cases more with
    | nil => simp_all
    | cons first rest =>
        rw [List.cons_append, List.cons.injEq] at tail
        exact absurd (by rw [tail.2]; simp) rightClean

namespace Security

theorem quote_not_mem_keySuffix (security : Security) : '"' ∉ security.keySuffix.toList := by
  cases security <;> decide

theorem keySuffix_injective {left right : Security} (same : left.keySuffix = right.keySuffix) : left = right := by
  cases left <;> cases right <;> first | rfl | exact absurd same (by decide)

end Security

namespace ProfileKey

theorem toList_ofNetwork (ssid : String) (security : Security) :
    (ofNetwork ssid security).text.toList = ('"' :: ssid.toList) ++ '"' :: security.keySuffix.toList := by
  simp [ofNetwork]

theorem ofNetwork_injective {ssid other : String} {security another : Security}
    (same : ofNetwork ssid security = ofNetwork other another) : ssid = other ∧ security = another := by
  have texts : (ofNetwork ssid security).text.toList = (ofNetwork other another).text.toList := by rw [same]
  rw [toList_ofNetwork, toList_ofNetwork] at texts
  obtain ⟨names, endings⟩ := eq_of_append_mark security.quote_not_mem_keySuffix another.quote_not_mem_keySuffix texts
  rw [List.cons.injEq] at names
  exact ⟨String.toList_inj.1 names.2, Security.keySuffix_injective (String.toList_inj.1 endings)⟩

end ProfileKey

end SavedNetworks
