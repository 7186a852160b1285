import SavedNetworks.Address

/-!
The text of an address reads back as the address.
-/

namespace SavedNetworks

namespace Text

/-- Two facts about the sixteen digits at once. -/
theorem hexDigit_solid (value : Nat) : hexDigit value ≠ ':' ∧ hexDigit value ≠ '+' ∧ isBlank (hexDigit value) = false := by
  have digits : ∀ digit : Fin 16, Nat.digitChar digit.val ≠ ':' ∧ Nat.digitChar digit.val ≠ '+' ∧
      isBlank (Nat.digitChar digit.val) = false := by decide
  exact digits ⟨value % 16, Nat.mod_lt _ (by decide)⟩

theorem trimStart_of_not_isBlank {characters : List Char} (solid : ∀ character ∈ characters, isBlank character = false) :
    trimStart characters = characters := by
  cases characters with
  | nil => rfl
  | cons first rest => simp [trimStart, solid first (List.mem_cons_self ..)]

theorem trim_of_not_isBlank {characters : List Char} (solid : ∀ character ∈ characters, isBlank character = false) :
    trim characters = characters := by
  rw [trim, trimStart_of_not_isBlank solid, trimStart_of_not_isBlank fun character present =>
    solid character (List.mem_reverse.1 present), List.reverse_reverse]

end Text

namespace Address

theorem octet?_hexByte (octet : UInt8) : octet? (Text.hexByte octet) = some octet := by
  have bound : octet.toNat < 256 := octet.toNat_lt
  have value : octet.toNat / 16 % 16 * 16 + octet.toNat % 16 = octet.toNat := by omega
  simp only [Text.hexByte, octet?, Text.hexValue?_hexDigit, (Text.hexDigit_solid _).2.1, Option.bind_eq_bind,
    Option.bind_some, if_false, value, UInt8.ofNat_toNat]

theorem groups_ne_nil (characters : List Char) : groups characters ≠ [] := by
  cases characters with
  | nil => simp [groups]
  | cons character rest =>
      rw [groups]
      split
      · simp
      · split <;> simp

theorem intercalate_groups (characters : List Char) : [':'].intercalate (groups characters) = characters := by
  induction characters with
  | nil => simp [groups]
  | cons character rest ih =>
      obtain ⟨first, others, pieces⟩ := List.exists_cons_of_ne_nil (groups_ne_nil rest)
      rw [pieces] at ih
      by_cases colon : character = ':'
      · rw [groups, if_pos colon, pieces, List.intercalate_cons_cons, ih, colon]
        rfl
      · rw [groups, if_neg colon, pieces]
        cases others with
        | nil => simpa using ih
        | cons next later => simpa [List.intercalate_cons_cons] using ih

theorem groups_of_noColon {piece : List Char} (solid : ':' ∉ piece) : groups piece = [piece] := by
  induction piece with
  | nil => rfl
  | cons character rest ih =>
      rw [List.mem_cons, not_or] at solid
      rw [groups, if_neg (Ne.symm solid.1), ih solid.2]

theorem groups_append_colon {piece : List Char} (solid : ':' ∉ piece) (rest : List Char) :
    groups (piece ++ ':' :: rest) = piece :: groups rest := by
  induction piece with
  | nil => rw [List.nil_append, groups, if_pos rfl]
  | cons character later ih =>
      rw [List.mem_cons, not_or] at solid
      rw [List.cons_append, groups, if_neg (Ne.symm solid.1), ih solid.2]

theorem groups_intercalate {pieces : List (List Char)} (nonempty : pieces ≠ []) (solid : ∀ piece ∈ pieces, ':' ∉ piece) :
    groups ([':'].intercalate pieces) = pieces := by
  induction pieces with
  | nil => exact absurd rfl nonempty
  | cons first others ih =>
      have first_solid := solid first (List.mem_cons_self ..)
      cases others with
      | nil => simpa using groups_of_noColon first_solid
      | cons next later =>
          have others_read := ih (by simp) fun piece present => solid piece (List.mem_cons_of_mem _ present)
          rw [List.intercalate_cons_cons, List.append_assoc, List.singleton_append,
            groups_append_colon first_solid, others_read]

theorem noColon_hexByte (octet : UInt8) : ':' ∉ Text.hexByte octet := by
  simp [Text.hexByte, (Text.hexDigit_solid _).1.symm]

theorem not_isBlank_hexByte (octet : UInt8) : ∀ character ∈ Text.hexByte octet, Text.isBlank character = false := by
  simp [Text.hexByte, Text.hexDigit_solid]

theorem not_isBlank_intercalate (octets : List UInt8) :
    ∀ character ∈ [':'].intercalate (octets.map Text.hexByte), Text.isBlank character = false := by
  induction octets with
  | nil => simp
  | cons octet others ih =>
      cases others with
      | nil => simpa using not_isBlank_hexByte octet
      | cons next rest =>
          intro character present
          simp only [List.map_cons, List.intercalate_cons_cons, List.mem_append, List.mem_singleton] at present
          rcases present with (inside | rfl) | later
          · exact not_isBlank_hexByte octet character inside
          · rfl
          · exact ih character later

theorem ofText?_text (address : Address) : ofText? address.text = some address := by
  obtain ⟨⟨⟨octets⟩, six⟩⟩ := address
  match octets, six with
  | [a, b, c, d, e, f], rfl =>
      have pieces : groups ([':'].intercalate ([a, b, c, d, e, f].map Text.hexByte)) = [a, b, c, d, e, f].map Text.hexByte := by
        refine groups_intercalate (by simp) ?_
        rw [List.forall_mem_map]
        exact fun octet _ => noColon_hexByte octet
      have solid := not_isBlank_intercalate [a, b, c, d, e, f]
      simp only [ofText?, text, String.toList_ofList, characters, Vector.toList_mk,
        Text.trim_of_not_isBlank solid, pieces]
      simp only [List.map_cons, List.map_nil, octet?_hexByte]

end Address

end SavedNetworks
