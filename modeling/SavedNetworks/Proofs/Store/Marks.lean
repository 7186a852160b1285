import SavedNetworks.Proofs.Text.Decimal
import SavedNetworks.Store.Buffered

/-!
The marks in front of the keys of a store in a file: a marked key is one tenant's and no other's.
-/

namespace SavedNetworks.StoreFile

variable {tenant other : Tenant} {key rest : String}

/-- A mark ends at the first character that is no digit. -/
theorem takeWhile_isDigit_mark (tenant : Tenant) (rest : List Char) :
    (tenantMark tenant ++ rest).takeWhile Char.isDigit = Text.decimal tenant.toNat := by
  rw [tenantMark, List.append_assoc, List.takeWhile_append_of_pos fun _ => Text.isDigit_of_mem_decimal]
  simp

theorem tenant_eq_of_mark {left right : List Char} (same : tenantMark tenant ++ left = tenantMark other ++ right) :
    tenant = other := by
  have digits := congrArg (List.takeWhile Char.isDigit) same
  rw [takeWhile_isDigit_mark, takeWhile_isDigit_mark] at digits
  exact UInt32.toNat_inj.1 (Text.decimal_injective digits)

theorem withoutMark?_eq_some_iff : withoutMark? tenant key = some rest ↔ key = tenantKey tenant rest := by
  simp only [withoutMark?, tenantKey]
  constructor
  · intro stripped
    split at stripped
    · next marked =>
        obtain ⟨tail, same⟩ := List.isPrefixOf_iff_prefix.1 marked
        rw [← same, List.drop_left, Option.some.injEq] at stripped
        rw [← stripped, String.toList_ofList, same, String.ofList_toList]
    · cases stripped
  · rintro rfl
    simp

@[simp] theorem withoutMark?_tenantKey (tenant : Tenant) (rest : String) :
    withoutMark? tenant (tenantKey tenant rest) = some rest :=
  withoutMark?_eq_some_iff.2 rfl

theorem tenantKey_injective (same : tenantKey tenant key = tenantKey other rest) : tenant = other ∧ key = rest := by
  have texts : tenantMark tenant ++ key.toList = tenantMark other ++ rest.toList := String.ofList_inj.1 same
  have tenants := tenant_eq_of_mark texts
  subst tenants
  exact ⟨rfl, String.toList_inj.1 (List.append_cancel_left texts)⟩

theorem isOf_tenantKey {α : Type} (value : α) : isOf tenant (tenantKey other rest) value = (tenant == other) := by
  unfold isOf
  by_cases same : tenant = other
  · subst same
    simp
  · have unmarked : withoutMark? tenant (tenantKey other rest) = none := by
      rw [Option.eq_none_iff_forall_ne_some]
      intro stripped found
      exact same (tenantKey_injective (withoutMark?_eq_some_iff.1 found)).1.symm
    simp [unmarked, same]

theorem eq_of_isOf {α : Type} {value : α} (here : isOf tenant key value = true) (there : isOf other key value = true) :
    tenant = other := by
  obtain ⟨rest, stripped⟩ := Option.isSome_iff_exists.1 here
  obtain ⟨more, unmarked⟩ := Option.isSome_iff_exists.1 there
  have keys := (withoutMark?_eq_some_iff.1 stripped).symm.trans (withoutMark?_eq_some_iff.1 unmarked)
  exact (tenantKey_injective keys).1

end SavedNetworks.StoreFile
