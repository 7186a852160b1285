import SavedNetworks.Network.Security

/-!
The two identities of a profile: a key that outlives the run and an id that does not.
-/

namespace SavedNetworks

/-- What a profile is known by across restarts: its SSID and security type. -/
structure ProfileKey where
  text : String
deriving DecidableEq

namespace ProfileKey

def ofNetwork (ssid : String) (security : Security) : ProfileKey :=
  ⟨"\"" ++ ssid ++ "\"" ++ security.keySuffix⟩

instance : Ord ProfileKey := ⟨fun left right => compare left.text right.text⟩

instance : Std.TransOrd ProfileKey where
  eq_swap {_ _} := @Std.OrientedCmp.eq_swap _ (compare (α := String)) _ _ _
  isLE_trans {_ _ _} := @Std.TransCmp.isLE_trans _ (compare (α := String)) _ _ _ _

instance : Std.LawfulEqOrd ProfileKey where
  compare_self {_} := @Std.ReflCmp.compare_self _ (compare (α := String)) _ _
  eq_of_compare {left right} same := by
    cases left; cases right
    exact congrArg mk (@Std.LawfulEqCmp.eq_of_compare _ (compare (α := String)) _ _ _ same)

end ProfileKey

/-- What a profile is known by within one run. -/
structure ProfileId where
  value : UInt32
deriving DecidableEq

namespace ProfileId

instance : Ord ProfileId := ⟨fun left right => compare left.value right.value⟩

instance : Std.TransOrd ProfileId where
  eq_swap {_ _} := @Std.OrientedCmp.eq_swap _ (compare (α := UInt32)) _ _ _
  isLE_trans {_ _ _} := @Std.TransCmp.isLE_trans _ (compare (α := UInt32)) _ _ _ _

instance : Std.LawfulEqOrd ProfileId where
  compare_self {_} := @Std.ReflCmp.compare_self _ (compare (α := UInt32)) _ _
  eq_of_compare {left right} same := by
    cases left; cases right
    exact congrArg mk (@Std.LawfulEqCmp.eq_of_compare _ (compare (α := UInt32)) _ _ _ same)

def unset : ProfileId := ⟨0⟩

end ProfileId

end SavedNetworks
