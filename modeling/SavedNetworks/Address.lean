import SavedNetworks.Text.Blank
import SavedNetworks.Text.Hex
import SavedNetworks.Text.Quoted

/-!
Hardware addresses of 48 bits: their text, their order, and the locally administered unicast addresses
that a device may show in place of its own.
-/

namespace SavedNetworks

structure Address where
  octets : Vector UInt8 6
deriving DecidableEq

namespace Address

/-- Addresses are ordered octet by octet, which is also the order of their texts. -/
instance : Ord Address := ⟨fun left right => compare left.octets.toList right.octets.toList⟩

instance : Std.TransOrd Address where
  eq_swap {_ _} := @Std.OrientedCmp.eq_swap _ (compare (α := List UInt8)) _ _ _
  isLE_trans {_ _ _} := @Std.TransCmp.isLE_trans _ (compare (α := List UInt8)) _ _ _ _

instance : Std.LawfulEqOrd Address where
  compare_self {_} := @Std.ReflCmp.compare_self _ (compare (α := List UInt8)) _ _
  eq_of_compare {left right} same := by
    have lists := @Std.LawfulEqCmp.eq_of_compare _ (compare (α := List UInt8)) _ _ _ same
    cases left; cases right
    exact congrArg Address.mk (Vector.toList_inj.1 lists)

/-- Stands where an address is not known or not shown. -/
def sentinel : Address := ⟨#v[0x02, 0, 0, 0, 0, 0]⟩

instance : Inhabited Address := ⟨sentinel⟩

def isMulticast (address : Address) : Bool := address.octets[0] &&& 0x01 != 0

def isLocal (address : Address) : Bool := address.octets[0] &&& 0x02 != 0

/-- Fit to be shown by a station in place of its own address. -/
def isUsable (address : Address) : Bool :=
  !address.isMulticast && address.isLocal && address != sentinel

/-- Turns six octets into a locally administered unicast address by the two low bits of the first. -/
def unicast (octets : Vector UInt8 6) : Address := ⟨octets.set 0 (octets[0] &&& 0xFE ||| 0x02)⟩

theorem isMulticast_unicast (octets : Vector UInt8 6) : (unicast octets).isMulticast = false := by
  simp only [isMulticast, unicast, Vector.getElem_set_self]
  generalize octets[0] = first
  obtain ⟨⟨bits⟩⟩ := first
  revert bits
  decide +kernel

theorem isLocal_unicast (octets : Vector UInt8 6) : (unicast octets).isLocal = true := by
  simp only [isLocal, unicast, Vector.getElem_set_self]
  generalize octets[0] = first
  obtain ⟨⟨bits⟩⟩ := first
  revert bits
  decide +kernel

theorem isUsable_unicast {octets : Vector UInt8 6} (different : unicast octets ≠ sentinel) :
    (unicast octets).isUsable = true := by
  simp [isUsable, isMulticast_unicast, isLocal_unicast, different]

/-- The locally administered unicast address of the first six bytes, if there are six. -/
def ofBytes? : List UInt8 → Option Address
  | a :: b :: c :: d :: e :: f :: _ => some (unicast #v[a, b, c, d, e, f])
  | _ => none

/-! The text of an address: six groups of two hexadecimal digits between colons. -/

def characters (address : Address) : List Char :=
  [':'].intercalate (address.octets.toList.map Text.hexByte)

def text (address : Address) : String := String.ofList address.characters

/-- The value of one group. A plus sign may stand in place of the first digit. -/
def octet? : List Char → Option UInt8
  | [first, second] => do
    let low ← Text.hexValue? second
    if first = '+' then some (UInt8.ofNat low)
    else
      let high ← Text.hexValue? first
      some (UInt8.ofNat (high * 16 + low))
  | _ => none

/-- The pieces of a text between its colons. -/
def groups : List Char → List (List Char)
  | [] => [[]]
  | character :: rest =>
    if character = ':' then [] :: groups rest
    else match groups rest with
      | [] => [[character]]
      | first :: others => (character :: first) :: others

/-- Reads an address, with white space allowed around it. -/
def ofText? (text : String) : Option Address :=
  match (groups (Text.trim text.toList)).map octet? with
  | [some a, some b, some c, some d, some e, some f] => some ⟨#v[a, b, c, d, e, f]⟩
  | _ => none

/-- A text that is no address; it is kept as it was given. -/
structure Malformed where
  text : String
deriving DecidableEq

def Malformed.message (failure : Malformed) : String :=
  "invalid hardware address: " ++ Text.quoted failure.text

def ofText (text : String) : Except Malformed Address :=
  match ofText? text with
  | some address => .ok address
  | none => .error ⟨text⟩

/-- The byte that follows when a finite supply of random bytes has run out. -/
def filler : UInt8 := 0x5A

/-- Takes six bytes for an address and draws again while that address is the sentinel. Returns the
address and the bytes that are left. -/
def draw : List UInt8 → Address × List UInt8
  | a :: b :: c :: d :: e :: f :: rest =>
    let candidate := unicast #v[a, b, c, d, e, f]
    if candidate = sentinel then draw rest else (candidate, rest)
  | short => (unicast (Vector.ofFn fun index => short.getD index filler), [])

/-- The filler is not zero, so bytes that run out before the sixth never spell the sentinel. -/
theorem unicast_filled_ne_sentinel {short : List UInt8} (few : short.length ≤ 5) :
    unicast (Vector.ofFn fun index => short.getD index filler) ≠ sentinel := by
  intro same
  have last := congrArg (fun address : Address => address.octets[5]) same
  simp [unicast, sentinel, List.getElem?_eq_none few, filler] at last

theorem length_le_five_of_short {short : List UInt8}
    (few : ∀ a b c d e f rest, short = a :: b :: c :: d :: e :: f :: rest → False) : short.length ≤ 5 := by
  rcases short with _ | ⟨a, _ | ⟨b, _ | ⟨c, _ | ⟨d, _ | ⟨e, _ | ⟨f, rest⟩⟩⟩⟩⟩⟩
  case cons.cons.cons.cons.cons.cons => exact (few a b c d e f rest rfl).elim
  all_goals simp

theorem isUsable_draw (bytes : List UInt8) : (draw bytes).1.isUsable = true := by
  fun_induction draw bytes with
  | case1 a b c d e f rest candidate again rest_usable => exact rest_usable
  | case2 a b c d e f rest candidate accepted => exact isUsable_unicast accepted
  | case3 short few => exact isUsable_unicast (unicast_filled_ne_sentinel (length_le_five_of_short few))

end Address

end SavedNetworks
