import Mathlib.Data.List.Forall2
import Mathlib.Data.List.TakeWhile
import SavedNetworks.Proofs.Address
import SavedNetworks.Text.Ascii

/-!
The grammar of an address in text: six groups of two hexadecimal digits between single colons. The reader
follows it for every text but those in which a plus sign stands in place of a first digit
(`readsByGrammar_iff`).
-/

namespace SavedNetworks

namespace Text

def lowerDigits : List Char := "0123456789abcdef".toList

def upperDigits : List Char := "0123456789ABCDEF".toList

/-- The character is a hexadecimal digit of this value, in one of the two cases. -/
def Writes (character : Char) (value : Nat) : Prop :=
  lowerDigits[value]? = some character ∨ upperDigits[value]? = some character

instance (character : Char) (value : Nat) : Decidable (Writes character value) :=
  inferInstanceAs (Decidable (_ ∨ _))

theorem toNat_lt_of_hexValue? {character : Char} {value : Nat} (read : hexValue? character = some value) :
    character.toNat < 0x67 := by
  simp only [hexValue?] at read
  grind

theorem writes_of_hexValue? {character : Char} {value : Nat} (read : hexValue? character = some value) :
    Writes character value := by
  have digits : ∀ code : Fin 0x67, ∀ value ∈ hexValue? (Char.ofNat code), Writes (Char.ofNat code) value := by
    decide
  have small := toNat_lt_of_hexValue? read
  have written := digits ⟨character.toNat, small⟩
  simp only [Char.ofNat_toNat] at written
  exact written value read

namespace Writes

variable {character : Char} {value : Nat} (written : Writes character value)

include written

theorem lt : value < 16 := by
  rcases written with lower | upper
  · exact (List.getElem?_eq_some_iff.1 lower).1
  · exact (List.getElem?_eq_some_iff.1 upper).1

theorem eq_getElem : ∃ digit : Fin 16, value = digit.val ∧
    (character = lowerDigits[digit] ∨ character = upperDigits[digit]) := by
  refine ⟨⟨value, written.lt⟩, rfl, ?_⟩
  rcases written with lower | upper
  · exact .inl (List.getElem?_eq_some_iff.1 lower).2.symm
  · exact .inr (List.getElem?_eq_some_iff.1 upper).2.symm

theorem hexValue?_eq : hexValue? character = some value := by
  have lowers : ∀ digit : Fin 16, hexValue? lowerDigits[digit] = some digit.val := by decide
  have uppers : ∀ digit : Fin 16, hexValue? upperDigits[digit] = some digit.val := by decide
  obtain ⟨digit, rfl, rfl | rfl⟩ := written.eq_getElem
  · exact lowers digit
  · exact uppers digit

theorem toLower_eq : character.toLower = hexDigit value := by
  have lowers : ∀ digit : Fin 16, lowerDigits[digit].toLower = hexDigit digit.val := by decide
  have uppers : ∀ digit : Fin 16, upperDigits[digit].toLower = hexDigit digit.val := by decide
  obtain ⟨digit, rfl, rfl | rfl⟩ := written.eq_getElem
  · exact lowers digit
  · exact uppers digit

theorem solid : character ≠ ':' ∧ character ≠ '+' := by
  have lowers : ∀ digit : Fin 16, lowerDigits[digit] ≠ ':' ∧ lowerDigits[digit] ≠ '+' := by decide
  have uppers : ∀ digit : Fin 16, upperDigits[digit] ≠ ':' ∧ upperDigits[digit] ≠ '+' := by decide
  obtain ⟨digit, -, rfl | rfl⟩ := written.eq_getElem
  · exact lowers digit
  · exact uppers digit

end Writes

theorem hexValue?_eq_some {character : Char} {value : Nat} :
    hexValue? character = some value ↔ Writes character value :=
  ⟨writes_of_hexValue?, Writes.hexValue?_eq⟩

theorem toLower_of_gt {character : Char} (other : 0x5A < character.toNat) : character.toLower = character := by
  refine dif_neg fun upper => ?_
  simp only [Char.toNat] at other
  have last : character.val.toNat ≤ 0x5A := UInt32.le_iff_toNat_le.1 upper.2
  omega

theorem same_toLower {α : Type} (view : Char → α)
    (letters : ∀ code : Fin 0x5B, view (Char.ofNat code).toLower = view (Char.ofNat code)) (character : Char) :
    view character.toLower = view character := by
  by_cases other : 0x5A < character.toNat
  · rw [toLower_of_gt other]
  · have letter := letters ⟨character.toNat, by omega⟩
    simpa only [Char.ofNat_toNat] using letter

theorem isBlank_toLower (character : Char) : isBlank character.toLower = isBlank character :=
  same_toLower isBlank (by decide) character

theorem hexValue?_toLower (character : Char) : hexValue? character.toLower = hexValue? character :=
  same_toLower hexValue? (by decide) character

theorem toLower_eq_sign (character : Char) : character.toLower = '+' ↔ character = '+' := by
  have same := same_toLower (fun character => decide (character = '+')) (by decide) character
  simpa only [decide_eq_decide] using same

theorem toLower_eq_colon (character : Char) : character.toLower = ':' ↔ character = ':' := by
  have same := same_toLower (fun character => decide (character = ':')) (by decide) character
  simpa only [decide_eq_decide] using same

theorem trimStart_map_toLower (characters : List Char) :
    trimStart (characters.map Char.toLower) = (trimStart characters).map Char.toLower := by
  have same : isBlank ∘ Char.toLower = isBlank := funext isBlank_toLower
  rw [trimStart, List.dropWhile_map, same, trimStart]

theorem trim_map_toLower (characters : List Char) :
    trim (characters.map Char.toLower) = (trim characters).map Char.toLower := by
  rw [trim, trimStart_map_toLower, ← List.map_reverse, trimStart_map_toLower, ← List.map_reverse, trim]

end Text

namespace Address

/-- Two digits, and the octet that they write. -/
def WritesOctet (piece : List Char) (octet : UInt8) : Prop :=
  ∃ first second high low, piece = [first, second] ∧ Text.Writes first high ∧ Text.Writes second low ∧
    octet.toNat = high * 16 + low

/-- A plus sign and one digit. -/
def WritesSigned (piece : List Char) (octet : UInt8) : Prop :=
  ∃ second, piece = ['+', second] ∧ Text.Writes second octet.toNat

def WritesLoosely (piece : List Char) (octet : UInt8) : Prop := WritesOctet piece octet ∨ WritesSigned piece octet

/-- The characters are the six groups of the address between single colons. -/
def Spells (writes : List Char → UInt8 → Prop) (characters : List Char) (address : Address) : Prop :=
  ∃ pieces, characters = [':'].intercalate pieces ∧ List.Forall₂ writes pieces address.octets.toList

/-- The characters inside the white space around them. -/
def core (text : String) : List Char := Text.trim text.toList

structure ReadsByGrammar (text : String) : Prop where
  accepts : ∀ address, ofText text = .ok address ↔ Spells WritesOctet (core text) address
  shows : ∀ address, ofText text = .ok address → address.text = Text.lower (String.ofList (core text))
  reports : ∀ failure, ofText text = .error failure → failure.text = text

/-- Some group has a plus sign in place of its first digit, and the text is well spelled otherwise. -/
def IsSigned (text : String) : Prop := '+' ∈ core text ∧ ∃ address, Spells WritesLoosely (core text) address

/-- How a character of an accepted text stands in the text of the address. -/
def shown (character : Char) : Char := if character = '+' then '0' else character.toLower

/-! One group: the reader takes the two digits, and the sign for a zero. -/

theorem writesLoosely_of_octet? {piece : List Char} {octet : UInt8} (read : octet? piece = some octet) :
    WritesLoosely piece octet := by
  match piece, read with
  | [first, second], read =>
      obtain ⟨low, low_read, read⟩ := Option.bind_eq_some_iff.1 read
      have low_small := Text.hexValue?_lt low_read
      split at read
      case isTrue sign =>
        refine .inr ⟨second, by rw [sign], ?_⟩
        rw [← Option.some.inj read, UInt8.toNat_ofNat_of_lt' (by simp only [UInt8.size]; omega)]
        exact Text.hexValue?_eq_some.1 low_read
      case isFalse noSign =>
        obtain ⟨high, high_read, read⟩ := Option.bind_eq_some_iff.1 read
        have high_small := Text.hexValue?_lt high_read
        refine .inl ⟨first, second, high, low, rfl, Text.hexValue?_eq_some.1 high_read,
          Text.hexValue?_eq_some.1 low_read, ?_⟩
        rw [← Option.some.inj read, UInt8.toNat_ofNat_of_lt' (by simp only [UInt8.size]; omega)]

theorem WritesOctet.octet?_eq {piece : List Char} {octet : UInt8} (written : WritesOctet piece octet) :
    octet? piece = some octet := by
  obtain ⟨first, second, high, low, rfl, high_written, low_written, value⟩ := written
  simp only [octet?, low_written.hexValue?_eq, high_written.hexValue?_eq, high_written.solid.2, if_false,
    Option.bind_eq_bind, Option.bind_some, ← value, UInt8.ofNat_toNat]

theorem WritesSigned.octet?_eq {piece : List Char} {octet : UInt8} (written : WritesSigned piece octet) :
    octet? piece = some octet := by
  obtain ⟨second, rfl, low_written⟩ := written
  simp only [octet?, low_written.hexValue?_eq, if_true, Option.bind_eq_bind, Option.bind_some, UInt8.ofNat_toNat]

theorem octet?_eq_some {piece : List Char} {octet : UInt8} : octet? piece = some octet ↔ WritesLoosely piece octet :=
  ⟨writesLoosely_of_octet?, fun written => written.elim WritesOctet.octet?_eq WritesSigned.octet?_eq⟩

theorem WritesOctet.unsigned {piece : List Char} {octet : UInt8} (written : WritesOctet piece octet) : '+' ∉ piece := by
  obtain ⟨first, second, high, low, rfl, high_written, low_written, -⟩ := written
  simp [high_written.solid.2.symm, low_written.solid.2.symm]

theorem WritesLoosely.noColon {piece : List Char} {octet : UInt8} (written : WritesLoosely piece octet) : ':' ∉ piece := by
  rcases written with ⟨first, second, high, low, rfl, high_written, low_written, -⟩ | ⟨second, rfl, low_written⟩
  · simp [high_written.solid.1.symm, low_written.solid.1.symm]
  · simp [low_written.solid.1.symm]

theorem shown_of_writes {character : Char} {value : Nat} (written : Text.Writes character value) :
    shown character = Text.hexDigit value := by
  rw [shown, if_neg written.solid.2, written.toLower_eq]

theorem WritesLoosely.map_shown {piece : List Char} {octet : UInt8} (written : WritesLoosely piece octet) :
    piece.map shown = Text.hexByte octet := by
  rcases written with ⟨first, second, high, low, rfl, high_written, low_written, value⟩ | ⟨second, rfl, low_written⟩
  · have low_small := low_written.lt
    have high_half : octet.toNat / 16 = high := by omega
    have low_half : Text.hexDigit octet.toNat = Text.hexDigit low := by
      rw [Text.hexDigit, Text.hexDigit, value, Nat.add_mod, Nat.mul_mod_left, Nat.zero_add, Nat.mod_mod]
    simp only [List.map_cons, List.map_nil, shown_of_writes high_written, shown_of_writes low_written, Text.hexByte,
      high_half, low_half]
  · have no_high : octet.toNat / 16 = 0 := Nat.div_eq_of_lt low_written.lt
    simp only [List.map_cons, List.map_nil, shown_of_writes low_written, Text.hexByte, no_high]
    rfl

theorem map_intercalate (change : Char → Char) (kept : change ':' = ':') (pieces : List (List Char)) :
    ([':'].intercalate pieces).map change = [':'].intercalate (pieces.map (List.map change)) := by
  induction pieces with
  | nil => rfl
  | cons first others ih =>
      cases others with
      | nil => simp
      | cons next later => simpa [List.intercalate_cons_cons, kept] using ih

theorem mem_intercalate {character : Char} (different : character ≠ ':') (pieces : List (List Char)) :
    character ∈ [':'].intercalate pieces ↔ ∃ piece ∈ pieces, character ∈ piece := by
  induction pieces with
  | nil => simp
  | cons first others ih =>
      cases others with
      | nil => simp
      | cons next later => simp [List.intercalate_cons_cons, different] at ih ⊢; simp [ih]

theorem ofText?_eq_some_iff_map (text : String) (address : Address) :
    ofText? text = some address ↔ (groups (core text)).map octet? = address.octets.toList.map some := by
  obtain ⟨⟨⟨octets⟩, six⟩⟩ := address
  match octets, six with
  | [a, b, c, d, e, f], rfl =>
      simp only [ofText?, core, Vector.toList_mk, List.map_cons, List.map_nil]
      constructor
      · intro read
        split at read
        case h_1 read_octets => grind
        case h_2 => contradiction
      · intro read_octets
        rw [read_octets]

theorem ofText?_eq_some_iff_forall₂ (text : String) (address : Address) :
    ofText? text = some address ↔ List.Forall₂ WritesLoosely (groups (core text)) address.octets.toList := by
  rw [ofText?_eq_some_iff_map, ← List.forall₂_eq_eq_eq, List.forall₂_map_left_iff, List.forall₂_map_right_iff]
  simp only [octet?_eq_some]

theorem ofText?_eq_some {text : String} {address : Address} :
    ofText? text = some address ↔ Spells WritesLoosely (core text) address := by
  rw [ofText?_eq_some_iff_forall₂]
  constructor
  · intro written
    exact ⟨groups (core text), (intercalate_groups _).symm, written⟩
  · rintro ⟨pieces, joined, written⟩
    have solid : ∀ piece ∈ pieces, ':' ∉ piece :=
      ((List.forall₂_and_left ..).1 (written.imp fun _ _ group => ⟨group.noColon, group⟩)).1
    have nonempty : pieces ≠ [] := by
      rintro rfl
      simpa using written.length_eq
    rw [joined, groups_intercalate nonempty solid]
    exact written

theorem Spells.map_shown {characters : List Char} {address : Address} (spelled : Spells WritesLoosely characters address) :
    characters.map shown = address.characters := by
  obtain ⟨pieces, rfl, written⟩ := spelled
  have same : pieces.map (List.map shown) = address.octets.toList.map Text.hexByte := by
    rw [← List.forall₂_eq_eq_eq, List.forall₂_map_left_iff, List.forall₂_map_right_iff]
    exact written.imp fun _ _ group => group.map_shown
  rw [map_intercalate shown rfl, same, characters]

theorem Spells.unsigned {characters : List Char} {address : Address} (spelled : Spells WritesOctet characters address) :
    '+' ∉ characters := by
  obtain ⟨pieces, rfl, written⟩ := spelled
  rw [mem_intercalate (by decide)]
  rintro ⟨piece, present, sign⟩
  exact ((List.forall₂_and_left ..).1 (written.imp fun _ _ group => ⟨group.unsigned, group⟩)).1 piece present sign

theorem Spells.loosely {characters : List Char} {address : Address} (spelled : Spells WritesOctet characters address) :
    Spells WritesLoosely characters address := by
  obtain ⟨pieces, joined, written⟩ := spelled
  exact ⟨pieces, joined, written.imp fun _ _ => .inl⟩

theorem Spells.strictly {characters : List Char} {address : Address} (spelled : Spells WritesLoosely characters address)
    (unsigned : '+' ∉ characters) : Spells WritesOctet characters address := by
  obtain ⟨pieces, rfl, written⟩ := spelled
  rw [mem_intercalate (by decide)] at unsigned
  have pieces_unsigned : ∀ piece ∈ pieces, '+' ∉ piece := fun piece present sign => unsigned ⟨piece, present, sign⟩
  refine ⟨pieces, rfl, ((List.forall₂_and_left ..).2 ⟨pieces_unsigned, written⟩).imp ?_⟩
  rintro piece octet ⟨piece_unsigned, digits | ⟨second, rfl, -⟩⟩
  · exact digits
  · simp at piece_unsigned

theorem map_shown_of_unsigned {characters : List Char} (unsigned : '+' ∉ characters) :
    characters.map shown = characters.map Char.toLower :=
  List.map_congr_left fun character present => if_neg (by rintro rfl; exact unsigned present)

theorem ofText_eq_ok {text : String} {address : Address} :
    ofText text = .ok address ↔ Spells WritesLoosely (core text) address := by
  rw [← ofText?_eq_some, ofText]
  split <;> simp_all

theorem ofText_eq_error {text : String} {failure : Malformed} (rejected : ofText text = .error failure) :
    failure.text = text := by
  rw [ofText] at rejected
  split at rejected
  · contradiction
  · exact (congrArg Malformed.text (Except.error.inj rejected)).symm

theorem text_of_ofText {text : String} {address : Address} (accepted : ofText text = .ok address) :
    address.text = String.ofList ((core text).map shown) :=
  congrArg String.ofList (ofText_eq_ok.1 accepted).map_shown.symm

/-! In lower case a text reads the same, and if it has nothing but its six groups it is the text of the address. -/

theorem octet?_map_toLower (piece : List Char) : octet? (piece.map Char.toLower) = octet? piece := by
  match piece with
  | [] | [_] | _ :: _ :: _ :: _ => rfl
  | [first, second] =>
      simp only [List.map_cons, List.map_nil, octet?, Text.hexValue?_toLower, Text.toLower_eq_sign]

theorem groups_map_toLower (characters : List Char) :
    groups (characters.map Char.toLower) = (groups characters).map (List.map Char.toLower) := by
  induction characters with
  | nil => rfl
  | cons character rest ih =>
      obtain ⟨first, others, pieces⟩ := List.exists_cons_of_ne_nil (groups_ne_nil rest)
      simp only [List.map_cons, groups, Text.toLower_eq_colon, ih, pieces]
      split <;> rfl

theorem ofText?_lower (text : String) : ofText? (Text.lower text) = ofText? text := by
  have pieces : (groups (Text.trim (text.toList.map Char.toLower))).map octet? =
      (groups (Text.trim text.toList)).map octet? := by
    rw [Text.trim_map_toLower, groups_map_toLower, List.map_map]
    exact congrArg (List.map · (groups (Text.trim text.toList))) (funext octet?_map_toLower)
  rw [ofText?, Text.lower, String.toList_ofList, pieces, ofText?]

theorem not_isBlank_characters (address : Address) : ∀ character ∈ address.characters, Text.isBlank character = false :=
  not_isBlank_intercalate address.octets.toList

theorem unsigned_characters (address : Address) : '+' ∉ address.characters := by
  rw [characters, mem_intercalate (by decide)]
  rintro ⟨piece, present, sign⟩
  obtain ⟨octet, -, rfl⟩ := List.mem_map.1 present
  simp [Text.hexByte, (Text.hexDigit_solid _).2.1.symm] at sign

theorem lower_eq_text {text : String} {address : Address} (spelled : Spells WritesOctet text.toList address) :
    Text.lower text = address.text := by
  rw [Text.lower, ← map_shown_of_unsigned spelled.unsigned, spelled.loosely.map_shown, Address.text]

/-- Nothing is cut off or shown differently only if there is neither white space nor a sign. -/
theorem spells_of_lower_eq_text {text : String} {address : Address} (read : ofText? text = some address)
    (same : Text.lower text = address.text) : Spells WritesOctet text.toList address := by
  have lowered : text.toList.map Char.toLower = address.characters := String.ofList_inj.1 same
  have solid : ∀ character ∈ text.toList, Text.isBlank character = false := by
    intro character present
    rw [← Text.isBlank_toLower]
    exact address.not_isBlank_characters _ (lowered ▸ List.mem_map_of_mem present)
  have unsigned : '+' ∉ text.toList := fun sign =>
    address.unsigned_characters (lowered ▸ List.mem_map_of_mem (f := Char.toLower) sign)
  have spelled := ofText?_eq_some.1 read
  rw [core, Text.trim_of_not_isBlank solid] at spelled
  exact spelled.strictly unsigned

theorem readsByGrammar_of_not_isSigned {text : String} (plain : ¬ IsSigned text) : ReadsByGrammar text := by
  have unsigned {address : Address} (spelled : Spells WritesLoosely (core text) address) : '+' ∉ core text :=
    fun sign => plain ⟨sign, address, spelled⟩
  refine ⟨fun address => ?_, fun address accepted => ?_, fun failure => ofText_eq_error⟩
  · rw [ofText_eq_ok]
    exact ⟨fun spelled => spelled.strictly (unsigned spelled), Spells.loosely⟩
  · rw [text_of_ofText accepted, map_shown_of_unsigned (unsigned (ofText_eq_ok.1 accepted)), Text.lower,
      String.toList_ofList]

theorem not_isSigned_of_readsByGrammar {text : String} (grammar : ReadsByGrammar text) : ¬ IsSigned text := by
  rintro ⟨sign, address, spelled⟩
  exact ((grammar.accepts address).1 (ofText_eq_ok.2 spelled)).unsigned sign

/-- The reader takes exactly the texts of its grammar, and shows an accepted one in lower case, unless a
group has a plus sign for its first digit; such a text is taken too, and the sign shown as a zero. -/
theorem readsByGrammar_iff (text : String) :
    (ReadsByGrammar text ↔ ¬ IsSigned text) ∧
    (∀ address, ofText text = .ok address ↔ Spells WritesLoosely (core text) address) ∧
    (∀ address, ofText text = .ok address → address.text = String.ofList ((core text).map shown)) ∧
    (∀ failure, ofText text = .error failure → failure.text = text) ∧
    ∀ address : Address, ofText address.text = .ok address := by
  refine ⟨⟨not_isSigned_of_readsByGrammar, readsByGrammar_of_not_isSigned⟩, fun address => ofText_eq_ok,
    fun address => text_of_ofText, fun failure => ofText_eq_error, fun address => ?_⟩
  rw [ofText, ofText?_text]

theorem not_readsByGrammar_plusSign : ¬ ReadsByGrammar "+a:bb:cc:dd:ee:ff" := by
  intro grammar
  have accepted : ofText "+a:bb:cc:dd:ee:ff" = .ok ⟨#v[0x0a, 0xbb, 0xcc, 0xdd, 0xee, 0xff]⟩ := by decide
  have spelled := (grammar.accepts _).1 accepted
  exact spelled.unsigned (by decide)

end Address
end SavedNetworks
