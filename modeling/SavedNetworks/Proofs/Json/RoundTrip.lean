import SavedNetworks.Json.Parser
import SavedNetworks.Json.Printer
import SavedNetworks.Proofs.Text.Decimal

/-!
Reading undoes writing, for every document (`parse?_render`). A written value is read up to the character
that ends it, so that the proof of each part quantifies over what follows.
-/

namespace SavedNetworks.Json

/-- Nothing follows a value but the mark that separates or closes. -/
def Ends (rest : List Char) : Prop := ∀ next ∈ rest.head?, next = ',' ∨ next = ']' ∨ next = '\x7d'

theorem ends_nil : Ends [] := by simp [Ends]

theorem ends_comma (rest : List Char) : Ends (',' :: rest) := by simp [Ends]

theorem ends_bracket (rest : List Char) : Ends (']' :: rest) := by simp [Ends]

theorem ends_brace (rest : List Char) : Ends ('\x7d' :: rest) := by simp [Ends]

theorem ends_printItems (items : List Json) (rest : List Char) : Ends (printItems items ++ rest) := by
  cases items with
  | nil => exact ends_bracket rest
  | cons item others => exact ends_comma _

theorem ends_printMembers (members : List (Option String × Json)) (rest : List Char) :
    Ends (printMembers members ++ rest) := by
  cases members with
  | nil => exact ends_brace rest
  | cons member others => exact ends_comma _

theorem not_isDigit_head {rest : List Char} (ends : Ends rest) : ∀ next ∈ rest.head?, next.isDigit = false := by
  intro next following
  rcases ends next following with rfl | rfl | rfl <;> rfl

theorem takeWhile_isDigit_append {digits rest : List Char} (all : ∀ digit ∈ digits, digit.isDigit = true)
    (ends : Ends rest) : (digits ++ rest).takeWhile Char.isDigit = digits := by
  rw [List.takeWhile_append_of_pos all]
  cases rest with
  | nil => simp
  | cons next more =>
      have stops := not_isDigit_head ends next (by simp)
      simp [stops]

theorem dropWhile_isDigit_append {digits rest : List Char} (all : ∀ digit ∈ digits, digit.isDigit = true)
    (ends : Ends rest) : (digits ++ rest).dropWhile Char.isDigit = rest := by
  rw [List.dropWhile_append_of_pos all]
  cases rest with
  | nil => simp
  | cons next more =>
      have stops := not_isDigit_head ends next (by simp)
      simp [stops]

theorem whole?_decimal (value : Nat) {rest : List Char} (ends : Ends rest) :
    whole? (Text.decimal value ++ rest) = some (value, rest) := by
  by_cases zero : value = 0
  · subst zero
    rw [Text.decimal_zero]
    cases rest with
    | nil => rfl
    | cons next more =>
        have stops := not_isDigit_head ends next (by simp)
        simp [whole?, stops]
  · have leading := Text.head?_decimal_of_pos (Nat.pos_of_ne_zero zero)
    have digits : digits? (Text.decimal value ++ rest) = some (Text.decimal value, rest) := by
      unfold digits?
      rw [takeWhile_isDigit_append (fun _ => Text.isDigit_of_mem_decimal) ends,
        dropWhile_isDigit_append (fun _ => Text.isDigit_of_mem_decimal) ends]
      split
      · exact absurd ‹_› (Text.decimal_ne_nil value)
      · rfl
    unfold whole?
    split
    · next zeroLed =>
        obtain ⟨first, more, written⟩ := List.exists_cons_of_ne_nil (Text.decimal_ne_nil value)
        rw [written, List.cons_append, List.cons.injEq] at zeroLed
        simp [written, zeroLed.1] at leading
    · simp [digits, Text.decimalValue_decimal]

theorem fraction?_of_ends {rest : List Char} (ends : Ends rest) : fraction? rest = some (false, rest) := by
  cases rest with
  | nil => rfl
  | cons next more =>
      have following := ends next (by simp)
      unfold fraction?
      split
      · next pointed => simp_all
      · rfl

theorem exponent?_of_ends {rest : List Char} (ends : Ends rest) : exponent? rest = some (false, rest) := by
  cases rest with
  | nil => rfl
  | cons next more =>
      rcases ends next (by simp) with rfl | rfl | rfl <;> rfl

theorem number?_decimal (negative : Bool) (value : Nat) {rest : List Char} (ends : Ends rest) :
    number? negative (Text.decimal value ++ rest) =
      some (if negative && value == 0 then inexact else int (if negative then -value else value), rest) := by
  simp only [number?, whole?_decimal value ends, fraction?_of_ends ends, exponent?_of_ends ends,
    Option.bind_eq_bind, Option.bind_some, Bool.false_or]
  split <;> rfl

/-- Puts a code in front of what was read. -/
def withCode (code : Nat) (read : List Nat × List Char) : List Nat × List Char := (code :: read.1, read.2)

theorem codes?_letter {letter : Char} {code : Nat} (known : escapeCode? letter = some code) (input : List Char) :
    codes? ('\\' :: letter :: input) = (codes? input).map (withCode code) := by
  have notUnicode : letter ≠ 'u' := by
    rintro rfl
    simp [escapeCode?] at known
  rw [codes?.eq_def]
  split
  · contradiction
  · simp_all
  · simp_all
  · next other rest _ same =>
      simp only [List.cons.injEq, true_and] at same
      obtain ⟨rfl, rfl⟩ := same
      simp only [known, Option.bind_eq_bind, Option.bind_some]
      cases codes? input <;> rfl
  · next _ _ _ _ notEscape same =>
      obtain ⟨rfl, rfl⟩ := List.cons.inj same
      exact (notEscape letter input rfl rfl).elim

theorem codes?_plain {character : Char} (printable : ¬ character.toNat < 0x20) (notQuote : character ≠ '"')
    (notSlash : character ≠ '\\') (input : List Char) :
    codes? (character :: input) = (codes? input).map (withCode character.toNat) := by
  rw [codes?.eq_def]
  split
  · contradiction
  · simp_all
  · simp_all
  · simp_all
  · next other rest _ _ _ same =>
      obtain ⟨rfl, rfl⟩ := List.cons.inj same
      simp only [printable, notSlash, or_self, if_false]
      cases codes? input <;> rfl

theorem codes?_control {character : Char} (control : character.toNat < 0x20) (input : List Char) :
    codes? ('\\' :: 'u' :: '0' :: '0' :: Text.hexByte (UInt8.ofNat character.toNat) ++ input) =
      (codes? input).map (withCode character.toNat) := by
  have byte : (UInt8.ofNat character.toNat).toNat = character.toNat := by
    rw [UInt8.toNat_ofNat', Nat.mod_eq_of_lt (Nat.lt_trans control (by decide))]
  have zero : Text.hexValue? '0' = some 0 := rfl
  have code : character.toNat / 16 % 16 * 16 + character.toNat % 16 = character.toNat := by
    generalize character.toNat = value at control
    omega
  simp only [Text.hexByte, byte, List.cons_append, List.nil_append, codes?, zero, Text.hexValue?_hexDigit,
    Option.bind_eq_bind, Option.bind_some, Nat.zero_mul, Nat.zero_add, code]
  cases codes? input <;> rfl

theorem codes?_escaped (character : Char) (input : List Char) :
    codes? (escaped character ++ input) = (codes? input).map (withCode character.toNat) := by
  unfold escaped
  split
  case h_8 =>
    split
    · exact codes?_control ‹_› input
    · exact codes?_plain ‹_› ‹_› ‹_› input
  all_goals exact codes?_letter rfl input

theorem codes?_flatMap_escaped (characters rest : List Char) :
    codes? (characters.flatMap escaped ++ '"' :: rest) = some (characters.map Char.toNat, rest) := by
  induction characters with
  | nil => rfl
  | cons character others ih =>
      rw [List.flatMap_cons, List.append_assoc, codes?_escaped, ih]
      rfl

theorem not_isSurrogate (character : Char) :
    isHighSurrogate character.toNat = false ∧ isLowSurrogate character.toNat = false := by
  have valid : character.toNat.isValidChar := character.valid
  simp only [Nat.isValidChar] at valid
  simp only [isHighSurrogate, isLowSurrogate, Bool.and_eq_false_iff, decide_eq_false_iff_not]
  omega

theorem joinSurrogates_characters (characters : List Char) :
    joinSurrogates (characters.map Char.toNat) = some characters := by
  induction characters with
  | nil => rfl
  | cons first rest ih =>
      obtain ⟨notHigh, notLow⟩ := not_isSurrogate first
      cases rest with
      | nil => simp [joinSurrogates, notHigh, notLow]
      | cons second others =>
          simp only [List.map_cons] at ih ⊢
          simp [joinSurrogates, notHigh, notLow, ih]

theorem string?_text (value : String) (rest : List Char) :
    string? (value.toList.flatMap escaped ++ '"' :: rest) = some (some value, rest) := by
  simp only [string?, codes?_flatMap_escaped, Option.bind_eq_bind, Option.bind_some, joinSurrogates_characters,
    Option.map_some, String.ofList_toList]

theorem string?_broken (rest : List Char) :
    string? ('\\' :: 'u' :: 'd' :: '8' :: '0' :: '0' :: '"' :: rest) = some (none, rest) := rfl

/-- A written string is read from the character after its opening quote. -/
theorem printString_eq_cons (value : Option String) : ∃ inner, printString value = '"' :: inner ∧
    ∀ rest, string? (inner ++ rest) = some (value, rest) := by
  cases value with
  | none => exact ⟨_, rfl, string?_broken⟩
  | some value =>
      refine ⟨value.toList.flatMap escaped ++ ['"'], rfl, fun rest => ?_⟩
      rw [List.append_assoc]
      exact string?_text value rest

/-! Documents. A value needs fuel for twice its length, as the parser is given. -/

theorem skipSpace_of_not_isSpace {first : Char} {rest : List Char} (solid : isSpace first = false) :
    skipSpace (first :: rest) = first :: rest := by
  simp [skipSpace, solid]

theorem skipSpace_of_ends {rest : List Char} (ends : Ends rest) : skipSpace rest = rest := by
  cases rest with
  | nil => rfl
  | cons next more =>
      rcases ends next (by simp) with rfl | rfl | rfl <;> rfl

theorem value?_of_isDigit {digit : Char} (isDigit : digit.isDigit = true) (fuel : Nat) (rest : List Char) :
    value? (fuel + 1) (digit :: rest) = number? false (digit :: rest) := by
  have solid : isSpace digit = false := by
    simp only [isSpace, Bool.or_eq_false_iff, beq_eq_false_iff_ne]
    refine ⟨⟨⟨?_, ?_⟩, ?_⟩, ?_⟩ <;> rintro rfl <;> contradiction
  rw [value?.eq_def]
  simp only [skipSpace_of_not_isSpace solid]
  split <;> simp_all

theorem isDigit_of_decimal_eq_cons {value : Nat} {first : Char} {more : List Char}
    (digits : Text.decimal value = first :: more) : first.isDigit = true := by
  have member : first ∈ Text.decimal value := by simp [digits]
  exact Text.isDigit_of_mem_decimal member

theorem value?_decimal (fuel value : Nat) {rest : List Char} (ends : Ends rest) :
    value? (fuel + 1) (Text.decimal value ++ rest) = some (int value, rest) := by
  obtain ⟨first, more, digits⟩ := List.exists_cons_of_ne_nil (Text.decimal_ne_nil value)
  have isDigit : first.isDigit = true := isDigit_of_decimal_eq_cons digits
  have read := number?_decimal false value ends
  rw [digits, List.cons_append] at read ⊢
  rw [value?_of_isDigit isDigit, read]
  rfl

theorem value?_decimalInt (fuel : Nat) (value : Int) {rest : List Char} (ends : Ends rest) :
    value? (fuel + 1) (Text.decimalInt value ++ rest) = some (int value, rest) := by
  cases value with
  | ofNat value => exact value?_decimal fuel value ends
  | negSucc value =>
      have read := number?_decimal true (value + 1) ends
      have opened : value? (fuel + 1) ('-' :: Text.decimal (value + 1) ++ rest) =
          number? true (Text.decimal (value + 1) ++ rest) := rfl
      rw [Text.decimalInt, opened, read]
      simp only [Bool.true_and, Nat.succ_ne_zero, beq_iff_eq, if_false, if_true]
      rfl

theorem print_eq_cons (document : Json) :
    ∃ first more, print document = first :: more ∧ isSpace first = false ∧ first ≠ ']' := by
  have number : ∀ value, ∃ first more, Text.decimal value = first :: more ∧ isSpace first = false ∧ first ≠ ']' := by
    intro value
    obtain ⟨first, more, digits⟩ := List.exists_cons_of_ne_nil (Text.decimal_ne_nil value)
    have isDigit : first.isDigit = true := isDigit_of_decimal_eq_cons digits
    refine ⟨first, more, digits, ?_, ?_⟩
    · simp only [isSpace, Bool.or_eq_false_iff, beq_eq_false_iff_ne]
      refine ⟨⟨⟨?_, ?_⟩, ?_⟩, ?_⟩ <;> rintro rfl <;> contradiction
    · rintro rfl
      contradiction
  fun_cases print document with
  | case4 value =>
      cases value with
      | ofNat value => exact number value
      | negSucc value => exact ⟨_, _, rfl, rfl, by decide⟩
  | case6 value =>
      obtain ⟨inner, written, _⟩ := printString_eq_cons value
      exact ⟨_, inner, written, rfl, by decide⟩
  | case1 | case2 | case3 | case5 | case7 | case8 | case9 | case10 => exact ⟨_, _, rfl, rfl, by decide⟩

theorem value?_quote (fuel : Nat) (more : List Char) :
    value? (fuel + 1) ('"' :: more) = (string? more).bind fun (value, rest) => some (string value, rest) := rfl

theorem value?_text (fuel : Nat) (value : Option String) (rest : List Char) :
    value? (fuel + 1) (printString value ++ rest) = some (string value, rest) := by
  obtain ⟨inner, written, read⟩ := printString_eq_cons value
  rw [written, List.cons_append, value?_quote, read]
  rfl

theorem value?_bracket (fuel : Nat) (more : List Char) :
    value? (fuel + 1) ('[' :: more) = match skipSpace more with
      | ']' :: rest => some (list [], rest)
      | rest => (items? fuel rest).bind fun (items, rest) => some (list items, rest) := rfl

theorem value?_list {fuel : Nat} {first : Char} {more : List Char} (solid : isSpace first = false)
    (notClosed : first ≠ ']') :
    value? (fuel + 1) ('[' :: first :: more) = (items? fuel (first :: more)).bind fun (items, rest) =>
      some (list items, rest) := by
  rw [value?_bracket, skipSpace_of_not_isSpace solid]
  split
  · simp_all
  · rfl

theorem value?_record (fuel : Nat) (more : List Char) :
    value? (fuel + 1) ('\x7b' :: '"' :: more) = (members? fuel ('"' :: more)).bind fun (members, rest) =>
      some (record members, rest) := rfl

theorem items?_step {fuel : Nat} {item : Json} {others : List Json} {input rest : List Char}
    (one : value? fuel input = some (item, printItems others ++ rest))
    (next : ∀ later more, others = later :: more →
      items? fuel (print later ++ printItems more ++ rest) = some (later :: more, rest)) :
    items? (fuel + 1) input = some (item :: others, rest) := by
  cases others with
  | nil =>
      simp only [items?, one, Option.bind_eq_bind, Option.bind_some]
      rfl
  | cons later more =>
      have following := next later more rfl
      simp only [printItems, List.cons_append] at one
      simp only [items?, one, Option.bind_eq_bind, Option.bind_some,
        skipSpace_of_ends (ends_comma _), following]

theorem members?_quote {fuel : Nat} {name : Option String} {more input : List Char}
    (named : string? more = some (name, ':' :: input)) :
    members? (fuel + 1) ('"' :: more) = (value? fuel input).bind fun (value, rest) => match skipSpace rest with
      | '\x7d' :: rest => some ([(name, value)], rest)
      | ',' :: rest => (members? fuel rest).bind fun (members, rest) => some ((name, value) :: members, rest)
      | _ => none := by
  rw [members?.eq_def]
  simp only [skipSpace_of_not_isSpace (show isSpace '"' = false from rfl), named, Option.bind_eq_bind, Option.bind_some]
  rfl

theorem members?_step {fuel : Nat} {name : Option String} {value : Json} {others : List (Option String × Json)}
    {input rest : List Char}
    (one : value? fuel input = some (value, printMembers others ++ rest))
    (next : ∀ later document more, others = (later, document) :: more →
      members? fuel (printString later ++ ':' :: print document ++ printMembers more ++ rest) =
        some ((later, document) :: more, rest)) :
    members? (fuel + 1) (printString name ++ ':' :: input) = some ((name, value) :: others, rest) := by
  obtain ⟨inner, written, read⟩ := printString_eq_cons name
  rw [written, List.cons_append, members?_quote (read (':' :: input)), one]
  cases others with
  | nil => rfl
  | cons later more =>
      obtain ⟨later, document⟩ := later
      have following := next later document more rfl
      simp only [printMembers, List.cons_append, Option.bind_some, skipSpace_of_ends (ends_comma _)]
      simp only [List.append_assoc, List.cons_append] at following ⊢
      rw [following]
      rfl

theorem print_length_pos (document : Json) : 0 < (print document).length := by
  obtain ⟨first, more, written, _⟩ := print_eq_cons document
  simp [written]

/-- Reading undoes writing for one value, whatever ends it. -/
def ReadsBack (document : Json) : Prop :=
  ∀ fuel rest, 2 * (print document).length ≤ fuel → Ends rest →
    value? fuel (print document ++ rest) = some (document, rest)

theorem readsBack_of_step {document : Json}
    (step : ∀ fuel rest, 2 * (print document).length ≤ fuel + 1 → Ends rest →
      value? (fuel + 1) (print document ++ rest) = some (document, rest)) : ReadsBack document := by
  intro fuel rest enough ends
  have positive := print_length_pos document
  cases fuel with
  | zero => omega
  | succ fuel => exact step fuel rest enough ends

theorem readsBack_inexact : ReadsBack inexact := by
  refine readsBack_of_step fun fuel rest _ ends => ?_
  exact number?_decimal true 0 ends

mutual

theorem readsBack : (document : Json) → ReadsBack document
  | null => readsBack_of_step fun _ _ _ _ => rfl
  | bool true => readsBack_of_step fun _ _ _ _ => rfl
  | bool false => readsBack_of_step fun _ _ _ _ => rfl
  | int value => readsBack_of_step fun fuel _ _ ends => value?_decimalInt fuel value ends
  | inexact => readsBack_inexact
  | string value => readsBack_of_step fun fuel rest _ _ => value?_text fuel value rest
  | list [] => readsBack_of_step fun _ _ _ _ => rfl
  | list (item :: others) => by
      refine readsBack_of_step fun fuel rest enough ends => ?_
      obtain ⟨first, more, written, solid, notClosed⟩ := print_eq_cons item
      simp only [print, List.length_cons, List.length_append] at enough
      have read := readsBack_items others (readsBack item) fuel rest (by simp only [List.length_append]; omega)
      simp only [written, List.append_assoc, List.cons_append] at read
      simp only [print, written, List.append_assoc, List.cons_append, value?_list solid notClosed, read,
        Option.bind_some]
  | record [] => readsBack_of_step fun _ _ _ _ => rfl
  | record ((name, value) :: others) => by
      refine readsBack_of_step fun fuel rest enough ends => ?_
      obtain ⟨inner, written, _⟩ := printString_eq_cons name
      simp only [print, List.length_cons, List.length_append] at enough
      have read := readsBack_members others name (readsBack value) fuel rest
        (by simp only [List.length_append, List.length_cons]; omega)
      simp only [written, List.append_assoc, List.cons_append] at read
      simp only [print, written, List.append_assoc, List.cons_append, value?_record, read, Option.bind_some]

theorem readsBack_items : (others : List Json) → ∀ {item : Json}, ReadsBack item → ∀ fuel rest,
    2 * (print item ++ printItems others).length ≤ fuel →
      items? fuel (print item ++ printItems others ++ rest) = some (item :: others, rest)
  | [], item, reads, fuel, rest, enough => by
      cases fuel with
      | zero => simp [printItems] at enough
      | succ fuel =>
          simp only [printItems, List.length_append, List.length_singleton] at enough
          rw [List.append_assoc]
          exact items?_step (reads fuel _ (by omega) (ends_printItems [] rest)) (by simp)
  | later :: more, item, reads, fuel, rest, enough => by
      cases fuel with
      | zero => simp [printItems] at enough
      | succ fuel =>
          have positive := print_length_pos item
          simp only [printItems, List.length_append, List.length_cons] at enough
          rw [List.append_assoc]
          refine items?_step (reads fuel _ (by omega) (ends_printItems (later :: more) rest)) ?_
          rintro _ _ ⟨⟩
          exact readsBack_items more (readsBack later) fuel rest (by simp only [List.length_append]; omega)

theorem readsBack_members : (others : List (Option String × Json)) → ∀ (name : Option String) {value : Json},
    ReadsBack value → ∀ fuel rest,
    2 * (printString name ++ ':' :: print value ++ printMembers others).length ≤ fuel →
      members? fuel (printString name ++ ':' :: print value ++ printMembers others ++ rest) =
        some ((name, value) :: others, rest)
  | [], name, value, reads, fuel, rest, enough => by
      cases fuel with
      | zero => simp [printMembers] at enough
      | succ fuel =>
          simp only [printMembers, List.length_append, List.length_cons] at enough
          simp only [List.append_assoc, List.cons_append]
          exact members?_step (reads fuel _ (by omega) (ends_printMembers [] rest)) (by simp)
  | (later, document) :: more, name, value, reads, fuel, rest, enough => by
      cases fuel with
      | zero => simp [printMembers] at enough
      | succ fuel =>
          simp only [printMembers, List.length_append, List.length_cons] at enough
          simp only [List.append_assoc, List.cons_append]
          refine members?_step
            (reads fuel _ (by omega) (ends_printMembers ((later, document) :: more) rest)) ?_
          rintro _ _ _ ⟨⟩
          exact readsBack_members more later (readsBack document) fuel rest
            (by simp only [List.length_append, List.length_cons]; omega)

end

/-- A document is read back from its text. -/
theorem parse?_render (document : Json) : parse? (render document) = some document := by
  have read := readsBack document (2 * (print document).length + 2) [] (by omega) ends_nil
  rw [List.append_nil] at read
  simp only [parse?, render, String.toList_ofList, read, Option.bind_eq_bind, Option.bind_some]
  rfl

end SavedNetworks.Json
