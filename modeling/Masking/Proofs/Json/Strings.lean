import Masking.Json.Reader
import Masking.Proofs.Text.Digits
import Mathlib.Tactic.SplitIfs

/-! Strings and containers as they are read. A quoted text is read back as it was, whatever
characters are in it, and a container with one item is what its item is read as. -/

namespace Masking.Json

section Escapes

theorem hexDigit_size : ∀ n < 16, (Text.hexDigit n).utf8Size = 1 := by
  decide

/-- The number of a control character is read from its four digits. -/
theorem scanHex4_control {n : Nat} (h : n < 32) (rest : List Char) :
    scanHex4 ('0' :: '0' :: Text.hexDigit (n / 16) :: Text.hexDigit (n % 16) :: rest) =
      .ok (n, rest) := by
  have hHigh : n / 16 < 16 := by omega
  have hLow : n % 16 < 16 := by omega
  have hZero : ('0' : Char).utf8Size = 1 := rfl
  have hBytes : hasBytes 4
      ('0' :: '0' :: Text.hexDigit (n / 16) :: Text.hexDigit (n % 16) :: rest) = true := by
    simp [hasBytes, hZero, hexDigit_size _ hHigh, hexDigit_size _ hLow]
  have hDigits : Text.readInBase 16
      ['0', '0', Text.hexDigit (n / 16), Text.hexDigit (n % 16)] = some n := by
    have hValue : Text.hexValue '0' = some 0 := rfl
    simp [Text.readInBase, Text.readDigits, hValue, Text.hexDigit_value _ hHigh,
      Text.hexDigit_value _ hLow, hHigh, hLow]
    omega
  rw [scanHex4, if_pos hBytes]
  simp only [hDigits]

theorem scanUnicode_control {c : Char} (h : c.toNat < 32) (rest : List Char) :
    scanUnicode
        ('0' :: '0' :: Text.hexDigit (c.toNat / 16) :: Text.hexDigit (c.toNat % 16) :: rest) =
      .ok (c, rest) := by
  have hTrailing : isTrailing c.toNat = false := by
    simp only [isTrailing, Bool.and_eq_false_iff, decide_eq_false_iff_not]
    omega
  have hLeading : isLeading c.toNat = false := by
    simp only [isLeading, Bool.and_eq_false_iff, decide_eq_false_iff_not]
    omega
  rw [scanUnicode, scanHex4_control h]
  simp only [bind, Except.bind, hTrailing, hLeading, Bool.false_eq_true, if_false, Char.ofNat_toNat]

theorem scanStringStep_plain {c : Char} (quote : c ≠ '"') (slash : c ≠ '\\')
    (visible : 32 ≤ c.toNat) (rest : List Char) :
    scanStringStep (c :: rest) = .ok (some c, rest) := by
  rw [scanStringStep, if_neg (Nat.not_lt.mpr visible)]
  · exact fun h => absurd h quote
  · exact fun h => absurd h slash
  · exact fun _ h => absurd h slash
  · exact fun _ _ h => absurd h slash

/-- Every character is read back from its escaped form. -/
theorem scanStringStep_escapeChar (c : Char) (rest : List Char) :
    scanStringStep (escapeChar c ++ rest) = .ok (some c, rest) := by
  have hSame : ∀ {n : Nat}, c.toNat = n → Char.ofNat n = c := by
    rintro n rfl
    exact Char.ofNat_toNat c
  rw [escapeChar]
  split_ifs with hQuote hSlash hBack hTab hLine hPage hReturn hControl
  · rw [hQuote]
    rfl
  · rw [hSlash]
    rfl
  · rw [← hSame hBack]
    rfl
  · rw [← hSame hTab]
    rfl
  · rw [← hSame hLine]
    rfl
  · rw [← hSame hPage]
    rfl
  · rw [← hSame hReturn]
    rfl
  · simp only [List.cons_append, List.nil_append, scanStringStep, scanUnicode_control hControl]
    rfl
  · exact scanStringStep_plain hQuote hSlash (Nat.not_lt.mp hControl) rest

end Escapes

section Strings

theorem length_le_escape (chars : List Char) : chars.length ≤ (escape chars).length := by
  induction chars with
  | nil => exact Nat.le_refl _
  | cons c rest ih =>
      have hOne : 1 ≤ (escapeChar c).length := by
        rw [escapeChar]
        split_ifs <;> simp
      rw [escape, List.length_append, List.length_cons]
      omega

theorem scanChars_escape (chars rest : List Char) {fuel : Nat} (enough : chars.length < fuel) :
    scanChars fuel (escape chars ++ '"' :: rest) = .ok (chars, rest) := by
  induction chars generalizing fuel with
  | nil =>
      obtain ⟨fuel, rfl⟩ := Nat.exists_eq_add_one_of_ne_zero (Nat.ne_of_gt enough)
      rfl
  | cons c chars ih =>
      obtain ⟨fuel, rfl⟩ :=
        Nat.exists_eq_add_one_of_ne_zero (Nat.ne_of_gt (Nat.zero_lt_of_lt enough))
      have hLater := ih (Nat.lt_of_succ_lt_succ enough)
      rw [escape, List.append_assoc, scanChars, scanStringStep_escapeChar]
      simp only [bind, Except.bind, hLater]

/-- A quoted text is read back as it was. -/
theorem scanString_escape (text : String) (rest : List Char) :
    scanString (escape text.toList ++ '"' :: rest) = .ok (text, rest) := by
  have enough : text.toList.length < (escape text.toList ++ '"' :: rest).length + 1 := by
    have hLength := length_le_escape text.toList
    rw [List.length_append]
    omega
  rw [scanString, scanChars_escape _ _ enough]
  simp only [bind, Except.bind, String.ofList_toList]

theorem quote_append (text : String) (rest : List Char) :
    quote text ++ rest = '"' :: (escape text.toList ++ '"' :: rest) := by
  simp [quote]

theorem skipBlanks_quote (text : String) (rest : List Char) :
    skipBlanks (quote text ++ rest) = quote text ++ rest := by
  rw [quote_append]
  rfl

end Strings

section Containers

/-- The text of an object with one member, whose value has this text. -/
def objectOf (name : String) (value : List Char) : List Char :=
  '\x7b' :: (quote name ++ ':' :: (value ++ ['\x7d']))

/-- The text of an array with one item. -/
def arrayOf (item : List Char) : List Char :=
  '[' :: (item ++ [']'])

/-- The text is read as this value where it is the last one in an object. -/
def Spells (depth : Nat) (text : List Char) (value : Json) : Prop :=
  ∀ rest, readValue depth (text ++ '\x7d' :: rest) = .ok (value, '\x7d' :: rest)

theorem fuelFor_succ (text : List Char) : fuelFor text = 2 * text.length + 1 + 1 := rfl

/-- Every text is spelled by its quoted form. -/
theorem spells_quote (depth : Nat) (text : String) : Spells depth (quote text) (.str text) := by
  intro rest
  rw [readValue, fuelFor_succ, scanValue, skipBlanks_quote, quote_append]
  simp only [scanString_escape]
  rfl

theorem objectOf_append (name : String) (value rest : List Char) :
    objectOf name value ++ rest =
      '\x7b' :: '"' :: (escape name.toList ++ '"' :: ':' :: (value ++ '\x7d' :: rest)) := by
  simp [objectOf, quote]

theorem arrayOf_append (item rest : List Char) :
    arrayOf item ++ rest = '[' :: (item ++ ']' :: rest) := by
  simp [arrayOf]

theorem scanName_escape (name : String) (rest : List Char) :
    scanName ('"' :: (escape name.toList ++ '"' :: rest)) = .ok (name, rest) :=
  scanString_escape name rest

theorem scanColon_colon (rest : List Char) : scanColon (':' :: rest) = .ok rest := rfl

theorem scanSeparator_brace (rest : List Char) :
    scanSeparator '\x7d' ('\x7d' :: rest) = .ok (true, rest) := rfl

theorem scanSeparator_bracket (rest : List Char) :
    scanSeparator ']' (']' :: rest) = .ok (true, rest) := rfl

section Readers

variable {α β : Type} {depth : Nat} {text rest : List Char} {name : String}

/-- A map with one member is read as its member. -/
theorem readMap_objectOf {read : Reader α} {value : α}
    (h : read depth (text ++ '\x7d' :: rest) = .ok (value, '\x7d' :: rest)) :
    readMap read (depth + 1) (objectOf name text ++ rest) = .ok ([(name, value)], rest) := by
  have hMembers : ∀ fuel, readMembers read depth (fuel + 1)
      ('"' :: (escape name.toList ++ '"' :: ':' :: (text ++ '\x7d' :: rest))) =
        .ok ([(name, value)], rest) := by
    intro fuel
    rw [readMembers, scanName_escape]
    simp only [bind, Except.bind, scanColon_colon, h, scanSeparator_brace]
  rw [objectOf_append]
  exact hMembers _

/-- A list with one item is read as its item. -/
theorem readList_arrayOf {read : Reader α} {item : List Char} {value : α}
    (opens : ∃ inner, item = '\x7b' :: inner)
    (h : read depth (item ++ ']' :: rest) = .ok (value, ']' :: rest)) :
    readList read (depth + 1) (arrayOf item ++ rest) = .ok ([value], rest) := by
  have hItems : ∀ fuel, readItems read depth (fuel + 1) (item ++ ']' :: rest) =
      .ok ([value], rest) := by
    intro fuel
    rw [readItems, h]
    simp only [bind, Except.bind, scanSeparator_bracket]
  obtain ⟨inner, rfl⟩ := opens
  rw [arrayOf_append]
  exact hItems _

theorem read_field {get : β → Option α} {set : β → α → β} {read : Reader α} {built : β} {value : α}
    (h : read depth text = .ok (value, rest)) :
    (field name get set read).read built depth text = .ok (set built value, rest) := by
  simp only [field, h, bind, Except.bind]

/-- A structure of which one field is written is read as that field. -/
theorem readStructure_objectOf {fields : List (Field β)} {field : Field β} {empty built : β}
    {finish : β → Option α} {value : α}
    (known : (fields.find? fun field => field.name = name) = some field)
    (unset : field.isSet empty = false)
    (h : field.read empty depth (text ++ '\x7d' :: rest) = .ok (built, '\x7d' :: rest))
    (complete : finish built = some value) :
    readStructure fields empty finish (depth + 1) (objectOf name text ++ rest) =
      .ok (value, rest) := by
  have hFields : ∀ fuel, readFields fields depth (fuel + 1) empty
      ('"' :: (escape name.toList ++ '"' :: ':' :: (text ++ '\x7d' :: rest))) =
        .ok (built, rest) := by
    intro fuel
    rw [readFields, scanName_escape]
    simp only [bind, Except.bind, known, unset, scanColon_colon, h, scanSeparator_brace,
      Bool.false_eq_true, if_false]
  rw [objectOf_append]
  change Except.bind (readFields fields depth (fuelFor _) empty _) _ = _
  rw [fuelFor_succ, hFields]
  simp only [Except.bind, bind, complete]

end Readers

end Containers

end Masking.Json
