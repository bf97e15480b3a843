import MachineProvisioning.Json.Printer
import MachineProvisioning.Json.Reader
import MachineProvisioning.Proofs.Table
import MachineProvisioning.Proofs.Text.Numeral

/-! # JSON text that is read back

What is written of a value is read as the value, as long as it has no numbers but integers that fit a
word: other numbers are kept as they were written, and half a surrogate pair cannot be written at all.
-/

namespace MachineProvisioning.Json

open Text

variable {c : Char} {cs rest : List Char} {n : Nat}

/-- A part of a string in front of what is read after it. -/
def before (part : StringPart) (read : List StringPart × List Char) : List StringPart × List Char :=
  (part :: read.1, read.2)

theorem stringParts_escaped {e : Char} (escape : escaped? e = some c) :
    stringParts ('\\' :: e :: cs) = (stringParts cs).map (before (.char c)) := by
  have other : e ≠ 'u' := by
    rintro rfl
    cases escape
  rw [stringParts]
  · rw [escape]
    cases stringParts cs <;> rfl
  · intro a b c d rest
    simp [other]

theorem stringParts_unit {a b c d : Char} (hex : readHex? [a, b, c, d] = some n) :
    stringParts ('\\' :: 'u' :: a :: b :: c :: d :: cs) =
      (stringParts cs).map (before (.unit n)) := by
  rw [stringParts, hex]
  cases stringParts cs <;> rfl

theorem stringParts_plain (quote : c ≠ '"') (backslash : c ≠ '\\') (printable : ¬c.toNat < 0x20) :
    stringParts (c :: cs) = (stringParts cs).map (before (.char c)) := by
  rw [stringParts, if_neg printable]
  · cases stringParts cs <;> rfl
  all_goals simp [quote, backslash]

/-- A control character is written with four digits. -/
theorem readHex?_hexPadded : ∀ n < 0x20, ∃ a b c d,
    (hexPadded 4 n).toList = [a, b, c, d] ∧ readHex? [a, b, c, d] = some n := by
  have each : ∀ n < 0x20,
      (hexPadded 4 n).toList.length = 4 ∧ readHex? (hexPadded 4 n).toList = some n := by decide
  intro n small
  obtain ⟨four, reads⟩ := each n small
  match digits : (hexPadded 4 n).toList, four with
  | [a, b, c, d], _ => exact ⟨a, b, c, d, rfl, digits ▸ reads⟩

/-- How a character of a string is read. -/
def part (c : Char) : StringPart :=
  if c.toNat < 0x20 ∧ c ∉ ['\n', '\r', '\t', '\x08', '\x0c'] then .unit c.toNat else .char c

theorem stringParts_escapeChar (c : Char) (cs : List Char) :
    stringParts (escapeChar c ++ cs) = (stringParts cs).map (before (part c)) := by
  unfold escapeChar
  -- The seven characters that have a letter of their own come first.
  iterate 7
    split
    · next same =>
        subst same
        exact stringParts_escaped rfl
  split
  · next control =>
      obtain ⟨a, b, c', d, digits, hex⟩ := readHex?_hexPadded c.toNat control
      have unit : part c = .unit c.toNat := by simp [part, *]
      rw [unit, digits]
      exact stringParts_unit hex
  · next quote backslash _ _ _ _ _ printable =>
      have char : part c = .char c := by simp [part, printable]
      rw [char]
      exact stringParts_plain quote backslash printable

/-- A unit that is no half of a pair stands for its character, whatever comes next. -/
theorem textOfParts_unit {parts : List StringPart} (small : n < 0x20) :
    textOfParts (.unit n :: parts) = (textOfParts parts).map (Char.ofNat n :: ·) := by
  have high : isHighUnit n = false := by simp [isHighUnit]; omega
  have low : isLowUnit n = false := by simp [isLowUnit]; omega
  cases parts with
  | nil => simp [textOfParts, high, low]
  | cons next others => cases next <;> simp [textOfParts, high, low]

theorem textOfParts_part (c : Char) (parts : List StringPart) :
    textOfParts (part c :: parts) = (textOfParts parts).map (c :: ·) := by
  unfold part
  split
  · next control => rw [textOfParts_unit control.1, Char.ofNat_toNat]
  · rfl

theorem string_escaped (cs rest : List Char) :
    string (cs.flatMap escapeChar ++ '"' :: rest) = some (some (String.ofList cs), rest) := by
  have parts : stringParts (cs.flatMap escapeChar ++ '"' :: rest) = some (cs.map part, rest) := by
    induction cs with
    | nil => simp [stringParts]
    | cons c cs ih =>
        rw [List.flatMap_cons, List.append_assoc, stringParts_escapeChar, ih]
        rfl
  have text : textOfParts (cs.map part) = some cs := by
    clear parts
    induction cs with
    | nil => rfl
    | cons c cs ih => rw [List.map_cons, textOfParts_part, ih, Option.map_some]
  simp [string, parts, text]

/-- A string is read after its opening quote. -/
theorem writeString_eq (s : String) :
    writeString s ++ rest = '"' :: (s.toList.flatMap escapeChar ++ '"' :: rest) := by
  simp [writeString]

/-- What follows a value: nothing, or what separates or closes. -/
def Stops (rest : List Char) : Prop := ∀ c ∈ rest.head?, c ∈ [',', ']', '\x7d']

theorem Stops.ne {other : Char} (stops : Stops (c :: rest)) (differs : other ∉ [',', ']', '\x7d']) :
    c ≠ other := by
  rintro rfl
  exact differs (stops c rfl)

theorem fractionPart_of_stops (stops : Stops rest) : fractionPart rest = some ([], rest) := by
  unfold fractionPart
  split
  · exact absurd rfl (stops.ne (by decide))
  · rfl

theorem exponentPart_of_stops (stops : Stops rest) : exponentPart rest = some ([], rest) := by
  cases rest with
  | nil => rfl
  | cons c others =>
      have small : c ≠ 'e' := stops.ne (by decide)
      have capital : c ≠ 'E' := stops.ne (by decide)
      simp [exponentPart, small, capital]

theorem wholePart_toDigits (n : Nat) (stops : Stops rest) :
    wholePart (Nat.toDigits 10 n ++ rest) = some (Nat.toDigits 10 n, rest) := by
  have numeral := isNumeral_toDigits n
  have ends : ∀ c ∈ rest.head?, c.isDigit = false := by
    intro c head
    have one := stops c head
    simp only [List.mem_cons, List.not_mem_nil, or_false] at one
    rcases one with rfl | rfl | rfl <;> rfl
  have found : digits (Nat.toDigits 10 n ++ rest) = (Nat.toDigits 10 n, rest) := by
    have taken := takeWhile_numeral numeral ends
    have left : (Nat.toDigits 10 n ++ rest).takeWhile Char.isDigit ++ _ = _ :=
      List.takeWhile_append_dropWhile
    rw [taken] at left
    rw [digits, taken, List.append_cancel_left left]
  unfold wholePart
  rw [found]
  split
  · next empty => exact absurd (congrArg Prod.fst empty) numeral.nonempty
  · next zero => exact congrArg some zero.symm
  · next zero others rest' several same =>
      have text : Nat.toDigits 10 n = '0' :: others := congrArg Prod.fst same
      cases n with
      | zero => exact absurd ((Nat.toDigits_zero 10).symm.trans text) (by simpa using several)
      | succ n => exact absurd (by rw [text]; rfl) (head?_toDigits n.succ_pos)
  · rfl

/-- An integer that is read as one: it fits a word with a sign or one without. -/
def FitsWord (n : Int) : Prop := -Int.pow 2 63 ≤ n ∧ n ≤ maxWord64

theorem readDecimal?_toDigits (n : Nat) : readDecimal? (Nat.toDigits 10 n) = some n := by
  rw [(isNumeral_toDigits n).reads, Nat.ofDigitChars_toDigits (by decide) (by decide)]

theorem exists_cons_toDigits (n : Nat) :
    ∃ c others, Nat.toDigits 10 n = c :: others ∧ c.isDigit = true := by
  obtain ⟨c, others, same⟩ := List.exists_cons_of_ne_nil (isNumeral_toDigits n).nonempty
  exact ⟨c, others, same, (isNumeral_toDigits n).digits c (same ▸ .head _)⟩

theorem exists_cons_decimalInt (n : Int) :
    ∃ c cs, (decimalInt n).toList = c :: cs ∧ (c = '-' ∨ c.isDigit = true) := by
  cases n with
  | ofNat n =>
      obtain ⟨c, cs, numeral, digit⟩ := exists_cons_toDigits n
      exact ⟨c, cs, by simp [decimalInt, decimal, numeral], .inr digit⟩
  | negSucc n => exact ⟨'-', Nat.toDigits 10 (n + 1), by simp [decimalInt, decimal], .inl rfl⟩

theorem number_decimalInt {n : Int} (fits : FitsWord n) (stops : Stops rest) :
    number ((decimalInt n).toList ++ rest) = some (.int n, rest) := by
  obtain ⟨low, high⟩ := fits
  cases n with
  | ofNat n =>
      have text : (decimalInt (.ofNat n)).toList = Nat.toDigits 10 n := by simp [decimalInt, decimal]
      have value : integer? false (Nat.toDigits 10 n) = some (.ofNat n) := by
        simpa [integer?, readDecimal?_toDigits] using high
      rw [text]
      unfold number
      split
      next sign =>
        split at sign
        · next others same =>
            obtain ⟨c, digits, numeral, digit⟩ := exists_cons_toDigits n
            rw [numeral] at same
            cases same
            cases digit
        · cases sign
          simp [wholePart_toDigits, fractionPart_of_stops, exponentPart_of_stops, stops, value]
  | negSucc n =>
      have text : (decimalInt (.negSucc n)).toList = '-' :: Nat.toDigits 10 (n + 1) := by
        simp [decimalInt, decimal]
      have value : integer? true (Nat.toDigits 10 (n + 1)) = some (.negSucc n) := by
        have bound : n + 1 ≤ Nat.pow 2 63 := by
          have two : Int.pow 2 63 = Nat.pow 2 63 := by decide
          omega
        simp [integer?, readDecimal?_toDigits, Nat.not_lt.mpr bound, Int.negSucc_eq]
      rw [text]
      simp [number, wholePart_toDigits, fractionPart_of_stops, exponentPart_of_stops, stops, value]

theorem dropSpace_cons (solid : isSpace c = false) : dropSpace (c :: cs) = c :: cs := by
  simp [dropSpace, solid]

theorem isSpace_of_starts (starts : c = '-' ∨ c.isDigit = true) : isSpace c = false := by
  rw [← Bool.not_eq_true]
  intro space
  simp only [isSpace, Bool.or_eq_true, beq_iff_eq] at space
  rcases space with ((rfl | rfl) | rfl) | rfl <;> exact absurd starts (by decide)

theorem value_number {fuel : Nat} (starts : c = '-' ∨ c.isDigit = true) :
    value (fuel + 1) (c :: cs) = number (c :: cs) := by
  rw [value, dropSpace_cons (isSpace_of_starts starts)]
  split
  case h_7 => rfl
  all_goals
    next same =>
      cases same
      exact absurd starts (by decide)

/-- The value is written as it stands. -/
inductive IsPlain : Json → Prop where
  | null : IsPlain .null
  | bool (value : Bool) : IsPlain (.bool value)
  | int (n : Int) (fits : FitsWord n) : IsPlain (.int n)
  | str (text : String) : IsPlain (.str text)
  | arr (items : List Json) (each : ∀ item ∈ items, IsPlain item) : IsPlain (.arr items)
  | obj (fields : List (String × Json)) (each : ∀ field ∈ fields, IsPlain field.2) :
      IsPlain (.obj fields)

/-- The text of a value has a first character, which is no space and closes no array. -/
theorem exists_cons_write {j : Json} (plain : j.IsPlain) :
    ∃ c cs, write j = c :: cs ∧ isSpace c = false ∧ c ≠ ']' := by
  cases plain with
  | null => exact ⟨'n', _, rfl, rfl, by decide⟩
  | bool value => cases value <;> exact ⟨_, _, rfl, rfl, by decide⟩
  | str text => exact ⟨'"', _, rfl, rfl, by decide⟩
  | int n =>
      obtain ⟨c, cs, text, starts⟩ := exists_cons_decimalInt n
      refine ⟨c, cs, text, isSpace_of_starts starts, ?_⟩
      rintro rfl
      exact absurd starts (by decide)
  | arr items => cases items <;> exact ⟨'[', _, rfl, rfl, by decide⟩
  | obj fields => cases fields <;> exact ⟨'\x7b', _, rfl, rfl, by decide⟩

theorem length_write_pos {j : Json} (plain : j.IsPlain) : 0 < (write j).length := by
  obtain ⟨c, cs, text, -⟩ := exists_cons_write plain
  simp [text]

theorem stops_cons (mem : c ∈ [',', ']', '\x7d']) : Stops (c :: rest) := by
  rintro other head
  cases head
  exact mem

/-- What is written of the value is read as the value, up to where it stops. A reader that may go on
for as many steps as the text has characters is never cut short: each step takes one at least. -/
def IsReadBack (j : Json) : Prop :=
  ∀ fuel rest, (write j).length ≤ fuel → Stops rest →
    value fuel (write j ++ rest) = some (j, rest)

/-- The items after the first are read one by one, each with one step less than the one before it. -/
theorem itemsFrom_writeItems {items : List Json} (each : ∀ item ∈ items, IsReadBack item) :
    ∀ fuel item, IsReadBack item → (write item ++ writeItems items).length ≤ fuel →
      itemsFrom fuel (write item ++ (writeItems items ++ rest)) = some (item :: items, rest) := by
  induction items with
  | nil =>
      intro fuel item first enough
      simp only [writeItems, List.length_append, List.length_singleton] at enough
      obtain ⟨fuel, rfl⟩ := Nat.exists_eq_add_of_le' (show 1 ≤ fuel by omega)
      simp only [writeItems, List.singleton_append]
      rw [itemsFrom, first fuel _ (by omega) (stops_cons (by decide))]
      rfl
  | cons next others ih =>
      intro fuel item first enough
      simp only [writeItems, List.length_append, List.length_cons] at enough
      obtain ⟨fuel, rfl⟩ := Nat.exists_eq_add_of_le' (show 1 ≤ fuel by omega)
      have more := ih (fun item mem => each item (.tail _ mem)) fuel next (each next (.head _))
        (by rw [List.length_append]; omega)
      simp only [writeItems, List.append_assoc, List.cons_append]
      rw [itemsFrom, first fuel _ (by omega) (stops_cons (by decide))]
      simp [dropSpace_cons (c := ',') rfl, more]

theorem membersFrom_last {fuel : Nat} {key : String} {item : Json} (reads : IsReadBack item)
    (enough : (write item).length ≤ fuel) :
    membersFrom (fuel + 1) (writeString key ++ ':' :: (write item ++ '\x7d' :: rest)) =
      some ([(some key, item)], rest) := by
  have value := reads fuel ('\x7d' :: rest) enough (stops_cons (by decide))
  rw [membersFrom, writeString_eq, dropSpace_cons rfl]
  simp [string_escaped, dropSpace_cons (c := ':') rfl, value, dropSpace_cons (c := '\x7d') rfl]

theorem membersFrom_more {fuel : Nat} {key : String} {item : Json} (reads : IsReadBack item)
    (enough : (write item).length ≤ fuel) :
    membersFrom (fuel + 1) (writeString key ++ ':' :: (write item ++ ',' :: rest)) =
      (membersFrom fuel rest).map fun (members, rest) => ((some key, item) :: members, rest) := by
  have value := reads fuel (',' :: rest) enough (stops_cons (by decide))
  rw [membersFrom, writeString_eq, dropSpace_cons rfl]
  cases more : membersFrom fuel rest <;>
    simp [string_escaped, dropSpace_cons (c := ':') rfl, value, dropSpace_cons (c := ',') rfl, more]

theorem membersFrom_writeFields {fields : List (String × Json)}
    (each : ∀ field ∈ fields, IsReadBack field.2) : ∀ fuel key item, IsReadBack item →
      (write item ++ writeFields fields).length ≤ fuel →
      membersFrom fuel (writeString key ++ ':' :: (write item ++ (writeFields fields ++ rest))) =
        some (((key, item) :: fields).map fun field => (some field.1, field.2), rest) := by
  induction fields with
  | nil =>
      intro fuel key item first enough
      simp only [writeFields, List.length_append, List.length_singleton] at enough
      obtain ⟨fuel, rfl⟩ := Nat.exists_eq_add_of_le' (show 1 ≤ fuel by omega)
      exact membersFrom_last first (by omega)
  | cons next others ih =>
      intro fuel key item first enough
      simp only [writeFields, List.length_append, List.length_cons] at enough
      obtain ⟨fuel, rfl⟩ := Nat.exists_eq_add_of_le' (show 1 ≤ fuel by omega)
      have more := ih (fun field mem => each field (.tail _ mem)) fuel next.1 next.2
        (each next (.head _)) (by rw [List.length_append]; omega)
      simp only [writeFields, List.append_assoc, List.cons_append]
      rw [membersFrom_more first (by omega), more]
      rfl

theorem ofMembers_fields (fields : List (String × Json)) :
    ofMembers (fields.map fun field => (some field.1, field.2)) = .obj fields := by
  have all : (fields.map fun field => (some field.1, field.2)).mapM
      (fun member : Option String × Json => member.1.map (·, member.2)) = some fields := by
    induction fields with
    | nil => rfl
    | cons field others ih =>
        rw [List.map_cons, List.mapM_cons, ih]
        rfl
  unfold ofMembers
  exact all ▸ rfl

theorem value_int {fuel : Nat} {n : Int} (fits : FitsWord n) (stops : Stops rest) :
    value (fuel + 1) ((decimalInt n).toList ++ rest) = some (.int n, rest) := by
  have reads := number_decimalInt fits stops
  obtain ⟨c, cs, text, starts⟩ := exists_cons_decimalInt n
  rw [text, List.cons_append] at reads ⊢
  rw [value_number starts, reads]

theorem value_arr {fuel : Nat} {items : List Json} {item : Json} (plain : item.IsPlain)
    (first : IsReadBack item) (each : ∀ item ∈ items, IsReadBack item)
    (enough : (write item ++ writeItems items).length ≤ fuel) :
    value (fuel + 1) ('[' :: (write item ++ (writeItems items ++ rest))) =
      some (.arr (item :: items), rest) := by
  have reads : itemsFrom fuel (write item ++ (writeItems items ++ rest)) =
      some (item :: items, rest) := itemsFrom_writeItems each fuel item first enough
  obtain ⟨c, cs, text, solid, differs⟩ := exists_cons_write plain
  rw [text, List.cons_append] at reads ⊢
  rw [value, dropSpace_cons rfl]
  simp [dropSpace_cons solid, reads, differs]

theorem value_obj {fuel : Nat} {fields : List (String × Json)} {key : String} {item : Json}
    (first : IsReadBack item) (each : ∀ field ∈ fields, IsReadBack field.2)
    (enough : (write item ++ writeFields fields).length ≤ fuel) :
    value (fuel + 1)
        ('\x7b' :: (writeString key ++ ':' :: (write item ++ (writeFields fields ++ rest)))) =
      some (.obj ((key, item) :: fields), rest) := by
  obtain ⟨members, reads, all⟩ : ∃ members,
      membersFrom fuel (writeString key ++ ':' :: (write item ++ (writeFields fields ++ rest))) =
        some (members, rest) ∧ ofMembers members = .obj ((key, item) :: fields) :=
    ⟨_, membersFrom_writeFields each fuel key item first enough, ofMembers_fields _⟩
  rw [writeString_eq] at reads ⊢
  rw [value, dropSpace_cons rfl]
  simp [dropSpace_cons (c := '"') rfl, reads, all]

/-- No step at all is too few for any value, as every text has a character. -/
theorem isReadBack_of_succ {j : Json} (plain : j.IsPlain)
    (reads : ∀ fuel rest, (write j).length ≤ fuel + 1 → Stops rest →
      value (fuel + 1) (write j ++ rest) = some (j, rest)) : IsReadBack j := by
  intro fuel rest enough stops
  cases fuel with
  | zero => exact absurd (length_write_pos plain) (Nat.not_lt.mpr enough)
  | succ fuel => exact reads fuel rest enough stops

theorem isReadBack_of_isPlain {j : Json} (plain : j.IsPlain) : IsReadBack j := by
  induction plain with
  | null => exact isReadBack_of_succ .null fun _ _ _ _ => rfl
  | bool b =>
      refine isReadBack_of_succ (.bool b) fun fuel rest _ _ => ?_
      cases b <;> rfl
  | str text =>
      refine isReadBack_of_succ (.str text) fun fuel rest _ _ => ?_
      rw [write, writeString_eq, value, dropSpace_cons rfl]
      simp [string_escaped]
  | int n fits => exact isReadBack_of_succ (.int n fits) fun _ _ _ stops => value_int fits stops
  | arr items each ih =>
      refine isReadBack_of_succ (.arr items each) fun fuel rest enough _ => ?_
      cases items with
      | nil => rfl
      | cons item others =>
          simp only [write, List.cons_append, List.append_assoc, List.length_cons] at enough ⊢
          exact value_arr (each item (.head _)) (ih item (.head _))
            (fun item mem => ih item (.tail _ mem)) (by omega)
  | obj fields each ih =>
      refine isReadBack_of_succ (.obj fields each) fun fuel rest enough _ => ?_
      cases fields with
      | nil => rfl
      | cons field others =>
          simp only [write, List.cons_append, List.append_assoc, List.length_cons,
            List.length_append] at enough ⊢
          exact value_obj (ih field (.head _)) (fun field mem => ih field (.tail _ mem))
            (by rw [List.length_append]; omega)

/-- A plain value is read back from its text, with its fields in the order in which they stand. -/
theorem read?_write {j : Json} (plain : j.IsPlain) : read? (String.ofList (write j)) = some j := by
  have enough : (write j).length ≤ 2 * (write j).length + 1 := by omega
  have reads := isReadBack_of_isPlain plain (2 * (write j).length + 1) [] enough nofun
  rw [List.append_nil] at reads
  rw [read?, String.toList_ofList, readChars?, reads]
  rfl

theorem canonicalItems_eq_map (items : List Json) : canonicalItems items = items.map canonical := by
  induction items with
  | nil => rfl
  | cons item rest ih => rw [canonicalItems, ih, List.map_cons]

theorem canonicalFields_eq_map (fields : List (String × Json)) :
    canonicalFields fields = fields.map fun (key, value) => (key, canonical value) := by
  induction fields with
  | nil => rfl
  | cons field rest ih => rw [canonicalFields, ih, List.map_cons]

theorem IsPlain.canonical {j : Json} (plain : j.IsPlain) : j.canonical.IsPlain := by
  induction plain with
  | null => exact .null
  | bool b => exact .bool b
  | str text => exact .str text
  | int n fits => exact .int n fits
  | arr items each ih =>
      rw [Json.canonical, canonicalItems_eq_map]
      refine .arr _ fun item mem => ?_
      obtain ⟨given, listed, rfl⟩ := List.mem_map.mp mem
      exact ih given listed
  | obj fields each ih =>
      rw [Json.canonical, canonicalFields_eq_map]
      refine .obj _ fun field mem => ?_
      obtain ⟨given, listed, rfl⟩ := List.mem_map.mp (Table.mem_ofList mem)
      exact ih given listed

/-- A plain value is read back in canonical form from its text with increasing keys. -/
theorem read?_compact {j : Json} (plain : j.IsPlain) : read? j.compact = some j.canonical :=
  read?_write plain.canonical

end MachineProvisioning.Json
