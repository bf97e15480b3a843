import MachineProvisioning.Proofs.Text.Numeral
import MachineProvisioning.Proofs.Time.Civil
import MachineProvisioning.Time.Rfc3339

/-! # Timestamps that are read back

What is written of an instant is read as the same instant, unless its year is out of range, in which
case it cannot be read. The nanoseconds have to be those of a second or of a leap second, and are those
in every instant that is read.
-/

namespace MachineProvisioning.Instant

open Text

/-- The nanoseconds are those of a second, or of the leap second at the end of a minute. -/
def IsProper (t : Instant) : Prop :=
  t.nanos < 1000000000 ∨ t.nanos < 2000000000 ∧ t.seconds % 60 = 59

instance (t : Instant) : Decidable t.IsProper := inferInstanceAs (Decidable (_ ∨ _ ∧ _))

variable {rest cs : List Char} {n width most : Nat}

theorem dropBlanks_numeral (numeral : IsNumeral cs) : dropBlanks (cs ++ rest) = cs ++ rest := by
  cases cs with
  | nil => exact absurd rfl numeral.nonempty
  | cons c others =>
      have digit := isBlank_of_isDigit (numeral.digits c (.head _))
      simp [dropBlanks, digit]

/-- A run of digits is read as a number up to where it stops. -/
theorem number_append (numeral : IsNumeral cs) (short : cs.length ≤ most)
    (stops : cs.length = most ∨ ∀ c ∈ rest.head?, c.isDigit = false) :
    number most (cs ++ rest) = (readDecimal? cs).map (·, rest) := by
  have found : ((cs ++ rest).take most).takeWhile Char.isDigit = cs := by
    rw [List.take_append, List.take_of_length_le short]
    refine takeWhile_numeral numeral fun c mem => ?_
    rcases stops with full | stops
    · simp [full] at mem
    · refine stops c ?_
      rw [List.head?_take] at mem
      split at mem
      · cases mem
      · exact mem
  unfold number
  extract_lets digits
  have same : digits = cs := found
  rw [same, List.drop_left]
  cases readDecimal? cs <;> rfl

theorem twoDigits_padded (small : n < 100) :
    twoDigits ((decimalPadded 2 n).toList ++ rest) = some (n, rest) := by
  have length : (decimalPadded 2 n).toList.length = 2 := length_decimalPadded (by decide) small
  unfold twoDigits
  rw [dropBlanks_numeral isNumeral_decimalPadded,
    number_append isNumeral_decimalPadded (Nat.le_of_eq length) (.inl length),
    readDecimal?_decimalPadded]
  rfl

theorem mark_cons (c : Char) (solid : isBlank c = false) : mark c (c :: rest) = some rest := by
  simp [mark, dropBlanks, solid]

/-- A year without a sign has up to four digits. -/
theorem yearPart_numeral (numeral : IsNumeral cs) :
    yearPart (cs ++ rest) = (number 4 (cs ++ rest)).map fun (n, rest) => ((n : Int), rest) := by
  unfold yearPart
  rw [dropBlanks_numeral numeral]
  cases cs with
  | nil => exact absurd rfl numeral.nonempty
  | cons c others =>
      have digit := numeral.digits c (.head _)
      split
      · next same =>
          cases (List.cons.inj same).1
          cases digit
      · next same =>
          cases (List.cons.inj same).1
          cases digit
      · rfl

theorem yearPart_minus : yearPart ('-' :: rest) =
    (number rest.length rest).map fun (n, rest) => (-(n : Int), rest) := rfl

theorem yearPart_plus : yearPart ('+' :: rest) =
    (number rest.length rest).map fun (n, rest) => ((n : Int), rest) := rfl

theorem yearPart_yearText (year : Int) :
    yearPart ((yearText year).toList ++ '-' :: rest) = some (year, '-' :: rest) := by
  have stops : ∀ c ∈ ('-' :: rest).head?, c.isDigit = false := by simp
  have signed : ∀ n, number ((decimalPadded 4 n).toList ++ '-' :: rest).length
      ((decimalPadded 4 n).toList ++ '-' :: rest) = some (n, '-' :: rest) := by
    intro n
    rw [number_append isNumeral_decimalPadded (by simp) (.inr stops), readDecimal?_decimalPadded]
    rfl
  cases year with
  | negSucc before =>
      have text : (yearText (.negSucc before)).toList = '-' :: (decimalPadded 4 (before + 1)).toList := by
        simp [yearText]
      rw [text, List.cons_append, yearPart_minus, signed]
      rfl
  | ofNat year =>
      by_cases small : year ≤ 9999
      · have text : (yearText (.ofNat year)).toList = (decimalPadded 4 year).toList := by
          simp [yearText, small]
        have length : (decimalPadded 4 year).toList.length = 4 :=
          length_decimalPadded (by decide) (by omega)
        rw [text, yearPart_numeral isNumeral_decimalPadded,
          number_append isNumeral_decimalPadded (Nat.le_of_eq length) (.inl length),
          readDecimal?_decimalPadded]
        rfl
      · have text : (yearText (.ofNat year)).toList = '+' :: (decimalPadded 4 year).toList := by
          simp [yearText, small]
        rw [text, List.cons_append, yearPart_plus, signed]
        rfl

/-- The digits after a point count nanoseconds from the left. -/
theorem nanosPart_padded (positive : 0 < width) (short : width ≤ 9) (small : n < 10 ^ width) :
    nanosPart ('.' :: ((decimalPadded width n).toList ++ ['Z'])) =
      some (n * 10 ^ (9 - width), ['Z']) := by
  have length : (decimalPadded width n).toList.length = width := length_decimalPadded positive small
  have found : ((decimalPadded width n).toList ++ ['Z']).takeWhile Char.isDigit =
      (decimalPadded width n).toList := takeWhile_numeral isNumeral_decimalPadded (by simp)
  simp only [nanosPart, found]
  rw [List.take_of_length_le (by omega), readDecimal?_decimalPadded, List.drop_left, length]
  rfl

theorem nanosPart_fraction (small : n < 1000000000) :
    nanosPart ((fraction n).toList ++ ['Z']) = some (n, ['Z']) := by
  unfold fraction
  split
  · next zero => simp [nanosPart, zero]
  · split
    · next millis =>
        have padded : nanosPart ('.' :: ((decimalPadded 3 (n / 1000000)).toList ++ ['Z'])) = _ :=
          nanosPart_padded (by decide) (by decide) (by omega)
        simpa [Nat.div_mul_cancel (Nat.dvd_of_mod_eq_zero millis)] using padded
    · split
      · next micros =>
          have padded : nanosPart ('.' :: ((decimalPadded 6 (n / 1000)).toList ++ ['Z'])) = _ :=
            nanosPart_padded (by decide) (by decide) (by omega)
          simpa [Nat.div_mul_cancel (Nat.dvd_of_mod_eq_zero micros)] using padded
      · have padded : nanosPart ('.' :: ((decimalPadded 9 n).toList ++ ['Z'])) = _ :=
          nanosPart_padded (by decide) (by decide) (by omega)
        simpa using padded

/-- A date and a time of day in UTC as they are written. -/
def written (date : CivilDate) (hour minute second nanos : Nat) : List Char :=
  (yearText date.year).toList ++ '-' :: ((decimalPadded 2 date.month).toList ++ '-' ::
    ((decimalPadded 2 date.day).toList ++ 'T' :: ((decimalPadded 2 hour).toList ++ ':' ::
      ((decimalPadded 2 minute).toList ++ ':' :: ((decimalPadded 2 second).toList ++
        ((fraction nanos).toList ++ ['Z']))))))

theorem toList_toText (t : Instant) :
    t.toText.toList = written (.ofDays (t.seconds.fdiv 86400)) ((t.seconds.fmod 86400).toNat / 3600)
      ((t.seconds.fmod 86400).toNat / 60 % 60) ((t.seconds.fmod 86400).toNat % 60 + t.leap)
      (t.nanos - t.leap * 1000000000) := by
  simp [toText, clockText, written]

theorem ofChars?_written {date : CivilDate} {hour minute second nanos : Nat}
    (month : date.month < 100) (day : date.day < 100) (hours : hour < 100) (minutes : minute < 100)
    (seconds : second < 100) (small : nanos < 1000000000) :
    ofChars? (written date hour minute second nanos) = ofCivil? date hour minute second nanos 0 := by
  have dash : ∀ rest, mark '-' ('-' :: rest) = some rest := fun rest => mark_cons '-' (by decide)
  have colon : ∀ rest, mark ':' (':' :: rest) = some rest := fun rest => mark_cons ':' (by decide)
  have zone : offsetPart (dropBlanks ['Z']) = some (0, []) := by decide
  simp only [ofChars?, written, yearPart_yearText, dash, colon, twoDigits_padded month,
    twoDigits_padded day, twoDigits_padded hours, twoDigits_padded minutes, twoDigits_padded seconds,
    nanosPart_fraction small, zone, Option.bind_eq_bind, Option.bind_some]
  rfl

theorem leap_le (t : Instant) : t.leap ≤ 1 := by
  unfold leap
  split <;> omega

/-- The year of the instant in UTC. -/
def year (t : Instant) : Int := (CivilDate.ofDays (t.seconds.fdiv 86400)).year

/-- What is written of an instant is read as the instant if its year can be read, and is not read
    otherwise. -/
theorem ofText?_toText {t : Instant} (proper : t.IsProper) :
    ofText? t.toText = if isYearInRange t.year then some t else none := by
  have days : t.seconds.fdiv 86400 = t.seconds / 86400 := Int.fdiv_eq_ediv_of_nonneg _ (by decide)
  have time : t.seconds.fmod 86400 = t.seconds % 86400 := Int.fmod_eq_emod_of_nonneg _ (by decide)
  have month := CivilDate.ofDays_month_le (t.seconds / 86400)
  have day := CivilDate.ofDays_day_le (t.seconds / 86400)
  have one := t.leap_le
  have fits : t.nanos - t.leap * 1000000000 < 1000000000 := by
    unfold leap
    grind [IsProper]
  unfold ofText?
  rw [toList_toText, days, time, ofChars?_written (by omega) (by omega) (by omega) (by omega)
    (by omega) fits]
  unfold ofCivil?
  extract_lets leap seconds
  have sameLeap : leap = t.leap := by
    unfold leap Instant.leap
    grind [IsProper]
  have sameSeconds : seconds = t.seconds := by
    unfold seconds
    rw [sameLeap, CivilDate.toDays_ofDays]
    omega
  have sameNanos : t.nanos - t.leap * 1000000000 + t.leap * 1000000000 = t.nanos := by
    unfold Instant.leap
    grind
  rw [sameLeap, sameSeconds, sameNanos, days]
  have second : (t.seconds % 86400).toNat % 60 + t.leap ≤ 60 := by omega
  have hour : (t.seconds % 86400).toNat / 3600 < 24 := by omega
  have minute : (t.seconds % 86400).toNat / 60 % 60 < 60 := by omega
  simp [CivilDate.isValid_ofDays, second, hour, minute, year, days]

/-- What is read of a written instant is the instant. -/
theorem eq_of_ofText?_toText {t t' : Instant} (proper : t.IsProper)
    (reads : ofText? t.toText = some t') : t' = t := by
  rw [ofText?_toText proper] at reads
  split at reads
  · exact (Option.some.inj reads).symm
  · cases reads

variable {offset : Int}

theorem nanosPart_lt (reads : nanosPart cs = some (n, rest)) : n < 1000000000 := by
  unfold nanosPart at reads
  split at reads
  · next others =>
      extract_lets found kept at reads
      obtain ⟨value, decimal, same⟩ := Option.bind_eq_some_iff.mp reads
      cases same
      have short : kept.length ≤ 9 := by
        simp only [kept, List.length_take]
        omega
      calc value * 10 ^ (9 - kept.length) < 10 ^ kept.length * 10 ^ (9 - kept.length) :=
            Nat.mul_lt_mul_of_pos_right (lt_of_readDecimal? decimal) (Nat.pow_pos (by decide))
        _ = 1000000000 := by rw [← Nat.pow_add, Nat.add_sub_cancel' short]
  · cases reads
    decide

theorem hoursMinutes_mod (reads : offsetPart.hoursMinutes cs = some (offset, rest)) :
    offset % 60 = 0 := by
  unfold offsetPart.hoursMinutes at reads
  obtain ⟨⟨hours, others⟩, -, reads⟩ := Option.bind_eq_some_iff.mp reads
  obtain ⟨⟨minutes, others⟩, -, reads⟩ := Option.bind_eq_some_iff.mp reads
  dsimp only at reads
  split at reads
  · cases reads
    omega
  · cases reads

theorem signed_mod (reads : offsetPart.signed cs = some (offset, rest)) : offset % 60 = 0 := by
  have west : ∀ {cs : List Char} {negate : Int × List Char → Int × List Char},
      (∀ read, (negate read).1 = -read.1) →
        (offsetPart.hoursMinutes cs).map negate = some (offset, rest) → offset % 60 = 0 := by
    intro cs negate negates reads
    obtain ⟨⟨east, others⟩, reads, same⟩ := Option.map_eq_some_iff.mp reads
    have whole := hoursMinutes_mod reads
    have opposite : offset = -east := by rw [← negates (east, others), same]
    omega
  unfold offsetPart.signed at reads
  split at reads
  · cases reads; rfl
  · cases reads; rfl
  · exact hoursMinutes_mod reads
  · exact west (fun _ => rfl) reads
  · exact west (fun _ => rfl) reads
  · cases reads

/-- An offset is a number of whole minutes. -/
theorem offsetPart_mod (reads : offsetPart cs = some (offset, rest)) : offset % 60 = 0 := by
  unfold offsetPart at reads
  split at reads
  · split at reads
    · cases reads; rfl
    · exact signed_mod reads
  · exact signed_mod reads

/-- The instant is written as a timestamp that can be read: it is that of a second or of a leap second, in
    a year from -262143 to 262142. -/
structure IsLegible (t : Instant) : Prop where
  proper : t.IsProper
  year : isYearInRange t.year = true

instance (t : Instant) : Decidable t.IsLegible :=
  decidable_of_iff (t.IsProper ∧ isYearInRange t.year = true)
    ⟨fun ⟨proper, year⟩ => ⟨proper, year⟩, fun ⟨proper, year⟩ => ⟨proper, year⟩⟩

theorem IsLegible.ofText?_toText {t : Instant} (legible : t.IsLegible) : ofText? t.toText = some t := by
  rw [Instant.ofText?_toText legible.proper, if_pos legible.year]

theorem isLegible_of_ofCivil? {date : CivilDate} {hour minute second nanos : Nat} {t : Instant}
    (small : nanos < 1000000000) (whole : offset % 60 = 0)
    (reads : ofCivil? date hour minute second nanos offset = some t) : t.IsLegible := by
  unfold ofCivil? at reads
  extract_lets leap seconds at reads
  split at reads
  · next valid =>
      cases reads
      refine ⟨?_, (Bool.and_eq_true _ _ ▸ valid).2⟩
      by_cases last : second = 60
      · have one : leap = 1 := if_pos last
        refine .inr ⟨?_, ?_⟩
        · simp only [one]
          omega
        · simp only [seconds, one, last]
          omega
      · have none : leap = 0 := if_neg last
        refine .inl ?_
        simpa [none] using small
  · cases reads

/-- What is read of a timestamp can be written and read again. -/
theorem isLegible_of_ofText? {text : String} {t : Instant} (reads : ofText? text = some t) :
    t.IsLegible := by
  unfold ofText? ofChars? at reads
  obtain ⟨⟨year, _⟩, -, reads⟩ := Option.bind_eq_some_iff.mp reads
  obtain ⟨_, -, reads⟩ := Option.bind_eq_some_iff.mp reads
  obtain ⟨⟨month, _⟩, -, reads⟩ := Option.bind_eq_some_iff.mp reads
  obtain ⟨_, -, reads⟩ := Option.bind_eq_some_iff.mp reads
  obtain ⟨⟨day, others⟩, -, reads⟩ := Option.bind_eq_some_iff.mp reads
  dsimp -zeta only at reads
  extract_lets time at reads
  have legible : ∀ rest, time rest = some t → t.IsLegible := by
    intro rest reads
    obtain ⟨⟨hour, _⟩, -, reads⟩ := Option.bind_eq_some_iff.mp reads
    obtain ⟨_, -, reads⟩ := Option.bind_eq_some_iff.mp reads
    obtain ⟨⟨minute, _⟩, -, reads⟩ := Option.bind_eq_some_iff.mp reads
    obtain ⟨_, -, reads⟩ := Option.bind_eq_some_iff.mp reads
    obtain ⟨⟨second, _⟩, -, reads⟩ := Option.bind_eq_some_iff.mp reads
    obtain ⟨⟨nanos, _⟩, fraction, reads⟩ := Option.bind_eq_some_iff.mp reads
    obtain ⟨⟨offset, _⟩, zone, reads⟩ := Option.bind_eq_some_iff.mp reads
    dsimp only at reads
    split at reads
    · exact isLegible_of_ofCivil? (nanosPart_lt fraction) (offsetPart_mod zone) reads
    · cases reads
  split at reads
  · exact legible _ reads
  · exact legible _ reads
  · exact legible _ reads
  · cases reads

end MachineProvisioning.Instant
