import MachineProvisioning.Net.Address
import MachineProvisioning.Proofs.Text.Numeral

/-! # Addresses that are read back

The text of an address reads as the address, of either family: octets and groups are read digit by
digit, and a run of zero groups that was left out is filled in again.
-/

namespace MachineProvisioning

namespace Text

variable {value? : Char → Option Nat} {base acc : Nat}

theorem readDigits_append (cs ds : List Char) : readDigits value? base acc (cs ++ ds) =
    (readDigits value? base acc cs).bind fun n => readDigits value? base n ds := by
  induction cs generalizing acc with
  | nil => rfl
  | cons c rest ih =>
      simp only [List.cons_append, readDigits]
      cases value? c with
      | none => rfl
      | some d => exact ih

/-- Only digits are read. -/
theorem isSome_of_readDigits {cs : List Char} {n : Nat}
    (reads : readDigits value? base acc cs = some n) : ∀ c ∈ cs, (value? c).isSome := by
  induction cs generalizing acc with
  | nil => simp
  | cons c rest ih =>
      cases here : value? c with
      | none => simp [readDigits, here] at reads
      | some d =>
          simp only [readDigits, here, Option.bind_eq_bind, Option.bind_some] at reads
          intro other mem
          cases mem with
          | head => simp [here]
          | tail _ mem => exact ih reads other mem

theorem hexValue?_digitChar : ∀ d < 16, hexValue? (Nat.digitChar d) = some d := by decide

theorem readDigits_hex (n : Nat) :
    readDigits hexValue? 16 0 (Nat.toDigits 16 n) = some n := by
  induction n using Nat.strongRecOn with
  | ind n ih =>
      rw [Nat.toDigits_eq_if (by decide)]
      split
      · next small => simp [readDigits, hexValue?_digitChar n small]
      · have last := hexValue?_digitChar (n % 16) (Nat.mod_lt n (by decide))
        rw [readDigits_append, ih (n / 16) (by omega)]
        simp only [Option.bind_some, readDigits, last, Option.bind_eq_bind, Option.some.injEq]
        omega

/-- A hexadecimal numeral is read back. -/
theorem readHex?_toDigits (n : Nat) : readHex? (Nat.toDigits 16 n) = some n := by
  rw [readHex?, if_neg (by simp)]
  exact readDigits_hex n

theorem not_mem_hex {c : Char} (stops : hexValue? c = none) (n : Nat) : c ∉ Nat.toDigits 16 n := by
  intro mem
  have digit := isSome_of_readDigits (readDigits_hex n) c mem
  rw [stops] at digit
  cases digit

end Text

namespace Net.Address

open Text

/-- An octet is read back. -/
theorem octet?_toDigits : ∀ n < 256, octet? (Nat.toDigits 10 n) = some n := by decide +kernel

theorem isDigit_of_octet? {cs : List Char} {n : Nat} (reads : octet? cs = some n) :
    ∀ c ∈ cs, c.isDigit = true := by
  unfold octet? at reads
  split at reads
  · simp
  · cases reads
  · split at reads
    · have read := (Option.filter_eq_some_iff.mp reads).1
      unfold readDecimal? at read
      split at read
      · cases read
      · intro c mem
        have digit := isSome_of_readDigits read c mem
        unfold digitValue? at digit
        grind
    · cases reads

theorem ofDigits_octets (value : Nat) : ofDigits 256 (octets value) = value % Nat.pow 2 32 := by
  simp only [ofDigits, octets, List.foldl, Nat.pow_eq]
  omega

theorem toList_quadText (value : Nat) :
    (quadText value).toList = joinChars ['.'] ((octets value).map (Nat.toDigits 10)) := by
  simp [quadText, join, Function.comp_def, decimal]

theorem octets_lt (value : Nat) : ∀ n ∈ octets value, n < 256 := by
  simp only [octets, List.mem_cons, List.not_mem_nil, or_false]
  rintro n (rfl | rfl | rfl | rfl)
  all_goals omega

theorem not_mem_octet {value : Nat} {piece : List Char}
    (mem : piece ∈ (octets value).map (Nat.toDigits 10)) {c : Char} (stops : c.isDigit = false) :
    c ∉ piece := by
  obtain ⟨n, found, rfl⟩ := List.mem_map.mp mem
  intro here
  have digit := isDigit_of_octet? (octet?_toDigits n (octets_lt value n found)) c here
  rw [stops] at digit
  cases digit

/-- A dotted quad is read back. -/
theorem quad?_quadText (value : Nat) : quad? (quadText value).toList = some (value % Nat.pow 2 32) := by
  have pieces : splitChars '.' (quadText value).toList = (octets value).map (Nat.toDigits 10) := by
    rw [toList_quadText]
    exact splitChars_joinChars (by simp [octets]) fun piece mem => not_mem_octet mem rfl
  have read : ((octets value).map (Nat.toDigits 10)).mapM octet? = some (octets value) := by
    have each : ∀ n ∈ octets value, octet? (Nat.toDigits 10 n) = some n := fun n mem =>
      octet?_toDigits n (octets_lt value n mem)
    simp only [octets, List.mem_cons, List.not_mem_nil, or_false, forall_eq_or_imp, forall_eq] at each
    simp [octets, each]
  unfold quad?
  rw [pieces, read, ← ofDigits_octets]
  rfl

theorem not_mem_quadText {value : Nat} {c : Char} (stops : c.isDigit = false) (differs : c ≠ '.') :
    c ∉ (quadText value).toList := by
  rw [toList_quadText]
  intro mem
  rcases mem_joinChars mem with same | ⟨piece, found, mem⟩
  · exact differs same
  · exact not_mem_octet found stops mem

theorem mapM_of_none {f : List Char → Option Nat} {pieces : List (List Char)} {piece : List Char}
    (mem : piece ∈ pieces) (unread : f piece = none) : pieces.mapM f = none := by
  induction pieces with
  | nil => cases mem
  | cons first rest ih =>
      rw [List.mapM_cons]
      cases mem with
      | head => simp [unread]
      | tail _ mem =>
          rw [ih mem]
          cases f first <;> rfl

/-- A dotted quad has digits and dots only. -/
theorem quad?_of_mem {cs : List Char} {c : Char} (stops : c.isDigit = false) (differs : c ≠ '.')
    (mem : c ∈ cs) : quad? cs = none := by
  rw [← joinChars_splitChars '.' cs] at mem
  rcases mem_joinChars mem with same | ⟨piece, found, mem⟩
  · exact absurd same differs
  · have unread : octet? piece = none := by
      cases read : octet? piece with
      | none => rfl
      | some n =>
          have digit := isDigit_of_octet? read c mem
          rw [stops] at digit
          cases digit
    simp [quad?, mapM_of_none found unread]

/-- A text with a colon is no dotted quad. -/
theorem quad?_of_colon {cs : List Char} (colon : ':' ∈ cs) : quad? cs = none :=
  quad?_of_mem rfl (by decide) colon

/-- A text without a dot has too few octets. -/
theorem quad?_of_dotless {cs : List Char} (free : '.' ∉ cs) : quad? cs = none := by
  unfold quad?
  rw [splitChars_of_not_mem free]
  cases read : octet? cs <;> simp [List.mapM_cons, read]

/-- A group is read back. -/
theorem group?_toDigits {n : Nat} (small : n < 65536) : group? (Nat.toDigits 16 n) = some n := by
  have short : (Nat.toDigits 16 n).length ≤ 4 :=
    (Nat.length_toDigits_le_iff (by decide) (by decide)).mpr small
  rw [group?, if_pos short]
  exact readHex?_toDigits n

/-- A group has hexadecimal digits only. -/
theorem group?_of_mem {cs : List Char} {c : Char} (stops : hexValue? c = none) (mem : c ∈ cs) :
    group? cs = none := by
  cases read : group? cs with
  | none => rfl
  | some n =>
      unfold group? readHex? at read
      split at read
      · split at read
        · cases read
        · have digit := isSome_of_readDigits read c mem
          rw [stops] at digit
          cases digit
      · cases read

/-- A dotted quad is no group. -/
theorem group?_of_dot {cs : List Char} (dot : '.' ∈ cs) : group? cs = none :=
  group?_of_mem rfl dot

/-- The characters of groups between colons. -/
def groupChars (gs : List Nat) : List Char := joinChars [':'] (gs.map (Nat.toDigits 16))

theorem toList_groupsText (gs : List Nat) : (groupsText gs).toList = groupChars gs := by
  simp [groupsText, groupChars, join, hex, Function.comp_def]

theorem groups?_toDigits {quadAllowed : Bool} {gs : List Nat} (small : ∀ g ∈ gs, g < 65536) :
    groups? quadAllowed (gs.map (Nat.toDigits 16)) = some gs := by
  induction gs with
  | nil => rfl
  | cons g rest ih =>
      have first := group?_toDigits (small g (.head _))
      have others := ih fun other mem => small other (.tail _ mem)
      cases rest with
      | nil => simp [groups?, first]
      | cons next rest =>
          simp only [List.map_cons] at others
          simp [groups?, first, others]

/-- The groups of one side are read back. -/
theorem side?_groupChars {quadAllowed : Bool} {gs : List Nat} (small : ∀ g ∈ gs, g < 65536) :
    side? quadAllowed (groupChars gs) = some gs := by
  unfold side? groupChars
  cases gs with
  | nil => rfl
  | cons g rest =>
      have pieces : splitChars ':' (joinChars [':'] ((g :: rest).map (Nat.toDigits 16))) =
          (g :: rest).map (Nat.toDigits 16) := by
        refine splitChars_joinChars (by simp) fun piece mem => ?_
        obtain ⟨n, -, rfl⟩ := List.mem_map.mp mem
        exact not_mem_hex rfl n
      have nonempty : joinChars [':'] ((g :: rest).map (Nat.toDigits 16)) ≠ [] := by
        cases rest <;> simp [joinChars]
      rw [if_neg (by simpa using nonempty), pieces]
      exact groups?_toDigits small

theorem splitGap_append {piece : List Char} (free : ':' ∉ piece) (rest : List Char) :
    splitGap (piece ++ rest) =
      (splitGap rest).map fun (before, after) => (piece ++ before, after) := by
  induction piece with
  | nil => simp
  | cons c piece ih =>
      rw [List.mem_cons, not_or] at free
      rw [List.cons_append, splitGap.eq_2 _ _ (by simp [Ne.symm free.1]), ih free.2]
      simp [Function.comp_def]

theorem groupChars_cons (g next : Nat) (gs : List Nat) :
    groupChars (g :: next :: gs) = Nat.toDigits 16 g ++ ':' :: groupChars (next :: gs) := by
  simp [groupChars, joinChars]

/-- Groups start with a digit. -/
theorem groupChars_ne_colon (g : Nat) (gs : List Nat) (rest : List Char) :
    groupChars (g :: gs) ≠ ':' :: rest := by
  obtain ⟨c, digits, first⟩ := List.exists_cons_of_ne_nil (Nat.toDigits_ne_nil (n := g) (b := 16))
  have digit : c ≠ ':' := fun same => not_mem_hex (c := ':') rfl g (by simp [first, same])
  cases gs with
  | nil => simp [groupChars, joinChars, first, digit]
  | cons next gs => simp [groupChars_cons, first, digit]

/-- Groups without a gap stand before the gap that follows. -/
theorem splitGap_groupChars (gs : List Nat) (rest : List Char) :
    splitGap (groupChars gs ++ rest) =
      (splitGap rest).map fun (before, after) => (groupChars gs ++ before, after) := by
  induction gs with
  | nil => simp [groupChars, joinChars]
  | cons g gs ih =>
      cases gs with
      | nil => exact splitGap_append (not_mem_hex rfl g) rest
      | cons next gs =>
          have single : ∀ after, groupChars (next :: gs) ++ rest ≠ ':' :: after := by
            intro after same
            obtain ⟨c, chars, first⟩ := List.exists_cons_of_ne_nil
              (show groupChars (next :: gs) ≠ [] by
                intro nothing
                cases gs <;> simp [groupChars, joinChars] at nothing)
            rw [first, List.cons_append, List.cons.injEq] at same
            exact groupChars_ne_colon next gs chars (by rw [first, same.1])
          rw [groupChars_cons, List.append_assoc, List.cons_append,
            splitGap_append (not_mem_hex rfl g), splitGap.eq_2 _ _ (fun after _ => single after), ih]
          simp [Function.comp_def]

theorem zeroRun_prefix (gs : List Nat) : List.replicate (zeroRun gs) 0 <+: gs := by
  induction gs with
  | nil => simp [zeroRun]
  | cons g rest ih =>
      cases g with
      | zero => simpa [zeroRun, List.replicate_succ] using ih
      | succ g => simp [zeroRun]

/-- Where the longest run is, there are that many zeros. -/
theorem longestZeroRun_prefix (first : Nat) (gs : List Nat) :
    (longestZeroRun first gs).2 = 0 ∨ ∃ n, (longestZeroRun first gs).1 = first + n ∧
      List.replicate (longestZeroRun first gs).2 0 <+: gs.drop n := by
  induction gs generalizing first with
  | nil => exact .inl rfl
  | cons g rest ih =>
      unfold longestZeroRun
      extract_lets here later
      split
      · exact .inr ⟨0, rfl, zeroRun_prefix (g :: rest)⟩
      · rcases ih (first + 1) with nothing | ⟨n, start, run⟩
        · exact .inl nothing
        · exact .inr ⟨n + 1, by simp only [later, start]; omega, run⟩

/-- The groups around the longest run, with the zeros between them. -/
theorem fill_longestZeroRun (gs : List Nat) :
    gs.take (longestZeroRun 0 gs).1 ++ List.replicate (longestZeroRun 0 gs).2 0 ++
      gs.drop ((longestZeroRun 0 gs).1 + (longestZeroRun 0 gs).2) = gs := by
  generalize found : longestZeroRun 0 gs = run
  have zeros := longestZeroRun_prefix 0 gs
  rw [found] at zeros
  rcases zeros with nothing | ⟨n, start, after, split⟩
  · simp [nothing]
  · rw [start, Nat.zero_add, ← List.drop_drop, ← split, List.drop_left' (by simp), List.append_assoc,
      split, List.take_append_drop]

theorem ofDigits_groups {value : Nat} (small : value < Nat.pow 2 128) :
    ofDigits 65536 (groups value) = value := by
  simp only [ofDigits, groups, List.range, List.range.loop, List.map, List.foldl, Nat.pow_eq] at small ⊢
  omega

theorem groups_lt (value : Nat) : ∀ g ∈ groups value, g < 65536 := by
  intro g mem
  obtain ⟨i, -, rfl⟩ := List.mem_map.mp mem
  exact Nat.mod_lt _ (by decide)

theorem length_groups (value : Nat) : (groups value).length = 8 := by simp [groups]

theorem v6Groups?_groupChars (value : Nat) :
    v6Groups? (groupChars (groups value)) = some (groups value) := by
  have gapless : splitGap (groupChars (groups value)) = none := by
    simpa [splitGap] using splitGap_groupChars (groups value) []
  unfold v6Groups?
  rw [gapless]
  simp [side?_groupChars (groups_lt value), length_groups]

/-- A gap is filled with zeros, of which there has to be one. -/
theorem v6Groups?_gap {after : List Nat} {cs : List Char} (before : List Nat) (n : Nat)
    (small : ∀ g ∈ before, g < 65536) (reads : side? true cs = some after)
    (count : before.length + n + after.length = 8) (positive : 0 < n) :
    v6Groups? (groupChars before ++ ':' :: ':' :: cs) =
      some (before ++ List.replicate n 0 ++ after) := by
  have gap : splitGap (groupChars before ++ ':' :: ':' :: cs) = some (groupChars before, cs) := by
    simpa [splitGap] using splitGap_groupChars before (':' :: ':' :: cs)
  have left : 8 - (before.length + after.length) = n := by omega
  unfold v6Groups?
  rw [gap]
  simp [side?_groupChars small, reads, left]
  omega

/-- An embedded IPv4 address is read as two groups. -/
theorem side?_embedded (value : Nat) : side? true ("ffff:".toList ++ (quadText value).toList) =
    some [65535, value % Nat.pow 2 32 / 65536, value % Nat.pow 2 32 % 65536] := by
  have noColon : ':' ∉ (quadText value).toList := not_mem_quadText rfl (by decide)
  have pieces : splitChars ':' ("ffff:".toList ++ (quadText value).toList) =
      ["ffff".toList, (quadText value).toList] := by
    have last := splitChars_of_not_mem noColon
    have lead : ':' ∉ "ffff".toList := by decide
    have both := splitChars_append lead (quadText value).toList
    rw [last] at both
    exact both
  have dotted : '.' ∈ (quadText value).toList := by
    rw [toList_quadText]
    simp [octets, joinChars]
  unfold side?
  rw [if_neg (by simp), pieces]
  have first : group? ['f', 'f', 'f', 'f'] = some 65535 := by decide
  simp [groups?, first, group?_of_dot dotted, quad?_quadText]

theorem v6Groups?_v6Text {value : Nat} (small : value < Nat.pow 2 128) :
    (v6Groups? (v6Text value).toList).map (ofDigits 65536) = some value := by
  unfold v6Text
  split
  · next embedded =>
      have read := v6Groups?_gap [] 5 (by simp) (side?_embedded (value % Nat.pow 2 32))
        rfl (by decide)
      have text : ("::ffff:" ++ quadText (value % Nat.pow 2 32)).toList = groupChars [] ++
          ':' :: ':' :: ("ffff:".toList ++ (quadText (value % Nat.pow 2 32)).toList) := by
        simp [groupChars, joinChars]
      rw [text, read]
      simp only [Option.map_some, List.nil_append, ofDigits, List.replicate, List.cons_append,
        List.foldl, Nat.pow_eq, Option.some.injEq] at embedded ⊢
      omega
  · extract_lets gs
    have whole := ofDigits_groups small
    split
    next start length run =>
    split
    · next long =>
        have filled := fill_longestZeroRun gs
        rw [run] at filled
        simp only at filled
        have total := congrArg List.length filled
        simp only [List.length_append, List.length_replicate, gs, length_groups] at total
        have read := v6Groups?_gap (gs.take start) length
          (fun g mem => groups_lt value g (List.mem_of_mem_take mem))
          (side?_groupChars fun g mem => groups_lt value g (List.mem_of_mem_drop mem)) total (by omega)
        rw [filled] at read
        have text : (groupsText (gs.take start) ++ "::" ++ groupsText (gs.drop (start + length))).toList =
            groupChars (gs.take start) ++ ':' :: ':' :: groupChars (gs.drop (start + length)) := by
          simp [toList_groupsText]
        rw [text, read]
        exact congrArg some whole
    · rw [toList_groupsText, v6Groups?_groupChars]
      exact congrArg some whole

/-- A text of IPv6 has a colon. -/
theorem colon_mem_v6Text (value : Nat) : ':' ∈ (v6Text value).toList := by
  unfold v6Text
  split
  · simp
  · extract_lets gs
    split
    split
    · simp
    · rw [toList_groupsText]
      simp [gs, groups, List.range, List.range.loop, groupChars_cons]

/-- The text of an address is read as the address. -/
theorem ofText?_toText (a : Address) : ofText? a.toText = some a := by
  obtain ⟨family, value, small⟩ := a
  unfold ofText? ofChars? toText
  cases family with
  | v4 =>
      have reads : v4OfChars? (quadText value).toList = some ⟨.v4, value, small⟩ := by
        have fits : value % Nat.pow 2 32 = value := Nat.mod_eq_of_lt small
        simp only [v4OfChars?, quad?_quadText, fits, Option.map_some]
        exact congrArg some (ofValue_value ⟨.v4, value, small⟩)
      simp only [reads]
  | v6 =>
      have noQuad : v4OfChars? (v6Text value).toList = none := by
        simp [v4OfChars?, quad?_of_colon (colon_mem_v6Text value)]
      obtain ⟨gs, read, whole⟩ := Option.map_eq_some_iff.mp (v6Groups?_v6Text small)
      simp only [noQuad, v6OfChars?, read, Option.map_some, whole]
      exact congrArg some (ofValue_value ⟨.v6, value, small⟩)

end Net.Address

end MachineProvisioning
