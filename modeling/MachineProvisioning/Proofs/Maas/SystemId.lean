import MachineProvisioning.Proofs.Maas.Diagnosis
import MachineProvisioning.Proofs.Text.Reading

/-! # The system id in a refusal

A refusal names a broken machine in the field for its system id or after the word for a machine. What is
read as a system id stands there as a whole and has six characters, one of them a digit. They are
letters and digits of ASCII, but for two characters that are a `k` and an `s` in another case.
-/

namespace MachineProvisioning.Maas.Diagnosis

open Text

/-- The label, in some case, says that the token is a system id: it is the name of the field whose
    value the token is, or the word for a machine right before it. -/
inductive Names (fold : Char → Char) (text : List Char) : List Char → List Char → Prop where
  | field {before label gap gap' token after : List Char}
      (spelled : label.map fold = "\"system_id\"".toList)
      (blanks : ∀ c ∈ gap, isBlank c = true) (blanks' : ∀ c ∈ gap', isBlank c = true)
      (split : text =
        before ++ label ++ gap ++ [':'] ++ gap' ++ ['"'] ++ token ++ ['"'] ++ after) :
      Names fold text label token
  | word {before label gap quote token after : List Char}
      (spelled : label.map fold ∈ ["machine", "node", "vm"].map String.toList)
      (apart : gap ≠ []) (blanks : ∀ c ∈ gap, isBlank c = true)
      (quoted : quote ∈ [[], ['\''], ['"']])
      (split : text = before ++ label ++ gap ++ quote ++ token ++ after)
      (machine : IsWord before label (gap ++ quote ++ token ++ after))
      (whole : IsWord (before ++ label ++ gap ++ quote) token after) :
      Names fold text label token

/-- Six letters or digits of ASCII with a digit among them. -/
structure HasIdShape (token : List Char) : Prop where
  length : token.length = 6
  chars : ∀ c ∈ token, c.isAlphanum = true
  digit : ∃ c ∈ token, c.isDigit = true

/-- Six letters or digits, in some case. -/
structure CouldBeId (token : List Char) : Prop where
  length : token.length = 6
  chars : ∀ c ∈ token, isIdChar c = true

section

variable {p q : Place} {text read token : List Char}

theorem sixIdChars_follows (follows : p.Follows text read)
    (found : sixIdChars p = some (token, q)) :
    CouldBeId token ∧ q.Follows text (read ++ token) := by
  simp only [sixIdChars] at found
  split at found
  · next fits =>
      obtain ⟨rfl, rfl⟩ := Prod.mk.inj (Option.some.inj found)
      refine ⟨⟨fits.1, List.all_eq_true.mp fits.2⟩, ?_, ?_⟩
      · rw [List.append_assoc, List.take_append_drop]
        exact follows.split
      · exact (List.getLast?_append_of_ne_nil _ (List.ne_nil_of_length_pos (by omega))).symm
  · cases found

theorem afterQuote_follows (follows : p.Follows text read) :
    ∃ quote ∈ [[], ['\''], ['"']], (afterQuote p).Follows text (read ++ quote) := by
  obtain ⟨before, rest⟩ := p
  unfold afterQuote
  split
  · next single =>
      obtain rfl := single
      exact ⟨['\''], by simp, follows.step⟩
  · next double =>
      obtain rfl := double
      exact ⟨['"'], by simp, follows.step⟩
  · exact ⟨[], by simp, by simpa using follows⟩

/-- What is found in the field for it is named by the field. -/
theorem idInField_names (follows : p.Follows text read)
    (found : idInField p = some (token, q)) :
    CouldBeId token ∧ ∃ label, Names foldCase text label token := by
  simp only [idInField, Option.bind_eq_bind, Option.bind_eq_some_iff] at found
  obtain ⟨p₁, labelled, p₂, colon, p₃, opened, ⟨_, p₄⟩, six, p₅, closed, same⟩ := found
  obtain ⟨rfl, rfl⟩ := Prod.mk.inj (Option.some.inj same)
  obtain ⟨label, spelled, follows⟩ := follows.afterWord labelled
  obtain ⟨gap, blanks, follows⟩ := follows.afterBlanks
  replace follows := follows.afterMark (by decide) (by decide) colon
  obtain ⟨gap', blanks', follows⟩ := follows.afterBlanks
  replace follows := follows.afterMark (by decide) (by decide) opened
  obtain ⟨fits, follows⟩ := sixIdChars_follows follows six
  replace follows := follows.afterMark (by decide) (by decide) closed
  exact ⟨fits, label, .field spelled blanks blanks' follows.split⟩

theorem isAlphanum_foldCase {c : Char} (fits : isIdChar c = true) :
    (foldCase c).isAlphanum = true := by
  simp only [isIdChar, Bool.or_eq_true, Bool.and_eq_true, decide_eq_true_eq] at fits
  obtain letter | digit := fits
  · have alpha : (foldCase c).isAlpha = true := isAlpha_iff.mpr (.inr (isLower_iff.mpr letter))
    simp [Char.isAlphanum, alpha]
  · simp [Char.isAlphanum, digit]

theorem isWordChar_of_isIdChar {c : Char} (fits : isIdChar c = true) : isWordChar c = true :=
  isWordChar_of_foldCase (isAlphanum_foldCase fits)

theorem isWordChar_of_label {label : List Char}
    (spelled : label.map foldCase ∈ ["machine", "node", "vm"].map String.toList) :
    label ≠ [] ∧ ∀ c ∈ label, isWordChar c = true := by
  have words : ∀ word ∈ ["machine", "node", "vm"].map String.toList,
      word ≠ [] ∧ ∀ c ∈ word, c.isAlphanum = true := by simp
  obtain ⟨nonempty, letters⟩ := words _ spelled
  exact ⟨by simpa using nonempty, fun c mem =>
    isWordChar_of_foldCase (letters _ (List.mem_map_of_mem mem))⟩

theorem not_isWordChar_of_quoted {quote : List Char} (quoted : quote ∈ [[], ['\''], ['"']]) :
    ∀ c ∈ quote, isWordChar c = false := by
  have single : isWordChar '\'' = false := by decide +kernel
  have double : isWordChar '"' = false := by decide +kernel
  simp only [List.mem_cons, List.not_mem_nil, or_false] at quoted
  intro c mem
  obtain rfl | rfl | rfl := quoted
  · cases mem
  · rwa [List.mem_singleton.mp mem]
  · rwa [List.mem_singleton.mp mem]

/-- What is found after the word for a machine is named by the word. -/
theorem idAfterMachine_names (follows : p.Follows text read)
    (found : idAfterMachine p = some (token, q)) :
    CouldBeId token ∧ ∃ label, Names foldCase text label token := by
  unfold idAfterMachine at found
  split at found
  · cases found
  next starts =>
  simp only [Option.bind_eq_bind, Option.bind_eq_some_iff,
    Option.ite_none_right_eq_some] at found
  obtain ⟨p₁, labelled, p₂, apart, ⟨token', p₃⟩, six, ends, same⟩ := found
  cases same
  obtain ⟨word, listed, labelled⟩ := List.exists_of_findSome?_eq_some labelled
  obtain ⟨label, spelled, afterLabel⟩ := follows.afterWord labelled
  replace spelled : label.map foldCase ∈ ["machine", "node", "vm"].map String.toList :=
    List.mem_map.mpr ⟨word, listed, spelled.symm⟩
  obtain ⟨someLetters, letters⟩ := isWordChar_of_label spelled
  obtain ⟨gap, someGap, blanks, afterGap⟩ := afterLabel.afterSomeBlanks apart
  obtain ⟨quote, quoted, afterQuote⟩ := afterQuote_follows afterGap
  obtain ⟨fits, afterToken⟩ := sixIdChars_follows afterQuote six
  have gapChars : ∀ c ∈ gap, isWordChar c = false := fun c mem =>
    not_isWordChar_of_isBlank (blanks c mem)
  have someToken : token' ≠ [] := List.ne_nil_of_length_pos (by have := fits.length; omega)
  refine ⟨fits, label, .word spelled someGap blanks quoted afterToken.split
    ⟨letters, ?_, ?_⟩ ⟨fun c mem => isWordChar_of_isIdChar (fits.chars c mem), ?_, ?_⟩⟩
  · exact follows.opens_of_isBoundary afterLabel someLetters letters (by simpa using starts)
  · rw [List.append_assoc, List.append_assoc]
    exact isWordAt_head? someGap gapChars
  · rw [List.append_assoc]
    refine isWordAt_getLast? (by simp [someGap]) fun c mem => ?_
    obtain inGap | inQuote := List.mem_append.mp mem
    · exact gapChars c inGap
    · exact not_isWordChar_of_quoted quoted c inQuote
  · exact afterToken.closes_of_isBoundary someToken
      (fun c mem => isWordChar_of_isIdChar (fits.chars c mem)) ends

/-- What is found at a place is named there. -/
theorem idAt_names {used : Nat} (follows : p.Follows text read)
    (found : idAt p = some (token, used)) :
    CouldBeId token ∧ ∃ label, Names foldCase text label token := by
  simp only [idAt, Option.bind_eq_bind, Option.bind_eq_some_iff] at found
  obtain ⟨⟨_, q⟩, found, same⟩ := found
  obtain ⟨rfl, -⟩ := Prod.mk.inj (Option.some.inj same)
  obtain field | ⟨-, word⟩ := Option.or_eq_some_iff.mp found
  · exact idInField_names follows field
  · exact idAfterMachine_names follows word

theorem idCandidates_names {skip : Nat} {before : Option Char} {rest : List Char}
    (follows : Place.Follows ⟨before, rest⟩ text read)
    (found : token ∈ idCandidates skip before rest) :
    CouldBeId token ∧ ∃ label, Names foldCase text label token := by
  induction rest generalizing skip before read with
  | nil => simp [idCandidates] at found
  | cons c rest ih =>
      cases skip with
      | succ skip => exact ih follows.step found
      | zero =>
          simp only [idCandidates] at found
          split at found
          · next here =>
              obtain rfl | later := List.mem_cons.mp found
              · exact idAt_names follows here
              · exact ih follows.step later
          · exact ih follows.step found

end

theorem systemIdIn_names {body : List Char} {id : String} (found : systemIdIn body = some id) :
    CouldBeId id.toList ∧ (∃ c ∈ id.toList, c.isDigit = true) ∧
      ∃ label, Names foldCase body label id.toList := by
  obtain ⟨token, first, rfl⟩ := Option.map_eq_some_iff.mp found
  have start : Place.Follows ⟨none, body⟩ body [] := ⟨rfl, rfl⟩
  have names := idCandidates_names start (List.mem_of_find?_eq_some first)
  have digit := List.find?_some first
  rw [String.toList_ofList]
  exact ⟨names.1, List.any_eq_true.mp digit, names.2⟩

theorem Names.congr {fold fold' : Char → Char} {text label token : List Char}
    (names : Names fold text label token) (same : label.map fold' = label.map fold) :
    Names fold' text label token := by
  cases names with
  | field spelled blanks blanks' split => exact .field (same.trans spelled) blanks blanks' split
  | word spelled apart blanks quoted split machine whole =>
      exact .word (same ▸ spelled) apart blanks quoted split machine whole

theorem Names.mem_text {fold : Char → Char} {text label token : List Char}
    (names : Names fold text label token) : ∀ c ∈ label ++ token, c ∈ text := by
  intro c mem
  cases names with
  | field _ _ _ split | word _ _ _ _ split =>
      rw [split]
      simp only [List.mem_append] at mem ⊢
      tauto

/-- A label is a word of plain characters. -/
theorem Names.plain_label {fold : Char → Char} {text label token : List Char}
    (names : Names fold text label token) : ∀ c ∈ label, ¬IsFolded (fold c) := by
  have plain : ∀ word ∈ ["\"system_id\"", "machine", "node", "vm"].map String.toList,
      word.all (¬IsFolded ·) = true := by decide
  have listed : label.map fold ∈
      ["\"system_id\"", "machine", "node", "vm"].map String.toList := by
    cases names with
    | field spelled => exact List.mem_cons.mpr (.inl spelled)
    | word spelled => exact List.mem_cons_of_mem _ spelled
  intro c mem
  simpa using List.all_eq_true.mp (plain _ listed) _ (List.mem_map_of_mem mem)

theorem isAlphanum_of_isIdChar {c : Char} (fits : isIdChar c = true) (plain : ¬IsFolded c) :
    c.isAlphanum = true := by
  have lower := isAlphanum_foldCase fits
  rw [foldCase_of_not_isFolded plain] at lower
  obtain same | ⟨letter, -⟩ := toLower_eq_or_isAlpha c
  · rwa [same] at lower
  · simp [Char.isAlphanum, letter]

/-- A name is plain unless one of its characters is a letter only in another case. -/
theorem Names.plain_iff {text label token : List Char} (names : Names foldCase text label token)
    (fits : CouldBeId token) (digit : ∃ c ∈ token, c.isDigit = true) :
    Names Char.toLower text label token ∧ HasIdShape token ↔
      ∀ c ∈ label ++ token, ¬IsFolded c := by
  constructor
  · rintro ⟨plain, shape⟩ c mem folded
    obtain inLabel | inToken := List.mem_append.mp mem
    · refine plain.plain_label c inLabel ?_
      obtain rfl | rfl := folded
      · exact .inl rfl
      · exact .inr rfl
    · have alphanumeric := shape.chars c inToken
      obtain rfl | rfl := folded <;> cases alphanumeric
  · intro plain
    obtain ⟨inLabel, inToken⟩ := List.forall_mem_append.mp plain
    exact ⟨names.congr (List.map_congr_left fun c mem =>
        (foldCase_of_not_isFolded (inLabel c mem)).symm),
      fits.length, fun c mem => isAlphanum_of_isIdChar (fits.chars c mem) (inToken c mem), digit⟩

theorem systemIdIn_of_classify {status : Nat} {body context message : String}
    {systemId hostId : Option String}
    (broken : classify status body context = .brokenMachine systemId hostId message) :
    systemId = systemIdIn body.toList := by
  unfold classify ofBody at broken
  repeat' split at broken
  all_goals cases broken
  all_goals rfl

/-- The system id of a broken machine is named in the text: six letters or digits, with a digit among
    them, are the value of the field for it or the whole word after the word for a machine. Label and
    id are spelled with ASCII unless one of their characters is a letter only in another case. -/
theorem system_id_named {status : Nat} {body context message id : String} {hostId : Option String}
    (broken : classify status body context = .brokenMachine (some id) hostId message) :
    CouldBeId id.toList ∧ (∃ c ∈ id.toList, c.isDigit = true) ∧
      ∃ label, Names foldCase body.toList label id.toList ∧
        (Names Char.toLower body.toList label id.toList ∧ HasIdShape id.toList ↔
          ∀ c ∈ label ++ id.toList, ¬IsFolded c) := by
  have found := (systemIdIn_of_classify broken).symm
  obtain ⟨fits, digit, label, names⟩ := systemIdIn_names found
  exact ⟨fits, digit, label, names, names.plain_iff fits digit⟩

/-- A sentence in ASCII names a plain id. -/
theorem system_id_named_plainly :
    let body := "Node xyz789 transitioned to Broken during allocation"
    classify 409 body "allocate" =
        .brokenMachine (some "xyz789") none ("allocate: 409 - " ++ body) ∧
      ∃ label, Names Char.toLower body.toList label "xyz789".toList ∧
        HasIdShape "xyz789".toList := by
  intro body
  have broken : classify 409 body "allocate" =
      .brokenMachine (some "xyz789") none ("allocate: 409 - " ++ body) := by decide +kernel
  have plain : body.toList.all (¬IsFolded ·) = true := by decide +kernel
  obtain ⟨-, -, label, names, plainly⟩ := system_id_named broken
  refine ⟨broken, label, plainly.mpr fun c mem => ?_⟩
  simpa using List.all_eq_true.mp plain c (names.mem_text c mem)

/-- The Kelvin sign is read as a letter of an id. -/
theorem system_id_unshaped :
    let id := "abc\u212a12"
    let body := "machine abc\u212a12 is broken"
    classify 409 body "deploy" = .brokenMachine (some id) none ("deploy: 409 - " ++ body) ∧
      ¬HasIdShape id.toList := by
  refine ⟨by decide +kernel, fun shape => ?_⟩
  have kelvin := shape.chars '\u212a' (by decide)
  cases kelvin

end MachineProvisioning.Maas.Diagnosis
