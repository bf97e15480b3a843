import MachineProvisioning.Maas.Diagnosis
import MachineProvisioning.Proofs.Text.Clue

/-! # What a refusal depends on

The status of a refused request decides alone or leaves the verdict to the text. The text is then read
the same way under every such status and in any case of its letters, so that a kind that the text
gives away is the same for all of them.
-/

namespace MachineProvisioning.Maas

open Text

namespace Error

/-- What is decided on: an error without its texts. -/
inductive Kind where
  | transport
  | api
  | authentication
  | notFound
  | invalidRequest
  | hostnameInUse
  | networkMismatch
  | insufficientResources
  | brokenMachine
  | invalidState
  | hostResource (resource : HostResource)
  deriving Repr, DecidableEq

def kind : Error → Kind
  | .transport => .transport
  | .api _ => .api
  | .authentication _ => .authentication
  | .notFound _ => .notFound
  | .invalidRequest _ => .invalidRequest
  | .hostnameInUse _ => .hostnameInUse
  | .networkMismatch _ => .networkMismatch
  | .insufficientResources _ => .insufficientResources
  | .brokenMachine _ _ _ => .brokenMachine
  | .invalidState _ => .invalidState
  | .hostResource resource _ => .hostResource resource

namespace Kind

/-- The kind of a refusal whose text gives nothing away. -/
def ofStatus (status : Nat) : Kind :=
  if status = 400 then .invalidRequest else if status = 409 then .invalidState else .api

/-- The kind says more than a status that leaves the verdict to the text. -/
def IsTold (kind : Kind) : Prop :=
  kind ≠ .invalidRequest ∧ kind ≠ .invalidState ∧ kind ≠ .api

instance (kind : Kind) : Decidable kind.IsTold := inferInstanceAs (Decidable (_ ∧ _))

theorem not_isTold_ofStatus (status : Nat) : ¬(ofStatus status).IsTold := by
  unfold ofStatus
  split
  · exact fun told => told.1 rfl
  · split
    · exact fun told => told.2.1 rfl
    · exact fun told => told.2.2 rfl

end Kind

/-- What an error tells apart from its message. The system id is in lower case. -/
structure Gist where
  kind : Kind
  systemId : Option String := none
  hostId : Option String := none
  deriving Repr, DecidableEq

def gist : Error → Gist
  | .brokenMachine systemId hostId _ => ⟨.brokenMachine, systemId.map lowerAscii, hostId⟩
  | error => { kind := error.kind }

theorem kind_gist (error : Error) : error.gist.kind = error.kind := by
  cases error <;> rfl

end Error

namespace Diagnosis

open Place (lower)

@[simp] theorem isIdChar_toLower (c : Char) : isIdChar c.toLower = isIdChar c := by
  simp [isIdChar]

theorem sixIdChars_lower (p : Place) :
    sixIdChars p.lower = (sixIdChars p).map (Prod.map (List.map Char.toLower) lower) := by
  unfold sixIdChars
  simp only [Place.rest_lower, ← List.map_take, ← List.map_drop, List.length_map, List.all_map,
    Function.comp_def, isIdChar_toLower, List.getLast?_map]
  split <;> rfl

theorem afterQuote_of_ne {before : Option Char} {c : Char} {rest : List Char} (single : c ≠ '\'')
    (double : c ≠ '"') : afterQuote ⟨before, c :: rest⟩ = ⟨before, c :: rest⟩ := by
  unfold afterQuote
  split
  · next same => exact absurd (List.cons.inj same).1 single
  · next same => exact absurd (List.cons.inj same).1 double
  · rfl

theorem afterQuote_lower (p : Place) : afterQuote p.lower = (afterQuote p).lower := by
  obtain ⟨before, rest⟩ := p
  cases rest with
  | nil => rfl
  | cons c rest =>
      by_cases single : c = '\''
      · subst single
        rfl
      · by_cases double : c = '"'
        · subst double
          rfl
        · rw [afterQuote_of_ne single double]
          exact afterQuote_of_ne (mt (toLower_eq_iff rfl).mp single)
            (mt (toLower_eq_iff rfl).mp double)

/-- The place after the first of several words that stands there. -/
theorem findSome?_afterWord_lower (words : List String) (p : Place) :
    (words.findSome? fun word => p.lower.afterWord word.toList) =
      (words.findSome? fun word => p.afterWord word.toList).map lower := by
  simp only [Place.afterWord_lower, List.map_findSome?, Function.comp_def]

theorem idInField_lower (p : Place) :
    idInField p.lower = (idInField p).map (Prod.map (List.map Char.toLower) lower) := by
  simp [idInField, Place.afterWord_lower, sixIdChars_lower, Option.map_bind, Option.bind_map,
    Function.comp_def]

theorem idAfterMachine_lower (p : Place) :
    idAfterMachine p.lower = (idAfterMachine p).map (Prod.map (List.map Char.toLower) lower) := by
  unfold idAfterMachine
  simp only [findSome?_afterWord_lower, Place.isBoundary_lower, Place.afterSomeBlanks_lower,
    afterQuote_lower, sixIdChars_lower, Option.bind_eq_bind, Option.bind_map, Option.map_bind,
    Function.comp_def, apply_ite (Option.map _), Prod.map, Option.bind_none, Option.map_none,
    Option.map_some]

theorem idAt_lower (p : Place) :
    idAt p.lower = (idAt p).map (Prod.map (List.map Char.toLower) id) := by
  simp only [idAt, idInField_lower, idAfterMachine_lower, ← Option.map_or, Option.bind_eq_bind,
    Option.bind_map, Option.map_bind]
  refine congrArg (Option.bind _) (funext fun found => ?_)
  simp

theorem idCandidates_lower (skip : Nat) (before : Option Char) (text : List Char) :
    idCandidates skip (before.map Char.toLower) (text.map Char.toLower) =
      (idCandidates skip before text).map (List.map Char.toLower) := by
  induction text generalizing skip before with
  | nil => rfl
  | cons c rest ih =>
      cases skip with
      | succ skip => exact ih skip (some c)
      | zero =>
          have here := idAt_lower ⟨before, c :: rest⟩
          simp only [idCandidates, List.map_cons]
          rw [show idAt ⟨before.map Char.toLower, c.toLower :: rest.map Char.toLower⟩ = _ from here]
          cases idAt ⟨before, c :: rest⟩ with
          | none => exact ih 0 (some c)
          | some found => exact congrArg (_ :: ·) (ih (found.2 - 1) (some c))

theorem systemIdIn_lower (body : List Char) :
    systemIdIn (body.map Char.toLower) = (systemIdIn body).map lowerAscii := by
  have candidates := idCandidates_lower 0 none body
  unfold systemIdIn
  rw [show idCandidates 0 none (body.map Char.toLower) = _ from candidates, List.find?_map]
  simp only [Option.map_map, Function.comp_def, List.any_map, isDigit_toLower]
  refine congrArg (Option.map · _) (funext fun token => ?_)
  simp [lowerAscii]

/-- The digits that a text starts with. -/
theorem takeWhile_isDecimalDigit_lower (text : List Char) :
    (text.map Char.toLower).takeWhile isDecimalDigit = text.takeWhile isDecimalDigit := by
  induction text with
  | nil => rfl
  | cons c rest ih =>
      simp only [List.map_cons, List.takeWhile_cons, isDecimalDigit_toLower, ih]
      split
      · next digit => rw [toLower_of_isDecimalDigit digit]
      · rfl

theorem afterMark_lower (p : Place) :
    ((p.lower.afterWord "id".toList).bind Place.afterSomeBlanks).getD p.lower =
      (((p.afterWord "id".toList).bind Place.afterSomeBlanks).getD p).lower := by
  rw [Place.afterWord_lower]
  cases p.afterWord "id".toList with
  | none => rfl
  | some q =>
      simp only [Option.map_some, Option.bind_some, Place.afterSomeBlanks_lower]
      cases q.afterSomeBlanks <;> rfl

theorem hostIdAt_lower (p : Place) : hostIdAt p.lower = hostIdAt p := by
  unfold hostIdAt
  simp only [findSome?_afterWord_lower, Place.isBoundary_lower, Place.afterSomeBlanks_lower,
    afterMark_lower, takeWhile_isDecimalDigit_lower, isWordAt_map_toLower, Place.rest_lower,
    ← List.map_drop, List.head?_map, Option.bind_eq_bind, Option.bind_map, Function.comp_def]

theorem hostIdIn_lower (before : Option Char) (text : List Char) :
    hostIdIn (before.map Char.toLower) (text.map Char.toLower) = hostIdIn before text := by
  induction text generalizing before with
  | nil => rfl
  | cons c rest ih => exact congrArg₂ Option.or (hostIdAt_lower ⟨before, c :: rest⟩) (ih (some c))

theorem shows_lower (clues : List Clue) (body : List Char) :
    shows clues (body.map Char.toLower) = shows clues body := by
  simp only [shows, Clue.isIn_lower]

/-- The status leaves the verdict to the text. -/
def DefersToText (status : Nat) : Prop := status ≠ 401 ∧ status ≠ 403 ∧ status ≠ 404

instance (status : Nat) : Decidable (DefersToText status) := inferInstanceAs (Decidable (_ ∧ _))

@[simp] theorem lowerAscii_lowerAscii (s : String) : lowerAscii (lowerAscii s) = lowerAscii s := by
  simp [lowerAscii, Function.comp_def, toLower_toLower]

/-- What a text tells is told in any case, and any message may go with it. -/
theorem gist_ofBody_lower (body : List Char) (message message' : String) :
    (ofBody (body.map Char.toLower) message').map Error.gist =
      (ofBody body message).map Error.gist := by
  have host : hostIdIn none (body.map Char.toLower) = hostIdIn none body := hostIdIn_lower none body
  simp only [ofBody, shows_lower, systemIdIn_lower, host, apply_ite (Option.map Error.gist),
    Option.map_some, Error.gist, Option.map_map, Function.comp_def, lowerAscii_lowerAscii,
    Error.kind, Option.map_none]

theorem gist_ofBody_congr {body body' : List Char}
    (same : body'.map Char.toLower = body.map Char.toLower) (message message' : String) :
    (ofBody body' message').map Error.gist = (ofBody body message).map Error.gist := by
  rw [← gist_ofBody_lower body' message' message', same, gist_ofBody_lower]

/-- A text never tells what only a status says. -/
theorem isTold_of_ofBody {body : List Char} {message : String} {error : Error}
    (told : ofBody body message = some error) : error.kind.IsTold := by
  unfold ofBody at told
  have kinds : ∀ kind ∈ [Error.Kind.brokenMachine, .hostnameInUse, .hostResource .profile,
      .hostResource .project, .hostResource .storage, .networkMismatch, .insufficientResources],
      kind.IsTold := by decide
  refine kinds _ ?_
  repeat' split at told
  all_goals cases told
  all_goals simp [Error.kind]

/-- What is told by a text, with any message. -/
def toldBy (body : String) : Option Error.Gist := (ofBody body.toList "").map Error.gist

theorem toldBy_congr {body body' : String} (same : eqIgnoringAsciiCase body body' = true) :
    toldBy body' = toldBy body := by
  have texts := congrArg String.toList (eq_of_beq same)
  exact gist_ofBody_congr (by simpa using texts.symm) "" ""

theorem isTold_of_toldBy {body : String} {gist : Error.Gist} (told : toldBy body = some gist) :
    gist.kind.IsTold := by
  obtain ⟨error, found, rfl⟩ := Option.map_eq_some_iff.mp told
  rw [Error.kind_gist]
  exact isTold_of_ofBody found

variable {status : Nat}

/-- Where the status defers, the text tells, and the status is the last resort. -/
theorem gist_classify (defers : DefersToText status) (body context : String) :
    (classify status body context).gist = (toldBy body).getD { kind := .ofStatus status } := by
  obtain ⟨unauthorised, forbidden, missing⟩ := defers
  unfold classify
  extract_lets message
  have told : toldBy body = (ofBody body.toList message).map Error.gist :=
    gist_ofBody_congr rfl message ""
  rw [if_neg (by simp [unauthorised, forbidden]), if_neg missing, told]
  cases ofBody body.toList message with
  | some error => rfl
  | none =>
      simp only [Option.getD_none, Option.map_none, Error.Kind.ofStatus]
      repeat' split
      all_goals rfl

theorem kind_classify (defers : DefersToText status) (body context : String) :
    (classify status body context).kind =
      ((toldBy body).map (·.kind)).getD (.ofStatus status) := by
  rw [← Error.kind_gist, gist_classify defers]
  cases toldBy body <;> rfl

theorem isTold_classify_iff (defers : DefersToText status) (body context : String) :
    (classify status body context).kind.IsTold ↔ ∃ gist, toldBy body = some gist := by
  rw [kind_classify defers]
  cases told : toldBy body with
  | some gist => simpa using isTold_of_toldBy told
  | none => simpa using Error.Kind.not_isTold_ofStatus status

theorem kind_classify_of_refused (refused : ¬DefersToText status) (body context : String) :
    (classify status body context).kind =
      if status = 404 then .notFound else .authentication := by
  unfold classify
  by_cases missing : status = 404
  · subst missing
    rfl
  · have denied : status = 401 ∨ status = 403 := by
      unfold DefersToText at refused
      omega
    rw [if_pos denied, if_neg missing]
    rfl

/-- The kind of an error depends on the status and on the clues of the text, never on the context or
    on the case of letters. A wrong key and a missing object are told by the status whatever the text.
    Under any other status the text tells the same kind, VM host and system id, up to case, if it tells
    anything, and otherwise the status says what is left. -/
theorem classify_depends_on_status_and_clues (status : Nat) (body context : String) :
    (∀ context', (classify status body context').kind = (classify status body context).kind) ∧
    (status = 401 ∨ status = 403 → (classify status body context).kind = .authentication) ∧
    (status = 404 → (classify status body context).kind = .notFound) ∧
    (DefersToText status → ∀ body' context', eqIgnoringAsciiCase body body' = true →
      (classify status body' context').kind = (classify status body context).kind ∧
      ∀ status', DefersToText status' →
        if (classify status body context).kind.IsTold then
          (classify status' body' context').gist = (classify status body context).gist
        else (classify status' body' context').kind = .ofStatus status') := by
  refine ⟨fun context' => ?_, fun denied => ?_, fun missing => ?_, ?_⟩
  · by_cases defers : DefersToText status
    · rw [kind_classify defers, kind_classify defers]
    · rw [kind_classify_of_refused defers, kind_classify_of_refused defers]
  · rw [kind_classify_of_refused (by unfold DefersToText; omega), if_neg (by omega)]
  · rw [kind_classify_of_refused (by unfold DefersToText; omega), if_pos missing]
  · intro defers body' context' same
    have told := toldBy_congr same
    refine ⟨by rw [kind_classify defers, kind_classify defers, told], fun status' defers' => ?_⟩
    split
    · next tells =>
        obtain ⟨gist, found⟩ := (isTold_classify_iff defers body context).mp tells
        rw [gist_classify defers', gist_classify defers, told, found]
        rfl
    · next silent =>
        have nothing : toldBy body = none := by
          rw [isTold_classify_iff defers] at silent
          exact Option.eq_none_iff_forall_ne_some.mpr fun gist found => silent ⟨gist, found⟩
        rw [kind_classify defers', told, nothing]
        rfl

/-- A refusal with a conflict and one without a known status name the same broken machine. -/
theorem classify_depends_on_status_and_clues_broken :
    let body := "machine k3x9pq on VM host 7 is broken"
    let loud := "MACHINE K3X9PQ ON VM HOST 7 IS BROKEN"
    (classify 409 body "deploy").gist = ⟨.brokenMachine, some "k3x9pq", some "7"⟩ ∧
      (classify 503 loud "allocate").gist = (classify 409 body "deploy").gist ∧
      (classify 400 "bad field" "deploy").kind = .invalidRequest ∧
      (classify 500 "Bad Field" "deploy").kind = .api := by
  intro body loud
  have quiet : (classify 409 body "deploy").gist = ⟨.brokenMachine, some "k3x9pq", some "7"⟩ := by
    decide +kernel
  have told : (classify 409 body "deploy").kind.IsTold := by
    rw [← Error.kind_gist, quiet]
    decide
  have silent : ¬(classify 400 "bad field" "deploy").kind.IsTold := by decide +kernel
  have shouted := ((classify_depends_on_status_and_clues 409 body "deploy").2.2.2 (by decide) loud
    "allocate" (by decide +kernel)).2 503 (by decide)
  have other := ((classify_depends_on_status_and_clues 400 "bad field" "deploy").2.2.2 (by decide)
    "Bad Field" "deploy" (by decide +kernel)).2 500 (by decide)
  rw [if_pos told] at shouted
  rw [if_neg silent] at other
  exact ⟨quiet, shouted, by decide +kernel, other⟩

end Diagnosis

end MachineProvisioning.Maas
