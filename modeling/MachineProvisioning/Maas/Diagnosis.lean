import MachineProvisioning.Maas.Error
import MachineProvisioning.Text.Clue
import MachineProvisioning.Text.Digit
import MachineProvisioning.Text.Numeral

/-! # Reading a refusal

The status of a refused request decides first: a wrong key or a missing object says all there is to
know. Otherwise the text of the answer is searched for clues, and the first clue found names the
error. Of a broken machine the text may also name its system id and the number of its VM host.
-/

namespace MachineProvisioning.Maas.Diagnosis

open Text

/-- A machine and, after it on its line, the word for broken. -/
def brokenMachine : List Clue :=
  [.both ⟨["machine", "node", "vm"], true, true⟩ ⟨["broken"], true, true⟩]

/-- A hostname that exists or is in use. -/
def hostnameInUse : List Clue :=
  [.both ⟨["hostname"], false, true⟩ ⟨["already exists", "already in use"], true, false⟩,
    .both ⟨["already exists", "already in use"], false, true⟩ ⟨["hostname"], true, false⟩]

def profileMissing : List Clue :=
  [.both ⟨["profile"], true, true⟩ ⟨["not found"], true, true⟩]

def projectMissing : List Clue :=
  [.both ⟨["project"], true, true⟩ ⟨["not found"], true, true⟩]

/-- A storage pool, or storage that is missing or invalid. -/
def storageUnusable : List Clue :=
  [.phrase ⟨["storage pool"], true, true⟩,
    .both ⟨["storage"], true, true⟩ ⟨["not found", "invalid"], true, true⟩]

/-- A network that cannot be found or attached. -/
def networkMismatch : List Clue :=
  [.both ⟨["unable to match", "unable to find"], false, true⟩
      ⟨["interface", "network", "subnet", "space"], true, false⟩,
    .both ⟨["network", "subnet", "space"], false, true⟩
      ⟨["not available", "not accessible", "not reachable"], true, false⟩]

/-- Nothing that matches, or not enough of something. -/
def insufficientResources : List Clue :=
  [.phrase ⟨["no machine with", "no machine matches", "no machine matching",
      "no available machine with", "no available machine matches",
      "no available machine matching"], false, false⟩,
    .phrase ⟨["insufficient"], false, false⟩,
    .phrase ⟨["not enough cores", "not enough memory", "not enough storage",
      "not enough resources", "not enough capacity"], false, false⟩]

def shows (clues : List Clue) (body : List Char) : Bool :=
  clues.any (·.isIn body)

/-- A character of a system id, of either case. -/
def isIdChar (c : Char) : Bool :=
  let f := foldCase c
  ('a' ≤ f && f ≤ 'z') || f.isDigit

/-- Six characters of a system id, and the place after them. -/
def sixIdChars (p : Place) : Option (List Char × Place) :=
  let token := p.rest.take 6
  if token.length = 6 ∧ token.all isIdChar then
    some (token, ⟨token.getLast?, p.rest.drop 6⟩)
  else none

/-- The place after a quote of either kind, if one stands here. -/
def afterQuote (p : Place) : Place :=
  match p.rest with
  | '\'' :: rest => ⟨some '\'', rest⟩
  | '"' :: rest => ⟨some '"', rest⟩
  | _ => p

/-- A system id in the field of that name. -/
def idInField (p : Place) : Option (List Char × Place) := do
  let p ← p.afterWord "\"system_id\"".toList
  let p ← p.afterBlanks.afterWord [':']
  let p ← p.afterBlanks.afterWord ['"']
  let (token, p) ← sixIdChars p
  let p ← p.afterWord ['"']
  some (token, p)

/-- A system id after the word for a machine, perhaps in quotes. -/
def idAfterMachine (p : Place) : Option (List Char × Place) := do
  if !p.isBoundary then none
  let p ← ["machine", "node", "vm"].findSome? fun word => p.afterWord word.toList
  let p ← p.afterSomeBlanks
  let (token, p) ← sixIdChars (afterQuote p)
  if p.isBoundary then some (token, p) else none

/-- What could be a system id at a place, and how much of the text says so. -/
def idAt (p : Place) : Option (List Char × Nat) := do
  let (token, after) ← (idInField p).or (idAfterMachine p)
  some (token, p.rest.length - after.rest.length)

/-- What could be system ids in a text, in order and without overlaps; the next `skip` characters
    belong to one that was found. -/
def idCandidates (skip : Nat) (before : Option Char) : List Char → List (List Char)
  | [] => []
  | c :: rest =>
      match skip with
      | skip + 1 => idCandidates skip (some c) rest
      | 0 =>
          match idAt ⟨before, c :: rest⟩ with
          | some (token, used) => token :: idCandidates (used - 1) (some c) rest
          | none => idCandidates 0 (some c) rest

/-- The first candidate with a digit. System ids always have one, and ordinary words have none. -/
def systemIdIn (body : List Char) : Option String :=
  ((idCandidates 0 none body).find? (·.any Char.isDigit)).map String.ofList

/-- The number of a VM host at a place. -/
def hostIdAt (p : Place) : Option String := do
  if !p.isBoundary then none
  let p ← ["vmhost", "vm host", "vm-host", "pod"].findSome? fun word => p.afterWord word.toList
  let p ← p.afterSomeBlanks
  let p := ((p.afterWord "id".toList).bind Place.afterSomeBlanks).getD p
  let number := p.rest.takeWhile isDecimalDigit
  let after := p.rest.drop number.length
  if number.isEmpty || isWordAt after.head? then none else some (String.ofList number)

/-- The number of the first VM host that a text names. -/
def hostIdIn (before : Option Char) : List Char → Option String
  | [] => none
  | c :: rest => (hostIdAt ⟨before, c :: rest⟩).or (hostIdIn (some c) rest)

/-- The error that a text tells about, by the first clues it shows. -/
def ofBody (body : List Char) (message : String) : Option Error :=
  if shows brokenMachine body then
    some (.brokenMachine (systemIdIn body) (hostIdIn none body) message)
  else if shows hostnameInUse body then some (.hostnameInUse message)
  else if shows profileMissing body then some (.hostResource .profile message)
  else if shows projectMissing body then some (.hostResource .project message)
  else if shows storageUnusable body then some (.hostResource .storage message)
  else if shows networkMismatch body then some (.networkMismatch message)
  else if shows insufficientResources body then some (.insufficientResources message)
  else none

/-- The error behind a refused request. The context names the operation. -/
def classify (status : Nat) (body context : String) : Error :=
  let message := context ++ ": " ++ decimal status ++ " - " ++ body
  if status = 401 ∨ status = 403 then .authentication message
  else if status = 404 then .notFound message
  else
    (ofBody body.toList message).getD <|
      if status = 400 then .invalidRequest message
      else if status = 409 then .invalidState message
      else .api message

end MachineProvisioning.Maas.Diagnosis
