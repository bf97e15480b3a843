import MachineProvisioning.Text.Blank
import MachineProvisioning.Text.WordCharacter

/-! # Clues in free text

A clue is a phrase, or a phrase with another one after it on the same line. Letters match whatever
their case, and a phrase may have to start or end at a word boundary.
-/

namespace MachineProvisioning.Text

/-- The case-folded character: `ſ` is an `s` and the Kelvin sign is a `k`. -/
def foldCase (c : Char) : Char :=
  if c = '\u017f' then 's' else if c = '\u212a' then 'k' else c.toLower

/-- What stands before a place of a text, and the text from there on. -/
structure Place where
  before : Option Char
  rest : List Char

namespace Place

/-- A word starts or ends here. -/
def isBoundary (p : Place) : Bool := isWordBoundary p.before p.rest.head?

/-- The place after a lower-case word, if it stands here. -/
def afterWord : List Char → Place → Option Place
  | [], p => some p
  | w :: word, ⟨_, c :: rest⟩ => if foldCase c = w then afterWord word ⟨some c, rest⟩ else none
  | _ :: _, ⟨_, []⟩ => none

/-- The place after all characters of a class that stand here. -/
def afterAll (test : Char → Bool) (before : Option Char) : List Char → Place
  | [] => ⟨before, []⟩
  | c :: rest => if test c then afterAll test (some c) rest else ⟨before, c :: rest⟩

def afterBlanks (p : Place) : Place := afterAll isBlank p.before p.rest

/-- The place after at least one blank. -/
def afterSomeBlanks (p : Place) : Option Place :=
  match p.rest with
  | c :: rest => if isBlank c then some (afterAll isBlank (some c) rest) else none
  | [] => none

/-- A test holds here or at a later place. -/
def anywhere (test : Place → Bool) (before : Option Char) : List Char → Bool
  | [] => test ⟨before, []⟩
  | c :: rest => test ⟨before, c :: rest⟩ || anywhere test (some c) rest

/-- A test holds here or at a later place of the same line. -/
def onLine (test : Place → Bool) (before : Option Char) : List Char → Bool
  | [] => test ⟨before, []⟩
  | c :: rest => test ⟨before, c :: rest⟩ || (c != '\n' && onLine test (some c) rest)

end Place

/-- One of several wordings, in lower case. -/
structure Phrase where
  wordings : List String
  /-- A word has to start where the phrase starts. -/
  opens : Bool := false
  /-- A word has to end where the phrase ends. -/
  closes : Bool := false

/-- The places after the wordings that stand at a place. -/
def Phrase.ends (phrase : Phrase) (p : Place) : List Place :=
  if phrase.opens && !p.isBoundary then []
  else
    (phrase.wordings.filterMap fun wording => p.afterWord wording.toList).filter fun q =>
      !phrase.closes || q.isBoundary

/-- What a text can give away. -/
inductive Clue where
  | phrase (phrase : Phrase)
  /-- The second phrase follows the first on the same line. -/
  | both (first second : Phrase)

namespace Clue

/-- The clue stands at a place. -/
def isAt : Clue → Place → Bool
  | .phrase only, p => !(only.ends p).isEmpty
  | .both first second, p =>
      (first.ends p).any fun q =>
        Place.onLine (fun r => !(second.ends r).isEmpty) q.before q.rest

/-- The clue stands somewhere in a text. -/
def isIn (clue : Clue) (text : List Char) : Bool :=
  Place.anywhere clue.isAt none text

end Clue

end MachineProvisioning.Text
