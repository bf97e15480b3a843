/-! # Case and digits of ASCII

Names of states, modes and settings are compared without regard to the case of the letters `A` to
`Z`. Every other character stands for itself.
-/

namespace MachineProvisioning.Text

/-- The text with `A` to `Z` in lower case and every other character kept. -/
def lowerAscii (s : String) : String :=
  String.ofList (s.toList.map Char.toLower)

/-- Equality up to the case of ASCII letters. -/
def eqIgnoringAsciiCase (s t : String) : Bool :=
  lowerAscii s == lowerAscii t

@[simp] theorem toList_lowerAscii (s : String) :
    (lowerAscii s).toList = s.toList.map Char.toLower := by
  simp [lowerAscii]

end MachineProvisioning.Text
