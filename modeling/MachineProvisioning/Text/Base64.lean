import MachineProvisioning.Text.Utf8

/-! # Base64

The standard alphabet with padding, over the UTF-8 bytes of a text.
-/

namespace MachineProvisioning.Text

/-- The character of a six-bit group. -/
def base64Digit (n : Nat) : Char :=
  if n < 26 then Char.ofNat (n + 65)
  else if n < 52 then Char.ofNat (n + 71)
  else if n < 62 then Char.ofNat (n - 4)
  else if n = 62 then '+'
  else '/'

/-- Three bytes give four characters; a last group of one or two bytes is padded. -/
def base64Bytes : List Nat → List Char
  | [] => []
  | [a] => [base64Digit (a / 4), base64Digit (a % 4 * 16), '=', '=']
  | [a, b] => [base64Digit (a / 4), base64Digit (a % 4 * 16 + b / 16), base64Digit (b % 16 * 4), '=']
  | a :: b :: c :: rest =>
      base64Digit (a / 4) :: base64Digit (a % 4 * 16 + b / 16) ::
        base64Digit (b % 16 * 4 + c / 64) :: base64Digit (c % 64) :: base64Bytes rest

def base64 (s : String) : String :=
  String.ofList (base64Bytes (utf8 s.toList))

end MachineProvisioning.Text
