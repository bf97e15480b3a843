import MachineProvisioning.Maas.Error
import MachineProvisioning.Text.Blank
import MachineProvisioning.Text.Numeral
import MachineProvisioning.Text.Quoted
import MachineProvisioning.Text.Split

/-! # API keys

A key has three parts: consumer, token and secret. Every request is signed with the plain parts, a
fresh nonce and the time.
-/

namespace MachineProvisioning.Maas

open Text

structure ApiKey where
  consumer : String
  token : String
  secret : String
  deriving Repr, DecidableEq

namespace ApiKey

/-- A key as `consumer:token:secret`, of which no part is empty, with blanks around it. -/
def ofText (text : String) : Except Error ApiKey :=
  let malformed := .error (.authentication "API key must have the form consumer:token:secret")
  match split ':' (trim text) with
  | [consumer, token, secret] =>
      if consumer = "" ∨ token = "" ∨ secret = "" then malformed
      else .ok ⟨consumer, token, secret⟩
  | _ => malformed

/-- A description that keeps token and secret to itself. -/
def describe (key : ApiKey) : String :=
  "ApiKey \x7b consumer_key: " ++ quoted key.consumer ++
    ", token_key: \"<redacted>\", token_secret: \"<redacted>\" \x7d"

def authorization (key : ApiKey) (nonce seconds : String) : String :=
  "OAuth oauth_version=\"1.0\", oauth_signature_method=\"PLAINTEXT\", oauth_consumer_key=\"" ++
    key.consumer ++ "\", oauth_token=\"" ++ key.token ++ "\", oauth_signature=\"&" ++ key.secret ++
    "\", oauth_nonce=\"" ++ nonce ++ "\", oauth_timestamp=\"" ++ seconds ++ "\""

/-- A character that may stand in a header. -/
def isHeaderChar (c : Char) : Bool :=
  c == '\t' || (0x20 ≤ c.toNat && c.toNat ≠ 0x7F)

/-- The key can be sent in a header. -/
def isSendable (key : ApiKey) : Bool :=
  (key.consumer ++ key.token ++ key.secret).toList.all isHeaderChar

end ApiKey

end MachineProvisioning.Maas
