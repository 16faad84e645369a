import TeechatOpenapi.Core.Api

/-!
# Signed authorizations and revocations (`openapi-core/src/authz.rs`, `key_format.rs`)

What L0 signs, with the octets that its signature covers, and the key a client presents.
-/

namespace TeechatOpenapi.Core

open Lib

/-- A key that a client presents, cut into its parts. -/
structure ParsedApiKey where
  keyId : Str
  secret : Str
  fullKey : Str
  deriving DecidableEq

def isAsciiAlphanumeric (c : Char) : Bool :=
  isAsciiDigit c || ('a' ≤ c && c ≤ 'z') || ('A' ≤ c && c ≤ 'Z')

/-- The rest of a text after a start it has. -/
def afterStart (s start : Str) : Option Str := if start.isPrefixOf s then some (s.drop start.length) else none

lemma afterStart_append (start rest : Str) : afterStart (start ++ rest) start = some rest := by
  rw [afterStart, if_pos (List.isPrefixOf_iff_prefix.mpr (List.prefix_append start rest)), List.drop_left]

def isValidKeyId (keyId : Str) : Bool :=
  match afterStart keyId "tcak_" with
  | some suffix => (utf8 suffix).length = 8 ∧ suffix.all isAsciiAlphanumeric
  | none => false

def parseApiKey (raw : Str) : Option ParsedApiKey := do
  let token := trim raw
  let rest ← afterStart token "sk-teechat-"
  let keyId ← beforeLast rest '.'
  let secret := rest.drop (keyId.length + 1)
  guard (keyId ≠ [])
  guard (isValidKeyId keyId ∧ 32 ≤ (utf8 secret).length)
  guard (secret.all fun c => isAsciiAlphanumeric c || c = '_' || c = '-')
  return ⟨keyId, secret, token⟩

/-- What a key may do. -/
structure OpenApiKeyPolicy where
  models : List Str
  rpm : Nat
  keySet : Str
  remainingTokens : Option Nat
  maxInFlight : Option Nat
  maxContextTokens : Option Nat
  deriving DecidableEq

def OpenApiKeyPolicy.unrestricted : OpenApiKeyPolicy := ⟨["*"], 0, "api", none, none, none⟩

def OpenApiKeyPolicy.allowsModel (policy : OpenApiKeyPolicy) (model : Str) : Bool :=
  policy.models.any fun entry => entry = "*" ∨ entry = model

def OpenApiKeyPolicy.effectiveRpm (policy : OpenApiKeyPolicy) (globalRpm : Nat) : Nat :=
  match globalRpm, policy.rpm with
  | 0, 0 => 0
  | 0, rpm => rpm
  | global, 0 => global
  | global, rpm => min global rpm

def numberTree (n : Nat) : Json := .number (.posInt n)

/-- The derived `Serialize` of `OpenApiKeyPolicy`: a default key set and absent limits are left out. -/
def OpenApiKeyPolicy.tree (policy : OpenApiKeyPolicy) : Json :=
  let limit (name : Str) (n : Option Nat) : List (Str × Json) := (n.map fun n => (name, numberTree n)).toList
  let always : List (Str × Json) := [("models", .array (policy.models.map .string)), ("rpm", numberTree policy.rpm)]
  let keySet : List (Str × Json) :=
    if policy.keySet = [] ∨ policy.keySet = "api" then [] else [("key_set", .string policy.keySet)]
  .object (always ++ keySet ++
    limit "remaining_tokens" policy.remainingTokens ++ limit "max_in_flight" policy.maxInFlight ++
    limit "max_context_tokens" policy.maxContextTokens)

/-- L0's word that a key may be used, how and until when. -/
structure SignedAuthz where
  authzVersion : Nat
  keyId : Str
  keyHashHex : Str
  accountId : Str
  policy : OpenApiKeyPolicy
  expMs : Nat
  epoch : Nat
  signatureHex : Str
  deriving DecidableEq

/-- L0's word that a key is revoked. -/
structure SignedRevocation where
  revokeVersion : Nat
  keyId : Str
  revokedAtMs : Nat
  epoch : Nat
  signatureHex : Str
  deriving DecidableEq

section Signatures

variable (X : Crates)

def hashApiKey (apiKey : Str) : Str := X.hex.encode (X.sha2.sha256 (utf8 apiKey))

def verifyFamilyB (payload : Bytes) (signatureHex : Str) (verifyKey : Bytes) : Except ApiError Unit := do
  let sigBytes ← mapErr (fun e => ApiError.internal ("invalid signature hex: ".toList ++ e)) (X.hex.decode signatureHex)
  let signature ← mapErr (fun e => ApiError.internal ("invalid signature: ".toList ++ e))
    (X.ed25519.signatureFromSlice sigBytes)
  failIf (¬ X.ed25519.verify verifyKey payload signature) (ApiError.internal "family B signature invalid")

def SignedAuthz.unsignedBytes (a : SignedAuthz) : Bytes :=
  utf8 (X.json.structText (.object [("authz_version", numberTree a.authzVersion), ("key_id", .string a.keyId),
    ("key_hash_hex", .string a.keyHashHex), ("account_id", .string a.accountId), ("policy", a.policy.tree),
    ("exp_ms", numberTree a.expMs), ("epoch", numberTree a.epoch)]))

def SignedAuthz.verifySignature (a : SignedAuthz) (verifyKey : Bytes) : Except ApiError Unit :=
  verifyFamilyB X (a.unsignedBytes X) a.signatureHex verifyKey

def SignedRevocation.unsignedBytes (r : SignedRevocation) : Bytes :=
  utf8 (X.json.structText (.object [("revoke_version", numberTree r.revokeVersion), ("key_id", .string r.keyId),
    ("revoked_at_ms", numberTree r.revokedAtMs), ("epoch", numberTree r.epoch)]))

def SignedRevocation.verifySignature (r : SignedRevocation) (verifyKey : Bytes) : Except ApiError Unit :=
  verifyFamilyB X (r.unsignedBytes X) r.signatureHex verifyKey

end Signatures

end TeechatOpenapi.Core
