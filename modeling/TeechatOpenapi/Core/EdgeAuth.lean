import TeechatOpenapi.Core.RemoteAuth

/-!
# Bearer authentication (`openapi-core/src/auth.rs`, `catalog.rs`)

An edge authenticates against a signed catalog of keys or against L0.
-/

namespace TeechatOpenapi.Core

open Lib

/-- A key of the catalog. -/
structure KeyRecord where
  keyId : Str
  keyHashHex : Str
  revoked : Bool

/-- The keys of an edge without L0. -/
structure SignedKeyCatalog where
  catalogVersion : Nat
  issuedAtMs : Nat
  keys : List KeyRecord
  signatureHex : Str

section Catalog

variable (X : Crates)

def KeyRecord.tree (k : KeyRecord) : Json :=
  .object [("key_id", .string k.keyId), ("key_hash_hex", .string k.keyHashHex), ("revoked", .bool k.revoked)]

def SignedKeyCatalog.unsignedBytes (c : SignedKeyCatalog) : Bytes :=
  utf8 (X.json.structText (.object [("catalog_version", numberTree c.catalogVersion),
    ("issued_at_ms", numberTree c.issuedAtMs), ("keys", .array (c.keys.map KeyRecord.tree))]))

def SignedKeyCatalog.verifySignature (c : SignedKeyCatalog) (verifyKey : Bytes) : Except ApiError Unit := do
  let sigBytes ← mapErr (fun e => ApiError.internal ("invalid signature hex: ".toList ++ e))
    (X.hex.decode c.signatureHex)
  let signature ← mapErr (fun e => ApiError.internal ("invalid signature: ".toList ++ e))
    (X.ed25519.signatureFromSlice sigBytes)
  failIf (¬ X.ed25519.verify verifyKey (c.unsignedBytes X) signature) (ApiError.internal "catalog signature invalid")

/-- `KeyCatalog`: made by `from_signed` only, so its signature holds. -/
structure KeyCatalog where
  catalog : SignedKeyCatalog
  verifyKey : Bytes
  verified : catalog.verifySignature X verifyKey = .ok ()

variable {X}

def KeyCatalog.lookupByApiKey (c : KeyCatalog X) (apiKey : Str) : Except ApiError KeyRecord :=
  okOr (c.catalog.keys.find? fun k => ¬ k.revoked ∧ utf8 k.keyHashHex = utf8 (hashApiKey X apiKey))
    ApiError.unauthorized

def KeyCatalog.authenticateBearer (c : KeyCatalog X) (authorization : Option Str) : Except ApiError AuthContext := do
  let header ← okOr authorization ApiError.unauthorized
  let token ← okOr (afterStart header "Bearer ") ApiError.unauthorized
  failIf (token = []) ApiError.unauthorized
  let record ← c.lookupByApiKey token
  return ⟨record.keyId, .unrestricted⟩

end Catalog

/-- Who authenticates keys: a catalog, or L0. -/
inductive EdgeAuthenticator (X : Crates) where
  | catalog (catalog : KeyCatalog X)
  | remote (authenticator : RemoteAuthenticator)

def EdgeAuthenticator.authenticateBearer {X : Crates} (A : EdgeAuthenticator X) (l0 : L0Answers)
    (authorization : Option Str) : Op Shared ApiError AuthContext :=
  match A with
  | .catalog c => Op.lift (c.authenticateBearer authorization)
  | .remote r => Core.authenticateBearer r l0 authorization

lemma authenticateBearer_of_parsed {A : RemoteAuthenticator} {l0 : L0Answers} {token : Str} {parsed : ParsedApiKey}
    (hne : token ≠ []) (hparse : parseApiKey token = some parsed) :
    authenticateBearer A l0 (some ("Bearer ".toList ++ token)) = authenticateParsed A l0 parsed := by
  funext s
  simp only [authenticateBearer, Op.bind_run, Op.lift_run, okOr, afterStart_append, failIf, hne, if_false, hparse]

end TeechatOpenapi.Core
