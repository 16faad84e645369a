import TeechatOpenapi.Cvm.Preassign

/-!
# Encryption of a request (`openapi-platform-cvm/src/ope_wrap.rs`)

The `ope_*` crates are a parameter (`Ope`): what the edge calls of them.
-/

namespace TeechatOpenapi.Cvm

open Lib Platform

/-- The public keys of an engine, as the `ope_*` crates take them. -/
structure EngineIdentity where
  engineId : Str
  kex : Str
  mlkemEncapsulationKey : Str
  x25519Public : Str
  ed25519Public : Str

/-- `ope_envelope::Envelope`; `details` is its field `meta`. -/
structure Envelope where
  opeVersion : Str
  alg : Str
  enc : Str
  kid : Str
  recipient : Str
  engineId : Option Str
  ts : Str
  nonce : Str
  payloadHash : Str
  payload : Option Json
  ciphertext : Option Str
  iv : Option Str
  aad : Option Str
  details : Option Json
  e2e : Option Json
  sig : Option Str

/-- The `ope_*` crates.  `signEnvelope` takes the seed of the key pair; `toVec` is `serde_json::to_vec`. -/
structure Ope where
  ClientSession : Type
  kexX25519Mlkem768 : Str
  devVector001Seed : Bytes
  encryptRequest : Envelope → EngineIdentity → Json → ClientSession → Except Str Envelope
  signEnvelope : Envelope → (seed : Bytes) → Except Str Envelope
  toVec : Envelope → Except Str Bytes
  decryptResponseChunk : Envelope → ClientSession → (serverShare : Str) → (seq : UInt32) → (ciphertext : Str) →
    Except Str Bytes

/-- The errors of sealing and opening. -/
inductive OpeWrapError where
  | ope (text : Str)
  | encode (text : Str)
  deriving DecidableEq

def OpeWrapError.display : OpeWrapError → Str
  | .ope text => "ope: ".toList ++ text
  | .encode text => "encode: ".toList ++ text

section Wrap

variable (X : Crates) (O : Ope)

def normalizeKex (kex : Str) : Str :=
  let t := trim kex
  if t = [] ∨ eqIgnoreAsciiCase t "mlkem768+x25519" ∨ eqIgnoreAsciiCase t "x25519+mlkem768" ∨
      eqIgnoreAsciiCase t "X25519MLKEM768" then O.kexX25519Mlkem768
  else t

def engineIdentityFromTrust (trust : PreassignTrust) : EngineIdentity where
  engineId := trust.engineId
  kex := normalizeKex O trust.hybrid.kex
  mlkemEncapsulationKey := trust.hybrid.mlkemEncapsulationKey
  x25519Public := trust.hybrid.x25519Public
  ed25519Public := trust.identity.ed25519Public

/-- A sealed request, and the session that opens its answer. -/
structure EncryptedOpeRequest where
  envelope : Envelope
  clientSession : O.ClientSession
  ephemeralEpoch : Str

/-- What an encryption draws from its host: the session of `ClientSession::generate`, the time, a random nonce. -/
structure WrapInputs where
  session : Except Str O.ClientSession
  ts : Str
  nonce : Str

def parseSigningSeedHex (hex : Str) : Except OpeWrapError Bytes := do
  let raw := toAsciiLowercase (trim hex)
  failIf ((utf8 raw).length ≠ 64 ∨ ¬ raw.all isAsciiHexdigit)
    (OpeWrapError.ope "OPENAPI_OPE_ENVELOPE_SIGNING_SEED_HEX must be 64 hex characters")
  let bytes ← mapErr (fun e => OpeWrapError.ope ("signing seed hex: ".toList ++ e)) (X.hex.decode raw)
  failIf (bytes.length ≠ 32) (OpeWrapError.ope "OPENAPI_OPE_ENVELOPE_SIGNING_SEED_HEX must decode to 32 bytes")
  pure bytes

def edgeProfileIsProd (host : Host) : Bool :=
  ((host.env "OPENAPI_PROFILE").map fun s => toAsciiLowercase (trim s)) ∈ [some ("prod" : Str), some "production"]

def envelopeSigningSeed (host : Host) : Except OpeWrapError Bytes := do
  let raw := trim (((host.env "OPENAPI_OPE_ENVELOPE_SIGNING_SEED_HEX").or
    (host.env "TEECHAT_OPE_ENVELOPE_SIGNING_SEED_HEX")).getD [])
  let prod := edgeProfileIsProd host
  if raw = [] then
    failIf prod (OpeWrapError.ope ("OPENAPI_OPE_ENVELOPE_SIGNING_SEED_HEX is required in prod ".toList ++
      "(desktop prod-bootstrap seed; not DEV_VECTOR_001)".toList))
    pure O.devVector001Seed
  else
    let seed ← parseSigningSeedHex X raw
    failIf (prod ∧ seed = O.devVector001Seed)
      (OpeWrapError.ope "OPENAPI_OPE_ENVELOPE_SIGNING_SEED_HEX must not be DEV_VECTOR_001 in prod")
    pure seed

/-- The envelope before encryption. -/
def openEnvelope (identity : EngineIdentity) (kid : Str) (payload : Json) (openaiPath ts nonce : Str) : Envelope where
  opeVersion := "1.0"
  alg := "EdDSA"
  enc := "none"
  kid := "prod-bootstrap"
  recipient := "teechat-gateway"
  engineId := some identity.engineId
  ts := ts
  nonce := nonce
  payloadHash := []
  payload := none
  ciphertext := none
  iv := none
  aad := none
  details := some (.object [("model", (payload.get? "model").getD .null), ("openai_path", .string openaiPath),
    ("openapi_key_id", .string kid)])
  e2e := none
  sig := none

def encryptOpenaiBodyWithPath (host : Host) (inputs : WrapInputs O) (trust : PreassignTrust) (kid : Str)
    (payload : Json) (openaiPath : Str) : Except OpeWrapError (EncryptedOpeRequest O) := do
  let identity := engineIdentityFromTrust O trust
  let clientSession ← mapErr OpeWrapError.ope inputs.session
  let envelope ← mapErr OpeWrapError.ope (O.encryptRequest
    (openEnvelope identity kid payload openaiPath inputs.ts inputs.nonce) identity payload clientSession)
  -- `Json.set` leaves a value that is not an object as it is
  let envelope := { envelope with e2e := envelope.e2e.map (·.set "ephemeral_epoch" (.string trust.epochId)) }
  let seed ← envelopeSigningSeed X O host
  let envelope ← mapErr OpeWrapError.ope (O.signEnvelope envelope seed)
  pure ⟨envelope, clientSession, trust.epochId⟩

def envelopeToBytes (envelope : Envelope) : Except OpeWrapError Bytes := mapErr OpeWrapError.encode (O.toVec envelope)

variable {O}

def decryptChunk (enc : EncryptedOpeRequest O) (serverShare : Str) (seq : UInt32) (ciphertext : Str) :
    Except OpeWrapError Bytes :=
  mapErr OpeWrapError.ope (O.decryptResponseChunk enc.envelope enc.clientSession serverShare seq ciphertext)

end Wrap

end TeechatOpenapi.Cvm
