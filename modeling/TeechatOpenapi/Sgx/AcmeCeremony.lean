import TeechatOpenapi.Platform.EdgePolicy
import TeechatOpenapi.Sgx.Seal

/-!
# The ACME ceremony of the SGX edge (`openapi-platform-sgx/src/acme_ceremony.rs`, `ceremony_helper.rs`)

The enclave asks a certificate authority for a certificate, seals the private key, and stores both with a helper on the
host, in two calls.  Every call to the helper may fail; a call that stores something may fail before the artifact is
written, while it is written, or after that.

The network and the helper's answers are inputs (`CeremonyWorld`), as is what the authority's side does (`AcmeSide`).
-/

namespace TeechatOpenapi.Sgx

open Lib Platform

/-- Where the TLS key of an image comes from. -/
inductive TlsKeyPolicy where
  | keyCeremony
  | sealSync
  deriving DecidableEq

/-- An `anyhow::Error`: its texts, the outermost context first. -/
abbrev Anyhow := List Str

/-- `.context(text)` on an error with a text. -/
def context {ε α : Type} (text : Str) (display : ε → Str) : Except ε α → Except Anyhow α :=
  mapErr fun e => [text, display e]

/-- The slots of `OPENAPI_ARTIFACT_SLOT`. -/
inductive ArtifactSlot where
  | ceremony
  | blue
  | green
  deriving DecidableEq

def ArtifactSlot.name : ArtifactSlot → Str
  | .ceremony => "ceremony"
  | .blue => "blue"
  | .green => "green"

/-- `CeremonyHelperClient`; its endpoint is part of the answers. -/
structure CeremonyHelperClient where
  artifactSlot : Option ArtifactSlot

/-- How a call that fetches an artifact goes. -/
inductive GetOutcome where
  | served
  | failed (error : PlatformError)

/-- How a call that stores an artifact goes.  Only `stored` is a success: otherwise nothing was written, the artifact
was written and the answer was lost, or the writing stopped after `n` octets. -/
inductive PutOutcome where
  | stored
  | refused (error : PlatformError)
  | lost (error : PlatformError)
  | torn (error : PlatformError) (n : Nat)

namespace CeremonyHelperClient

/-- `CeremonyHelperClient::from_env`; `endpoint` is what `from_url` says of `OPENAPI_CEREMONY_HELPER_URL`. -/
def fromEnv (X : Crates) (host : Host) (endpoint : Except PlatformError Unit) :
    Except PlatformError CeremonyHelperClient := do
  endpoint
  match host.env "OPENAPI_ARTIFACT_SLOT" with
  | none => return ⟨none⟩
  | some raw =>
    let slot := toAsciiLowercase (trim raw)
    if slot = ArtifactSlot.ceremony.name then return ⟨some .ceremony⟩
    else if slot = ArtifactSlot.blue.name then return ⟨some .blue⟩
    else if slot = ArtifactSlot.green.name then return ⟨some .green⟩
    else do
      failIf (slot ≠ []) (.attestation ("OPENAPI_ARTIFACT_SLOT invalid ".toList ++ X.debugStr slot ++
        " (want ceremony|blue|green)".toList))
      return ⟨none⟩

def slottedArtifactName (helper : CeremonyHelperClient) (name : Str) : Str :=
  match helper.artifactSlot with
  | some slot => if name = "sealed-key.json" ∨ name = "tls.crt" then slot.name ++ '/' :: name else name
  | none => name

end CeremonyHelperClient

/-- The states of an ACME order. -/
inductive OrderStatus where
  | pending
  | ready
  | processing
  | valid
  | invalid
  deriving DecidableEq

/-- The states of an ACME authorization. -/
inductive AuthorizationStatus where
  | pending
  | valid
  | invalid
  | revoked
  | expired
  deriving DecidableEq

/-- The kinds of ACME challenges. -/
inductive ChallengeType where
  | http01
  | dns01
  | tlsAlpn01
  deriving DecidableEq

/-- An ACME challenge. -/
structure Challenge where
  type : ChallengeType
  url : Str
  token : Str

/-- An ACME authorization, with its challenges. -/
structure Authorization where
  status : AuthorizationStatus
  challenges : List Challenge

/-- What provisioning meets.  `openAccount` and `createAccount` are `open_or_create_account` with and without stored
credentials; `refresh` and `certificate` answer the `n`-th call.  `fromPkcs8Pem`, `generate` and `buildCsrDer` are
`p256` and `x509-cert`.  An error is its text. -/
structure AcmeSide where
  openAccount : Str → Except Str Unit
  createAccount : (directoryUrl : Str) → (email : Option Str) → Except Str Str
  newOrder : (domain : Str) → Except Str OrderStatus
  authorizations : Except Str (List Authorization)
  place : Challenge → Except Str Unit
  setChallengeReady : (url : Str) → Except Str Unit
  refresh : (n : Nat) → Except Str OrderStatus
  clear : (token : Str) → Except Str Unit
  fromPkcs8Pem : Str → Except Str Unit
  generate : Except Str Str
  buildCsrDer : (domain keyPem : Str) → Except Str Bytes
  finalize : (csrDer : Bytes) → Except Str Unit
  certificate : (csrDer : Bytes) → (n : Nat) → Except Str (Option Str)

section Provision

variable (A : AcmeSide)

end Provision

/-- What a ceremony finds: the environment, how the calls to the helper go, and what it draws. -/
structure CeremonyWorld where
  host : Host
  cryptoProvider : Except Str Unit
  endpoint : Except PlatformError Unit
  accountGet : GetOutcome
  sealedGet : GetOutcome
  certGet : GetOutcome
  accountPut : PutOutcome
  sealedPut : PutOutcome
  certPut : PutOutcome
  acme : AcmeSide
  rand : Octets 16
  nonce : Octets 12

def sealedKeyName : Str := "sealed-key.json"

def tlsCrtName : Str := "tls.crt"

def TlsKeyPolicy.parse (raw : Str) : Option TlsKeyPolicy :=
  if trim raw = "key_ceremony" then some .keyCeremony
  else if trim raw = "seal_sync" then some .sealSync
  else none

section Ceremony

variable (X : Crates) (C : SealCrates) (H : Enclave) (T : Cvm.TlsCrates) (w : CeremonyWorld)

/-- What a ceremony takes from its environment before it calls anybody. -/
structure CeremonySetup where
  staging : Bool
  domain : Str
  email : Option Str
  helper : CeremonyHelperClient

/-- `LetsEncrypt::url`. -/
def directoryUrl (staging : Bool) : Str :=
  if staging then "https://acme-staging-v02.api.letsencrypt.org/directory"
  else "https://acme-v02.api.letsencrypt.org/directory"

end Ceremony

section Steps

variable {w : CeremonyWorld} {helper : CeremonyHelperClient} {d : Disk}

/-- What is stored under a name once a call for it is over. -/
def PutOutcome.left (before : Option Bytes) (body : Bytes) : PutOutcome → Option Bytes
  | .stored | .lost _ => some body
  | .refused _ => before
  | .torn _ n => some (body.take n)

end Steps

end TeechatOpenapi.Sgx
