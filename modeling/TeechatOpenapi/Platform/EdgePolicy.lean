import Mathlib.Data.Char
import Mathlib.Data.Set.Function
import TeechatOpenapi.Lib.Ordered
import TeechatOpenapi.Platform.EngineTrust
import TeechatOpenapi.Platform.SealedTime

/-!
# The profile and the published policy (`openapi-platform/src/profile.rs`, `edge_policy.rs`)

With the pinned identities of `engine_trust.rs`.  The policy hash in a challenge is the SHA-256 of a compact JSON text:
who authorizes keys, where traffic goes, and the hash of the pinned engine identities, which is the SHA-256 of another
such text.
-/

namespace TeechatOpenapi.Platform

open Lib

/-- `Option::filter(|s| !s.is_empty())`. -/
def nonEmpty (value : Option Str) : Option Str := value.filter (· ≠ [])

/-- Development or production. -/
inductive EdgeProfile where
  | dev
  | prod
  deriving DecidableEq

/-- `ProfileError`, the variants of `parse_edge_profile` and `validate_tls_key_policy`. -/
inductive ProfileError where
  | missingProfile
  | unknownProfile (raw : Str)
  | prodPlaintextTlsKey
  | prodMissingSealedTlsKey
  | prodMissingTlsCert
  | prodHostSealRoot
  | prodAttestedLaunchOverride
  | prodAmdSpDerivedKeyOverride
  | prodChallengeBenchToken
  | prodTransparentProxy
  | prodTlsKeyPolicyPathOverride
  | prodUnmeasuredSnpguestBin
  deriving DecidableEq

def ProfileError.display (X : Crates) : ProfileError → Str
  | .missingProfile => "OPENAPI_PROFILE is required (expected dev|prod|production)"
  | .unknownProfile raw =>
    "invalid OPENAPI_PROFILE ".toList ++ X.debugStr raw ++ " (expected dev|prod|production)".toList
  | .prodPlaintextTlsKey => "prod forbids plaintext TLS key (OPENAPI_TLS_KEY_PATH)"
  | .prodMissingSealedTlsKey => "prod requires sealed TLS key (OPENAPI_TLS_SEALED_KEY_PATH)"
  | .prodMissingTlsCert => "prod requires TLS certificate (OPENAPI_TLS_CERT_PATH) — TLS-001"
  | .prodHostSealRoot => "prod forbids host-supplied OPENAPI_SEAL_ROOT_HEX — seal root is derived inside TEE"
  | .prodAttestedLaunchOverride =>
    "prod forbids OPENAPI_ATTESTED_LAUNCH_DIGEST — use snpguest / /dev/sev-guest (OPS-001)"
  | .prodAmdSpDerivedKeyOverride =>
    "prod forbids OPENAPI_AMD_SP_DERIVED_KEY_HEX — use SNP_GET_DERIVED_KEY via /dev/sev-guest (OPS-003)"
  | .prodChallengeBenchToken =>
    "prod forbids OPENAPI_CHALLENGE_BENCH_TOKEN — challenge DoS caps must stay on (BENCH-001)"
  | .prodTransparentProxy => "prod forbids OPENAPI_PROXY_MODE=transparent — use allowlist (PROXY-001)"
  | .prodTlsKeyPolicyPathOverride =>
    "prod forbids OPENAPI_TLS_KEY_POLICY_PATH — use measured /etc/tls_key_policy (POLICY-001)"
  | .prodUnmeasuredSnpguestBin =>
    "prod forbids OPENAPI_SNPGUEST_BIN on unmeasured data paths — use measured helper (SNPGUEST-001)"

def parseEdgeProfile (raw : Option Str) : Except ProfileError EdgeProfile :=
  match (nonEmpty (raw.map trim)).map toAsciiLowercase with
  | some name =>
    if name = "dev" then .ok .dev
    else if name = "prod" ∨ name = "production" then .ok .prod
    else .error (.unknownProfile name)
  | none => .error .missingProfile

def loadEdgeProfile (host : Host) : Except ProfileError EdgeProfile := parseEdgeProfile (host.env "OPENAPI_PROFILE")

/-- `EngineTrustError` as `parse_json` returns it: `InvalidPinsJson`, or what `decode_public_key` returned. -/
inductive PinsError where
  | invalidPinsJson (text : Str)
  | key (e : EngineTrustError)
  deriving DecidableEq

def PinsError.display (X : Crates) : PinsError → Str
  | .invalidPinsJson text => "invalid engine identity pins JSON: ".toList ++ text
  | .key e => e.display X

/-- A `BTreeMap` filled with these entries, one after the other. -/
def EngineIdentityPins.ofEntries (entries : List (Str × Str)) : EngineIdentityPins :=
  ⟨ascending Prod.fst entries, ascends_ascending entries⟩

/-- The `Deserialize` of `EngineIdentityPins`. -/
def EngineIdentityPins.read (j : Json) : Option EngineIdentityPins :=
  (Json.mapOf Json.asStr? j).map EngineIdentityPins.ofEntries

/-- The tree that `EngineIdentityPins` is written as. -/
def EngineIdentityPins.tree (pins : EngineIdentityPins) : Json :=
  .object (pins.entries.map fun pin => (pin.1, .string pin.2))

section Pins

variable (X : Crates)

def EngineIdentityPins.parseJson (raw : Str) : Except PinsError EngineIdentityPins := do
  let pins ← mapErr .invalidPinsJson (X.fromSlice EngineIdentityPins.read (utf8 raw))
  pins.entries.forM fun pin => do
    failIf (trim pin.1 = []) (.invalidPinsJson "engine id must not be empty")
    let _ ← mapErr .key (decodePublicKey X pin.2)
  return pins

/-- `serde_json::to_vec` of the pins. -/
def EngineIdentityPins.canonical (pins : EngineIdentityPins) : Bytes := utf8 (X.json.structText pins.tree)

def EngineIdentityPins.policyHashHex (pins : EngineIdentityPins) : Str :=
  X.hex.encode (X.sha2.sha256 (pins.canonical X))

end Pins

section Hashed

variable {X : Crates} (hjson : X.json.WritesCompact) (hhex : X.hex.Lawful)

end Hashed

/-- The settings whose hash an edge publishes. -/
structure EdgeRuntimePolicy where
  auth : Str
  region : Str
  catalogVerifyKeyHex : Str
  l0AuthorizeUrl : Str
  l0RevocationsUrl : Option Str
  gatewayOpeApiUrl : Option Str
  engineIdentityPinsSha256 : Option Str
  upstreamBaseUrl : Str
  deriving DecidableEq

namespace EdgeRuntimePolicy

def withEngineIdentityPinsSha256 (policy : EdgeRuntimePolicy) (value : Option Str) : EdgeRuntimePolicy :=
  { policy with engineIdentityPinsSha256 := nonEmpty (value.map toAsciiLowercase) }

/-- The fields, in the order of their declaration; an absent one is not written. -/
def fields (policy : EdgeRuntimePolicy) : List (Str × Option Json) :=
  [("auth", some (.string policy.auth)), ("region", some (.string policy.region)),
    ("catalog_verify_key_hex", some (.string policy.catalogVerifyKeyHex)),
    ("l0_authorize_url", some (.string policy.l0AuthorizeUrl)),
    ("l0_revocations_url", policy.l0RevocationsUrl.map .string),
    ("gateway_ope_api_url", policy.gatewayOpeApiUrl.map .string),
    ("engine_identity_pins_sha256", policy.engineIdentityPinsSha256.map .string),
    ("upstream_base_url", some (.string policy.upstreamBaseUrl))]

/-- The tree that `EdgeRuntimePolicy` is written as. -/
def tree (policy : EdgeRuntimePolicy) : Json := .object (writtenMembers policy.fields)

/-- `serde_json::to_vec` of the policy. -/
def canonical (X : Crates) (policy : EdgeRuntimePolicy) : Bytes := utf8 (X.json.structText policy.tree)

def policyHashHex (X : Crates) (policy : EdgeRuntimePolicy) : Str := X.hex.encode (X.sha2.sha256 (policy.canonical X))

end EdgeRuntimePolicy

def edgeRuntimePolicyFromParts (auth region catalogVerifyKeyHex : Str)
    (l0AuthorizeUrl l0RevocationsUrl gatewayOpeApiUrl : Option Str) (upstreamBaseUrl : Str) : EdgeRuntimePolicy where
  auth := toAsciiLowercase auth
  region := region
  catalogVerifyKeyHex := toAsciiLowercase catalogVerifyKeyHex
  l0AuthorizeUrl := l0AuthorizeUrl.getD []
  l0RevocationsUrl := nonEmpty l0RevocationsUrl
  gatewayOpeApiUrl := nonEmpty gatewayOpeApiUrl
  engineIdentityPinsSha256 := none
  upstreamBaseUrl := upstreamBaseUrl

end TeechatOpenapi.Platform
