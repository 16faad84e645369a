import TeechatOpenapi.Core.Routes
import TeechatOpenapi.Platform.EdgePolicy
import TeechatOpenapi.Platform.EngineRecipient

/-!
# The environment of the SGX edge (`openapi-platform-sgx/src/env.rs`, `gateway_ope_api.rs`)

The edge loads its environment twice: into `SgxEdgeEnv`, whose policy hash it publishes, and into `GatewayOpeApiConfig`,
whose recipient policy decides which engine keys it encrypts to.
-/

namespace TeechatOpenapi.Sgx

open Lib Platform TeechatOpenapi.Core

/-! ## What the loaders call -/

/-- `attested_mtls::OpenapiClientTls`, as loaded. -/
structure LoadedTls where
  baseUrl : Str
  clientCertPem : Option Str
  clientKeyPem : Option Str
  caPem : Option Str
  insecureSkipVerify : Bool

/-- What the loaders use of the standard library and of `attested_mtls`: `str::to_lowercase` (its tables are not
embedded), `str::parse::<IpAddr>().is_ok()`, and `load_openapi_client_tls_from_parts`. -/
structure SgxCrates where
  toLowercase : Str → Str
  isIpAddr : Str → Bool
  loadClientTls : (baseUrl : Str) → (cert key ca : Option Str) → (insecureSkipVerify : Bool) → Except Str LoadedTls

/-! ## The published environment -/

/-- Who authenticates keys. -/
inductive OpenApiAuthMode where
  | catalog
  | remote
  deriving DecidableEq

def OpenApiAuthMode.parse (C : SgxCrates) (raw : Str) : OpenApiAuthMode :=
  if C.toLowercase (trim raw) ∈ [("remote" : Str), "d6"] then .remote else .catalog

/-- `EnvError`, the variants of `load_sgx_edge_env`. -/
inductive EnvError where
  | missing (name : Str)
  | invalid (name text : Str)
  | profile (e : ProfileError)
  deriving DecidableEq

/-- `SgxEdgeEnv`, the fields that a loader checks or the policy reads. -/
structure SgxEdgeEnv where
  profile : EdgeProfile
  region : Str
  upstreamBaseUrl : Str
  catalogPath : Str
  catalogJson : Option Str
  catalogVerifyKeyHex : Str
  authMode : OpenApiAuthMode
  l0AuthorizeUrl : Option Str
  l0RevocationsUrl : Option Str
  engineIdentityPinsSha256 : Option Str
  usageSignSeedHex : Str
  mrenclave : Str
  proxyMode : ProxyMode

def req (host : Host) (name : Str) : Except EnvError Str := okOr (host.env name) (.missing name)

section Loaders

variable (X : Crates) (C : SgxCrates) (host : Host)

/-- `SgxEdgeEnv::runtime_policy`; the gateway's address is read from the environment once more. -/
def SgxEdgeEnv.runtimePolicy (edge : SgxEdgeEnv) : EdgeRuntimePolicy :=
  (edgeRuntimePolicyFromParts (match edge.authMode with | .catalog => "catalog" | .remote => "remote") edge.region
    edge.catalogVerifyKeyHex edge.l0AuthorizeUrl edge.l0RevocationsUrl
    (nonEmpty (host.env "OPENAPI_GATEWAY_OPE_API_URL")) edge.upstreamBaseUrl).withEngineIdentityPinsSha256
      edge.engineIdentityPinsSha256

def SgxEdgeEnv.policyHashHex (edge : SgxEdgeEnv) : Str := (edge.runtimePolicy host).policyHashHex X

/-! ## The dialer's configuration -/

/-- `opt_env`: a variable that is more than white space. -/
def optEnv (name : Str) : Option Str := (host.env name).filter (trim · ≠ [])

/-- `duration_secs_from_env`, in seconds. -/
def durationSecsFromEnv (name : Str) (defaultSecs : Nat) : Nat :=
  (((optEnv host name).bind fun v => parseUnsigned u64Max (trim v)).filter (0 < ·)).getD defaultSecs

def truthyEnv (name : Str) : Bool :=
  match host.env name with
  | some v => toAsciiLowercase (trim v) ∈ [("1" : Str), "true", "yes"]
  | none => false

/-- `GatewayOpeApiError::Config`, the only variant of the loader. -/
structure ConfigError where
  text : Str
  deriving DecidableEq

/-- `GatewayOpeApiConfig`; the durations are in seconds. -/
structure GatewayOpeApiConfig where
  baseUrl : Str
  token : Option Str
  clientCertPem : Option Str
  clientKeyPem : Option Str
  caPem : Option Str
  insecureSkipVerify : Bool
  connectTimeout : Nat
  readTimeout : Nat
  engineIdentityPins : EngineIdentityPins
  epochClockSkew : Nat
  recipientPolicy : EngineRecipientPolicy

def parseHttpsIpEndpoint (baseUrl : Str) : Except ConfigError (Str × Nat) := do
  let url := (trim baseUrl).rdropWhile (· = '/')
  let rest ← okOr (stripPrefix url "https://")
    ⟨"OPENAPI_GATEWAY_OPE_API_URL must be https://IP:port (SGX: no DNS in enclave, no clear-text F' dial)"⟩
  let (ip, portStr) ← okOr (rsplitOnce rest ':') ⟨"OPENAPI_GATEWAY_OPE_API_URL must include an explicit port"⟩
  let port ← okOr (parseUnsigned 65535 portStr)
    ⟨"invalid port in OPENAPI_GATEWAY_OPE_API_URL: ".toList ++ portStr⟩
  failIf (¬ C.isIpAddr ip)
    ⟨"OPENAPI_GATEWAY_OPE_API_URL host `".toList ++ ip ++
      "` must be a literal IP address (no DNS in SGX enclave)".toList⟩
  failIf (ip = []) ⟨"OPENAPI_GATEWAY_OPE_API_URL host is empty"⟩
  return (ip, port)

def requireIpHttpsBaseUrl (baseUrl : Str) : Except ConfigError Unit := do
  let _ ← parseHttpsIpEndpoint C baseUrl

/-- A certificate or key that was loaded was given inline. -/
def requireInlinePem (name : Str) (raw loaded : Option Str) : Except ConfigError Unit :=
  failIf (loaded.isSome ∧ ¬ containsStr (trim (raw.getD [])) "-----BEGIN")
    ⟨name ++ (" must be inline PEM (-----BEGIN...) on SGX; path-based PEM is unsupported (std::fs disabled on " ++
      "Fortanix EDP)").toList⟩

def GatewayOpeApiConfig.fromParts (baseUrl : Str) (token clientCertPem clientKeyPem caPem : Option Str)
    (insecureSkipVerify : Bool) : Except ConfigError GatewayOpeApiConfig := do
  let loaded ← mapErr ConfigError.mk (C.loadClientTls baseUrl clientCertPem clientKeyPem caPem insecureSkipVerify)
  requireIpHttpsBaseUrl C loaded.baseUrl
  requireInlinePem "OPENAPI_GATEWAY_OPE_API_TLS_CLIENT_CERT_PEM" clientCertPem loaded.clientCertPem
  requireInlinePem "OPENAPI_GATEWAY_OPE_API_TLS_CLIENT_KEY_PEM" clientKeyPem loaded.clientKeyPem
  requireInlinePem "OPENAPI_GATEWAY_OPE_API_TLS_CA_PEM" caPem loaded.caPem
  return {
    baseUrl := loaded.baseUrl
    token := nonEmpty token
    clientCertPem := loaded.clientCertPem
    clientKeyPem := loaded.clientKeyPem
    caPem := loaded.caPem
    insecureSkipVerify := loaded.insecureSkipVerify
    connectTimeout := 10
    readTimeout := durationSecsFromEnv host "OPENAPI_GATEWAY_OPE_API_READ_TIMEOUT_SECS" 300
    engineIdentityPins := .empty
    epochClockSkew := 300
    recipientPolicy := ⟨.empty, ∅, false, false, false, 300000⟩ }

def GatewayOpeApiConfig.validateForProfile (cfg : GatewayOpeApiConfig) (profile : EdgeProfile) :
    Except ConfigError Unit := do
  failIf (cfg.insecureSkipVerify ∧ profile = .prod)
    ⟨"OPENAPI_GATEWAY_OPE_API_TLS_INSECURE_SKIP_VERIFY forbidden when OPENAPI_PROFILE=prod"⟩
  failIf (profile = .prod ∧ cfg.engineIdentityPins.entries = [] ∧ ¬ cfg.recipientPolicy.requireEpochEvidence ∧
      ¬ cfg.recipientPolicy.stage5IdentityDeleted)
    ⟨("OPENAPI_ENGINE_IDENTITY_PINS_JSON required in prod unless OPENAPI_OPE_REQUIRE_EPOCH_EVIDENCE=1 or " ++
      "OPENAPI_STAGE5_IDENTITY_DELETED=1").toList⟩
  failIf (cfg.recipientPolicy.requireLaunchDigest ∧ cfg.recipientPolicy.launchDigestAllowlist = ∅)
    ⟨("OPENAPI_ENGINE_LAUNCH_DIGEST_ALLOWLIST required when " ++
      "OPENAPI_OPE_REQUIRE_ENGINE_LAUNCH_DIGEST=1").toList⟩
  requireIpHttpsBaseUrl C cfg.baseUrl

/-- `pins_optional` of `from_env`: epoch evidence is required, or identities are deleted. -/
def pinsOptional : Bool :=
  truthyEnv host "OPENAPI_OPE_REQUIRE_EPOCH_EVIDENCE" || truthyEnv host "OPENAPI_STAGE5_IDENTITY_DELETED"

/-- The pins of `from_env`: without any, epoch evidence has to be required. -/
def loadPins (pinsOptional : Bool) : Except ConfigError EngineIdentityPins :=
  match optEnv host "OPENAPI_ENGINE_IDENTITY_PINS_JSON" with
  | some pinsJson => do
    let pins ← mapErr (fun e => ConfigError.mk (PinsError.display X e)) (EngineIdentityPins.parseJson X pinsJson)
    failIf (pins.entries = [] ∧ ¬ pinsOptional)
      ⟨"OPENAPI_ENGINE_IDENTITY_PINS_JSON must contain at least one engine"⟩
    return pins
  | none =>
    if pinsOptional then .ok .empty
    else .error
      ⟨("OPENAPI_ENGINE_IDENTITY_PINS_JSON required unless OPENAPI_OPE_REQUIRE_EPOCH_EVIDENCE=1 or " ++
        "OPENAPI_STAGE5_IDENTITY_DELETED=1").toList⟩

/-- The fields that `from_env` sets over those of `from_parts`. -/
def GatewayOpeApiConfig.withTrust (parts : GatewayOpeApiConfig) (pins : EngineIdentityPins) : GatewayOpeApiConfig :=
  let skew := durationSecsFromEnv host "OPENAPI_OPE_EPOCH_CLOCK_SKEW_SEC" 300
  { parts with
    engineIdentityPins := pins
    epochClockSkew := skew
    recipientPolicy := {
      identityPins := pins
      launchDigestAllowlist := EngineRecipientPolicy.parseLaunchDigestAllowlist
        ((optEnv host "OPENAPI_ENGINE_LAUNCH_DIGEST_ALLOWLIST").getD [])
      requireEpochEvidence := truthyEnv host "OPENAPI_OPE_REQUIRE_EPOCH_EVIDENCE"
      stage5IdentityDeleted := truthyEnv host "OPENAPI_STAGE5_IDENTITY_DELETED"
      requireLaunchDigest := truthyEnv host "OPENAPI_OPE_REQUIRE_ENGINE_LAUNCH_DIGEST"
      epochClockSkewMs := saturatingMul skew 1000 } }

def GatewayOpeApiConfig.fromEnv : Except ConfigError (Option GatewayOpeApiConfig) :=
  match optEnv host "OPENAPI_GATEWAY_OPE_API_URL" with
  | none => .ok none
  | some baseUrl => do
    let parts ← GatewayOpeApiConfig.fromParts C host baseUrl (optEnv host "OPENAPI_GATEWAY_OPE_API_TOKEN")
      (optEnv host "OPENAPI_GATEWAY_OPE_API_TLS_CLIENT_CERT_PEM")
      (optEnv host "OPENAPI_GATEWAY_OPE_API_TLS_CLIENT_KEY_PEM") (optEnv host "OPENAPI_GATEWAY_OPE_API_TLS_CA_PEM")
      (truthyEnv host "OPENAPI_GATEWAY_OPE_API_TLS_INSECURE_SKIP_VERIFY")
    let pins ← loadPins X host (pinsOptional host)
    let cfg := parts.withTrust host pins
    let profile ← mapErr (fun e => ConfigError.mk (ProfileError.display X e)) (loadEdgeProfile host)
    cfg.validateForProfile C profile
    return some cfg

end Loaders

/-! ## What was loaded -/

section Loaded

variable {X : Crates} {C : SgxCrates} {host : Host} {edge : SgxEdgeEnv} {cfg : GatewayOpeApiConfig}

variable {pins : EngineIdentityPins}

end Loaded

/-! ## The hash and the decision -/

namespace Sample

def edge : SgxEdgeEnv where
  profile := .prod
  region := "global"
  upstreamBaseUrl := "http://unused"
  catalogPath := []
  catalogJson := none
  catalogVerifyKeyHex := "aa"
  authMode := .remote
  l0AuthorizeUrl := none
  l0RevocationsUrl := none
  engineIdentityPinsSha256 := none
  usageSignSeedHex := "bb"
  mrenclave := "cc"
  proxyMode := .allowlist

def config (allowlist : Finset Str) : GatewayOpeApiConfig where
  baseUrl := "https://10.0.0.1:8791"
  token := none
  clientCertPem := none
  clientKeyPem := none
  caPem := none
  insecureSkipVerify := false
  connectTimeout := 10
  readTimeout := 300
  engineIdentityPins := .empty
  epochClockSkew := 300
  recipientPolicy := ⟨.empty, allowlist, true, false, true, 300000⟩

def parts : GatewayOpeApiConfig := { config ∅ with recipientPolicy := ⟨.empty, ∅, false, false, false, 300000⟩ }

end Sample

end TeechatOpenapi.Sgx
