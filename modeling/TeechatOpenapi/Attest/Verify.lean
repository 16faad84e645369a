import TeechatOpenapi.Attest.Ceremony
import TeechatOpenapi.Attest.GithubRelease
import TeechatOpenapi.Attest.Golden
import TeechatOpenapi.Attest.Sgx

/-!
# The client verifier (`openapi-attest/src/verify.rs`)

A run loads the edge manifest (`loadTrustBundleForEdge`) and then judges the response to a challenge (`finishVerify`).
On the way it may load golden digests twice, once to confirm the build and once for the key ceremony, and the ceremony
manifest.

`finishVerifyRelying` is `finish_verify` that also says which documents it relied on.  The challenge itself, the TLS
connection and the parsing of the endpoint are what a run starts from.
-/

namespace TeechatOpenapi.Attest

open Lib Platform

/-! ## Inputs and outputs -/

/-- A challenge with its response. -/
structure ChallengeOutcome where
  nonce : Octets 32
  response : AttestationChallengeResponse
  endpoint : Str

/-- The certificate that the peer showed in the handshake. -/
structure PeerTlsIdentity where
  spkiSha256Hex : Str
  certSha256Hex : Str

/-- `identity_from_cert_der`, of a certificate and the public key information in it. -/
def identityFromCert (X : Crates) (spkiDer certDer : Bytes) : PeerTlsIdentity :=
  ⟨X.hex.encode (X.sha2.sha256 spkiDer), X.hex.encode (X.sha2.sha256 certDer)⟩

/-- What the caller of the verifier chooses. -/
structure VerifyOptions where
  manifestUrl : Option Str := some defaultManifestUrl
  manifestPath : Option Str := none
  manifestSigPath : Option Str := none
  skipSessionSpki : Bool := false
  preferTeechatManifest : Bool := false
  githubOwner : Str := defaultGithubOwner
  githubRepo : Str := defaultGithubRepo
  githubTag : Option Str := none
  allowLatest : Bool := false
  golden : GoldenLoadOptions := {}
  requireGoldenDigests : Bool := true
  ceremony : CeremonyLoadOptions := {}
  requireCeremonySpki : Bool := true

/-- The edge manifest of a run, and where it came from. -/
structure TrustBundle where
  manifest : VerifiedManifest
  trustSource : Str
  githubReleaseUrl : Str
  trustFallbackTip : Str
  sha256sums : Option (List Str)

/-- What a run that accepts returns. -/
structure AttestationVerdict where
  ok : Bool
  endpoint : Str
  hostname : Str
  quoteFormat : Str
  buildVersion : Str
  codeHash : Str
  measurement : Json
  goldenVersion : Option Str
  policyHash : Option Str
  tlsCertSpkiSha256 : Str
  peerSpkiSha256 : Str
  sessionBindMode : Str
  manifestEpoch : Nat
  manifestKeyId : Str
  trustSource : Str
  goldenTrustSource : Option Str
  githubReleaseUrl : Str
  trustFallbackTip : Str
  hardware : Json
  verifiedAtUnix : Nat

/-- What a response says of its build. -/
def buildOf (response : AttestationChallengeResponse) : EdgeBuild where
  buildVersion := response.edge.buildVersion
  codeHash := response.edge.codeHash
  measurement := response.edge.measurement
  quoteFormat := response.quoteFormat
  policyHash := response.edge.policyHash

/-! ## Loading the edge manifest -/

def bumpSemverPatchTag (tag : Str) : Option Str :=
  let t := if tag.head? = some 'v' then tag.tail else tag
  match (t.splitOn '.').filterMap (parseUnsigned u64Max) with
  | major :: minor :: patch :: _ =>
    some (format ["v", decimal major, ".", decimal minor, ".", decimal (saturatingAdd patch 1)])
  | _ => none

section Load

variable (X : Crates) (E : Outside)

def loadTeechatFallback (opts : VerifyOptions) (defaultGhUrl : Str) (tip : Option Str) : Run TrustBundle := do
  let url := opts.manifestUrl.getD defaultManifestUrl
  Op.lift (assertNotMutableLatestUrl url)
  let manifest ← fetchSignedManifest X E url
  return {
    manifest
    trustSource := "teechat_fallback"
    githubReleaseUrl := defaultGhUrl
    trustFallbackTip := tip.getD []
    sha256sums := none }

/-- The network part of `load_trust_bundle`: GitHub first, the signed copy when that fails. -/
def loadTrustFromNetwork (opts : VerifyOptions) (defaultGhUrl : Str) : Run TrustBundle := do
  match ← Op.attempt (fetchGithubReleaseTrustResolved X E opts.githubOwner opts.githubRepo opts.githubTag
      opts.allowLatest) with
  | .ok gh => return {
      manifest := gh.manifest
      trustSource := "github"
      githubReleaseUrl := gh.releaseHtmlUrl
      trustFallbackTip := []
      sha256sums := gh.sha256sums }
  | .error ghErr =>
    let tip := fallbackTip opts.githubOwner opts.githubRepo (some defaultGhUrl)
    let bundle ← loadTeechatFallback X E opts defaultGhUrl (some tip)
    return { bundle with trustFallbackTip := format [tip, " (GitHub error: ", ghErr.display, ")"] }

def loadTrustBundle (opts : VerifyOptions) : Run TrustBundle :=
  let defaultGhUrl := githubReleasesHtmlUrl opts.githubOwner opts.githubRepo
  match opts.manifestPath, opts.manifestSigPath with
  | some mp, some sp => do
    let manifest ← loadSignedManifestFiles X E mp sp
    return {
      manifest
      trustSource := "local"
      githubReleaseUrl := defaultGhUrl
      trustFallbackTip := []
      sha256sums := none }
  | _, _ =>
    if opts.preferTeechatManifest then loadTeechatFallback X E opts defaultGhUrl none
    else loadTrustFromNetwork X E opts defaultGhUrl

def edgeMatchesManifest (manifest : OpenApiEdgeManifest) (outcome : ChallengeOutcome) (hostname : Str) : Bool :=
  (findMatchingReleases E.nowUnix manifest hostname (buildOf outcome.response)).isOk

/-- What `load_trust_bundle_for_edge` does after its loop. -/
def afterTags (opts : VerifyOptions) : Option TrustBundle → Run TrustBundle
  | some bundle => return bundle
  | none => loadTrustBundle X E opts

/-- The loop of `load_trust_bundle_for_edge`, with the rounds that are left. -/
def tryTags (opts : VerifyOptions) (outcome : ChallengeOutcome) (hostname : Str) :
    Nat → Str → Option TrustBundle → Run TrustBundle
  | 0, _, lastBundle => afterTags X E opts lastBundle
  | rounds + 1, tag, lastBundle => do
    match ← Op.attempt (loadTrustBundle X E { opts with githubTag := some tag }) with
    | .ok bundle =>
      if edgeMatchesManifest E bundle.manifest.manifest outcome hostname then return bundle
      else
        match bumpSemverPatchTag tag with
        | some next => tryTags opts outcome hostname rounds next (some bundle)
        | none => return bundle
    | .error e =>
      match lastBundle with
      | some bundle => return bundle
      | none =>
        match bumpSemverPatchTag tag with
        | some next => tryTags opts outcome hostname rounds next none
        | none => Op.lift (.error e)

def loadTrustBundleForEdge (opts : VerifyOptions) (outcome : ChallengeOutcome) (hostname : Str)
    (autoGithubTag : Bool) : Run TrustBundle :=
  match autoGithubTag, opts.githubTag with
  | true, some baseTag => tryTags X E opts outcome hostname 6 baseTag none
  | _, _ => loadTrustBundle X E opts

/-! ### A load leaves the floors alone, and what it returns is unexpired -/

/-- The edge manifest of a bundle is unexpired. -/
def TrustBundle.Unexpired (now : Nat) (b : TrustBundle) : Prop := Attest.Unexpired now b.manifest.manifest.notAfter

lemma fetchSignedManifest_floor (url : Str) : Op.Fixes AttestState.floor (fetchSignedManifest X E url) :=
  Op.Fixes.bind (httpGetBytes_floor E _) fun _ => Op.Fixes.bind (httpGetBytes_floor E _) fun _ =>
    Op.Fixes.lift_bind fun _ => Op.Fixes.lift _ _

lemma fetchSignedManifest_unexpired (url : Str) :
    Op.Yields (fun v => Unexpired E.nowUnix v.manifest.notAfter) (fetchSignedManifest X E url) :=
  Op.Yields.bind_any fun _ => Op.Yields.bind_any fun _ => Op.Yields.bind_any fun _ =>
    Op.Yields.lift fun _ hv => verifySignedManifestBytes_eq_ok X E hv

lemma loadTeechatFallback_floor (opts : VerifyOptions) (url : Str) (tip : Option Str) :
    Op.Fixes AttestState.floor (loadTeechatFallback X E opts url tip) :=
  Op.Fixes.lift_bind fun _ => Op.Fixes.bind (fetchSignedManifest_floor X E _) fun _ => Op.Fixes.pure _ _

lemma loadTeechatFallback_unexpired (opts : VerifyOptions) (url : Str) (tip : Option Str) :
    Op.Yields (TrustBundle.Unexpired E.nowUnix) (loadTeechatFallback X E opts url tip) :=
  Op.Yields.bind_any fun _ => Op.Yields.bind (fetchSignedManifest_unexpired X E _) fun _ hv => Op.Yields.pure hv

lemma loadTrustBundle_floor (opts : VerifyOptions) : Op.Fixes AttestState.floor (loadTrustBundle X E opts) := by
  unfold loadTrustBundle
  dsimp only
  split
  · refine Op.Fixes.bind ?_ fun _ => Op.Fixes.pure _ _
    exact Op.Fixes.bind (fsRead_floor E _) fun _ => Op.Fixes.bind (fsReadToString_floor E _) fun _ => Op.Fixes.lift _ _
  · split
    · exact loadTeechatFallback_floor X E _ _ _
    · refine Op.Fixes.bind (Op.Fixes.attempt (fetchGithubReleaseTrustResolved_floor X E _ _ _ _)) fun r => ?_
      rcases r with e | gh
      · exact Op.Fixes.bind (loadTeechatFallback_floor X E _ _ _) fun _ => Op.Fixes.pure _ _
      · exact Op.Fixes.pure _ _

lemma loadTrustBundle_unexpired (opts : VerifyOptions) :
    Op.Yields (TrustBundle.Unexpired E.nowUnix) (loadTrustBundle X E opts) := by
  unfold loadTrustBundle
  dsimp only
  split
  · refine Op.Yields.bind ?_ fun v hv => Op.Yields.pure hv
    exact Op.Yields.bind_any fun _ => Op.Yields.bind_any fun _ =>
      Op.Yields.lift fun _ hv => verifySignedManifestBytes_eq_ok X E hv
  · split
    · exact loadTeechatFallback_unexpired X E _ _ _
    · refine Op.Yields.bind (Op.Yields.attempt (fetchGithubReleaseTrustResolved_unexpired X E _ _ _ _)) fun r hr => ?_
      rcases r with e | gh
      · exact Op.Yields.bind (loadTeechatFallback_unexpired X E _ _ _) fun _ hb => Op.Yields.pure hb
      · exact Op.Yields.pure (hr gh rfl)

lemma tryTags_floor (opts : VerifyOptions) (outcome : ChallengeOutcome) (hostname : Str) (rounds : Nat) (tag : Str)
    (last : Option TrustBundle) : Op.Fixes AttestState.floor (tryTags X E opts outcome hostname rounds tag last) := by
  induction rounds generalizing tag last with
  | zero =>
    rcases last with _ | bundle
    · exact loadTrustBundle_floor X E opts
    · exact Op.Fixes.pure _ _
  | succ rounds ih =>
    refine Op.Fixes.bind (Op.Fixes.attempt (loadTrustBundle_floor X E _)) fun r => ?_
    rcases r with e | bundle
    · rcases last with _ | bundle
      · dsimp only
        split
        · exact ih _ _
        · exact Op.Fixes.lift _ _
      · exact Op.Fixes.pure _ _
    · dsimp only
      split
      · exact Op.Fixes.pure _ _
      · split
        · exact ih _ _
        · exact Op.Fixes.pure _ _

lemma tryTags_unexpired (opts : VerifyOptions) (outcome : ChallengeOutcome) (hostname : Str) (rounds : Nat)
    (tag : Str) (last : Option TrustBundle) (hlast : ∀ b ∈ last, TrustBundle.Unexpired E.nowUnix b) :
    Op.Yields (TrustBundle.Unexpired E.nowUnix) (tryTags X E opts outcome hostname rounds tag last) := by
  induction rounds generalizing tag last with
  | zero =>
    rcases last with _ | bundle
    · exact loadTrustBundle_unexpired X E opts
    · exact Op.Yields.pure (hlast bundle rfl)
  | succ rounds ih =>
    refine Op.Yields.bind (Op.Yields.attempt (loadTrustBundle_unexpired X E _)) fun r hr => ?_
    rcases r with e | bundle
    · rcases last with _ | bundle
      · dsimp only
        split
        · exact ih _ _ hlast
        · exact Op.Yields.lift fun _ h => nomatch h
      · exact Op.Yields.pure (hlast bundle rfl)
    · have hbundle := hr bundle rfl
      dsimp only
      split
      · exact Op.Yields.pure hbundle
      · split
        · exact ih _ _ fun b hb => Option.some.inj hb ▸ hbundle
        · exact Op.Yields.pure hbundle

lemma loadTrustBundleForEdge_floor (opts : VerifyOptions) (outcome : ChallengeOutcome) (hostname : Str)
    (auto : Bool) : Op.Fixes AttestState.floor (loadTrustBundleForEdge X E opts outcome hostname auto) := by
  unfold loadTrustBundleForEdge
  split
  · exact tryTags_floor X E opts outcome hostname 6 _ none
  · exact loadTrustBundle_floor X E opts

lemma loadTrustBundleForEdge_unexpired (opts : VerifyOptions) (outcome : ChallengeOutcome) (hostname : Str)
    (auto : Bool) :
    Op.Yields (TrustBundle.Unexpired E.nowUnix) (loadTrustBundleForEdge X E opts outcome hostname auto) := by
  unfold loadTrustBundleForEdge
  split
  · exact tryTags_unexpired X E opts outcome hostname 6 _ none fun _ hb => absurd hb (Option.not_mem_none _)
  · exact loadTrustBundle_unexpired X E opts

end Load

/-! ## The verdict -/

/-- `GoldenMatch`, with the manifest that confirmed the release. -/
structure GoldenMatch where
  release : Listed EdgeRelease
  goldenVersion : Option Str
  trustSource : Str
  golden : GoldenDigestsManifest

/-- The release a run settles on, and the golden manifest that confirmed it. -/
structure Chosen where
  release : Listed EdgeRelease
  goldenVersion : Option Str
  goldenTrustSource : Option Str
  golden : Option GoldenDigestsManifest

/-- The documents that a run has relied on: the edge manifest, the golden manifest that confirmed the build, and where
the ceremony pin is enforced the ceremony manifest and the golden manifest consulted for it. -/
structure Relied where
  edge : OpenApiEdgeManifest
  golden : Option GoldenDigestsManifest
  ceremony : Option (CeremonyManifest × GoldenDigestsManifest)

/-- A golden manifest confirms a release: the test of `match_golden_for_candidates`. -/
def goldenConfirms (golden : GoldenDigestsManifest) (measurement : Measurement) (rel : EdgeRelease) : Bool :=
  match rel.goldenVersion with
  | none => true
  | some version =>
    match findGoldenRelease golden "openapi" "sev-snp-cvm" version with
    | .ok grelease => goldenOsPinMatches grelease.row measurement
    | .error _ => false

/-- The session bind mode of `finish_verify`. -/
def sessionBind (requireSpki skipSessionSpki : Bool) (edge : Str) (peer : PeerTlsIdentity) : Except AttestError Str :=
  if requireSpki && !skipSessionSpki then
    if eqIgnoreAsciiCase edge peer.spkiSha256Hex then .ok "spki"
    else if eqIgnoreAsciiCase edge peer.certSha256Hex then .ok "cert_der"
    else .error (.policy (format ["session SPKI mismatch: edge=", edge, " peer_spki=", peer.spkiSha256Hex,
      " peer_cert=", peer.certSha256Hex]))
  else .ok "skipped"

variable {peer : PeerTlsIdentity} {opts : VerifyOptions} {outcome : ChallengeOutcome} {hostname : Str}

section Finish

variable (X : Crates) (D : Dcap) (E : Outside)

/-- The loop of `match_golden_for_candidates` over its sources. -/
def matchGoldenIn (candidates : List (Listed EdgeRelease)) (measurement : Measurement) :
    List GoldenLoadOptions → Run GoldenMatch
  | [] => Op.lift (.error (.policy
      "challenge measurement does not match any golden digests row for this build/code_hash"))
  | opts :: rest => do
    let golden ← loadGoldenDigests X E opts
    match candidates.find? fun rel => goldenConfirms golden.manifest measurement rel.row with
    | some rel =>
      assertEpochMonotonic E .goldenDigests golden.manifest.epoch
      rememberEpoch E .goldenDigests golden.manifest.epoch
      return ⟨rel, rel.row.goldenVersion, golden.trustSource, golden.manifest⟩
    | none => matchGoldenIn candidates measurement rest

def matchGoldenForCandidates (candidates : List (Listed EdgeRelease)) (measurement : Measurement)
    (opts : GoldenLoadOptions) : Run GoldenMatch :=
  matchGoldenIn X E candidates measurement
    (if opts.preferWww then [opts] else [opts, { opts with preferWww := true }])

/-- The choice of the release in `finish_verify`. -/
def chooseRelease (opts : VerifyOptions) (candidates : List (Listed EdgeRelease)) (measurement : Measurement) :
    Run Chosen :=
  if opts.requireGoldenDigests then do
    let gm ← matchGoldenForCandidates X E candidates measurement opts.golden
    return ⟨gm.release, gm.goldenVersion, some gm.trustSource, some gm.golden⟩
  else do
    let release ← Op.lift (okOr candidates.head?
      (.policy "edge measurement/build/code_hash/policy_hash not on allowlist for this hostname"))
    return ⟨release, release.row.goldenVersion, none, none⟩

/-- The `{:?}` of an optional text. -/
def debugOpt : Option Str → Str
  | none => "None"
  | some s => format ["Some(", X.debugStr s, ")"]

/-- The ceremony pin of `finish_verify`, and the documents it consulted where it is enforced. -/
def ceremonyPin (opts : VerifyOptions) (hostname spkiSha256 : Str) :
    Run (Option (CeremonyManifest × GoldenDigestsManifest)) :=
  if ¬ opts.requireCeremonySpki then return none
  else do
    let ceremony ← loadCeremonyAllowlist X E opts.ceremony
    if ¬ ceremonyPinRequired ceremony.manifest then return none
    else
      Op.lift (failIf (¬ ceremony.manifest.hostnames.any (eqIgnoreAsciiCase · hostname))
        (.policy (format ["hostname ", hostname, " not on TLS ceremony allowlist"])))
      let crow ← Op.lift (okOr (findCeremonyReleaseBySpki E.nowUnix ceremony.manifest spkiSha256)
        (.policy (format ["serving SPKI ", spkiSha256,
          " not on TLS ceremony allowlist (publish after key ceremony)"])))
      let golden ← loadGoldenDigests X E opts.golden
      let grelease ← Op.lift (findGoldenRelease golden.manifest "openapi" "sev-snp-cvm" crow.row.goldenVersion)
      Op.lift (failIf (grelease.row.tlsKeyPolicy ≠ some "key_ceremony")
        (.policy (format ["ceremony SPKI golden_version ", crow.row.goldenVersion, " tls_key_policy=",
          debugOpt X grelease.row.tlsKeyPolicy, " (want key_ceremony)"])))
      return some (ceremony.manifest, golden.manifest)

/-- The check of an SGX quote against the measurement of the allowlist. -/
def checkSgx (response : AttestationChallengeResponse) (rejectDebug : Bool) (matched : Measurement) :
    Except AttestError Json := do
  let r ← verifySgxDcapQuote X D E.tokioRuntime E.nowUnix response.quoteB64 rejectDebug
  match matched with
  | .mrenclave value =>
    failIf (¬ eqIgnoreAsciiCase value r.mrenclaveHex)
      (.policy (format ["quote MRENCLAVE ", r.mrenclaveHex, " != allowlist ", value]))
    return .object [("kind", .string "sgx_dcap_ecdsa"), ("mrenclave", .string r.mrenclaveHex),
      ("mrsigner", .string r.mrsignerHex), ("report_data", .string r.reportDataHex),
      ("isv_prod_id", .number (.posInt r.isvProdId)), ("isv_svn", .number (.posInt r.isvSvn)),
      ("debug", .bool r.debug), ("tcb_status", .string r.tcbStatus)]
  | .launchDigest _ _ => .error (.policy "sgx_dcap_ecdsa quote but allowlist measurement is launch_digest")

/-- The check of an SNP report against the measurement of the allowlist. -/
def checkSnp (response : AttestationChallengeResponse) (rejectDebug : Bool) (matched : Measurement) :
    Except AttestError Json := do
  let r ← verifySnpReport X E.kdsGet response.quoteB64 rejectDebug
  let composed := challengeCanonicalLaunchDigest X r.launchMeasurementHex
  match matched with
  | .launchDigest launchDigest _ =>
    failIf (¬ eqIgnoreAsciiCase launchDigest composed)
      (.policy (format ["quote MEASUREMENT (challenge-canonical ", composed,
        ") != allowlist composed launch_digest ", launchDigest]))
    return .object [("kind", .string "snp_report"), ("product", .string r.productName),
      ("launch_measurement", .string r.launchMeasurementHex),
      ("challenge_canonical_launch_digest", .string composed), ("chip_id", .string r.chipIdHex),
      ("policy_debug", .bool r.policyDebug), ("guest_svn", .number (.posInt r.guestSvn))]
  | .mrenclave _ => .error (.policy "snp_report quote but allowlist measurement is mrenclave")

/-- The hardware check of `finish_verify`. -/
def checkHardware (response : AttestationChallengeResponse) (rejectDebug : Bool) (matched : Measurement) :
    Except AttestError Json :=
  match response.quoteFormat with
  | .sgxReport => .error (.policy
      "quote_format=sgx_report is not remotely verifiable; reject for internet clients")
  | .sgxDcapEcdsa => checkSgx X D E response rejectDebug matched
  | .snpReport => checkSnp X E response rejectDebug matched

/-- `finish_verify`, with the documents it relied on. -/
def finishVerifyRelying (opts : VerifyOptions) (outcome : ChallengeOutcome) (trust : TrustBundle)
    (peer : PeerTlsIdentity) (hostname : Str) : Run (AttestationVerdict × Relied) := do
  let response := outcome.response
  let manifest := trust.manifest.manifest
  assertEpochMonotonic E .openapiEdge manifest.epoch
  Op.lift (mapErr (fun e => .challenge e.display)
    (Challenge.verifyChallengeReportData X outcome.nonce.val response))
  let sessionBindMode ← Op.lift (sessionBind manifest.policy.requireSessionSpkiBind opts.skipSessionSpki
    response.edge.tlsCertSpkiSha256 peer)
  let candidates ← Op.lift (findMatchingReleases E.nowUnix manifest hostname (buildOf response))
  let chosen ← chooseRelease X E opts candidates response.edge.measurement
  let pin ← ceremonyPin X E opts hostname response.edge.tlsCertSpkiSha256
  crossCheckCodeHashForEdge E response.edge.codeHash response.edge.buildVersion defaultGithubOwner defaultGithubRepo
    trust.sha256sums
  let hardware ← Op.lift (checkHardware X D E response manifest.policy.rejectDebug chosen.release.row.measurement)
  rememberEpoch E .openapiEdge manifest.epoch
  let verdict : AttestationVerdict := {
    ok := true
    endpoint := outcome.endpoint
    hostname
    quoteFormat := response.quoteFormat.asStr
    buildVersion := response.edge.buildVersion
    codeHash := response.edge.codeHash
    measurement := measurementTree response.edge.measurement
    goldenVersion := chosen.goldenVersion
    policyHash := response.edge.policyHash
    tlsCertSpkiSha256 := response.edge.tlsCertSpkiSha256
    peerSpkiSha256 := peer.spkiSha256Hex
    sessionBindMode
    manifestEpoch := manifest.epoch
    manifestKeyId := trust.manifest.keyId
    trustSource := trust.trustSource
    goldenTrustSource := chosen.goldenTrustSource
    githubReleaseUrl := trust.githubReleaseUrl
    trustFallbackTip := trust.trustFallbackTip
    hardware
    verifiedAtUnix := E.nowUnix }
  return (verdict, ⟨manifest, chosen.golden, pin⟩)

def finishVerify (opts : VerifyOptions) (outcome : ChallengeOutcome) (trust : TrustBundle) (peer : PeerTlsIdentity)
    (hostname : Str) : Run AttestationVerdict := do
  let (verdict, _) ← finishVerifyRelying X D E opts outcome trust peer hostname
  return verdict

/-- The tag that `verify_openapi_edge` pins where the caller gives none: that of the live build. -/
def autoTag (opts : VerifyOptions) (response : AttestationChallengeResponse) : Option Str :=
  let version := trim response.edge.buildVersion
  if opts.githubTag = none ∧ ¬ opts.preferTeechatManifest ∧ opts.manifestPath = none ∧ version ≠ [] then
    some (if version.head? = some 'v' then version else 'v' :: version)
  else none

/-- `verify_openapi_edge` from the answer to its challenge on, with the documents it relied on. -/
def verifyOutcome (opts : VerifyOptions) (outcome : ChallengeOutcome) (peer : PeerTlsIdentity)
    (allowlistHost : Str) : Run (AttestationVerdict × Relied) := do
  let auto := autoTag opts outcome.response
  let trustOpts := { opts with githubTag := auto.or opts.githubTag }
  let trust ← loadTrustBundleForEdge X E trustOpts outcome allowlistHost auto.isSome
  finishVerifyRelying X D E opts outcome trust peer allowlistHost

/-! ### The steps of a run that returned a verdict -/

variable {X D E}

lemma finishVerify_eq_ok {trust : TrustBundle} {s s' : AttestState} {v : AttestationVerdict} :
    finishVerify X D E opts outcome trust peer hostname s = (.ok v, s') ↔
      ∃ docs, finishVerifyRelying X D E opts outcome trust peer hostname s = (.ok (v, docs), s') := by
  unfold finishVerify
  rw [Op.bind_eq_ok]
  constructor
  · rintro ⟨⟨v', docs⟩, s₁, hrun, hret⟩
    obtain ⟨hval, rfl⟩ := Prod.mk.inj hret
    obtain rfl := Except.ok.inj hval
    exact ⟨docs, hrun⟩
  · rintro ⟨docs, hrun⟩
    exact ⟨(v, docs), s', hrun, rfl⟩

lemma finishVerifyRelying_eq_ok {trust : TrustBundle} {s s' : AttestState} {v : AttestationVerdict} {docs : Relied}
    (h : finishVerifyRelying X D E opts outcome trust peer hostname s = (.ok (v, docs), s')) :
    ∃ mode candidates chosen pin hardware s₁ s₂ s₃,
      NotBelow trust.manifest.manifest.epoch (s.floor .openapiEdge) ∧
      Challenge.verifyChallengeReportData X outcome.nonce.val outcome.response = .ok () ∧
      sessionBind trust.manifest.manifest.policy.requireSessionSpkiBind opts.skipSessionSpki
        outcome.response.edge.tlsCertSpkiSha256 peer = .ok mode ∧
      findMatchingReleases E.nowUnix trust.manifest.manifest hostname (buildOf outcome.response) = .ok candidates ∧
      chooseRelease X E opts candidates outcome.response.edge.measurement s = (.ok chosen, s₁) ∧
      ceremonyPin X E opts hostname outcome.response.edge.tlsCertSpkiSha256 s₁ = (.ok pin, s₂) ∧
      s₃.floor = s₂.floor ∧
      checkHardware X D E outcome.response trust.manifest.manifest.policy.rejectDebug
        chosen.release.row.measurement = .ok hardware ∧
      rememberEpoch E .openapiEdge trust.manifest.manifest.epoch s₃ = (.ok (), s') ∧
      docs = ⟨trust.manifest.manifest, chosen.golden, pin⟩ := by
  obtain ⟨_, s₀, hassert, hrun⟩ := Op.bind_eq_ok.mp h
  clear h
  obtain ⟨rfl, hfloor⟩ := assertEpochMonotonic_eq_ok hassert
  obtain ⟨_, hdata, hrun⟩ := Op.lift_bind_eq_ok.mp hrun
  obtain ⟨mode, hmode, hrun⟩ := Op.lift_bind_eq_ok.mp hrun
  obtain ⟨candidates, hcandidates, hrun⟩ := Op.lift_bind_eq_ok.mp hrun
  obtain ⟨chosen, s₁, hchosen, hrun⟩ := Op.bind_eq_ok.mp hrun
  obtain ⟨pin, s₂, hpin, hrun⟩ := Op.bind_eq_ok.mp hrun
  obtain ⟨_, s₃, hcross, hrun⟩ := Op.bind_eq_ok.mp hrun
  obtain ⟨hardware, hhardware, hrun⟩ := Op.lift_bind_eq_ok.mp hrun
  obtain ⟨_, s₄, hremember, hrun⟩ := Op.bind_eq_ok.mp hrun
  obtain ⟨hpair, rfl⟩ := Prod.mk.inj hrun
  have hkept := (crossCheckCodeHashForEdge_floor E _ _ _ _ _).run hcross
  exact ⟨mode, candidates, chosen, pin, hardware, s₁, s₂, s₃, hfloor, mapErr_eq_ok.mp hdata, hmode, hcandidates,
    hchosen, hpin, hkept, hhardware, hremember, (Prod.mk.inj (Except.ok.inj hpair)).2.symm⟩

lemma finishVerifyRelying_of (opts : VerifyOptions) (outcome : ChallengeOutcome) (trust : TrustBundle)
    {mode : Str} {candidates : List (Listed EdgeRelease)} {chosen : Chosen}
    {pin : Option (CeremonyManifest × GoldenDigestsManifest)} {hardware : Json} {s s₁ s₂ s₃ s' : AttestState}
    (hassert : assertEpochMonotonic E .openapiEdge trust.manifest.manifest.epoch s = (.ok (), s))
    (hdata : Challenge.verifyChallengeReportData X outcome.nonce.val outcome.response = .ok ())
    (hmode : sessionBind trust.manifest.manifest.policy.requireSessionSpkiBind opts.skipSessionSpki
      outcome.response.edge.tlsCertSpkiSha256 peer = .ok mode)
    (hcandidates : findMatchingReleases E.nowUnix trust.manifest.manifest hostname (buildOf outcome.response) =
      .ok candidates)
    (hchosen : chooseRelease X E opts candidates outcome.response.edge.measurement s = (.ok chosen, s₁))
    (hpin : ceremonyPin X E opts hostname outcome.response.edge.tlsCertSpkiSha256 s₁ = (.ok pin, s₂))
    (hcross : crossCheckCodeHashForEdge E outcome.response.edge.codeHash outcome.response.edge.buildVersion
      defaultGithubOwner defaultGithubRepo trust.sha256sums s₂ = (.ok (), s₃))
    (hhardware : checkHardware X D E outcome.response trust.manifest.manifest.policy.rejectDebug
      chosen.release.row.measurement = .ok hardware)
    (hremember : rememberEpoch E .openapiEdge trust.manifest.manifest.epoch s₃ = (.ok (), s')) :
    ∃ v, finishVerifyRelying X D E opts outcome trust peer hostname s =
      (.ok (v, ⟨trust.manifest.manifest, chosen.golden, pin⟩), s') :=
  ⟨_, Op.bind_eq_ok.mpr ⟨_, _, hassert, Op.lift_bind_eq_ok.mpr ⟨_, mapErr_eq_ok.mpr hdata,
    Op.lift_bind_eq_ok.mpr ⟨_, hmode, Op.lift_bind_eq_ok.mpr ⟨_, hcandidates, Op.bind_eq_ok.mpr ⟨_, _, hchosen,
      Op.bind_eq_ok.mpr ⟨_, _, hpin, Op.bind_eq_ok.mpr ⟨_, _, hcross, Op.lift_bind_eq_ok.mpr ⟨_, hhardware,
        Op.bind_eq_ok.mpr ⟨_, _, hremember, rfl⟩⟩⟩⟩⟩⟩⟩⟩⟩⟩

lemma verifyOutcome_of_github {gh : GitHubReleaseTrust} {s s₁ s' : AttestState}
    {r : Except AttestError (AttestationVerdict × Relied)} (htag : opts.githubTag ≠ none)
    (hpath : opts.manifestPath = none) (hprefer : opts.preferTeechatManifest = false)
    (hgithub : fetchGithubReleaseTrustResolved X E opts.githubOwner opts.githubRepo opts.githubTag opts.allowLatest s =
      (.ok gh, s₁))
    (hfinish : finishVerifyRelying X D E opts outcome ⟨gh.manifest, "github", gh.releaseHtmlUrl, [], gh.sha256sums⟩ peer
      hostname s₁ = (r, s')) : verifyOutcome X D E opts outcome peer hostname s = (r, s') := by
  have hauto : autoTag opts outcome.response = none := by
    unfold autoTag
    exact if_neg fun h => htag h.1
  have hload : loadTrustBundle X E opts s =
      (.ok ⟨gh.manifest, "github", gh.releaseHtmlUrl, [], gh.sha256sums⟩, s₁) := by
    unfold loadTrustBundle
    rw [hpath, hprefer]
    exact Op.bind_eq_ok.mpr ⟨.ok gh, s₁, Op.attempt_eq_ok.mpr hgithub, rfl⟩
  unfold verifyOutcome
  rw [hauto]
  change (loadTrustBundle X E opts >>= _) s = (r, s')
  rw [Op.bind_run, hload]
  exact hfinish

lemma chooseRelease_mem {candidates : List (Listed EdgeRelease)} {measurement : Measurement}
    {s s' : AttestState} {chosen : Chosen} (h : chooseRelease X E opts candidates measurement s = (.ok chosen, s')) :
    chosen.release ∈ candidates := by
  have hgolden (sources : List GoldenLoadOptions) :
      Op.Yields (fun gm => gm.release ∈ candidates) (matchGoldenIn X E candidates measurement sources) := by
    induction sources with
    | nil => exact Op.Yields.lift fun _ hr => nomatch hr
    | cons opts rest ih =>
      refine Op.Yields.bind_any fun golden => ?_
      split
      · next rel hfind =>
        have hmem := List.mem_of_find?_eq_some hfind
        exact Op.Yields.bind_any fun _ => Op.Yields.bind_any fun _ => Op.Yields.pure hmem
      · exact ih
  unfold chooseRelease at h
  split at h
  · obtain ⟨gm, s₁, hgm, h⟩ := Op.bind_eq_ok.mp h
    rw [← Except.ok.inj (Prod.mk.inj h).1]
    exact hgolden _ _ gm s₁ hgm
  · obtain ⟨release, hrelease, h⟩ := Op.lift_bind_eq_ok.mp h
    rw [← Except.ok.inj (Prod.mk.inj h).1]
    exact List.mem_of_mem_head? (okOr_eq_ok.mp hrelease)

end Finish

end TeechatOpenapi.Attest
