import TeechatOpenapi.Attest.Manifest

/-!
# Golden digests (`openapi-attest/src/golden.rs`)

The public allowlist of OS images.  `loadGoldenDigests` tries local files, then GitHub, then the signed copy at
teechat.ai.  Neither `parseGoldenManifest` nor `findGoldenRelease` looks at a time: `not_after` and `retired_at` are
read and not used.
-/

namespace TeechatOpenapi.Attest

open Lib Platform

/-- An OS image, with its digests. -/
structure GoldenRelease where
  goldenVersion : Str
  tlsKeyPolicy : Option Str
  launchDigest : Option Str
  imageDigest : Option Str
  mrEnclave : Option Str
  retiredAt : Option Str
  deriving DecidableEq

/-- The images for one kind of TEE. -/
structure GoldenBackend where
  active : List GoldenRelease
  retired : List GoldenRelease

/-- `GoldenRole`: the backends by name, of several with one name the last counts. -/
structure GoldenRole where
  backends : List (Str × GoldenBackend)

/-- The images of each role. -/
structure GoldenRoles where
  openapi : Option GoldenRole
  gateway : Option GoldenRole
  engine : Option GoldenRole

/-- The signed list of OS images. -/
structure GoldenDigestsManifest where
  schema : Str
  keyId : Str
  epoch : Nat
  notAfter : Str
  retiredGracePeriodDays : Nat
  roles : GoldenRoles

/-- Golden digests whose signature was checked, and where they came from. -/
structure VerifiedGoldenManifest where
  manifest : GoldenDigestsManifest
  trustSource : Str

/-- Where golden digests are looked for. -/
structure GoldenLoadOptions where
  githubOwner : Str := "Lightec-AI"
  githubRepo : Str := "teechat-golden-digests"
  githubTag : Option Str := none
  wwwUrl : Option Str := some "https://www.teechat.ai/.well-known/teechat/golden/manifest.json"
  manifestPath : Option Str := none
  manifestSigPath : Option Str := none
  preferWww : Bool := false

def GoldenRelease.read (j : Json) : Option GoldenRelease := do
  let _ ← optText (j.slot 10 2 "vehicle")
  let _ ← optText (j.slot 10 5 "rootfs_verity_sha256")
  let _ ← optText (j.slot 10 7 "mr_signer")
  let _ ← optText (j.slot 10 8 "notes")
  return {
    goldenVersion := ← Json.required Json.asStr? (j.slot 10 0 "golden_version")
    tlsKeyPolicy := ← optText (j.slot 10 1 "tls_key_policy")
    launchDigest := ← optText (j.slot 10 3 "launch_digest")
    imageDigest := ← optText (j.slot 10 4 "image_digest")
    mrEnclave := ← optText (j.slot 10 6 "mr_enclave")
    retiredAt := ← optText (j.slot 10 9 "retired_at") }

def GoldenBackend.read (j : Json) : Option GoldenBackend := do
  return {
    active := ← Json.defaulted [] (Json.vec GoldenRelease.read) (j.slot 2 0 "active")
    retired := ← Json.defaulted [] (Json.vec GoldenRelease.read) (j.slot 2 1 "retired") }

def GoldenRole.read (j : Json) : Option GoldenRole := do
  return { backends := ← Json.required (Json.mapOf GoldenBackend.read) (j.slot 1 0 "backends") }

def GoldenRoles.read (j : Json) : Option GoldenRoles := do
  return {
    openapi := ← Json.defaulted none (Json.nullable GoldenRole.read) (j.slot 3 0 "openapi")
    gateway := ← Json.defaulted none (Json.nullable GoldenRole.read) (j.slot 3 1 "gateway")
    engine := ← Json.defaulted none (Json.nullable GoldenRole.read) (j.slot 3 2 "engine") }

def GoldenDigestsManifest.read (j : Json) : Option GoldenDigestsManifest := do
  let _ ← Json.required Json.asStr? (j.slot 8 2 "published_at")
  let _ ← optText (j.slot 8 6 "manifest_url")
  return {
    schema := ← Json.required Json.asStr? (j.slot 8 0 "schema")
    keyId := ← Json.required Json.asStr? (j.slot 8 1 "key_id")
    epoch := ← Json.required (Json.asUnsigned? u64Max) (j.slot 8 3 "epoch")
    notAfter := ← Json.required Json.asStr? (j.slot 8 4 "not_after")
    retiredGracePeriodDays := ← Json.defaulted 0 (Json.asUnsigned? u64Max) (j.slot 8 5 "retired_grace_period_days")
    roles := ← Json.required GoldenRoles.read (j.slot 8 7 "roles") }

def defaultGoldenWwwUrl : Str := "https://www.teechat.ai/.well-known/teechat/golden/manifest.json"

def defaultGoldenReleaseTag : Str := "epoch-76-engine-app-0.15.6"

section Load

variable (X : Crates) (E : Outside)

def parseGoldenManifest (bytes : Bytes) : Except AttestError GoldenDigestsManifest := do
  let m ← mapErr (fun e => .manifest (format ["golden json: ", e])) (X.fromSlice GoldenDigestsManifest.read bytes)
  failIf (m.schema ≠ ("teechat-golden-digests-manifest/v1" : Str))
    (.manifest (format ["unsupported golden schema ", m.schema]))
  failIf (m.keyId ≠ ("golden-digests-v1" : Str))
    (.manifest (format ["unexpected golden key_id ", m.keyId, " (want golden-digests-v1)"]))
  return m

def verifySignedGoldenBytes (bytes : Bytes) (sigHex : Str) : Except AttestError VerifiedGoldenManifest := do
  let key ← loadPinnedVerifyingKey X E
  verifyManifestSignature X bytes sigHex key
  let manifest ← parseGoldenManifest X bytes
  return ⟨manifest, "teechat_fallback"⟩

def loadSignedGoldenFiles (manifestPath sigPath : Str) : Run VerifiedGoldenManifest := do
  let bytes ← fsRead E manifestPath
  let sig ← fsReadToString E sigPath
  let v ← Op.lift (verifySignedGoldenBytes X E bytes sig)
  return { v with trustSource := "local" }

def fetchSignedGoldenWww (url : Str) : Run VerifiedGoldenManifest := do
  let bytes ← httpGetBytes E url
  let raw ← httpGetBytes E (sigUrlOf replaceFirst url)
  let sig ← Op.lift (mapErr (fun e => .manifest (format ["golden sig utf8: ", e])) (stringFromUtf8 raw))
  Op.lift (verifySignedGoldenBytes X E bytes sig)

/-- The release tag of `fetch_github_golden_digests`. -/
def goldenTag (tag : Option Str) : Except AttestError Str :=
  match (tag.map trim).filter (· ≠ []) with
  | some t =>
    if t = ("latest" : Str) then
      .error (.manifest "golden releases/latest is refused (RB-04); pass --golden-github-tag epoch-N")
    else .ok t
  | none => .ok defaultGoldenReleaseTag

def fetchGithubGoldenDigests (owner repo : Str) (tag : Option Str) : Run VerifiedGoldenManifest := do
  let tag ← Op.lift (goldenTag tag)
  let bytes ← httpGetBytes E (format ["https://github.com/", owner, "/", repo, "/releases/download/", tag,
    "/golden-digests.json"])
  let manifest ← Op.lift (parseGoldenManifest X bytes)
  return ⟨manifest, "github"⟩

/-- The network part of `load_golden_digests`: GitHub first, the signed copy when that fails. -/
def loadGoldenFromNetwork (opts : GoldenLoadOptions) : Run VerifiedGoldenManifest := do
  match ← Op.attempt (fetchGithubGoldenDigests X E opts.githubOwner opts.githubRepo opts.githubTag) with
  | .ok v => return v
  | .error ghErr =>
    let v ← fetchSignedGoldenWww X E (opts.wwwUrl.getD defaultGoldenWwwUrl)
    return { v with trustSource := format ["teechat_fallback (GitHub error: ", ghErr.display, ")"] }

def loadGoldenDigests (opts : GoldenLoadOptions) : Run VerifiedGoldenManifest :=
  match opts.manifestPath, opts.manifestSigPath with
  | some mp, some sp => loadSignedGoldenFiles X E mp sp
  | _, _ =>
    if opts.preferWww then fetchSignedGoldenWww X E (opts.wwwUrl.getD defaultGoldenWwwUrl)
    else loadGoldenFromNetwork X E opts

lemma parseGoldenManifest_epoch {bytes : Bytes} {m : GoldenDigestsManifest}
    (h : parseGoldenManifest X bytes = .ok m) : m.epoch ≤ u64Max := by
  simp only [parseGoldenManifest, bind_eq_ok, mapErr_eq_ok, failIf_eq_ok, pure_eq_ok, Crates.fromSlice, okOr_eq_ok] at h
  obtain ⟨m', ⟨tree, -, hread⟩, -, -, -, -, rfl⟩ := h
  simp only [GoldenDigestsManifest.read, Option.bind_eq_bind, Option.bind_eq_some_iff, Option.pure_def,
    Option.some.injEq] at hread
  obtain ⟨-, -, -, -, _, -, _, -, epoch, hepoch, _, -, _, -, _, -, rfl⟩ := hread
  exact Json.required_asUnsigned?_le hepoch

lemma loadGoldenDigests_epoch (opts : GoldenLoadOptions) :
    Op.Yields (fun v => v.manifest.epoch ≤ u64Max) (loadGoldenDigests X E opts) := by
  have hsigned (bytes : Bytes) (sig : Str) (v : VerifiedGoldenManifest)
      (h : verifySignedGoldenBytes X E bytes sig = .ok v) : v.manifest.epoch ≤ u64Max := by
    simp only [verifySignedGoldenBytes, bind_eq_ok, pure_eq_ok] at h
    obtain ⟨-, -, -, -, m, hparse, rfl⟩ := h
    exact parseGoldenManifest_epoch X hparse
  have hwww (url : Str) : Op.Yields (fun v => v.manifest.epoch ≤ u64Max) (fetchSignedGoldenWww X E url) :=
    Op.Yields.bind_any fun _ => Op.Yields.bind_any fun _ => Op.Yields.bind_any fun _ =>
      Op.Yields.lift fun v hv => hsigned _ _ v hv
  have hgithub : Op.Yields (fun v => v.manifest.epoch ≤ u64Max)
      (fetchGithubGoldenDigests X E opts.githubOwner opts.githubRepo opts.githubTag) :=
    Op.Yields.bind_any fun _ => Op.Yields.bind_any fun _ =>
      Op.Yields.bind (Op.Yields.lift fun _ hm => parseGoldenManifest_epoch X hm) fun _ hm => Op.Yields.pure hm
  unfold loadGoldenDigests
  split
  · exact Op.Yields.bind_any fun _ => Op.Yields.bind_any fun _ =>
      Op.Yields.bind (Op.Yields.lift fun v hv => hsigned _ _ v hv) fun _ hv => Op.Yields.pure hv
  · split
    · exact hwww _
    · refine Op.Yields.bind (Op.Yields.attempt hgithub) fun r hr => ?_
      rcases r with e | v
      · exact Op.Yields.bind (hwww _) fun _ hv => Op.Yields.pure hv
      · exact Op.Yields.pure (hr v rfl)

lemma fetchSignedGoldenWww_floor (url : Str) : Op.Fixes AttestState.floor (fetchSignedGoldenWww X E url) :=
  Op.Fixes.bind (httpGetBytes_floor E _) fun _ => Op.Fixes.bind (httpGetBytes_floor E _) fun _ =>
    Op.Fixes.lift_bind fun _ => Op.Fixes.lift _ _

lemma fetchGithubGoldenDigests_floor (owner repo : Str) (tag : Option Str) :
    Op.Fixes AttestState.floor (fetchGithubGoldenDigests X E owner repo tag) :=
  Op.Fixes.lift_bind fun _ => Op.Fixes.bind (httpGetBytes_floor E _) fun _ =>
    Op.Fixes.lift_bind fun _ => Op.Fixes.pure _ _

lemma loadGoldenFromNetwork_floor (opts : GoldenLoadOptions) :
    Op.Fixes AttestState.floor (loadGoldenFromNetwork X E opts) := by
  refine Op.Fixes.bind (Op.Fixes.attempt (fetchGithubGoldenDigests_floor X E _ _ _)) fun r => ?_
  rcases r with e | v
  · exact Op.Fixes.bind (fetchSignedGoldenWww_floor X E _) fun _ => Op.Fixes.pure _ _
  · exact Op.Fixes.pure _ _

lemma loadGoldenDigests_floor (opts : GoldenLoadOptions) :
    Op.Fixes AttestState.floor (loadGoldenDigests X E opts) := by
  have hfiles (mp sp : Str) : Op.Fixes AttestState.floor (loadSignedGoldenFiles X E mp sp) :=
    Op.Fixes.bind (fsRead_floor E _) fun _ => Op.Fixes.bind (fsReadToString_floor E _) fun _ =>
      Op.Fixes.lift_bind fun _ => Op.Fixes.pure _ _
  unfold loadGoldenDigests
  split
  · exact hfiles _ _
  · split
    · exact fetchSignedGoldenWww_floor X E _
    · exact loadGoldenFromNetwork_floor X E opts

end Load

/-- The role of `find_golden_release`. -/
def GoldenRoles.role (roles : GoldenRoles) (role : Str) : Except AttestError GoldenRole := do
  let obj ← if role = ("openapi" : Str) then .ok roles.openapi
    else if role = ("gateway" : Str) then .ok roles.gateway
    else if role = ("engine" : Str) then .ok roles.engine
    else .error (.policy (format ["unknown golden role ", role]))
  okOr obj (.policy (format ["golden role ", role, " missing"]))

def GoldenRole.backend (role : GoldenRole) (name : Str) : Option GoldenBackend :=
  (role.backends.reverse.find? fun b => b.1 = name).map Prod.snd

/-- The rows of a backend, active ones first. -/
def GoldenBackend.rows (backend : GoldenBackend) : List (Listed GoldenRelease) := listed backend.active backend.retired

def findGoldenRelease (manifest : GoldenDigestsManifest) (role backend goldenVersion : Str) :
    Except AttestError (Listed GoldenRelease) := do
  let roleObj ← manifest.roles.role role
  let backendObj ← okOr (roleObj.backend backend)
    (.policy (format ["golden backend ", backend, " missing for ", role]))
  okOr (backendObj.rows.find? fun rel => rel.row.goldenVersion = goldenVersion)
    (.policy (format ["golden_version ", goldenVersion, " not on allowlist for ", role, "/", backend]))

def goldenOsPinMatches (golden : GoldenRelease) : Measurement → Bool
  | .launchDigest _ imageDigest => golden.imageDigest.any (eqIgnoreAsciiCase · imageDigest)
  | .mrenclave value => golden.mrEnclave.any (eqIgnoreAsciiCase · value)

end TeechatOpenapi.Attest
