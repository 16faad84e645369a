import TeechatOpenapi.Attest.Manifest

/-!
# Trust from GitHub Releases (`openapi-attest/src/github_release.rs`)

The allowlist and the `SHA256SUMS` of a release.  A release is named by a tag; the moving `latest` is refused unless it
is asked for.
-/

namespace TeechatOpenapi.Attest

open Lib Platform

def defaultGithubOwner : Str := "Lightec-AI"

def defaultGithubRepo : Str := "teechat-openapi"

def defaultOpenapiReleaseTag : Str := "v0.11.1"

def attestAssetName : Str := "openapi-edge-attest.json"

def sha256sumsAssetName : Str := "SHA256SUMS"

def resolveOpenapiReleaseTag (tag : Option Str) (allowLatest : Bool) : Except AttestError Str :=
  match (tag.map trim).filter (· ≠ []) with
  | some t =>
    if t = ("latest" : Str) ∧ ¬ allowLatest then
      .error (.policy "releases/latest is refused (RB-04); pass --github-tag vX.Y.Z")
    else .ok t
  | none => .ok defaultOpenapiReleaseTag

def assertNotMutableLatestUrl (url : Str) : Except AttestError Unit :=
  failIf (containsStr url "/releases/latest") (.policy (format ["mutable releases/latest URL refused (RB-04): ", url]))

def githubReleasesApiUrl (owner repo : Str) (tag : Option Str) : Str :=
  let base := format ["https://api.github.com/repos/", owner, "/", repo, "/releases/"]
  match tag with
  | some t =>
    if t = ("latest" : Str) then base ++ "latest".toList
    else if t ≠ [] then base ++ "tags/".toList ++ t
    else base ++ "tags/".toList ++ defaultOpenapiReleaseTag
  | none => base ++ "tags/".toList ++ defaultOpenapiReleaseTag

def githubReleasesHtmlUrl (owner repo : Str) : Str := format ["https://github.com/", owner, "/", repo, "/releases"]

def fallbackTip (owner repo : Str) (releaseHtmlUrl : Option Str) : Str :=
  let page := (releaseHtmlUrl.filter (· ≠ [])).getD (githubReleasesHtmlUrl owner repo)
  format ["GitHub Releases were unreachable; used the teechat.ai signed allowlist as a network fallback. ",
    "When you can reach GitHub, open ", page, " and confirm the release asset ", attestAssetName,
    " (and SHA256SUMS) lists the same build_version / code_hash / measurement as this result."]

/-- A round of the loop of `parse_sha256sums`: the digest of a line, nothing for a blank line or a comment. -/
def digestOfLine (rawLine : Str) : Except AttestError (Option Str) :=
  let line := trim rawLine
  if line = [] ∨ line.head? = some '#' then .ok none
  else do
    -- a trimmed line starts with its first word
    let word := line.takeWhile fun c => ¬ isWhitespace c
    failIf ((utf8 word).length ≠ 64 ∨ ¬ word.all isAsciiHexdigit) (.manifest (format ["SHA256SUMS: bad digest ", word]))
    return some (toAsciiLowercase word)

def parseSha256sums (text : Str) : Except AttestError (List Str) := do
  let digests ← (lines text).mapM digestOfLine
  return digests.filterMap id

def crossCheckCodeHashAgainstSha256sums (codeHash : Str) : Option (List Str) → Except AttestError Unit
  | none => .ok ()
  | some sums => do
    failIf (sums = []) (.policy "SHA256SUMS is empty")
    failIf (¬ sums.any (eqIgnoreAsciiCase · (toAsciiLowercase codeHash)))
      (.policy (format ["edge code_hash ", codeHash, " not present in GitHub release SHA256SUMS"]))

/-- A file of a GitHub release. -/
structure GhAsset where
  name : Str
  browserDownloadUrl : Str

/-- A release, as GitHub describes it. -/
structure GhRelease where
  tagName : Str
  htmlUrl : Str
  assets : List GhAsset

/-- What is trusted of a release: the manifest and the `SHA256SUMS`. -/
structure GitHubReleaseTrust where
  manifest : VerifiedManifest
  releaseHtmlUrl : Str
  releaseTag : Str
  sha256sums : Option (List Str)

def GhAsset.read (j : Json) : Option GhAsset := do
  return {
    name := ← Json.required Json.asStr? (j.slot 2 0 "name")
    browserDownloadUrl := ← Json.required Json.asStr? (j.slot 2 1 "browser_download_url") }

def GhRelease.read (j : Json) : Option GhRelease := do
  return {
    tagName := ← Json.required Json.asStr? (j.slot 3 0 "tag_name")
    htmlUrl := ← Json.required Json.asStr? (j.slot 3 1 "html_url")
    assets := ← Json.required (Json.vec GhAsset.read) (j.slot 3 2 "assets") }

section Fetch

variable (X : Crates) (E : Outside)

/-- The digests behind an address. -/
def fetchSums (url : Str) : Run (List Str) := do
  let raw ← httpGetGithub E url
  let text ← Op.lift (mapErr (fun e => .manifest (format ["SHA256SUMS utf8: ", e])) (stringFromUtf8 raw))
  Op.lift (parseSha256sums text)

/-- The digests of a release that has the asset. -/
def releaseSums (release : GhRelease) : Run (Option (List Str)) :=
  match release.assets.find? fun a => a.name = sha256sumsAssetName with
  | some a => some <$> fetchSums E a.browserDownloadUrl
  | none => pure none

def fetchGithubReleaseTrustResolved (owner repo : Str) (tag : Option Str) (allowLatest : Bool) :
    Run GitHubReleaseTrust := do
  let tag ← Op.lift (resolveOpenapiReleaseTag tag allowLatest)
  let body ← httpGetGithub E (githubReleasesApiUrl owner repo (some tag))
  let release ← Op.lift (mapErr (fun e => .http (format ["GitHub release JSON: ", e]))
    (X.fromSlice GhRelease.read body))
  let attest ← Op.lift (okOr (release.assets.find? fun a => a.name = attestAssetName)
    (.manifest (format ["GitHub release ", release.tagName, " missing asset ", attestAssetName])))
  let attestBytes ← httpGetGithub E attest.browserDownloadUrl
  let manifest ← Op.lift (parseAndValidateManifest X E attestBytes)
  let sha256sums ← releaseSums E release
  return {
    manifest := ⟨manifest, format ["github:", repo, ":", release.tagName]⟩
    releaseHtmlUrl := release.htmlUrl
    releaseTag := release.tagName
    sha256sums }

def crossCheckCodeHashForEdge (codeHash buildVersion owner repo : Str) (latestSha256sums : Option (List Str)) :
    Run Unit :=
  match crossCheckCodeHashAgainstSha256sums codeHash latestSha256sums with
  | .ok () => return ()
  | .error _ => do
    let tag := if buildVersion.head? = some 'v' then buildVersion else 'v' :: buildVersion
    let url := format ["https://github.com/", owner, "/", repo, "/releases/download/", tag, "/", sha256sumsAssetName]
    match ← Op.attempt (httpGetGithub E url) with
    | .ok raw =>
      let text ← Op.lift (mapErr (fun e => .manifest (format ["SHA256SUMS utf8: ", e])) (stringFromUtf8 raw))
      let sums ← Op.lift (parseSha256sums text)
      Op.lift (crossCheckCodeHashAgainstSha256sums codeHash (some sums))
    | .error e =>
      Op.lift (.error (.policy (format ["edge code_hash ", codeHash,
        " not in latest SHA256SUMS and failed to fetch ", url, ": ", e.display])))

lemma fetchSums_floor (url : Str) : Op.Fixes AttestState.floor (fetchSums E url) :=
  Op.Fixes.bind (httpGetBytes_floor E url) fun _ => Op.Fixes.lift_bind fun _ => Op.Fixes.lift _ _

lemma releaseSums_floor (release : GhRelease) : Op.Fixes AttestState.floor (releaseSums E release) := by
  unfold releaseSums
  split
  · exact Op.Fixes.bind (fetchSums_floor E _) fun _ => Op.Fixes.pure _ _
  · exact Op.Fixes.pure _ _

lemma fetchGithubReleaseTrustResolved_floor (owner repo : Str) (tag : Option Str) (allowLatest : Bool) :
    Op.Fixes AttestState.floor (fetchGithubReleaseTrustResolved X E owner repo tag allowLatest) := by
  refine Op.Fixes.lift_bind fun _ => ?_
  refine Op.Fixes.bind (httpGetBytes_floor E _) fun _ => ?_
  refine Op.Fixes.lift_bind fun _ => ?_
  refine Op.Fixes.lift_bind fun _ => ?_
  refine Op.Fixes.bind (httpGetBytes_floor E _) fun _ => ?_
  refine Op.Fixes.lift_bind fun _ => ?_
  exact Op.Fixes.bind (releaseSums_floor E _) fun _ => Op.Fixes.pure _ _

lemma crossCheckCodeHashForEdge_floor (codeHash buildVersion owner repo : Str) (sums : Option (List Str)) :
    Op.Fixes AttestState.floor (crossCheckCodeHashForEdge E codeHash buildVersion owner repo sums) := by
  unfold crossCheckCodeHashForEdge
  split
  · exact Op.Fixes.pure _ _
  · refine Op.Fixes.bind (Op.Fixes.attempt (httpGetBytes_floor E _)) fun r => ?_
    rcases r with e | raw
    · exact Op.Fixes.lift _ _
    · exact Op.Fixes.lift_bind fun _ => Op.Fixes.lift_bind fun _ => Op.Fixes.lift _ _

lemma fetchGithubReleaseTrustResolved_unexpired (owner repo : Str) (tag : Option Str) (allowLatest : Bool) :
    Op.Yields (fun gh => Unexpired E.nowUnix gh.manifest.manifest.notAfter)
      (fetchGithubReleaseTrustResolved X E owner repo tag allowLatest) := by
  refine Op.Yields.bind_any fun _ => Op.Yields.bind_any fun _ => Op.Yields.bind_any fun _ => ?_
  refine Op.Yields.bind_any fun _ => Op.Yields.bind_any fun _ => ?_
  refine Op.Yields.bind (Op.Yields.lift fun m hm => parseAndValidateManifest_eq_ok X E hm) fun m hm => ?_
  exact Op.Yields.bind_any fun _ => Op.Yields.pure hm

variable {X E}

lemma fetchGithubReleaseTrustResolved_of (owner repo : Str) {tag : Option Str} {allowLatest : Bool} {t : Str}
    {body attestBytes : Bytes} {release : GhRelease} {attest : GhAsset} {manifest : OpenApiEdgeManifest}
    {sha256sums : Option (List Str)} {s s₁ s₂ s₃ : AttestState}
    (htag : resolveOpenapiReleaseTag tag allowLatest = .ok t)
    (hbody : httpGetGithub E (githubReleasesApiUrl owner repo (some t)) s = (.ok body, s₁))
    (hrelease : X.fromSlice GhRelease.read body = .ok release)
    (hattest : release.assets.find? (fun a => a.name = attestAssetName) = some attest)
    (hbytes : httpGetGithub E attest.browserDownloadUrl s₁ = (.ok attestBytes, s₂))
    (hmanifest : parseAndValidateManifest X E attestBytes = .ok manifest)
    (hsums : releaseSums E release s₂ = (.ok sha256sums, s₃)) :
    fetchGithubReleaseTrustResolved X E owner repo tag allowLatest s =
      (.ok ⟨⟨manifest, format ["github:", repo, ":", release.tagName]⟩, release.htmlUrl, release.tagName, sha256sums⟩,
        s₃) := by
  refine Op.lift_bind_eq_ok.mpr ⟨t, htag, Op.bind_eq_ok.mpr ⟨body, s₁, hbody, ?_⟩⟩
  refine Op.lift_bind_eq_ok.mpr ⟨release, mapErr_eq_ok.mpr hrelease, ?_⟩
  refine Op.lift_bind_eq_ok.mpr ⟨attest, okOr_eq_ok.mpr hattest, Op.bind_eq_ok.mpr ⟨attestBytes, s₂, hbytes, ?_⟩⟩
  exact Op.lift_bind_eq_ok.mpr ⟨manifest, hmanifest, Op.bind_eq_ok.mpr ⟨sha256sums, s₃, hsums, rfl⟩⟩

end Fetch

end TeechatOpenapi.Attest
