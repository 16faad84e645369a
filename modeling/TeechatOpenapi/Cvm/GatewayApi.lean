import TeechatOpenapi.Cvm.Forward

/-!
# The client of the gateway (`openapi-platform-cvm/src/gateway_ope_api.rs`)

Each call of the client sends one request and reads one answer.  `ureq` is the function that answers a request
(`agent`): with a failure, or with a status and the text of the body, which it may fail to read.
-/

namespace TeechatOpenapi.Cvm

open Lib Encoding Platform Attest TeechatOpenapi.Core

/-- The gateway's answer to a health probe. -/
structure HealthResponse where
  ok : Bool
  plane : Str
  trafficClassAuthor : Str
  auth : Option Str
  peerPin : Option Str

/-- The gateway's list of engines. -/
structure InventoryResponse where
  engines : List InventoryEngine
  keySet : Option Str

def HealthResponse.read (j : Json) : Option HealthResponse := do
  return {
    ok := ← Json.required Json.asBool? (j.slot 5 0 "ok")
    plane := ← Json.required Json.asStr? (j.slot 5 1 "plane")
    trafficClassAuthor := ← Json.required Json.asStr? (j.slot 5 2 "traffic_class_author")
    auth := ← Json.defaulted none (Json.nullable Json.asStr?) (j.slot 5 3 "auth")
    peerPin := ← Json.defaulted none (Json.nullable Json.asStr?) (j.slot 5 4 "peer_pin") }

def InventoryEngine.read (j : Json) : Option InventoryEngine := do
  return {
    engineId := ← Json.required Json.asStr? (j.slot 5 0 "engine_id")
    engineSet := ← Json.defaulted "shared".toList Json.asStr? (j.slot 5 1 "engine_set")
    models := ← Json.defaulted [] (Json.vec Json.asStr?) (j.slot 5 2 "models")
    healthy := ← Json.defaulted false Json.asBool? (j.slot 5 3 "healthy")
    readySessions := ← Json.defaulted 0 (Json.asUnsigned? (2 ^ 32 - 1)) (j.slot 5 4 "ready_sessions") }

def InventoryResponse.read (j : Json) : Option InventoryResponse := do
  return {
    engines := ← Json.defaulted [] (Json.vec InventoryEngine.read) (j.slot 2 0 "engines")
    keySet := ← Json.defaulted none (Json.nullable Json.asStr?) (j.slot 2 1 "key_set") }

def PreassignTrustHybrid.read (j : Json) : Option PreassignTrustHybrid := do
  return {
    kex := ← Json.defaulted [] Json.asStr? (j.slot 3 0 "kex")
    mlkemEncapsulationKey := ← Json.required Json.asStr? (j.slot 3 1 "mlkem_encapsulation_key")
    x25519Public := ← Json.required Json.asStr? (j.slot 3 2 "x25519_public") }

def PreassignTrustIdentity.read (j : Json) : Option PreassignTrustIdentity := do
  return {
    ed25519Public := ← Json.required Json.asStr? (j.slot 2 0 "ed25519_public")
    identitySignature := ← Json.required Json.asStr? (j.slot 2 1 "identity_signature") }

def PreassignTrustCpuTee.read (j : Json) : Option PreassignTrustCpuTee := do
  return {
    kind := ← Json.defaulted [] Json.asStr? (j.slot 2 0 "kind")
    quote := ← Json.defaulted [] Json.asStr? (j.slot 2 1 "quote") }

def readTrustAttestation (j : Json) : Option (Option PreassignTrustCpuTee) :=
  Json.defaulted none (Json.nullable PreassignTrustCpuTee.read) (j.slot 1 0 "cpu_tee")

def PreassignTrust.read (j : Json) : Option PreassignTrust := do
  return {
    engineId := ← Json.required Json.asStr? (j.slot 7 0 "engine_id")
    epochId := ← Json.required Json.asStr? (j.slot 7 1 "epoch_id")
    notBefore := ← Json.required Json.asStr? (j.slot 7 2 "not_before")
    notAfter := ← Json.required Json.asStr? (j.slot 7 3 "not_after")
    hybrid := ← Json.required PreassignTrustHybrid.read (j.slot 7 4 "hybrid")
    identity := ← Json.required PreassignTrustIdentity.read (j.slot 7 5 "identity")
    attestation := ← Json.defaulted none (Json.nullable readTrustAttestation) (j.slot 7 6 "attestation") }

def PreassignResponse.read (j : Json) : Option PreassignResponse := do
  return {
    assignId := ← Json.required Json.asStr? (j.slot 8 0 "assign_id")
    engineId := ← Json.required Json.asStr? (j.slot 8 1 "engine_id")
    engineSet := ← Json.required Json.asStr? (j.slot 8 2 "engine_set")
    keySet := ← Json.required Json.asStr? (j.slot 8 3 "key_set")
    openapiKeyId := ← Json.required Json.asStr? (j.slot 8 4 "openapi_key_id")
    expiresAtMs := ← Json.required Json.asU64? (j.slot 8 5 "expires_at_ms")
    ttlMs := ← Json.required Json.asU64? (j.slot 8 6 "ttl_ms")
    trust := ← Json.required PreassignTrust.read (j.slot 8 7 "trust") }

/-- The derived `Deserialize` of `EngineChallengeWireMeasurement`. -/
def readWireMeasurement (j : Json) : Option EngineChallengeWireMeasurement := do
  return {
    kind := ← Json.required Json.asStr? (j.slot 4 0 "kind")
    launchDigest := ← Json.optional Json.asStr? (j.slot 4 1 "launch_digest")
    imageDigest := ← Json.optional Json.asStr? (j.slot 4 2 "image_digest")
    mrenclave := ← Json.optional Json.asStr? (j.slot 4 3 "mrenclave") }

def readWireEngine (j : Json) : Option EngineChallengeWireEngine := do
  return {
    engineId := ← Json.required Json.asStr? (j.slot 3 0 "engine_id")
    policyHash := ← Json.required Json.asStr? (j.slot 3 1 "policy_hash")
    measurement := ← Json.required readWireMeasurement (j.slot 3 2 "measurement") }

def readWireEpoch (j : Json) : Option EngineChallengeWireEpoch := do
  let field (i : Nat) (name : Str) : Option Str := Json.required Json.asStr? (j.slot 6 i name)
  return {
    epochId := ← field 0 "epoch_id"
    notBefore := ← field 1 "not_before"
    notAfter := ← field 2 "not_after"
    mlkemEncapsulationKey := ← field 3 "mlkem_encapsulation_key"
    x25519Public := ← field 4 "x25519_public"
    usageSigningPublic := ← field 5 "usage_signing_public" }

/-- The derived `Deserialize` of a struct with one text. -/
def readOnlyField (name : Str) (j : Json) : Option Str := Json.required Json.asStr? (j.slot 1 0 name)

def readWireCpu (j : Json) : Option EngineChallengeWireCpu := do
  return {
    quoteB64 := ← Json.required Json.asStr? (j.slot 2 0 "quote_b64")
    endorsement := ← Json.defaulted none (Json.nullable (readOnlyField "vcek_der_b64")) (j.slot 2 1 "endorsement") }

/-- The derived `Deserialize` of `EngineChallengeWireResponse`. -/
def readWireResponse (j : Json) : Option EngineChallengeWireResponse := do
  return {
    schemaVersion := ← Json.required (Json.asUnsigned? 255) (j.slot 7 0 "schema_version")
    reportDataVersion := ← Json.required (Json.asUnsigned? 255) (j.slot 7 1 "report_data_version")
    engine := ← Json.required readWireEngine (j.slot 7 2 "engine")
    epoch := ← Json.required readWireEpoch (j.slot 7 3 "epoch")
    challengeNonceB64 := ← Json.required Json.asStr? (j.slot 7 4 "challenge_nonce_b64")
    cpu := ← Json.required readWireCpu (j.slot 7 5 "cpu")
    gpu := ← Json.optional (readOnlyField "evidence_sha256") (j.slot 7 6 "gpu") }

/-- A request of the client. -/
structure HttpCall where
  method : HttpMethod
  url : Str
  headers : List (Str × Str)
  body : Bytes

/-- An answer: its status, and what `into_string` makes of the body. -/
structure HttpReply where
  status : Nat
  text : Except Str Str

/-- The client, with what `ureq` answers each request (`agent`). -/
structure GatewayOpeApiClient where
  baseUrl : Str
  token : Option Str
  agent : HttpCall → Except Str HttpReply

/-- The digits of `{:X}`. -/
def upperHexDigit (v : Nat) : Char := if v < 10 then Char.ofNat (48 + v) else Char.ofNat (55 + v)

def urlencodingMinimal (s : Str) : Str :=
  (utf8 s).flatMap fun b =>
    let c := Char.ofNat b.toNat
    if ('A' ≤ c ∧ c ≤ 'Z') ∨ ('a' ≤ c ∧ c ≤ 'z') ∨ isAsciiDigit c ∨ c ∈ ['-', '_', '.', '~'] then [c]
    else ['%', upperHexDigit (b.toNat / 16), upperHexDigit (b.toNat % 16)]

/-- `challenge_path`. -/
def challengeEnginePath (engineId : Str) : Str :=
  format ["/v1/ope/api/engines/", urlencodingMinimal (trim engineId), "/challenge"]

namespace GatewayOpeApiClient

variable (c : GatewayOpeApiClient)

def url (path : Str) : Str := c.baseUrl ++ path

def applyAuth (call : HttpCall) : HttpCall :=
  match c.token with
  | some tok => { call with headers := call.headers ++ [("Authorization".toList, "Bearer ".toList ++ tok)] }
  | none => call

def getCall (url : Str) : HttpCall := c.applyAuth ⟨.get, url, [], []⟩

def postCall (url : Str) (body : Bytes) : HttpCall :=
  let call := c.applyAuth ⟨.post, url, [], body⟩
  { call with headers := call.headers ++ [("Content-Type".toList, "application/json".toList)] }

end GatewayOpeApiClient

/-- A member that is left out when there is no value. -/
def optionalMember (name : Str) (value : Option Str) : List (Str × Json) := value.toList.map fun v => (name, .string v)

def PreassignRequest.tree (req : PreassignRequest) : Json :=
  .object (("engine_id", .string req.engineId) :: (optionalMember "key_set" req.keySet ++
    optionalMember "model" req.model ++ optionalMember "openapi_key_id" req.openapiKeyId))

/-- `truncate_body`; `&s[..MAX]` panics inside a character. -/
def truncateBody {ε : Type} (s : Str) : Except (Fault ε) Str :=
  if (utf8 s).length ≤ 256 then .ok s
  else
    match splitAtByte s 256 with
    | some (head, _) => .ok (head ++ ['…'])
    | none => .error .panicked

section Client

variable (X : Crates)

/-- What each call does with its answer. -/
def readReply {α : Type} (read : Json → Option α) (reply : Except Str HttpReply) :
    Except (Fault GatewayOpeApiError) α := do
  let resp ← mapErr (fun e => .returned (.transport e)) reply
  let text ← mapErr (fun e => .returned (.transport ("read body: ".toList ++ e))) resp.text
  if resp.status ≠ 200 then do
    let body ← truncateBody text
    .error (.returned (.http resp.status body))
  else mapErr (fun e => .returned (.decode e)) (X.fromSlice read (utf8 text))

namespace GatewayOpeApiClient

variable (c : GatewayOpeApiClient)

def healthCall : HttpCall := c.getCall (c.url "/v1/ope/api/health")

def health : Except (Fault GatewayOpeApiError) HealthResponse := readReply X HealthResponse.read (c.agent c.healthCall)

def inventoryCall (keySet : Str) : HttpCall :=
  let ks := trim keySet
  let url := c.url "/v1/ope/api/inventory"
  c.getCall (if ks = [] then url else format [url, "?key_set=", urlencodingMinimal ks])

def inventory (keySet : Str) : Except (Fault GatewayOpeApiError) InventoryResponse :=
  readReply X InventoryResponse.read (c.agent (c.inventoryCall keySet))

def preassignCall (req : PreassignRequest) : HttpCall :=
  c.postCall (c.url "/v1/ope/api/preassign") (utf8 (X.json.structText req.tree))

def preassign (req : PreassignRequest) : Except (Fault GatewayOpeApiError) PreassignResponse := do
  failIf (trim req.engineId = []) (.returned (.config "preassign requires non-empty engine_id"))
  readReply X PreassignResponse.read (c.agent (c.preassignCall X req))

def challengeCall (engineId nonceB64 : Str) (epochId : Option Str) : HttpCall :=
  let epoch := (epochId.map trim).filter (· ≠ [])
  let body := Json.object (optionalMember "epoch_id" epoch ++ [("nonce_b64".toList, .string nonceB64)])
  c.postCall (c.url (challengeEnginePath (trim engineId))) (utf8 (X.json.valueText body))

def challengeEngine (engineId nonceB64 : Str) (epochId : Option Str) :
    Except (Fault GatewayOpeApiError) EngineChallengeWireResponse := do
  failIf (trim engineId = []) (.returned (.config "challenge requires non-empty engine_id"))
  readReply X readWireResponse (c.agent (c.challengeCall X engineId nonceB64 epochId))

end GatewayOpeApiClient

end Client

/-- A text of which `truncateBody` can show something: it is short, or byte 256 stands between two characters. -/
def Showable (text : Str) : Prop := (utf8 text).length ≤ 256 ∨ ∃ head, head <+: text ∧ (utf8 head).length = 256

/-- What is shown of a text: a short one, or the first 256 octets of a longer one and an ellipsis. -/
def CutTo (text shown : Str) : Prop :=
  ((utf8 text).length ≤ 256 ∧ shown = text) ∨
    (256 < (utf8 text).length ∧ ∃ head, head <+: text ∧ (utf8 head).length = 256 ∧ shown = head ++ ['…'])

lemma CutTo.showable {text shown : Str} (h : CutTo text shown) : Showable text := by
  rcases h with ⟨hshort, -⟩ | ⟨-, head, hhead, hlength, -⟩
  · exact Or.inl hshort
  · exact Or.inr ⟨head, hhead, hlength⟩

lemma CutTo.length_le {text shown : Str} (h : CutTo text shown) : (utf8 shown).length ≤ 259 := by
  rcases h with ⟨hshort, rfl⟩ | ⟨-, head, -, hlength, rfl⟩
  · omega
  · have hdots : (utf8 ['…']).length = 3 := by decide
    rw [utf8_append, List.length_append, hlength, hdots]

lemma truncateBody_spec {ε : Type} (text : Str) :
    (∃ shown, (truncateBody text : Except (Fault ε) Str) = .ok shown ∧ CutTo text shown) ∨
      ((truncateBody text : Except (Fault ε) Str) = .error .panicked ∧ ¬ Showable text) := by
  unfold truncateBody
  by_cases hshort : (utf8 text).length ≤ 256
  · rw [if_pos hshort]
    exact Or.inl ⟨text, rfl, Or.inl ⟨hshort, rfl⟩⟩
  · rw [if_neg hshort]
    cases hsplit : splitAtByte text 256 with
    | some parts =>
      obtain ⟨head, rest⟩ := parts
      obtain ⟨rfl, hlength⟩ := splitAtByte_eq_some.mp hsplit
      exact Or.inl ⟨_, rfl, Or.inr ⟨Nat.lt_of_not_le hshort, head, List.prefix_append head rest, hlength, rfl⟩⟩
    | none =>
      refine Or.inr ⟨rfl, ?_⟩
      rintro (hle | ⟨head, ⟨rest, rfl⟩, hlength⟩)
      · exact hshort hle
      · cases hsplit.symm.trans (splitAtByte_eq_some.mpr ⟨rfl, hlength⟩)

/-- A call reports an error body exactly when something of it can be shown; otherwise it panics. -/
structure Reports {α : Type} (status : Nat) (text : Str) (result : Except (Fault GatewayOpeApiError) α) : Prop where
  shown : Showable text ↔ ∃ shown, CutTo text shown ∧ result = .error (.returned (.http status shown))
  panics : ¬ Showable text ↔ result = .error .panicked

lemma readReply_reports {α : Type} (X : Crates) (read : Json → Option α) {status : Nat} (hstatus : status ≠ 200)
    (text : Str) : Reports status text (readReply X read (.ok ⟨status, .ok text⟩)) := by
  have hreply : readReply X read (.ok ⟨status, .ok text⟩) =
      truncateBody text >>= fun body => .error (.returned (.http status body)) := if_pos hstatus
  rw [hreply]
  rcases truncateBody_spec (ε := GatewayOpeApiError) text with ⟨shown, hok, hcut⟩ | ⟨hpanic, hnot⟩
  · rw [hok, ok_bind]
    exact ⟨iff_of_true hcut.showable ⟨shown, hcut, rfl⟩, iff_of_false (not_not.mpr hcut.showable) nofun⟩
  · rw [hpanic]
    refine ⟨iff_of_false hnot ?_, iff_of_true hnot rfl⟩
    rintro ⟨shown, -, hother⟩
    cases hother

/-- **Which error bodies are reported.**  A text is cut without a panic exactly when it is short or byte 256 stands
between two of its characters; it is then shown up to there, with an ellipsis where it is cut, in at most 259 octets.
Each call whose answer has an error status reports what is shown of the body, and panics when nothing can be. -/
theorem error_body_reported_iff (X : Crates) (c : GatewayOpeApiClient) (text : Str) :
    (Showable text ↔ ∃ shown, (truncateBody text : Except (Fault GatewayOpeApiError) Str) = .ok shown) ∧
    (∀ shown, (truncateBody text : Except (Fault GatewayOpeApiError) Str) = .ok shown →
      CutTo text shown ∧ (utf8 shown).length ≤ 259) ∧
    ∀ status, status ≠ 200 →
      (c.agent c.healthCall = .ok ⟨status, .ok text⟩ → Reports status text (c.health X)) ∧
      (∀ keySet, c.agent (c.inventoryCall keySet) = .ok ⟨status, .ok text⟩ →
        Reports status text (c.inventory X keySet)) ∧
      (∀ req : PreassignRequest, trim req.engineId ≠ [] → c.agent (c.preassignCall X req) = .ok ⟨status, .ok text⟩ →
        Reports status text (c.preassign X req)) ∧
      ∀ engineId nonceB64 epochId, trim engineId ≠ [] →
        c.agent (c.challengeCall X engineId nonceB64 epochId) = .ok ⟨status, .ok text⟩ →
          Reports status text (c.challengeEngine X engineId nonceB64 epochId) := by
  have hspec := truncateBody_spec (ε := GatewayOpeApiError) text
  refine ⟨?_, ?_, fun status hstatus => ⟨fun hreply => ?_, fun keySet hreply => ?_, fun req hid hreply => ?_,
    fun engineId nonceB64 epochId hid hreply => ?_⟩⟩
  · rcases hspec with ⟨shown, hok, hcut⟩ | ⟨hpanic, hnot⟩
    · exact iff_of_true hcut.showable ⟨shown, hok⟩
    · refine iff_of_false hnot ?_
      rintro ⟨shown, hok⟩
      cases hpanic.symm.trans hok
  · intro shown hok
    rcases hspec with ⟨shown', hok', hcut⟩ | ⟨hpanic, -⟩
    · cases hok.symm.trans hok'
      exact ⟨hcut, hcut.length_le⟩
    · cases hpanic.symm.trans hok
  · rw [GatewayOpeApiClient.health, hreply]
    exact readReply_reports X _ hstatus text
  · rw [GatewayOpeApiClient.inventory, hreply]
    exact readReply_reports X _ hstatus text
  · rw [GatewayOpeApiClient.preassign, failIf, if_neg hid, ok_bind, hreply]
    exact readReply_reports X _ hstatus text
  · rw [GatewayOpeApiClient.challengeEngine, failIf, if_neg hid, ok_bind, hreply]
    exact readReply_reports X _ hstatus text

namespace Sample

def failingClient (status : Nat) (text : Str) : GatewayOpeApiClient where
  baseUrl := "https://g"
  token := none
  agent _ := .ok ⟨status, .ok text⟩

def longText : Str := List.replicate 255 'a' ++ ['é']

lemma splitAtByte_replicate (k n : Nat) (s : Str) :
    splitAtByte (List.replicate k 'a' ++ s) (k + n) =
      (splitAtByte s n).map fun p => (List.replicate k 'a' ++ p.1, p.2) := by
  induction k with
  | zero =>
    rw [Nat.zero_add, List.replicate_zero, List.nil_append]
    cases splitAtByte s n <;> rfl
  | succ k ih =>
    have hsize : 'a'.utf8Size = 1 := by decide
    rw [List.replicate_succ, List.cons_append, Nat.add_right_comm, splitAtByte, hsize, if_pos (Nat.le_add_left 1 _),
      Nat.add_sub_cancel, ih, Option.map_map]
    rfl

lemma length_longText : (utf8 longText).length = 257 := by
  have hascii : ∀ c ∈ List.replicate 255 'a', c.toNat < 128 := by
    intro c hc
    rw [List.eq_of_mem_replicate hc]
    decide
  rw [longText, utf8_append, List.length_append, utf8_length_of_ascii hascii, List.length_replicate]
  decide

lemma not_showable_longText : ¬ Showable longText := by
  have hlength := length_longText
  rintro (hle | ⟨head, ⟨rest, hrest⟩, hhead⟩)
  · omega
  · have hsplit := splitAtByte_eq_some.mpr ⟨hrest.symm, hhead⟩
    rw [longText, splitAtByte_replicate 255 1] at hsplit
    cases hsplit

end Sample

open Sample in
/-- **A panic on an error body**: the gateway is unavailable and says so in 257 octets, the last two of which are one
character.  `truncate_body` panics, and with it the health probe and the request for the inventory. -/
theorem error_body_panics :
    (utf8 longText).length = 257 ∧
    (truncateBody longText : Except (Fault GatewayOpeApiError) Str) = .error .panicked ∧
    (∀ X, (failingClient 503 longText).health X = .error .panicked) ∧
    ∀ X keySet, (failingClient 503 longText).inventory X keySet = .error .panicked := by
  refine ⟨length_longText, ?_, fun X => ?_, fun X keySet => ?_⟩
  · rcases truncateBody_spec (ε := GatewayOpeApiError) longText with ⟨shown, -, hcut⟩ | ⟨hpanic, -⟩
    · exact absurd hcut.showable not_showable_longText
    · exact hpanic
  · exact (readReply_reports X _ (by decide) longText).panics.mp not_showable_longText
  · exact (readReply_reports X _ (by decide) longText).panics.mp not_showable_longText

open Sample in
theorem error_body_reported_iff_sample :
    Reports 503 "engine busy" ((failingClient 503 "engine busy").health Sample.forwardTables.crates) :=
  ((error_body_reported_iff _ (failingClient 503 "engine busy") "engine busy").2.2 503 (by decide)).1 rfl

end TeechatOpenapi.Cvm
