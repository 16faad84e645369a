import TeechatOpenapi.Cvm.Forward

/-!
# The total of a completion (`openapi-platform-cvm/src/ope_upstream.rs`, `openapi-platform/src/engine_usage.rs`)

The counts of a completion come from a signed report, from a header that nobody signed, or from the lengths of the
request and the completion.  Their sum is an addition of 64-bit integers.
-/

namespace TeechatOpenapi.Cvm

open Lib Platform TeechatOpenapi.Core

/-- A count in the usage of a completion. -/
def usageCount? (answer : Json) (name : Str) : Option Nat :=
  ((answer.get? "usage").bind (·.get? name)).bind Json.asU64?

/-- The header takes part only under a signature, or its counts have a sum of 64 bits. -/
def SumFits (X : Crates) (host : Host) (usageHdr : Option Str) : Prop :=
  requireSignedUsageFromEnv host = true ∨
    ∀ counts, usageHdr.bind (unsignedCounts X) = some counts → counts.1 + counts.2 < 2 ^ 64

section Bounds

variable {X : Crates} {body : Bytes} {text : Str} (hfits : body.length + (utf8 text).length < 2 ^ 62)

include hfits

lemma tokenEstimate_add_lt :
    tokenEstimate body.length + tokenEstimate (utf8 text).length < 2 ^ 61 := by
  unfold tokenEstimate
  omega

lemma independentTokenBound_lt : independentTokenBound body text < u64Max := by
  have hsum := tokenEstimate_add_lt hfits
  have hle : saturatingAdd (tokenEstimate body.length) (tokenEstimate (utf8 text).length) < 2 ^ 61 :=
    lt_of_le_of_lt (Nat.min_le_left _ _) hsum
  unfold independentTokenBound u64Max
  omega

lemma resolveUsageTokens_signed_lt {usageHdr : Option Str} {ctx : UsageVerifyContext} {counts : Nat × Nat}
    (hbound : ctx.maxTotalTokens = independentTokenBound body text)
    (h : resolveUsageTokens X usageHdr body text true (some ctx) = .ok counts) : counts.1 + counts.2 < 2 ^ 64 := by
  simp only [resolveUsageTokens, if_true, bind_eq_ok, okOr_eq_ok, pure_eq_ok, Option.some.injEq,
    verifySignedUsageReport, failIf_eq_ok, not_lt] at h
  obtain ⟨_, rfl, _, _, signed, _, _, ⟨_, _, _, _, _, _, _, hle, _⟩, rfl⟩ := h
  have hlt := hle.trans_lt (hbound.trans_lt (independentTokenBound_lt hfits))
  unfold saturatingAdd at hlt
  unfold u64Max at hlt
  dsimp only
  omega

lemma resolveUsageOrEstimate_sum_lt {edge : OpeDispatchUpstream} {usageHdr : Option Str} {pre : PreassignResponse}
    {counts : Nat × Nat} (h : resolveUsageOrEstimate X edge usageHdr body text pre = .ok counts) :
    counts.1 + counts.2 < 2 ^ 64 ↔ SumFits X edge.host usageHdr := by
  unfold resolveUsageOrEstimate at h
  cases hreq : requireSignedUsageFromEnv edge.host with
  | true =>
    rw [hreq] at h
    exact iff_of_true (resolveUsageTokens_signed_lt hfits rfl (mapErr_eq_ok.mp h)) (Or.inl hreq)
  | false =>
    rw [hreq] at h
    have hcounts := Except.ok.inj (mapErr_eq_ok.mp h)
    cases hhdr : usageHdr.bind (unsignedCounts X) with
    | none =>
      -- without counts of its own the header leaves the estimate
      rw [hhdr] at hcounts
      subst hcounts
      have hsum := tokenEstimate_add_lt hfits
      refine iff_of_true ?_ (Or.inr fun counts hc => ?_)
      · exact hsum.trans (by decide)
      · rw [hhdr] at hc
        cases hc
    | some found =>
      rw [hhdr] at hcounts
      obtain rfl : found = counts := hcounts
      constructor
      · intro hlt
        refine Or.inr fun counts hc => ?_
        obtain rfl : found = counts := Option.some.inj (hhdr.symm.trans hc)
        exact hlt
      · rintro (hsigned | hsum)
        · rw [hreq] at hsigned
          cases hsigned
        · exact hsum found hhdr

end Bounds

/-- **The total of a completion** is the sum of its counts exactly when the sum fits 64 bits.  It always does when a
signature is required, and when the counts are estimated; a header that nobody signed is not held to it. -/
theorem usage_total_exact_iff (X : Crates) (O : Ope) (edge : OpeDispatchUpstream) (inputs : ForwardInputs O)
    (method : HttpMethod) (path : Str) (body : Option Bytes) (ctx : UpstreamRequestContext) (s s' : EdgeState)
    (m : Metered) (h : forwardV1Ctx X O edge inputs method path body ctx s = (.ok (.completion m), s')) :
    ∃ answer, (Forwarded.completion m).response inputs.id = .json answer ∧
      usageCount? answer "prompt_tokens" = some m.promptTokens ∧
      usageCount? answer "completion_tokens" = some m.completionTokens ∧
      (usageCount? answer "total_tokens" = some (m.promptTokens + m.completionTokens) ↔
        m.promptTokens + m.completionTokens < 2 ^ 64) ∧
      ((body.getD []).length + (utf8 m.agg.content).length < 2 ^ 62 →
        (m.promptTokens + m.completionTokens < 2 ^ 64 ↔ SumFits X edge.host m.usageHdr)) := by
  obtain ⟨-, hcounts⟩ := forwardV1Ctx_completion h
  refine ⟨_, rfl, rfl, rfl, ?_, fun hfits => resolveUsageOrEstimate_sum_lt hfits hcounts⟩
  have htotal : usageCount? (openaiChatCompletionJson inputs.id m.model m.agg m.promptTokens m.completionTokens)
      "total_tokens" = some ((m.promptTokens + m.completionTokens) % 2 ^ 64) := rfl
  rw [htotal, Option.some.injEq, Nat.mod_eq_iff_lt (by decide)]

namespace Sample

open Platform.Sample Encoding

def wideTree : Json :=
  .object [("prompt_tokens", .number (.posInt (2 ^ 64 - 1))), ("completion_tokens", .number (.posInt 1))]

def wideBytes : Bytes := utf8 "\x7b\"prompt_tokens\":18446744073709551615,\"completion_tokens\":1\x7d"

def wideHeader : Str := encodeRaw true wideBytes

def shareTree : Json := .object [("server_share", .string "s")]

def shareBytes : Bytes := utf8 "\x7b\"server_share\":\"s\"\x7d"

def wideTables : CrateTables :=
  { forwardTables with trees := [(wideBytes, wideTree), (shareBytes, shareTree)] ++ forwardTables.trees }

def lenientHost : Host :=
  { host with env := fun name => if name = "OPENAPI_OPE_REQUIRE_ENGINE_CHALLENGE" then some "0" else none }

def lenientEdge : OpeDispatchUpstream := ⟨policy, false, lenientHost⟩

def wideInputs : ForwardInputs streamOpe :=
  { forwardInputs with gateway := { forwardInputs.gateway with
      dispatch := fun _ => .ok ⟨200, [("content-type", "application/json"), ("x-ope-usage-report", wideHeader)],
        shareBytes⟩ } }

lemma lookup_wide {b : Bytes} {j : Json} (hwide : b ≠ wideBytes) (hshare : b ≠ shareBytes)
    (h : forwardTables.trees.lookup b = some j) : wideTables.trees.lookup b = some j := by
  refine lookup_behind ?_ h
  intro x hx
  rcases List.mem_pair.mp hx with rfl | rfl
  · exact hwide
  · exact hshare

lemma decode_wide : base64UrlDecode wideTables.crates wideHeader = .ok wideBytes :=
  base64UrlDecode_encode Base64.rfc4648_lawful wideBytes

lemma parse_wide : parseUsageReportHeader wideTables.crates wideHeader = .error (.invalid "json: invalid type") := by
  have htree : wideTables.crates.json.tree wideBytes = .ok wideTree :=
    CrateTables.tree_of_lookup List.lookup_cons_self
  have hread : SignedUsageReport.read wideTree = none := rfl
  have htrim : trim wideHeader = wideHeader := trim_encodeRaw true wideBytes
  rw [parseUsageReportHeader, htrim, decode_wide, mapErr, ok_bind, htree, mapErr, ok_bind, hread]
  rfl

lemma unsignedCounts_wide : unsignedCounts wideTables.crates wideHeader = some (2 ^ 64 - 1, 1) := by
  have hvalue : wideTables.crates.json.value wideBytes = .ok wideTree :=
    CrateTables.value_of_lookup List.lookup_cons_self
  rw [unsignedCounts, parse_wide, decode_wide]
  dsimp only [toOption, Option.bind_some]
  rw [hvalue]
  rfl

lemma value_share : wideTables.crates.json.value shareBytes = .ok shareTree := by
  apply CrateTables.value_of_lookup
  change ([(wideBytes, wideTree)] ++ (shareBytes, shareTree) :: forwardTables.trees).lookup shareBytes = _
  exact lookup_behind (by decide) List.lookup_cons_self

lemma decrypt_share : decryptOpeBodyToCompletion wideTables.crates sealedRequest shareBytes "application/json" =
    .ok (.start "s") := by
  have hlines : looksLikeOpeNdjson shareBytes = false := by
    rw [looksLikeOpeNdjson, shareBytes, fromUtf8Lossy_utf8]
    decide
  have htype : containsStr "application/json" "ope+json-stream" = false := by decide
  rw [decryptOpeBodyToCompletion, hlines, htype, if_neg (by decide), value_share]
  rfl

lemma verify_lenient : verifyPreassign wideTables.crates lenientEdge wideInputs.call relayedPre engine ctx
    (.fresh .missing) = (.ok (), .fresh .missing) := by
  have htree : wideTables.trees.lookup wrapperBytes = some wrapperTree :=
    lookup_wide (by decide) (by decide) lookup_wrapper
  have hwindow : checkWindow lenientHost .missing relayedPre.trust.ephemeral 1785542400000
      policy.epochClockSkewMs = .ok () := by decide
  refine verify_relayed_in List.lookup_cons_self (by decide) htree hwindow rfl ?_
  rw [challengeVcek, if_neg (by decide)]

lemma prepare_lenient : prepare wideTables.crates streamOpe lenientEdge wideInputs requestBody ctx
    "/v1/chat/completions" (.fresh .missing) = (.ok (relayedPre, sealedRequest, "m".toList), .fresh .missing) := by
  have hbody : wideTables.crates.json.value requestBody = .ok (.object [("model", .string "m")]) :=
    CrateTables.value_of_lookup (lookup_wide (by decide) (by decide) List.lookup_cons_self)
  have hmodel : stripModelProviderSuffix (modelFromBody wideTables.crates requestBody) = "m".toList := by
    rw [modelFromBody, hbody]
    rfl
  have hpick : pickEngine [engine] "m" = .ok engine := rfl
  exact prepare_of_steps hmodel hbody rfl hpick rfl verify_lenient rfl

lemma forward_wide : forwardV1Ctx wideTables.crates streamOpe lenientEdge wideInputs .post
    "/v1/chat/completions" (some requestBody) ctx (.fresh .missing) =
      (.ok (.completion ⟨relayedPre, some wideHeader, "m", (Buffered.start "s").agg, 2 ^ 64 - 1, 1⟩),
        .fresh .missing) := by
  have hresolve : resolveUsageOrEstimate wideTables.crates lenientEdge (some wideHeader) requestBody
      (Buffered.start "s").agg.content relayedPre = .ok (2 ^ 64 - 1, 1) := by
    have hreq : requireSignedUsageFromEnv lenientEdge.host = false := by decide
    simp only [resolveUsageOrEstimate, hreq, resolveUsageTokens, Bool.false_eq_true, if_false, Option.bind_some,
      unsignedCounts_wide, Option.getD_some, mapErr]
  have hfin : finishBuffered wideTables.crates lenientEdge "/v1/chat/completions" requestBody relayedPre "m"
      (some wideHeader) (Buffered.start "s").agg =
        .ok (.completion ⟨relayedPre, some wideHeader, "m", (Buffered.start "s").agg, 2 ^ 64 - 1, 1⟩) := by
    rw [finishBuffered, if_neg (by decide), hresolve]
    rfl
  have hdisp : dispatchEncrypted streamOpe wideInputs relayedPre sealedRequest ctx = .ok ⟨200,
      [("content-type", "application/json"), ("x-ope-usage-report", wideHeader)], shareBytes⟩ := rfl
  have hstream : bodyWantsStream wideTables.crates requestBody = false := by
    decide
  exact forwardV1Ctx_of_steps (by decide) hstream prepare_lenient hdisp (by decide) decrypt_share hfin

end Sample

open Sample in
/-- An engine that reports `2 ^ 64 - 1` prompt tokens and one completion token gets a completion with a total of
zero. -/
theorem usage_total_wraps : ∃ m answer,
    forwardV1Ctx wideTables.crates streamOpe lenientEdge wideInputs .post "/v1/chat/completions" (some requestBody) ctx
      (.fresh .missing) = (.ok (.completion m), .fresh .missing) ∧
    (Forwarded.completion m).response wideInputs.id = .json answer ∧
    usageCount? answer "prompt_tokens" = some (2 ^ 64 - 1) ∧ usageCount? answer "completion_tokens" = some 1 ∧
    usageCount? answer "total_tokens" = some 0 :=
  ⟨_, _, forward_wide, rfl, rfl, rfl, rfl⟩

open Sample in
theorem usage_total_exact_iff_sample : ∃ agg answer,
    (Forwarded.completion ⟨relayedPre, some usageHeader, "m", agg, 3, 2⟩).response forwardInputs.id = .json answer ∧
    usageCount? answer "total_tokens" = some 5 := by
  obtain ⟨agg, h⟩ := forward_relayed
  obtain ⟨answer, hanswer, -, -, htotal, -⟩ := usage_total_exact_iff forwardTables.crates streamOpe forwardEdge
    forwardInputs .post "/v1/chat/completions" (some requestBody) ctx (.fresh .missing) (.fresh .missing)
    ⟨relayedPre, some usageHeader, "m", agg, 3, 2⟩ h
  have hsum : 3 + 2 < 2 ^ 64 := by decide
  exact ⟨agg, answer, hanswer, htotal.mpr hsum⟩

end TeechatOpenapi.Cvm
