import TeechatOpenapi.Core.Admission
import TeechatOpenapi.Cvm.Forward

/-!
# The model that is run (`handler.rs`, `openapi-platform-cvm/src/ope_upstream.rs`)

The handler checks the name in the body; `prepare` cuts a provider suffix off it, and `pickEngine` trims what is left
and cuts once more.
-/

namespace TeechatOpenapi.Cvm

open Lib Platform TeechatOpenapi.Core

variable {model : Str}

lemma strip_of_notMem (h : '@' ∉ model) : stripModelProviderSuffix model = model := by
  have hrev : '@' ∉ model.reverse := fun hm => h (List.mem_reverse.mp hm)
  rw [stripModelProviderSuffix, beforeLast, splitOnce_eq_none hrev]
  rfl

lemma strip_append (model : Str) {suffix : Str} (h : '@' ∉ suffix) :
    stripModelProviderSuffix (model ++ '@' :: suffix) = model := by
  rw [stripModelProviderSuffix, beforeLast_eq_some.mpr ⟨suffix, rfl, h⟩, Option.getD_some]

lemma length_strip_lt (h : '@' ∈ model) :
    (stripModelProviderSuffix model).length < model.length := by
  obtain ⟨suffix, rest, hsplit, hfree⟩ := List.eq_append_cons_of_mem (List.mem_reverse.mpr h)
  have hmodel : model = rest.reverse ++ '@' :: suffix.reverse := by
    rw [← List.reverse_reverse model, hsplit]
    simp
  rw [hmodel, strip_append _ fun hm => hfree (List.mem_reverse.mp hm)]
  simp

/-- A name without `@`, and without white space around it. -/
def PlainName (model : Str) : Prop := '@' ∉ model ∧ trim model = model

lemma strip_trim_eq_iff : stripModelProviderSuffix (trim model) = model ↔ PlainName model := by
  constructor
  · intro h
    have hle := (trim_sublist model).length_le
    have hfree : '@' ∉ trim model := by
      intro hm
      have hlt := length_strip_lt hm
      rw [h] at hlt
      omega
    rw [strip_of_notMem hfree] at h
    exact ⟨h ▸ hfree, h⟩
  · rintro ⟨hfree, htrim⟩
    rw [htrim, strip_of_notMem hfree]

/-- An engine advertises a model, up to one provider suffix of what it advertises. -/
def InventoryEngine.Advertises (engine : InventoryEngine) (model : Str) : Prop :=
  ∃ x ∈ engine.models, x = model ∨ stripModelProviderSuffix x = model

lemma pickEngine_inv {engines : List InventoryEngine} {engine : InventoryEngine}
    (h : pickEngine engines model = .ok engine) :
    stripModelProviderSuffix (trim model) ≠ [] ∧ engine ∈ engines ∧
      serves (stripModelProviderSuffix (trim model)) engine = true := by
  simp only [pickEngine, bind_eq_ok, failIf_eq_ok, okOr_eq_ok, exists_const, Option.or_eq_some_iff] at h
  obtain ⟨hne, hfirst | ⟨-, hsecond⟩⟩ := h
  · exact ⟨hne, List.mem_of_find?_eq_some hfirst, (Bool.and_eq_true _ _ ▸ List.find?_some hfirst).2⟩
  · exact ⟨hne, List.mem_of_find?_eq_some hsecond, List.find?_some hsecond⟩

lemma serves_iff {k : Str} {e : InventoryEngine} :
    serves k e = true ↔ e.healthy = true ∧ ∃ x ∈ e.models, stripModelProviderSuffix x = k := by
  rw [serves, Bool.and_eq_true, List.any_eq_true]
  simp only [decide_eq_true_eq]

lemma pickEngine_ok {engines : List InventoryEngine} {engine : InventoryEngine}
    (h : pickEngine engines model = .ok engine) :
    stripModelProviderSuffix (trim model) ≠ [] ∧
      ∃ x ∈ engine.models, stripModelProviderSuffix x = stripModelProviderSuffix (trim model) := by
  obtain ⟨hne, -, hserves⟩ := pickEngine_inv h
  exact ⟨hne, (serves_iff.mp hserves).2⟩

def soleEngine (id : Str) : InventoryEngine := ⟨[], [], [id], true, 1⟩

/-- An engine under the name that is looked up is picked, also when the model asked for has another name. -/
lemma pickEngine_first {x : Str} (engines : List InventoryEngine) (hne : stripModelProviderSuffix (trim model) ≠ [])
    (hx : stripModelProviderSuffix x = stripModelProviderSuffix (trim model)) :
    pickEngine (soleEngine x :: engines) model = .ok (soleEngine x) := by
  have hserves : serves (stripModelProviderSuffix (trim model)) (soleEngine x) = true :=
    serves_iff.mpr ⟨rfl, x, List.mem_singleton_self x, hx⟩
  simp only [pickEngine, bind_eq_ok, failIf_eq_ok, okOr_eq_ok, exists_const]
  refine ⟨hne, ?_⟩
  rw [List.find?_cons_of_pos (by rw [hserves]; rfl)]
  rfl

lemma exists_longer_id (name : Str) (n : Nat) : ∃ id, stripModelProviderSuffix id = name ∧ n < id.length := by
  have hfree : '@' ∉ List.replicate n 'x' := fun hm => absurd (List.eq_of_mem_replicate hm) (by decide)
  refine ⟨_, strip_append name hfree, ?_⟩
  rw [List.length_append, List.length_cons, List.length_replicate]
  omega

/-- **Whatever engine is picked advertises the model** exactly when the name is plain. -/
theorem picked_advertises_iff (hne : stripModelProviderSuffix (trim model) ≠ []) :
    (∀ engines engine, pickEngine engines model = .ok engine → engine.Advertises model) ↔ PlainName model := by
  constructor
  · intro hall
    -- an engine with an id that is cut to the name looked up, and longer than the model
    obtain ⟨id, hcut, hlonger⟩ := exists_longer_id (stripModelProviderSuffix (trim model)) model.length
    obtain ⟨x, hx, heq⟩ := hall _ _ (pickEngine_first [] hne hcut)
    rw [List.mem_singleton.mp hx] at heq
    rcases heq with hsame | hstrip
    · rw [hsame] at hlonger
      omega
    · rw [hcut] at hstrip
      exact strip_trim_eq_iff.mp hstrip
  · intro hplain engines engine hpick
    obtain ⟨-, x, hx, hstrip⟩ := pickEngine_ok hpick
    rw [strip_trim_eq_iff.mpr hplain] at hstrip
    exact ⟨x, hx, Or.inr hstrip⟩

section Run

variable {X : Crates} {O : Ope} {edge : OpeDispatchUpstream} {inputs : ForwardInputs O}

/-- A prepared request: the model is the cut name, and it stands in the preassignment and in the sealed payload. -/
structure PreparedFor (X : Crates) (edge : OpeDispatchUpstream) (inputs : ForwardInputs O) (body : Bytes)
    (ctx : UpstreamRequestContext) (path : Str) (pre : PreassignResponse) (enc : EncryptedOpeRequest O) (model : Str)
    (engine : InventoryEngine) : Prop where
  cut : model = stripModelProviderSuffix (modelFromBody X body)
  picked : ∃ engines, inputs.gateway.inventory ctx.keySet = .ok engines ∧ pickEngine engines model = .ok engine
  preassigned : inputs.gateway.preassign ⟨engine.engineId, some ctx.keySet, some model, some ctx.keyId⟩ = .ok pre
  payload : ∃ payload, X.json.value body = .ok payload ∧ encryptOpenaiBodyWithPath X O edge.host inputs.wrap pre.trust
    ctx.keyId (payload.set "model" (.string model)) path = .ok enc

lemma prepare_ok {body : Bytes} {ctx : UpstreamRequestContext} {path : Str} {s s' : EdgeState}
    {pre : PreassignResponse} {enc : EncryptedOpeRequest O}
    (h : prepare X O edge inputs body ctx path s = (.ok (pre, enc, model), s')) :
    ∃ engine, PreparedFor X edge inputs body ctx path pre enc model engine := by
  obtain ⟨payload, hpayload, h⟩ := Op.lift_bind_eq_ok.mp h
  obtain ⟨engines, hengines, h⟩ := Op.lift_bind_eq_ok.mp h
  obtain ⟨engine, hengine, h⟩ := Op.lift_bind_eq_ok.mp h
  obtain ⟨pre', hpre, h⟩ := Op.lift_bind_eq_ok.mp h
  obtain ⟨_, s₁, -, h⟩ := Op.bind_eq_ok.mp h
  obtain ⟨enc', henc, h⟩ := Op.lift_bind_eq_ok.mp h
  cases h
  exact ⟨engine, rfl, ⟨engines, mapErr_eq_ok.mp hengines, hengine⟩, mapErr_eq_ok.mp hpre,
    payload, mapErr_eq_ok.mp hpayload, mapErr_eq_ok.mp henc⟩

lemma enforceContent_model {auth : AuthContext} {body : Bytes} (h : enforceContent X auth body = .ok ()) :
    auth.policy.allowsModel (modelFromBody X body) = true := by
  simp only [enforceContent, enforceModelPolicy, bind_eq_ok, failIf_eq_ok, not_not, exists_const] at h
  exact h.1

end Run

/-- **When the policy holds for the model that is run.**  A body that was let in and prepared is sealed and assigned
under its cut name.  That name is allowed, and advertised by every engine that could be picked for it, exactly when it
is plain and either nothing was cut off or the policy allows it too. -/
theorem model_policy_iff (X : Crates) (O : Ope) (edge : OpeDispatchUpstream) (inputs : ForwardInputs O)
    (auth : AuthContext) (body : Bytes) (ctx : UpstreamRequestContext) (path : Str) (s s' : EdgeState)
    (pre : PreassignResponse) (enc : EncryptedOpeRequest O) (model : Str)
    (hcontent : enforceContent X auth body = .ok ())
    (hprep : prepare X O edge inputs body ctx path s = (.ok (pre, enc, model), s')) :
    (∃ engine, PreparedFor X edge inputs body ctx path pre enc model engine) ∧
    ((auth.policy.allowsModel model = true ∧
      ∀ engines engine, pickEngine engines model = .ok engine → engine.Advertises model) ↔
      PlainName (stripModelProviderSuffix (modelFromBody X body)) ∧ ('@' ∉ modelFromBody X body ∨
        auth.policy.allowsModel (stripModelProviderSuffix (modelFromBody X body)) = true)) := by
  obtain ⟨engine, hprepared⟩ := prepare_ok hprep
  obtain ⟨engines, -, hpick⟩ := hprepared.picked
  refine ⟨⟨engine, hprepared⟩, ?_⟩
  rw [picked_advertises_iff (pickEngine_ok hpick).1, ← hprepared.cut]
  constructor
  · rintro ⟨hallowed, hplain⟩
    exact ⟨hplain, Or.inr hallowed⟩
  · rintro ⟨hplain, hfree | hallowed⟩
    · have hcut := hprepared.cut
      rw [strip_of_notMem hfree] at hcut
      rw [hcut]
      exact ⟨enforceContent_model hcontent, hcut ▸ hplain⟩
    · exact ⟨hallowed, hplain⟩

namespace Sample

open Platform.Sample Encoding

def suffixTree : Json := .object [("model", .string "m@teechat")]

def suffixBody : Bytes := utf8 (renderText suffixTree)

def suffixTables : CrateTables := { forwardTables with trees := (suffixBody, suffixTree) :: forwardTables.trees }

def suffixAuth : AuthContext := ⟨"k1", ⟨["m@teechat"], 0, "api", none, none, none⟩⟩

lemma value_suffix : suffixTables.crates.json.value suffixBody = .ok suffixTree :=
  CrateTables.value_of_lookup List.lookup_cons_self

lemma model_suffix : modelFromBody suffixTables.crates suffixBody = "m@teechat".toList := by
  rw [modelFromBody, value_suffix]
  rfl

lemma admit_suffix : enforceContent suffixTables.crates suffixAuth suffixBody = .ok () := by
  have hmodel : enforceModelPolicy suffixTables.crates suffixAuth suffixBody = .ok () := by
    rw [enforceModelPolicy, model_suffix]
    rfl
  rw [enforceContent, hmodel]
  rfl

lemma lookup_suffix : suffixTables.trees.lookup wrapperBytes = some wrapperTree := by
  change ([(suffixBody, suffixTree)] ++ forwardTables.trees).lookup wrapperBytes = _
  exact lookup_behind (by decide) lookup_wrapper

lemma verify_suffix : verifyPreassign suffixTables.crates forwardEdge forwardInputs.call relayedPre engine ctx
    (.fresh .missing) = (.ok (), .fresh .missing) := by
  refine verify_relayed_in List.lookup_cons_self (by decide) lookup_suffix window_relayed rfl ?_
  rw [challengeVcek, if_neg (by decide)]

lemma prepare_suffix : prepare suffixTables.crates streamOpe forwardEdge forwardInputs suffixBody ctx
    "/v1/chat/completions" (.fresh .missing) = (.ok (relayedPre, sealedRequest, "m".toList), .fresh .missing) := by
  have hmodel : stripModelProviderSuffix (modelFromBody suffixTables.crates suffixBody) = "m".toList := by
    rw [model_suffix]
    rfl
  have henc : encryptOpenaiBodyWithPath suffixTables.crates streamOpe forwardEdge.host forwardInputs.wrap
      relayedPre.trust ctx.keyId (suffixTree.set "model" (.string "m")) "/v1/chat/completions" =
        .ok sealedRequest := rfl
  have hpick : pickEngine [engine] "m" = .ok engine := rfl
  exact prepare_of_steps hmodel value_suffix rfl hpick rfl verify_suffix henc

end Sample

open Sample in
/-- A key for `m@teechat` runs `m`, which its policy does not allow. -/
theorem model_policy_bypassed :
    enforceContent suffixTables.crates suffixAuth suffixBody = .ok () ∧
    prepare suffixTables.crates streamOpe forwardEdge forwardInputs suffixBody ctx "/v1/chat/completions"
      (.fresh .missing) = (.ok (relayedPre, sealedRequest, "m".toList), .fresh .missing) ∧
    suffixAuth.policy.allowsModel "m" = false :=
  ⟨admit_suffix, prepare_suffix, by decide⟩

open Sample in
theorem model_policy_iff_sample :
    (∃ engine, PreparedFor suffixTables.crates forwardEdge forwardInputs suffixBody ctx "/v1/chat/completions"
      relayedPre sealedRequest "m" engine) ∧
    ¬ (suffixAuth.policy.allowsModel "m" = true ∧
      ∀ engines engine, pickEngine engines "m" = .ok engine → engine.Advertises "m") := by
  obtain ⟨hprepared, hiff⟩ := model_policy_iff suffixTables.crates streamOpe forwardEdge forwardInputs suffixAuth
    suffixBody ctx "/v1/chat/completions" (.fresh .missing) (.fresh .missing) relayedPre sealedRequest "m" admit_suffix
    prepare_suffix
  rw [model_suffix] at hiff
  exact ⟨hprepared, fun h => absurd (hiff.mp h).2 (by decide)⟩

end TeechatOpenapi.Cvm
