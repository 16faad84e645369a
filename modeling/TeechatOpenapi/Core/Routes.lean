import Mathlib.Tactic.Set
import TeechatOpenapi.Core.Api

/-!
# Routes (`openapi-core/src/routes.rs`)

A path is brought into a normal form, and method and path together decide on the route.  `path_normal_form`: a path and
its normal form are given the same route.
-/

namespace TeechatOpenapi.Core

open Lib

/-- Whether paths without a route of their own are passed on. -/
inductive ProxyMode where
  | allowlist
  | transparent
  deriving DecidableEq

/-- What is done with a request. -/
inductive RouteAction where
  | health
  | status
  | attestation
  | modelsList
  | inferencePost
  | proxyGet
  | proxyPost
  | notImplemented (reason : Str)
  | methodNotAllowed
  | notFound
  deriving DecidableEq

/-- The loop that pops trailing slashes while something is left before them, on the reversed path. -/
def popReversed : Str → Str
  | c :: d :: rest => if c = '/' then popReversed (d :: rest) else c :: d :: rest
  | short => short

def popSlashes (path : Str) : Str := (popReversed path.reverse).reverse

def normalizePath (raw : Str) : Except RouteAction Str := do
  let withoutQf := raw.takeWhile fun c => c ≠ '?' ∧ c ≠ '#'
  failIf (withoutQf = [] ∨ withoutQf.head? ≠ some '/') RouteAction.notFound
  failIf (['.', '.'] ∈ withoutQf.splitOn '/') RouteAction.notFound
  return popSlashes withoutQf

/-- The table of `not_implemented_reason`. -/
def blocked : List (Str × Str) :=
  [("/v1/fine_tuning", "fine-tuning jobs require durable storage; not supported on the edge"),
   ("/v1/fine-tuning", "fine-tuning jobs require durable storage; not supported on the edge"),
   ("/v1/assistants", "Assistants API requires durable thread storage; not supported on the edge"),
   ("/v1/threads", "Assistants API requires durable thread storage; not supported on the edge"),
   ("/v1/files", "file uploads require durable storage; not supported on the edge"),
   ("/v1/batches", "batch jobs require durable storage; not supported on the edge"),
   ("/v1/vector_stores", "vector stores require durable storage; not supported on the edge"),
   ("/v1/uploads", "upload sessions require durable storage; not supported on the edge"),
   ("/v1/audio", "audio APIs are not yet supported on the edge"),
   ("/v1/images", "image generation APIs are not yet supported on the edge"),
   ("/v1/videos", "video generation APIs are not yet supported on the edge"),
   ("/v1/realtime", "realtime sessions require durable WebSocket state; not supported on the edge"),
   ("/v1/containers", "container APIs are not supported on the edge")]

def notImplementedReason (path : Str) : Option Str := (blocked.find? fun b => b.1.isPrefixOf path).map Prod.snd

/-- The inference routes besides chat. -/
def plainInferencePaths : List Str := ["/v1/completions", "/v1/embeddings", "/v1/responses", "/v1/moderations"]

/-- The end of `classify`, for a path that is none of the named routes. -/
def classifyUnnamed (method : HttpMethod) (path : Str) (mode : ProxyMode) : RouteAction :=
  if ("/v1/" : Str).isPrefixOf path then
    match notImplementedReason path with
    | some reason => .notImplemented reason
    | none =>
      match mode, method with
      | .allowlist, _ => .notFound
      | .transparent, .get => .proxyGet
      | .transparent, .post => .proxyPost
      | .transparent, .other => .methodNotAllowed
  else .notFound

def classify (method : HttpMethod) (path : Str) (mode : ProxyMode) : RouteAction :=
  match normalizePath path with
  | .error action => action
  | .ok path =>
    if path = "/healthz" ∧ method = .get then .health
    else if path = "/v1/status" ∧ method = .get then .status
    else if path = "/v1/attestation/challenge" then if method = .post then .attestation else .methodNotAllowed
    else if path = "/v1/models" ∧ method = .get then .modelsList
    else if path = "/v1/chat/completions" then if method = .post then .inferencePost else .methodNotAllowed
    else if path ∈ plainInferencePaths ∧ method = .post then .inferencePost
    else classifyUnnamed method path mode

/-- A path in normal form. -/
structure NormalPath (path : Str) : Prop where
  starts : path.head? = some '/'
  plain : ∀ c ∈ path, c ≠ '?' ∧ c ≠ '#'
  noDots : ['.', '.'] ∉ path.splitOn '/'
  noSlash : path = ['/'] ∨ path.getLast? ≠ some '/'

lemma popReversed_end (s : Str) : popReversed s = ['/'] ∨ (popReversed s).head? ≠ some '/' := by
  induction s using popReversed.induct with
  | case1 d rest ih =>
    rw [popReversed, if_pos rfl]
    exact ih
  | case2 c d rest hc =>
    rw [popReversed, if_neg hc]
    exact Or.inr fun h => hc (Option.some.inj h)
  | case3 s hshort =>
    rw [popReversed]
    · rcases s with _ | ⟨c, _ | ⟨d, rest⟩⟩
      · exact Or.inr (by simp)
      · by_cases hc : c = '/'
        · exact Or.inl (by rw [hc])
        · exact Or.inr fun h => hc (Option.some.inj h)
      · exact absurd rfl (hshort c d rest)
    · exact hshort

lemma popReversed_of_end {s : Str} (h : s = ['/'] ∨ s.head? ≠ some '/') : popReversed s = s := by
  rcases s with _ | ⟨c, _ | ⟨d, rest⟩⟩
  · rfl
  · rfl
  · have hc : c ≠ '/' := by
      rintro rfl
      rcases h with h | h
      · cases h
      · exact h rfl
    rw [popReversed, if_neg hc]

lemma exists_popReversed (s : Str) : ∃ k, s = List.replicate k '/' ++ popReversed s := by
  induction s using popReversed.induct with
  | case1 d rest ih =>
    obtain ⟨k, hk⟩ := ih
    refine ⟨k + 1, ?_⟩
    rw [popReversed, if_pos rfl, List.replicate_succ, List.cons_append, ← hk]
  | case2 c d rest hc => exact ⟨0, by rw [popReversed, if_neg hc]; rfl⟩
  | case3 s hshort =>
    refine ⟨0, ?_⟩
    rw [popReversed]
    · rfl
    · exact hshort

lemma exists_popSlashes (path : Str) : ∃ k, path = popSlashes path ++ List.replicate k '/' := by
  obtain ⟨k, hk⟩ := exists_popReversed path.reverse
  refine ⟨k, ?_⟩
  have hrev := congrArg List.reverse hk
  rwa [List.reverse_reverse, List.reverse_append, List.reverse_replicate] at hrev

lemma popSlashes_ne_nil {path : Str} (h : path ≠ []) : popSlashes path ≠ [] := by
  intro hnil
  have hempty : popReversed path.reverse = [] := List.reverse_eq_nil_iff.mp hnil
  rcases hrev : path.reverse with _ | ⟨c, rest⟩
  · exact h (List.reverse_eq_nil_iff.mp hrev)
  · -- the last character that is left is never popped
    rw [hrev] at hempty
    clear hrev hnil h
    induction rest generalizing c with
    | nil => cases hempty
    | cons d rest ih =>
      rw [popReversed] at hempty
      split at hempty
      · exact ih d hempty
      · cases hempty

lemma mem_splitOn_append_replicate {seg path : Str} (k : Nat) (h : seg ∈ path.splitOn '/') :
    seg ∈ (path ++ List.replicate k '/').splitOn '/' := by
  rcases k with _ | k
  · rwa [List.replicate_zero, List.append_nil]
  · have hsplit : (path ++ '/' :: List.replicate k '/').splitOn '/' =
        path.splitOn '/' ++ (List.replicate k '/').splitOn '/' :=
      List.splitOnP_append_cons path _ (beq_self_eq_true '/')
    rw [List.replicate_succ, hsplit]
    exact List.mem_append_left _ h

lemma normalizePath_spec {raw path : Str} (h : normalizePath raw = .ok path) : NormalPath path := by
  obtain ⟨_, hstart, h⟩ := bind_eq_ok.mp h
  obtain ⟨_, hdots, h⟩ := bind_eq_ok.mp h
  obtain rfl := pure_eq_ok.mp h
  have hstart := failIf_eq_ok.mp hstart
  have hdots := failIf_eq_ok.mp hdots
  set withoutQf := raw.takeWhile fun c => c ≠ '?' ∧ c ≠ '#' with hqf
  obtain ⟨k, hk⟩ := exists_popSlashes withoutQf
  have hne : popSlashes withoutQf ≠ [] := popSlashes_ne_nil fun hnil => hstart (Or.inl hnil)
  refine ⟨?_, ?_, ?_, ?_⟩
  · have hhead : withoutQf.head? = some '/' := not_not.mp fun hno => hstart (Or.inr hno)
    rw [hk] at hhead
    rcases hp : popSlashes withoutQf with _ | ⟨c, rest⟩
    · exact absurd hp hne
    · rw [hp] at hhead
      exact hhead
  · intro c hc
    have hmem : c ∈ withoutQf := by
      rw [hk]
      exact List.mem_append_left _ hc
    rw [hqf] at hmem
    have hkept := List.mem_takeWhile_imp (p := fun c => decide (c ≠ '?' ∧ c ≠ '#')) hmem
    exact of_decide_eq_true hkept
  · intro hmem
    apply hdots
    rw [hk]
    exact mem_splitOn_append_replicate k hmem
  · rw [popSlashes, List.getLast?_reverse]
    rcases popReversed_end withoutQf.reverse with hend | hend
    · exact Or.inl (by rw [hend]; rfl)
    · exact Or.inr hend

lemma normalizePath_of_normal {path : Str} (h : NormalPath path) : normalizePath path = .ok path := by
  have hqf : (path.takeWhile fun c => c ≠ '?' ∧ c ≠ '#') = path :=
    List.takeWhile_eq_self_iff.mpr fun c hc => decide_eq_true (h.plain c hc)
  have hstart : ¬ (path = [] ∨ path.head? ≠ some '/') := by
    rintro (rfl | hno)
    · cases h.starts
    · exact hno h.starts
  have hpop : popSlashes path = path := by
    have hend : path.reverse = ['/'] ∨ path.reverse.head? ≠ some '/' := by
      rcases h.noSlash with rfl | hlast
      · exact Or.inl rfl
      · exact Or.inr (by rwa [List.head?_reverse])
    rw [popSlashes, popReversed_of_end hend, List.reverse_reverse]
  rw [normalizePath, hqf, failIf, if_neg hstart, ok_bind, failIf, if_neg h.noDots, ok_bind, hpop]
  rfl

/-- The only way to refuse a path. -/
lemma normalizePath_refused {raw : Str} {action : RouteAction} (h : normalizePath raw = .error action) :
    action = .notFound := by
  unfold normalizePath failIf at h
  dsimp only at h
  split_ifs at h <;> cases h <;> rfl

lemma classify_normalizePath {raw path : Str} (h : normalizePath raw = .ok path) (method : HttpMethod)
    (mode : ProxyMode) : classify method raw mode = classify method path mode := by
  rw [classify, classify, h, normalizePath_of_normal (normalizePath_spec h)]

/-- **A path and its normal form.**  A path is refused, and then not found by every method; or it has a normal form,
which is its own normal form and has the route of the path, by every method and in both modes. -/
theorem path_normal_form (raw : Str) :
    (normalizePath raw = .error .notFound ∧ ∀ method mode, classify method raw mode = .notFound) ∨
    ∃ path, normalizePath raw = .ok path ∧ NormalPath path ∧ normalizePath path = .ok path ∧
      ∀ method mode, classify method raw mode = classify method path mode := by
  cases h : normalizePath raw with
  | error action =>
    obtain rfl := normalizePath_refused h
    refine Or.inl ⟨rfl, fun method mode => ?_⟩
    rw [classify, h]
  | ok path =>
    have hnormal := normalizePath_spec h
    exact Or.inr ⟨path, rfl, hnormal, normalizePath_of_normal hnormal, classify_normalizePath h⟩

/-- The actions that can end at upstream. -/
def RouteAction.toUpstream : RouteAction → Bool
  | .modelsList | .inferencePost | .proxyGet | .proxyPost => true
  | _ => false

/-- Which requests are given which route to upstream. -/
inductive Routed (mode : ProxyMode) : HttpMethod → Str → RouteAction → Prop where
  | modelsList : Routed mode .get "/v1/models" .modelsList
  | inferencePost {path : Str} (hpath : path = "/v1/chat/completions" ∨ path ∈ plainInferencePaths) :
    Routed mode .post path .inferencePost
  | proxyGet {path : Str} (hmode : mode = .transparent) : Routed mode .get path .proxyGet
  | proxyPost {path : Str} (hmode : mode = .transparent) : Routed mode .post path .proxyPost
  | elsewhere {method : HttpMethod} {path : Str} {action : RouteAction} (haction : action.toUpstream = false) :
    Routed mode method path action

namespace Routed

variable {mode : ProxyMode} {method : HttpMethod} {path : Str}

lemma of_modelsList (h : Routed mode method path .modelsList) : method = .get ∧ path = "/v1/models" := by
  cases h with
  | modelsList => exact ⟨rfl, rfl⟩
  | elsewhere haction => cases haction

lemma of_inferencePost (h : Routed mode method path .inferencePost) :
    method = .post ∧ (path = "/v1/chat/completions" ∨ path ∈ plainInferencePaths) := by
  cases h with
  | inferencePost hpath => exact ⟨rfl, hpath⟩
  | elsewhere haction => cases haction

lemma of_proxyGet (h : Routed mode method path .proxyGet) : mode = .transparent := by
  cases h with
  | proxyGet hmode => exact hmode
  | elsewhere haction => cases haction

lemma of_proxyPost (h : Routed mode method path .proxyPost) : mode = .transparent := by
  cases h with
  | proxyPost hmode => exact hmode
  | elsewhere haction => cases haction

end Routed

lemma classifyUnnamed_routed (method : HttpMethod) (path : Str) (mode : ProxyMode) :
    Routed mode method path (classifyUnnamed method path mode) := by
  unfold classifyUnnamed
  split
  · rcases notImplementedReason path with _ | reason
    · rcases mode with _ | _
      · exact .elsewhere rfl
      · rcases method with _ | _ | _
        · exact .proxyGet rfl
        · exact .proxyPost rfl
        · exact .elsewhere rfl
    · exact .elsewhere rfl
  · exact .elsewhere rfl

lemma classify_routed {path : Str} (hpath : NormalPath path) (method : HttpMethod) (mode : ProxyMode) :
    Routed mode method path (classify method path mode) := by
  rw [classify, normalizePath_of_normal hpath]
  dsimp only
  by_cases hhealth : path = "/healthz" ∧ method = .get
  · rw [if_pos hhealth]
    exact .elsewhere rfl
  rw [if_neg hhealth]
  by_cases hstatus : path = "/v1/status" ∧ method = .get
  · rw [if_pos hstatus]
    exact .elsewhere rfl
  rw [if_neg hstatus]
  by_cases hchallenge : path = "/v1/attestation/challenge"
  · rw [if_pos hchallenge]
    split <;> exact .elsewhere rfl
  rw [if_neg hchallenge]
  by_cases hmodels : path = "/v1/models" ∧ method = .get
  · rw [if_pos hmodels, hmodels.1, hmodels.2]
    exact .modelsList
  rw [if_neg hmodels]
  by_cases hchat : path = "/v1/chat/completions"
  · rw [if_pos hchat]
    by_cases hpost : method = .post
    · rw [if_pos hpost, hpost]
      exact .inferencePost (Or.inl hchat)
    · rw [if_neg hpost]
      exact .elsewhere rfl
  rw [if_neg hchat]
  by_cases hplain : path ∈ plainInferencePaths ∧ method = .post
  · rw [if_pos hplain, hplain.2]
    exact .inferencePost (Or.inr hplain.1)
  · rw [if_neg hplain]
    exact classifyUnnamed_routed method path mode

end TeechatOpenapi.Core
