import Mathlib.Data.Char
import Mathlib.Data.List.Lex
import Mathlib.Data.List.Sort
import TeechatOpenapi.Cvm.ModelPolicy

/-!
# The models that a key is shown (`openapi-platform-cvm/src/ope_upstream.rs`)

`listModelsForKey` shows the ids that healthy engines advertise and the policy allows.  A request with one of them goes
through the policy with the id as it is, and to an engine by what is left of the id when suffixes are cut off it.
-/

namespace TeechatOpenapi.Cvm

open Lib Platform TeechatOpenapi.Core

/-- The inner loop of `list_models_for_key`: the models of a healthy engine. -/
def listEngine (policy : OpenApiKeyPolicy) (ids : List Str) (models : List Str) : List Str :=
  models.foldl (fun ids m => if policy.allowsModel m ∧ m ∉ ids then ids ++ [m] else ids) ids

/-- The loops of `list_models_for_key`. -/
def listedIds (policy : OpenApiKeyPolicy) (engines : List InventoryEngine) : List Str :=
  engines.foldl (fun ids e => if e.healthy then listEngine policy ids e.models else ids) []

def listModelsForKey (gateway : Gateway) (ctx : UpstreamRequestContext) (policy : OpenApiKeyPolicy) :
    Except ApiError ModelsListResponse := do
  let engines ← mapErr mapGw (gateway.inventory ctx.keySet)
  let ids := (listedIds policy engines).mergeSort fun a b => decide (a ≤ b)
  return ⟨"list", ids.map fun id => ⟨id, "model", 1700000000, "teechat"⟩⟩

/-- An id is shown to a key. -/
def Listed (gateway : Gateway) (ctx : UpstreamRequestContext) (policy : OpenApiKeyPolicy) (id : Str) : Prop :=
  ∃ response, listModelsForKey gateway ctx policy = .ok response ∧ ∃ o ∈ response.data, o.id = id

variable {engines : List InventoryEngine}

section Ids

variable {policy : OpenApiKeyPolicy} {m : Str}

lemma mem_listEngine {ids models : List Str} :
    m ∈ listEngine policy ids models ↔ m ∈ ids ∨ (m ∈ models ∧ policy.allowsModel m = true) := by
  unfold listEngine
  induction models generalizing ids with
  | nil => simp
  | cons x models ih =>
    rw [List.foldl_cons, ih, List.mem_cons]
    by_cases hx : policy.allowsModel x = true ∧ x ∉ ids
    · rw [if_pos hx, List.mem_append, List.mem_singleton]
      constructor
      · rintro ((hm | rfl) | ⟨hm, hp⟩)
        · exact Or.inl hm
        · exact Or.inr ⟨Or.inl rfl, hx.1⟩
        · exact Or.inr ⟨Or.inr hm, hp⟩
      · rintro (hm | ⟨rfl | hm, hp⟩)
        · exact Or.inl (Or.inl hm)
        · exact Or.inl (Or.inr rfl)
        · exact Or.inr ⟨hm, hp⟩
    · rw [if_neg hx]
      constructor
      · rintro (hm | ⟨hm, hp⟩)
        · exact Or.inl hm
        · exact Or.inr ⟨Or.inr hm, hp⟩
      · rintro (hm | ⟨rfl | hm, hp⟩)
        · exact Or.inl hm
        · exact Or.inl (by_contra fun hnot => hx ⟨hp, hnot⟩)
        · exact Or.inr ⟨hm, hp⟩

lemma nodup_listEngine {ids models : List Str} (h : ids.Nodup) : (listEngine policy ids models).Nodup := by
  unfold listEngine
  induction models generalizing ids with
  | nil => exact h
  | cons x models ih =>
    rw [List.foldl_cons]
    apply ih
    split_ifs with hx
    · rw [← List.concat_eq_append]
      exact h.concat hx.2
    · exact h

lemma mem_listedIds :
    m ∈ listedIds policy engines ↔ (∃ e ∈ engines, e.healthy = true ∧ m ∈ e.models) ∧ policy.allowsModel m = true := by
  have hrun (ids : List Str) :
      m ∈ engines.foldl (fun ids e => if e.healthy then listEngine policy ids e.models else ids) ids ↔
        m ∈ ids ∨ ((∃ e ∈ engines, e.healthy = true ∧ m ∈ e.models) ∧ policy.allowsModel m = true) := by
    induction engines generalizing ids with
    | nil => simp
    | cons e engines ih =>
      rw [List.foldl_cons, ih, List.exists_mem_cons_iff]
      by_cases he : e.healthy = true
      · rw [if_pos he, mem_listEngine, or_assoc]
        tauto
      · rw [if_neg he]
        tauto
  rw [listedIds, hrun, or_iff_right List.not_mem_nil]

lemma nodup_listedIds (engines : List InventoryEngine) : (listedIds policy engines).Nodup := by
  have hrun (ids : List Str) (h : ids.Nodup) :
      (engines.foldl (fun ids e => if e.healthy then listEngine policy ids e.models else ids) ids).Nodup := by
    induction engines generalizing ids with
    | nil => exact h
    | cons e engines ih =>
      rw [List.foldl_cons]
      apply ih
      split_ifs
      · exact nodup_listEngine h
      · exact h
  exact hrun [] List.nodup_nil

end Ids

lemma listModelsForKey_spec {gateway : Gateway} {ctx : UpstreamRequestContext} {policy : OpenApiKeyPolicy}
    {response : ModelsListResponse} (h : listModelsForKey gateway ctx policy = .ok response) :
    ∃ engines, gateway.inventory ctx.keySet = .ok engines ∧
      (response.data.map ModelObject.id).Pairwise (· < ·) ∧
      ∀ m, m ∈ response.data.map ModelObject.id ↔
        (∃ e ∈ engines, e.healthy = true ∧ m ∈ e.models) ∧ policy.allowsModel m = true := by
  obtain ⟨engines, hengines, h⟩ := bind_eq_ok.mp h
  obtain rfl := pure_eq_ok.mp h
  have hids : (((listedIds policy engines).mergeSort fun a b => decide (a ≤ b)).map fun id =>
      (⟨id, "model", 1700000000, "teechat"⟩ : ModelObject)).map ModelObject.id =
        (listedIds policy engines).mergeSort fun a b => decide (a ≤ b) := by
    rw [List.map_map]
    exact List.map_id _
  refine ⟨engines, mapErr_eq_ok.mp hengines, ?_, fun m => ?_⟩
  · rw [hids]
    have hsorted : ((listedIds policy engines).mergeSort fun a b => decide (a ≤ b)).Pairwise (· ≤ ·) :=
      List.sortedLE_mergeSort.pairwise
    have hnodup : ((listedIds policy engines).mergeSort fun a b => decide (a ≤ b)).Nodup :=
      (List.mergeSort_perm _ _).nodup_iff.mpr (nodup_listedIds engines)
    exact hsorted.imp₂ (fun _ _ hle hne => lt_of_le_of_ne hle hne) hnodup
  · rw [hids, (List.mergeSort_perm _ _).mem_iff, mem_listedIds]

lemma listed_iff {gateway : Gateway} {ctx : UpstreamRequestContext} {policy : OpenApiKeyPolicy} {id : Str} :
    Listed gateway ctx policy id ↔ ∃ engines, gateway.inventory ctx.keySet = .ok engines ∧
      (∃ e ∈ engines, e.healthy = true ∧ id ∈ e.models) ∧ policy.allowsModel id = true := by
  constructor
  · rintro ⟨response, hresponse, o, ho, rfl⟩
    obtain ⟨engines, hengines, -, hmem⟩ := listModelsForKey_spec hresponse
    exact ⟨engines, hengines, (hmem o.id).mp (List.mem_map.mpr ⟨o, ho, rfl⟩)⟩
  · rintro ⟨engines, hengines, hid⟩
    obtain ⟨response, hresponse⟩ : ∃ response, listModelsForKey gateway ctx policy = .ok response := by
      rw [listModelsForKey, hengines]
      exact ⟨_, rfl⟩
    obtain ⟨engines', hengines', -, hmem⟩ := listModelsForKey_spec hresponse
    cases hengines.symm.trans hengines'
    obtain ⟨o, ho, hoid⟩ := List.mem_map.mp ((hmem id).mpr hid)
    exact ⟨response, hresponse, o, ho, hoid⟩

/-- A request for an id finds a healthy engine that advertises it. -/
def Selected (gateway : Gateway) (ctx : UpstreamRequestContext) (id : Str) : Prop :=
  ∃ engines e, gateway.inventory ctx.keySet = .ok engines ∧
    pickEngine engines (stripModelProviderSuffix id) = .ok e ∧ e.healthy = true ∧ id ∈ e.models

/-- A request for an id finds a healthy engine that advertises it, or the same name with another suffix. -/
def SelectedAlike (gateway : Gateway) (ctx : UpstreamRequestContext) (id : Str) : Prop :=
  ∃ engines e, gateway.inventory ctx.keySet = .ok engines ∧
    pickEngine engines (stripModelProviderSuffix id) = .ok e ∧ e.healthy = true ∧
    ∃ x ∈ e.models, stripModelProviderSuffix x = stripModelProviderSuffix id

/-- Every healthy engine that advertises the name with some suffix advertises the id too. -/
def OneSpelling (gateway : Gateway) (ctx : UpstreamRequestContext) (id : Str) : Prop :=
  ∀ engines, gateway.inventory ctx.keySet = .ok engines → ∀ e ∈ engines, e.healthy = true →
    (∃ x ∈ e.models, stripModelProviderSuffix x = stripModelProviderSuffix id) → id ∈ e.models

/-- What is left of an id under its suffix is a plain name. -/
def PlainUnderSuffix (id : Str) : Prop :=
  PlainName (stripModelProviderSuffix id) ∧ stripModelProviderSuffix id ≠ []

/-- An engine is found for a name that a healthy one serves. -/
lemma pickEngine_served {model : Str} (hne : stripModelProviderSuffix (trim model) ≠ [])
    (h : ∃ e ∈ engines, serves (stripModelProviderSuffix (trim model)) e = true) :
    ∃ e, pickEngine engines model = .ok e := by
  obtain ⟨e, he, hserves⟩ := h
  have hfind : (engines.find? (serves (stripModelProviderSuffix (trim model)))).isSome = true :=
    List.find?_isSome.mpr ⟨e, he, hserves⟩
  obtain ⟨second, hsecond⟩ := Option.isSome_iff_exists.mp hfind
  unfold pickEngine
  dsimp only
  rw [failIf, if_neg hne, ok_bind, hsecond]
  cases engines.find? fun e => decide (0 < e.readySessions) && serves (stripModelProviderSuffix (trim model)) e with
  | none => exact ⟨second, rfl⟩
  | some first => exact ⟨first, rfl⟩

section Requests

variable {gateway : Gateway} {ctx : UpstreamRequestContext} {policy : OpenApiKeyPolicy} {id : Str}

lemma Listed.selectedAlike (h : Listed gateway ctx policy id) (hplain : PlainUnderSuffix id) :
    SelectedAlike gateway ctx id := by
  obtain ⟨engines, hengines, ⟨e, he, hhealthy, hid⟩, -⟩ := listed_iff.mp h
  have hkey := strip_trim_eq_iff.mpr hplain.1
  have hne : stripModelProviderSuffix (trim (stripModelProviderSuffix id)) ≠ [] := by
    rw [hkey]
    exact hplain.2
  obtain ⟨picked, hpick⟩ := pickEngine_served hne ⟨e, he, serves_iff.mpr ⟨hhealthy, id, hid, hkey.symm⟩⟩
  have hserves := (pickEngine_inv hpick).2.2
  rw [hkey] at hserves
  obtain ⟨hpicked, x, hx, hstrip⟩ := serves_iff.mp hserves
  exact ⟨engines, picked, hengines, hpick, hpicked, x, hx, hstrip⟩

lemma Selected.of_alike (h : SelectedAlike gateway ctx id) (hone : OneSpelling gateway ctx id) :
    Selected gateway ctx id := by
  obtain ⟨engines, e, hengines, hpick, hhealthy, halike⟩ := h
  exact ⟨engines, e, hengines, hpick, hhealthy, hone engines hengines e (pickEngine_inv hpick).2.1 hhealthy halike⟩

lemma Selected.alike (h : Selected gateway ctx id) : SelectedAlike gateway ctx id := by
  obtain ⟨engines, e, hengines, hpick, hhealthy, hid⟩ := h
  exact ⟨engines, e, hengines, hpick, hhealthy, id, hid, rfl⟩

/-- A gateway with an inventory, and nothing else. -/
def inventoryGateway (engines : List InventoryEngine) : Gateway where
  inventory _ := .ok engines
  preassign _ := .error (.config "preassign")
  dispatch _ := .error (.config "dispatch")
  dispatchReader _ := .error (.config "dispatch")

lemma listed_inventory (h : soleEngine id ∈ engines) :
    Listed (inventoryGateway engines) ctx .unrestricted id :=
  listed_iff.mpr ⟨engines, rfl, ⟨soleEngine id, h, rfl, List.mem_singleton_self id⟩, rfl⟩

/-- Where one engine advertises an id and nothing else, a request for it finds the engine only if it is plain. -/
lemma PlainUnderSuffix.of_sole (h : SelectedAlike (inventoryGateway [soleEngine id]) ctx id) :
    PlainUnderSuffix id := by
  obtain ⟨engines, e, hengines, hpick, -⟩ := h
  cases hengines
  obtain ⟨hne, he, hserves⟩ := pickEngine_inv hpick
  rw [List.mem_singleton.mp he] at hserves
  obtain ⟨-, x, hx, hstrip⟩ := serves_iff.mp hserves
  rw [List.mem_singleton.mp hx] at hstrip
  exact ⟨strip_trim_eq_iff.mp hstrip.symm, hstrip ▸ hne⟩

lemma oneSpelling_sole : OneSpelling (inventoryGateway [soleEngine id]) ctx id := by
  intro engines hengines e he _ _
  cases hengines
  rw [List.mem_singleton.mp he]
  exact List.mem_singleton_self id

lemma not_selected_second (ctx : UpstreamRequestContext) (id : Str) :
    ∃ engines, soleEngine id ∈ engines ∧ ¬ Selected (inventoryGateway engines) ctx id := by
  obtain ⟨other, hcut, hlonger⟩ :=
    exists_longer_id (stripModelProviderSuffix (trim (stripModelProviderSuffix id))) id.length
  refine ⟨[soleEngine other, soleEngine id], List.mem_cons_of_mem _ List.mem_cons_self, ?_⟩
  rintro ⟨engines, e, hengines, hpick, -, hid⟩
  cases hengines
  have hfirst := pickEngine_first [soleEngine id] (pickEngine_inv hpick).1 hcut
  cases hpick.symm.trans hfirst
  rw [List.mem_singleton.mp hid] at hlonger
  omega

end Requests

/-- **The ids that can be used wherever they are listed.**  Every id that is listed passes the policy.  A request for it
finds an engine under its name, in every inventory that lists it, exactly when the name under its suffix is plain; and
one that advertises the id itself, where the name has one spelling, exactly then.  Where a name can have two spellings
there is no such id: the engine that is found may advertise the other. -/
theorem listed_models_usable_iff (id : Str) :
    (∀ gateway ctx policy, Listed gateway ctx policy id →
      ∀ X (auth : AuthContext) body, auth.policy = policy → modelFromBody X body = id →
        enforceModelPolicy X auth body = .ok ()) ∧
    ((∀ gateway ctx policy, Listed gateway ctx policy id → SelectedAlike gateway ctx id) ↔ PlainUnderSuffix id) ∧
    ((∀ gateway ctx policy, Listed gateway ctx policy id → OneSpelling gateway ctx id → Selected gateway ctx id) ↔
      PlainUnderSuffix id) ∧
    ¬ ∀ gateway ctx policy, Listed gateway ctx policy id → Selected gateway ctx id := by
  refine ⟨?_, ⟨fun hall => ?_, ?_⟩, ⟨fun hall => ?_, ?_⟩, fun hall => ?_⟩
  · intro gateway ctx policy hlisted X auth body hauth hbody
    obtain ⟨engines, -, -, hallowed⟩ := listed_iff.mp hlisted
    rw [enforceModelPolicy, hbody, hauth, failIf, if_neg (not_not.mpr hallowed)]
  · exact .of_sole (hall _ ⟨[], []⟩ _ (listed_inventory List.mem_cons_self))
  · intro hplain gateway ctx policy hlisted
    exact hlisted.selectedAlike hplain
  · exact .of_sole (hall _ ⟨[], []⟩ _ (listed_inventory List.mem_cons_self) oneSpelling_sole).alike
  · intro hplain gateway ctx policy hlisted hone
    exact .of_alike (hlisted.selectedAlike hplain) hone
  · obtain ⟨engines, hid, hnot⟩ := not_selected_second ⟨[], []⟩ id
    exact hnot (hall _ _ _ (listed_inventory hid))

namespace Sample

def twoSuffixTree : Json := .object [("model", .string "a@b@c")]

def twoSuffixBody : Bytes := utf8 (renderText twoSuffixTree)

def twoSuffixTables : CrateTables := { forwardTables with trees := [(twoSuffixBody, twoSuffixTree)] }

def twoSuffixInputs : ForwardInputs streamOpe :=
  { forwardInputs with gateway := inventoryGateway [soleEngine "a@b@c"] }

lemma value_twoSuffix : twoSuffixTables.crates.json.value twoSuffixBody = .ok twoSuffixTree :=
  CrateTables.value_of_lookup List.lookup_cons_self

end Sample

open Sample in
/-- **Listed, and of no use.**  An id with two suffixes is listed, and no engine is found for it, though one advertises
it.  Of two ids that differ in their suffix, both listed, a request for the second goes to the engine of the first. -/
theorem listed_model_unusable :
    (Listed twoSuffixInputs.gateway ctx .unrestricted "a@b@c" ∧
      modelFromBody twoSuffixTables.crates twoSuffixBody = "a@b@c".toList ∧
      prepare twoSuffixTables.crates streamOpe forwardEdge twoSuffixInputs twoSuffixBody ctx "/v1/chat/completions"
        (.fresh .missing) = (.error (.upstream "no engine available for model `a`"), .fresh .missing)) ∧
    Listed (inventoryGateway [soleEngine "m@x", soleEngine "m@y"]) ctx .unrestricted "m@y" ∧
    pickEngine [soleEngine "m@x", soleEngine "m@y"] (stripModelProviderSuffix "m@y") = .ok (soleEngine "m@x") ∧
    "m@y".toList ∉ (soleEngine "m@x").models := by
  refine ⟨⟨listed_inventory List.mem_cons_self, ?_, ?_⟩, listed_inventory (List.mem_cons_of_mem _ List.mem_cons_self),
    rfl, by decide⟩
  · rw [modelFromBody, value_twoSuffix]
    rfl
  · rw [prepare, value_twoSuffix]
    rfl

open Sample in
theorem listed_models_usable_iff_sample : Selected (inventoryGateway [soleEngine "m@teechat"]) ctx "m@teechat" := by
  have hplain : PlainUnderSuffix "m@teechat" := ⟨⟨by decide, by decide⟩, by decide⟩
  exact (listed_models_usable_iff "m@teechat").2.2.1.mpr hplain _ _ _ (listed_inventory List.mem_cons_self)
    oneSpelling_sole

end TeechatOpenapi.Cvm
