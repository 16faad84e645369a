import TeechatOpenapi.Core.Limits
import TeechatOpenapi.CrateTables

/-!
# Members that are not counted (`openapi-core/src/quota.rs`)

The estimate of a request counts one member of its body: `messages` when it is an array, else `input`, else `prompt`,
else the whole body.
-/

namespace TeechatOpenapi.Core

open Lib

/-- The octets of `messages`, when it is an array. -/
def messagesCount (X : Crates) (v : Json) : Option (Str × Nat) :=
  ((v.get? "messages").bind Json.asArray?).map fun msgs =>
    ("messages", (msgs.map fun m => contentChars X (m.get? "content")).sum)

/-- The octets of a member. -/
def memberCount (X : Crates) (name : Str) (v : Json) : Option (Str × Nat) :=
  (v.get? name).map fun content => (name, contentChars X (some content))

/-- The name of the member that is counted, and its octets. -/
def countedMember (X : Crates) (v : Json) : Option (Str × Nat) :=
  (messagesCount X v).or ((memberCount X "input" v).or (memberCount X "prompt" v))

/-- The octets that are counted in a body: those of the counted member, and without one those of the text. -/
def countedOctets (X : Crates) (members : List (Str × Json)) (body : Bytes) : Nat :=
  ((countedMember X (.object members)).map Prod.snd).getD body.length

/-- `body'` is the object of `body` with further members: those of `body` are left as they are, what is added has other
names, and the text does not get shorter. -/
structure AddsMembers (X : Crates) (body body' : Bytes) (members members' : List (Str × Json)) : Prop where
  value : X.json.value body = .ok (.object members)
  value' : X.json.value body' = .ok (.object members')
  kept : members'.filter (fun m => m.1 ∈ members.map Prod.fst) = members
  length : body.length ≤ body'.length

variable {x : Str × Nat}

variable {v : Json} {name : Str}

section Counted

variable {X : Crates} {body body' : Bytes} {members members' : List (Str × Json)}

lemma promptChars_eq (v : Json) : promptChars X v body = ((countedMember X v).map Prod.snd).getD body.length := by
  unfold promptChars countedMember messagesCount memberCount
  rcases (v.get? "messages").bind Json.asArray? with _ | msgs
  · rcases v.get? "input" with _ | input
    · rcases v.get? "prompt" with _ | prompt
      · rfl
      · rfl
    · rfl
  · rfl

lemma estimatePromptTokens_eq (hvalue : X.json.value body = .ok (.object members)) :
    estimatePromptTokens X body = max (countedOctets X members body / 4) 1 := by
  rw [estimatePromptTokens, hvalue]
  dsimp only
  rw [promptChars_eq, countedOctets]

lemma get?_of_filter (hkept : members'.filter (fun m => m.1 ∈ members.map Prod.fst) = members)
    (h : (Json.object members).get? name = some v) : (Json.object members').get? name = some v := by
  have hname : name ∈ members.map Prod.fst := by
    obtain ⟨m, hm, -⟩ := Option.map_eq_some_iff.mp h
    have hfound := List.find?_some hm
    have hmem := List.mem_of_find?_eq_some hm
    exact List.mem_map.mpr ⟨m, List.mem_reverse.mp hmem, of_decide_eq_true hfound⟩
  rw [Json.get?] at h ⊢
  rw [← h]
  congr 1
  conv_rhs => rw [← hkept]
  rw [← List.filter_reverse, List.find?_filter]
  congr 1
  funext m
  by_cases hm : m.1 = name
  · simp [hm, hname]
  · simp [hm]

lemma or_eq_of_name {a a' b b' : Option (Str × Nat)} (hkeep : ∀ x, a = some x → a' = some x)
    (hname : ∀ x y, a' = some x → b = some y → x.1 ≠ y.1) (hrest : b'.map Prod.fst = b.map Prod.fst → b' = b)
    (hsame : (a'.or b').map Prod.fst = (a.or b).map Prod.fst) : a'.or b' = a.or b := by
  rcases a with _ | x
  · rcases a' with _ | x'
    · exact hrest hsame
    · -- a new first choice has a name of its own
      rcases b with _ | y
      · cases hsame
      · exact absurd (Option.some.inj hsame) (hname x' y rfl rfl)
  · rw [hkeep x rfl]
    rfl

lemma none_of_kept {a a' : Option (Str × Nat)} (hkeep : ∀ x, a = some x → a' = some x) (h : a' = none) : a = none := by
  rcases a with _ | x
  · rfl
  · exact (hkeep x rfl).symm.trans h

lemma messagesCount_fst (h : messagesCount X v = some x) : x.1 = "messages" := by
  obtain ⟨msgs, -, rfl⟩ := Option.map_eq_some_iff.mp h
  rfl

lemma memberCount_fst (h : memberCount X name v = some x) : x.1 = name := by
  obtain ⟨content, -, rfl⟩ := Option.map_eq_some_iff.mp h
  rfl

variable (hkept : members'.filter (fun m => m.1 ∈ members.map Prod.fst) = members)
include hkept

lemma messagesCount_kept (h : messagesCount X (.object members) = some x) :
    messagesCount X (.object members') = some x := by
  obtain ⟨msgs, hmsgs, rfl⟩ := Option.map_eq_some_iff.mp h
  obtain ⟨v, hv, harray⟩ := Option.bind_eq_some_iff.mp hmsgs
  rw [messagesCount, get?_of_filter hkept hv, Option.bind_some, harray]
  rfl

lemma memberCount_kept (h : memberCount X name (.object members) = some x) :
    memberCount X name (.object members') = some x := by
  obtain ⟨v, hv, rfl⟩ := Option.map_eq_some_iff.mp h
  rw [memberCount, get?_of_filter hkept hv]
  rfl

lemma countedMember_kept
    (hsame : (countedMember X (.object members')).map Prod.fst = (countedMember X (.object members)).map Prod.fst) :
    countedMember X (.object members') = countedMember X (.object members) := by
  refine or_eq_of_name (fun _ h => messagesCount_kept hkept h) ?_ ?_ hsame
  · intro x y hx hy
    rw [messagesCount_fst hx]
    rcases Option.or_eq_some_iff.mp hy with hinput | ⟨-, hprompt⟩
    · rw [memberCount_fst hinput]
      decide
    · rw [memberCount_fst hprompt]
      decide
  · refine or_eq_of_name (fun _ h => memberCount_kept hkept h) ?_ ?_
    · intro x y hx hy
      rw [memberCount_fst hx, memberCount_fst hy]
      decide
    · intro hprompt
      rcases h : memberCount X "prompt" (.object members) with _ | x
      · rw [h] at hprompt
        exact Option.map_eq_none_iff.mp hprompt
      · exact memberCount_kept hkept h

lemma countedMember_none (h : countedMember X (.object members') = none) :
    countedMember X (.object members) = none := by
  simp only [countedMember, Option.or_eq_none_iff] at h ⊢
  refine ⟨none_of_kept (fun _ => messagesCount_kept hkept) h.1, ?_, ?_⟩
  · exact none_of_kept (fun _ => memberCount_kept hkept) h.2.1
  · exact none_of_kept (fun _ => memberCount_kept hkept) h.2.2

end Counted

/-- A gate does not let a request pass. -/
def IsRefusal (r : Except ApiError Unit) : Prop := r ≠ .ok ()

section Gates

variable {X : Crates} {policy : OpenApiKeyPolicy} {body body' : Bytes}

/-- What the quota gate refuses it refuses of every body with a larger estimate. -/
lemma enforceTokenQuotaForKey_mono (hle : estimatePromptTokens X body ≤ estimatePromptTokens X body')
    (h : IsRefusal (enforceTokenQuotaForKey X policy body)) : IsRefusal (enforceTokenQuotaForKey X policy body') := by
  intro hok
  apply h
  unfold enforceTokenQuotaForKey at hok ⊢
  generalize policy.remainingTokens = left at hok ⊢
  rcases left with _ | remaining
  · rfl
  · simp only [bind_eq_ok, failIf_eq_ok, exists_const, not_and] at hok ⊢
    obtain ⟨hzero, hexceeds, htight⟩ := hok
    refine ⟨hzero, by omega, ?_⟩
    intro hlow hlarge
    exact htight hlow (by omega)

lemma enforceMaxContext_mono (hle : estimatePromptTokens X body ≤ estimatePromptTokens X body')
    (h : IsRefusal (enforceMaxContext X policy body)) : IsRefusal (enforceMaxContext X policy body') := by
  intro hok
  apply h
  unfold enforceMaxContext at hok ⊢
  generalize policy.maxContextTokens = ceiling at hok ⊢
  rcases ceiling with _ | max
  · rfl
  · simp only [failIf_eq_ok] at hok ⊢
    omega

end Gates

/-- **When further members lower an estimate.**  Added members leave the estimate of a request at least where it was
exactly when the same member is counted, or the one that is counted has as many fours of octets as were counted before,
or fewer than two were; then what the gates refused they still refuse. -/
theorem quota_decoys_iff (X : Crates) (body body' : Bytes) (members members' : List (Str × Json))
    (hadds : AddsMembers X body body' members members') :
    (estimatePromptTokens X body ≤ estimatePromptTokens X body' ↔
      (countedMember X (.object members')).map Prod.fst = (countedMember X (.object members)).map Prod.fst ∨
      ∃ name octets, countedMember X (.object members') = some (name, octets) ∧
        (countedOctets X members body < 8 ∨ countedOctets X members body / 4 ≤ octets / 4)) ∧
    (estimatePromptTokens X body ≤ estimatePromptTokens X body' → ∀ policy,
      (IsRefusal (enforceTokenQuotaForKey X policy body) → IsRefusal (enforceTokenQuotaForKey X policy body')) ∧
      (IsRefusal (enforceMaxContext X policy body) → IsRefusal (enforceMaxContext X policy body'))) := by
  refine ⟨?_, fun hle policy => ⟨enforceTokenQuotaForKey_mono hle, enforceMaxContext_mono hle⟩⟩
  rw [estimatePromptTokens_eq hadds.value, estimatePromptTokens_eq hadds.value']
  have hcounted' : ∀ name octets, countedMember X (.object members') = some (name, octets) →
      countedOctets X members' body' = octets := by
    intro name octets hcounted
    rw [countedOctets, hcounted]
    rfl
  constructor
  · intro hle
    rcases hcounted : countedMember X (.object members') with _ | ⟨name, octets⟩
    · rw [countedMember_none hadds.kept hcounted]
      exact Or.inl rfl
    · rw [hcounted' name octets hcounted] at hle
      exact Or.inr ⟨name, octets, rfl, by omega⟩
  · rintro (hsame | ⟨name, octets, hcounted, hle⟩)
    · -- the same member, or the whole of a text that did not get shorter
      have hle : countedOctets X members body ≤ countedOctets X members' body' := by
        rw [countedOctets, countedOctets, countedMember_kept hadds.kept hsame]
        rcases countedMember X (.object members) with _ | x
        · exact hadds.length
        · exact le_rfl
      omega
    · rw [hcounted' name octets hcounted]
      omega

namespace Sample

def promptMembers : List (Str × Json) := [("model", .string "m"), ("prompt", .string "12345678")]

def decoyMembers : List (Str × Json) :=
  [("model", .string "m"), ("prompt", .string "12345678"), ("messages", .array [])]

def promptBody : Bytes := utf8 (renderText (.object promptMembers))

def decoyBody : Bytes := utf8 (renderText (.object decoyMembers))

def decoyTables : CrateTables where
  trees := [(promptBody, .object promptMembers), (decoyBody, .object decoyMembers)]

def tightPolicy : OpenApiKeyPolicy := ⟨["*"], 0, "api", some 1, none, some 1⟩

lemma adds_decoy : AddsMembers decoyTables.crates promptBody decoyBody promptMembers decoyMembers where
  value := CrateTables.value_of_lookup List.lookup_cons_self
  value' := CrateTables.value_of_lookup rfl
  kept := rfl
  length := by decide

lemma estimate_prompt : estimatePromptTokens decoyTables.crates promptBody = 2 := by
  rw [estimatePromptTokens_eq adds_decoy.value]
  rfl

lemma estimate_decoy : estimatePromptTokens decoyTables.crates decoyBody = 1 := by
  rw [estimatePromptTokens_eq adds_decoy.value']
  rfl

end Sample

open Sample in
/-- With an empty `messages` beside its prompt, a body that both gates refuse passes both. -/
theorem decoy_lowers_estimate :
    AddsMembers decoyTables.crates promptBody decoyBody promptMembers decoyMembers ∧
    estimatePromptTokens decoyTables.crates decoyBody < estimatePromptTokens decoyTables.crates promptBody ∧
    IsRefusal (enforceTokenQuotaForKey decoyTables.crates tightPolicy promptBody) ∧
    IsRefusal (enforceMaxContext decoyTables.crates tightPolicy promptBody) ∧
    enforceTokenQuotaForKey decoyTables.crates tightPolicy decoyBody = .ok () ∧
    enforceMaxContext decoyTables.crates tightPolicy decoyBody = .ok () := by
  refine ⟨adds_decoy, ?_, ?_, ?_, ?_, ?_⟩
  · rw [estimate_prompt, estimate_decoy]
    decide
  · simp [IsRefusal, enforceTokenQuotaForKey, tightPolicy, estimate_prompt, failIf]
  · simp [IsRefusal, enforceMaxContext, tightPolicy, estimate_prompt, failIf]
  · simp [enforceTokenQuotaForKey, tightPolicy, estimate_decoy, failIf, largePromptTokens]
  · simp [enforceMaxContext, tightPolicy, estimate_decoy, failIf]

open Sample in
theorem quota_decoys_iff_sample :
    (estimatePromptTokens decoyTables.crates promptBody ≤ estimatePromptTokens decoyTables.crates decoyBody ↔
      (countedMember decoyTables.crates (.object decoyMembers)).map Prod.fst =
        (countedMember decoyTables.crates (.object promptMembers)).map Prod.fst ∨
      ∃ name octets, countedMember decoyTables.crates (.object decoyMembers) = some (name, octets) ∧
        (countedOctets decoyTables.crates promptMembers promptBody < 8 ∨
          countedOctets decoyTables.crates promptMembers promptBody / 4 ≤ octets / 4)) :=
  (quota_decoys_iff decoyTables.crates promptBody decoyBody promptMembers decoyMembers adds_decoy).1

end TeechatOpenapi.Core
