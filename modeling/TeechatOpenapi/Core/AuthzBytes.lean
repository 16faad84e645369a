import TeechatOpenapi.Core.RemoteAuth

/-!
# What L0 signs (`openapi-core/src/authz.rs`)

The signed octets of an authorization and of a revocation are compact JSON texts.  An authorization leaves out a default
key set and absent limits, so its text has a varying shape.
-/

namespace TeechatOpenapi.Core

open Lib

/-- Key sets that mean the same: the empty text is `api`. -/
def SameKeySet (a b : Str) : Prop := (if a = [] then "api".toList else a) = (if b = [] then "api".toList else b)

/-- The key set as it is written. -/
def writtenKeySet (keySet : Str) : Option Json :=
  if keySet = [] ∨ keySet = "api" then none else some (.string keySet)

lemma sameKeySet_of_written {a b : Str} (h : writtenKeySet a = writtenKeySet b) : SameKeySet a b := by
  have hdefault : ∀ s : Str, s = [] ∨ s = "api" → (if s = [] then "api".toList else s) = "api".toList := by
    rintro s (rfl | rfl)
    · rfl
    · rfl
  unfold writtenKeySet at h
  unfold SameKeySet
  split_ifs at h with ha hb hb
  · rw [hdefault a ha, hdefault b hb]
  · rw [Json.string.inj (Option.some.inj h)]

/-- The fields of a policy, in the order of their declaration. -/
def OpenApiKeyPolicy.fields (policy : OpenApiKeyPolicy) : List (Str × Option Json) :=
  [("models", some (.array (policy.models.map .string))), ("rpm", some (numberTree policy.rpm)),
    ("key_set", writtenKeySet policy.keySet), ("remaining_tokens", policy.remainingTokens.map numberTree),
    ("max_in_flight", policy.maxInFlight.map numberTree),
    ("max_context_tokens", policy.maxContextTokens.map numberTree)]

lemma OpenApiKeyPolicy.tree_eq (policy : OpenApiKeyPolicy) :
    policy.tree = .object (writtenMembers policy.fields) := by
  obtain ⟨models, rpm, keySet, remaining, inFlight, context⟩ := policy
  unfold tree fields writtenKeySet
  by_cases hkeySet : keySet = [] ∨ keySet = "api"
  · simp only [if_pos hkeySet]
    cases remaining <;> cases inFlight <;> cases context <;> rfl
  · simp only [if_neg hkeySet]
    cases remaining <;> cases inFlight <;> cases context <;> rfl

lemma numberTree_injective : Function.Injective numberTree := by
  intro n m h
  exact Number.posInt.inj (Json.number.inj h)

lemma policy_of_tree {p q : OpenApiKeyPolicy} (h : p.tree = q.tree) :
    p.models = q.models ∧ p.rpm = q.rpm ∧ SameKeySet p.keySet q.keySet ∧ p.remainingTokens = q.remainingTokens ∧
      p.maxInFlight = q.maxInFlight ∧ p.maxContextTokens = q.maxContextTokens := by
  rw [p.tree_eq, q.tree_eq] at h
  have hnodup : (p.fields.map Prod.fst).Nodup := by
    change List.Nodup [("models".toList : Str), "rpm", "key_set", "remaining_tokens", "max_in_flight",
      "max_context_tokens"]
    decide
  have hnames : p.fields.map Prod.fst = q.fields.map Prod.fst := rfl
  have hfields := writtenMembers_injective hnames hnodup (Json.object.inj h)
  simp only [OpenApiKeyPolicy.fields, List.cons.injEq, Prod.mk.injEq, true_and, and_true, Option.some.injEq,
    Json.array.injEq] at hfields
  obtain ⟨hmodels, hrpm, hkeySet, hremaining, hinFlight, hcontext⟩ := hfields
  have hlimit := Option.map_injective numberTree_injective
  exact ⟨List.map_injective_iff.mpr (fun _ _ h => Json.string.inj h) hmodels, numberTree_injective hrpm,
    sameKeySet_of_written hkeySet, hlimit hremaining, hlimit hinFlight, hlimit hcontext⟩

lemma floatFree_policy (policy : OpenApiKeyPolicy) : policy.tree.floatFree = true := by
  have hnumber : ∀ (o : Option Nat) (j : Json), o.map numberTree = some j → j.floatFree = true := by
    intro o j h
    obtain ⟨n, -, rfl⟩ := Option.map_eq_some_iff.mp h
    rfl
  rw [policy.tree_eq, Json.floatFree, floatFreeMembers_iff]
  intro m hm
  have hfield := mem_writtenMembers.mp hm
  simp only [OpenApiKeyPolicy.fields, List.mem_cons, Prod.mk.injEq, List.not_mem_nil, or_false] at hfield
  rcases hfield with ⟨-, h⟩ | ⟨-, h⟩ | ⟨-, h⟩ | ⟨-, h⟩ | ⟨-, h⟩ | ⟨-, h⟩
  · rw [Option.some.inj h, Json.floatFree, floatFreeElems_iff]
    intro x hx
    obtain ⟨s, -, rfl⟩ := List.mem_map.mp hx
    rfl
  · rw [Option.some.inj h]
    rfl
  · unfold writtenKeySet at h
    split_ifs at h
    rw [Option.some.inj h]
    rfl
  · exact hnumber _ _ h.symm
  · exact hnumber _ _ h.symm
  · exact hnumber _ _ h.symm

section Messages

variable {X : Crates}

/-- The tree of an authorization. -/
def SignedAuthz.tree (a : SignedAuthz) : Json :=
  .object [("authz_version", numberTree a.authzVersion), ("key_id", .string a.keyId),
    ("key_hash_hex", .string a.keyHashHex), ("account_id", .string a.accountId), ("policy", a.policy.tree),
    ("exp_ms", numberTree a.expMs), ("epoch", numberTree a.epoch)]

/-- The tree of a revocation. -/
def SignedRevocation.tree (r : SignedRevocation) : Json :=
  .object [("revoke_version", numberTree r.revokeVersion), ("key_id", .string r.keyId),
    ("revoked_at_ms", numberTree r.revokedAtMs), ("epoch", numberTree r.epoch)]

lemma SignedAuthz.floatFree_tree (a : SignedAuthz) : a.tree.floatFree = true := by
  simp only [tree, Json.floatFree, floatFreeMembers, floatFree_policy, numberTree, Bool.and_self]

lemma SignedRevocation.floatFree_tree (r : SignedRevocation) : r.tree.floatFree = true := rfl

lemma authz_tree_ne_revocation (a : SignedAuthz) (r : SignedRevocation) : a.tree ≠ r.tree := by
  intro h
  have hname := (Prod.mk.inj (List.cons.inj (Json.object.inj h)).1).1
  exact absurd hname (by decide)

lemma unsignedBytes_ne (hjson : X.json.WritesCompact) (a : SignedAuthz) (r : SignedRevocation) :
    a.unsignedBytes X ≠ r.unsignedBytes X := by
  intro h
  exact authz_tree_ne_revocation a r (hjson.injective a.floatFree_tree r.floatFree_tree h)

lemma verifyFamilyB_ok {payload key : Bytes} {signatureHex : Str}
    (h : verifyFamilyB X payload signatureHex key = .ok ()) :
    ∃ raw signature, X.hex.decode signatureHex = .ok raw ∧ X.ed25519.signatureFromSlice raw = .ok signature ∧
      X.ed25519.verify key payload signature = true := by
  simp only [verifyFamilyB, bind_eq_ok, mapErr_eq_ok, failIf_eq_ok, not_not] at h
  obtain ⟨raw, hraw, signature, hsignature, hverify⟩ := h
  exact ⟨raw, signature, hraw, hsignature, hverify⟩

end Messages

/-- **What L0 signs is unambiguous.**  The signed octets of an authorization determine every signed field, the key set
up to the empty text; those of a revocation determine every signed field; no message of one kind has the octets of one
of the other, so no signature verifies for both under a key that verifies one message for a signature. -/
theorem unsigned_bytes_unambiguous (X : Crates) (hjson : X.json.WritesCompact) :
    (∀ a b : SignedAuthz, a.unsignedBytes X = b.unsignedBytes X →
      a.authzVersion = b.authzVersion ∧ a.keyId = b.keyId ∧ a.keyHashHex = b.keyHashHex ∧
      a.accountId = b.accountId ∧ a.policy.models = b.policy.models ∧ a.policy.rpm = b.policy.rpm ∧
      SameKeySet a.policy.keySet b.policy.keySet ∧ a.policy.remainingTokens = b.policy.remainingTokens ∧
      a.policy.maxInFlight = b.policy.maxInFlight ∧ a.policy.maxContextTokens = b.policy.maxContextTokens ∧
      a.expMs = b.expMs ∧ a.epoch = b.epoch) ∧
    (∀ r s : SignedRevocation, r.unsignedBytes X = s.unsignedBytes X →
      r.revokeVersion = s.revokeVersion ∧ r.keyId = s.keyId ∧ r.revokedAtMs = s.revokedAtMs ∧ r.epoch = s.epoch) ∧
    (∀ (a : SignedAuthz) (r : SignedRevocation), a.unsignedBytes X ≠ r.unsignedBytes X) ∧
    (∀ verifyKey, X.ed25519.OneMessage verifyKey → ∀ (a : SignedAuthz) (r : SignedRevocation),
      a.verifySignature X verifyKey = .ok () → r.verifySignature X verifyKey = .ok () →
      a.signatureHex ≠ r.signatureHex) := by
  refine ⟨?_, ?_, unsignedBytes_ne hjson, ?_⟩
  · intro a b h
    have htree : a.tree = b.tree := hjson.injective a.floatFree_tree b.floatFree_tree h
    simp only [SignedAuthz.tree, Json.object.injEq, List.cons.injEq, Prod.mk.injEq, true_and, and_true,
      Json.string.injEq, numberTree_injective.eq_iff] at htree
    obtain ⟨hversion, hid, hhash, haccount, hpolicy, hexp, hepoch⟩ := htree
    obtain ⟨hmodels, hrpm, hkeySet, hremaining, hinFlight, hcontext⟩ := policy_of_tree hpolicy
    exact ⟨hversion, hid, hhash, haccount, hmodels, hrpm, hkeySet, hremaining, hinFlight, hcontext, hexp, hepoch⟩
  · intro r s h
    have htree : r.tree = s.tree := hjson.injective r.floatFree_tree s.floatFree_tree h
    simpa only [SignedRevocation.tree, Json.object.injEq, List.cons.injEq, Prod.mk.injEq, true_and, and_true,
      Json.string.injEq, numberTree_injective.eq_iff] using htree
  · intro verifyKey hone a r ha hr heq
    obtain ⟨raw, signature, hraw, hsignature, hverify⟩ := verifyFamilyB_ok ha
    obtain ⟨raw', signature', hraw', hsignature', hverify'⟩ := verifyFamilyB_ok hr
    -- one text, so one signature, so one message
    rw [heq, hraw'] at hraw
    obtain rfl := Except.ok.inj hraw
    obtain rfl := Except.ok.inj (hsignature'.symm.trans hsignature)
    exact unsignedBytes_ne hjson a r (hone _ _ signature' hverify hverify')

open Sample in
lemma l0Key_oneMessage : authTables.crates.ed25519.OneMessage l0Key := by
  intro message message' signature h h'
  have hcases : ∀ m, authTables.crates.ed25519.verify l0Key m signature = true →
      (m = authz.unsignedBytes bareTables.crates ∧ signature = authzSig) ∨
        (m = revocation.unsignedBytes bareTables.crates ∧ signature = revokeSig) := by
    intro m hm
    simpa [authTables] using of_decide_eq_true hm
  have hne : authzSig ≠ revokeSig := by decide
  rcases hcases message h with ⟨rfl, rfl⟩ | ⟨rfl, rfl⟩ <;> rcases hcases message' h' with ⟨rfl, hs⟩ | ⟨rfl, hs⟩
  · rfl
  · exact absurd hs hne
  · exact absurd hs.symm hne
  · rfl

open Sample in
/-- The authorization of the sample key with an empty key set has the octets of the one for `api`, which names the same
key set; its revocation has others, and another signature. -/
theorem unsigned_bytes_unambiguous_sample :
    { authz with policy := { authz.policy with keySet := [] } }.unsignedBytes authTables.crates =
      authz.unsignedBytes authTables.crates ∧
    SameKeySet [] authz.policy.keySet ∧
    authz.unsignedBytes authTables.crates ≠ revocation.unsignedBytes authTables.crates ∧
    authz.signatureHex ≠ revocation.signatureHex := by
  obtain ⟨hauthz, -, hkind, hsignature⟩ := unsigned_bytes_unambiguous authTables.crates authTables.writesCompact
  have hsame : { authz with policy := { authz.policy with keySet := [] } }.unsignedBytes authTables.crates =
      authz.unsignedBytes authTables.crates := rfl
  exact ⟨hsame, (hauthz _ _ hsame).2.2.2.2.2.2.1, hkind authz revocation,
    hsignature l0Key l0Key_oneMessage authz revocation (toOption_eq_some.mp (by decide +kernel))
      (toOption_eq_some.mp (by decide +kernel))⟩

end TeechatOpenapi.Core
