import TeechatOpenapi.Platform.Challenge
import TeechatOpenapi.Platform.EngineChallenge

/-!
# The engine challenge binds its fields (`openapi-platform/src/engine_challenge.rs`)

The preimage of an engine challenge has ten fields of fixed length, six of them hashes, and a tagged measurement at the
end; one hash is over the window, two texts around a NUL.

SHA-256 is taken to be injective on the inputs at hand (`Set.InjOn`).
-/

namespace TeechatOpenapi.Platform

open Lib

/-- The octets that the window is hashed from. -/
def EngineChallengeReportDataInput.window (input : EngineChallengeReportDataInput) : Bytes :=
  utf8 input.notBefore ++ 0 :: utf8 input.notAfter

/-- The inputs of the six field hashes. -/
def EngineChallengeReportDataInput.hashedFields (input : EngineChallengeReportDataInput) : List Bytes :=
  [utf8 input.engineId, utf8 input.epochId, input.window, input.usageSigningPublicRaw, input.mlkemEncapKeyRaw,
    input.x25519PublicRaw]

/-- Kind and digests of two measurements are the same: both are read, and give the same octets. -/
def EngineChallengeMeasurement.SameDigests (X : Crates) :
    EngineChallengeMeasurement → EngineChallengeMeasurement → Prop
  | .mrenclave a, .mrenclave b =>
    ∃ d, decodeHex32 X a "invalid_mrenclave" = .ok d ∧ decodeHex32 X b "invalid_mrenclave" = .ok d
  | .launchDigest l i, .launchDigest l' i' =>
    (∃ d, decodeHex32 X l "invalid_launch_digest" = .ok d ∧ decodeHex32 X l' "invalid_launch_digest" = .ok d) ∧
    (∃ d, decodeHex32 X i "invalid_image_digest" = .ok d ∧ decodeHex32 X i' "invalid_image_digest" = .ok d)
  | .mrenclave _, .launchDigest _ _ => False
  | .launchDigest _ _, .mrenclave _ => False

variable {input : EngineChallengeReportDataInput}

section Layout

variable {X : Crates}

/-- The fields of fixed length: the magic, the nonce, the six hashes, the GPU evidence hash and the policy hash. -/
def fixedFields (X : Crates) (input : EngineChallengeReportDataInput) : List Bytes :=
  [utf8 "teechat-engine-challenge-v1", input.nonce] ++ input.hashedFields.map X.sha2.sha256 ++
    [input.gpuEvidenceSha256, input.policyHash]

lemma buildEngineChallengePreimage_eq_ok {p : Bytes} :
    buildEngineChallengePreimage X input = .ok p ↔
      input.nonce.length = 32 ∧ input.gpuEvidenceSha256.length = 32 ∧ input.policyHash.length = 32 ∧
      ∃ body, measurementBody X input.measurement = .ok body ∧ p = (fixedFields X input).flatten ++ body := by
  simp only [buildEngineChallengePreimage, bind_eq_ok, failIf_eq_ok, pure_eq_ok, exists_const, not_not, fixedFields,
    EngineChallengeReportDataInput.hashedFields, EngineChallengeReportDataInput.window, List.map_cons, List.map_nil,
    List.cons_append, List.nil_append, List.flatten_cons, List.flatten_nil, List.append_nil, List.append_assoc]
  refine and_congr_right fun _ => and_congr_right fun _ => and_congr_right fun _ => ?_
  exact exists_congr fun body => and_congr_right fun _ => eq_comm

lemma map_length_fixedFields (hn : input.nonce.length = 32)
    (hg : input.gpuEvidenceSha256.length = 32) (hp : input.policyHash.length = 32) :
    (fixedFields X input).map List.length = [27, 32, 32, 32, 32, 32, 32, 32, 32, 32] := by
  have hmagic : (utf8 "teechat-engine-challenge-v1").length = 27 := by decide
  simp only [fixedFields, EngineChallengeReportDataInput.hashedFields, List.map_cons, List.map_nil, List.cons_append,
    List.nil_append, hmagic, hn, hg, hp, X.sha2.sha256_length]

lemma sameDigests_of_body {m m' : EngineChallengeMeasurement} {body : Bytes}
    (h : measurementBody X m = .ok body) (h' : measurementBody X m' = .ok body) : m.SameDigests X m' := by
  rcases m with ⟨l, i⟩ | v <;> rcases m' with ⟨l', i'⟩ | v' <;>
    simp only [measurementBody, bind_eq_ok, pure_eq_ok] at h h'
  · obtain ⟨dl, hl, di, hi, rfl⟩ := h
    obtain ⟨dl', hl', di', hi', hbody⟩ := h'
    obtain ⟨hlaunch, himage⟩ := List.append_inj (List.cons.inj hbody).2 (by rw [dl.2, dl'.2])
    obtain rfl : dl' = dl := Subtype.ext hlaunch
    obtain rfl : di' = di := Subtype.ext himage
    exact ⟨⟨dl', hl, hl'⟩, ⟨di', hi, hi'⟩⟩
  · obtain ⟨dl, -, di, -, rfl⟩ := h
    obtain ⟨d', -, hbody⟩ := h'
    cases (List.cons.inj hbody).1
  · obtain ⟨d, -, rfl⟩ := h
    obtain ⟨dl', -, di', -, hbody⟩ := h'
    cases (List.cons.inj hbody).1
  · obtain ⟨d, hd, rfl⟩ := h
    obtain ⟨d', hd', hbody⟩ := h'
    obtain rfl : d' = d := Subtype.ext (List.cons.inj hbody).2
    exact ⟨d', hd, hd'⟩

lemma window_injective {i i' : EngineChallengeReportDataInput} (hb : nul ∉ i.notBefore) (ha : nul ∉ i.notAfter)
    (h : i.window = i'.window) : i.notBefore = i'.notBefore ∧ i.notAfter = i'.notAfter := by
  have htext : ∀ j : EngineChallengeReportDataInput, j.window = utf8 (j.notBefore ++ nul :: j.notAfter) := by
    intro j
    rw [utf8_append]
    rfl
  rw [htext, htext] at h
  obtain ⟨hbefore, -, hafter⟩ := (List.append_cons_inj_of_notMem hb ha).mp (utf8_injective h)
  exact ⟨hbefore, hafter⟩

end Layout

/-- The inputs of SHA-256 whose images stand in a report data. -/
def EngineChallengeReportDataInput.hashed (X : Crates) (input : EngineChallengeReportDataInput) : Set Bytes :=
  {m | m ∈ input.hashedFields ∨ buildEngineChallengePreimage X input = .ok m}

/-- Two inputs of a challenge bind the same: every field is the same, the measurement up to its notation. -/
structure EngineChallengeReportDataInput.SameBinding (X : Crates) (i i' : EngineChallengeReportDataInput) : Prop where
  nonce : i.nonce = i'.nonce
  engineId : i.engineId = i'.engineId
  epochId : i.epochId = i'.epochId
  notBefore : i.notBefore = i'.notBefore
  notAfter : i.notAfter = i'.notAfter
  usageSigningPublicRaw : i.usageSigningPublicRaw = i'.usageSigningPublicRaw
  mlkemEncapKeyRaw : i.mlkemEncapKeyRaw = i'.mlkemEncapKeyRaw
  x25519PublicRaw : i.x25519PublicRaw = i'.x25519PublicRaw
  gpuEvidenceSha256 : i.gpuEvidenceSha256 = i'.gpuEvidenceSha256
  policyHash : i.policyHash = i'.policyHash
  measurement : i.measurement.SameDigests X i'.measurement

section Binding

variable {X : Crates} {i i' : EngineChallengeReportDataInput}

lemma hashedFields_injective (hinj : Set.InjOn X.sha2.sha256 (i.hashed X ∪ i'.hashed X))
    (h : i.hashedFields.map X.sha2.sha256 = i'.hashedFields.map X.sha2.sha256) : i.hashedFields = i'.hashedFields := by
  have hfield : ∀ {m m'}, m ∈ i.hashedFields → m' ∈ i'.hashedFields → X.sha2.sha256 m = X.sha2.sha256 m' → m = m' :=
    fun hm hm' heq => hinj (Or.inl (Or.inl hm)) (Or.inr (Or.inl hm')) heq
  apply List.ext_getElem
  · rfl
  · intro k hk hk'
    refine hfield (List.getElem_mem hk) (List.getElem_mem hk') ?_
    have hlen : k < (i.hashedFields.map X.sha2.sha256).length := by rwa [List.length_map]
    have hget := List.getElem_of_eq h hlen
    rwa [List.getElem_map, List.getElem_map] at hget

lemma sameBinding_of_enginePreimage (hb : nul ∉ i.notBefore) (ha : nul ∉ i.notAfter)
    (hinj : Set.InjOn X.sha2.sha256 (i.hashed X ∪ i'.hashed X)) {p : Bytes}
    (h : buildEngineChallengePreimage X i = .ok p) (h' : buildEngineChallengePreimage X i' = .ok p) :
    i.SameBinding X i' := by
  obtain ⟨hn, hg, hp, body, hbody, rfl⟩ := buildEngineChallengePreimage_eq_ok.mp h
  obtain ⟨hn', hg', hp', body', hbody', hpre⟩ := buildEngineChallengePreimage_eq_ok.mp h'
  have hlens : (fixedFields X i).map List.length = (fixedFields X i').map List.length := by
    rw [map_length_fixedFields hn hg hp, map_length_fixedFields hn' hg' hp']
  have hflat := congrArg List.sum hlens
  rw [← List.length_flatten, ← List.length_flatten] at hflat
  obtain ⟨hfixed, rfl⟩ := List.append_inj hpre hflat
  obtain ⟨hfront, hlast⟩ := List.append_inj (flatten_injective hlens hfixed) rfl
  obtain ⟨hfirst, hhashes⟩ := List.append_inj hfront rfl
  have hfields := hashedFields_injective hinj hhashes
  simp only [EngineChallengeReportDataInput.hashedFields, List.cons.injEq, and_true, true_and] at hfields hfirst hlast
  obtain ⟨hengine, hepoch, hwindow, husage, hmlkem, hx25519⟩ := hfields
  obtain ⟨hbefore, hafter⟩ := window_injective hb ha hwindow
  exact ⟨hfirst, utf8_injective hengine, utf8_injective hepoch, hbefore, hafter, husage, hmlkem, hx25519, hlast.1,
    hlast.2, sameDigests_of_body hbody hbody'⟩

lemma enginePreimage_ne_edgePreimage {nonce p p' : Bytes}
    {edge : EdgeIdentity} (h : buildEngineChallengePreimage X input = .ok p)
    (h' : Challenge.buildPreimageV1 X nonce edge = .ok p') : p ≠ p' := by
  obtain ⟨-, -, -, body, -, rfl⟩ := buildEngineChallengePreimage_eq_ok.mp h
  obtain ⟨-, spki, code, body', -, -, -, rfl⟩ := Challenge.buildPreimageV1_eq_ok.mp h'
  intro heq
  have hmagic := congrArg (List.take 9) heq
  simp only [fixedFields, List.cons_append, List.flatten_cons, List.append_assoc] at hmagic
  rw [List.take_append_of_le_length (by decide), List.take_append_of_le_length (by decide)] at hmagic
  exact absurd hmagic (by decide)

end Binding

/-- **The engine challenge binds its fields.**  Two inputs with the same report data, one of them with a window without
NUL, have the same fields; and no preimage of an engine challenge is the preimage of an edge challenge. -/
theorem engine_challenge_binding (X : Crates) :
    (∀ (i i' : EngineChallengeReportDataInput) (b : Bytes), nul ∉ i.notBefore → nul ∉ i.notAfter →
      Set.InjOn X.sha2.sha256 (i.hashed X ∪ i'.hashed X) →
      buildEngineChallengeReportData X i = .ok b → buildEngineChallengeReportData X i' = .ok b →
      i.SameBinding X i') ∧
    (∀ (input : EngineChallengeReportDataInput) (nonce : Bytes) (edge : EdgeIdentity) (p p' : Bytes),
      buildEngineChallengePreimage X input = .ok p → Challenge.buildPreimageV1 X nonce edge = .ok p' → p ≠ p') := by
  constructor
  · intro i i' b hb ha hinj h h'
    obtain ⟨p, hp, hpb⟩ := bind_eq_ok.mp h
    obtain ⟨p', hp', hpb'⟩ := bind_eq_ok.mp h'
    have heq := (pure_eq_ok.mp hpb).trans (pure_eq_ok.mp hpb').symm
    have hhash : X.sha2.sha256 p = X.sha2.sha256 p' :=
      (List.append_inj heq (by rw [X.sha2.sha256_length, X.sha2.sha256_length])).1
    obtain rfl : p = p' := hinj (Or.inl (Or.inr hp)) (Or.inr (Or.inr hp')) hhash
    exact sameBinding_of_enginePreimage hb ha hinj hp hp'
  · intro input nonce edge p p' h h'
    exact enginePreimage_ne_edgePreimage h h'

namespace Sample

def challengeInput : EngineChallengeReportDataInput where
  nonce := nonce.val
  engineId := "e2"
  epochId := "p2"
  notBefore := "2026-07-31T00:00:00Z"
  notAfter := "2026-08-30T00:00:00Z"
  usageSigningPublicRaw := utf8 "usage2"
  mlkemEncapKeyRaw := utf8 "mlkem2"
  x25519PublicRaw := utf8 "x255192"
  gpuEvidenceSha256 := List.replicate 32 0
  policyHash := List.replicate 32 0
  measurement := .launchDigest (List.replicate 64 'a') (List.replicate 64 'b')

def upperInput : EngineChallengeReportDataInput :=
  { challengeInput with measurement := .launchDigest (List.replicate 64 'A') (List.replicate 64 'b') }

lemma hashes_challengeInput : challengeInput.hashedFields.map challengeTables.crates.sha2.sha256 =
    [engineIdHash, epochIdHash, windowHash, usageHash, mlkemHash, x25519Hash] := by decide

lemma body_challengeInput : measurementBody challengeTables.crates challengeInput.measurement =
    .ok (0x02 :: (List.replicate 32 0xaa ++ List.replicate 32 0xbb)) := by decide

lemma body_upperInput : measurementBody challengeTables.crates upperInput.measurement =
    .ok (0x02 :: (List.replicate 32 0xaa ++ List.replicate 32 0xbb)) := by decide

lemma preimage_of_body {m : EngineChallengeMeasurement} (h : measurementBody challengeTables.crates m =
      .ok (0x02 :: (List.replicate 32 0xaa ++ List.replicate 32 0xbb))) :
    buildEngineChallengePreimage challengeTables.crates { challengeInput with measurement := m } = .ok preimage := by
  refine buildEngineChallengePreimage_eq_ok.mpr ⟨nonce.2, List.length_replicate, List.length_replicate, _, h, ?_⟩
  have hhashes := hashes_challengeInput
  rw [fixedFields, show EngineChallengeReportDataInput.hashedFields { challengeInput with measurement := m } =
    challengeInput.hashedFields from rfl, hhashes, preimage]
  simp only [challengeInput, List.cons_append, List.nil_append, List.flatten_cons, List.flatten_nil, List.append_nil,
    List.append_assoc]

lemma sha256_preimage : challengeTables.crates.sha2.sha256 preimage = preimageHash := by
  have hfields : ((challengeInput.hashedFields.zip
      [engineIdHash, epochIdHash, windowHash, usageHash, mlkemHash, x25519Hash]).lookup preimage) = none := by decide
  have hlookup : (challengeInput.hashedFields.zip
      [engineIdHash, epochIdHash, windowHash, usageHash, mlkemHash, x25519Hash] ++
      (preimage, preimageHash) :: tables.sha256).lookup preimage = some preimageHash := by
    rw [List.lookup_append, hfields, Option.none_or, List.lookup_cons_self]
  exact CrateTables.sha256_of_lookup hlookup (by decide)

lemma injOn_challengeInput : Set.InjOn challengeTables.crates.sha2.sha256
    (challengeInput.hashed challengeTables.crates ∪ upperInput.hashed challengeTables.crates) := by
  have hmem : ∀ m ∈ challengeInput.hashed challengeTables.crates ∪ upperInput.hashed challengeTables.crates,
      m ∈ challengeInput.hashedFields ++ [preimage] := by
    rintro m ((hm | hm) | (hm | hm))
    · exact List.mem_append_left _ hm
    · obtain rfl := Except.ok.inj (hm.symm.trans (preimage_of_body body_challengeInput))
      exact List.mem_append_right _ List.mem_cons_self
    · exact List.mem_append_left _ hm
    · obtain rfl := Except.ok.inj (hm.symm.trans (preimage_of_body body_upperInput))
      exact List.mem_append_right _ List.mem_cons_self
  have hnodup : ((challengeInput.hashedFields ++ [preimage]).map challengeTables.crates.sha2.sha256).Nodup := by
    rw [List.map_append, hashes_challengeInput, List.map_singleton, sha256_preimage]
    decide
  intro m hm m' hm' heq
  exact List.inj_on_of_nodup_map hnodup (hmem m hm) (hmem m' hm') heq

lemma reportData_of_body {m : EngineChallengeMeasurement} (h : measurementBody challengeTables.crates m =
      .ok (0x02 :: (List.replicate 32 0xaa ++ List.replicate 32 0xbb))) :
    buildEngineChallengeReportData challengeTables.crates { challengeInput with measurement := m } =
      .ok (preimageHash ++ List.replicate 32 0) := by
  refine bind_eq_ok.mpr ⟨preimage, preimage_of_body h, ?_⟩
  rw [sha256_preimage]
  rfl

end Sample

open Sample in
theorem engine_challenge_binding_sample :
    challengeInput.SameBinding challengeTables.crates upperInput ∧
    ∃ p, Challenge.buildPreimageV1 challengeTables.crates nonce.val Challenge.Sample.canonicalEdge = .ok p ∧
      preimage ≠ p := by
  obtain ⟨hbinding, hseparate⟩ := engine_challenge_binding challengeTables.crates
  have hcanonical := Challenge.canonicalEdge_of_canonicalize Hex.lowercase_lawful Challenge.Sample.canonicalize_edge
  obtain ⟨p, hp⟩ := Challenge.buildPreimageV1_of_canonical (X := challengeTables.crates) Hex.lowercase_lawful
    Hex.lowercase_reads nonce hcanonical
  refine ⟨hbinding challengeInput upperInput _ (by decide) (by decide) injOn_challengeInput
    (reportData_of_body body_challengeInput) (reportData_of_body body_upperInput), p, hp, ?_⟩
  exact hseparate challengeInput _ _ _ _ (preimage_of_body body_challengeInput) hp

end TeechatOpenapi.Platform
