import TeechatOpenapi.Lib.Layout
import TeechatOpenapi.Platform.EngineRecipient

/-!
# Epoch evidence stays with its epoch (`openapi-platform/src/epoch_evidence.rs`)

Bind v2 hashes thirteen texts joined with NUL, without escaping.  The texts of an honest engine hold no NUL; those of a
relay may.

SHA-512 maps a larger set to a smaller one, so it is taken to be injective on the preimages at hand (`Set.InjOn`).
-/

namespace TeechatOpenapi.Platform

open Lib

/-- The fields that bind v2 hashes. -/
structure BindFields where
  epoch : QuoteEpochClaims
  tlsClientCertSha256 : Str
  engineBinarySha256 : Str
  vllmBinarySha256 : Str
  issuedAt : Str
  nonce : Option Str

namespace BindFields

def reportData (X : Crates) (f : BindFields) : Bytes :=
  bindEpochReportData64 X f.epoch f.tlsClientCertSha256 f.engineBinarySha256 f.vllmBinarySha256 f.issuedAt f.nonce

/-- The texts of the epoch block. -/
def epochTexts (f : BindFields) : List Str :=
  [f.epoch.engineId, f.epoch.epochId, f.epoch.notBefore, f.epoch.notAfter, f.epoch.mlkemEncapsulationKey,
    f.epoch.x25519Public, f.epoch.usageSigningPublic]

def hashTexts (f : BindFields) : List Str := [f.tlsClientCertSha256, f.engineBinarySha256, f.vllmBinarySha256]

/-- The texts that are joined. -/
def pieces (f : BindFields) : List Str :=
  "teechat-sev-snp-bind-v2".toList :: (f.epochTexts ++ f.hashTexts.map toAsciiLowercase ++
    [f.issuedAt, f.nonce.getD []])

def preimage (f : BindFields) : Bytes := utf8 (joinNul f.pieces)

/-- No field holds a NUL. -/
structure NulFree (f : BindFields) : Prop where
  epoch : ∀ s ∈ f.epochTexts, nul ∉ s
  hashes : ∀ s ∈ f.hashTexts, nul ∉ s
  issuedAt : nul ∉ f.issuedAt
  nonce : ∀ s ∈ f.nonce, nul ∉ s

/-- The same fields, up to the case of the hashes; an absent nonce is an empty one. -/
structure SameUpToCase (f g : BindFields) : Prop where
  epoch : f.epoch = g.epoch
  tlsClientCertSha256 : eqIgnoreAsciiCase f.tlsClientCertSha256 g.tlsClientCertSha256 = true
  engineBinarySha256 : eqIgnoreAsciiCase f.engineBinarySha256 g.engineBinarySha256 = true
  vllmBinarySha256 : eqIgnoreAsciiCase f.vllmBinarySha256 g.vllmBinarySha256 = true
  issuedAt : f.issuedAt = g.issuedAt
  nonce : f.nonce.getD [] = g.nonce.getD []

end BindFields

lemma lowerChar_eq_nul {c : Char} (h : lowerChar c = nul) : c = nul := by
  have hval := lowerChar_toNat c
  rw [h, show nul.toNat = 0 from rfl] at hval
  split at hval
  · omega
  · exact Char.toNat_inj.mp hval.symm

lemma nul_notMem_toAsciiLowercase {s : Str} (h : nul ∉ s) : nul ∉ toAsciiLowercase s := by
  intro hmem
  obtain ⟨c, hc, heq⟩ := List.mem_map.mp hmem
  exact h (lowerChar_eq_nul heq ▸ hc)

lemma BindFields.NulFree.pieces {f : BindFields} (h : f.NulFree) : ∀ s ∈ f.pieces, nul ∉ s := by
  intro s hs
  rcases List.mem_cons.mp hs with rfl | hs
  · decide
  rcases List.mem_append.mp hs with hs | hs
  · rcases List.mem_append.mp hs with hs | hs
    · exact h.epoch s hs
    · obtain ⟨t, ht, rfl⟩ := List.mem_map.mp hs
      exact nul_notMem_toAsciiLowercase (h.hashes t ht)
  · rcases List.mem_cons.mp hs with rfl | hs
    · exact h.issuedAt
    · obtain rfl := List.mem_singleton.mp hs
      rcases hn : f.nonce with _ | n
      · exact List.not_mem_nil
      · exact h.nonce n hn

lemma BindFields.epoch_eq_of_texts {f g : BindFields} (h : f.epochTexts = g.epochTexts) : f.epoch = g.epoch := by
  simp only [BindFields.epochTexts, List.cons.injEq, and_true] at h
  obtain ⟨h₁, h₂, h₃, h₄, h₅, h₆, h₇⟩ := h
  rcases hf : f.epoch with ⟨⟩
  rcases hg : g.epoch with ⟨⟩
  simp_all

lemma BindFields.agrees_of_preimage_eq {f g : BindFields} (hf : f.NulFree) (h : f.preimage = g.preimage) :
    f.SameUpToCase g := by
  have hpieces : f.pieces = g.pieces := intercalate_injective rfl hf.pieces (utf8_injective h)
  obtain ⟨hepoch, hlast⟩ := List.append_inj (List.cons.inj hpieces).2 rfl
  obtain ⟨hepoch, hhashes⟩ := List.append_inj hepoch rfl
  simp only [BindFields.hashTexts, List.map_cons, List.map_nil, List.cons.injEq, and_true] at hhashes hlast
  refine ⟨BindFields.epoch_eq_of_texts hepoch, beq_iff_eq.mpr hhashes.1, beq_iff_eq.mpr hhashes.2.1,
    beq_iff_eq.mpr hhashes.2.2, hlast.1, hlast.2⟩

/-- The fields that the wrapper of a quote gives for an epoch block and a nonce. -/
def WrapperClaims.fields (claims : WrapperClaims) (epoch : QuoteEpochClaims) (nonce : Option Str) : BindFields :=
  ⟨epoch, claims.tlsClientCertSha256, (claims.engine.map (·.binarySha256)).getD [],
    (claims.vllm.map (·.binarySha256)).getD [], claims.issuedAt, nonce⟩

lemma WrapperClaims.fields_reportData (X : Crates) (claims : WrapperClaims) (epoch : QuoteEpochClaims)
    (nonce : Option Str) : (claims.fields epoch nonce).reportData X = claims.bind X epoch nonce := rfl

/-- The fields that a quote gives for a nonce. -/
def quoteFields (X : Crates) (quote : Str) (nonce : Option Str) : Option BindFields :=
  (parseWrapper X quote).bind fun wrapper => wrapper.claims.epoch.map fun epoch => wrapper.claims.fields epoch nonce

section Accepted

variable {X : Crates} {quote : Str} {subject : EpochEvidenceSubject} {nonce : Option Str}
  {verified : VerifiedEpochEvidence} {report : Bytes}

lemma quoteFields_of_accepted (h : verifyEpochEvidence X quote subject nonce = .ok verified)
    (hreport : X.base64.standard (trim verified.reportB64) = .ok report) :
    ∃ g, quoteFields X quote nonce = some g ∧ g.nonce = nonce ∧ g.epoch.Describes subject ∧
      slice report snpReportDataOffset reportDataLen = some (g.reportData X) := by
  obtain ⟨wrapper, report', hw, he, hdesc, hb64, -, hdec, hslice⟩ := (verifyEpochEvidence_eq_ok X).mp h
  obtain rfl : report = report' := by
    rw [hb64, hdec] at hreport
    exact (Except.ok.inj hreport).symm
  refine ⟨wrapper.claims.fields verified.epoch nonce, ?_, rfl, hdesc, ?_⟩
  · rw [quoteFields, hw, Option.bind_some, he, Option.map_some]
  · rw [WrapperClaims.fields_reportData]
    exact hslice

lemma agrees_of_accepted {honest : BindFields} (hfree : honest.NulFree)
    (h : verifyEpochEvidence X quote subject nonce = .ok verified)
    (hreport : X.base64.standard (trim verified.reportB64) = .ok report)
    (hminted : slice report snpReportDataOffset reportDataLen = some (honest.reportData X))
    (hinj : ∀ g, quoteFields X quote nonce = some g → Set.InjOn X.sha2.sha512 {honest.preimage, g.preimage}) :
    honest.epoch.Describes subject ∧ honest.nonce.getD [] = nonce.getD [] := by
  obtain ⟨g, hg, rfl, hdesc, hslice⟩ := quoteFields_of_accepted h hreport
  have hdata : honest.reportData X = g.reportData X := Option.some.inj (hminted.symm.trans hslice)
  have hpre : honest.preimage = g.preimage :=
    hinj g hg (Set.mem_insert _ _) (Set.mem_insert_of_mem _ rfl) hdata
  have hagree := BindFields.agrees_of_preimage_eq hfree hpre
  exact ⟨hagree.epoch ▸ hdesc, hagree.nonce⟩

end Accepted

/-- **Epoch evidence is not transplanted.**  Fields without NUL and any other fields have the same report data only if
they agree.  A report minted for them is accepted only for a subject with their engine, epoch, window and keys, and
only for their nonce. -/
theorem epoch_evidence_not_transplanted (X : Crates) (honest : BindFields) (hfree : honest.NulFree) :
    (∀ other : BindFields, Set.InjOn X.sha2.sha512 {honest.preimage, other.preimage} →
      honest.reportData X = other.reportData X → honest.SameUpToCase other) ∧
    (∀ quote subject nonce verified report,
      (∀ g, quoteFields X quote nonce = some g → Set.InjOn X.sha2.sha512 {honest.preimage, g.preimage}) →
      verifyEpochEvidence X quote subject nonce = .ok verified →
      X.base64.standard (trim verified.reportB64) = .ok report →
      slice report snpReportDataOffset reportDataLen = some (honest.reportData X) →
      subject.engineId = honest.epoch.engineId ∧ subject.epochId = honest.epoch.epochId ∧
        subject.notBefore = honest.epoch.notBefore ∧ subject.notAfter = honest.epoch.notAfter ∧
        subject.mlkemEncapsulationKey = honest.epoch.mlkemEncapsulationKey ∧
        subject.x25519Public = honest.epoch.x25519Public ∧ nonce.getD [] = honest.nonce.getD []) := by
  constructor
  · intro other hinj hdata
    have hpre : honest.preimage = other.preimage :=
      hinj (Set.mem_insert _ _) (Set.mem_insert_of_mem _ rfl) hdata
    exact BindFields.agrees_of_preimage_eq hfree hpre
  · intro quote subject nonce verified report hinj hok hreport hminted
    obtain ⟨hdesc, hnonce⟩ := agrees_of_accepted hfree hok hreport hminted hinj
    exact ⟨hdesc.engineId.symm, hdesc.epochId.symm, hdesc.notBefore.symm, hdesc.notAfter.symm, hdesc.mlkem.symm,
      hdesc.x25519.symm, hnonce.symm⟩

namespace Sample

def fields : BindFields := ⟨epoch, [], [], [], epoch.notBefore, none⟩

lemma fields_nulFree : fields.NulFree := by
  refine ⟨?_, ?_, ?_, ?_⟩
  · decide
  · decide
  · decide
  · rintro s ⟨⟩

def fieldsEmptyNonce : BindFields := { fields with nonce := some [] }

lemma quoteFields_quote : quoteFields tables.crates quote none = some fields := by
  have hw := parseWrapper_quoteOf tables.crates Base64.rfc4648_lawful (tree_wrapper List.lookup_cons_self) rfl rfl rfl
  simp only [quoteFields]
  rw [show parseWrapper tables.crates quote = _ from hw]
  rfl

end Sample

open Sample in
theorem epoch_evidence_not_transplanted_sample :
    fields.SameUpToCase fieldsEmptyNonce ∧ trust.subject.x25519Public = fields.epoch.x25519Public := by
  have hinj : ∀ b, Set.InjOn tables.crates.sha2.sha512 {b, b} := by
    intro b
    rw [Set.pair_eq_singleton]
    exact Set.injOn_singleton _ _
  have hquote : verifyEpochEvidence tables.crates quote trust.subject none = _ :=
    verify_quote List.lookup_cons_self List.lookup_cons_self
  obtain ⟨hfields, hreports⟩ := epoch_evidence_not_transplanted tables.crates fields fields_nulFree
  refine ⟨hfields fieldsEmptyNonce (hinj _) rfl, ?_⟩
  refine (hreports quote trust.subject none _ report ?_ hquote standard_report ?_).2.2.2.2.2.1
  · rintro g hg
    obtain rfl := Option.some.inj (quoteFields_quote.symm.trans hg)
    exact hinj _
  · exact slice_report.trans (congrArg some (bind_epoch List.lookup_cons_self).symm)

end TeechatOpenapi.Platform
