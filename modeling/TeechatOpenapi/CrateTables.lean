import TeechatOpenapi.Crates

/-!
# The crates on given inputs

An instance of the parameters of `Crates`.  Base64 and hexadecimal are computed; a hash, a JSON text, a signature or a
certificate chain is looked up, so that a run of the edge on fixed inputs can be evaluated with the values that the
crates return there.
-/

namespace TeechatOpenapi

open Lib Encoding

def orInvalid (o : Option Bytes) : Except Str Bytes := okOr o "invalid encoding"

def Base64.rfc4648 : Base64 where
  standard s := orInvalid (decodePadded false s)
  urlSafe s := orInvalid (decodePadded true s)
  urlSafeNoPad s := orInvalid (decodeRaw true s)
  encodeStandard x := encodePadded false x
  encodeUrlSafeNoPad x := encodeRaw true x

lemma Base64.rfc4648_lawful : Base64.rfc4648.Lawful where
  standard_encode x := okOr_eq_ok.mpr (decodePadded_encodePadded false x)
  urlSafeNoPad_encode x := okOr_eq_ok.mpr (decodeRaw_encodeRaw true x)
  trim_encodeStandard x := trim_encodePadded false x
  trim_encodeUrlSafeNoPad x := trim_encodeRaw true x
  urlSafe_trim _ _ h := decodePadded_trim (okOr_eq_ok.mp h)
  urlSafeNoPad_trim _ _ h := decodeRaw_trim (okOr_eq_ok.mp h)

lemma Base64.rfc4648_compatible : Base64.rfc4648.Compatible where
  standard_urlSafe _ _ h := decodePadded_encodeRaw (okOr_eq_ok.mp h)
  no_padding x := by
    have hmem : ∀ c ∈ encodeRaw true x, (unsextet true c).isSome := fun _ hc => mem_encodeRaw hc
    have hbody := rdropWhile_pad hmem 0
    rwa [List.replicate_zero, List.append_nil] at hbody

def Hex.lowercase : Hex where
  encode := hexEncode
  decode s := orInvalid (hexDecode s)

lemma Hex.lowercase_lawful : Hex.lowercase.Lawful where
  decode_encode x := okOr_eq_ok.mpr (hexDecode_hexEncode x)
  length_encode := length_hexEncode
  digit_encode _ _ := mem_hexEncode

lemma Hex.lowercase_reads : Hex.lowercase.DecodesDigits where
  decode_digits _ hlen h := (hexDecode_digits hlen h).imp fun _ hx => okOr_eq_ok.mpr hx
  encode_decoded _ _ h := hexEncode_hexDecode (okOr_eq_ok.mp h)

/-- The inputs on which the other crates are known: hashes, the trees of JSON texts, valid signatures
`(key, message, signature)`, parsed reports, and chains `(vcek, report)` that verify. -/
structure CrateTables where
  sha256 : List (Bytes × Bytes) := []
  sha512 : List (Bytes × Bytes) := []
  trees : List (Bytes × Json) := []
  signatures : List (Bytes × Bytes × Bytes) := []
  reports : List (Bytes × AttestationReport) := []
  chains : List (Bytes × AttestationReport) := []

/-- A report of a Genoa processor with the policy of production. -/
def AttestationReport.sample (measurement reportData : Bytes) : AttestationReport where
  cpuidFamId := some 0x19
  cpuidModId := some 0x11
  debugAllowed := false
  migrateMaAllowed := false
  chipId := List.replicate 64 0
  tcbBootloader := 0
  tcbTee := 0
  tcbSnp := 0
  tcbMicrocode := 0
  measurement := measurement
  reportData := reportData
  guestSvn := 0
  rest := []

/-- A hash by lookup, `len` octets long. -/
def hashBy (table : List (Bytes × Bytes)) (len : Nat) (m : Bytes) : Bytes :=
  ((table.lookup m).filter fun d => d.length = len).getD (List.replicate len 0)

lemma length_hashBy (table : List (Bytes × Bytes)) (len : Nat) (m : Bytes) : (hashBy table len m).length = len := by
  cases h : (table.lookup m).filter (fun d => decide (d.length = len)) with
  | none =>
    rw [hashBy, h]
    exact List.length_replicate
  | some d =>
    rw [hashBy, h]
    exact of_decide_eq_true (Option.filter_eq_some_iff.mp h).2

def CrateTables.crates (t : CrateTables) : Crates where
  debugStr := quoteText
  base64 := Base64.rfc4648
  sha2 :=
    { sha256 := hashBy t.sha256 32
      sha512 := hashBy t.sha512 64
      sha256_length := length_hashBy _ _
      sha512_length := length_hashBy _ _ }
  json :=
    { value := fun b => okOr (t.trees.lookup b) "expected value at line 1 column 1"
      tree := fun b => okOr (t.trees.lookup b) "expected value at line 1 column 1"
      typeError := fun _ => "invalid type"
      valueText := renderText
      structText := renderText }
  ed25519 :=
    { keyFromBytes := fun k => k.length = 32
      signatureFromSlice := fun s => if s.length = 64 then .ok s else .error "signature error"
      verify := fun k m s => (k, m, s) ∈ t.signatures }
  hex := Hex.lowercase
  sev :=
    { Cert := Bytes
      reportFromBytes := fun b => okOr (t.reports.lookup b) "invalid report"
      certFromDer := fun b => .ok b
      builtinArk := fun p => .ok (utf8 p)
      builtinAsk := fun p => .ok (utf8 p)
      verify := fun _ _ vcek r =>
        if (vcek, r) ∈ t.chains then .ok () else .error "VEK does not sign the attestation report" }

lemma CrateTables.oneLine (t : CrateTables) : t.crates.json.OneLine := fun v =>
  ⟨fun h => absurd (renderText_printable v h) (by decide), fun h => absurd (renderText_printable v h) (by decide)⟩

lemma CrateTables.writesCompact (t : CrateTables) : t.crates.json.WritesCompact := fun _ _ => rfl

variable {t : CrateTables} {b : Bytes}

lemma CrateTables.value_of_lookup {j : Json} (h : t.trees.lookup b = some j) :
    t.crates.json.value b = .ok j := okOr_eq_ok.mpr h

lemma CrateTables.tree_of_lookup {j : Json} (h : t.trees.lookup b = some j) :
    t.crates.json.tree b = .ok j := okOr_eq_ok.mpr h

lemma lookup_behind {front rest : List (Bytes × Json)} {j : Json}
    (hfront : ∀ x ∈ front.map Prod.fst, b ≠ x) (h : rest.lookup b = some j) : (front ++ rest).lookup b = some j := by
  have hnone : front.lookup b = none := by
    rw [List.lookup_eq_none_iff]
    intro p hp
    rw [bne_iff_ne]
    exact hfront p.1 (List.mem_map_of_mem hp)
  rw [List.lookup_append, hnone, Option.none_or, h]

lemma CrateTables.value_eq_error (h : ∀ p ∈ t.trees, p.1 ≠ b) :
    ∃ e, t.crates.json.value b = .error e := by
  have hnone : t.trees.lookup b = none := by
    rw [List.lookup_eq_none_iff]
    intro p hp
    rw [bne_iff_ne]
    exact fun heq => h p hp heq.symm
  have hvalue : t.crates.json.value b = okOr (t.trees.lookup b) ("expected value at line 1 column 1" : Str) := rfl
  rw [hnone] at hvalue
  exact ⟨_, hvalue⟩

lemma CrateTables.rejectsNul (h : ∀ p ∈ t.trees, p.1.head? ≠ some 0) :
    t.crates.json.RejectsNul := by
  intro b
  refine value_eq_error fun p hp heq => h p hp ?_
  rw [heq, List.head?_cons]

lemma CrateTables.noRawNul (h : ∀ p ∈ t.trees, 0 ∉ p.1) : t.crates.json.NoRawNul := by
  intro b hb
  refine value_eq_error fun p hp heq => h p hp ?_
  rwa [heq]

lemma CrateTables.readsFields (h : ∀ p ∈ t.reports,
    slice p.1 0x50 64 = some p.2.reportData ∧ slice p.1 0x90 48 = some p.2.measurement) :
    t.crates.sev.ReadsFields := by
  intro raw report hparse
  obtain ⟨before, after, hsplit, -⟩ := List.lookup_eq_some_iff.mp (okOr_eq_ok.mp hparse)
  refine h (raw, report) ?_
  rw [hsplit]
  exact List.mem_append_right before List.mem_cons_self

lemma CrateTables.report_of_lookup {r : AttestationReport}
    (h : t.reports.lookup b = some r) : t.crates.sev.reportFromBytes b = .ok r := okOr_eq_ok.mpr h

lemma CrateTables.verify_of_mem {ark ask vcek : Bytes} {r : AttestationReport}
    (h : (vcek, r) ∈ t.chains) : t.crates.sev.verify ark ask vcek r = .ok () := if_pos h

lemma CrateTables.sha256_of_lookup {m d : Bytes} (h : t.sha256.lookup m = some d)
    (hd : d.length = 32) : t.crates.sha2.sha256 m = d := by
  change hashBy t.sha256 32 m = d
  simp [hashBy, h, Option.filter, hd]

lemma CrateTables.sha512_of_lookup {m d : Bytes} (h : t.sha512.lookup m = some d)
    (hd : d.length = 64) : t.crates.sha2.sha512 m = d := by
  change hashBy t.sha512 64 m = d
  simp [hashBy, h, Option.filter, hd]

end TeechatOpenapi
