import TeechatOpenapi.Http.Server

/-!
# The headers for browsers (`openapi-http/src/response.rs`, `server.rs`)

Two recognisers decide what the challenge API is: `classify` on the normal form of a path, and
`isAttestationChallengePath` on the path as it was sent.
-/

namespace TeechatOpenapi.Http

open Lib TeechatOpenapi.Core

/-! ## Two recognisers -/

/-- The path of the challenge API. -/
def challengePath : Str := "/v1/attestation/challenge"

/-- What is left behind a path that is cut at a query or a fragment. -/
def CutOff (rest : Str) : Prop := rest = [] ∨ rest.head? = some '?' ∨ rest.head? = some '#'

/-- Another spelling of the path of the challenge API: with slashes behind it, or with a fragment. -/
def Respelled (raw : Str) : Prop :=
  ∃ k rest, raw = challengePath ++ List.replicate k '/' ++ rest ∧ CutOff rest ∧ (0 < k ∨ rest.head? = some '#')

lemma takeWhile_append_of_cut {p : Char → Bool} {a rest : Str} (ha : ∀ c ∈ a, p c = true)
    (hrest : ∀ c, rest.head? = some c → p c = false) : (a ++ rest).takeWhile p = a := by
  rw [List.takeWhile_append_of_pos ha]
  cases rest with
  | nil => rw [List.takeWhile_nil, List.append_nil]
  | cons c rest => rw [List.takeWhile_cons_of_neg (by rw [hrest c rfl]; exact Bool.false_ne_true), List.append_nil]

variable {path : Str}

lemma popSlashes_append_replicate (hne : path ≠ []) (hlast : path.getLast? ≠ some '/') (k : Nat) :
    popSlashes (path ++ List.replicate k '/') = path := by
  have hpop : popReversed (List.replicate k '/' ++ path.reverse) = path.reverse := by
    induction k with
    | zero =>
      rw [List.replicate_zero, List.nil_append]
      exact popReversed_of_end (Or.inr (by rwa [List.head?_reverse]))
    | succ k ih =>
      rw [List.replicate_succ, List.cons_append]
      cases hmore : List.replicate k '/' ++ path.reverse with
      | nil => exact absurd (List.reverse_eq_nil_iff.mp (List.append_eq_nil_iff.mp hmore).2) hne
      | cons d rest => rw [popReversed, if_pos rfl, ← hmore, ih]
  rw [popSlashes, List.reverse_append, List.reverse_replicate, hpop, List.reverse_reverse]

lemma mem_splitOn_of_append_replicate {seg : Str} (k : Nat)
    (h : seg ∈ (path ++ List.replicate k '/').splitOn '/') : seg ∈ path.splitOn '/' ∨ seg = [] := by
  induction k generalizing path with
  | zero => exact Or.inl (by rwa [List.replicate_zero, List.append_nil] at h)
  | succ k ih =>
    have hsplit : (path ++ '/' :: List.replicate k '/').splitOn '/' =
        path.splitOn '/' ++ (List.replicate k '/').splitOn '/' :=
      List.splitOnP_append_cons path _ (beq_self_eq_true '/')
    rw [List.replicate_succ, hsplit, List.mem_append] at h
    rcases h with h | h
    · exact Or.inl h
    · rcases @ih [] h with hnil | hnil
      · exact Or.inr (List.mem_singleton.mp hnil)
      · exact Or.inr hnil

lemma challengePath_kept : ∀ c ∈ challengePath, decide (c ≠ '?' ∧ c ≠ '#') = true := by
  have hall : challengePath.all (fun c => decide (c ≠ '?' ∧ c ≠ '#')) = true := by decide
  exact List.all_eq_true.mp hall

lemma challengePath_eq : ∃ more, challengePath = '/' :: more := ⟨_, rfl⟩

lemma CutOff.head {rest : Str} (h : CutOff rest) {c : Char} (hc : rest.head? = some c) :
    decide (c ≠ '?' ∧ c ≠ '#') = false := by
  rcases h with rfl | hq | hf
  · cases hc
  · cases hq.symm.trans hc
    rfl
  · cases hf.symm.trans hc
    rfl

lemma cutOff_dropWhile (raw : Str) : CutOff (raw.dropWhile fun c => c ≠ '?' ∧ c ≠ '#') := by
  cases hrest : raw.dropWhile fun c => c ≠ '?' ∧ c ≠ '#' with
  | nil => exact Or.inl rfl
  | cons c rest =>
    right
    have hcut := List.head?_dropWhile_not (fun c => decide (c ≠ '?' ∧ c ≠ '#')) raw
    rw [hrest] at hcut
    dsimp only [List.head?_cons] at hcut
    by_cases hq : c = '?'
    · exact Or.inl (by rw [hq]; rfl)
    · by_cases hf : c = '#'
      · exact Or.inr (by rw [hf]; rfl)
      · rw [decide_eq_true ⟨hq, hf⟩] at hcut
        cases hcut

/-- The path of the challenge API with slashes behind it passes the checks, and loses the slashes. -/
lemma normalizePath_respelled (k : Nat) {rest : Str} (hrest : CutOff rest) :
    normalizePath (challengePath ++ List.replicate k '/' ++ rest) = .ok challengePath := by
  have hkept : ∀ c ∈ challengePath ++ List.replicate k '/', decide (c ≠ '?' ∧ c ≠ '#') = true := by
    intro c hc
    rcases List.mem_append.mp hc with hc | hc
    · exact challengePath_kept c hc
    · rw [List.eq_of_mem_replicate hc]
      rfl
  have hdots : ['.', '.'] ∉ (challengePath ++ List.replicate k '/').splitOn '/' := by
    intro hmem
    rcases mem_splitOn_of_append_replicate k hmem with hseg | hnil
    · revert hseg
      decide
    · cases hnil
  have hstart : ¬ (challengePath ++ List.replicate k '/' = [] ∨
      (challengePath ++ List.replicate k '/').head? ≠ some '/') := by
    obtain ⟨more, hmore⟩ := challengePath_eq
    rw [hmore]
    rintro (hnil | hhead)
    · cases hnil
    · exact hhead rfl
  rw [normalizePath, takeWhile_append_of_cut hkept fun _ hc => hrest.head hc, failIf, if_neg hstart, ok_bind, failIf,
    if_neg hdots, ok_bind, popSlashes_append_replicate (by decide) (by decide)]
  rfl

variable {raw : Str}

lemma normalizePath_challenge_iff :
    normalizePath raw = .ok challengePath ↔
      ∃ k rest, raw = challengePath ++ List.replicate k '/' ++ rest ∧ CutOff rest := by
  constructor
  · intro h
    obtain ⟨_, -, h⟩ := bind_eq_ok.mp h
    obtain ⟨_, -, h⟩ := bind_eq_ok.mp h
    have hpop := pure_eq_ok.mp h
    obtain ⟨k, hk⟩ := exists_popSlashes (raw.takeWhile fun c => c ≠ '?' ∧ c ≠ '#')
    rw [hpop] at hk
    refine ⟨k, raw.dropWhile fun c => c ≠ '?' ∧ c ≠ '#', ?_, cutOff_dropWhile raw⟩
    rw [← hk, List.takeWhile_append_dropWhile]
  · rintro ⟨k, rest, rfl, hrest⟩
    exact normalizePath_respelled k hrest

lemma classifyUnnamed_ne_attestation (path : Str) (mode : ProxyMode) :
    classifyUnnamed .post path mode ≠ .attestation := by
  unfold classifyUnnamed
  split_ifs
  · cases notImplementedReason path with
    | some reason => exact nofun
    | none => cases mode <;> exact nofun
  · exact nofun

lemma classify_attestation_iff {mode : ProxyMode} :
    classify .post raw mode = .attestation ↔ normalizePath raw = .ok challengePath := by
  unfold classify
  cases h : normalizePath raw with
  | error action =>
    obtain rfl := normalizePath_refused h
    exact iff_of_false nofun nofun
  | ok path =>
    have hget : ∀ q : Str, ¬ (path = q ∧ HttpMethod.post = HttpMethod.get) := fun _ h => nomatch h.2
    dsimp only
    rw [Except.ok.injEq, if_neg (hget _), if_neg (hget _)]
    change (if path = challengePath then _ else _) = _ ↔ _
    by_cases hpath : path = challengePath
    · rw [if_pos hpath, if_pos rfl]
      exact iff_of_true rfl hpath
    · rw [if_neg hpath, if_neg (hget _)]
      refine iff_of_false ?_ hpath
      rw [if_pos rfl]
      split_ifs
      · exact nofun
      · exact nofun
      · exact classifyUnnamed_ne_attestation path mode

lemma isAttestationChallengePath_iff :
    isAttestationChallengePath raw = true ↔
      ∃ rest, raw = challengePath ++ rest ∧ (rest = [] ∨ rest.head? = some '?') := by
  have hpath : isAttestationChallengePath raw = true ↔ raw.takeWhile (· ≠ '?') = challengePath := decide_eq_true_iff
  rw [hpath]
  constructor
  · intro h
    refine ⟨raw.dropWhile (· ≠ '?'), ?_, ?_⟩
    · rw [← h, List.takeWhile_append_dropWhile]
    · cases hrest : raw.dropWhile (· ≠ '?') with
      | nil => exact Or.inl rfl
      | cons c rest =>
        right
        have hcut := List.head?_dropWhile_not (fun c => decide (c ≠ '?')) raw
        rw [hrest] at hcut
        have hc : c = '?' := by simpa using hcut
        rw [hc]
        rfl
  · rintro ⟨rest, rfl, hrest⟩
    refine takeWhile_append_of_cut (fun c hc => ?_) (fun c hc => ?_)
    · exact decide_eq_true (of_decide_eq_true (challengePath_kept c hc)).1
    · rcases hrest with rfl | hq
      · cases hc
      · cases hq.symm.trans hc
        rfl

lemma recognisers_agree_iff {mode : ProxyMode} :
    (isAttestationChallengePath raw = true ↔ classify .post raw mode = .attestation) ↔ ¬ Respelled raw := by
  rw [classify_attestation_iff, normalizePath_challenge_iff, isAttestationChallengePath_iff]
  constructor
  · rintro hagree ⟨k, rest, hraw, hrest, hother⟩
    obtain ⟨rest', hraw', hrest'⟩ := hagree.mpr ⟨k, rest, hraw, hrest⟩
    rw [hraw, List.append_assoc] at hraw'
    have hsame := List.append_cancel_left hraw'
    cases k with
    | zero =>
      rw [List.replicate_zero, List.nil_append] at hsame
      subst hsame
      have hhash := hother.resolve_left (Nat.lt_irrefl 0)
      rcases hrest' with rfl | hq
      · cases hhash
      · cases hq.symm.trans hhash
    | succ k =>
      rw [List.replicate_succ, List.cons_append] at hsame
      subst hsame
      rcases hrest' with hnil | hq
      · cases hnil
      · cases hq
  · intro hplain
    constructor
    · rintro ⟨rest, rfl, hrest⟩
      exact ⟨0, rest, by rw [List.replicate_zero, List.append_nil], hrest.imp_right Or.inl⟩
    · rintro ⟨k, rest, hraw, hrest⟩
      have hk : k = 0 := by
        by_contra hk
        exact hplain ⟨k, rest, hraw, hrest, Or.inl (Nat.pos_of_ne_zero hk)⟩
      subst hk
      refine ⟨rest, by rw [hraw, List.replicate_zero, List.append_nil], ?_⟩
      rcases hrest with hnil | hq | hf
      · exact Or.inl hnil
      · exact Or.inr hq
      · exact absurd ⟨0, rest, hraw, Or.inr (Or.inr hf), Or.inr hf⟩ hplain

/-! ## Header lines -/

/-- The end of the header lines. -/
def blankLine : Bytes := [13, 10, 13, 10]

/-- The header lines of a response: its octets up to the blank line. -/
def headerSection : Bytes → Bytes
  | [] => []
  | b :: rest => if blankLine.isPrefixOf (b :: rest) then [13, 10] else b :: headerSection rest

/-- The headers for browsers are among the header lines. -/
def HasCors (response : Bytes) : Prop := utf8 challengeCors <:+: headerSection response

instance (response : Bytes) : Decidable (HasCors response) := inferInstanceAs (Decidable (_ <:+: _))

variable {response : Bytes}

lemma headerSection_of_blank (h : blankLine <+: response) : headerSection response = [13, 10] := by
  cases response with
  | nil => cases List.prefix_nil.mp h
  | cons b rest => rw [headerSection, if_pos ( List.isPrefixOf_iff_prefix.mpr h)]

variable {rest : Bytes} {b : UInt8}

lemma headerSection_cons (h : ¬ blankLine <+: b :: rest) :
    headerSection (b :: rest) = b :: headerSection rest := by
  rw [headerSection, if_neg fun hb => h ( List.isPrefixOf_iff_prefix.mp hb)]

/-- A blank line ends the header lines there, if none has ended them before. -/
lemma headerSection_within (head body : Bytes) : headerSection (head ++ blankLine ++ body) <+: head ++ [13, 10] := by
  induction head with
  | nil =>
    rw [List.nil_append, headerSection_of_blank (List.prefix_append _ _)]
    exact List.prefix_rfl
  | cons b head ih =>
    rw [List.cons_append, List.cons_append]
    by_cases h : blankLine <+: b :: (head ++ blankLine ++ body)
    · rw [headerSection_of_blank h]
      obtain ⟨rfl, hrest⟩ := List.cons_prefix_cons.mp h
      cases head with
      | nil => cases (List.cons_prefix_cons.mp hrest).1
      | cons c head =>
        obtain ⟨rfl, -⟩ := List.cons_prefix_cons.mp hrest
        exact ⟨head ++ [13, 10], rfl⟩
    · rw [headerSection_cons h]
      exact List.cons_prefix_cons.mpr ⟨rfl, ih⟩

lemma star_mem_challengeCors : 42 ∈ utf8 challengeCors := by decide

lemma not_hasCors {head : Bytes} (hstar : 42 ∉ head) (body : Bytes) : ¬ HasCors (head ++ blankLine ++ body) := by
  intro h
  have hmem : 42 ∈ head ++ [13, 10] :=
    (headerSection_within head body).subset (h.subset star_mem_challengeCors)
  rcases List.mem_append.mp hmem with hmem | hmem
  · exact hstar hmem
  · revert hmem
    decide

/-! ## Where the headers are put in -/

lemma withChallengeCors_of_blank (body : Bytes) :
    withChallengeCors (blankLine ++ body) = [13, 10] ++ utf8 challengeCors ++ ([13, 10] ++ body) := by
  have hblank : [13, 10, 13, 10].isPrefixOf (13 :: ([10, 13, 10] ++ body)) = true :=
    List.isPrefixOf_iff_prefix.mpr ⟨body, rfl⟩
  change withChallengeCors (13 :: ([10, 13, 10] ++ body)) = _
  rw [withChallengeCors, if_pos hblank]
  rw [List.append_assoc, List.append_assoc, List.take_succ_cons, List.drop_succ_cons]
  rfl

lemma withChallengeCors_cons (h : ¬ blankLine <+: b :: rest) :
    withChallengeCors (b :: rest) = b :: withChallengeCors rest := by
  have hblank : ¬ [13, 10, 13, 10].isPrefixOf (b :: rest) = true := fun hb => h ( List.isPrefixOf_iff_prefix.mp hb)
  rw [withChallengeCors, if_neg hblank]

lemma cons_prefix_withChallengeCors {c : UInt8} {p : Bytes} (h : c :: p <+: withChallengeCors response) :
    ∃ rest, response = c :: rest ∧ (blankLine <+: response ∨ p <+: withChallengeCors rest) := by
  cases response with
  | nil => cases List.prefix_nil.mp h
  | cons b rest =>
    by_cases hb : blankLine <+: b :: rest
    · obtain ⟨body, hbody⟩ := hb
      rw [← hbody, withChallengeCors_of_blank] at h
      obtain ⟨rfl, -⟩ := List.cons_prefix_cons.mp h
      cases hbody
      exact ⟨_, rfl, Or.inl ⟨body, rfl⟩⟩
    · rw [withChallengeCors_cons hb] at h
      obtain ⟨rfl, hrest⟩ := List.cons_prefix_cons.mp h
      exact ⟨rest, rfl, Or.inr hrest⟩

lemma blank_of_withChallengeCors (h : blankLine <+: b :: withChallengeCors rest) :
    blankLine <+: b :: rest := by
  obtain ⟨rfl, htwo⟩ := List.cons_prefix_cons.mp h
  obtain ⟨r₁, rfl, hblank | hthree⟩ := cons_prefix_withChallengeCors htwo
  · cases (List.cons_prefix_cons.mp hblank).1
  obtain ⟨r₂, rfl, hblank | hfour⟩ := cons_prefix_withChallengeCors hthree
  · obtain ⟨more, hmore⟩ := (List.cons_prefix_cons.mp hblank).2
    rw [← hmore]
    exact ⟨_, rfl⟩
  obtain ⟨r₃, rfl, -⟩ := cons_prefix_withChallengeCors hfour
  exact ⟨r₃, rfl⟩

lemma headerSection_of_free {p : Bytes} (hfree : ¬ blankLine <:+: p ++ [13, 10, 13]) (body : Bytes) :
    headerSection (p ++ blankLine ++ body) = p ++ [13, 10] := by
  induction p with
  | nil =>
    rw [List.nil_append, headerSection_of_blank (List.prefix_append _ _)]
    rfl
  | cons b p ih =>
    have hb : ¬ blankLine <+: b :: (p ++ blankLine ++ body) := by
      intro hblank
      apply hfree
      refine List.IsPrefix.isInfix (List.prefix_of_prefix_length_le hblank ⟨10 :: body, ?_⟩ ?_)
      · rw [List.append_assoc, List.cons_append, List.append_assoc]
        rfl
      · rw [List.length_append, List.length_cons]
        change 4 ≤ p.length + 1 + 3
        omega
    rw [List.cons_append, List.cons_append, headerSection_cons hb, ih fun hin => hfree (List.infix_cons hin)]
    rfl

set_option maxRecDepth 4000 in
lemma crlf_suffix_challengeCors : [13, 10] <:+ utf8 challengeCors := by decide

set_option maxRecDepth 4000 in
lemma challengeCors_free : ¬ blankLine <:+: [13, 10] ++ utf8 challengeCors ++ [13] := by decide

lemma headerSection_challengeCors (body : Bytes) :
    headerSection ([13, 10] ++ utf8 challengeCors ++ ([13, 10] ++ body)) = [13, 10] ++ utf8 challengeCors := by
  have hfree := challengeCors_free
  obtain ⟨lines, hlines⟩ := crlf_suffix_challengeCors
  rw [← hlines] at hfree ⊢
  have hsection := headerSection_of_free (p := [13, 10] ++ lines) (by
    rwa [← List.append_assoc, List.append_assoc _ _ [13]] at hfree) body
  rw [List.append_assoc, List.append_assoc] at hsection
  rw [List.append_assoc, List.append_assoc]
  exact hsection

/-- The headers are among the header lines of every response that they are put in. -/
lemma hasCors_withChallengeCors (head body : Bytes) : HasCors (withChallengeCors (head ++ blankLine ++ body)) := by
  unfold HasCors
  induction head with
  | nil =>
    rw [List.nil_append, withChallengeCors_of_blank, headerSection_challengeCors]
    exact List.suffix_append _ _ |>.isInfix
  | cons b head ih =>
    rw [List.cons_append, List.cons_append]
    by_cases h : blankLine <+: b :: (head ++ blankLine ++ body)
    · obtain ⟨body', hbody⟩ := h
      rw [← hbody, withChallengeCors_of_blank, headerSection_challengeCors]
      exact List.suffix_append _ _ |>.isInfix
    · rw [withChallengeCors_cons h, headerSection_cons fun hb => h (blank_of_withChallengeCors hb)]
      exact List.infix_cons ih

/-! ## The responses -/

/-- A response without a star in its header lines. -/
def Starless (response : Bytes) : Prop := ∃ head body, response = head ++ blankLine ++ body ∧ 42 ∉ head

lemma Starless.hasCors_maybeCors (h : Starless response) (path : Str) :
    HasCors (maybeCors path response) ↔ isAttestationChallengePath path = true := by
  obtain ⟨head, body, rfl, hstar⟩ := h
  unfold maybeCors
  split_ifs with hpath
  · exact iff_of_true (hasCors_withChallengeCors head body) hpath
  · exact iff_of_false (not_hasCors hstar body) hpath

lemma starless_of_pieces (pieces : List Str) {last : Str} (closing : Str)
    (hpieces : ∀ p ∈ pieces ++ [closing], '*' ∉ p) (hlast : last = closing ++ "\r\n\r\n".toList) (body : Bytes) :
    Starless (utf8 (format (pieces ++ [last])) ++ body) := by
  refine ⟨utf8 (format (pieces ++ [closing])), body, ?_, ?_⟩
  · have hblank : utf8 "\r\n\r\n".toList = blankLine := by decide
    rw [← hblank, ← utf8_append, hlast, format, format, List.flatten_append, List.flatten_append, List.append_assoc,
      List.flatten_singleton, List.flatten_singleton]
  · intro hmem
    obtain ⟨p, hp, hstar⟩ := List.mem_flatten.mp (ascii_mem_utf8 (by decide) hmem)
    exact hpieces p hp hstar

lemma star_notMem_reasonPhrase (status : Nat) : '*' ∉ reasonPhrase status := by
  unfold reasonPhrase
  iterate 9
    split
    · decide
  decide

lemma star_notMem_retryAfterHeader (retryAfter : Option Nat) : '*' ∉ retryAfterHeader retryAfter := by
  cases retryAfter with
  | none => exact List.not_mem_nil
  | some secs =>
    intro hmem
    obtain ⟨p, hp, hstar⟩ := List.mem_flatten.mp hmem
    simp only [List.mem_cons, List.not_mem_nil, or_false] at hp
    rcases hp with rfl | rfl | rfl
    · revert hstar
      decide
    · exact notMem_decimal rfl secs hstar
    · revert hstar
      decide

lemma starless_buildJsonResponse (status : Nat) (body : Bytes) : Starless (buildJsonResponse status body) := by
  refine starless_of_pieces ["HTTP/1.1 ", decimal status,
    " OK\r\nContent-Type: application/json\r\nContent-Length: ", decimal body.length] "\r\nConnection: close" ?_ ?_ body
  · simp only [List.cons_append, List.nil_append, List.forall_mem_cons]
    exact ⟨by decide, notMem_decimal rfl status, by decide, notMem_decimal rfl _, by decide, nofun⟩
  · decide

lemma starless_buildSseBufferedResponse (body : Bytes) : Starless (buildSseBufferedResponse body) := by
  refine starless_of_pieces
    ["HTTP/1.1 200 OK\r\nContent-Type: text/event-stream\r\nCache-Control: no-cache\r\nContent-Length: ",
      decimal body.length] "\r\nConnection: close" ?_ ?_ body
  · simp only [List.cons_append, List.nil_append, List.forall_mem_cons]
    exact ⟨by decide, notMem_decimal rfl _, by decide, nofun⟩
  · decide

lemma starless_buildErrorResponse (X : Crates) (e : ApiError) : Starless (buildErrorResponse X e) := by
  unfold buildErrorResponse
  refine starless_of_pieces ["HTTP/1.1 ", decimal e.statusCode, " ", reasonPhrase e.statusCode,
    "\r\nContent-Type: application/json\r\nContent-Length: ", decimal _, "\r\n", retryAfterHeader e.retryAfterSecs]
    "Connection: close" ?_ ?_ _
  · simp only [List.cons_append, List.nil_append, List.forall_mem_cons]
    exact ⟨by decide, notMem_decimal rfl _, by decide, star_notMem_reasonPhrase _, by decide, notMem_decimal rfl _,
      by decide, star_notMem_retryAfterHeader _, by decide, nofun⟩
  · decide

lemma starless_sseStreamHeaders (body : Bytes) : Starless (sseStreamHeaders ++ body) := by
  refine starless_of_pieces ["HTTP/1.1 200 OK\r\n", "Content-Type: text/event-stream\r\n",
    "Cache-Control: no-cache, no-transform\r\n", "X-Accel-Buffering: no\r\n", "Transfer-Encoding: chunked\r\n"]
    "Connection: close" ?_ ?_ body
  · simp only [List.cons_append, List.nil_append, List.forall_mem_cons]
    exact ⟨by decide, by decide, by decide, by decide, by decide, by decide, nofun⟩
  · decide

lemma Starless.not_hasCors (h : Starless response) : ¬ HasCors response := by
  obtain ⟨head, body, rfl, hstar⟩ := h
  exact Http.not_hasCors hstar body

set_option maxRecDepth 4000 in
lemma hasCors_preflight : HasCors buildChallengeCorsPreflight := by decide

/-! ## What the challenge API answers -/

section Dispatch

variable {X : Crates} (A : App X) (E : Answers)

lemma handleAttestation_json (req : EdgeRequest) :
    Op.Yields (fun r => ∃ value, r = .json value) (handleAttestation A E req) := by
  have hanswer : Op.Yields (fun r => ∃ value, r = .json value) (AppState.check (answerChallenge A E req.body)) :=
    Op.Yields.lift fun r hr => answerChallenge_json A E (mapErr_eq_ok.mp hr)
  unfold handleAttestation
  split
  · exact hanswer
  · exact Op.Yields.bind_any fun _ => Op.Yields.bind_any fun _ => Op.Yields.bind_any fun _ => hanswer

/-- The challenge API answers every method with a value or an error, and never with a stream. -/
lemma handleFromEx_challenge {req : EdgeRequest} (hpath : normalizePath req.path = .ok challengePath) :
    Op.Yields (fun r => ∃ value, r = .json value) (handleFromEx A E req) := by
  have hclass : classify req.method challengePath A.config.proxyMode =
      if req.method = .post then .attestation else .methodNotAllowed := by
    cases req.method <;> cases A.config.proxyMode <;> decide
  rw [handleFromEx, hpath]
  dsimp only
  rw [handleRoute, hclass]
  split_ifs
  · exact handleAttestation_json A E req
  · refine Op.Yields.lift fun r h => ?_
    cases h

variable {A E} {F : StreamForwarder} {nowMs : Nat} {req : WireRequest} {s : AppState}

lemma isAttestationChallengePath_normal (h : isAttestationChallengePath raw = true) :
    normalizePath raw = .ok challengePath := by
  obtain ⟨rest, rfl, hrest⟩ := isAttestationChallengePath_iff.mp h
  exact normalizePath_challenge_iff.mpr
    ⟨0, rest, by rw [List.replicate_zero, List.append_nil], hrest.imp_right Or.inl⟩

lemma hasCors_respond_iff {answer : Except (Fault ApiError) AppResponse}
    (hvalue : ∀ r, answer = .ok r → isAttestationChallengePath path = true → ∃ value, r = .json value)
    (hanswer : answer ≠ .error .panicked) :
    HasCors (respond F X path answer []).2 ↔ isAttestationChallengePath path = true := by
  match answer with
  | .ok (.json value) =>
    rw [respond, writeAll, Op.modify_run, List.nil_append]
    exact (starless_buildJsonResponse 200 _).hasCors_maybeCors path
  | .ok (.sseBuffered body) =>
    rw [respond, writeAll, Op.modify_run, List.nil_append]
    refine iff_of_false (starless_buildSseBufferedResponse body).not_hasCors fun hpath => ?_
    obtain ⟨value, hsame⟩ := hvalue _ rfl hpath
    cases hsame
  | .ok (.ssePassthrough p) =>
    rw [respond, Op.returning, passthrough_run, List.nil_append]
    refine iff_of_false (starless_sseStreamHeaders _).not_hasCors fun hpath => ?_
    obtain ⟨value, hsame⟩ := hvalue _ rfl hpath
    cases hsame
  | .error (.returned e) =>
    rw [respond, writeAll, Op.modify_run, List.nil_append]
    exact (starless_buildErrorResponse X e).hasCors_maybeCors path
  | .error .panicked => exact absurd rfl hanswer

lemma hasCors_dispatch_iff {result : Except (Fault ServerError) Unit} {d : Dispatch}
    (hrun : dispatchToWriter A E F nowMs req ⟨s, []⟩ = (result, d)) (hresult : result ≠ .error .panicked) :
    HasCors d.out ↔ isAttestationChallengePath req.path = true := by
  by_cases hpre : req.preflight = true
  · rw [dispatchToWriter, if_pos hpre, Op.on, writeAll, Op.modify_run, List.nil_append] at hrun
    cases hrun
    exact iff_of_true hasCors_preflight (Bool.and_eq_true_iff.mp hpre).2
  have hpre : req.preflight = false := Bool.eq_false_iff.mpr hpre
  obtain ⟨answer, s', hhandled⟩ : ∃ answer s', handleFromEx A E (req.edge nowMs) s = (answer, s') := ⟨_, _, rfl⟩
  rw [dispatchToWriter_of_handled F hpre hhandled] at hrun
  cases hrun
  refine hasCors_respond_iff ?_ ?_
  · rintro r rfl hpath
    exact handleFromEx_challenge A E (isAttestationChallengePath_normal hpath) s r s' hhandled
  · rintro rfl
    exact hresult rfl

end Dispatch

/-- **Where the headers for browsers agree with the routes.**  For every path, `isAttestationChallengePath` agrees with
the route of a `POST` exactly when the path is not respelled; and for every request, the response has the headers
exactly for the paths with the route of the challenge, exactly when the path is not respelled. -/
theorem cors_agrees_iff {X : Crates} (A : App X) (E : Answers) (F : StreamForwarder) (nowMs : Nat) (req : WireRequest)
    (s : AppState) :
    (∀ mode, (isAttestationChallengePath req.path = true ↔ classify .post req.path mode = .attestation) ↔
      ¬ Respelled req.path) ∧
    ∀ result d, dispatchToWriter A E F nowMs req ⟨s, []⟩ = (result, d) → result ≠ .error .panicked →
      ((HasCors d.out ↔ classify .post req.path A.config.proxyMode = .attestation) ↔ ¬ Respelled req.path) := by
  refine ⟨fun mode => recognisers_agree_iff, fun result d hrun hresult => ?_⟩
  rw [hasCors_dispatch_iff hrun hresult]
  exact recognisers_agree_iff

namespace Sample

open Core.Sample

def challengeTo (path : Str) : WireRequest where
  method := "POST"
  path := path
  authorization := none
  body := []
  clientIp := none
  challengeBenchHeader := none

lemma preflight_challenge (path : Str) : (challengeTo path).preflight = false := rfl

lemma handle_challenge (hpath : normalizePath path = .ok challengePath) :
    ∃ s', handleFromEx chatApp embedAnswers ((challengeTo path).edge 0) embedState =
      (.error (.returned (.badRequest "attestation challenge requires JSON body with nonce_b64")), s') := by
  have hclass : classify .post challengePath .allowlist = .attestation :=
    classify_attestation_iff.mpr (normalizePath_challenge_iff.mpr ⟨0, [], (List.append_nil _).symm, Or.inl rfl⟩)
  have hroute : handleFromEx chatApp embedAnswers ((challengeTo path).edge 0) =
      handleAttestation chatApp embedAnswers ((challengeTo path).edge 0) := by
    rw [handleFromEx, show normalizePath ((challengeTo path).edge 0).path = _ from hpath]
    dsimp only
    rw [handleRoute,
      show classify ((challengeTo path).edge 0).method challengePath chatApp.config.proxyMode = _ from hclass]
  rw [hroute]
  exact ⟨_, rfl⟩

end Sample

open Sample Core.Sample in
/-- **A slash behind the path**: the challenge is routed to the challenge API, and the answer lacks the headers. -/
theorem respelled_challenge_without_cors :
    normalizePath "/v1/attestation/challenge/".toList = .ok "/v1/attestation/challenge" ∧
    classify .post "/v1/attestation/challenge/" .allowlist = .attestation ∧
    isAttestationChallengePath "/v1/attestation/challenge/" = false ∧
    ∃ d, dispatchToWriter chatApp embedAnswers noEngine 0 (challengeTo "/v1/attestation/challenge/") ⟨embedState, []⟩ =
      (.ok (), d) ∧ HasStatus 400 d.out ∧ ¬ HasCors d.out := by
  have hpath : normalizePath "/v1/attestation/challenge/".toList = .ok challengePath :=
    normalizePath_challenge_iff.mpr ⟨1, [], by decide, Or.inl rfl⟩
  obtain ⟨s', hhandled⟩ := handle_challenge hpath
  have hrun := dispatchToWriter_of_handled noEngine (preflight_challenge _) hhandled []
  have hstatus := hasStatus_refused noEngine (preflight_challenge _) hhandled
  have hcors := (hasCors_dispatch_iff hrun nofun).not.mpr (by decide)
  rw [hrun] at hstatus
  exact ⟨hpath, classify_attestation_iff.mpr hpath, by decide, _, hrun, hstatus, hcors⟩

open Sample Core.Sample in
theorem cors_agrees_iff_sample : ∃ d,
    dispatchToWriter chatApp embedAnswers noEngine 0 (challengeTo "/v1/attestation/challenge?a") ⟨embedState, []⟩ =
      (.ok (), d) ∧ HasCors d.out := by
  have hpath : normalizePath "/v1/attestation/challenge?a".toList = .ok challengePath :=
    normalizePath_challenge_iff.mpr ⟨0, ['?', 'a'], by decide, Or.inr (Or.inl rfl)⟩
  obtain ⟨s', hhandled⟩ := handle_challenge hpath
  have hrun := dispatchToWriter_of_handled noEngine (preflight_challenge _) hhandled []
  have hagree := cors_agrees_iff chatApp embedAnswers noEngine 0 (challengeTo "/v1/attestation/challenge?a") embedState
  have hplain : ¬ Respelled (challengeTo "/v1/attestation/challenge?a").path :=
    (hagree.1 .allowlist).mp (iff_of_true (by decide) (classify_attestation_iff.mpr hpath))
  exact ⟨_, hrun, ((hagree.2 _ _ hrun nofun).mpr hplain).mpr (classify_attestation_iff.mpr hpath)⟩

end TeechatOpenapi.Http
