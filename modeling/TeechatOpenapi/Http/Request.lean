import Mathlib.Logic.Function.Basic
import TeechatOpenapi.Lib.Framing
import TeechatOpenapi.Lib.Outcome
import TeechatOpenapi.Lib.Utf8

/-!
# Requests (`openapi-http/src/request.rs`)

`parse` takes a request from the front of a buffer that is still being filled.  `httparse` is a parameter (`Httparse`);
what is assumed of it is that octets behind a head that it has parsed or refused do not matter (`PrefixStable`).
-/

namespace TeechatOpenapi.Http

open Lib

/-- The head of a request as `httparse` reports it. -/
structure RequestHead where
  method : Option Str
  path : Option Str
  headers : List (Str × Bytes)

/-- What `httparse` says of a buffer. -/
inductive HttparseStatus where
  | complete (headerLen : Nat) (head : RequestHead)
  | incomplete
  | failed (error : Str)

/-- `httparse::Request::parse` with room for 64 headers. -/
abbrev Httparse : Type := Bytes → HttparseStatus

/-- A complete or failed parse is not changed by more octets (so an incomplete one was incomplete before). -/
structure Httparse.PrefixStable (P : Httparse) : Prop where
  complete : ∀ b c headerLen head, P b = .complete headerLen head → P (b ++ c) = .complete headerLen head
  failed : ∀ b c e, P b = .failed e → P (b ++ c) = .failed e

/-- A parsed request. -/
structure HttpRequest where
  method : Str
  path : Str
  headers : Str → Option Str
  body : Bytes

/-- Why a buffer holds no request. -/
inductive ParseError where
  | incomplete
  | bodyTooLarge
  | invalid (text : Str)
  deriving DecidableEq

/-- The value of a `Content-Length` header, when none came before. -/
def readContentLength (maxBodyBytes : Nat) (seen : Option Nat) (value : Str) : Except ParseError Nat := do
  failIf (seen.isSome = true) (.invalid "duplicate Content-Length")
  failIf (trim value = [] ∨ (trim value).all isAsciiDigit = false) (.invalid "invalid Content-Length")
  let parsed ← okOr (parseUnsigned u64Max (trim value)) (.invalid "invalid Content-Length")
  failIf (maxBodyBytes < parsed) .bodyTooLarge
  return parsed

/-- The headers taken so far, and their `Content-Length`. -/
structure HeaderTable where
  map : Str → Option Str
  contentLength : Option Nat

/-- One turn of the loop over the headers. -/
def HeaderTable.add (maxBodyBytes : Nat) (t : HeaderTable) (header : Str × Bytes) : Except ParseError HeaderTable := do
  let name := toAsciiLowercase header.1
  let value ← mapErr (fun e => .invalid ("header utf8: ".toList ++ e)) (stringFromUtf8 header.2)
  failIf (name = "transfer-encoding".toList) (.invalid "Transfer-Encoding is not supported")
  if name = "content-length".toList then
    let length ← readContentLength maxBodyBytes t.contentLength value
    return ⟨Function.update t.map name (some value), some length⟩
  else
    return ⟨Function.update t.map name (some value), t.contentLength⟩

/-- What `parse` makes of a complete head: method, path, headers and the length of the body. -/
def RequestHead.check (maxBodyBytes : Nat) (head : RequestHead) :
    Except ParseError (Str × Str × (Str → Option Str) × Nat) := do
  let method ← okOr head.method (.invalid "missing method")
  let path ← okOr head.path (.invalid "missing path")
  let table ← head.headers.foldlM (HeaderTable.add maxBodyBytes) ⟨fun _ => none, none⟩
  return (method, path, table.map, table.contentLength.getD 0)

def ParsedRequest.parse (P : Httparse) (maxBodyBytes : Nat) (buffer : Bytes) : Except ParseError (Option HttpRequest) :=
  match P buffer with
  | .failed e => .error (.invalid e)
  | .incomplete => .ok none
  | .complete headerLen head => do
    let (method, path, headers, contentLength) ← head.check maxBodyBytes
    failIf (u64Max < headerLen + contentLength) (.invalid "request length overflow")
    if buffer.length < headerLen + contentLength then return none
    else
      let body ← okOr (slice buffer headerLen contentLength) (.invalid "invalid request body range")
      return some ⟨method, path, headers, body⟩

/-- What a buffer has come to: a request, a refusal, or nothing yet. -/
def verdict (P : Httparse) (maxBodyBytes : Nat) (buffer : Bytes) : Option (Except ParseError HttpRequest) :=
  match ParsedRequest.parse P maxBodyBytes buffer with
  | .ok (some req) => some (.ok req)
  | .ok none => none
  | .error e => some (.error e)

/-- The number in the value of a `Content-Length` header. -/
def declaredLength (value : Bytes) : Option Nat :=
  (toOption (stringFromUtf8 value)).bind fun text => parseUnsigned u64Max (trim text)

/-- The values of the `Content-Length` headers. -/
def contentLengths (headers : List (Str × Bytes)) : List Bytes :=
  headers.flatMap fun h => if toAsciiLowercase h.1 = "content-length".toList then [h.2] else []

/-- The head declares a body of `n` octets: by its only `Content-Length` header, or without one. -/
def RequestHead.Declares (head : RequestHead) (n : Nat) : Prop :=
  (contentLengths head.headers = [] ∧ n = 0) ∨ ∃ v, contentLengths head.headers = [v] ∧ declaredLength v = some n

section Length

variable {maxBodyBytes : Nat} {t t' : HeaderTable} {header : Str × Bytes} {headers : List (Str × Bytes)}

lemma contentLengths_cons (header : Str × Bytes) (headers : List (Str × Bytes)) :
    contentLengths (header :: headers) = contentLengths [header] ++ contentLengths headers := by
  unfold contentLengths
  rw [List.flatMap_cons, List.flatMap_singleton]

lemma contentLengths_of_eq (h : toAsciiLowercase header.1 = "content-length".toList) :
    contentLengths [header] = [header.2] := by
  rw [contentLengths, List.flatMap_singleton, if_pos h]

lemma contentLengths_of_ne (h : toAsciiLowercase header.1 ≠ "content-length".toList) :
    contentLengths [header] = [] := by
  rw [contentLengths, List.flatMap_singleton, if_neg h]

lemma readContentLength_eq_ok {seen : Option Nat} {value : Str} {n : Nat}
    (h : readContentLength maxBodyBytes seen value = .ok n) :
    seen = none ∧ parseUnsigned u64Max (trim value) = some n ∧ n ≤ maxBodyBytes := by
  unfold readContentLength at h
  obtain ⟨_, hseen, h⟩ := bind_eq_ok.mp h
  obtain ⟨_, -, h⟩ := bind_eq_ok.mp h
  obtain ⟨parsed, hparsed, h⟩ := bind_eq_ok.mp h
  obtain ⟨_, hmax, h⟩ := bind_eq_ok.mp h
  obtain rfl := pure_eq_ok.mp h
  have hseen := failIf_eq_ok.mp hseen
  refine ⟨?_, okOr_eq_ok.mp hparsed, Nat.le_of_not_lt (failIf_eq_ok.mp hmax)⟩
  cases seen with
  | none => rfl
  | some _ => exact absurd rfl hseen

lemma readContentLength_eq_bodyTooLarge {seen : Option Nat} {value : Str}
    (h : readContentLength maxBodyBytes seen value = .error .bodyTooLarge) :
    ∃ n, parseUnsigned u64Max (trim value) = some n ∧ maxBodyBytes < n := by
  unfold readContentLength at h
  obtain h | ⟨_, -, h⟩ := bind_eq_error.mp h
  · cases (failIf_eq_error.mp h).2
  obtain h | ⟨_, -, h⟩ := bind_eq_error.mp h
  · cases (failIf_eq_error.mp h).2
  obtain h | ⟨n, hparsed, h⟩ := bind_eq_error.mp h
  · cases (okOr_eq_error.mp h).2
  obtain h | ⟨_, -, h⟩ := bind_eq_error.mp h
  · exact ⟨n, okOr_eq_ok.mp hparsed, (failIf_eq_error.mp h).1⟩
  · exact absurd h pure_ne_error

lemma HeaderTable.add_eq_ok (h : t.add maxBodyBytes header = .ok t') :
    (contentLengths [header] = [] ∧ t'.contentLength = t.contentLength) ∨
    ∃ n, t.contentLength = none ∧ contentLengths [header] = [header.2] ∧ declaredLength header.2 = some n ∧
      n ≤ maxBodyBytes ∧ t'.contentLength = some n := by
  unfold HeaderTable.add at h
  obtain ⟨value, hvalue, h⟩ := bind_eq_ok.mp h
  obtain ⟨_, -, h⟩ := bind_eq_ok.mp h
  by_cases hname : toAsciiLowercase header.1 = "content-length".toList
  · rw [if_pos hname] at h
    obtain ⟨n, hn, h⟩ := bind_eq_ok.mp h
    obtain rfl := pure_eq_ok.mp h
    obtain ⟨hnone, hparsed, hmax⟩ := readContentLength_eq_ok hn
    have hdeclared : declaredLength header.2 = some n := by
      rw [declaredLength, toOption_eq_some.mpr (mapErr_eq_ok.mp hvalue)]
      exact hparsed
    exact Or.inr ⟨n, hnone, contentLengths_of_eq hname, hdeclared, hmax, rfl⟩
  · rw [if_neg hname] at h
    obtain rfl := pure_eq_ok.mp h
    exact Or.inl ⟨contentLengths_of_ne hname, rfl⟩

lemma HeaderTable.add_eq_bodyTooLarge (h : t.add maxBodyBytes header = .error .bodyTooLarge) :
    ∃ n, contentLengths [header] = [header.2] ∧ declaredLength header.2 = some n ∧ maxBodyBytes < n := by
  unfold HeaderTable.add at h
  obtain h | ⟨value, hvalue, h⟩ := bind_eq_error.mp h
  · obtain ⟨_, -, h⟩ := mapErr_eq_error.mp h
    cases h
  obtain h | ⟨_, -, h⟩ := bind_eq_error.mp h
  · cases (failIf_eq_error.mp h).2
  by_cases hname : toAsciiLowercase header.1 = "content-length".toList
  · rw [if_pos hname] at h
    obtain h | ⟨_, -, h⟩ := bind_eq_error.mp h
    · obtain ⟨n, hparsed, hmax⟩ := readContentLength_eq_bodyTooLarge h
      refine ⟨n, contentLengths_of_eq hname, ?_, hmax⟩
      rw [declaredLength, toOption_eq_some.mpr (mapErr_eq_ok.mp hvalue)]
      exact hparsed
    · exact absurd h pure_ne_error
  · rw [if_neg hname] at h
    exact absurd h pure_ne_error

lemma foldlM_add_eq_ok (h : headers.foldlM (HeaderTable.add maxBodyBytes) t = .ok t') :
    (contentLengths headers = [] ∧ t'.contentLength = t.contentLength) ∨
    ∃ v n, t.contentLength = none ∧ contentLengths headers = [v] ∧ declaredLength v = some n ∧ n ≤ maxBodyBytes ∧
      t'.contentLength = some n := by
  induction headers generalizing t with
  | nil =>
    obtain rfl := pure_eq_ok.mp h
    exact Or.inl ⟨rfl, rfl⟩
  | cons header headers ih =>
    rw [List.foldlM_cons] at h
    obtain ⟨t₁, hadd, hrest⟩ := bind_eq_ok.mp h
    rw [contentLengths_cons]
    obtain ⟨hskip, hsame⟩ | ⟨n, hnone, hfirst, hn, hmax, hsome⟩ := HeaderTable.add_eq_ok hadd
    · rw [hskip, List.nil_append, ← hsame]
      exact ih hrest
    · -- after a `Content-Length`, a second one is a duplicate
      rw [hfirst]
      obtain ⟨hskip, hsame⟩ | ⟨_, _, hnone', -⟩ := ih hrest
      · rw [hskip]
        exact Or.inr ⟨_, n, hnone, rfl, hn, hmax, hsame.trans hsome⟩
      · cases hsome.symm.trans hnone'

lemma foldlM_add_eq_bodyTooLarge (h : headers.foldlM (HeaderTable.add maxBodyBytes) t = .error .bodyTooLarge) :
    ∃ v ∈ contentLengths headers, ∃ n, declaredLength v = some n ∧ maxBodyBytes < n := by
  induction headers generalizing t with
  | nil => exact absurd h pure_ne_error
  | cons header headers ih =>
    rw [List.foldlM_cons] at h
    rw [contentLengths_cons]
    obtain h | ⟨t₁, -, hrest⟩ := bind_eq_error.mp h
    · obtain ⟨n, hfirst, hn, hmax⟩ := HeaderTable.add_eq_bodyTooLarge h
      rw [hfirst]
      exact ⟨_, List.mem_cons_self, n, hn, hmax⟩
    · obtain ⟨v, hv, hlong⟩ := ih hrest
      exact ⟨v, List.mem_append_right _ hv, hlong⟩

end Length

variable {head : RequestHead} {buffer : Bytes}

section Parse

variable {P : Httparse} {maxBodyBytes : Nat}

lemma RequestHead.check_eq_ok {method path : Str} {headers : Str → Option Str} {n : Nat}
    (h : head.check maxBodyBytes = .ok (method, path, headers, n)) : head.Declares n := by
  unfold RequestHead.check at h
  obtain ⟨_, -, h⟩ := bind_eq_ok.mp h
  obtain ⟨_, -, h⟩ := bind_eq_ok.mp h
  obtain ⟨table, htable, h⟩ := bind_eq_ok.mp h
  obtain ⟨-, -, -, rfl⟩ : _ ∧ _ ∧ _ ∧ table.contentLength.getD 0 = n := by simpa using pure_eq_ok.mp h
  obtain ⟨hnil, hlength⟩ | ⟨v, n, -, hone, hn, -, hlength⟩ := foldlM_add_eq_ok htable
  · exact Or.inl ⟨hnil, by rw [hlength]; rfl⟩
  · exact Or.inr ⟨v, hone, by rw [hlength]; exact hn⟩

lemma RequestHead.check_eq_bodyTooLarge (h : head.check maxBodyBytes = .error .bodyTooLarge) :
    ∃ v ∈ contentLengths head.headers, ∃ n, declaredLength v = some n ∧ maxBodyBytes < n := by
  unfold RequestHead.check at h
  obtain h | ⟨_, -, h⟩ := bind_eq_error.mp h
  · cases (okOr_eq_error.mp h).2
  obtain h | ⟨_, -, h⟩ := bind_eq_error.mp h
  · cases (okOr_eq_error.mp h).2
  obtain h | ⟨_, -, h⟩ := bind_eq_error.mp h
  · exact foldlM_add_eq_bodyTooLarge h
  · exact absurd h pure_ne_error

lemma ParsedRequest.parse_of_complete {headerLen : Nat} (h : P buffer = .complete headerLen head) :
    ParsedRequest.parse P maxBodyBytes buffer =
      match head.check maxBodyBytes with
      | .error e => .error e
      | .ok (method, path, headers, n) =>
        if u64Max < headerLen + n then .error (.invalid "request length overflow")
        else if buffer.length < headerLen + n then .ok none
        else .ok (some ⟨method, path, headers, (buffer.drop headerLen).take n⟩) := by
  rw [ParsedRequest.parse, h]
  dsimp only
  rcases head.check maxBodyBytes with e | ⟨method, path, headers, n⟩
  · rfl
  · rw [ok_bind]
    dsimp only
    by_cases hover : u64Max < headerLen + n
    · rw [failIf, if_pos hover, if_pos hover]
      rfl
    · rw [failIf, if_neg hover, if_neg hover, ok_bind]
      by_cases hshort : buffer.length < headerLen + n
      · rw [if_pos hshort, if_pos hshort]
        rfl
      · rw [if_neg hshort, if_neg hshort, slice, if_pos (Nat.le_of_not_lt hshort)]
        rfl

/-- **The body of a parsed request**: as many octets behind the head as the head declares. -/
theorem ParsedRequest.parse_eq_some {req : HttpRequest}
    (h : ParsedRequest.parse P maxBodyBytes buffer = .ok (some req)) :
    ∃ headerLen head n, P buffer = .complete headerLen head ∧ head.Declares n ∧ headerLen + n ≤ buffer.length ∧
      req.body = (buffer.drop headerLen).take n := by
  rcases hP : P buffer with ⟨headerLen, head⟩ | _ | e
  · rw [ParsedRequest.parse_of_complete hP] at h
    rcases hcheck : head.check maxBodyBytes with e | ⟨method, path, headers, n⟩
    · rw [hcheck] at h
      cases h
    · rw [hcheck] at h
      dsimp only at h
      split_ifs at h with hover hshort
      · cases h
      · obtain rfl := Option.some.inj (Except.ok.inj h)
        exact ⟨headerLen, head, n, rfl, RequestHead.check_eq_ok hcheck, Nat.le_of_not_lt hshort, rfl⟩
  · rw [ParsedRequest.parse, hP] at h
    cases h
  · rw [ParsedRequest.parse, hP] at h
    cases h

lemma verdict_eq_ok {req : HttpRequest} (h : verdict P maxBodyBytes buffer = some (.ok req)) :
    ParsedRequest.parse P maxBodyBytes buffer = .ok (some req) := by
  unfold verdict at h
  split at h
  · next hparse =>
    cases h
    exact hparse
  · cases h
  · cases h

/-- Behind a complete head that keeps to the limit, a body is never too large, and there is no verdict only while the
body is not there. -/
lemma verdict_of_complete {headerLen : Nat} (h : P buffer = .complete headerLen head)
    (hlimit : ∀ v ∈ contentLengths head.headers, ∀ n, declaredLength v = some n → n ≤ maxBodyBytes) :
    verdict P maxBodyBytes buffer ≠ some (.error .bodyTooLarge) ∧
      (verdict P maxBodyBytes buffer = none → buffer.length < headerLen + maxBodyBytes) := by
  rw [verdict, ParsedRequest.parse_of_complete h]
  rcases hcheck : head.check maxBodyBytes with e | ⟨method, path, headers, n⟩
  · refine ⟨?_, nofun⟩
    rintro ⟨⟩
    obtain ⟨v, hv, n, hn, hmax⟩ := RequestHead.check_eq_bodyTooLarge hcheck
    exact absurd (hlimit v hv n hn) (Nat.not_le.mpr hmax)
  · have hn : n ≤ maxBodyBytes := by
      obtain ⟨-, rfl⟩ | ⟨v, hv, hdeclared⟩ := RequestHead.check_eq_ok hcheck
      · exact Nat.zero_le _
      · exact hlimit v (by rw [hv]; exact List.mem_singleton_self v) n hdeclared
    dsimp only
    by_cases hover : u64Max < headerLen + n
    · rw [if_pos hover]
      exact ⟨nofun, nofun⟩
    · rw [if_neg hover]
      by_cases hshort : buffer.length < headerLen + n
      · rw [if_pos hshort]
        exact ⟨nofun, fun _ => by omega⟩
      · rw [if_neg hshort]
        exact ⟨nofun, nofun⟩

lemma take_drop_append {b c : Bytes} {off n : Nat} (h : off + n ≤ b.length) :
    ((b ++ c).drop off).take n = (b.drop off).take n := by
  rw [List.drop_append_of_le_length (by omega), List.take_append_of_le_length (by rw [List.length_drop]; omega)]

/-- **A parse that has ended is not changed by more octets.** -/
theorem verdict_stable (hP : P.PrefixStable) (maxBodyBytes : Nat) : Stable (verdict P maxBodyBytes) := by
  intro b c r h
  rcases hb : P b with ⟨headerLen, head⟩ | _ | e
  · rw [verdict, ParsedRequest.parse_of_complete hb] at h
    rw [verdict, ParsedRequest.parse_of_complete (hP.complete b c headerLen head hb)]
    generalize head.check maxBodyBytes = checked at h ⊢
    rcases checked with e | ⟨method, path, headers, n⟩
    · exact h
    · dsimp only at h ⊢
      by_cases hover : u64Max < headerLen + n
      · rw [if_pos hover] at h ⊢
        exact h
      · rw [if_neg hover] at h ⊢
        by_cases hshort : b.length < headerLen + n
        · rw [if_pos hshort] at h
          cases h
        · have hlong : ¬ (b ++ c).length < headerLen + n := by
            rw [List.length_append]
            omega
          rw [if_neg hshort] at h
          rw [if_neg hlong, take_drop_append (Nat.le_of_not_lt hshort)]
          exact h
  · rw [verdict, ParsedRequest.parse, hb] at h
    cases h
  · rw [verdict, ParsedRequest.parse, hb] at h
    rw [verdict, ParsedRequest.parse, hP.failed b c e hb]
    exact h

end Parse

end TeechatOpenapi.Http
