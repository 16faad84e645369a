import TeechatOpenapi.Http.ChallengeCors
import TeechatOpenapi.Lib.HeaderText

/-!
# Framing of the responses (`openapi-http/src/response.rs`)

A reader takes a response apart at the first blank line, and what is in front of it at the line ends.
-/

namespace TeechatOpenapi.Http

open Lib TeechatOpenapi.Core

/-- A call of one of the builders. -/
inductive BuiltResponse where
  | json (status : Nat) (body : Bytes)
  | sseBuffered (body : Bytes)
  | error (err : ApiError)

/-- The name of a header line, in lower case. -/
def fieldName (line : Str) : Str := toAsciiLowercase (line.takeWhile (· ≠ ':'))

/-- The line that declares a length. -/
def lengthLine (n : Nat) : Str := "Content-Length: ".toList ++ decimal n

/-- The lines of `CHALLENGE_CORS`. -/
def corsLines : List Str :=
  ["Access-Control-Allow-Origin: *", "Access-Control-Allow-Methods: POST, OPTIONS",
    "Access-Control-Allow-Headers: content-type", "Access-Control-Max-Age: 86400"]

namespace BuiltResponse

variable (X : Crates)

/-- What the builder returns. -/
def bytes : BuiltResponse → Bytes
  | .json status body => buildJsonResponse status body
  | .sseBuffered body => buildSseBufferedResponse body
  | .error err => buildErrorResponse X err

/-- The body that is meant. -/
def body : BuiltResponse → Bytes
  | .json _ body => body
  | .sseBuffered body => body
  | .error err => utf8 (X.json.structText err.intoBody)

def statusLine : BuiltResponse → Str
  | .json status _ => "HTTP/1.1 ".toList ++ decimal status ++ " OK".toList
  | .sseBuffered _ => "HTTP/1.1 200 OK"
  | .error err => "HTTP/1.1 ".toList ++ decimal err.statusCode ++ " ".toList ++ reasonPhrase err.statusCode

/-- The header lines that depend on the builder, around the length. -/
def before : BuiltResponse → List Str
  | .json _ _ => ["Content-Type: application/json"]
  | .sseBuffered _ => ["Content-Type: text/event-stream", "Cache-Control: no-cache"]
  | .error _ => ["Content-Type: application/json"]

def retryLines : BuiltResponse → List Str
  | .error err => err.retryAfterSecs.toList.map fun secs => "Retry-After: ".toList ++ decimal secs
  | _ => []

def headers (r : BuiltResponse) : List Str :=
  r.before ++ lengthLine (r.body X).length :: (r.retryLines ++ ["Connection: close".toList])

lemma json_lines (crlf version status ok kind length n close : Str) :
    [version, status, ok ++ (crlf ++ (kind ++ (crlf ++ length))), n, crlf ++ (close ++ (crlf ++ crlf))].flatten =
      version ++ status ++ ok ++ crlf ++ [kind, length ++ n, close].flatMap (· ++ crlf) ++ crlf := by
  simp only [List.flatten_cons, List.flatten_nil, List.flatMap_cons, List.flatMap_nil, List.append_assoc,
    List.append_nil]

lemma sse_lines (crlf line kind cache length n close : Str) :
    [line ++ (crlf ++ (kind ++ (crlf ++ (cache ++ (crlf ++ length))))), n,
      crlf ++ (close ++ (crlf ++ crlf))].flatten =
      line ++ crlf ++ [kind, cache, length ++ n, close].flatMap (· ++ crlf) ++ crlf := by
  simp only [List.flatten_cons, List.flatten_nil, List.flatMap_cons, List.flatMap_nil, List.append_assoc,
    List.append_nil]

lemma error_lines (crlf version status blank reason kind length n close : Str) (retry : List Str) :
    [version, status, blank, reason, crlf ++ (kind ++ (crlf ++ length)), n, crlf, retry.flatMap (· ++ crlf),
      close ++ (crlf ++ crlf)].flatten =
      version ++ status ++ blank ++ reason ++ crlf ++
        (kind :: (length ++ n) :: (retry ++ [close])).flatMap (· ++ crlf) ++ crlf := by
  simp only [List.flatten_cons, List.flatten_nil, List.flatMap_cons, List.flatMap_append, List.flatMap_nil,
    List.append_assoc, List.append_nil]

lemma retryAfterHeader_eq (secs : Option Nat) : retryAfterHeader secs =
    (secs.toList.map fun secs => "Retry-After: ".toList ++ decimal secs).flatMap (· ++ ['\r', '\n']) := by
  have hpieces (label n crlf : Str) : [label, n, crlf].flatten = [label ++ n].flatMap (· ++ crlf) := by
    simp only [List.flatten_cons, List.flatten_nil, List.flatMap_cons, List.flatMap_nil, List.append_assoc,
      List.append_nil]
  cases secs with
  | none => rfl
  | some secs => exact hpieces _ _ _

lemma bytes_eq (r : BuiltResponse) : r.bytes X = headerBlock r.statusLine (r.headers X) ++ r.body X := by
  have hend : ("\r\nConnection: close\r\n\r\n".toList : Str) =
      ['\r', '\n'] ++ ("Connection: close".toList ++ (['\r', '\n'] ++ ['\r', '\n'])) := by simp
  rw [headerBlock_eq, ← lines_with_ends]
  cases r with
  | json status body =>
    have hmiddle : (" OK\r\nContent-Type: application/json\r\nContent-Length: ".toList : Str) =
        " OK".toList ++ (['\r', '\n'] ++ ("Content-Type: application/json".toList ++ (['\r', '\n'] ++
          "Content-Length: ".toList))) := by simp
    rw [bytes, buildJsonResponse, format, hmiddle, hend, json_lines]
    rfl
  | sseBuffered body =>
    have hstart :
        "HTTP/1.1 200 OK\r\nContent-Type: text/event-stream\r\nCache-Control: no-cache\r\nContent-Length: ".toList =
        "HTTP/1.1 200 OK".toList ++ (['\r', '\n'] ++ ("Content-Type: text/event-stream".toList ++ (['\r', '\n'] ++
          ("Cache-Control: no-cache".toList ++ (['\r', '\n'] ++ "Content-Length: ".toList))))) := by simp
    rw [bytes, buildSseBufferedResponse, format, hstart, hend, sse_lines]
    rfl
  | error err =>
    have hmiddle : ("\r\nContent-Type: application/json\r\nContent-Length: ".toList : Str) =
        ['\r', '\n'] ++ ("Content-Type: application/json".toList ++ (['\r', '\n'] ++ "Content-Length: ".toList)) := by
      simp
    have hclose : ("Connection: close\r\n\r\n".toList : Str) =
        "Connection: close".toList ++ (['\r', '\n'] ++ ['\r', '\n']) := rfl
    have hcrlf : ("\r\n".toList : Str) = ['\r', '\n'] := rfl
    rw [bytes, buildErrorResponse, format, hmiddle, hclose, hcrlf, retryAfterHeader_eq, error_lines]
    rfl

lemma statusLine_plain (r : BuiltResponse) : '\r' ∉ r.statusLine := by
  cases r with
  | json status body =>
    exact notMem_append (notMem_append (by decide) (notMem_decimal rfl status)) (by decide)
  | sseBuffered body =>
    change '\r' ∉ "HTTP/1.1 200 OK".toList
    decide
  | error err =>
    have hreason : '\r' ∉ reasonPhrase err.statusCode := by
      unfold reasonPhrase
      split_ifs <;> decide
    have hcode := notMem_decimal (c := '\r') rfl err.statusCode
    exact notMem_append (notMem_append (notMem_append (by decide) hcode) (by decide)) hreason

/-- What holds of the fixed lines and of the two with a number holds of every header line. -/
lemma forall_headers {P : Str → Prop} (r : BuiltResponse) (hlength : ∀ n, P (lengthLine n))
    (hretry : ∀ n, P ("Retry-After: ".toList ++ decimal n))
    (hfixed : ∀ l ∈ ["Content-Type: application/json".toList, "Content-Type: text/event-stream".toList,
      "Cache-Control: no-cache".toList, "Connection: close".toList], P l) : ∀ l ∈ r.headers X, P l := by
  intro l hl
  rcases List.mem_append.mp hl with hl | hl
  · refine hfixed l ?_
    cases r with
    | json status body =>
      rw [List.mem_singleton.mp hl]
      exact List.mem_cons_self
    | sseBuffered body => exact List.mem_cons_of_mem _ (List.mem_of_mem_take (l := [_, _, _]) (i := 2) hl)
    | error err =>
      rw [List.mem_singleton.mp hl]
      exact List.mem_cons_self
  · rcases List.mem_cons.mp hl with rfl | hl
    · exact hlength _
    · rcases List.mem_append.mp hl with hl | hl
      · cases r with
        | json status body => cases hl
        | sseBuffered body => cases hl
        | error err =>
          obtain ⟨secs, -, rfl⟩ := List.mem_map.mp hl
          exact hretry secs
      · rw [List.mem_singleton.mp hl]
        exact hfixed _ (by decide)

lemma headers_plain (r : BuiltResponse) : ∀ l ∈ r.headers X, '\r' ∉ l := by
  refine r.forall_headers X (fun n => ?_) (fun n => ?_) (by decide)
  · exact notMem_append (by decide) (notMem_decimal rfl n)
  · exact notMem_append (by decide) (notMem_decimal rfl n)

lemma headers_ne_nil (r : BuiltResponse) : ∀ l ∈ r.headers X, l ≠ [] :=
  r.forall_headers X (fun _ => List.cons_ne_nil _ _) (fun _ => List.cons_ne_nil _ _) (by decide)

lemma statusLine_head (r : BuiltResponse) : r.statusLine.head? = some 'H' := by cases r <;> rfl

/-- **One line declares a length**, and it is that of the body. -/
theorem lengths_eq (r : BuiltResponse) :
    (r.statusLine :: r.headers X).filter (fun l => fieldName l = "content-length".toList) =
      [lengthLine (r.body X).length] := by
  have hstatus : ¬ fieldName r.statusLine = "content-length".toList := by
    obtain ⟨rest, hrest⟩ := List.head?_eq_some_iff.mp r.statusLine_head
    rw [hrest]
    intro heq
    exact absurd (List.cons.inj heq).1 (by decide)
  have hbefore : r.before.filter (fun l => fieldName l = "content-length".toList) = [] := by
    cases r <;> rfl
  have hretry : r.retryLines.filter (fun l => fieldName l = "content-length".toList) = [] := by
    cases r with
    | json status body => rfl
    | sseBuffered body => rfl
    | error err =>
      refine List.filter_eq_nil_iff.mpr fun l hl => ?_
      obtain ⟨secs, -, rfl⟩ := List.mem_map.mp hl
      have hname : fieldName ("Retry-After: ".toList ++ decimal secs) = "retry-after".toList := rfl
      rw [hname]
      decide
  have hlength : fieldName (lengthLine (r.body X).length) = "content-length".toList := rfl
  have hclose : ["Connection: close".toList].filter (fun l => fieldName l = "content-length".toList) = [] := by decide
  rw [List.filter_cons_of_neg (by rwa [decide_eq_true_eq]), headers, List.filter_append, hbefore, List.nil_append,
    List.filter_cons_of_pos (by rw [decide_eq_true_eq]; exact hlength), List.filter_append, hretry, hclose]
  rfl

lemma cors_notMem (r : BuiltResponse) : ∀ l ∈ corsLines, l ∉ r.statusLine :: r.headers X := by
  have hcors : ∀ l ∈ corsLines, l.head? = some 'A' := by decide
  have hlines : ∀ l ∈ r.statusLine :: r.headers X, l.head? ≠ some 'A' := by
    refine List.forall_mem_cons.mpr ⟨?_, r.forall_headers X (fun _ => ?_) (fun _ => ?_) (by decide)⟩
    · rw [statusLine_head]
      decide
    · change some 'C' ≠ some 'A'
      decide
    · change some 'R' ≠ some 'A'
      decide
  exact fun l hl hmem => hlines l hmem (hcors l hl)

end BuiltResponse

lemma withChallengeCors_of_delimits {head : Bytes} (h : Delimits blankLine head) (body : Bytes) :
    withChallengeCors (head ++ blankLine ++ body) = head ++ ([13, 10] ++ utf8 challengeCors ++ ([13, 10] ++ body)) := by
  induction head with
  | nil => exact withChallengeCors_of_blank body
  | cons b head ih =>
    obtain ⟨hfront, hrest⟩ := (delimits_cons (List.cons_ne_nil _ _)).mp h
    have hnot : ¬ blankLine <+: b :: (head ++ blankLine ++ body) := front_iff.not.mpr hfront
    rw [List.cons_append, List.cons_append, withChallengeCors_cons hnot, ih hrest]
    rfl

/-- **The headers for browsers are lines** at the end of the block. -/
theorem withChallengeCors_block {line : Str} {more : List Str} (h : ∀ l ∈ line :: more, ¬ ['\r', '\n'] <:+: l)
    (hne : ∀ l ∈ more, l ≠ []) (body : Bytes) :
    withChallengeCors (headerBlock line more ++ body) = headerBlock line (more ++ corsLines) ++ body := by
  have hdelim : Delimits blankLine (utf8 (joined '\r' '\n' line more)) :=
    ((splitAtFirst_eq_some (List.cons_ne_nil _ _)).mp (splitAtFirst_headerBlock h hne body)).2
  have hcors : corsLines.flatMap (['\r', '\n'] ++ ·) ++ ['\r', '\n', '\r', '\n'] =
      ['\r', '\n'] ++ challengeCors ++ ['\r', '\n'] := by
    simp [corsLines, challengeCors, format]
  have hlines : joined '\r' '\n' line (more ++ corsLines) ++ ['\r', '\n', '\r', '\n'] =
      joined '\r' '\n' line more ++ (['\r', '\n'] ++ challengeCors ++ ['\r', '\n']) := by
    rw [← hcors, joined, joined, List.flatMap_append]
    simp only [List.append_assoc]
  have hput := withChallengeCors_of_delimits hdelim body
  rw [blankLine] at hput
  rw [headerBlock, hput, headerBlock_eq, hlines]
  simp only [utf8_append, List.append_assoc]
  rfl

/-- A reader finds these lines and this body, with its length in one line. -/
def HasOneLength (wire : Bytes) (lines : List Str) (body : Bytes) : Prop :=
  readBlock wire = some (lines.map utf8, body) ∧
    lines.filter (fun l => fieldName l = "content-length".toList) = [lengthLine body.length]

/-- **Every response is framed**: it is taken apart into its lines and exactly its body, one line declares the length of
the body, and the headers for browsers add their lines, each once, and change nothing else. -/
theorem response_framed (X : Crates) (r : BuiltResponse) : ∃ lines,
    HasOneLength (r.bytes X) lines (r.body X) ∧
    HasOneLength (withChallengeCors (r.bytes X)) (lines ++ corsLines) (r.body X) ∧
    ∀ l ∈ corsLines, (lines ++ corsLines).count l = 1 := by
  have hplain : ∀ l ∈ r.statusLine :: r.headers X, ¬ ['\r', '\n'] <:+: l := by
    intro l hl
    rcases List.mem_cons.mp hl with rfl | hl
    · exact not_crlf_of_return r.statusLine_plain
    · exact not_crlf_of_return (r.headers_plain X l hl)
  have hcors : ∀ l ∈ corsLines, '\r' ∉ l ∧ l ≠ [] := by decide
  have hall : ∀ l ∈ r.statusLine :: (r.headers X ++ corsLines), ¬ ['\r', '\n'] <:+: l := by
    rw [← List.cons_append]
    intro l hl
    rcases List.mem_append.mp hl with hl | hl
    · exact hplain l hl
    · exact not_crlf_of_return (hcors l hl).1
  have hne : ∀ l ∈ r.headers X ++ corsLines, l ≠ [] := by
    intro l hl
    rcases List.mem_append.mp hl with hl | hl
    · exact r.headers_ne_nil X l hl
    · exact (hcors l hl).2
  refine ⟨r.statusLine :: r.headers X, ⟨?_, r.lengths_eq X⟩, ⟨?_, ?_⟩, ?_⟩
  · rw [r.bytes_eq X]
    exact (readBlock_iff (r.headers_ne_nil X) _).mpr hplain
  · rw [r.bytes_eq X, withChallengeCors_block hplain (r.headers_ne_nil X)]
    exact (readBlock_iff hne _).mpr hall
  · have hnone : corsLines.filter (fun l => fieldName l = "content-length".toList) = [] := by decide
    rw [List.filter_append, r.lengths_eq X, hnone, List.append_nil]
  · intro l hl
    have hone : ∀ l ∈ corsLines, corsLines.count l = 1 := by decide
    rw [List.count_append, List.count_eq_zero.mpr (r.cors_notMem X l hl), hone l hl]

end TeechatOpenapi.Http
