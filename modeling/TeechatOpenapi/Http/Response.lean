import TeechatOpenapi.Core.Api
import TeechatOpenapi.Lib.Layout

/-!
# Responses (`openapi-http/src/response.rs`)

Every response is built in memory as octets.  `HasStatus` says which status line a response starts with;
`HasStatus.unique` that it starts with one only, and `hasStatus_buildErrorResponse` that an error has its own.
-/

namespace TeechatOpenapi.Http

open Lib TeechatOpenapi.Core

def challengeCors : Str :=
  format ["Access-Control-Allow-Origin: *\r\n", "Access-Control-Allow-Methods: POST, OPTIONS\r\n",
    "Access-Control-Allow-Headers: content-type\r\n", "Access-Control-Max-Age: 86400\r\n"]

def isAttestationChallengePath (path : Str) : Bool := path.takeWhile (· ≠ '?') = "/v1/attestation/challenge".toList

def buildChallengeCorsPreflight : Bytes :=
  utf8 (format ["HTTP/1.1 204 No Content\r\n", challengeCors, "Content-Length: 0\r\nConnection: close\r\n\r\n"])

/-- `with_challenge_cors`: the headers go in after the line end of the last header. -/
def withChallengeCors : Bytes → Bytes
  | [] => []
  | b :: response =>
    if [13, 10, 13, 10].isPrefixOf (b :: response) then
      (b :: response).take 2 ++ utf8 challengeCors ++ (b :: response).drop 2
    else b :: withChallengeCors response

def buildJsonResponse (status : Nat) (body : Bytes) : Bytes :=
  utf8 (format ["HTTP/1.1 ", decimal status, " OK\r\nContent-Type: application/json\r\nContent-Length: ",
    decimal body.length, "\r\nConnection: close\r\n\r\n"]) ++ body

def buildSseBufferedResponse (body : Bytes) : Bytes :=
  utf8 (format ["HTTP/1.1 200 OK\r\nContent-Type: text/event-stream\r\nCache-Control: no-cache\r\nContent-Length: ",
    decimal body.length, "\r\nConnection: close\r\n\r\n"]) ++ body

/-- The reason phrase of `build_error_response`. -/
def reasonPhrase (status : Nat) : Str :=
  if status = 400 then "Bad Request"
  else if status = 401 then "Unauthorized"
  else if status = 403 then "Forbidden"
  else if status = 404 then "Not Found"
  else if status = 405 then "Method Not Allowed"
  else if status = 413 then "Payload Too Large"
  else if status = 429 then "Too Many Requests"
  else if status = 502 then "Bad Gateway"
  else if status = 503 then "Service Unavailable"
  else "Internal Server Error"

/-- The `Retry-After` header of `build_error_response`. -/
def retryAfterHeader : Option Nat → Str
  | some secs => format ["Retry-After: ", decimal secs, "\r\n"]
  | none => []

def buildErrorResponse (X : Crates) (err : ApiError) : Bytes :=
  let body := utf8 (X.json.structText err.intoBody)
  utf8 (format ["HTTP/1.1 ", decimal err.statusCode, " ", reasonPhrase err.statusCode,
    "\r\nContent-Type: application/json\r\nContent-Length: ", decimal body.length, "\r\n",
    retryAfterHeader err.retryAfterSecs, "Connection: close\r\n\r\n"]) ++ body

/-- A response starts with the status line of a code. -/
def HasStatus (code : Nat) (response : Bytes) : Prop := utf8 (format ["HTTP/1.1 ", decimal code, " "]) <+: response

variable {response : Bytes}

lemma HasStatus.append {code : Nat} (h : HasStatus code response) (rest : Bytes) :
    HasStatus code (response ++ rest) := h.trans (List.prefix_append response rest)

lemma prefix_format (pieces more : List Str) : format pieces <+: format (pieces ++ more) := by
  unfold format
  rw [List.flatten_append]
  exact List.prefix_append _ _

lemma hasStatus_utf8 {code : Nat} {text : Str} (h : format ["HTTP/1.1 ", decimal code, " "] <+: text) :
    HasStatus code (utf8 text) := by
  obtain ⟨rest, rfl⟩ := h
  rw [HasStatus, utf8_append]
  exact List.prefix_append _ _

lemma hasStatus_buildErrorResponse (X : Crates) (e : ApiError) : HasStatus e.statusCode (buildErrorResponse X e) := by
  refine HasStatus.append (hasStatus_utf8 ?_) _
  exact prefix_format ["HTTP/1.1 ".toList, decimal e.statusCode, " ".toList] _

/-- Headers that are put in behind the status line leave it where it is. -/
lemma prefix_withChallengeCors {p : Bytes} (hp : 13 ∉ p) (h : p <+: response) :
    p <+: withChallengeCors response := by
  induction p generalizing response with
  | nil => exact List.nil_prefix
  | cons b p ih =>
    cases response with
    | nil => cases List.prefix_nil.mp h
    | cons c response =>
      obtain ⟨rfl, hrest⟩ := List.cons_prefix_cons.mp h
      have hb : ¬ [13, 10, 13, 10].isPrefixOf (b :: response) = true := by
        intro hsep
        obtain ⟨rfl, -⟩ := List.cons_prefix_cons.mp ( List.isPrefixOf_iff_prefix.mp hsep)
        exact hp List.mem_cons_self
      rw [withChallengeCors, if_neg hb]
      exact List.cons_prefix_cons.mpr ⟨rfl, ih (fun hm => hp (List.mem_cons_of_mem b hm)) hrest⟩

lemma notMem_utf8_decimal {b : UInt8} (hb : b.toNat < 128) (hdigit : isAsciiDigit (Char.ofNat b.toNat) = false)
    (n : Nat) : b ∉ utf8 (decimal n) := by
  intro hmem
  have htrue := (decimal_spec n).1 _ (ascii_mem_utf8 hb hmem)
  rw [hdigit] at htrue
  cases htrue

lemma status_octets (code : Nat) : utf8 (format ["HTTP/1.1 ", decimal code, " "]) =
    utf8 "HTTP/1.1 " ++ (utf8 (decimal code) ++ [32]) := by
  rw [format, List.flatten_cons, List.flatten_cons, utf8_append, utf8_append]
  rfl

lemma cr_notMem_status (code : Nat) : 13 ∉ utf8 (format ["HTTP/1.1 ", decimal code, " "]) := by
  rw [status_octets, List.mem_append, List.mem_append]
  rintro (hmem | hmem | hmem)
  · revert hmem
    decide
  · exact notMem_utf8_decimal (by decide) (by decide) code hmem
  · revert hmem
    decide

lemma HasStatus.withChallengeCors {code : Nat} (h : HasStatus code response) :
    HasStatus code (withChallengeCors response) := prefix_withChallengeCors (cr_notMem_status code) h

lemma HasStatus.unique {code code' : Nat} (h : HasStatus code response)
    (h' : HasStatus code' response) : code = code' := by
  obtain ⟨rest, hrest⟩ := h
  obtain ⟨rest', hrest'⟩ := h'
  rw [status_octets, List.append_assoc, List.append_assoc] at hrest hrest'
  have hsame := List.append_cancel_left (hrest.trans hrest'.symm)
  have hspace : ∀ n, (32 : UInt8) ∉ utf8 (decimal n) := notMem_utf8_decimal (by decide) (by decide)
  have hdigits := (append_sep_injective (hspace code) (hspace code') hsame).1
  exact decimal_injective (utf8_injective hdigits)

end TeechatOpenapi.Http
