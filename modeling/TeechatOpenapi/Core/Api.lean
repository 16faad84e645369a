import TeechatOpenapi.Crates

/-!
# Errors and requests of the edge (`openapi-core/src/error.rs`, `handler.rs`, `upstream.rs`)
-/

namespace TeechatOpenapi.Core

open Lib

/-- The errors that a client is answered with. -/
inductive ApiError where
  | unauthorized
  | forbidden (text : Str)
  | notFound
  | methodNotAllowed
  | payloadTooLarge
  | rateLimited
  | insufficientQuota (text : Str)
  | badRequest (text : Str)
  | upstream (text : Str)
  | notImplemented (text : Str)
  | internal (text : Str)
  | serviceUnavailable (message code : Str) (retryAfterSecs : Nat)
  deriving DecidableEq

def ApiError.display : ApiError → Str
  | .unauthorized => "unauthorized"
  | .forbidden text => "forbidden: ".toList ++ text
  | .notFound => "not found"
  | .methodNotAllowed => "method not allowed"
  | .payloadTooLarge => "payload too large"
  | .rateLimited => "rate limited"
  | .insufficientQuota text => "insufficient quota: ".toList ++ text
  | .badRequest text => "bad request: ".toList ++ text
  | .upstream text => "upstream error: ".toList ++ text
  | .notImplemented text => "not implemented: ".toList ++ text
  | .internal text => "internal error: ".toList ++ text
  | .serviceUnavailable message _ _ => message

def textOrNull : Option Str → Json
  | some s => .string s
  | none => .null

def ApiError.statusCode : ApiError → Nat
  | .unauthorized => 401
  | .forbidden _ => 403
  | .notFound => 404
  | .methodNotAllowed => 405
  | .payloadTooLarge => 413
  | .rateLimited => 429
  | .insufficientQuota _ => 429
  | .badRequest _ => 400
  | .notImplemented _ => 501
  | .upstream _ => 502
  | .serviceUnavailable _ _ _ => 503
  | .internal _ => 500

lemma ApiError.le_statusCode (e : ApiError) : 400 ≤ e.statusCode := by
  cases e <;> simp [ApiError.statusCode]

def ApiError.openaiType : ApiError → Str
  | .unauthorized | .forbidden _ | .notFound | .methodNotAllowed | .payloadTooLarge => "invalid_request_error"
  | .rateLimited => "rate_limit_exceeded"
  | .insufficientQuota _ => "insufficient_quota"
  | .badRequest _ | .notImplemented _ => "invalid_request_error"
  | .upstream _ | .serviceUnavailable _ _ _ | .internal _ => "server_error"

def ApiError.retryAfterSecs : ApiError → Option Nat
  | .rateLimited => some 1
  | .serviceUnavailable _ _ secs => some secs
  | _ => none

/-- The `code` of `into_body`. -/
def ApiError.code : ApiError → Option Str
  | .unauthorized => some "invalid_api_key"
  | .forbidden _ => some "model_not_allowed"
  | .rateLimited => some "rate_limit_exceeded"
  | .insufficientQuota _ => some "insufficient_quota"
  | .notImplemented _ => some "not_supported"
  | .serviceUnavailable _ code _ => some code
  | _ => none

/-- `into_body`, as it is serialized. -/
def ApiError.intoBody (e : ApiError) : Json :=
  .object [("error", .object [("message", .string e.display), ("type", .string e.openaiType),
    ("code", textOrNull e.code)])]

/-- The methods that routes tell apart. -/
inductive HttpMethod where
  | get
  | post
  | other
  deriving DecidableEq

def HttpMethod.parse (method : Str) : HttpMethod :=
  if method = "GET".toList then .get else if method = "POST".toList then .post else .other

/-- What upstream is told of the key. -/
structure UpstreamRequestContext where
  keyId : Str
  keySet : Str

/-- An answer of upstream. -/
inductive UpstreamResponse where
  | json (value : Json)
  | raw (bytes : Bytes) (contentType : Str)

def bodyWantsStream (X : Crates) (body : Bytes) : Bool :=
  match X.json.value body with
  | .ok v => ((v.get? "stream").bind Json.asBool?).getD false
  | .error _ => false

def modelFromBody (X : Crates) (body : Bytes) : Str :=
  match X.json.value body with
  | .ok v => (v.getStr? "model").getD "unknown"
  | .error _ => "unknown"

end TeechatOpenapi.Core
