import TeechatOpenapi.Core.Api

/-!
# Completions (`openapi-platform-cvm/src/ope_upstream.rs`)

What the edge makes of decrypted plaintexts: an aggregate for a buffered answer, and the events of a streamed one.
-/

namespace TeechatOpenapi.Cvm

open Lib TeechatOpenapi.Core

/-- The result of `Utf8PlainAccumulator::push`: the texts that are complete, and the octets kept back. -/
structure Pushed where
  texts : List Str
  pending : Bytes

/-- `Utf8PlainAccumulator::push` on the octets kept back so far. -/
def utf8Push (pending bytes : Bytes) : Except ApiError Pushed :=
  let all := pending ++ bytes
  match fromUtf8 all with
  | .ok text => .ok ⟨if text = [] then [] else [text], []⟩
  | .error (valid, illFormed) =>
    if illFormed then .error (.upstream "ope plaintext invalid utf8")
    else .ok ⟨if valid = [] then [] else [valid], all.drop (utf8 valid).length⟩

/-- `Utf8PlainAccumulator::finish`. -/
def utf8Finish (pending : Bytes) : Except ApiError (Option Str) :=
  if pending = [] then .ok none
  else
    match fromUtf8 pending with
    | .ok text => .ok (some text)
    | .error _ => .error (.upstream "ope plaintext invalid utf8 tail")

lemma utf8Push_text (t : Str) : utf8Push [] (utf8 t) = .ok ⟨if t = [] then [] else [t], []⟩ := by
  rw [utf8Push, List.nil_append, fromUtf8_utf8]

/-- What is pushed is what is returned and what is kept back, and that is the beginning of a character; or nothing makes
a text of it. -/
lemma utf8Push_spec (pending bytes : Bytes) :
    (∃ r, utf8Push pending bytes = .ok r ∧ pending ++ bytes = utf8 r.texts.flatten ++ r.pending ∧
      CutChar r.pending) ∨
    ∃ e, utf8Push pending bytes = .error e ∧ ∀ more, ¬ IsText (pending ++ bytes ++ more) := by
  have hflat : ∀ t : Str, (if t = [] then [] else [t]).flatten = t := by
    intro t
    split
    · next ht => rw [ht]; rfl
    · exact List.flatten_singleton
  unfold utf8Push
  dsimp only
  obtain ⟨t, rest, hall, ⟨rfl, hok⟩ | ⟨hcut, herr⟩ | hbad⟩ := fromUtf8_cases (pending ++ bytes)
  · left
    rw [hok]
    refine ⟨_, rfl, ?_, cutChar_nil⟩
    rw [hflat, hall]
  · left
    rw [herr]
    have hdrop : (pending ++ bytes).drop (utf8 t).length = rest := by rw [hall, List.drop_left]
    refine ⟨_, rfl, ?_, ?_⟩
    · rw [hflat, hdrop, hall]
    · exact hdrop ▸ hcut
  · right
    have herr := hbad []
    rw [List.append_nil] at herr
    rw [herr]
    refine ⟨_, rfl, fun more htext => ?_⟩
    obtain ⟨u, hu⟩ := isText_iff.mp htext
    rw [hbad more] at hu
    cases hu

/-- Chunks that are pushed one after the other: all the texts that are returned, and the octets kept back. -/
def utf8PushAll (pending : Bytes) : List Bytes → Except ApiError Pushed
  | [] => .ok ⟨[], pending⟩
  | chunk :: rest => do
    let now ← utf8Push pending chunk
    let later ← utf8PushAll now.pending rest
    return ⟨now.texts ++ later.texts, later.pending⟩

/-- A new accumulator, all the chunks, and `finish`: the texts that were pushed out, and what `finish` returns. -/
def utf8Reassemble (chunks : List Bytes) : Except ApiError (List Str × Option Str) := do
  let pushed ← utf8PushAll [] chunks
  let tail ← utf8Finish pushed.pending
  return (pushed.texts, tail)

lemma utf8PushAll_spec {pending : Bytes} (hcut : CutChar pending) (chunks : List Bytes) :
    (∃ r, utf8PushAll pending chunks = .ok r ∧ pending ++ chunks.flatten = utf8 r.texts.flatten ++ r.pending ∧
      CutChar r.pending) ∨
    ∃ e, utf8PushAll pending chunks = .error e ∧ ¬ IsText (pending ++ chunks.flatten) := by
  induction chunks generalizing pending with
  | nil =>
    left
    exact ⟨⟨[], pending⟩, rfl, List.append_nil _, hcut⟩
  | cons chunk rest ih =>
    rw [utf8PushAll, List.flatten_cons, ← List.append_assoc]
    rcases utf8Push_spec pending chunk with ⟨now, hnow, hall, hkept⟩ | ⟨e, he, hnever⟩
    · rw [hnow, ok_bind, hall, List.append_assoc]
      rcases ih hkept with ⟨later, hlater, hrest, hend⟩ | ⟨e, he, hno⟩
      · left
        refine ⟨⟨now.texts ++ later.texts, later.pending⟩, by rw [hlater]; rfl, ?_, hend⟩
        rw [hrest, List.flatten_append, utf8_append, List.append_assoc]
      · right
        refine ⟨e, by rw [he]; rfl, ?_⟩
        rwa [isText_append]
    · right
      rw [he]
      exact ⟨e, rfl, hnever rest.flatten⟩

/-- What is kept back is no text, so that `finish` fails on it. -/
lemma utf8Finish_cut {pending : Bytes} (hcut : CutChar pending) (hne : pending ≠ []) :
    ∃ e, utf8Finish pending = .error e := by
  rw [utf8Finish, if_neg hne, hcut.fromUtf8_eq hne]
  exact ⟨_, rfl⟩

lemma utf8Reassemble_spec (chunks : List Bytes) :
    (∃ texts, utf8Reassemble chunks = .ok (texts, none) ∧ chunks.flatten = utf8 texts.flatten) ∨
    (∃ e, utf8Reassemble chunks = .error e) ∧ ¬ IsText chunks.flatten := by
  rw [utf8Reassemble]
  rcases utf8PushAll_spec cutChar_nil chunks with ⟨r, hr, hall, hcut⟩ | ⟨e, he, hno⟩
  · rw [hr, ok_bind]
    rw [List.nil_append] at hall
    by_cases hnil : r.pending = []
    · left
      rw [hnil] at hall ⊢
      exact ⟨r.texts, rfl, hall.trans (List.append_nil _)⟩
    · right
      obtain ⟨e, he⟩ := utf8Finish_cut hcut hnil
      rw [he, hall, isText_append]
      exact ⟨⟨e, rfl⟩, fun htext => hnil (hcut.eq_nil_of_isText htext)⟩
  · right
    rw [he]
    exact ⟨⟨e, rfl⟩, hno⟩

/-- **Reassembly.**  However a text is cut into chunks, the accumulator returns it: a run of pushes and `finish` succeed
exactly on the octets of a text, the texts returned are that text, and `finish` has nothing to add.  Between two pushes
it holds the beginning of one character, and not all of it. -/
theorem utf8_reassembled (chunks : List Bytes) :
    ((∃ r, utf8Reassemble chunks = .ok r) ↔ IsText chunks.flatten) ∧
    (∀ texts tail, utf8Reassemble chunks = .ok (texts, tail) → chunks.flatten = utf8 texts.flatten ∧ tail = none) ∧
    ∀ first rest r, chunks = first ++ rest → utf8PushAll [] first = .ok r →
      CutChar r.pending ∧ r.pending.length ≤ 3 := by
  have hheld : ∀ first rest r, chunks = first ++ rest → utf8PushAll [] first = .ok r →
      CutChar r.pending ∧ r.pending.length ≤ 3 := by
    intro first rest r _ hr
    rcases utf8PushAll_spec cutChar_nil first with ⟨r', hr', -, hcut⟩ | ⟨e, he, -⟩
    · cases hr.symm.trans hr'
      exact ⟨hcut, hcut.length_le⟩
    · cases hr.symm.trans he
  rcases utf8Reassemble_spec chunks with ⟨texts, hrun, hall⟩ | ⟨⟨e, hrun⟩, hno⟩
  · refine ⟨⟨fun _ => ⟨_, hall⟩, fun _ => ⟨_, hrun⟩⟩, ?_, hheld⟩
    intro texts' tail h
    cases hrun.symm.trans h
    exact ⟨hall, rfl⟩
  · refine ⟨⟨?_, fun htext => absurd htext hno⟩, ?_, hheld⟩
    · rintro ⟨r, h⟩
      cases hrun.symm.trans h
    · intro texts tail h
      cases hrun.symm.trans h

/-- `value.get(key).and_then(as_array).and_then(first)`. -/
def firstOf (v : Json) (key : Str) : Option Json := ((v.get? key).bind Json.asArray?).bind List.head?

/-- A finish reason that is there, not empty and not `null`. -/
def finishOf (choice : Json) : Option Str :=
  (choice.getStr? "finish_reason").filter fun s => s ≠ [] ∧ ¬ eqIgnoreAsciiCase s "null"

/-- Is the value an `openai_delta` frame? -/
def isDeltaFrame (v : Json) : Bool := v.getStr? "type" = some "openai_delta"

/-- The frame that a text is, when it is one. -/
def deltaFrame? (X : Crates) (text : Bytes) : Option Json :=
  (toOption (X.json.value text)).filter isDeltaFrame

/-- A buffered answer. -/
structure AggregatedCompletion where
  content : Str
  toolCalls : List Json
  finishReason : Option Str

def AggregatedCompletion.empty : AggregatedCompletion := ⟨[], [], none⟩

/-- A member of a value that is there and not `null`. -/
def present (v : Json) (key : Str) : Option Json := (v.get? key).filter fun x => ¬ x.isNull

def setSome (v : Json) (key : Str) (x : Option Json) : Json := x.elim v (v.set key)

def setMissing (v : Json) (key : Str) (x : Json) : Json := if (v.get? key).isNone then v.set key x else v

/-- The `function` member of a slot, after a delta. -/
def mergeFunction (func : Json) (delta : Option Json) : Json :=
  let func := setSome func "name" (((delta.bind (·.getStr? "name")).filter (· ≠ [])).map .string)
  let func := setSome func "arguments"
    ((delta.bind (·.getStr? "arguments")).map fun args => .string (((func.getStr? "arguments").getD []) ++ args))
  setMissing (setMissing func "name" (.string [])) "arguments" (.string [])

/-- One slot of the tool calls, after a delta. -/
def mergeSlot (slot d : Json) : Json :=
  let slot := setSome slot "id" (present d "id")
  let slot := setSome slot "type" (present d "type")
  let slot := setMissing slot "type" (.string "function")
  slot.set "function"
    (mergeFunction ((slot.get? "function").getD (Json.object []))
      ((d.get? "function").filter fun f => f.asObject?.isSome))

/-- One step of `merge_tool_call_deltas`: the slot that the delta's index names, made if need be. -/
def mergeDelta (into : List Json) (d : Json) : List Json :=
  let idx := ((d.get? "index").bind Json.asU64?).getD into.length
  (into ++ List.replicate (idx + 1 - into.length) (Json.object [])).modify idx (mergeSlot · d)

def mergeToolCallDeltas (into deltas : List Json) : List Json := deltas.foldl mergeDelta into

def applyOpenaiDeltaFrame (agg : AggregatedCompletion) (frame : Json) : AggregatedCompletion :=
  match firstOf frame "choices" with
  | none => agg
  | some choice =>
    let delta := (choice.get? "delta").getD (Json.object [])
    let text (key : Str) : Str := (delta.getStr? key).getD []
    { content := agg.content ++ text "content" ++ text "reasoning" ++ text "reasoning_content"
      toolCalls :=
        match (delta.get? "tool_calls").bind Json.asArray? with
        | some tcs => mergeToolCallDeltas agg.toolCalls tcs
        | none => agg.toolCalls
      finishReason := (finishOf choice).or agg.finishReason }

def appendPlainToAggregate (X : Crates) (agg : AggregatedCompletion) (plain : Bytes) :
    Except ApiError AggregatedCompletion :=
  match fromUtf8 plain with
  | .ok piece =>
    match deltaFrame? X plain with
    | some v => .ok (applyOpenaiDeltaFrame agg v)
    | none => .ok { agg with content := agg.content ++ piece }
  -- the octets after the valid text are always some, so the text is lost
  | .error _ => .error (.upstream "ope plaintext invalid utf8")

lemma appendPlainToAggregate_text {X : Crates} {t : Str} (agg : AggregatedCompletion)
    (hframe : deltaFrame? X (utf8 t) = none) :
    appendPlainToAggregate X agg (utf8 t) = .ok { agg with content := agg.content ++ t } := by
  simp only [appendPlainToAggregate, fromUtf8_utf8, hframe]

/-- A `chat.completion.chunk` with one choice. -/
def chunkTree (id model : Str) (delta : Json) (finish : Option Str) : Json :=
  .object [("id", .string id), ("object", .string "chat.completion.chunk"), ("created", .number (.posInt 1700000000)),
    ("model", .string model), ("choices", .array [.object [("index", .number (.posInt 0)), ("delta", delta),
      ("finish_reason", textOrNull finish)]])]

def openaiSseDelta (X : Crates) (id model content : Str) (finish : Option Str) : Str :=
  X.json.valueText (chunkTree id model (.object (if content = [] then [] else [("content", .string content)])) finish)

/-- The delta that `openai_sse_from_structured_delta` passes on. -/
def outDelta (delta : Json) : Json :=
  let filled (key : Str) : Option Str := (delta.getStr? key).filter (· ≠ [])
  let out := setSome (.object []) "content" ((filled "content").map .string)
  let out := setSome out "reasoning_content" (((filled "reasoning_content").or (filled "reasoning")).map .string)
  setSome out "tool_calls" (delta.get? "tool_calls")

def openaiSseFromStructuredDelta (X : Crates) (id model : Str) (delta : Json) (finish : Option Str) : Option Str :=
  if (delta.asObject?.getD []) = [] ∧ finish = none then none
  else some (X.json.valueText (chunkTree id model (outDelta delta) finish))

/-- The `message` of a completion. -/
def messageTree (agg : AggregatedCompletion) : Json :=
  let role : Str × Json := ("role", .string "assistant")
  if agg.toolCalls = [] then .object [role, ("content", .string agg.content)]
  else
    let call (i : Nat) (tc : Json) : Json := .object [
      ("id", (tc.get? "id").getD (.string ("call_".toList ++ decimal i))),
      ("type", (tc.get? "type").getD (.string "function")),
      ("function", (tc.get? "function").getD (.object [("name", .string []), ("arguments", .string [])]))]
    .object [role, ("content", if agg.content = [] then .null else .string agg.content),
      ("tool_calls", .array (agg.toolCalls.mapIdx call))]

/-- `openai_chat_completion_json`; `id` is the random part of the completion's id. -/
def openaiChatCompletionJson (id model : Str) (agg : AggregatedCompletion) (promptTokens completionTokens : Nat) :
    Json :=
  let finish := agg.finishReason.getD (if agg.toolCalls = [] then "stop" else "tool_calls")
  .object [("id", .string ("chatcmpl-".toList ++ id)), ("object", .string "chat.completion"),
    ("created", .number (.posInt 1700000000)), ("model", .string model),
    ("choices", .array [.object [("index", .number (.posInt 0)), ("message", messageTree agg),
      ("finish_reason", .string finish)]]),
    ("usage", .object [("prompt_tokens", .number (.posInt promptTokens)),
      ("completion_tokens", .number (.posInt completionTokens)),
      ("total_tokens", .number (.posInt ((promptTokens + completionTokens) % 2 ^ 64)))])]

end TeechatOpenapi.Cvm
