import TeechatOpenapi.Cvm.OpeStream

/-!
# The events of a streamed answer (`openapi-platform-cvm/src/ope_upstream.rs`)

A streamed answer is a list of events; the bridge writes the octets of one after the other.
-/

namespace TeechatOpenapi.Cvm

open Lib TeechatOpenapi.Core

/-! ## Events -/

/-- The text of a delta under a key. -/
def textOf (delta : Json) (key : Str) : Str := (delta.getStr? key).getD []

/-- The tool call deltas of a delta. -/
def toolCallsOf (delta : Json) : List Json := ((delta.get? "tool_calls").bind Json.asArray?).getD []

/-- An event of a streamed answer: the delta and the finish reason of its one choice. -/
structure Event where
  delta : Json
  finish : Option Str

namespace Event

def content (e : Event) : Str := textOf e.delta "content"

def toolCalls (e : Event) : List Json := toolCallsOf e.delta

/-- The octets that `write_sse` writes for an event. -/
def bytes (X : Crates) (sink : Sink) (e : Event) : Bytes :=
  utf8 ("data: ".toList ++ X.json.valueText (chunkTree sink.id sink.model e.delta e.finish) ++ "\n\n".toList)

def finishes (e : Event) : Bool := e.finish.isSome

end Event

/-- The octets of a streamed answer. -/
def sse (X : Crates) (sink : Sink) (events : List Event) : Bytes :=
  events.flatMap (Event.bytes X sink) ++ utf8 "data: [DONE]\n\n".toList

/-- The `delta.content` fields of a streamed answer, one after the other. -/
def streamedContent (events : List Event) : Str := events.flatMap Event.content

/-- The finish reason in the JSON of a buffered answer. -/
def answerFinish (answer : Json) : Option Str := (firstOf answer "choices").bind (·.getStr? "finish_reason")

/-- The delta of a frame's first choice. -/
def frameDelta (frame : Json) : Json :=
  ((firstOf frame "choices").bind (·.get? "delta")).getD (Json.object [])

def frameFinish (frame : Json) : Option Str := (firstOf frame "choices").bind finishOf

def frameToolCalls (frame : Json) : List Json := toolCallsOf (frameDelta frame)

/-- The text of a frame that only the buffered answer counts as content. -/
def frameReasoning (frame : Json) : Str :=
  textOf (frameDelta frame) "reasoning" ++ textOf (frameDelta frame) "reasoning_content"

/-- The events of a frame, at most one. -/
def frameEvents (frame : Json) : List Event :=
  if ((frameDelta frame).asObject?.getD []) = [] ∧ frameFinish frame = none then []
  else [⟨outDelta (frameDelta frame), frameFinish frame⟩]

lemma applyOpenaiDeltaFrame_eq (agg : AggregatedCompletion) (frame : Json) :
    applyOpenaiDeltaFrame agg frame =
      ⟨agg.content ++ textOf (frameDelta frame) "content" ++ frameReasoning frame,
        mergeToolCallDeltas agg.toolCalls (frameToolCalls frame), (frameFinish frame).or agg.finishReason⟩ := by
  unfold applyOpenaiDeltaFrame frameReasoning frameToolCalls frameFinish frameDelta
  cases firstOf frame "choices" with
  | none => simp [textOf, toolCallsOf, Json.getStr?, Json.get?, mergeToolCallDeltas]
  | some choice =>
    simp only [Option.bind_some, textOf, toolCallsOf, List.append_assoc]
    cases ((((choice.get? "delta").getD (Json.object [])).get? "tool_calls").bind Json.asArray?) <;> rfl

lemma get?_setSome {j : Json} (hj : j.asObject?.isSome) (key key' : Str) (x : Option Json) :
    (setSome j key x).asObject?.isSome ∧
      (setSome j key x).get? key' = if key = key' then x.or (j.get? key') else j.get? key' := by
  cases j with
  | object ms =>
    cases x with
    | none => exact ⟨rfl, by simp [setSome]⟩
    | some v =>
      refine ⟨rfl, ?_⟩
      by_cases hk : key = key'
      · simp [setSome, Json.set, Json.get?, hk]
      · have hfind : (ms.filter fun m => m.1 ≠ key).reverse.find? (fun m => m.1 = key') =
            ms.reverse.find? fun m => m.1 = key' := by
          rw [← List.filter_reverse, List.find?_filter]
          congr 1
          funext m
          by_cases hm : m.1 = key'
          · simp [hm, Ne.symm hk]
          · simp [hm]
        simp only [setSome, Option.elim_some, Json.set, Json.get?, List.reverse_append, List.reverse_singleton,
          List.singleton_append, hk, if_false]
        rw [List.find?_cons_of_neg (by simpa using hk), hfind]
  | null => cases hj
  | bool b => cases hj
  | number n => cases hj
  | string s => cases hj
  | array xs => cases hj

lemma getD_filled (o : Option Str) :
    (((o.filter (· ≠ [])).map Json.string).bind Json.asStr?).getD [] = o.getD [] := by
  cases o with
  | none => rfl
  | some t =>
    by_cases ht : t = []
    · simp [Option.filter, ht]
    · simp [Option.filter, ht, Json.asStr?]

/-- What is passed on of a delta: its content and its tool calls. -/
lemma outDelta_get? (delta : Json) :
    textOf (outDelta delta) "content" = textOf delta "content" ∧ toolCallsOf (outDelta delta) = toolCallsOf delta := by
  -- the three members are set one after the other
  let text := ((delta.getStr? "content").filter (· ≠ [])).map Json.string
  let reasoning := (((delta.getStr? "reasoning_content").filter (· ≠ [])).or
    ((delta.getStr? "reasoning").filter (· ≠ []))).map Json.string
  have h₁ := fun key => get?_setSome (j := .object []) rfl "content" key text
  have h₂ := fun key => get?_setSome (h₁ []).1 "reasoning_content" key reasoning
  have h₃ := fun key => get?_setSome (h₂ []).1 "tool_calls" key (delta.get? "tool_calls")
  have hcontent : (outDelta delta).get? "content" = text := by
    refine (h₃ "content").2.trans ?_
    rw [if_neg (by decide), (h₂ "content").2, if_neg (by decide), (h₁ "content").2, if_pos rfl]
    exact Option.or_none
  have hcalls : (outDelta delta).get? "tool_calls" = delta.get? "tool_calls" := by
    refine (h₃ "tool_calls").2.trans ?_
    rw [if_pos rfl, (h₂ "tool_calls").2, if_neg (by decide), (h₁ "tool_calls").2, if_neg (by decide)]
    exact Option.or_none
  constructor
  · rw [textOf, Json.getStr?, hcontent]
    exact getD_filled _
  · rw [toolCallsOf, toolCallsOf, hcalls]

lemma frameEvents_spec (frame : Json) :
    streamedContent (frameEvents frame) = textOf (frameDelta frame) "content" ∧
      (frameEvents frame).flatMap Event.toolCalls = frameToolCalls frame ∧
      (frameEvents frame).filterMap Event.finish = (frameFinish frame).toList := by
  unfold frameEvents frameToolCalls
  split_ifs with h
  · -- a delta that is no object, or an empty one, has no members
    have hget : ∀ key, (frameDelta frame).get? key = none := by
      intro key
      cases hd : frameDelta frame with
      | object ms =>
        have hms : ms = [] := by
          have := h.1
          rwa [hd] at this
        rw [hms]
        rfl
      | _ => rfl
    refine ⟨?_, ?_, ?_⟩
    · rw [textOf, Json.getStr?, hget]
      rfl
    · rw [toolCallsOf, hget]
      rfl
    · rw [h.2]
      rfl
  · obtain ⟨hcontent, hcalls⟩ := outDelta_get? (frameDelta frame)
    refine ⟨?_, ?_, ?_⟩
    · rw [streamedContent, List.flatMap_singleton]
      exact hcontent
    · rw [List.flatMap_singleton]
      exact hcalls
    · rw [List.filterMap_cons, List.filterMap_nil]
      cases frameFinish frame <;> rfl

/-! ## A chunk that is a whole text -/

section Texts

variable (X : Crates)

/-- What `append_plain_to_aggregate` makes of a text. -/
def absorb (agg : AggregatedCompletion) (t : Str) : AggregatedCompletion :=
  match deltaFrame? X (utf8 t) with
  | some frame => applyOpenaiDeltaFrame agg frame
  | none => { agg with content := agg.content ++ t }

/-- The events the bridge writes for a text. -/
def textEvents (t : Str) : List Event :=
  if t = [] then []
  else
    match deltaFrame? X (utf8 t) with
    | some frame => frameEvents frame
    | none => [⟨.object [("content", .string t)], none⟩]

/-- The frames among some plaintexts. -/
def framesOf (plains : List Bytes) : List Json := plains.filterMap (plainFrame? X)

variable {X}

lemma plainFrame?_utf8 (t : Str) : plainFrame? X (utf8 t) = deltaFrame? X (utf8 t) := by
  rw [plainFrame?, fromUtf8_utf8]

/-- What a buffered answer and the events of a streamed one have in common, once `frames` have gone by: they differ in
the reasoning. -/
structure Alike (frames : List Json) (agg : AggregatedCompletion) (events : List Event) : Prop where
  content : (streamedContent events).Sublist agg.content
  length : agg.content.length = (streamedContent events).length + (frames.flatMap frameReasoning).length
  bufferedCalls : agg.toolCalls = mergeToolCallDeltas [] (frames.flatMap frameToolCalls)
  calls : events.flatMap Event.toolCalls = frames.flatMap frameToolCalls
  bufferedFinish : agg.finishReason = (frames.filterMap frameFinish).getLast?
  finish : events.filterMap Event.finish = frames.filterMap frameFinish

namespace Alike

variable {frames : List Json} {agg : AggregatedCompletion} {events : List Event}

lemma empty : Alike [] .empty [] := ⟨List.Sublist.refl _, rfl, rfl, rfl, rfl, rfl⟩

lemma streamedContent_append (a b : List Event) :
    streamedContent (a ++ b) = streamedContent a ++ streamedContent b := List.flatMap_append

lemma filterMap_single (frame : Json) : [frame].filterMap frameFinish = (frameFinish frame).toList := by
  cases hf : frameFinish frame with
  | none => exact List.filterMap_cons_none hf
  | some reason => exact List.filterMap_cons_some hf

lemma frame (h : Alike frames agg events) (frame : Json) :
    Alike (frames ++ [frame]) (applyOpenaiDeltaFrame agg frame) (events ++ frameEvents frame) := by
  obtain ⟨hcontent, hcalls, hfinish⟩ := frameEvents_spec frame
  rw [applyOpenaiDeltaFrame_eq]
  refine ⟨?_, ?_, ?_, ?_, ?_, ?_⟩
  · rw [streamedContent_append, hcontent]
    exact (h.content.append_right _).trans (List.sublist_append_left _ _)
  · have hlength := h.length
    simp only [streamedContent_append, hcontent, List.flatMap_append, List.flatMap_singleton, List.length_append]
    omega
  · rw [h.bufferedCalls, List.flatMap_append, List.flatMap_singleton, mergeToolCallDeltas, mergeToolCallDeltas,
      mergeToolCallDeltas, List.foldl_append]
  · rw [List.flatMap_append, hcalls, h.calls, List.flatMap_append, List.flatMap_singleton]
  · rw [h.bufferedFinish, List.filterMap_append, filterMap_single, List.getLast?_append]
    cases frameFinish frame <;> rfl
  · rw [List.filterMap_append, hfinish, h.finish, List.filterMap_append, filterMap_single]

lemma plain (h : Alike frames agg events) (t : Str) :
    Alike frames { agg with content := agg.content ++ t } (events ++ [⟨.object [("content", .string t)], none⟩]) := by
  have hcontent : streamedContent [⟨.object [("content", .string t)], none⟩] = t := by
    rw [streamedContent, List.flatMap_singleton]
    rfl
  refine ⟨?_, ?_, h.bufferedCalls, ?_, h.bufferedFinish, ?_⟩
  · rw [streamedContent_append, hcontent]
    exact h.content.append_right _
  · have hlength := h.length
    simp only [streamedContent_append, hcontent, List.length_append]
    omega
  · rw [List.flatMap_append, h.calls]
    exact List.append_nil _
  · rw [List.filterMap_append, h.finish]
    exact List.append_nil _

lemma text {plains : List Bytes} (h : Alike (framesOf X plains) agg events) (hjson : deltaFrame? X [] = none)
    (t : Str) : Alike (framesOf X (plains ++ [utf8 t])) (absorb X agg t) (events ++ textEvents X t) := by
  unfold framesOf at h ⊢
  rw [List.filterMap_append]
  unfold absorb textEvents
  cases hf : deltaFrame? X (utf8 t) with
  | none =>
    rw [List.filterMap_cons_none (by rw [plainFrame?_utf8, hf]), List.filterMap_nil, List.append_nil]
    split_ifs with ht
    · rw [ht, List.append_nil, List.append_nil]
      exact h
    · exact h.plain t
  | some frame =>
    have ht : t ≠ [] := by
      rintro rfl
      rw [show utf8 [] = [] from rfl, hjson] at hf
      cases hf
    rw [List.filterMap_cons_some (by rw [plainFrame?_utf8, hf]), List.filterMap_nil, if_neg ht]
    exact h.frame frame

lemma texts (hjson : deltaFrame? X [] = none) (ts : List Str) :
    Alike (framesOf X (ts.map utf8)) (ts.foldl (absorb X) .empty) (ts.flatMap (textEvents X)) := by
  induction ts using List.reverseRecOn with
  | nil => exact empty
  | append_singleton ts t ih =>
    rw [List.map_append, List.foldl_append, List.flatMap_append, List.flatMap_singleton]
    exact ih.text hjson t

end Alike

/-- The whole streamed answer to some texts: a finish reason that none of them gave is added. -/
def closed (events : List Event) : List Event :=
  if events.any Event.finishes then events else events ++ [⟨.object [], some "stop"⟩]

end Texts

/-! ## What the bridge writes -/

/-- The bridge after it has written some events. -/
def Bridge.wrote (X : Crates) (sink : Sink) (s : Bridge) (events : List Event) : Bridge :=
  { s with
    out := s.out ++ events.flatMap (Event.bytes X sink)
    written := s.written + (events.flatMap (Event.bytes X sink)).length
    sawFinish := s.sawFinish || events.any Event.finishes }

section Writer

variable {X : Crates} {sink : Sink}

lemma wrote_nil (s : Bridge) : s.wrote X sink [] = s := by
  simp [Bridge.wrote]

lemma wrote_append (s : Bridge) (a b : List Event) :
    (s.wrote X sink a).wrote X sink b = s.wrote X sink (a ++ b) := by
  simp [Bridge.wrote, Bool.or_assoc, Nat.add_assoc]

/-- The writer refuses octets at some time. -/
def Sink.CanRefuse (sink : Sink) : Prop := ∃ taken next, sink.refuses taken next ≠ none

variable (X sink) in
/-- The operation writes the events and does nothing else, unless the writer refuses octets. -/
def Emits (x : Op Bridge ApiError Unit) (events : List Event) : Prop :=
  ∀ s, x s = (.ok (), s.wrote X sink events) ∨ sink.CanRefuse ∧ ∃ e s', x s = (.error e, s')

lemma Emits.run {x : Op Bridge ApiError Unit} {events : List Event} (h : Emits X sink x events)
    (hsink : ∀ taken next, sink.refuses taken next = none) (s : Bridge) : x s = (.ok (), s.wrote X sink events) := by
  rcases h s with hok | ⟨⟨taken, next, hrefused⟩, -⟩
  · exact hok
  · exact absurd (hsink taken next) hrefused

lemma Emits.of_ok {x : Op Bridge ApiError Unit} {events : List Event} (h : Emits X sink x events) {s s' : Bridge}
    (hok : x s = (.ok (), s')) : s' = s.wrote X sink events := by
  rcases h s with hs | ⟨-, e, t, he⟩
  · exact (Prod.mk.inj (hok.symm.trans hs)).2
  · cases hok.symm.trans he

lemma Emits.none : Emits X sink (pure ()) [] := by
  intro s
  left
  rw [wrote_nil]
  rfl

lemma Emits.seq {x y : Op Bridge ApiError Unit} {a b : List Event} (hx : Emits X sink x a) (hy : Emits X sink y b) :
    Emits X sink (do x; y) (a ++ b) := by
  intro s
  rw [Op.bind_run]
  rcases hx s with hs | ⟨hrefused, e, s', he⟩
  · rw [hs, ← wrote_append]
    exact hy (s.wrote X sink a)
  · right
    rw [he]
    exact ⟨hrefused, e, s', rfl⟩

variable (sink) in
lemma writeAllCount_run (bytes : Bytes) (s : Bridge) :
    writeAllCount sink bytes s = (.ok (), { s with out := s.out ++ bytes, written := s.written + bytes.length }) ∨
      sink.CanRefuse ∧ ∃ e s', writeAllCount sink bytes s = (.error e, s') := by
  unfold writeAllCount
  cases hsink : sink.refuses s.out bytes with
  | none => exact .inl rfl
  | some e => exact .inr ⟨⟨s.out, bytes, by rw [hsink]; exact Option.some_ne_none e⟩, _, _, rfl⟩

variable (X sink) in
lemma emits_noted (delta : Json) (finish : Option Str) :
    Emits X sink (do
      Op.modify fun s => { s with sawFinish := s.sawFinish || finish.isSome }
      writeSse sink (X.json.valueText (chunkTree sink.id sink.model delta finish))) [⟨delta, finish⟩] := by
  intro s
  rw [Op.bind_run, Op.modify_run]
  have hwrite := writeAllCount_run sink (Event.bytes X sink ⟨delta, finish⟩)
    { s with sawFinish := s.sawFinish || finish.isSome }
  have hwrote : s.wrote X sink [⟨delta, finish⟩] =
      { s with
        out := s.out ++ Event.bytes X sink ⟨delta, finish⟩
        written := s.written + (Event.bytes X sink ⟨delta, finish⟩).length
        sawFinish := s.sawFinish || finish.isSome } := by
    simp [Bridge.wrote, Event.finishes]
  rw [hwrote]
  exact hwrite

lemma emits_writeSse (delta : Json) :
    Emits X sink (writeSse sink (X.json.valueText (chunkTree sink.id sink.model delta none))) [⟨delta, none⟩] := by
  intro s
  have hnoted := emits_noted X sink delta none s
  rw [Op.bind_run, Op.modify_run, Option.isSome_none, Bool.or_false] at hnoted
  exact hnoted

lemma emits_emitOpenaiDeltaFrame (frame : Json) :
    Emits X sink (emitOpenaiDeltaFrame X sink frame) (frameEvents frame) := by
  unfold emitOpenaiDeltaFrame frameEvents frameDelta frameFinish
  cases firstOf frame "choices" with
  | none =>
    rw [if_pos ⟨rfl, rfl⟩]
    exact Emits.none
  | some choice =>
    dsimp only
    rw [Option.bind_some, Option.bind_some, openaiSseFromStructuredDelta]
    split_ifs with h
    · intro s
      left
      rw [wrote_nil, Op.bind_run, Op.modify_run, h.2, Option.isSome_none, Bool.or_false]
      rfl
    · exact emits_noted X sink _ _

lemma emits_emitPiece (t : Str) : Emits X sink (emitPiece X sink t) (textEvents X t) := by
  unfold emitPiece textEvents
  split_ifs with ht
  · exact Emits.none
  · cases deltaFrame? X (utf8 t) with
    | some frame => exact emits_emitOpenaiDeltaFrame frame
    | none =>
      dsimp only
      rw [openaiSseDelta, if_neg ht]
      exact emits_writeSse _

lemma emits_emitPieces (ts : List Str) : Emits X sink (emitPieces X sink ts) (ts.flatMap (textEvents X)) := by
  induction ts with
  | nil => exact Emits.none
  | cons t ts ih =>
    rw [emitPieces, List.flatMap_cons]
    exact (emits_emitPiece t).seq ih

variable (X sink) in
lemma bridgeClose_spec (s : Bridge) :
    (∃ s', bridgeClose X sink s = (.ok (), s') ∧ s'.delivered = s.delivered ∧
      (s.written = s.out.length → s'.written = s'.out.length) ∧
      ∀ events, s.out = events.flatMap (Event.bytes X sink) → s.sawFinish = events.any Event.finishes →
        s'.out = sse X sink (closed events)) ∨
    sink.CanRefuse ∧ ∃ e s', bridgeClose X sink s = (.error e, s') := by
  have hcount : ∀ (t : Bridge) (bytes : Bytes), t.written = t.out.length →
      t.written + bytes.length = (t.out ++ bytes).length := by
    intro t bytes ht
    rw [List.length_append, ht]
  rw [bridgeClose, Op.get_bind, Op.bind_run]
  by_cases h : s.sawFinish = true
  · rw [if_pos h]
    rcases writeAllCount_run sink (utf8 "data: [DONE]\n\n".toList) s with hdone | hrefused
    · left
      refine ⟨_, hdone, rfl, hcount s _, fun events hout hsaw => ?_⟩
      rw [closed, if_pos (hsaw.symm.trans h), sse, ← hout]
    · right
      exact hrefused
  · rw [if_neg h]
    dsimp only [writeSome]
    rcases writeAllCount_run sink (Event.bytes X sink ⟨.object [], some "stop"⟩) s with
      hstop | ⟨hrefused, e, s', he⟩
    · rw [show writeSse sink (openaiSseDelta X sink.id sink.model [] (some "stop")) s = _ from hstop]
      rcases writeAllCount_run sink (utf8 "data: [DONE]\n\n".toList)
        { s with
          out := s.out ++ Event.bytes X sink ⟨.object [], some "stop"⟩
          written := s.written + (Event.bytes X sink ⟨.object [], some "stop"⟩).length } with hdone | hrefused
      · left
        refine ⟨_, hdone, rfl, fun hs => hcount _ _ (hcount s _ hs), fun events hout hsaw => ?_⟩
        rw [closed, if_neg fun hany => h (hsaw.trans hany), sse, List.flatMap_append, ← hout, List.flatMap_singleton]
      · right
        exact hrefused
    · right
      rw [show writeSse sink (openaiSseDelta X sink.id sink.model [] (some "stop")) s = _ from he]
      exact ⟨hrefused, e, s', rfl⟩

variable (hsink : ∀ taken next, sink.refuses taken next = none)

include hsink

lemma processDecryptedPlaintext_run {p : Bytes} {s : Bridge} {r : Pushed} (hf : plainFrame? X p = none)
    (hr : utf8Push s.pending p = .ok r) : processDecryptedPlaintext X sink p s =
      (.ok (), { s with pending := r.pending }.wrote X sink (r.texts.flatMap (textEvents X))) := by
  rw [processDecryptedPlaintext, hf]
  dsimp only
  rw [Op.get_bind, Op.bind_run, Op.lift_run, hr]
  exact (emits_emitPieces r.texts).run hsink { s with pending := r.pending }

end Writer

end TeechatOpenapi.Cvm
