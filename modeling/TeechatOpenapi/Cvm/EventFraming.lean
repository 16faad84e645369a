import TeechatOpenapi.Cvm.Events

/-!
# The octets of a streamed answer (`openapi-platform-cvm/src/ope_upstream.rs`)

Whatever the engine says stands inside the JSON of an event, so that a client who splits the answer at blank lines finds
the events that were written.
-/

namespace TeechatOpenapi.Cvm

open Lib TeechatOpenapi.Core

section Chunks

variable (X : Crates)

/-- What the streaming loop has made of some plaintexts: the octets it keeps back, and the events. -/
structure Emitted where
  pending : Bytes
  events : List Event

/-- One plaintext more.  The loop fails where a push does. -/
def emitStep (e : Emitted) (plain : Bytes) : Emitted :=
  if plain = [] then e
  else
    match plainFrame? X plain with
    | some frame => { e with events := e.events ++ frameEvents frame }
    | none =>
      match utf8Push e.pending plain with
      | .ok r => ⟨r.pending, e.events ++ r.texts.flatMap (textEvents X)⟩
      | .error _ => e

def emitted (plains : List Bytes) : Emitted := plains.foldl (emitStep X) ⟨[], []⟩

/-- The aggregate of a body that is read to its end. -/
def aggregateOf (plains : List Bytes) : Except ApiError AggregatedCompletion :=
  plains.foldlM (appendPlainToAggregate X) .empty

/-- The tool calls of an aggregate, each with its index. -/
def indexedCalls (agg : AggregatedCompletion) : Json :=
  .array (agg.toolCalls.mapIdx fun i tc => tc.set "index" (.number (.posInt i)))

/-- The events of `emit_aggregated_completion_as_sse`. -/
def aggregateEvents (agg : AggregatedCompletion) : List Event :=
  (if agg.content = [] then [] else [⟨.object [("content", .string agg.content)], none⟩]) ++
  (if agg.toolCalls = [] then [] else [⟨outDelta (.object [("tool_calls", indexedCalls agg)]), none⟩]) ++
  ((agg.finishReason.or (if agg.toolCalls = [] then none else some "tool_calls")).toList.map fun fr =>
    ⟨.object [], some fr⟩)

/-- The events of the whole answer to some plaintexts. -/
def AnswerEvents (contentType : Str) (plains : List Bytes) (events : List Event) : Prop :=
  if isStreamed contentType then events = closed (emitted X plains).events
  else ∃ agg, aggregateOf X plains = .ok agg ∧ events = closed (aggregateEvents agg)

end Chunks

section Loop

variable {X : Crates} {sink : Sink} {O : Ope} {enc : EncryptedOpeRequest O}

lemma emitted_snoc (plains : List Bytes) (plain : Bytes) :
    emitted X (plains ++ [plain]) = emitStep X (emitted X plains) plain := by
  rw [emitted, List.foldl_append]
  rfl

lemma emitStep_cut {e : Emitted} (h : CutChar e.pending) (plain : Bytes) : CutChar (emitStep X e plain).pending := by
  unfold emitStep
  split
  · exact h
  · cases plainFrame? X plain with
    | some frame => exact h
    | none =>
      rcases utf8Push_spec e.pending plain with ⟨r, hr, -, hcut⟩ | ⟨err, herr, -⟩
      · dsimp only
        rw [hr]
        exact hcut
      · dsimp only
        rw [herr]
        exact h

lemma emitted_cut (plains : List Bytes) : CutChar (emitted X plains).pending := by
  induction plains using List.reverseRecOn with
  | nil => exact cutChar_nil
  | append_singleton plains plain ih =>
    rw [emitted_snoc]
    exact emitStep_cut ih plain

variable (X sink) in
/-- The bridge has written what it made of the chunks so far, and has counted it. -/
structure Follows (s : Bridge) : Prop where
  pending : s.pending = (emitted X s.delivered).pending
  out : s.out = (emitted X s.delivered).events.flatMap (Event.bytes X sink)
  sawFinish : s.sawFinish = (emitted X s.delivered).events.any Event.finishes
  counted : s.written = s.out.length

lemma Follows.start : Follows X sink .start := ⟨rfl, rfl, rfl, rfl⟩

lemma Follows.wrote {s : Bridge} (h : Follows X sink s) (plain pending : Bytes) {events : List Event}
    (hnext : emitStep X (emitted X s.delivered) plain = ⟨pending, (emitted X s.delivered).events ++ events⟩) :
    Follows X sink ({ s with delivered := s.delivered ++ [plain], pending := pending }.wrote X sink events) := by
  have hemitted : emitted X (s.delivered ++ [plain]) = ⟨pending, (emitted X s.delivered).events ++ events⟩ := by
    rw [emitted_snoc, hnext]
  refine ⟨?_, ?_, ?_, ?_⟩
  · dsimp only [Bridge.wrote]
    rw [hemitted]
  · dsimp only [Bridge.wrote]
    rw [hemitted, List.flatMap_append, h.out]
  · dsimp only [Bridge.wrote]
    rw [hemitted, List.any_append, h.sawFinish]
  · dsimp only [Bridge.wrote]
    rw [List.length_append, h.counted]

lemma Follows.deliver {s s' : Bridge} (h : Follows X sink s) {plain : Bytes}
    (hrun : (if plain = [] then pure () else processDecryptedPlaintext X sink plain)
      { s with delivered := s.delivered ++ [plain] } = (.ok (), s')) : Follows X sink s' := by
  by_cases hnil : plain = []
  · have hsame : Follows X sink (Bridge.wrote X sink _ []) := h.wrote plain s.pending (by
      rw [emitStep, if_pos hnil, List.append_nil, h.pending])
    rw [if_pos hnil] at hrun
    cases hrun
    rwa [wrote_nil] at hsame
  rw [if_neg hnil, processDecryptedPlaintext] at hrun
  cases hframe : plainFrame? X plain with
  | some frame =>
    rw [hframe] at hrun
    rw [(emits_emitOpenaiDeltaFrame frame).of_ok hrun]
    refine h.wrote plain s.pending ?_
    rw [emitStep, if_neg hnil, hframe, h.pending]
  | none =>
    rw [hframe] at hrun
    dsimp only at hrun
    rw [Op.get_bind] at hrun
    obtain ⟨r, hr, hrun⟩ := Op.lift_bind_eq_ok.mp hrun
    rw [Op.bind_run, Op.modify_run] at hrun
    rw [(emits_emitPieces r.texts).of_ok hrun]
    refine h.wrote plain r.pending ?_
    have hpush : utf8Push (emitted X s.delivered).pending plain = .ok r := by rw [← h.pending]; exact hr
    rw [emitStep, if_neg hnil, hframe]
    dsimp only
    rw [hpush]

lemma bridgeStep_follows {s s' : Bridge} {l : StreamLine} (h : Follows X sink s)
    (hrun : bridgeStep X sink enc l s = (.ok (), s')) : Follows X sink s' := by
  cases l with
  | other =>
    cases hrun
    exact h
  | share share =>
    cases hrun
    exact ⟨h.pending, h.out, h.sawFinish, h.counted⟩
  | chunk seq ct =>
    rw [bridgeStep, Op.get_bind] at hrun
    obtain ⟨plain, -, hrun⟩ := Op.lift_bind_eq_ok.mp hrun
    rw [Op.bind_run, Op.modify_run] at hrun
    exact h.deliver hrun

lemma bridgeLoop_follows {s s' : Bridge} {lines : List Bytes} (h : Follows X sink s)
    (hrun : bridgeLoop X sink enc lines s = (.ok (), s')) : Follows X sink s' := by
  induction lines generalizing s with
  | nil =>
    cases hrun
    exact h
  | cons line lines ih =>
    obtain ⟨text, -, hrun⟩ := Op.lift_bind_eq_ok.mp hrun
    obtain ⟨_, s₁, hstep, hrest⟩ := Op.bind_eq_ok.mp hrun
    exact ih (bridgeStep_follows h hstep) hrest

lemma emitTail_follows {s s' : Bridge} (h : Follows X sink s) (hrun : emitTail X sink s = (.ok (), s')) : s' = s := by
  rw [emitTail, Op.get_bind] at hrun
  obtain ⟨tail, htail, hrun⟩ := Op.lift_bind_eq_ok.mp hrun
  have hcut : CutChar s.pending := h.pending ▸ emitted_cut s.delivered
  by_cases hnil : s.pending = []
  · rw [hnil] at htail
    cases htail
    cases hrun
    rfl
  · obtain ⟨e, he⟩ := utf8Finish_cut hcut hnil
    cases htail.symm.trans he

end Loop

section Aggregate

variable {X : Crates} {sink : Sink} {O : Ope} {enc : EncryptedOpeRequest O}

/-- The aggregate is that of the plaintexts so far. -/
def Buffered.Sums (X : Crates) (st : Buffered) : Prop := aggregateOf X st.delivered = .ok st.agg

lemma Buffered.Sums.append {st st' : Buffered} {plain : Bytes} (h : st.Sums X) (happ : st.append X plain = .ok st') :
    st'.Sums X := by
  obtain ⟨agg, hagg, hst⟩ := bind_eq_ok.mp happ
  cases hst
  unfold Buffered.Sums aggregateOf
  rw [List.foldlM_append, show st.delivered.foldlM (appendPlainToAggregate X) .empty = .ok st.agg from h, ok_bind,
    List.foldlM_cons, hagg]
  rfl

lemma ndjsonStep_sums {st st' : Buffered} {l : StreamLine} (hstep : ndjsonStep X enc st l = .ok st')
    (h : st.Sums X) : st'.Sums X := by
  cases l with
  | other =>
    cases hstep
    exact h
  | share share =>
    cases hstep
    exact h
  | chunk seq ct =>
    obtain ⟨plain, -, happ⟩ := bind_eq_ok.mp hstep
    exact h.append happ

lemma chunkStep_sums {st st' : Buffered} {c : Json × Nat} (hstep : chunkStep X enc st c = .ok st')
    (h : st.Sums X) : st'.Sums X := by
  obtain ⟨ct, -, hstep⟩ := bind_eq_ok.mp hstep
  obtain ⟨plain, -, happ⟩ := bind_eq_ok.mp hstep
  exact h.append happ

lemma decryptOpeBody_sums {raw : Bytes} {contentType : Str} {d : Buffered}
    (h : decryptOpeBodyToCompletion X enc raw contentType = .ok d) : d.Sums X := by
  have hstart : ∀ share, (Buffered.start share).Sums X := fun _ => rfl
  unfold decryptOpeBodyToCompletion at h
  split at h
  · exact foldlM_inv (I := Buffered.Sums X) (fun _ _ _ hstep hs => ndjsonStep_sums hstep hs) h (hstart [])
  · obtain ⟨v, -, h⟩ := bind_eq_ok.mp h
    obtain ⟨share, -, h⟩ := bind_eq_ok.mp h
    exact foldlM_inv (I := Buffered.Sums X) (fun _ _ _ hstep hs => chunkStep_sums hstep hs) h (hstart share)

lemma emits_emitAggregated (agg : AggregatedCompletion) :
    Emits X sink (emitAggregatedCompletionAsSse X sink agg) (aggregateEvents agg) := by
  unfold emitAggregatedCompletionAsSse aggregateEvents
  rw [List.append_assoc]
  refine Emits.seq ?_ (Emits.seq ?_ ?_)
  · split_ifs with hcontent
    · exact Emits.none
    · change Emits X sink (writeSse sink _) _
      rw [openaiSseDelta, if_neg hcontent]
      exact emits_writeSse _
  · split_ifs with hcalls
    · exact Emits.none
    · rw [openaiSseFromStructuredDelta, if_neg (fun hempty => List.cons_ne_nil _ _ hempty.1)]
      exact emits_writeSse _
  · cases agg.finishReason.or (if agg.toolCalls = [] then none else some "tool_calls") with
    | none => exact Emits.none
    | some fr =>
      intro s
      have hnoted := emits_noted X sink (.object []) (some fr) s
      rw [Op.bind_run, Op.modify_run, Option.isSome_some, Bool.or_true] at hnoted
      exact hnoted

end Aggregate

section Split

variable {X : Crates} {sink : Sink}

variable (X sink) in
/-- An event as it stands between blank lines. -/
def Event.block (e : Event) : Bytes :=
  utf8 ("data: ".toList ++ X.json.valueText (chunkTree sink.id sink.model e.delta e.finish))

lemma Event.bytes_eq (e : Event) : e.bytes X sink = e.block X sink ++ [10, 10] := by
  rw [Event.bytes, utf8_append]
  rfl

variable (hjson : X.json.OneLine)

include hjson

lemma Event.block_oneLine (e : Event) : 10 ∉ e.block X sink ∧ 13 ∉ e.block X sink := by
  obtain ⟨hlf, hcr⟩ := hjson (chunkTree sink.id sink.model e.delta e.finish)
  constructor
  · intro hmem
    rcases List.mem_append.mp (newline_mem_utf8 hmem) with hdata | htext
    · revert hdata
      decide
    · exact hlf htext
  · intro hmem
    rcases List.mem_append.mp (ascii_mem_utf8 (b := 13) (by decide) hmem) with hdata | htext
    · revert hdata
      decide
    · exact hcr htext

lemma blankSplit_sse (events : List Event) :
    blankSplit (sse X sink events) = events.map (Event.block X sink) ++ [utf8 "data: [DONE]", []] := by
  have hflat : events.flatMap (Event.bytes X sink) = (events.map (Event.block X sink)).flatMap (· ++ [10, 10]) := by
    rw [List.flatMap_map]
    exact congrArg (fun f => events.flatMap f) (funext Event.bytes_eq)
  have hlines : ∀ l ∈ events.map (Event.block X sink), 10 ∉ l := by
    intro l hl
    obtain ⟨e, -, rfl⟩ := List.mem_map.mp hl
    exact (e.block_oneLine hjson).1
  rw [sse, hflat, blankSplit_flatMap hlines]
  rfl

lemma cr_notMem_sse (events : List Event) : 13 ∉ sse X sink events := by
  rw [sse, List.mem_append, List.mem_flatMap]
  rintro (⟨e, -, hmem⟩ | hmem)
  · rw [e.bytes_eq, List.mem_append] at hmem
    rcases hmem with hblock | hend
    · exact (e.block_oneLine hjson).2 hblock
    · revert hend
      decide
  · revert hmem
    decide

end Split

lemma exists_finish_closed (events : List Event) : ∃ e ∈ closed events, e.finishes = true := by
  unfold closed
  split_ifs with h
  · exact List.any_eq_true.mp h
  · exact ⟨⟨.object [], some "stop"⟩, List.mem_append_right _ (List.mem_singleton_self _), rfl⟩

section Bridge

variable {X : Crates} {sink : Sink} {O : Ope} {enc : EncryptedOpeRequest O} {reader : Reader} {contentType : Str}

lemma bridgeBody_events {s : Bridge} (h : bridgeBody X sink enc reader contentType .start = (.ok (), s)) :
    ∃ events, AnswerEvents X contentType s.delivered (closed events) ∧
      s.out = events.flatMap (Event.bytes X sink) ∧ s.sawFinish = events.any Event.finishes ∧
      s.written = s.out.length := by
  unfold bridgeBody at h
  unfold AnswerEvents
  split at h
  · next hct =>
    obtain ⟨_, s₁, hloop, h⟩ := Op.bind_eq_ok.mp h
    obtain ⟨_, -, h⟩ := Op.lift_bind_eq_ok.mp h
    have hfollows := bridgeLoop_follows Follows.start hloop
    obtain rfl := emitTail_follows hfollows h
    refine ⟨(emitted X s.delivered).events, ?_, hfollows.out, hfollows.sawFinish, hfollows.counted⟩
    rw [if_pos hct]
  · next hct =>
    obtain ⟨_, -, h⟩ := Op.lift_bind_eq_ok.mp h
    obtain ⟨body, hbody, h⟩ := Op.lift_bind_eq_ok.mp h
    rw [Op.bind_run, Op.modify_run] at h
    rw [(emits_emitAggregated body.agg).of_ok h]
    refine ⟨aggregateEvents body.agg, ?_, List.nil_append _, Bool.false_or _, ?_⟩
    · rw [if_neg hct]
      exact ⟨body.agg, decryptOpeBody_sums hbody, rfl⟩
    · dsimp only [Bridge.wrote, Bridge.start]
      rw [List.nil_append, Nat.zero_add]

/-- **No answer of the engine breaks the framing.**  The answer of a bridge that succeeds, split at blank lines, is the
events of the plaintexts in their order and then `data: [DONE]`, and it holds no other line break.  One of the events
gives a finish reason, and the count that is returned is that of the octets written. -/
theorem sse_framed (hjson : X.json.OneLine) {n : Nat} {s : Bridge}
    (h : bridgeOpeToOpenaiSse X sink enc reader contentType .start = (.ok n, s)) :
    ∃ events : List Event, AnswerEvents X contentType s.delivered events ∧
      blankSplit s.out = events.map (Event.block X sink) ++ [utf8 "data: [DONE]", []] ∧ 13 ∉ s.out ∧
      (∃ e ∈ events, ∃ reason, answerFinish (chunkTree sink.id sink.model e.delta e.finish) = some reason) ∧
      n = s.out.length := by
  obtain ⟨_, s₁, hbody, h⟩ := Op.bind_eq_ok.mp h
  obtain ⟨_, s₂, hclose, h⟩ := Op.bind_eq_ok.mp h
  cases h
  obtain ⟨events, hevents, hout, hsaw, hcount⟩ := bridgeBody_events hbody
  rcases bridgeClose_spec X sink s₁ with ⟨s', hclose', hdelivered, hcounted, hsse⟩ | ⟨-, e, s', he⟩
  · cases hclose.symm.trans hclose'
    have hanswer := hsse events hout hsaw
    refine ⟨closed events, hdelivered ▸ hevents, ?_, ?_, ?_, hcounted hcount⟩
    · rw [hanswer, blankSplit_sse hjson]
    · rw [hanswer]
      exact cr_notMem_sse hjson _
    · obtain ⟨e, he, hfinishes⟩ := exists_finish_closed events
      obtain ⟨reason, hreason⟩ := Option.isSome_iff_exists.mp hfinishes
      refine ⟨e, he, reason, ?_⟩
      rw [hreason]
      rfl
  · cases hclose.symm.trans he

end Bridge

open Sample in
/-- Two chunks of text. -/
theorem sse_framed_sample : ∃ n s, bridged inOrderBody = (.ok n, s) ∧
    ∃ events : List Event, AnswerEvents streamTables.crates "application/ope+json-stream" s.delivered events ∧
      blankSplit s.out = events.map (Event.block streamTables.crates streamSink) ++ [utf8 "data: [DONE]", []] ∧
      13 ∉ s.out ∧
      (∃ e ∈ events, ∃ reason,
        answerFinish (chunkTree streamSink.id streamSink.model e.delta e.finish) = some reason) ∧
      n = s.out.length := by
  obtain ⟨n, s, h, -⟩ := bridged_inOrder
  exact ⟨n, s, h, sse_framed streamTables.oneLine h⟩

end TeechatOpenapi.Cvm
