import Mathlib.Order.Bounds.Basic
import TeechatOpenapi.Cvm.Events
import TeechatOpenapi.Lib.Slots

/-!
# Merged tool calls (`openapi-platform-cvm/src/ope_upstream.rs`)

The engine sends tool calls in pieces, each with the index of its call.
-/

namespace TeechatOpenapi.Cvm

open Lib TeechatOpenapi.Core

/-- The index a piece gives. -/
def deltaIndex? (d : Json) : Option Nat := (d.get? "index").bind Json.asU64?

/-- The `function` of a piece, when it is an object. -/
def deltaFunction? (d : Json) : Option Json := (d.get? "function").filter fun f => f.asObject?.isSome

/-- The fragment of the arguments in a piece. -/
def deltaArguments (d : Json) : Str := ((deltaFunction? d).bind (·.getStr? "arguments")).getD []

/-- The name in a piece that is not empty. -/
def deltaName? (d : Json) : Option Str := ((deltaFunction? d).bind (·.getStr? "name")).filter (· ≠ [])

/-- The id in a piece that is not `null`. -/
def deltaId? (d : Json) : Option Json := present d "id"

/-- A tool call: its id, its name and its arguments. -/
structure ToolCall where
  id : Option Json
  name : Str
  arguments : Str

namespace ToolCall

def empty : ToolCall := ⟨none, [], []⟩

/-- A piece more: it may replace the id and the name, and adds to the arguments. -/
def absorb (c : ToolCall) (d : Json) : ToolCall :=
  ⟨(deltaId? d).or c.id, (deltaName? d).getD c.name, c.arguments ++ deltaArguments d⟩

end ToolCall

/-- A slot's `function` says the name and the arguments; before the first piece there is none. -/
inductive ShowsFunction : Option Json → Str → Str → Prop where
  | none : ShowsFunction none [] []
  | some {func : Json} {name arguments : Str} (object : func.asObject?.isSome)
      (hname : func.get? "name" = some (.string name)) (harguments : func.get? "arguments" = some (.string arguments)) :
      ShowsFunction (some func) name arguments

/-- A slot says what a tool call is. -/
structure Shows (slot : Json) (c : ToolCall) : Prop where
  object : slot.asObject?.isSome
  id : slot.get? "id" = c.id
  function : ShowsFunction (slot.get? "function") c.name c.arguments

lemma Shows.empty : Shows (.object []) .empty := ⟨rfl, rfl, .none⟩

lemma get?_setMissing {j : Json} (hj : j.asObject?.isSome) (key key' : Str) (x : Json) :
    (setMissing j key x).asObject?.isSome ∧
      (setMissing j key x).get? key' = if key = key' then (j.get? key').or (some x) else j.get? key' := by
  unfold setMissing
  by_cases hnone : (j.get? key).isNone
  · rw [if_pos hnone]
    obtain ⟨hobject, hget⟩ := get?_setSome hj key key' (some x)
    refine ⟨hobject, hget.trans ?_⟩
    split_ifs with hkey
    · rw [← hkey, Option.isNone_iff_eq_none.mp hnone]
      rfl
    · rfl
  · rw [if_neg hnone]
    refine ⟨hj, ?_⟩
    split_ifs with hkey
    · rw [← hkey]
      cases hget : j.get? key with
      | none => exact absurd (by rw [hget]; rfl) hnone
      | some v => rfl
    · rfl

/-- A member that is a text, or not there and the text is empty. -/
def TextOrAbsent (v : Option Json) (t : Str) : Prop := v = some (.string t) ∨ v = none ∧ t = []

namespace TextOrAbsent

variable {v : Option Json} {t : Str}

lemma or_empty (h : TextOrAbsent v t) : v.or (some (.string [])) = some (.string t) := by
  rcases h with rfl | ⟨rfl, rfl⟩ <;> rfl

end TextOrAbsent

/-- An object with a name and arguments, each of which may still be missing. -/
structure IsPartialCall (func : Json) (name arguments : Str) : Prop where
  object : func.asObject?.isSome
  name : TextOrAbsent (func.get? "name") name
  arguments : TextOrAbsent (func.get? "arguments") arguments

namespace IsPartialCall

variable {func : Json} {name arguments : Str}

lemma name_ne_arguments : ("name".toList : Str) ≠ "arguments" := by decide

lemma filled (h : IsPartialCall func name arguments) :
    ShowsFunction (some (setMissing (setMissing func "name" (.string [])) "arguments" (.string []))) name
      arguments := by
  have hget := fun key => get?_setMissing h.object "name" key (.string [])
  have hboth := fun key => get?_setMissing (hget "name").1 "arguments" key (.string [])
  refine .some (hboth "name").1 ?_ ?_
  · rw [(hboth "name").2, if_neg name_ne_arguments.symm, (hget "name").2, if_pos rfl]
    exact h.name.or_empty
  · rw [(hboth "arguments").2, if_pos rfl, (hget "arguments").2, if_neg name_ne_arguments]
    exact h.arguments.or_empty

end IsPartialCall

/-- The slot a piece goes to: the one it names, or a new one behind the others. -/
def slotNamed (into : List Json) (d : Json) : Nat := (deltaIndex? d).getD into.length

lemma mergeDelta_eq (into : List Json) (d : Json) :
    mergeDelta into d = touch (.object []) into (slotNamed into d) (mergeSlot · d) := rfl

lemma length_mergeDelta (into : List Json) (d : Json) :
    (mergeDelta into d).length = max into.length (slotNamed into d + 1) := by
  rw [mergeDelta_eq, length_touch]

lemma mergeToolCallDeltas_append (into a b : List Json) :
    mergeToolCallDeltas into (a ++ b) = mergeToolCallDeltas (mergeToolCallDeltas into a) b := List.foldl_append

lemma length_merge_snoc (before : List Json) (d : Json) :
    (mergeToolCallDeltas [] (before ++ [d])).length =
      max (mergeToolCallDeltas [] before).length (slotNamed (mergeToolCallDeltas [] before) d + 1) := by
  rw [mergeToolCallDeltas_append]
  exact length_mergeDelta _ d

/-- How the pieces are spread over calls makes no difference. -/
lemma foldl_mergeToolCallDeltas (into : List Json) (calls : List (List Json)) :
    calls.foldl mergeToolCallDeltas into = mergeToolCallDeltas into calls.flatten := by
  induction calls generalizing into with
  | nil => rfl
  | cons call calls ih => rw [List.foldl_cons, ih, List.flatten_cons, mergeToolCallDeltas_append]

lemma foldl_frames_toolCalls (agg : AggregatedCompletion) (frames : List Json) :
    (frames.foldl applyOpenaiDeltaFrame agg).toolCalls =
      (frames.map frameToolCalls).foldl mergeToolCallDeltas agg.toolCalls := by
  induction frames generalizing agg with
  | nil => rfl
  | cons frame frames ih =>
    rw [List.foldl_cons, ih, applyOpenaiDeltaFrame_eq]
    rfl

section Indexed

variable {ds : List Json} (hindex : ∀ d ∈ ds, ∃ i, deltaIndex? d = some i)

include hindex

end Indexed

namespace Sample

end Sample

/-- The tool calls in the message of a completion. -/
def answerToolCalls (answer : Json) : List Json :=
  ((((firstOf answer "choices").bind (·.get? "message")).bind (·.get? "tool_calls")).bind Json.asArray?).getD []

lemma length_answerToolCalls (id model : Str) (agg : AggregatedCompletion) (promptTokens completionTokens : Nat) :
    (answerToolCalls (openaiChatCompletionJson id model agg promptTokens completionTokens)).length =
      agg.toolCalls.length := by
  have hmessage : answerToolCalls (openaiChatCompletionJson id model agg promptTokens completionTokens) =
      (((messageTree agg).get? "tool_calls").bind Json.asArray?).getD [] := rfl
  rw [hmessage, messageTree]
  by_cases hcalls : agg.toolCalls = []
  · rw [if_pos hcalls, hcalls]
    rfl
  · rw [if_neg hcalls]
    exact List.length_mapIdx

/-- One of the pieces went to the slot. -/
def Received (ds : List Json) (i : Nat) : Prop :=
  ∃ before d after, ds = before ++ d :: after ∧ slotNamed (mergeToolCallDeltas [] before) d = i

/-- Every call of the answer has a piece, and at no time are there more slots than pieces came. -/
structure PhantomFree (frames : List Json) : Prop where
  received : ∀ id model promptTokens completionTokens i,
    i < (answerToolCalls (openaiChatCompletionJson id model (frames.foldl applyOpenaiDeltaFrame .empty) promptTokens
      completionTokens)).length → Received (frames.flatMap frameToolCalls) i
  bounded : ∀ before after, frames.flatMap frameToolCalls = before ++ after →
    (mergeToolCallDeltas [] before).length ≤ before.length

lemma length_le_merge (into ds : List Json) : into.length ≤ (mergeToolCallDeltas into ds).length := by
  induction ds generalizing into with
  | nil => exact le_refl _
  | cons d ds ih =>
    refine le_trans ?_ (ih (mergeDelta into d))
    rw [length_mergeDelta]
    exact le_max_left _ _

/-- No index runs ahead: it is at most the number of pieces before it, and every smaller one has a piece too. -/
def NoGaps (ds : List Json) : Prop :=
  ∀ before d after i, ds = before ++ d :: after → deltaIndex? d = some i →
    i ≤ before.length ∧ ∀ j < i, Received ds j

lemma NoGaps.bounded {ds : List Json} (h : NoGaps ds) {before after : List Json} (hds : ds = before ++ after) :
    (mergeToolCallDeltas [] before).length ≤ before.length := by
  induction before using List.reverseRecOn generalizing after with
  | nil => exact le_refl 0
  | append_singleton before d ih =>
    have hds' : ds = before ++ d :: after := by rw [hds, List.append_assoc]; rfl
    have hle := ih hds'
    rw [length_merge_snoc, List.length_append, List.length_singleton, slotNamed]
    cases hi : deltaIndex? d with
    | none =>
      rw [Option.getD_none]
      omega
    | some i =>
      have := (h before d after i hds' hi).1
      rw [Option.getD_some]
      omega

lemma NoGaps.received {ds : List Json} (h : NoGaps ds) {before after : List Json} (hds : ds = before ++ after)
    {j : Nat} (hj : j < (mergeToolCallDeltas [] before).length) : Received ds j := by
  induction before using List.reverseRecOn generalizing after with
  | nil => exact absurd hj (Nat.not_lt_zero j)
  | append_singleton before d ih =>
    have hds' : ds = before ++ d :: after := by rw [hds, List.append_assoc]; rfl
    rw [length_merge_snoc, lt_max_iff, Nat.lt_succ_iff] at hj
    rcases hj with hold | hnew
    · exact ih hds' hold
    rcases Nat.eq_or_lt_of_le hnew with heq | hlt
    · exact ⟨before, d, after, hds', heq.symm⟩
    cases hi : deltaIndex? d with
    | none =>
      rw [slotNamed, hi, Option.getD_none] at hlt
      exact ih hds' hlt
    | some i =>
      rw [slotNamed, hi, Option.getD_some] at hlt
      exact (h before d after i hds' hi).2 j hlt

/-- **When no call is made up.**  Every call of the answer has a piece, and the slots never outnumber the pieces,
exactly when no piece names an index that runs ahead of the pieces before it or leaves out a smaller one. -/
theorem phantom_free_iff (frames : List Json) : PhantomFree frames ↔ NoGaps (frames.flatMap frameToolCalls) := by
  have hcalls : (frames.foldl applyOpenaiDeltaFrame .empty).toolCalls =
      mergeToolCallDeltas [] (frames.flatMap frameToolCalls) := by
    rw [foldl_frames_toolCalls, foldl_mergeToolCallDeltas, List.flatMap_def]
    rfl
  constructor
  · intro h before d after i hds hi
    have hsplit : frames.flatMap frameToolCalls = (before ++ [d]) ++ after := by rw [hds, List.append_assoc]; rfl
    have hslot : slotNamed (mergeToolCallDeltas [] before) d = i := by rw [slotNamed, hi]; rfl
    refine ⟨?_, ?_⟩
    · have hle := h.bounded (before ++ [d]) after hsplit
      rw [length_merge_snoc, hslot, List.length_append, List.length_singleton] at hle
      omega
    · intro j hj
      refine h.received [] [] 0 0 j ?_
      rw [length_answerToolCalls, hcalls, hsplit, mergeToolCallDeltas_append]
      have hgrows := length_le_merge (mergeToolCallDeltas [] (before ++ [d])) after
      have hlast := length_merge_snoc before d
      rw [hslot] at hlast
      omega
  · intro h
    refine ⟨?_, ?_⟩
    · intro id model promptTokens completionTokens i hi
      rw [length_answerToolCalls, hcalls] at hi
      exact h.received (List.append_nil _).symm hi
    · intro before after hds
      exact h.bounded hds

namespace Sample

def gapFrame : Json :=
  .object [("type", .string "openai_delta"), ("choices", .array [.object [("delta", .object [("tool_calls",
    .array [.object [("index", .number (.posInt 5))]])])]])]

end Sample

open Sample in
/-- One piece with index 5 makes six slots, and six calls in the answer: five of them no piece went to. -/
theorem phantom_tool_calls :
    (mergeToolCallDeltas [] (frameToolCalls gapFrame)).length = 6 ∧ (frameToolCalls gapFrame).length = 1 ∧
    (answerToolCalls (openaiChatCompletionJson [] [] ([gapFrame].foldl applyOpenaiDeltaFrame .empty) 0 0)).length = 6 ∧
    ¬ Received ([gapFrame].flatMap frameToolCalls) 0 ∧ ¬ PhantomFree [gapFrame] := by
  have hlength : (mergeToolCallDeltas [] (frameToolCalls gapFrame)).length = 6 := rfl
  refine ⟨hlength, rfl, rfl, ?_, ?_⟩
  · rintro ⟨before, d, after, hds, hslot⟩
    have hone : [gapFrame].flatMap frameToolCalls = [.object [("index", .number (.posInt 5))]] := rfl
    rw [hone] at hds
    cases before with
    | nil =>
      cases hds
      cases hslot
    | cons b before =>
      have hmore := congrArg List.length hds
      simp only [List.length_append, List.length_cons, List.length_nil] at hmore
      omega
  · intro h
    have hle := h.bounded (frameToolCalls gapFrame) [] rfl
    rw [hlength] at hle
    exact absurd hle (by decide)

end TeechatOpenapi.Cvm
