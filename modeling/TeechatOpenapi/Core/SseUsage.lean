import TeechatOpenapi.CrateTables
import TeechatOpenapi.Lib.Draining

/-!
# Usage in an event stream (`openapi-core/src/sse_usage.rs`)

A writer passes on what it is given and looks for `usage` in the events that go through it.  An event ends with a blank
line.
-/

namespace TeechatOpenapi.Core

open Lib

def usageFromValue (v : Json) : Option (Nat × Nat) := do
  let usage ← v.get? "usage"
  let prompt := (((usage.get? "prompt_tokens").or (usage.get? "input_tokens")).bind Json.asU64?).getD 0
  let completion := (((usage.get? "completion_tokens").or (usage.get? "output_tokens")).bind Json.asU64?).getD 0
  return (prompt, completion)

/-- The payloads of the `data:` lines; none when one of them is `[DONE]`. -/
def dataLines : List Str → Option (List Str)
  | [] => some []
  | line :: more =>
    match stripPrefix line "data:" with
    | some rest => if trim rest = "[DONE]".toList then none else (dataLines more).map (trim rest :: ·)
    | none => dataLines more

def usageFromSseEvent (X : Crates) (event : Bytes) : Option (Nat × Nat) := do
  let text ← toOption (fromUtf8 event)
  let payloads ← dataLines (lines text)
  if payloads = [] then none
  else
    let v ← toOption (X.json.value (utf8 (['\n'].intercalate payloads)))
    usageFromValue v

def findEventEnd : Bytes → Option Nat
  | 10 :: 10 :: _ => some 2
  | _ :: rest => (findEventEnd rest).map (· + 1)
  | [] => none

lemma findEventEnd_le {b : Bytes} {n : Nat} (h : findEventEnd b = some n) : 0 < n ∧ n ≤ b.length := by
  fun_induction findEventEnd b generalizing n with
  | case1 rest =>
    obtain rfl := Option.some.inj h
    exact ⟨by decide, by simp⟩
  | case2 x rest hne ih =>
    obtain ⟨m, hm, rfl⟩ := Option.map_eq_some_iff.mp h
    exact ⟨Nat.succ_pos m, Nat.succ_le_succ (ih hm).2⟩
  | case3 => cases h

lemma findEventEnd_append {b : Bytes} {n : Nat} (h : findEventEnd b = some n) (more : Bytes) :
    findEventEnd (b ++ more) = some n := by
  fun_induction findEventEnd b generalizing n with
  | case1 rest => exact h
  | case2 x rest hne ih =>
    obtain ⟨m, hm, rfl⟩ := Option.map_eq_some_iff.mp h
    cases rest with
    | nil => cases hm
    | cons y rest =>
      have hfront : findEventEnd (x :: ((y :: rest) ++ more)) = (findEventEnd ((y :: rest) ++ more)).map (· + 1) := by
        rw [findEventEnd]
        rintro z rfl heq
        exact hne rest rfl (by rw [(List.cons.inj heq).1])
      rw [List.cons_append, hfront, ih hm]
      rfl
  | case3 => cases h

/-- An event is taken from the front of the buffer. -/
def eventCutter : Cutter UInt8 where
  cut b := (findEventEnd b).map fun n => (b.take n, b.drop n)
  shorter := by
    intro b item rest h
    obtain ⟨n, hn, hparts⟩ := Option.map_eq_some_iff.mp h
    obtain ⟨hpos, hle⟩ := findEventEnd_le hn
    rw [← (Prod.mk.inj hparts).2, List.length_drop]
    omega
  stable := by
    intro b item rest h more
    obtain ⟨n, hn, hparts⟩ := Option.map_eq_some_iff.mp h
    obtain ⟨rfl, rfl⟩ := Prod.mk.inj hparts
    have hle := (findEventEnd_le hn).2
    rw [findEventEnd_append hn more, Option.map_some, List.take_append_of_le_length hle,
      List.drop_append_of_le_length hle]

/-- A writer (`std::io::Write`): what it has taken, to which `write_all` adds what it is given when it succeeds. -/
structure Writer (W : Type) where
  writeAll : Bytes → Op W Str Unit
  written : W → Bytes
  writeAll_ok : ∀ {buf w w'}, writeAll buf w = (.ok (), w') → written w' = written w ++ buf

/-- What the accumulator has seen. -/
structure SseUsage where
  promptTokens : Nat
  completionTokens : Nat
  sawUsage : Bool

/-- A writer that passes on an event stream and looks for its usage. -/
structure SseUsageAccumulator (W : Type) where
  inner : W
  buf : Bytes
  seen : SseUsage

section Accumulator

variable {W : Type} (X : Crates) (O : Writer W)

def SseUsageAccumulator.new (inner : W) : SseUsageAccumulator W := ⟨inner, [], ⟨0, 0, false⟩⟩

/-- What an event changes. -/
def SseUsage.afterEvent (seen : SseUsage) (event : Bytes) : SseUsage :=
  match usageFromSseEvent X event with
  | some (p, c) => ⟨p, c, true⟩
  | none => seen

def absorb (chunk : Bytes) (acc : SseUsageAccumulator W) : SseUsageAccumulator W :=
  let (seen, buf) := drain eventCutter (SseUsage.afterEvent X) acc.seen (acc.buf ++ chunk)
  { acc with buf, seen }

def SseUsageAccumulator.writeAll (buf : Bytes) : Op (SseUsageAccumulator W) Str Unit := do
  Op.on SseUsageAccumulator.inner (fun inner acc => { acc with inner }) (O.writeAll buf)
  Op.modify (absorb X buf)

/-- A writer is given chunks one after the other. -/
def Writer.writeAlls (chunks : List Bytes) : Op W Str Unit := chunks.forM O.writeAll

/-- The accumulator is given chunks one after the other. -/
def SseUsageAccumulator.writeAlls (chunks : List Bytes) : Op (SseUsageAccumulator W) Str Unit :=
  chunks.forM (SseUsageAccumulator.writeAll X O)

variable {O}

lemma Writer.writeAlls_cons {chunk : Bytes} {chunks : List Bytes} {w w' : W}
    (h : O.writeAlls (chunk :: chunks) w = (.ok (), w')) :
    ∃ w₁, O.writeAll chunk w = (.ok (), w₁) ∧ O.writeAlls chunks w₁ = (.ok (), w') := by
  obtain ⟨u, w₁, hone, hrest⟩ := Op.bind_eq_ok.mp h
  exact ⟨w₁, hone, hrest⟩

lemma Writer.written_writeAlls {chunks : List Bytes} {w w' : W} (h : O.writeAlls chunks w = (.ok (), w')) :
    O.written w' = O.written w ++ chunks.flatten := by
  induction chunks generalizing w with
  | nil =>
    cases h
    rw [List.flatten_nil, List.append_nil]
  | cons chunk chunks ih =>
    obtain ⟨w₁, hone, hrest⟩ := Writer.writeAlls_cons h
    rw [ih hrest, O.writeAll_ok hone, List.flatten_cons, List.append_assoc]

/-- **A run of the accumulator**: the writer behind it is given the same chunks, and its buffer is fed them. -/
theorem SseUsageAccumulator.writeAlls_run {chunks : List Bytes} {w w' : W} (h : O.writeAlls chunks w = (.ok (), w'))
    (buf : Bytes) (seen : SseUsage) :
    SseUsageAccumulator.writeAlls X O chunks ⟨w, buf, seen⟩ =
      (.ok (), ⟨w', (chunks.foldl (feed eventCutter (SseUsage.afterEvent X)) (seen, buf)).2,
        (chunks.foldl (feed eventCutter (SseUsage.afterEvent X)) (seen, buf)).1⟩) := by
  induction chunks generalizing w buf seen with
  | nil =>
    cases h
    rfl
  | cons chunk chunks ih =>
    obtain ⟨w₁, hone, hrest⟩ := Writer.writeAlls_cons h
    have hwrite : SseUsageAccumulator.writeAll X O chunk ⟨w, buf, seen⟩ = (.ok (), absorb X chunk ⟨w₁, buf, seen⟩) := by
      refine Op.bind_eq_ok.mpr ⟨(), ⟨w₁, buf, seen⟩, ?_, rfl⟩
      rw [Op.on, hone]
    exact Op.bind_eq_ok.mpr ⟨(), _, hwrite, ih hrest _ _⟩

end Accumulator

/-- **Where the stream is cut does not matter**: two ways to write the same octets through the accumulator pass them on
as they are, and leave the same counts, the same flag and the same rest in the buffer. -/
theorem sse_usage_segmentation {W : Type} (X : Crates) (O : Writer W) (inner : W) (chunks chunks' : List Bytes)
    (hsame : chunks.flatten = chunks'.flatten) (htaken : (O.writeAlls chunks inner).1 = .ok ())
    (htaken' : (O.writeAlls chunks' inner).1 = .ok ()) :
    ∃ acc acc', SseUsageAccumulator.writeAlls X O chunks (.new inner) = (.ok (), acc) ∧
      SseUsageAccumulator.writeAlls X O chunks' (.new inner) = (.ok (), acc') ∧
      O.written acc.inner = O.written inner ++ chunks.flatten ∧
      O.written acc'.inner = O.written inner ++ chunks.flatten ∧ acc.seen = acc'.seen ∧ acc.buf = acc'.buf := by
  have hrun : O.writeAlls chunks inner = (.ok (), (O.writeAlls chunks inner).2) := Prod.ext htaken rfl
  have hrun' : O.writeAlls chunks' inner = (.ok (), (O.writeAlls chunks' inner).2) := Prod.ext htaken' rfl
  have hempty : eventCutter.cut [] = none := rfl
  have hfeed (pieces : List Bytes) :
      pieces.foldl (feed eventCutter (SseUsage.afterEvent X)) (⟨0, 0, false⟩, []) =
        drain eventCutter (SseUsage.afterEvent X) ⟨0, 0, false⟩ pieces.flatten := feed_eq hempty pieces
  refine ⟨_, _, SseUsageAccumulator.writeAlls_run X hrun [] ⟨0, 0, false⟩,
    SseUsageAccumulator.writeAlls_run X hrun' [] ⟨0, 0, false⟩, Writer.written_writeAlls hrun, ?_, ?_, ?_⟩
  · rw [hsame]
    exact Writer.written_writeAlls hrun'
  · rw [hfeed, hfeed, hsame]
  · rw [hfeed, hfeed, hsame]

/-- `Vec<u8>` as a writer. -/
def vecWriter : Writer Bytes where
  writeAll buf := Op.modify (· ++ buf)
  written w := w
  writeAll_ok h := by
    cases h
    rfl

/-- A stream that is cut inside the blank line, and inside the next event. -/
theorem sse_usage_segmentation_cut : ∃ acc acc',
    SseUsageAccumulator.writeAlls (CrateTables.crates {}) vecWriter [utf8 "data: 1\n", utf8 "\ndata"] (.new []) =
      (.ok (), acc) ∧
    SseUsageAccumulator.writeAlls (CrateTables.crates {}) vecWriter [utf8 "data: 1\n\nda", utf8 "ta"] (.new []) =
      (.ok (), acc') ∧
    acc.inner = utf8 "data: 1\n\ndata" ∧ acc'.inner = utf8 "data: 1\n\ndata" ∧ acc.seen = acc'.seen ∧
      acc.buf = acc'.buf :=
  sse_usage_segmentation _ vecWriter [] [utf8 "data: 1\n", utf8 "\ndata"] [utf8 "data: 1\n\nda", utf8 "ta"]
    (by decide) rfl rfl

end TeechatOpenapi.Core
