import TeechatOpenapi.Cvm.Events

/-!
# The buffered and the streamed answer (`openapi-platform-cvm/src/ope_upstream.rs`)

`decrypt_ndjson_to_completion` and `bridge_ope_to_openai_sse` fold over the same plaintexts, each in its own way.
-/

namespace TeechatOpenapi.Cvm

open Lib TeechatOpenapi.Core

/-! ## What the bridge keeps back -/

/-- Of the octets pushed so far, all but `pending` were a text, and `pending` is the beginning of a character. -/
def Held (pushed pending : Bytes) : Prop :=
  ∃ t, pushed = utf8 t ++ pending ∧ (pending = [] ∨ fromUtf8 pending = .error ([], false))

lemma Held.isText_iff {pushed pending : Bytes} (h : Held pushed pending) : IsText pushed ↔ pending = [] := by
  obtain ⟨t, rfl, hpending⟩ := h
  rw [isText_append]
  constructor
  · intro htext
    obtain ⟨u, hu⟩ := Lib.isText_iff.mp htext
    rcases hpending with hnil | hcut
    · exact hnil
    · rw [hu] at hcut
      cases hcut
  · rintro rfl
    exact isText_utf8 []

/-- A push keeps back the beginning of a character, or fails on octets that nothing makes a text of. -/
lemma Held.push {pushed pending : Bytes} (h : Held pushed pending) (bytes : Bytes) :
    (∃ r, utf8Push pending bytes = .ok r ∧ Held (pushed ++ bytes) r.pending) ∨
      ∃ e, utf8Push pending bytes = .error e ∧ ∀ more, ¬ IsText (pushed ++ bytes ++ more) := by
  obtain ⟨t, rfl, -⟩ := h
  rcases utf8Push_spec pending bytes with ⟨r, hr, hall, hcut⟩ | ⟨e, he, hnever⟩
  · left
    refine ⟨r, hr, t ++ r.texts.flatten, ?_, ?_⟩
    · rw [List.append_assoc, hall, utf8_append, List.append_assoc]
    · exact (eq_or_ne r.pending []).imp_right hcut.fromUtf8_eq
  · right
    refine ⟨e, he, fun more htext => hnever more ?_⟩
    rwa [List.append_assoc, List.append_assoc, isText_append, ← List.append_assoc] at htext

variable {plains : List Bytes} {s : Bridge}

variable {done : List Bytes} {p : Bytes}

section Deliver

variable (X : Crates) (sink : Sink)

/-- The octets of the plaintexts that are no frames. -/
def unframed (plains : List Bytes) : Bytes := (plains.filter fun p => (plainFrame? X p).isNone).flatten

/-- The bridge after some plaintexts: what it keeps back, and what it has written for chunks that are whole texts. -/
structure Bridged (done : List Bytes) (s : Bridge) : Prop where
  held : Held (unframed X done) s.pending
  wrote : ∀ ts : List Str, done = ts.map utf8 →
    s.out = (ts.flatMap (textEvents X)).flatMap (Event.bytes X sink) ∧
      s.sawFinish = (ts.flatMap (textEvents X)).any Event.finishes

variable {X sink}

lemma unframed_append (a b : List Bytes) : unframed X (a ++ b) = unframed X a ++ unframed X b := by
  rw [unframed, List.filter_append, List.flatten_append]
  rfl

lemma unframed_frame {frame : Json} (h : plainFrame? X p = some frame) : unframed X [p] = [] := by
  simp [unframed, h]

lemma unframed_plain (h : plainFrame? X p = none) : unframed X [p] = p := by
  simp [unframed, h]

lemma isText_unframed (h : ∀ p ∈ plains, IsText p) : IsText (unframed X plains) :=
  isText_flatten fun p hp => h p (List.mem_of_mem_filter hp)

lemma Bridged.start : Bridged X sink [] Bridge.start := by
  refine ⟨⟨[], rfl, .inl rfl⟩, ?_⟩
  intro ts hts
  rw [List.map_eq_nil_iff.mp hts.symm]
  exact ⟨rfl, rfl⟩

/-- One more plaintext, of which the bridge wrote what it writes of a whole text. -/
lemma Bridged.snoc {s' : Bridge} (h : Bridged X sink done s)
    (hheld : Held (unframed X (done ++ [p])) s'.pending)
    (hwrote : ∀ t, s.pending = [] → p = utf8 t →
      s'.out = (s.wrote X sink (textEvents X t)).out ∧ s'.sawFinish = (s.wrote X sink (textEvents X t)).sawFinish) :
    Bridged X sink (done ++ [p]) s' := by
  refine ⟨hheld, ?_⟩
  intro ts hts
  obtain ⟨init, last, rfl, hinit, hlast⟩ := List.append_eq_map_iff.mp hts
  obtain ⟨t, rfl, ht⟩ := List.map_eq_singleton_iff.mp hlast
  -- the chunks so far are whole texts, so nothing is kept back
  have hpending : s.pending = [] := by
    refine h.held.isText_iff.mp (isText_unframed fun q hq => ?_)
    rw [← hinit] at hq
    obtain ⟨u, -, rfl⟩ := List.mem_map.mp hq
    exact isText_utf8 u
  obtain ⟨hout, hsaw⟩ := hwrote t hpending ht.symm
  obtain ⟨hout₀, hsaw₀⟩ := h.wrote init hinit.symm
  rw [hout, hsaw, List.flatMap_append, List.flatMap_singleton]
  simp only [Bridge.wrote, hout₀, hsaw₀, List.flatMap_append, List.any_append, and_self]

variable (hsink : ∀ taken next, sink.refuses taken next = none)

include hsink

/-- One plaintext: the bridge writes and goes on, or it fails and no plaintexts behind it make a text. -/
lemma Bridged.deliver (h : Bridged X sink done s) (p : Bytes) :
    (∃ s', (if p = [] then pure () else processDecryptedPlaintext X sink p) s = (.ok (), s') ∧ s'.held = s.held ∧
      Bridged X sink (done ++ [p]) s') ∨
    ∃ e s', (if p = [] then pure () else processDecryptedPlaintext X sink p) s = (.error e, s') ∧
      ∀ rest, ¬ IsText (unframed X (done ++ p :: rest)) := by
  by_cases hp : p = []
  · left
    refine ⟨s, by rw [if_pos hp]; rfl, rfl, h.snoc ?_ ?_⟩
    · have hnil : unframed X [p] = [] := by
        rw [unframed, hp]
        cases hf : plainFrame? X [] <;> simp [hf]
      rw [unframed_append, hnil, List.append_nil]
      exact h.held
    · rintro t - ht
      rw [utf8_eq_nil.mp (ht.symm.trans hp), textEvents, if_pos rfl, wrote_nil]
      exact ⟨rfl, rfl⟩
  rw [if_neg hp]
  cases hf : plainFrame? X p with
  | some frame =>
    left
    rw [processDecryptedPlaintext, hf]
    refine ⟨_, (emits_emitOpenaiDeltaFrame frame).run hsink s, rfl, h.snoc ?_ ?_⟩
    · rw [unframed_append, unframed_frame hf, List.append_nil]
      exact h.held
    · rintro t - rfl
      rw [plainFrame?_utf8] at hf
      have ht : t ≠ [] := fun ht => hp (utf8_eq_nil.mpr ht)
      rw [textEvents, if_neg ht, hf]
      exact ⟨rfl, rfl⟩
  | none =>
    rcases h.held.push p with ⟨r, hr, hheld⟩ | ⟨e, he, hnever⟩
    · left
      refine ⟨_, processDecryptedPlaintext_run hsink hf hr, rfl, h.snoc ?_ ?_⟩
      · rw [unframed_append, unframed_plain hf]
        exact hheld
      · rintro t hpending rfl
        have ht : t ≠ [] := fun ht => hp (utf8_eq_nil.mpr ht)
        rw [hpending, utf8Push_text, if_neg ht] at hr
        cases hr
        rw [List.flatMap_singleton]
        exact ⟨rfl, rfl⟩
    · right
      refine ⟨e, s, ?_, fun rest htext => ?_⟩
      · rw [processDecryptedPlaintext, hf]
        dsimp only
        rw [Op.get_bind, Op.bind_run, Op.lift_run, he]
      rw [List.append_cons, unframed_append, unframed_append, unframed_plain hf] at htext
      exact hnever _ htext

end Deliver

/-! ## A body, read by both loops -/

variable {ls : List StreamLine}

variable {raw : Bytes}

section Body

variable {O : Ope}

variable {X : Crates} {enc : EncryptedOpeRequest O}

variable {sink : Sink} (hsink : ∀ taken next, sink.refuses taken next = none)

include hsink

end Body

namespace Sample

end Sample

end TeechatOpenapi.Cvm
