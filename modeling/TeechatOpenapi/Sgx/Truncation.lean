import TeechatOpenapi.Lib.Layout
import TeechatOpenapi.Sgx.FramedBody

/-!
# Bodies that are cut short

A body is sent with its length, or in chunks whose size lines may carry extensions.  The reader of the gateway client
gets all of it, or a beginning of it and then the end of the connection.
-/

namespace TeechatOpenapi.Sgx

open Lib TeechatOpenapi.Core

/-! ## Bodies on the wire -/

/-- The size line of a chunk: digits, blanks, and extensions after a semicolon. -/
structure SizeLine where
  size : Str
  blanks : Str
  ext : Bytes
  nonempty : size ≠ []
  digits : ∀ c ∈ size, isAsciiHexdigit c = true
  blank : ∀ c ∈ blanks, c = ' ' ∨ c = '\t'
  extension : ext = [] ∨ ext.head? = some 59
  oneLine : 10 ∉ ext

/-- A chunk.  Its size has no leading zero. -/
structure Chunk extends SizeLine where
  data : Bytes
  lead : size.head? ≠ some '0'
  value : fromStrRadix16 size = .ok data.length

/-- The chunk that ends a body. -/
structure LastChunk extends SizeLine where
  zero : size = ['0']

/-- The octets of a size line. -/
def SizeLine.octets (l : SizeLine) : Bytes := utf8 (l.size ++ l.blanks) ++ l.ext

/-- The octets of a chunk. -/
def Chunk.wire (c : Chunk) : Bytes := c.octets ++ 13 :: 10 :: (c.data ++ [13, 10])

/-- The octets of the chunk that ends a body. -/
def LastChunk.wire (l : LastChunk) : Bytes := l.octets ++ [13, 10, 13, 10]

lemma Chunk.wire_append (c : Chunk) (rest : Bytes) :
    c.wire ++ rest = c.octets ++ 13 :: 10 :: (c.data ++ 13 :: 10 :: rest) := by
  simp only [Chunk.wire, List.append_assoc, List.cons_append, List.nil_append]

lemma LastChunk.wire_append (l : LastChunk) (rest : Bytes) :
    l.wire ++ rest = l.octets ++ 13 :: 10 :: (13 :: 10 :: rest) := by
  simp only [LastChunk.wire, List.append_assoc, List.cons_append, List.nil_append]

/-- A body with its framing. -/
inductive FramedMessage where
  | contentLength (payload : Bytes)
  | chunked (chunks : List Chunk) (last : LastChunk)

def FramedMessage.payload : FramedMessage → Bytes
  | .contentLength payload => payload
  | .chunked chunks _ => chunks.flatMap Chunk.data

def FramedMessage.framing : FramedMessage → BodyFraming
  | .contentLength payload => .contentLength payload.length
  | .chunked _ _ => .chunked

def FramedMessage.wire : FramedMessage → Bytes
  | .contentLength payload => payload
  | .chunked chunks last => chunks.flatMap Chunk.wire ++ last.wire

/-- The line fits: with its CR it has at most 8192 octets. -/
def SizeLine.Fits (l : SizeLine) : Prop := l.octets.length ≤ 8191

/-! ### Size lines -/

variable {p : Bytes}

section SizeLines

variable {l : SizeLine}

lemma isWhitespace_of_blank {c : Char} (h : c = ' ' ∨ c = '\t') : isWhitespace c = true := by
  rcases h with rfl | rfl <;> decide

lemma trim_append_space (s : Str) {w : Str} (h : ∀ c ∈ w, isWhitespace c = true) : trim (s ++ w) = trim s := by
  induction w using List.reverseRecOn with
  | nil => rw [List.append_nil]
  | append_singleton w c ih =>
    rw [← List.append_assoc, trim_concat _ (h c (by simp))]
    exact ih fun d hd => h d (List.mem_append_left _ hd)

/-- What is taken for the size: the digits before white space and extensions. -/
lemma sizeStr_of {q w : Str} {e : Bytes} (hq : ∀ c ∈ q, isAsciiHexdigit c = true)
    (hw : ∀ c ∈ w, isWhitespace c = true) (he : e = [] ∨ e.head? = some 59) : sizeStr (utf8 (q ++ w) ++ e) = q := by
  have hsemi : ∀ c ∈ q ++ w, decide (c ≠ ';') = true := by
    intro c hc
    rw [decide_eq_true_eq]
    rintro rfl
    rcases List.mem_append.mp hc with hc | hc
    · exact absurd (hq _ hc) (by decide)
    · exact absurd (hw _ hc) (by decide)
  have hbefore : (fromUtf8Lossy (utf8 (q ++ w) ++ e)).takeWhile (· ≠ ';') = q ++ w := by
    rcases he with rfl | he
    · rw [List.append_nil, fromUtf8Lossy_utf8]
      exact List.takeWhile_eq_self_iff.mpr hsemi
    · obtain ⟨rest, rfl⟩ := List.head?_eq_some_iff.mp he
      rw [fromUtf8Lossy, Utf8.units_append, Utf8.units_one (by decide), List.map_append, List.map_map, List.map_cons]
      rw [show (q ++ w).map (Utf8.replace ∘ Utf8Unit.char) = q ++ w from List.map_id _]
      rw [List.takeWhile_append_of_pos hsemi, List.takeWhile_cons_of_neg (by decide), List.append_nil]
  rw [sizeStr, hbefore, trim_append_space q hw, trim_digits hq]

lemma SizeLine.blank_space (l : SizeLine) : ∀ c ∈ l.blanks, isWhitespace c = true :=
  fun c hc => isWhitespace_of_blank (l.blank c hc)

lemma SizeLine.sizeStr_octets (l : SizeLine) : sizeStr l.octets = l.size :=
  sizeStr_of l.digits l.blank_space l.extension

lemma SizeLine.ascii (l : SizeLine) : ∀ c ∈ l.size ++ l.blanks, c.toNat < 128 := by
  intro c hc
  rcases List.mem_append.mp hc with hc | hc
  · exact Encoding.isAsciiHexdigit_lt (l.digits c hc)
  · rcases l.blank c hc with rfl | rfl <;> decide

lemma SizeLine.lf_notMem (l : SizeLine) : 10 ∉ l.octets ++ [13] := by
  have htext : '\n' ∉ l.size ++ l.blanks := by
    intro hm
    rcases List.mem_append.mp hm with hm | hm
    · exact newline_notMem_digits l.digits hm
    · exact absurd (l.blank _ hm) (by decide)
  intro hm
  rcases List.mem_append.mp hm with hm | hm
  · rcases List.mem_append.mp hm with hm | hm
    · exact htext (newline_mem_utf8 hm)
    · exact l.oneLine hm
  · exact absurd hm (by decide)

/-- What is left of a size line when its end is missing: a beginning of the digits is taken for the size. -/
lemma SizeLine.sizeStr_cut (l : SizeLine) (h : p <+: l.octets ++ [13]) (hne : p ≠ []) :
    sizeStr p <+: l.size ∧ sizeStr p ≠ [] := by
  have hall : ∀ w e, (∀ c ∈ w, isWhitespace c = true) → (e = [] ∨ e.head? = some 59) →
      p = utf8 (l.size ++ w) ++ e → sizeStr p <+: l.size ∧ sizeStr p ≠ [] := by
    rintro w e hw he rfl
    rw [sizeStr_of l.digits hw he]
    exact ⟨List.prefix_refl _, l.nonempty⟩
  rw [SizeLine.octets, List.append_assoc] at h
  rcases prefix_append_cases h with ⟨hp, -⟩ | ⟨r, rfl, hr⟩
  · obtain ⟨t, ht, rfl⟩ := prefix_utf8_of_ascii l.ascii hp
    rcases prefix_append_cases ht with ⟨ht, -⟩ | ⟨w, rfl, hw⟩
    · -- in the digits
      have hsize : sizeStr (utf8 t) = t := by
        have := sizeStr_of (q := t) (w := []) (e := []) (fun c hc => l.digits c (ht.subset hc))
          (fun _ hc => absurd hc List.not_mem_nil) (Or.inl rfl)
        rwa [List.append_nil, List.append_nil] at this
      rw [hsize]
      exact ⟨ht, fun hnil => hne (utf8_eq_nil.mpr hnil)⟩
    · -- in the blanks
      refine hall w [] (fun c hc => l.blank_space c (hw.subset hc)) (Or.inl rfl) ?_
      rw [List.append_nil]
  · rcases l.extension with hext | hext
    · rw [hext, List.nil_append] at hr
      rcases r with _ | ⟨b, r⟩
      · exact hall l.blanks [] l.blank_space (Or.inl rfl) rfl
      · -- the CR is white space
        obtain ⟨rfl, hnil⟩ := List.cons_prefix_cons.mp hr
        refine hall (l.blanks ++ ['\r']) [] (fun c hc => ?_) (Or.inl rfl) ?_
        · rcases List.mem_append.mp hc with hc | hc
          · exact l.blank_space c hc
          · rw [List.mem_singleton.mp hc]
            decide
        · rw [List.prefix_nil.mp hnil, ← List.append_assoc, utf8_append _ ['\r'], List.append_nil]
          rfl
    · -- in the extensions
      refine hall l.blanks r l.blank_space ?_ rfl
      obtain ⟨ext, hcons⟩ := List.head?_eq_some_iff.mp hext
      rcases r with _ | ⟨b, r⟩
      · exact Or.inl rfl
      · rw [hcons, List.cons_append] at hr
        obtain ⟨rfl, -⟩ := List.cons_prefix_cons.mp hr
        exact Or.inr rfl

lemma SizeLine.reads (l : SizeLine) (hfits : l.Fits) (rest : Bytes) :
    Returns readLineBytes (l.octets ++ 13 :: 10 :: rest) l.octets rest :=
  readLineBytes_crlf rest (fun hm => l.lf_notMem (List.mem_append_left _ hm)) hfits

lemma SizeLine.reads_cut (l : SizeLine) (hfits : l.Fits) (h : p <+: l.octets ++ [13]) :
    Returns readLineBytes p p [] := by
  refine readLineBytes_cut (fun hm => l.lf_notMem (h.subset hm)) (h.length_le.trans ?_)
  rw [List.length_append, List.length_singleton]
  have : l.octets.length ≤ 8191 := hfits
  omega

lemma SizeLine.refuses (l : SizeLine) (hlong : ¬ l.Fits) (rest : Bytes) :
    AlwaysFails readChunkSize (l.octets ++ 13 :: 10 :: rest) := by
  have hlen : 8192 < (l.octets ++ [13]).length := by
    rw [List.length_append, List.length_singleton]
    have : ¬ l.octets.length ≤ 8191 := hlong
    omega
  rw [show l.octets ++ 13 :: 10 :: rest = l.octets ++ [13] ++ 10 :: rest from List.append_cons _ _ _]
  exact (readLineBytes_long (10 :: rest) l.lf_notMem hlen).chunkSize

end SizeLines

/-! ### Chunks -/

lemma consumeLine_crlf (rest : Bytes) : Returns consumeLine (13 :: 10 :: rest) () rest :=
  (readLineBytes_crlf (l := []) rest List.not_mem_nil (Nat.zero_le _)).consumeLine

lemma consumeLine_cut {r : Bytes} (h : r = [] ∨ r = [13]) : Returns consumeLine r () [] := by
  rcases h with rfl | rfl
  · exact (readLineBytes_cut (l := []) List.not_mem_nil (Nat.zero_le _)).consumeLine
  · exact (readLineBytes_cut (l := [13]) (by decide) (by decide)).consumeLine

section Chunks

variable {P : Except IoError Unit → Bytes → Prop}

lemma Chunk.data_ne_nil (c : Chunk) : c.data ≠ [] := by
  obtain ⟨d, s, hsize⟩ := List.exists_cons_of_ne_nil c.nonempty
  have hd : d ≠ '0' := by
    rintro rfl
    exact c.lead (by rw [hsize]; rfl)
  have hvalue := c.value
  have hdigits := c.digits
  rw [hsize] at hvalue hdigits
  exact List.ne_nil_of_length_pos (fromStrRadix16_pos hd hdigits hvalue)

lemma Chunk.reads (c : Chunk) (hfits : c.Fits) (rest : Bytes) :
    Returns readChunkSize (c.octets ++ 13 :: 10 :: rest) c.data.length rest :=
  (c.toSizeLine.reads hfits rest).chunkSize (by rw [c.sizeStr_octets, c.value])

lemma ends_chunk (c : Chunk) (hfits : c.Fits) {rest : Bytes}
    (hrest : ReadToEnd rest (.chunked 0 false) fun result out => P result (c.data ++ out)) :
    ReadToEnd (c.wire ++ rest) (.chunked 0 false) P := by
  rw [c.wire_append]
  refine ends_size (c.reads hfits _) (List.length_pos_of_ne_nil c.data_ne_nil).ne' ?_
  exact ends_data c.data_ne_nil (consumeLine_crlf rest) hrest

/-- A size line that ends the connection: a positive size is read from it, or none. -/
lemma ends_chunk_line (c : Chunk) (hfits : c.Fits) (h : p <+: c.octets ++ [13]) :
    ReadToEnd p (.chunked 0 false) Failed := by
  have hline := c.toSizeLine.reads_cut hfits h
  by_cases hp : p = []
  · rw [hp]
    exact ends_eof
  obtain ⟨hcut, hne⟩ := c.toSizeLine.sizeStr_cut h hp
  rcases hsize : fromStrRadix16 (sizeStr p) with e | n
  · exact ends_refused (hline.chunkSize_error hsize)
  · have hn : 0 < n := by
      obtain ⟨d, s, hstr⟩ := List.exists_cons_of_ne_nil hne
      rw [hstr] at hsize hcut
      refine fromStrRadix16_pos ?_ (fun a ha => c.digits a (hcut.subset ha)) hsize
      rintro rfl
      obtain ⟨t, ht⟩ := hcut
      exact c.lead (by rw [← ht]; rfl)
    exact ends_size (hline.chunkSize hsize) hn.ne' (ends_data_short hn)

lemma ends_chunk_cut (c : Chunk) (hfits : c.Fits) (h : p <+: c.wire) (hcut : p ≠ c.wire) :
    ReadToEnd p (.chunked 0 false) Failed := by
  have hwire : c.wire = c.octets ++ [13] ++ ([10] ++ (c.data ++ [13, 10])) := by
    simp only [Chunk.wire, List.append_assoc, List.cons_append, List.nil_append]
  rw [hwire] at h hcut
  rcases prefix_append_cases h with ⟨hp, -⟩ | ⟨r, rfl, hr⟩
  · exact ends_chunk_line c hfits hp
  rcases prefix_append_cases hr with ⟨hlf, hne⟩ | ⟨r, rfl, hr₁⟩
  · -- the LF is missing
    rcases r with _ | ⟨b, r⟩
    · rw [List.append_nil]
      exact ends_chunk_line c hfits (List.prefix_refl _)
    · obtain ⟨rfl, hnil⟩ := List.cons_prefix_cons.mp hlf
      exact absurd (by rw [List.prefix_nil.mp hnil]) hne
  have hline : c.octets ++ [13] ++ ([10] ++ r) = c.octets ++ 13 :: 10 :: r := by
    simp only [List.append_assoc, List.cons_append, List.nil_append]
  have hpos := List.length_pos_of_ne_nil c.data_ne_nil
  rw [hline]
  refine ends_size (c.reads hfits r) hpos.ne' ?_
  rcases prefix_append_cases hr₁ with ⟨hdata, hne⟩ | ⟨t, rfl, ht⟩
  · -- in the data
    exact ends_data_short (lt_of_le_of_ne hdata.length_le fun heq => hne (hdata.eq_of_length heq))
  · -- in the line end of the data, which is then taken for read; the next size line is missing
    have hlast : t = [] ∨ t = [13] := cut_crlf ht fun heq => hcut (by rw [heq])
    exact ends_data c.data_ne_nil (consumeLine_cut hlast) ends_eof

lemma LastChunk.size_zero (l : LastChunk) (h : sizeStr p <+: l.size) (hne : sizeStr p ≠ []) :
    fromStrRadix16 (sizeStr p) = .ok 0 := by
  rw [l.zero] at h
  obtain ⟨d, s, hstr⟩ := List.exists_cons_of_ne_nil hne
  rw [hstr] at h ⊢
  obtain ⟨rfl, hs⟩ := List.cons_prefix_cons.mp h
  rw [List.prefix_nil.mp hs]
  rfl

lemma LastChunk.reads (l : LastChunk) (hfits : l.Fits) (rest : Bytes) :
    Returns readChunkSize (l.octets ++ 13 :: 10 :: rest) 0 rest := by
  refine (l.toSizeLine.reads hfits rest).chunkSize (l.size_zero ?_ ?_)
  · rw [l.sizeStr_octets]
  · rw [l.sizeStr_octets]
    exact l.nonempty

lemma ends_last (l : LastChunk) (hfits : l.Fits) (rest : Bytes) (hP : P (.ok ()) []) :
    ReadToEnd (l.wire ++ rest) (.chunked 0 false) P := by
  rw [l.wire_append]
  exact ends_zero (l.reads hfits _) (consumeLine_crlf rest) hP

/-- The end of a body that is cut short: the reading fails, or nothing is missing. -/
lemma ends_last_cut (l : LastChunk) (hfits : l.Fits) (h : p <+: l.wire) (hcut : p ≠ l.wire) :
    ReadToEnd p (.chunked 0 false) fun result out => Failed result out ∨ out = [] := by
  have hwire : l.wire = l.octets ++ [13] ++ ([10] ++ [13, 10]) := by
    simp only [LastChunk.wire, List.append_assoc, List.cons_append, List.nil_append]
  have hline : ∀ {p : Bytes}, p <+: l.octets ++ [13] →
      ReadToEnd p (.chunked 0 false) fun result out => Failed result out ∨ out = [] := by
    intro p hp
    by_cases hnil : p = []
    · rw [hnil]
      exact ends_eof.imp fun _ _ hfailed => Or.inl hfailed
    · obtain ⟨hstart, hne⟩ := l.toSizeLine.sizeStr_cut hp hnil
      have hsize := (l.toSizeLine.reads_cut hfits hp).chunkSize (l.size_zero hstart hne)
      exact ends_zero hsize (consumeLine_cut (Or.inl rfl)) (Or.inr rfl)
  rw [hwire] at h hcut
  rcases prefix_append_cases h with ⟨hp, -⟩ | ⟨r, rfl, hr⟩
  · exact hline hp
  rcases prefix_append_cases hr with ⟨hlf, hne⟩ | ⟨r, rfl, hr₁⟩
  · rcases r with _ | ⟨b, r⟩
    · rw [List.append_nil]
      exact hline (List.prefix_refl _)
    · obtain ⟨rfl, hnil⟩ := List.cons_prefix_cons.mp hlf
      exact absurd (by rw [List.prefix_nil.mp hnil]) hne
  · have hlast : r = [] ∨ r = [13] := cut_crlf hr₁ fun heq => hcut (by rw [heq])
    rw [show l.octets ++ [13] ++ ([10] ++ r) = l.octets ++ 13 :: 10 :: r by
      simp only [List.append_assoc, List.cons_append, List.nil_append]]
    exact ends_zero (l.reads hfits r) (consumeLine_cut hlast) (Or.inr rfl)

end Chunks

/-! ### Whole bodies -/

section Bodies

variable {chunks : List Chunk} {last : LastChunk}

/-- Every size line of the body fits. -/
def LinesFit (chunks : List Chunk) (last : LastChunk) : Prop := (∀ c ∈ chunks, c.Fits) ∧ last.Fits

lemma ends_chunks (hfits : LinesFit chunks last) (rest : Bytes) :
    ReadToEnd (chunks.flatMap Chunk.wire ++ last.wire ++ rest) (.chunked 0 false) fun result out =>
      result = .ok () ∧ out = chunks.flatMap Chunk.data := by
  obtain ⟨hchunks, hlast⟩ := hfits
  induction chunks with
  | nil => exact ends_last last hlast rest ⟨rfl, rfl⟩
  | cons c chunks ih =>
    rw [List.flatMap_cons, List.append_assoc, List.append_assoc]
    refine ends_chunk c (hchunks c List.mem_cons_self) ?_
    rw [← List.append_assoc]
    refine (ih fun d hd => hchunks d (List.mem_cons_of_mem c hd)).imp fun result out h => ⟨h.1, ?_⟩
    rw [h.2, List.flatMap_cons]

lemma ends_chunks_cut (hfits : LinesFit chunks last) (h : p <+: chunks.flatMap Chunk.wire ++ last.wire)
    (hcut : p ≠ chunks.flatMap Chunk.wire ++ last.wire) :
    ReadToEnd p (.chunked 0 false) fun result out => Failed result out ∨ out = chunks.flatMap Chunk.data := by
  obtain ⟨hchunks, hlast⟩ := hfits
  induction chunks generalizing p with
  | nil => exact ends_last_cut last hlast h hcut
  | cons c chunks ih =>
    rw [List.flatMap_cons, List.append_assoc] at h hcut
    have hc : c.Fits := hchunks c List.mem_cons_self
    rcases prefix_append_cases h with ⟨hp, hne⟩ | ⟨q, rfl, hq⟩
    · exact (ends_chunk_cut c hc hp hne).imp fun _ _ hfailed => Or.inl hfailed
    · have hne : q ≠ chunks.flatMap Chunk.wire ++ last.wire := fun heq => hcut (by rw [heq])
      refine ends_chunk c hc ((ih hq hne fun d hd => hchunks d (List.mem_cons_of_mem c hd)).imp ?_)
      rintro result out (hfailed | rfl)
      · exact Or.inl hfailed
      · exact Or.inr List.flatMap_cons.symm

/-- A body with a size line that does not fit is not read to its end. -/
lemma ends_chunks_long (hlong : ¬ LinesFit chunks last) (rest : Bytes) :
    ReadToEnd (chunks.flatMap Chunk.wire ++ last.wire ++ rest) (.chunked 0 false) Failed := by
  induction chunks with
  | nil =>
    have hlast : ¬ last.Fits := fun hfits => hlong ⟨fun _ hc => absurd hc List.not_mem_nil, hfits⟩
    rw [List.flatMap_nil, List.nil_append, last.wire_append]
    exact ends_refused (last.toSizeLine.refuses hlast _)
  | cons c chunks ih =>
    rw [List.flatMap_cons, List.append_assoc, List.append_assoc]
    by_cases hc : c.Fits
    · refine ends_chunk c hc ?_
      rw [← List.append_assoc]
      refine ih fun hfits => hlong ⟨fun d hd => ?_, hfits.2⟩
      rcases List.mem_cons.mp hd with rfl | hd
      · exact hc
      · exact hfits.1 d hd
    · rw [c.wire_append]
      exact ends_refused (c.toSizeLine.refuses hc _)

end Bodies

/-- Reading a body: all of it on the connection, with anything after it, is delivered and nothing else; and where the
connection ends inside it, the reading fails or nothing of the payload is missing. -/
def FramedMessage.Honest (f : FramedMessage) : Prop :=
  (∀ rest short caps, (∀ k, 1 ≤ caps k) →
    readToEnd caps (.new ⟨f.wire ++ rest, short⟩ f.framing) = (.ok (), f.payload)) ∧
  ∀ p, p <+: f.wire → p ≠ f.wire → ∀ short caps, (∀ k, 1 ≤ caps k) →
    (∃ e, (readToEnd caps (.new ⟨p, short⟩ f.framing)).1 = .error e) ∨
      (readToEnd caps (.new ⟨p, short⟩ f.framing)).2 = f.payload

/-- **When a cut body is noticed**: a chunked body whose size lines fit is delivered whole, and never taken for whole
when it is cut short.  A size line that does not fit makes the reading of a whole body fail, and a body of known length
is taken for whole wherever it is cut. -/
theorem truncation_detected_iff (f : FramedMessage) :
    f.Honest ↔ match f with
      | .contentLength payload => payload = []
      | .chunked chunks last => LinesFit chunks last := by
  cases f with
  | contentLength payload =>
    constructor
    · intro h
      by_contra hne
      -- nothing at all arrives of the body
      have hcut := ends_contentLength (n := payload.length) [] [] (Or.inr ⟨rfl, Nat.zero_le _⟩)
      obtain ⟨hok, hout⟩ := hcut (fun _ => 0) (fun _ => 1) fun _ => le_refl _
      rcases h.2 [] List.nil_prefix (Ne.symm hne) (fun _ => 0) (fun _ => 1) fun _ => le_refl _ with ⟨e, he⟩ | hwhole
      · cases hok.symm.trans he
      · exact hne (hwhole.symm.trans hout)
    · rintro rfl
      refine ⟨fun rest short caps hcaps => ?_, fun p hp hne => ?_⟩
      · obtain ⟨hok, hout⟩ := ends_contentLength (n := 0) [] rest (Or.inl rfl) short caps hcaps
        exact Prod.ext hok hout
      · exact absurd (List.prefix_nil.mp hp) hne
  | chunked chunks last =>
    constructor
    · intro h
      by_contra hlong
      obtain ⟨e, he⟩ := ends_chunks_long hlong [] (fun _ => 0) (fun _ => 1) fun _ => le_refl _
      have hwhole := h.1 [] (fun _ => 0) (fun _ => 1) fun _ => le_refl _
      cases he.symm.trans (congrArg Prod.fst hwhole)
    · intro hfits
      refine ⟨fun rest short caps hcaps => ?_, fun p hp hne short caps hcaps => ?_⟩
      · obtain ⟨hok, hout⟩ := ends_chunks hfits rest short caps hcaps
        exact Prod.ext hok hout
      · exact ends_chunks_cut hfits hp hne short caps hcaps

/-- The first of two octets arrives, and the connection ends: the reading succeeds with that octet. -/
theorem cut_body_taken_for_whole :
    readToEnd (fun _ => 64) (.new ⟨[97], fun _ => 0⟩ (FramedMessage.contentLength [97, 98]).framing) =
      (.ok (), [97]) := by
  obtain ⟨hok, hout⟩ := ends_contentLength (n := 2) [97] [] (Or.inr ⟨rfl, by decide⟩) (fun _ => 0)
    (fun _ => 64) fun _ => by decide
  exact Prod.ext hok hout

end TeechatOpenapi.Sgx
