import Mathlib.Logic.Basic

/-!
# Fallible and stateful computations

* `Except` with the two idioms of Rust code: `okOr` (an `Option` turned into a `Result`) and `failIf` (an early
  `return Err`);
* `Op σ ε α` — a computation over a state `σ` that returns a `Result`; the state survives an error, as the
  fields behind `&self` do;
* `Op.Meets` — a condition before a computation, and one after it for each of its two ends, with a rule for each way
  to compose computations; `Op.Fixes` — a computation that leaves a part of the state.

Each operation has one inversion lemma (`.. = .ok _ ↔ ..`); a proof peels a computation apart with these and
never unfolds a bind.
-/

namespace TeechatOpenapi.Lib

/-! ## Results -/

variable {c : Prop}

section Results

variable {ε ε' α β : Type}

def okOr : Option α → ε → Except ε α
  | some a, _ => .ok a
  | none, e => .error e

/-- `if c { return Err(e) }`. -/
def failIf (c : Prop) [Decidable c] (e : ε) : Except ε Unit := if c then .error e else .ok ()

def toOption : Except ε α → Option α
  | .ok a => some a
  | .error _ => none

@[simp] lemma okOr_eq_ok {o : Option α} {e : ε} {a : α} : okOr o e = .ok a ↔ o = some a := by
  cases o <;> simp [okOr]

@[simp] lemma failIf_eq_ok [Decidable c] {e : ε} {u : Unit} : failIf c e = .ok u ↔ ¬ c := by
  by_cases h : c <;> simp [failIf, h]

lemma failIf_pos [Decidable c] (h : c) (e : ε) : failIf c e = .error e := if_pos h

lemma failIf_neg [Decidable c] (h : ¬ c) (e : ε) : failIf c e = .ok () := if_neg h

variable {x : Except ε α}

@[simp] lemma toOption_eq_some {a : α} : toOption x = some a ↔ x = .ok a := by
  cases x <;> simp [toOption]

@[simp] lemma bind_eq_ok {f : α → Except ε β} {b : β} :
    (x >>= f) = .ok b ↔ ∃ a, x = .ok a ∧ f a = .ok b := by
  cases x <;> simp [bind, Except.bind]

lemma ok_bind (a : α) (f : α → Except ε β) : (Except.ok a >>= f) = f a := rfl

lemma bind_eq_error {f : α → Except ε β} {e : ε} :
    (x >>= f) = .error e ↔ x = .error e ∨ ∃ a, x = .ok a ∧ f a = .error e := by
  rcases x with e' | a <;> simp [bind, Except.bind]

lemma okOr_eq_error {o : Option α} {e e' : ε} : okOr o e = .error e' ↔ o = none ∧ e = e' := by
  rcases o with _ | a <;> simp [okOr]

lemma failIf_congr {d : Prop} [Decidable c] [Decidable d] (h : c ↔ d) (e : ε) : failIf c e = failIf d e := by
  by_cases hc : c
  · rw [failIf_pos hc, failIf_pos (h.mp hc)]
  · rw [failIf_neg hc, failIf_neg (h.not.mp hc)]

lemma okOr_guard [Decidable c] (x : Option α) (e : ε) :
    okOr (guard c >>= fun _ => x) e = failIf (¬ c) e >>= fun _ => okOr x e := by
  by_cases h : c
  · have hguard : (guard c : Option Unit) = some () := if_pos h
    rw [hguard, failIf_neg (not_not.mpr h)]
    rfl
  · have hguard : (guard c : Option Unit) = none := if_neg h
    rw [hguard, failIf_pos h]
    rfl

lemma failIf_eq_error [Decidable c] {e e' : ε} : failIf c e = .error e' ↔ c ∧ e = e' := by
  by_cases h : c <;> simp [failIf, h]

@[simp] lemma pure_eq_ok {a b : α} : (pure a : Except ε α) = .ok b ↔ a = b := by
  simp [pure, Except.pure]

def mapErr (g : ε → ε') : Except ε α → Except ε' α
  | .ok a => .ok a
  | .error e => .error (g e)

@[simp] lemma mapErr_eq_ok {g : ε → ε'} {a : α} : mapErr g x = .ok a ↔ x = .ok a := by
  rcases x with e | b <;> simp [mapErr]

lemma mapErr_eq_error {g : ε → ε'} {e : ε'} :
    mapErr g x = .error e ↔ ∃ e₀, x = .error e₀ ∧ g e₀ = e := by
  rcases x with e' | b <;> simp [mapErr]

lemma toOption_map_eq_some {f : α → β} {b : β} :
    toOption (x.map f) = some b ↔ ∃ a, x = .ok a ∧ f a = b := by
  rcases x with e | a <;> simp [toOption, Except.map]

lemma pure_ne_error {a : α} {e : ε} : (pure a : Except ε α) ≠ .error e := by
  simp [pure, Except.pure]

lemma forM_eq_ok {l : List α} {f : α → Except ε Unit} : l.forM f = .ok () ↔ ∀ a ∈ l, f a = .ok () := by
  induction l with
  | nil => exact ⟨fun _ a ha => absurd ha List.not_mem_nil, fun _ => rfl⟩
  | cons x l ih =>
    rw [List.forall_mem_cons]
    change (f x >>= fun _ => l.forM f) = .ok () ↔ _
    rw [bind_eq_ok]
    constructor
    · rintro ⟨_, hx, hl⟩
      exact ⟨hx, ih.mp hl⟩
    · rintro ⟨hx, hl⟩
      exact ⟨(), hx, ih.mpr hl⟩

/-- How a call fails: with an error it returns, or with a panic. -/
inductive Fault (ε : Type) where
  | returned (e : ε)
  | panicked
  deriving DecidableEq

/-- `res.ok()`, where a panic of the call goes on. -/
def okOrPanic : Except (Fault ε) α → Except (Fault ε') (Option α)
  | .ok a => .ok (some a)
  | .error (.returned _) => .ok none
  | .error .panicked => .error .panicked

/-- A loop that keeps the elements that pass a fallible test. -/
def filterE (keep : α → Except ε Bool) : List α → Except ε (List α)
  | [] => .ok []
  | a :: l => do
    let kept ← keep a
    let rest ← filterE keep l
    return if kept then a :: rest else rest

lemma filterE_eq_ok {keep : α → Except ε Bool} {l r : List α} (h : filterE keep l = .ok r) :
    (∀ a ∈ l, ∃ b, keep a = .ok b) ∧ ∀ a, a ∈ r ↔ a ∈ l ∧ keep a = .ok true := by
  induction l generalizing r with
  | nil =>
    obtain rfl := Except.ok.inj h
    simp
  | cons x l ih =>
    simp only [filterE, bind_eq_ok, pure_eq_ok] at h
    obtain ⟨kept, hkept, rest, hrest, rfl⟩ := h
    obtain ⟨hall, hmem⟩ := ih hrest
    refine ⟨?_, fun a => ?_⟩
    · intro a ha
      rcases List.mem_cons.mp ha with rfl | ha
      · exact ⟨kept, hkept⟩
      · exact hall a ha
    · rcases kept with _ | _
      · simp only [Bool.false_eq_true, if_false, hmem, List.mem_cons]
        constructor
        · rintro ⟨ha, hk⟩
          exact ⟨Or.inr ha, hk⟩
        · rintro ⟨rfl | ha, hk⟩
          · rw [hkept] at hk
            cases hk
          · exact ⟨ha, hk⟩
      · simp only [if_true, List.mem_cons, hmem]
        constructor
        · rintro (rfl | ⟨ha, hk⟩)
          · exact ⟨Or.inl rfl, hkept⟩
          · exact ⟨Or.inr ha, hk⟩
        · rintro ⟨rfl | ha, hk⟩
          · exact Or.inl rfl
          · exact Or.inr ⟨ha, hk⟩

lemma filterE_exists {keep : α → Except ε Bool} {l : List α} (h : ∀ a ∈ l, ∃ b, keep a = .ok b) :
    ∃ r, filterE keep l = .ok r := by
  induction l with
  | nil => exact ⟨[], rfl⟩
  | cons x l ih =>
    obtain ⟨b, hb⟩ := h x List.mem_cons_self
    obtain ⟨r, hr⟩ := ih fun a ha => h a (List.mem_cons_of_mem x ha)
    exact ⟨_, by rw [filterE, hb, ok_bind, hr, ok_bind]; rfl⟩

lemma foldlM_inv {σ : Type} {f : σ → α → Except ε σ} {I : σ → Prop}
    (hstep : ∀ s a s', f s a = .ok s' → I s → I s') {l : List α} {s s' : σ} (hrun : l.foldlM f s = .ok s') (hs : I s) :
    I s' := by
  induction l generalizing s with
  | nil =>
    cases hrun
    exact hs
  | cons a l ih =>
    rw [List.foldlM_cons] at hrun
    obtain ⟨s₁, hone, hrest⟩ := bind_eq_ok.mp hrun
    exact ih hrest (hstep s a s₁ hone hs)

end Results

/-! ## Operations on a state -/

/-- A computation that reads and writes a state and returns a `Result`. -/
def Op (σ ε α : Type) : Type := σ → Except ε α × σ

namespace Op

variable {σ ε ε' α β : Type}

instance : Monad (Op σ ε) where
  pure a := fun s => (.ok a, s)
  bind x f := fun s =>
    match x s with
    | (.ok a, s₁) => f a s₁
    | (.error e, s₁) => (.error e, s₁)

def get : Op σ ε σ := fun s => (.ok s, s)

def modify (g : σ → σ) : Op σ ε Unit := fun s => (.ok (), g s)

/-- A computation that does not touch the state. -/
def lift (x : Except ε α) : Op σ ε α := fun s => (x, s)

/-- `match x { Ok(..) => .., Err(..) => .. }`: run it, and hand on its result. -/
def attempt (x : Op σ ε' α) : Op σ ε (Except ε' α) := fun s => (.ok (x s).1, (x s).2)

/-- `let _ = x;`: run it for its effect, drop the result. -/
def discard (x : Op σ ε' α) : Op σ ε Unit := fun s => (.ok (), (x s).2)

/-- Run an operation on a part of the state. -/
def on {τ : Type} (part : σ → τ) (put : τ → σ → σ) (x : Op τ ε α) : Op σ ε α := fun s =>
  ((x (part s)).1, put (x (part s)).2 s)

/-- A call that does not panic, among calls that may. -/
def returning (x : Op σ ε α) : Op σ (Fault ε) α := fun s => (mapErr .returned (x s).1, (x s).2)

lemma pure_run (a : α) (s : σ) : (pure a : Op σ ε α) s = (.ok a, s) := rfl

lemma bind_run (x : Op σ ε α) (f : α → Op σ ε β) (s : σ) :
    (x >>= f) s = match x s with
      | (.ok a, s₁) => f a s₁
      | (.error e, s₁) => (.error e, s₁) := rfl

variable {f : α → Op σ ε β} {x : Op σ ε α} {a : α}

lemma bind_of_ok {s s₁ : σ} (h : x s = (.ok a, s₁)) :
    (x >>= f) s = f a s₁ := by
  rw [bind_run, h]

lemma bind_of_error {s s₁ : σ} {e : ε} (h : x s = (.error e, s₁)) :
    (x >>= f) s = (.error e, s₁) := by
  rw [bind_run, h]

@[simp] lemma get_run (s : σ) : (get : Op σ ε σ) s = (.ok s, s) := rfl

@[simp] lemma modify_run (g : σ → σ) (s : σ) : (modify g : Op σ ε Unit) s = (.ok (), g s) := rfl

@[simp] lemma lift_run (x : Except ε α) (s : σ) : lift x s = (x, s) := rfl

lemma lift_bind_of_ok {x : Except ε α} {s : σ} (h : x = .ok a) :
    (lift x >>= f) s = f a s := by
  rw [h]
  exact bind_of_ok rfl

lemma lift_bind_of_error {x : Except ε α} {s : σ} {e : ε} (h : x = .error e) :
    (lift x >>= f) s = (.error e, s) := by
  rw [h]
  exact bind_of_error rfl

@[simp] lemma discard_run (x : Op σ ε' α) (s : σ) : (discard x : Op σ ε Unit) s = (.ok (), (x s).2) := rfl

lemma bind_eq_ok {s s' : σ} {b : β} :
    (x >>= f) s = (.ok b, s') ↔ ∃ a s₁, x s = (.ok a, s₁) ∧ f a s₁ = (.ok b, s') := by
  rw [bind_run]
  rcases x s with ⟨e | a, s₁⟩
  · simp
  · constructor
    · intro h
      exact ⟨a, s₁, rfl, h⟩
    · rintro ⟨a', s₂, h, hf⟩
      cases h
      exact hf

lemma attempt_eq_ok {x : Op σ ε' α} {s s' : σ} {r : Except ε' α} :
    (attempt x : Op σ ε (Except ε' α)) s = (.ok r, s') ↔ x s = (r, s') := by
  unfold attempt
  constructor
  · intro h
    obtain ⟨hval, hstate⟩ := Prod.mk.inj h
    exact Prod.ext (Except.ok.inj hval) hstate
  · intro h
    rw [h]

lemma on_eq_ok {τ : Type} {part : σ → τ} {put : τ → σ → σ} {x : Op τ ε α} {s s' : σ} :
    on part put x s = (.ok a, s') ↔ ∃ t, x (part s) = (.ok a, t) ∧ put t s = s' := by
  constructor
  · intro h
    obtain ⟨ha, hs⟩ := Prod.mk.inj h
    exact ⟨(x (part s)).2, Prod.ext ha rfl, hs⟩
  · rintro ⟨t, ht, rfl⟩
    rw [on, ht]

lemma returning_eq_ok {s s' : σ} : returning x s = (.ok a, s') ↔ x s = (.ok a, s') := by
  rcases hx : x s with ⟨e | b, s₁⟩ <;> simp [returning, hx, mapErr]

lemma get_bind (f : σ → Op σ ε β) (s : σ) : (get >>= f) s = f s s := rfl

lemma lift_bind_eq_ok {x : Except ε α} {s s' : σ} {b : β} :
    (lift x >>= f) s = (.ok b, s') ↔ ∃ a, x = .ok a ∧ f a s = (.ok b, s') := by
  rw [bind_eq_ok]
  constructor
  · rintro ⟨a, s₁, hx, hf⟩
    obtain ⟨hval, rfl⟩ := Prod.mk.inj hx
    exact ⟨a, hval, hf⟩
  · rintro ⟨a, hx, hf⟩
    exact ⟨a, s, by rw [lift_run, hx], hf⟩

lemma bind_eq_error {s s' : σ} {e : ε} :
    (x >>= f) s = (.error e, s') ↔
      x s = (.error e, s') ∨ ∃ a s₁, x s = (.ok a, s₁) ∧ f a s₁ = (.error e, s') := by
  rw [bind_run]
  rcases x s with ⟨e' | a, s₁⟩
  · simp
  · constructor
    · intro h
      exact Or.inr ⟨a, s₁, rfl, h⟩
    · rintro (h | ⟨a', s₂, h, hf⟩)
      · cases h
      · cases h
        exact hf

/-! ### What an operation leaves alone -/

section Fixes

variable {τ : Type}

/-- An operation leaves a part of the state as it is, whatever it returns. -/
def Fixes (part : σ → τ) (x : Op σ ε α) : Prop := ∀ s, part (x s).2 = part s

variable {part : σ → τ}

lemma Fixes.run (hx : Fixes part x) {s s' : σ} {r : Except ε α} (h : x s = (r, s')) : part s' = part s := by
  rw [← hx s, h]

lemma Fixes.lift (part : σ → τ) (x : Except ε α) : Fixes part (Op.lift x) := fun _ => rfl

lemma Fixes.pure (part : σ → τ) (a : α) : Fixes part (Pure.pure a : Op σ ε α) := fun _ => rfl

lemma Fixes.get (part : σ → τ) : Fixes part (Op.get : Op σ ε σ) := fun _ => rfl

lemma Fixes.attempt {x : Op σ ε' α} (hx : Fixes part x) :
    Fixes part (Op.attempt x : Op σ ε (Except ε' α)) := hx

lemma Fixes.on {ρ : Type} {piece : σ → ρ} {put : ρ → σ → σ} (hput : ∀ t s, part (put t s) = part s)
    (x : Op ρ ε α) : Fixes part (Op.on piece put x) := fun s => hput (x (piece s)).2 s

lemma Fixes.returning (hx : Fixes part x) : Fixes part (Op.returning x) := hx

lemma Fixes.bind (hx : Fixes part x) (hf : ∀ a, Fixes part (f a)) : Fixes part (x >>= f) := by
  intro s
  rw [bind_run, ← hx s]
  rcases x s with ⟨e | a, s₁⟩
  · rfl
  · exact hf a s₁

lemma Fixes.lift_bind {y : Except ε α} (hf : ∀ a, Fixes part (f a)) : Fixes part (Op.lift y >>= f) :=
  Fixes.bind (Fixes.lift part y) hf

end Fixes

/-! ### What an operation returns -/

section Yields

/-- What an operation returns without an error meets a condition. -/
def Yields (P : α → Prop) (x : Op σ ε α) : Prop := ∀ s a s', x s = (.ok a, s') → P a

variable {P : α → Prop} {Q : β → Prop}

lemma Yields.lift {x : Except ε α} (h : ∀ a, x = .ok a → P a) : Yields P (Op.lift x : Op σ ε α) := by
  intro s a s' hrun
  exact h a (Prod.mk.inj hrun).1

lemma Yields.pure (h : P a) : Yields P (Pure.pure a : Op σ ε α) := by
  intro s b s' hrun
  rw [← Except.ok.inj (Prod.mk.inj hrun).1]
  exact h

lemma Yields.attempt {x : Op σ ε' α} (hx : Yields P x) :
    Yields (fun r => ∀ a, r = .ok a → P a) (Op.attempt x : Op σ ε (Except ε' α)) := by
  intro s r s' hrun a hr
  exact hx s a s' (by rw [attempt_eq_ok.mp hrun, hr])

lemma Yields.bind (hx : Yields P x) (hf : ∀ a, P a → Yields Q (f a)) :
    Yields Q (x >>= f) := by
  intro s b s' hrun
  obtain ⟨a, s₁, ha, hb⟩ := bind_eq_ok.mp hrun
  exact hf a (hx s a s₁ ha) s₁ b s' hb

lemma Yields.bind_any (hf : ∀ a, Yields Q (f a)) : Yields Q (x >>= f) := by
  intro s b s' hrun
  obtain ⟨a, s₁, -, hb⟩ := bind_eq_ok.mp hrun
  exact hf a s₁ b s' hb

end Yields

/-! ### Where an operation can lead -/

section Within

/-- An operation relates the state it starts in to the one it ends in, whatever it returns. -/
def Within (R : σ → σ → Prop) (x : Op σ ε α) : Prop := ∀ s, R s (x s).2

variable {R : σ → σ → Prop}

lemma Within.lift (hrefl : ∀ s, R s s) (x : Except ε α) : Within R (Op.lift x) := hrefl

lemma Within.get (hrefl : ∀ s, R s s) : Within R (Op.get : Op σ ε σ) := hrefl

lemma Within.pure (hrefl : ∀ s, R s s) (a : α) : Within R (Pure.pure a : Op σ ε α) := hrefl

lemma Within.bind (htrans : ∀ s₁ s₂ s₃, R s₁ s₂ → R s₂ s₃ → R s₁ s₃)
    (hx : Within R x) (hf : ∀ a, Within R (f a)) : Within R (x >>= f) := by
  intro s
  have hfirst := hx s
  rw [bind_run]
  rcases hrun : x s with ⟨e | a, s₁⟩
  · rw [hrun] at hfirst
    exact hfirst
  · rw [hrun] at hfirst
    exact htrans _ _ _ hfirst (hf a s₁)

end Within

/-! ### Pre- and postconditions -/

section Meets

/-- The same operation under errors of another type. -/
def mapErr (g : ε' → ε) (x : Op σ ε' α) : Op σ ε α := fun s => (Lib.mapErr g (x s).1, (x s).2)

/-- From a state in `P` the operation ends in `Q` when it returns a value, and in `E` when it returns an error. -/
def Meets (P : σ → Prop) (x : Op σ ε α) (Q : α → σ → Prop) (E : σ → Prop) : Prop := ∀ s, P s →
  (∀ a s', x s = (.ok a, s') → Q a s') ∧ ∀ e s', x s = (.error e, s') → E s'

variable {P : σ → Prop} {Q : α → σ → Prop} {R : β → σ → Prop} {E E' : σ → Prop}

lemma Meets.error (hx : Meets P x Q E') (h : ∀ s, E' s → E s) : Meets P x Q E :=
  fun s hs => ⟨(hx s hs).1, fun e s' hrun => h s' ((hx s hs).2 e s' hrun)⟩

lemma Meets.before {P' : σ → Prop} (hx : Meets P' x Q E) (h : ∀ s, P s → P' s) : Meets P x Q E :=
  fun s hs => hx s (h s hs)

lemma Meets.knowing (hx : c → Meets P x Q E) : Meets (fun s => P s ∧ c) x Q E :=
  fun s hs => hx hs.2 s hs.1

lemma Meets.lift {x : Except ε α} (hok : ∀ a s, x = .ok a → P s → Q a s) (herr : ∀ s, P s → E s) :
    Meets P (Op.lift x) Q E := by
  intro s hs
  constructor
  · intro a s' hrun
    obtain ⟨hx, rfl⟩ := Prod.mk.inj hrun
    exact hok a s hx hs
  · intro e s' hrun
    obtain ⟨-, rfl⟩ := Prod.mk.inj hrun
    exact herr s hs

lemma Meets.pure (h : ∀ s, P s → Q a s) : Meets P (Pure.pure a : Op σ ε α) Q E := by
  intro s hs
  constructor
  · intro b s' hrun
    obtain ⟨hval, rfl⟩ := Prod.mk.inj hrun
    rw [← Except.ok.inj hval]
    exact h s hs
  · intro e s' hrun
    cases hrun

lemma Meets.get : Meets P (Op.get : Op σ ε σ) (fun a s => a = s ∧ P s) E := by
  intro s hs
  constructor
  · intro a s' hrun
    obtain ⟨hval, rfl⟩ := Prod.mk.inj hrun
    exact ⟨(Except.ok.inj hval).symm, hs⟩
  · intro e s' hrun
    cases hrun

lemma Meets.bind (hx : Meets P x Q E) (hf : ∀ a, Meets (Q a) (f a) R E) :
    Meets P (x >>= f) R E := by
  intro s hs
  obtain ⟨hok, herr⟩ := hx s hs
  constructor
  · intro b s' hrun
    obtain ⟨a, s₁, ha, hb⟩ := bind_eq_ok.mp hrun
    exact (hf a s₁ (hok a s₁ ha)).1 b s' hb
  · intro e s' hrun
    rcases bind_eq_error.mp hrun with he | ⟨a, s₁, ha, he⟩
    · exact herr e s' he
    · exact (hf a s₁ (hok a s₁ ha)).2 e s' he

lemma meets_same_iff : Meets P x (fun _ => E) E ↔ ∀ s, P s → E (x s).2 := by
  constructor
  · intro h s hs
    rcases hrun : x s with ⟨e | a, s'⟩
    · exact (h s hs).2 e s' hrun
    · exact (h s hs).1 a s' hrun
  · intro h s hs
    have hend := h s hs
    constructor
    · intro a s' hrun
      rw [hrun] at hend
      exact hend
    · intro e s' hrun
      rw [hrun] at hend
      exact hend

/-- A step that does not touch the state: what follows knows what it returned. -/
lemma Meets.lift_bind {x : Except ε α} (herr : ∀ s, P s → E s)
    (hf : ∀ a, x = .ok a → Meets P (f a) R E) : Meets P (Op.lift x >>= f) R E :=
  (Meets.lift (Q := fun a s => P s ∧ x = .ok a) (fun _ _ hx hs => ⟨hs, hx⟩) herr).bind fun a => Meets.knowing (hf a)

/-- A step that only reads the state: what follows knows what it returned, and from which state. -/
lemma Meets.read_bind (hx : Fixes id x) (herr : ∀ s, P s → E s)
    (hf : ∀ a s, P s → x s = (.ok a, s) → Meets P (f a) R E) : Meets P (x >>= f) R E := by
  refine Meets.bind (Q := fun a s => P s ∧ ∃ t, P t ∧ x t = (.ok a, t)) ?_ fun a => Meets.knowing ?_
  · intro s hs
    constructor
    · intro a s' hrun
      obtain rfl : s' = s := hx.run hrun
      exact ⟨hs, s', hs, hrun⟩
    · intro e s' hrun
      obtain rfl : s' = s := hx.run hrun
      exact herr s' hs
  · rintro ⟨t, ht, hrun⟩
    exact hf a t ht hrun

lemma Meets.mapErr {g : ε' → ε} {x : Op σ ε' α} (hx : Meets P x Q E) : Meets P (Op.mapErr g x) Q E := by
  intro s hs
  obtain ⟨hok, herr⟩ := hx s hs
  constructor
  · intro a s' hrun
    obtain ⟨hval, hstate⟩ := Prod.mk.inj hrun
    exact hok a s' (Prod.ext (mapErr_eq_ok.mp hval) hstate)
  · intro e s' hrun
    obtain ⟨hval, hstate⟩ := Prod.mk.inj hrun
    obtain ⟨e', he', -⟩ := mapErr_eq_error.mp hval
    exact herr e' s' (Prod.ext he' hstate)

/-- An operation that fixes a part of the state keeps what is known of that part. -/
lemma Fixes.meets {τ : Type} {part : σ → τ} (hx : Fixes part x) (I : τ → Prop) :
    Meets (fun s => I (part s)) x (fun _ s => I (part s)) (fun s => I (part s)) := by
  refine meets_same_iff.mpr fun s hs => ?_
  rw [hx s]
  exact hs

/-- The rule of a loop over a list: `I` holds of what is left of the list. -/
lemma Meets.forM {γ : Type} {f : γ → Op σ ε Unit} {I : List γ → σ → Prop}
    (hf : ∀ a rest, Meets (I (a :: rest)) (f a) (fun _ => I rest) E) (l : List γ) :
    Meets (I l) (l.forM f) (fun _ => I []) E := by
  induction l with
  | nil =>
    intro s hs
    constructor
    · intro _ s' hrun
      obtain ⟨-, rfl⟩ := Prod.mk.inj hrun
      exact hs
    · intro e s' hrun
      cases hrun
  | cons a l ih => exact (hf a l).bind fun _ => ih

end Meets

end Op

end TeechatOpenapi.Lib
