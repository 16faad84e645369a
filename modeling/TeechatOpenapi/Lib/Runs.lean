import Mathlib.Order.Basic

/-!
# Runs

A system takes an input in a state; a run is a list of inputs.
-/

namespace TeechatOpenapi.Lib

variable {σ ι : Type}

/-- The state after a list of inputs. -/
def runAll (step : σ → ι → σ) (s : σ) (inputs : List ι) : σ := inputs.foldl step s

lemma runAll_append (step : σ → ι → σ) (s : σ) (inputs inputs' : List ι) :
    runAll step s (inputs ++ inputs') = runAll step (runAll step s inputs) inputs' := List.foldl_append

lemma runAll_singleton (step : σ → ι → σ) (s : σ) (i : ι) : runAll step s [i] = step s i := rfl

variable {inputs : List ι} {I : σ → Prop}

variable {s : σ}

/-- An invariant that holds at the start and is kept by every input of the run holds at the end. -/
lemma runAll_inv {step : σ → ι → σ} {P : ι → Prop} (hstep : ∀ s i, P i → I s → I (step s i))
    (hinputs : ∀ i ∈ inputs, P i) (h : I s) : I (runAll step s inputs) := by
  induction inputs generalizing s with
  | nil => exact h
  | cons i inputs ih =>
    exact ih (fun j hj => hinputs j (List.mem_cons_of_mem i hj))
      (hstep s i (hinputs i List.mem_cons_self) h)

/-- The state after a list of inputs, when each is possible in its turn. -/
def exec (step : σ → ι → Option σ) : σ → List ι → Option σ
  | s, [] => some s
  | s, i :: inputs => (step s i).bind (exec step · inputs)

variable {step : σ → ι → Option σ}

lemma exec_cons {s' : σ} {i : ι} :
    exec step s (i :: inputs) = some s' ↔ ∃ s₁, step s i = some s₁ ∧ exec step s₁ inputs = some s' :=
  Option.bind_eq_some_iff

lemma exec_append {s' : σ} {inputs' : List ι} :
    exec step s (inputs ++ inputs') = some s' ↔
      ∃ s₁, exec step s inputs = some s₁ ∧ exec step s₁ inputs' = some s' := by
  induction inputs generalizing s with
  | nil => simp [exec]
  | cons i inputs ih =>
    rw [List.cons_append, exec_cons]
    constructor
    · rintro ⟨s₁, hs, h⟩
      obtain ⟨s₂, h₁, h₂⟩ := ih.mp h
      exact ⟨s₂, exec_cons.mpr ⟨s₁, hs, h₁⟩, h₂⟩
    · rintro ⟨s₂, h₁, h₂⟩
      obtain ⟨s₁, hs, h₁⟩ := exec_cons.mp h₁
      exact ⟨s₁, hs, ih.mpr ⟨s₂, h₁, h₂⟩⟩

lemma exec_inv (hstep : ∀ s i s', step s i = some s' → I s → I s')
    {s' : σ} (hexec : exec step s inputs = some s') (h : I s) : I s' := by
  induction inputs generalizing s with
  | nil =>
    obtain rfl := Option.some.inj hexec
    exact h
  | cons i inputs ih =>
    obtain ⟨s₁, hs, hrest⟩ := exec_cons.mp hexec
    exact ih hrest (hstep s i s₁ hs h)

/-- The invariant rule for what is said of the state and the inputs so far. -/
lemma exec_inv_past {I : List ι → σ → Prop} (hstep : ∀ past s i s', step s i = some s' → I past s → I (past ++ [i]) s')
    (past : List ι) {s' : σ} (hexec : exec step s inputs = some s') (h : I past s) : I (past ++ inputs) s' := by
  induction inputs generalizing s past with
  | nil =>
    obtain rfl := Option.some.inj hexec
    rwa [List.append_nil]
  | cons i inputs ih =>
    obtain ⟨s₁, hs, hrest⟩ := exec_cons.mp hexec
    rw [List.append_cons]
    exact ih _ hrest (hstep past s i s₁ hs h)

/-- A reflexive and transitive relation that every step respects relates the ends of a run. -/
lemma exec_rel {R : σ → σ → Prop} (hrefl : ∀ s, R s s)
    (htrans : ∀ s₁ s₂ s₃, R s₁ s₂ → R s₂ s₃ → R s₁ s₃) (hstep : ∀ s i s', step s i = some s' → R s s')
    {s' : σ} (hexec : exec step s inputs = some s') : R s s' :=
  exec_inv (I := R s) (fun _ i _ hs h => htrans _ _ _ h (hstep _ i _ hs)) hexec (hrefl s)

/-- Every step of the run meets a condition on its input and the state it is taken in. -/
def Along (step : σ → ι → Option σ) (P : σ → ι → Prop) : σ → List ι → Prop
  | _, [] => True
  | s, i :: inputs => P s i ∧ ∀ s₁, step s i = some s₁ → Along step P s₁ inputs

variable {P : σ → ι → Prop}

lemma Along.cons {s₁ : σ} {i : ι} (hP : P s i)
    (hs : step s i = some s₁) (h : Along step P s₁ inputs) : Along step P s (i :: inputs) := by
  refine ⟨hP, fun s₂ hs₂ => ?_⟩
  obtain rfl : s₁ = s₂ := Option.some.inj (hs.symm.trans hs₂)
  exact h

lemma Along.of_forall (h : ∀ i ∈ inputs, ∀ s, P s i) : Along step P s inputs := by
  induction inputs generalizing s with
  | nil => exact trivial
  | cons i inputs ih =>
    exact ⟨h i List.mem_cons_self s, fun _ _ => ih fun j hj => h j (List.mem_cons_of_mem i hj)⟩

/-- The invariant rule for runs whose steps meet a condition. -/
lemma exec_inv_along (hstep : ∀ s i s', P s i → step s i = some s' → I s → I s') {s' : σ}
    (hP : Along step P s inputs) (hexec : exec step s inputs = some s') (h : I s) : I s' := by
  induction inputs generalizing s with
  | nil =>
    obtain rfl := Option.some.inj hexec
    exact h
  | cons i inputs ih =>
    obtain ⟨s₁, hs, hrest⟩ := exec_cons.mp hexec
    exact ih (hP.2 s₁ hs) hrest (hstep s i s₁ hP.1 hs h)

/-- A condition that follows from an invariant holds along a run that keeps it. -/
lemma along_imp {Q : σ → ι → Prop}
    (hstep : ∀ s i s', P s i → step s i = some s' → I s → I s') (himp : ∀ s i, P s i → I s → Q s i)
    (hP : Along step P s inputs) (h : I s) : Along step Q s inputs := by
  induction inputs generalizing s with
  | nil => exact trivial
  | cons i inputs ih =>
    exact ⟨himp s i hP.1 h, fun s₁ hs => ih (hP.2 s₁ hs) (hstep s i s₁ hP.1 hs h)⟩

/-- Two conditions that agree wherever an invariant holds agree along a run that keeps it. -/
lemma along_congr {Q R : σ → ι → Prop}
    (hstep : ∀ s i s', P s i → step s i = some s' → I s → I s') (heq : ∀ s i, P s i → I s → (Q s i ↔ R s i))
    (hP : Along step P s inputs) (h : I s) :
    Along step Q s inputs ↔ Along step R s inputs := by
  induction inputs generalizing s with
  | nil => exact Iff.rfl
  | cons i inputs ih =>
    refine and_congr (heq s i hP.1 h) (forall_congr' fun s₁ => forall_congr' fun hs => ?_)
    exact ih (hP.2 s₁ hs) (hstep s i s₁ hP.1 hs h)

end TeechatOpenapi.Lib
