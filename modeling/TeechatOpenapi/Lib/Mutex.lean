import TeechatOpenapi.Lib.Outcome

/-!
# Poisoned locks

A mutex whose holder panicked is poisoned, and `lock().expect(..)` panics from then on.
-/

namespace TeechatOpenapi.Lib

/-- A mutex with its data; it is poisoned when a holder panicked. -/
structure Mutex (σ : Type) where
  data : σ
  poisoned : Bool

variable {σ ε α : Type}

/-- The call panicked. -/
def panics : Except (Fault ε) α → Bool
  | .error .panicked => true
  | _ => false

namespace Mutex

def new (data : σ) : Mutex σ := ⟨data, false⟩

/-- `let guard = m.lock().expect(..);` and what is done up to the end of the guard. -/
def locked (x : Op σ (Fault ε) α) : Op (Mutex σ) (Fault ε) α := fun m =>
  if m.poisoned then (.error .panicked, m)
  else ((x m.data).1, ⟨(x m.data).2, panics (x m.data).1⟩)

variable {x : Op σ (Fault ε) α} {m : Mutex σ}

lemma locked_poisoned (h : m.poisoned = true) : locked x m = (.error .panicked, m) := if_pos h

lemma locked_free (h : m.poisoned = false) :
    locked x m = ((x m.data).1, ⟨(x m.data).2, panics (x m.data).1⟩) := if_neg (Bool.eq_false_iff.mp h)

/-- What a holder keeps of the data, whatever becomes of the lock. -/
lemma locked_inv {I : σ → Prop} (hx : ∀ s, I s → I (x s).2) (h : I m.data) : I (locked x m).2.data := by
  cases hm : m.poisoned with
  | true =>
    rw [locked_poisoned hm]
    exact h
  | false =>
    rw [locked_free hm]
    exact hx _ h

end Mutex

end TeechatOpenapi.Lib
