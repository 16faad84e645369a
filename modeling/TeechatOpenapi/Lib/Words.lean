import TeechatOpenapi.Lib.Text

/-!
# Machine integers

A computation with machine integers is given by the exact results of its operations, each with the type it is computed
in.  As long as all of them are values of their types no operation overflows, and the wrapped results are the exact
ones.
-/

namespace TeechatOpenapi.Lib

/-- The integer types of the computations. -/
inductive Word where
  | u32
  | u64
  | i64
  deriving DecidableEq

def Word.min : Word → Int
  | .u32 => 0
  | .u64 => 0
  | .i64 => -2 ^ 63

def Word.max : Word → Int
  | .u32 => 2 ^ 32 - 1
  | .u64 => 2 ^ 64 - 1
  | .i64 => 2 ^ 63 - 1

/-- A number is a value of the type. -/
def Word.Holds (w : Word) (x : Int) : Prop := w.min ≤ x ∧ x ≤ w.max

instance (w : Word) (x : Int) : Decidable (w.Holds x) := inferInstanceAs (Decidable (_ ∧ _))

/-- No operation of a computation overflows. -/
def NoOverflow (steps : List (Word × Int)) : Prop := ∀ s ∈ steps, s.1.Holds s.2

instance (steps : List (Word × Int)) : Decidable (NoOverflow steps) :=
  inferInstanceAs (Decidable (∀ s ∈ steps, s.1.Holds s.2))

@[simp] lemma noOverflow_nil : NoOverflow [] := fun _ h => absurd h List.not_mem_nil

variable {x : Int}

@[simp] lemma noOverflow_cons {w : Word} {steps : List (Word × Int)} :
    NoOverflow ((w, x) :: steps) ↔ w.Holds x ∧ NoOverflow steps := List.forall_mem_cons

@[simp] lemma noOverflow_append {steps more : List (Word × Int)} :
    NoOverflow (steps ++ more) ↔ NoOverflow steps ∧ NoOverflow more := List.forall_mem_append

lemma holds_u32 : Word.u32.Holds x ↔ 0 ≤ x ∧ x ≤ 4294967295 := Iff.rfl

lemma holds_u64 : Word.u64.Holds x ↔ 0 ≤ x ∧ x ≤ 18446744073709551615 := Iff.rfl

lemma holds_i64 : Word.i64.Holds x ↔ -9223372036854775808 ≤ x ∧ x ≤ 9223372036854775807 := Iff.rfl

lemma wrapI64_eq (h : -9223372036854775808 ≤ x ∧ x ≤ 9223372036854775807) : wrapI64 x = x :=
  Int.bmod_eq_of_le (by omega) (by omega)

lemma wrapU64_eq (h : 0 ≤ x ∧ x ≤ 18446744073709551615) : (wrapU64 x : Int) = x := by
  rw [wrapU64, Int.emod_eq_of_lt h.1 (by omega), Int.toNat_of_nonneg h.1]

end TeechatOpenapi.Lib
