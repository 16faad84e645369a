import Mathlib.Data.List.Forall2

/-!
# Lists picked by label

A reader that takes entries out of a source by label gets a list that need not follow the source: labels may skip,
repeat or go backwards.
-/

namespace TeechatOpenapi.Lib

variable {α : Type}

/-- The entries that `labels` select from `source`, where `place` turns a label into a position. -/
def Picked (source : List α) (place : Nat → Nat) (labels : List Nat) (got : List α) : Prop :=
  List.Forall₂ (fun l a => source[place l]? = some a) labels got

namespace Picked

variable {source got : List α} {place : Nat → Nat} {labels : List Nat}

lemma nil : Picked source place [] [] := List.Forall₂.nil

lemma snoc {l : Nat} {a : α} (h : Picked source place labels got) (ha : source[place l]? = some a) :
    Picked source place (labels ++ [l]) (got ++ [a]) := by
  induction h with
  | nil => exact .cons ha .nil
  | cons hl _ ih => exact .cons hl ih

lemma getElem? (h : Picked source place labels got) (k : Nat) :
    got[k]? = (labels[k]?).bind fun l => source[place l]? := by
  induction h generalizing k with
  | nil => simp
  | cons hl _ ih =>
    cases k with
    | zero => simp [hl]
    | succ k => simpa using ih k

lemma prefix_iff (h : Picked source place labels got) :
    got <+: source ↔ ∀ k l : Nat, labels[k]? = some l → source[place l]? = source[k]? := by
  have hlen : labels.length = got.length := List.Forall₂.length_eq h
  rw [List.prefix_iff_getElem?]
  constructor
  · intro hp k l hl
    have hk : k < got.length := hlen ▸ (List.getElem?_eq_some_iff.mp hl).1
    have hgot : got[k]? = source[place l]? := by rw [h.getElem? k, hl, Option.bind_some]
    rw [← hgot, hp k hk, List.getElem?_eq_getElem hk]
  · intro hall k hk
    have hl : labels[k]? = some labels[k] := List.getElem?_eq_getElem (hlen ▸ hk)
    rw [← hall k _ hl, ← List.getElem?_eq_getElem hk, h.getElem? k, hl, Option.bind_some]

end Picked

end TeechatOpenapi.Lib
