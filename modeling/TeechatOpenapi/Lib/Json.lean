import TeechatOpenapi.Lib.Text
import TeechatOpenapi.Lib.Outcome

/-!
# JSON trees

A `Json` is the tree of a JSON text, with the members of an object in the order of the text and repeated
member names kept.  Two ways of reading one are modelled:

* as a `serde_json::Value` (`get?`, `asStr?`, ..): of two members with one name the last wins;
* through a derived `Deserialize` (`slot`, `required`, `defaulted`, ..): a struct is an object or an array of
  its fields in declaration order, a repeated field is an error, an unknown member is ignored.
-/

namespace TeechatOpenapi.Lib

/-- A JSON number: an integer in the range of `u64`, a negative integer `-(n + 1)`, or the bits of an `f64`. -/
inductive Number where
  | posInt (n : Nat)
  | negInt (n : Nat)
  | float (bits : UInt64)
  deriving DecidableEq, Repr

/-- The tree of a JSON text. -/
inductive Json where
  | null
  | bool (b : Bool)
  | number (n : Number)
  | string (s : Str)
  | array (elems : List Json)
  | object (members : List (Str × Json))
  deriving Repr, Inhabited

namespace Json

def get? : Json → Str → Option Json
  | .object ms, key => (ms.reverse.find? fun m => m.1 = key).map Prod.snd
  | _, _ => none

def asStr? : Json → Option Str
  | .string s => some s
  | _ => none

def asU64? : Json → Option Nat
  | .number (.posInt n) => some n
  | _ => none

def asBool? : Json → Option Bool
  | .bool b => some b
  | _ => none

def asArray? : Json → Option (List Json)
  | .array xs => some xs
  | _ => none

def isNull : Json → Bool
  | .null => true
  | _ => false

def asObject? : Json → Option (List (Str × Json))
  | .object ms => some ms
  | _ => none

/-- `value.get(key).and_then(|v| v.as_str())`. -/
def getStr? (j : Json) (key : Str) : Option Str := (j.get? key).bind asStr?

/-- `value[key] = v` on an object. -/
def set (j : Json) (key : Str) (v : Json) : Json :=
  match j with
  | .object ms => .object (ms.filter (fun m => m.1 ≠ key) ++ [(key, v)])
  | j => j

/-- What a derived visitor finds for a field: a value, no member of that name, or an array that ends before
its position. -/
inductive Slot where
  | given (j : Json)
  | missing
  | short

/-- The `i`-th field `name` of a struct with `arity` fields; `none` when the tree is no such struct. -/
def slot (arity : Nat) (j : Json) (i : Nat) (name : Str) : Option Slot :=
  match j with
  | .object ms =>
    match ms.filter fun m => m.1 = name with
    | [] => some .missing
    | [m] => some (.given m.2)
    | _ => none
  | .array xs => if xs.length ≤ arity then some (xs[i]?.elim .short .given) else none
  | _ => none

/-- A field without `#[serde(default)]`. -/
def required {α : Type} (read : Json → Option α) : Option Slot → Option α
  | some (.given j) => read j
  | _ => none

/-- A field with `#[serde(default)]`. -/
def defaulted {α : Type} (default : α) (read : Json → Option α) : Option Slot → Option α
  | some (.given j) => read j
  | some _ => some default
  | none => none

/-- An `Option` value: `null` is `None`. -/
def nullable {α : Type} (read : Json → Option α) : Json → Option (Option α)
  | .null => some none
  | j => (read j).map some

/-- An `Option` field without `#[serde(default)]`: a member that is missing is `None`. -/
def optional {α : Type} (read : Json → Option α) : Option Slot → Option (Option α)
  | some (.given j) => nullable read j
  | some .missing => some none
  | _ => none

def vec {α : Type} (read : Json → Option α) : Json → Option (List α)
  | .array xs => xs.mapM read
  | _ => none

/-- A map from strings; of several members with one name the last counts. -/
def mapOf {α : Type} (read : Json → Option α) : Json → Option (List (Str × α))
  | .object ms => ms.mapM fun m => (read m.2).map fun v => (m.1, v)
  | _ => none

/-- An unsigned integer of a type with largest value `hi`. -/
def asUnsigned? (hi : Nat) (j : Json) : Option Nat := (asU64? j).filter (· ≤ hi)

lemma required_asUnsigned?_le {hi n : Nat} {slot : Option Slot} (h : required (asUnsigned? hi) slot = some n) :
    n ≤ hi := by
  rcases slot with _ | j | _ | _
  · cases h
  · exact of_decide_eq_true (Option.filter_eq_some_iff.mp h).2
  · cases h
  · cases h

end Json

end TeechatOpenapi.Lib
