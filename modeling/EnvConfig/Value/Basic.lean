import EnvConfig.Entries
import EnvConfig.Number.Binary
import EnvConfig.Schema.Kind

/-!
# Values

A value is what a field holds: a scalar, a list, a map from texts to texts, or a message with
values of its own.  A field that a message does not list is unset.

* `Value.get?`, `Value.set`: the fields of a message; other values have none, and keep none;
* `Value.isZero`: what an unset field reads as; no message is zero.
-/

namespace EnvConfig

open Number

inductive Value where
  | bool (b : Bool)
  | int32 (n : Int32)
  | int64 (n : Int64)
  | uint32 (n : UInt32)
  | uint64 (n : UInt64)
  | float (x : Single)
  | double (x : Double)
  | string (s : String)
  | list (items : List Value)
  | map (entries : Entries String)
  | message (name : String) (fields : List (String × Value))
deriving Repr, Inhabited

namespace Value

/-- the message `name` with every field unset -/
def empty (name : String) : Value := message name []

/-- the value of a field; unset fields, and values other than messages, have none -/
def get? (field : String) : Value → Option Value
  | message _ fields => Entries.get? field fields
  | _ => none

/-- the message with `v` in a field; any other value as it is -/
def set (w : Value) (field : String) (v : Value) : Value :=
  match w with
  | message name fields => message name (Entries.insert field v fields)
  | other => other

def isZero : Value → Bool
  | bool b => !b
  | int32 n => n == 0
  | int64 n => n == 0
  | uint32 n => n == 0
  | uint64 n => n == 0
  | float x => x.isZero
  | double x => x.isZero
  | string s => s == ""
  | list items => items.isEmpty
  | map entries => entries.isEmpty
  | message _ _ => false

/-- the flag that a value is, false for all else -/
def asBool : Value → Bool
  | bool b => b
  | _ => false

/-- the items of a list, none for all else -/
def asList : Value → List Value
  | list items => items
  | _ => []

/-- the entries of a map -/
def asMap? : Value → Option (Entries String)
  | map entries => some entries
  | _ => none

/-- the number of items or entries, zero for all else -/
def size : Value → Nat
  | list items => items.length
  | map entries => entries.length
  | _ => 0

/-- the zero of a storage kind -/
def zero : Storage → Value
  | .double => double .zero
  | .float => float .zero
  | .int32 => int32 0
  | .int64 => int64 0
  | .uint32 => uint32 0
  | .uint64 => uint64 0
  | .bool => bool false
  | .string => string ""

theorem isZero_zero (s : Storage) : (zero s).isZero = true := by cases s <;> decide

theorem get?_set_self (name field : String) (fields : List (String × Value)) (v : Value) :
    ((message name fields).set field v).get? field = some v :=
  Entries.get?_insert_self field v fields

theorem get?_set_of_ne {field other : String} (v w : Value) (h : other ≠ field) :
    (w.set field v).get? other = w.get? other := by
  cases w with
  | message name fields => exact Entries.get?_insert_of_ne v fields h
  | _ => rfl

theorem set_of_get? {field : String} {v w : Value} (h : w.get? field = some v) :
    w.set field v = w := by
  cases w with
  | message name fields => exact congrArg (message name) (Entries.insert_of_get? h)
  | _ => rfl

/-! ### equality -/

mutual

/-- equality of values; numbers are compared as numbers, so not every value equals itself -/
def same : Value → Value → Bool
  | bool a, bool b => a == b
  | int32 a, int32 b => a == b
  | int64 a, int64 b => a == b
  | uint32 a, uint32 b => a == b
  | uint64 a, uint64 b => a == b
  | float a, float b => a.same b
  | double a, double b => a.same b
  | string a, string b => a == b
  | list as, list bs => sameItems as bs
  | map as, map bs => as == bs
  | message m as, message n bs => m == n && sameFields as bs
  | _, _ => false

def sameItems : List Value → List Value → Bool
  | [], [] => true
  | a :: as, b :: bs => same a b && sameItems as bs
  | _, _ => false

def sameFields : List (String × Value) → List (String × Value) → Bool
  | [], [] => true
  | (j, a) :: as, (k, b) :: bs => j == k && same a b && sameFields as bs
  | _, _ => false

end

end Value

end EnvConfig
