import Gazetteer.Decimal.Shortest

/-!
# Value/Basic — data as it comes from a server, a cache file or a settings file

A `Value` is a scalar, an array or an object whose members keep the order they were written in.
Numbers are integers of any size or floats, and compare by what they denote, a truth value counting
as the integer 0 or 1.
-/

namespace Gazetteer

/-- Data of any shape. -/
inductive Value where
  | null
  | bool (b : Bool)
  | int (n : Int)
  | float (x : Float)
  | string (s : String)
  | array (items : List Value)
  | object (members : List (String × Value))
deriving Inhabited, Repr

namespace Value

/-- The word for a value's type in messages. -/
def typeName : Value → String
  | null => "NoneType"
  | bool _ => "bool"
  | int _ => "int"
  | float _ => "float"
  | string _ => "str"
  | array _ => "list"
  | object _ => "dict"

/-- Whether a value counts as given: neither null, false, zero nor empty. -/
def isGiven : Value → Bool
  | null => false
  | bool b => b
  | int n => n != 0
  | float x => x != 0
  | string s => s != ""
  | array items => !items.isEmpty
  | object members => !members.isEmpty

/-- Whether a value can name a column or be looked up by. -/
def isKey : Value → Bool
  | array _ | object _ => false
  | _ => true

/-- The value stored under a key: the first one, if the key is repeated. -/
def find? (key : String) (members : List (String × Value)) : Option Value :=
  (members.find? fun m => m.1 == key).map (·.2)

/-- Puts a value under a key: in the key's place if it is there, and else at the end. -/
def put {κ : Type} [BEq κ] {α : Type} (key : κ) (value : α) : List (κ × α) → List (κ × α)
  | [] => [(key, value)]
  | (k, v) :: rest => if k == key then (k, value) :: rest else (k, v) :: put key value rest

/-- The integer a number denotes exactly. -/
def floatIsInt (x : Float) (n : Int) : Bool :=
  if x.isNaN || x.isInf then false
  else
    let p := Decimal.partsOf x
    let size : Bool :=
      if p.exponent ≥ 0 then p.mantissa * Nat.pow 2 p.exponent.toNat == n.natAbs
      else p.mantissa == n.natAbs * Nat.pow 2 (-p.exponent).toNat
    size && (p.mantissa == 0 || p.negative == decide (n < 0))

/-- A truth value as a number. -/
def ofBool (b : Bool) : Int := if b then 1 else 0

mutual

/-- Whether two values are equal: numbers by what they denote, arrays item by item, objects member
by member in any order. -/
def same : Value → Value → Bool
  | null, null => true
  | string s, string t => s == t
  | bool a, bool b => a == b
  | bool a, int n => ofBool a == n
  | int n, bool b => n == ofBool b
  | bool a, float x => floatIsInt x (ofBool a)
  | float x, bool b => floatIsInt x (ofBool b)
  | int m, int n => m == n
  | int n, float x => floatIsInt x n
  | float x, int n => floatIsInt x n
  | float x, float y => x == y
  | array xs, array ys => sameItems xs ys
  | object xs, object ys => xs.length == ys.length && sameMembers xs ys
  | _, _ => false

/-- Whether two arrays are equal. -/
def sameItems : List Value → List Value → Bool
  | [], [] => true
  | x :: xs, y :: ys => same x y && sameItems xs ys
  | _, _ => false

/-- Whether every member of one object has an equal in another. -/
def sameMembers : List (String × Value) → List (String × Value) → Bool
  | [], _ => true
  | (k, v) :: rest, ys =>
    (match find? k ys with
      | some w => same v w
      | none => false) && sameMembers rest ys

end

instance : BEq Value := ⟨same⟩

@[simp] theorem same_string (s t : String) : same (string s) (string t) = (s == t) := by
  simp [same]

@[simp] theorem same_int (m n : Int) : same (int m) (int n) = (m == n) := by
  simp [same]

end Value

end Gazetteer
