import Gazetteer.Entity
import Gazetteer.Fault
import Gazetteer.Lexeme

/-!
# Dictionary/Basic — entity records and an index by alias

A dictionary keeps its records in the order they were added, repeated ones included, and an index
that holds the records of each alias key in the same order. A record whose alias has no lexeme is
left out. `longest` is the greatest number of lexemes in a stored alias, and bounds how far a search
for a match has to look.
-/

namespace Gazetteer

/-- The records of each alias key, in the order the keys first came up. -/
abbrev AliasIndex := List (String × List Entity)

namespace AliasIndex

/-- The records stored under a key. -/
def find (key : String) : AliasIndex → List Entity
  | [] => []
  | (k, bucket) :: rest => if k = key then bucket else find key rest

/-- Whether a key is stored. -/
def has (key : String) : AliasIndex → Bool
  | [] => false
  | (k, _) :: rest => k = key || has key rest

/-- The index with one more record at the end of a key's bucket. -/
def push (key : String) (e : Entity) : AliasIndex → AliasIndex
  | [] => [(key, [e])]
  | (k, bucket) :: rest =>
    if k = key then (k, bucket ++ [e]) :: rest else (k, bucket) :: push key e rest

@[simp] theorem find_push_self (key : String) (e : Entity) : ∀ index : AliasIndex,
    find key (push key e index) = find key index ++ [e]
  | [] => by simp [push, find]
  | (k, bucket) :: rest => by
      by_cases h : k = key
      · simp [push, find, h]
      · simp [push, find, h, find_push_self key e rest]

theorem find_push_of_ne {key other : String} (h : other ≠ key) (e : Entity) :
    ∀ index : AliasIndex, find other (push key e index) = find other index
  | [] => by simp [push, find, Ne.symm h]
  | (k, bucket) :: rest => by
      by_cases hk : k = key
      · subst hk; simp [push, find, Ne.symm h]
      · by_cases ho : k = other
        · simp [push, find, ho, h]
        · simp [push, find, hk, ho, find_push_of_ne h e rest]

end AliasIndex

/-- Entity records indexed by alias. -/
structure Dictionary where
  records : List Entity := []
  index : AliasIndex := []
  longest : Nat := 0
deriving Repr, Inhabited

namespace Dictionary

/-- The dictionary without records. -/
def empty : Dictionary := {}

/-- The dictionary with a record stored under a key. -/
def insert (d : Dictionary) (key : String) (e : Entity) : Dictionary where
  records := d.records ++ [e]
  index := AliasIndex.push key e d.index
  longest := max d.longest (Alias.keySize key)

/-- The dictionary with one more record. The alias has to be a text; without a lexeme in it nothing
is stored. -/
def add (d : Dictionary) (e : Entity) : Except Fault Dictionary :=
  match e.label with
  | .string label =>
    let key := Alias.key label
    if key = "" then .ok d else .ok (d.insert key e)
  | v => .error (.shape (.notText v.typeName))

/-- The records stored under a key. -/
def lookupKey (d : Dictionary) (key : String) : List Entity := AliasIndex.find key d.index

/-- The records of an alias. -/
def lookup (d : Dictionary) (label : String) : List Entity := d.lookupKey (Alias.key label)

/-- Whether an alias is stored. -/
def hasAlias (d : Dictionary) (label : String) : Bool := AliasIndex.has (Alias.key label) d.index

/-- How many records a dictionary holds. -/
def size (d : Dictionary) : Nat := d.records.length

/-- The dictionary with records added one after the other; the first that is refused ends it. -/
def addAll : Dictionary → List Entity → Except Fault Dictionary
  | d, [] => .ok d
  | d, e :: rest =>
    match d.add e with
    | .ok d => addAll d rest
    | .error fault => .error fault

end Dictionary

end Gazetteer
