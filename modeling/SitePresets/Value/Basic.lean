import SitePresets.Numeral.Binary64
import SitePresets.Table

/-!
# Values

Values of the data that come from outside: declared defaults, requests and documents. The fields of a
record keep their order.
-/

namespace SitePresets

open Numeral

inductive Value where
  | null
  | flag (b : Bool)
  | integer (z : Int)
  | real (x : Binary64)
  | text (s : String)
  /-- A text with half of a surrogate pair: no sequence of characters. -/
  | halfText
  | list (items : List Value)
  | record (fields : List (String × Value))
  deriving Inhabited, Repr

namespace Value

/-- The field of a record; absent in everything else. -/
def field? (name : String) : Value → Option Value
  | record fields => Table.find? name fields
  | _ => none

/-- A field that counts as absent when it is null. -/
def fieldNotNull? (name : String) (value : Value) : Option Value :=
  match value.field? name with
  | some null => none
  | found => found

def ofText? : Option String → Value
  | some s => text s
  | none => null

def ofInteger? : Option Int → Value
  | some z => integer z
  | none => null

def ofNat (n : Nat) : Value := integer n

def ofPairs (pairs : List (String × Value)) : Value :=
  list (pairs.map fun (key, value) => list [text key, value])

def texts (items : List String) : Value :=
  list (items.map text)

/-- Whether the value counts as set: not null, false, zero or empty. -/
def isSet : Value → Bool
  | null => false
  | flag b => b
  | integer z => z ≠ 0
  | real x => !x.isZero
  | text s => s ≠ ""
  | halfText => true
  | list items => !items.isEmpty
  | record fields => !fields.isEmpty

mutual

/-- Whether each part of the value that has no parts of its own passes a test. -/
def all (test : Value → Bool) : Value → Bool
  | list items => allItems test items
  | record fields => allFields test fields
  | null => test null
  | flag b => test (flag b)
  | integer z => test (integer z)
  | real x => test (real x)
  | text s => test (text s)
  | halfText => test halfText

def allItems (test : Value → Bool) : List Value → Bool
  | [] => true
  | item :: rest => item.all test && allItems test rest

def allFields (test : Value → Bool) : List (String × Value) → Bool
  | [] => true
  | (_, value) :: rest => value.all test && allFields test rest

end

end Value

end SitePresets
