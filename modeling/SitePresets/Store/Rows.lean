import SitePresets.Numbering
import SitePresets.Store.Change
import SitePresets.Table

/-!
# The store in a database

A store over database rows. Secrets are stored encrypted, a missing value has no row, and the rows of
the log carry their numbers.
-/

namespace SitePresets

/-- A stored text: as it is, or encrypted. -/
inductive Stored where
  | plain (text : String)
  | sealed (text : String)
  deriving DecidableEq, Repr

namespace Stored

/-- What is stored under a name: secrets that are not empty are encrypted. -/
def encode (name text : String) : Stored :=
  if text ≠ "" ∧ isSecretName name then .sealed text else .plain text

/-- What a stored text means. Under the name of a secret a text that is not encrypted, and not empty,
cannot be read. -/
def decode (stored : Stored) (name : String) : Except Refusal String :=
  match stored with
  | sealed text => .ok text
  | plain text =>
    if text ≠ "" ∧ isSecretName name then .error (.undecryptable name) else .ok text

def isSealed : Stored → Bool
  | sealed _ => true
  | plain _ => false

def decode? (name : String) : Option Stored → Except Refusal (Option String)
  | some stored => (stored.decode name).map some
  | none => .ok none

@[simp]
theorem decode_encode (name text : String) : (encode name text).decode name = .ok text := by
  unfold encode
  split
  · rfl
  · rename_i h
    simp [decode, h]

end Stored

structure ValueRow where
  stored : Stored
  updatedBy : Option Int
  deriving DecidableEq, Repr

structure LogRow where
  id : Nat
  key : Key
  old : Option Stored
  new : Option Stored
  changedBy : Option Int
  deriving DecidableEq, Repr

structure Rows where
  values : Table Key ValueRow
  plugins : Table Plugin Int
  visibility : Table String Bool
  log : List LogRow
  deriving Repr

namespace Rows

def empty : Rows :=
  { values := .empty, plugins := .empty, visibility := .empty, log := [] }

def stored? (rows : Rows) (key : Key) : Option Stored :=
  (rows.values.get? key).map ValueRow.stored

def get (rows : Rows) (key : Key) : Except Refusal (Option String) :=
  Stored.decode? key.name (rows.stored? key)

def nextId (rows : Rows) : Nat :=
  Numbering.next (rows.log.map LogRow.id)

/-- The values after a write; a missing value removes the row. -/
def writeValue (rows : Rows) (key : Key) (value : Option String) (user : Option Int) :
    Table Key ValueRow :=
  match value with
  | some text => rows.values.put key { stored := .encode key.name text, updatedBy := user }
  | none => rows.values.erase key

/-- Writes a value and appends the change to the log. Nothing is written if the old value cannot be
read. -/
def set (rows : Rows) (key : Key) (value : Option String) (user : Option Int) :
    Except Refusal (Change × Rows) := do
  let old ← rows.get key
  if user.all fitsColumn then
    let row : LogRow := {
      id := rows.nextId, key
      old := rows.stored? key
      new := value.map (Stored.encode key.name)
      changedBy := user }
    return ({ id := row.id, key, old, new := value },
      { rows with values := rows.writeValue key value user, log := rows.log ++ [row] })
  else throw .numberTooLarge

def readRow (row : LogRow) : Except Refusal Change := do
  return {
    id := row.id
    key := row.key
    old := ← Stored.decode? row.key.name row.old
    new := ← Stored.decode? row.key.name row.new }

def change? (rows : Rows) (id : Int) : Except Refusal (Option Change) :=
  if fitsColumn id then
    match rows.log.find? fun row => row.id = id with
    | some row => (readRow row).map some
    | none => .ok none
  else .error .numberTooLarge

def truncateLog (rows : Rows) (keep : Int) : Rows :=
  { rows with log := rows.log.filter fun row => row.id ≤ keep }

/-- Puts a row in as it is; `none` if there is one already. -/
def insertRaw (rows : Rows) (key : Key) (text : String) : Option Rows :=
  if rows.values.contains key then none
  else some { rows with values := rows.values.put key { stored := .plain text, updatedBy := none } }

end Rows

end SitePresets
