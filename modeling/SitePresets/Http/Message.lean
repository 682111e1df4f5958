import SitePresets.Text.Digit
import SitePresets.Text.Split
import SitePresets.Value.Json

/-!
# Requests and responses

Requests and responses. The target of a request is a path, which may be followed by a query; both are
percent-encoded.
-/

namespace SitePresets.Http

open Text

/-- The body of a request: a value, or a text that should be JSON. -/
inductive Payload where
  | value (value : Value)
  | text (text : String)

structure Request where
  method : String
  target : String
  headers : List (String × String) := []
  payload : Option Payload := none

/-- A place in a request where something is wrong, the code for what it is, and what was found
there. -/
structure RequestFault where
  place : List String
  code : String
  found : Value := .null
  deriving Repr

inductive BodyFault where
  | noJson
  | numeralTooLong
  deriving DecidableEq, Repr

inductive Content where
  | empty
  | json (value : Value)
  | text (type text : String)
  | faults (faults : List RequestFault)

structure Response where
  status : Int
  content : Content := .empty
  disposition : Option String := none
  /-- The number of the request, if it came with one. -/
  correlation : Option String := none

/-- The bytes that percent-encoded bytes stand for. A percent sign without two digits stays. -/
def decodeBytes : List UInt8 → List UInt8
  | 37 :: a :: b :: rest =>
    match hexValue? (Char.ofNat a.toNat), hexValue? (Char.ofNat b.toNat) with
    | some high, some low => UInt8.ofNat (high * 16 + low) :: decodeBytes rest
    | _, _ => 37 :: decodeBytes (a :: b :: rest)
  | b :: rest => b :: decodeBytes rest
  | [] => []

/-- The character that bytes start with, and how many of them it takes. -/
def firstCharacter? (bytes : List UInt8) : Option (Char × Nat) :=
  [1, 2, 3, 4].findSome? fun size =>
    (String.fromUTF8? (ByteArray.mk (bytes.take size).toArray)).bind fun text =>
      text.toList.head?.map (·, size)

/-- The characters that bytes stand for; each byte that belongs to none is replaced. -/
def decodeCharacters : List UInt8 → List Char
  | [] => []
  | b :: rest =>
    match firstCharacter? (b :: rest) with
    | some (c, size) => c :: decodeCharacters (rest.drop (size - 1))
    | none => '\uFFFD' :: decodeCharacters rest
termination_by bytes => bytes.length
decreasing_by all_goals simp only [List.length_drop, List.length_cons]; omega

def decodePercent (chars : List Char) : String :=
  String.ofList (decodeCharacters (decodeBytes (String.ofList chars).toUTF8.toList))

namespace Request

/-- The encoded path and the encoded query; what follows a number sign does not count. -/
def parts (request : Request) : List Char × List Char :=
  let chars := request.target.toList.takeWhile (· ≠ '#')
  ((cutFirst ['?'] chars).getD (chars, []))

def path (request : Request) : String :=
  decodePercent request.parts.1

def queryEntry (chars : List Char) : String × String :=
  let decode (chars : List Char) := decodePercent (replaceChar '+' ' ' chars)
  match cutFirst ['='] chars with
  | some (name, value) => (decode name, decode value)
  | none => (decode chars, "")

/-- The last entry of the query with a name. -/
def query? (request : Request) (name : String) : Option String :=
  let entries := ((splitAt '&' request.parts.2).filter (· ≠ [])).map queryEntry
  (entries.reverse.find? fun entry => entry.1 = name).map Prod.snd

/-- The header with a name, which is given in lower case. -/
def header? (request : Request) (name : String) : Option String :=
  (request.headers.find? fun row =>
    String.ofList (row.1.toList.map Char.toLower) = name).map Prod.snd

/-- Reads a text that should be JSON. A byte order mark in front does not count. -/
def readBody (text : String) : Except BodyFault Value :=
  let chars := text.toList
  match Value.Json.read? (String.ofList (if chars.head? = some '\uFEFF' then chars.tail else chars)) with
  | none => .error .noJson
  | some value => if Value.Json.isModest value then .ok value else .error .numeralTooLong

/-- The value in the body, if there is any; an empty body and a null count as none. -/
def body (request : Request) : Except BodyFault (Option Value) :=
  let present : Value → Option Value
    | .null => none
    | value => some value
  match request.payload with
  | none => .ok none
  | some (.value value) => .ok (present value)
  | some (.text text) => if text = "" then .ok none else (readBody text).map present

end Request

end SitePresets.Http
