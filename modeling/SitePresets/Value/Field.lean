import SitePresets.Value.Basic
import SitePresets.Numeral.Decimal
import SitePresets.Text.Blank

/-!
# Fields of values

Reading typed fields out of values: which values are accepted for a text, a whole number or a flag,
and what is wrong with the others.
-/

namespace SitePresets.Value

open Numeral

inductive Fault where
  | missing
  | noText
  | noCharacters
  | tooShort
  | tooLong
  | noMatch
  | noMember
  | noInteger
  | noNumeral
  | numeralTooLong
  | fraction
  | notFinite
  | noFlag
  | noFlagSpelling
  | noList
  | noRecord
  | noModel
  deriving DecidableEq, Repr

def Fault.code : Fault → String
  | missing => "missing"
  | noText => "string_type"
  | noCharacters => "string_unicode"
  | tooShort => "string_too_short"
  | tooLong => "string_too_long"
  | noMatch => "string_pattern_mismatch"
  | noMember => "enum"
  | noInteger => "int_type"
  | noNumeral => "int_parsing"
  | numeralTooLong => "int_parsing_size"
  | fraction => "int_from_float"
  | notFinite => "finite_number"
  | noFlag => "bool_type"
  | noFlagSpelling => "bool_parsing"
  | noList => "list_type"
  | noRecord => "dict_type"
  | noModel => "model_attributes_type"

def asText : Value → Except Fault String
  | text s => .ok s
  | halfText => .error .noCharacters
  | _ => .error .noText

/-- Drops a point with nothing but zeros after it. -/
def dropZeroFraction (chars : List Char) : List Char :=
  match chars.dropWhile (· ≠ '.') with
  | '.' :: rest => if rest.all (· = '0') then chars.takeWhile (· ≠ '.') else chars
  | _ => chars

/-- Reads a whole number from a text: a sign, ASCII digits with single underscores between, and
possibly a zero fraction, between white space. -/
def integerOfText (s : String) : Except Fault Int :=
  let (negative, rest) := takeSign (Text.trimBy Text.isWhite s.toList)
  match dropUnderscores none (dropZeroFraction rest) with
  | none => .error .noNumeral
  | some digits =>
    if digits = [] ∨ ¬ digits.all Char.isDigit then .error .noNumeral
    else if Integer.maxDigits < digits.length then .error .numeralTooLong
    else .ok (Integer.signed negative (Nat.ofDigitChars 10 digits 0))

/-- A whole number, also as a flag, as a number with nothing after the point, or as its numeral. -/
def asInteger : Value → Except Fault Int
  | integer z => .ok z
  | flag b => .ok (if b then 1 else 0)
  | real x =>
    if x.isFinite then
      match x.whole? with
      | some z => .ok z
      | none => .error .fraction
    else .error .notFinite
  | text s => integerOfText s
  | halfText => .error .noNumeral
  | _ => .error .noInteger

def onWords : List String := ["1", "on", "t", "true", "y", "yes"]

def offWords : List String := ["0", "off", "f", "false", "n", "no"]

/-- Reads a flag from one of its words, in any case. -/
def flagOfText (s : String) : Except Fault Bool :=
  let word := String.ofList (s.toList.map Char.toLower)
  if word ∈ onWords then .ok true
  else if word ∈ offWords then .ok false
  else .error .noFlagSpelling

def flagOfInteger (z : Int) : Except Fault Bool :=
  if z = 0 then .ok false else if z = 1 then .ok true else .error .noFlagSpelling

/-- A flag, also as zero or one, or as one of its words. -/
def asFlag : Value → Except Fault Bool
  | flag b => .ok b
  | integer z => flagOfInteger z
  | real x =>
    match x.whole? with
    | some z => flagOfInteger z
    | none => .error .noFlag
  | text s => flagOfText s
  | halfText => .error .noFlagSpelling
  | _ => .error .noFlag

def asOptional {α : Type} (read : Value → Except Fault α) : Value → Except Fault (Option α)
  | null => .ok none
  | value => (read value).map some

/-- Each item read in order. -/
def asList {α : Type} (read : Value → Except Fault α) : Value → Except Fault (List α)
  | list items => items.mapM read
  | _ => .error .noList

/-- A record with each value read in order. -/
def asMap {α : Type} (read : Value → Except Fault α) : Value → Except Fault (List (String × α))
  | record fields => fields.mapM fun (name, value) => (read value).map (name, ·)
  | _ => .error .noRecord

def require {α : Type} (name : String) (read : Value → Except Fault α) (value : Value) :
    Except Fault α :=
  match value.field? name with
  | some found => read found
  | none => .error .missing

def fieldOr {α : Type} (name : String) (fallback : α) (read : Value → Except Fault α)
    (value : Value) : Except Fault α :=
  match value.field? name with
  | some found => read found
  | none => .ok fallback

end SitePresets.Value
