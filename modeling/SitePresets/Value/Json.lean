import SitePresets.Value.Basic
import SitePresets.Numeral.Decimal

/-!
# JSON

Reading JSON texts. The names of infinity and of what is no number count as numbers, a control
character must be escaped within a text, and of two fields with one name the later one counts.
-/

namespace SitePresets.Value.Json

open Numeral

def skipBlanks (chars : List Char) : List Char :=
  chars.dropWhile fun c => c = ' ' || c = '\t' || c = '\n' || c = '\r'

def hexCode? (a b c d : Char) : Option Nat := do
  let a ← Text.hexValue? a
  let b ← Text.hexValue? b
  let c ← Text.hexValue? c
  let d ← Text.hexValue? d
  return ((a * 16 + b) * 16 + c) * 16 + d

def escaped? : Char → Option Char
  | '"' => some '"'
  | '\\' => some '\\'
  | '/' => some '/'
  | 'b' => some (Char.ofNat 8)
  | 'f' => some (Char.ofNat 12)
  | 'n' => some '\n'
  | 'r' => some '\r'
  | 't' => some '\t'
  | _ => none

/-- The UTF-16 units of a text up to its closing quote, and what follows. -/
def readUnits : List Char → Option (List Nat × List Char)
  | [] => none
  | '"' :: rest => some ([], rest)
  | '\\' :: 'u' :: a :: b :: c :: d :: rest => do
    let code ← hexCode? a b c d
    let (units, rest) ← readUnits rest
    return (code :: units, rest)
  | '\\' :: c :: rest => do
    let c ← escaped? c
    let (units, rest) ← readUnits rest
    return (c.toNat :: units, rest)
  | c :: rest =>
    if c.toNat < 32 ∨ c = '\\' then none
    else (readUnits rest).map fun (units, rest) => (c.toNat :: units, rest)

/-- Joins surrogate pairs; `none` if half of a pair is left. -/
def joinSurrogates : List Nat → Option (List Char)
  | [] => some []
  | [u] => if 0xD800 ≤ u ∧ u < 0xE000 then none else some [Char.ofNat u]
  | u :: v :: rest =>
    if 0xD800 ≤ u ∧ u < 0xDC00 then
      if 0xDC00 ≤ v ∧ v < 0xE000 then
        (joinSurrogates rest).map
          (Char.ofNat (0x10000 + (u - 0xD800) * 0x400 + (v - 0xDC00)) :: ·)
      else none
    else if 0xDC00 ≤ u ∧ u < 0xE000 then none
    else (joinSurrogates (v :: rest)).map (Char.ofNat u :: ·)

def ofUnits (units : List Nat) : Value :=
  match joinSurrogates units with
  | some chars => text (String.ofList chars)
  | none => halfText

/-- The digits of a numeral, without a needless zero in front, and what follows. -/
def takeWhole : List Char → Option (List Char × List Char)
  | '0' :: rest => some (['0'], rest)
  | chars =>
    let digits := chars.takeWhile Char.isDigit
    if digits = [] then none else some (digits, chars.drop digits.length)

def takeFraction (chars : List Char) : List Char × List Char :=
  match chars with
  | '.' :: rest =>
    let digits := rest.takeWhile Char.isDigit
    if digits = [] then ([], chars) else ('.' :: digits, rest.drop digits.length)
  | _ => ([], chars)

def takeExponent (chars : List Char) : List Char × List Char :=
  match chars with
  | c :: rest =>
    if c = 'e' ∨ c = 'E' then
      let (sign, tail) := match rest with
        | '+' :: tail => (['+'], tail)
        | '-' :: tail => (['-'], tail)
        | _ => ([], rest)
      let digits := tail.takeWhile Char.isDigit
      if digits = [] then ([], chars) else (c :: (sign ++ digits), tail.drop digits.length)
    else ([], chars)
  | [] => ([], chars)

def readNumber (chars : List Char) : Option (Value × List Char) := do
  let (negative, unsigned) := match chars with
    | '-' :: rest => (true, rest)
    | _ => (false, chars)
  let (whole, rest) ← takeWhole unsigned
  let (fraction, rest) := takeFraction rest
  let (exponent, rest) := takeExponent rest
  if fraction = [] ∧ exponent = [] then
    return (integer (Integer.signed negative (Nat.ofDigitChars 10 whole 0)), rest)
  else
    let x ← Decimal.readUnsigned negative (whole ++ fraction ++ exponent)
    return (real x, rest)

def readName (chars : List Char) : Option (Value × List Char) :=
  let names : List (String × Value) := [
    ("null", null), ("true", flag true), ("false", flag false), ("NaN", real .nan),
    ("Infinity", real (.infinite false)), ("-Infinity", real (.infinite true))]
  (names.find? fun (name, _) => name.toList.isPrefixOf chars).map fun (name, value) =>
    (value, chars.drop name.length)

mutual

/-- Reads a value. The bound counts nested and following values; the length of the text is enough. -/
def readValue : Nat → List Char → Option (Value × List Char)
  | 0, _ => none
  | bound + 1, chars =>
    match chars with
    | '"' :: rest => (readUnits rest).map fun (units, rest) => (ofUnits units, rest)
    | '[' :: rest =>
      match skipBlanks rest with
      | ']' :: rest => some (list [], rest)
      | rest => (readItems bound rest).map fun (items, rest) => (list items, rest)
    | '\x7b' :: rest =>
      match skipBlanks rest with
      | '\x7d' :: rest => some (record [], rest)
      | rest => (readFields bound rest).map fun (fields, rest) =>
        (record (Table.ofList fields).rows, rest)
    | _ => (readName chars).or (readNumber chars)

/-- Reads the items of a list that is not empty, up to its end. -/
def readItems : Nat → List Char → Option (List Value × List Char)
  | 0, _ => none
  | bound + 1, chars => do
    let (item, rest) ← readValue bound (skipBlanks chars)
    match skipBlanks rest with
    | ',' :: rest =>
      let (items, rest) ← readItems bound (skipBlanks rest)
      return (item :: items, rest)
    | ']' :: rest => return ([item], rest)
    | _ => none

/-- Reads the fields of a record that is not empty, up to its end. -/
def readFields : Nat → List Char → Option (List (String × Value) × List Char)
  | 0, _ => none
  | bound + 1, chars => do
    let '"' :: rest := skipBlanks chars | none
    let (units, rest) ← readUnits rest
    let ':' :: rest := skipBlanks rest | none
    let (value, rest) ← readValue bound (skipBlanks rest)
    let name := match ofUnits units with
      | text s => s
      | _ => "\uFFFD"
    match skipBlanks rest with
    | ',' :: rest =>
      let (fields, rest) ← readFields bound rest
      return ((name, value) :: fields, rest)
    | '\x7d' :: rest => return ([(name, value)], rest)
    | _ => none

end

/-- The value that a text holds, if it is one value and nothing else. -/
def read? (text : String) : Option Value := do
  let chars := skipBlanks text.toList
  let (value, rest) ← readValue (chars.length + 1) chars
  if skipBlanks rest = [] then some value else none

/-- Whether JSON can say a value: it has no infinite numbers, and no halves of characters. -/
def canWrite (value : Value) : Bool :=
  value.all fun
    | real x => x.isFinite
    | halfText => false
    | _ => true

/-- Whether no whole number in a value has too many digits. -/
def isModest (value : Value) : Bool :=
  value.all fun
    | integer z => decide (z.natAbs < Nat.pow 10 Integer.maxDigits)
    | _ => true

end SitePresets.Value.Json
