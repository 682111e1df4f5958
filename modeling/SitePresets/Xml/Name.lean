import SitePresets.Text.Case
import SitePresets.Xml.NameTable

/-!
# XML names

The characters of XML 1.0 documents, and their names.
-/

namespace SitePresets.Xml

def isLegalCode (n : Nat) : Bool :=
  n = 9 || n = 10 || n = 13 || (0x20 ≤ n && n < 0xD800) || (0xE000 ≤ n && n < 0xFFFE)
    || (0x10000 ≤ n && n < 0x110000)

def isLegal (c : Char) : Bool :=
  isLegalCode c.toNat

def isSpace (c : Char) : Bool :=
  c = ' ' || c = '\t' || c = '\n' || c = '\r'

def skipSpaces (chars : List Char) : List Char :=
  chars.dropWhile isSpace

def unifyLineEnds : List Char → List Char
  | [] => []
  | '\r' :: '\n' :: rest => '\n' :: unifyLineEnds rest
  | '\r' :: rest => '\n' :: unifyLineEnds rest
  | c :: rest => c :: unifyLineEnds rest

def isNameStart (c : Char) : Bool :=
  if c.toNat < 128 then c.isAlpha || c = '_'
  else Text.inRuns NameTable.starters c.toNat

/-- Whether a character may stand in a name after its beginning. -/
def isNameChar (c : Char) : Bool :=
  if c.toNat < 128 then c.isAlphanum || c = '_' || c = '-' || c = '.'
  else Text.inRuns NameTable.starters c.toNat || Text.inRuns NameTable.followers c.toNat

/-- Reads a name without colons. -/
def takeName : List Char → Option (List Char × List Char)
  | [] => none
  | c :: rest =>
    if isNameStart c then some (c :: rest.takeWhile isNameChar, rest.dropWhile isNameChar)
    else none

def takeQualified (chars : List Char) : Option (List Char × List Char) := do
  let (first, rest) ← takeName chars
  match rest with
  | ':' :: rest =>
    let (second, rest) ← takeName rest
    match rest with
    | ':' :: _ => none
    | _ => return (first ++ ':' :: second, rest)
  | _ => return (first, rest)

/-- Whether the whole text is a name without colons. -/
def isName (chars : List Char) : Bool :=
  match takeName chars with
  | some (_, rest) => rest.isEmpty
  | none => false

end SitePresets.Xml
