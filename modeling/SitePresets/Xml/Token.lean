import SitePresets.Text.Digit
import SitePresets.Text.Split
import SitePresets.Xml.Name

/-!
# XML tokens

The tokens of the content of a document. References to named entities are left as they are.
-/

namespace SitePresets.Xml

/-- A piece of character data: a character of the text, one written by its number, or an entity. -/
inductive Piece where
  | data (c : Char)
  | escaped (c : Char)
  | entity (name : String)
  deriving DecidableEq, Repr

inductive Token where
  | start (name : String) (attributes : List (String × List Piece))
  | stop (name : String)
  | piece (piece : Piece)
  /-- The border of a section of character data, or of an expanded entity. -/
  | border
  deriving DecidableEq, Repr

def charOfCode (n : Nat) : Option Piece :=
  if isLegalCode n then some (.escaped (Char.ofNat n)) else none

def readReference : List Char → Option Piece
  | '#' :: 'x' :: digits => do
    let values ← digits.mapM Text.hexValue?
    if values = [] then none else charOfCode (values.foldl (fun n d => n * 16 + d) 0)
  | '#' :: digits =>
    if digits = [] ∨ ¬ digits.all Char.isDigit then none
    else charOfCode (Nat.ofDigitChars 10 digits 0)
  | name => if isName name then some (.entity (String.ofList name)) else none

/-- The pieces of text without markup; `pending` holds the part of a reference read so far,
backwards. -/
def readPieces (pending : Option (List Char)) : List Char → Option (List Piece)
  | [] => if pending.isNone then some [] else none
  | c :: rest =>
    match pending with
    | none =>
      if c = '&' then readPieces (some []) rest
      else (readPieces none rest).map (.data c :: ·)
    | some name =>
      if c = ';' then do
        let piece ← readReference name.reverse
        let pieces ← readPieces none rest
        return piece :: pieces
      else readPieces (some (c :: name)) rest

/-- Reads an attribute after the blanks before it: a name, an equals sign, a quoted value. -/
def takeAttribute (chars : List Char) : Option ((String × List Piece) × List Char) := do
  let (name, rest) ← takeQualified chars
  let '=' :: rest := skipSpaces rest | none
  let mark :: rest := skipSpaces rest | none
  if mark ≠ '"' ∧ mark ≠ '\'' then none
  let value := rest.takeWhile (· ≠ mark)
  let _ :: rest := rest.dropWhile (· ≠ mark) | none
  if '<' ∈ value then none
  let pieces ← readPieces none value
  return ((String.ofList name, pieces), rest)

/-- Reads the attributes of a start tag up to its end, and whether it is an empty element. -/
def takeAttributes : Nat → List Char →
    Option (List (String × List Piece) × Bool × List Char)
  | 0, _ => none
  | bound + 1, chars =>
    match skipSpaces chars with
    | '>' :: rest => some ([], false, rest)
    | '/' :: '>' :: rest => some ([], true, rest)
    | rest => do
      if rest.length = chars.length then none
      let (given, rest) ← takeAttribute rest
      let (attributes, isEmpty, rest) ← takeAttributes bound rest
      return (given :: attributes, isEmpty, rest)

def skipComment (chars : List Char) : Option (List Char) := do
  let (_, rest) ← Text.cutFirst ['-', '-'] chars
  let '>' :: rest := rest | none
  return rest

/-- Skips a processing instruction after its opening. The target `xml`, in any case, is reserved. -/
def skipInstruction (chars : List Char) : Option (List Char) := do
  let (target, rest) ← takeName chars
  if target.map Char.toLower = ['x', 'm', 'l'] then none
  match rest with
  | '?' :: '>' :: rest => return rest
  | c :: rest =>
    if isSpace c then
      let (_, rest) ← Text.cutFirst ['?', '>'] rest
      return rest
    else none
  | [] => none

def readMarkup (chars : List Char) : Option (List Token × List Char) :=
  match chars with
  | '!' :: '-' :: '-' :: rest => (skipComment rest).map fun rest => ([], rest)
  | '!' :: '[' :: 'C' :: 'D' :: 'A' :: 'T' :: 'A' :: '[' :: rest => do
    let (data, rest) ← Text.cutFirst [']', ']', '>'] rest
    return (.border :: data.map fun c => .piece (.escaped c), rest)
  | '?' :: rest => (skipInstruction rest).map fun rest => ([], rest)
  | '/' :: rest => do
    let name := rest.takeWhile fun c => isNameChar c || c = ':'
    let '>' :: rest := skipSpaces (rest.drop name.length) | none
    return ([.stop (String.ofList name)], rest)
  | _ => do
    let (name, rest) ← takeQualified chars
    let (attributes, isEmpty, rest) ← takeAttributes (rest.length + 1) rest
    let name := String.ofList name
    return (.start name attributes :: (if isEmpty then [.stop name] else []), rest)

/-- Reads content: text and markup by turns. The bound counts the turns. -/
def readContent : Nat → List Char → Option (List Token)
  | 0, _ => none
  | bound + 1, chars => do
    let text := chars.takeWhile (· ≠ '<')
    if Text.holds [']', ']', '>'] text then none
    let pieces ← readPieces none text
    match chars.dropWhile (· ≠ '<') with
    | [] => return pieces.map .piece
    | _ :: rest =>
      let (tokens, rest) ← readMarkup rest
      let more ← readContent bound rest
      return pieces.map .piece ++ tokens ++ more

def tokens? (chars : List Char) : Option (List Token) :=
  readContent (chars.length + 1) chars

end SitePresets.Xml
