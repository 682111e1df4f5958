import SitePresets.Table
import SitePresets.Xml.Declaration

/-!
# XML document types

Document types: what the declarations inside a document say about entities and attributes, and how
the values of attributes are expanded and normalised by them.
-/

namespace SitePresets.Xml

/-- An attribute as declared, with its default in normal form. -/
structure AttributeType where
  name : String
  isPlain : Bool
  default : Option String
  deriving Repr

structure Doctype where
  entities : List (String × EntityValue) := []
  attributes : List (String × List AttributeType) := []
  /-- Whether there are declarations elsewhere that are not read. -/
  hasOutside : Bool := false
  /-- Whether declarations still count; after a reference to unread ones they do not. -/
  isActive : Bool := true
  standalone : Bool := false
  deriving Repr

def predefined : List (String × Char) :=
  [("lt", '<'), ("gt", '>'), ("amp", '&'), ("apos", '\''), ("quot", '"')]

def byteSize (chars : List Char) : Nat :=
  chars.foldl (fun n c => n + c.utf8Size) 0

namespace Doctype

/-- Whether a name that was never declared may be passed over in an attribute. -/
def mayOmit (doctype : Doctype) : Bool :=
  doctype.hasOutside && !doctype.standalone

/-- The characters of a value. `inner` expands an entity within what is left of the budget. -/
def expandPieces (inner : String → Nat → Option (List Char × Nat)) (budget : Nat) :
    List Piece → Option (List Char × Nat)
  | [] => some ([], budget)
  | .data c :: rest =>
    (expandPieces inner budget rest).map fun (chars, budget) =>
      ((if isSpace c then ' ' else c) :: chars, budget)
  | .escaped c :: rest =>
    (expandPieces inner budget rest).map fun (chars, budget) => (c :: chars, budget)
  | .entity name :: rest =>
    match predefined.lookup name with
    | some c => (expandPieces inner budget rest).map fun (chars, budget) => (c :: chars, budget)
    | none => do
      let (first, budget) ← inner name budget
      let (chars, budget) ← expandPieces inner budget rest
      return (first ++ chars, budget)

/-- The characters of an entity in a value. The depth bounds the nesting, which no chain of distinct
entities exceeds. -/
def expandEntity (doctype : Doctype) : Nat → String → Nat → Option (List Char × Nat)
  | 0, _, _ => none
  | depth + 1, name, budget =>
    match doctype.entities.lookup name with
    | some (.internal text) => do
      let cost := byteSize text
      if '<' ∈ text ∨ budget < cost then none
      let pieces ← readPieces none text
      expandPieces (expandEntity doctype depth) (budget - cost) pieces
    | some .external => none
    | none => if doctype.mayOmit then some ([], budget) else none

def collapse (chars : List Char) : List Char :=
  let words := (Text.splitAt ' ' chars).filter (· ≠ [])
  [' '].intercalate words

def valueOf (doctype : Doctype) (isPlain : Bool) (budget : Nat) (pieces : List Piece) :
    Option (String × Nat) := do
  let (chars, budget) ←
    expandPieces (doctype.expandEntity (doctype.entities.length + 1)) budget pieces
  return (String.ofList (if isPlain then chars else collapse chars), budget)

def typesOf (doctype : Doctype) (element : String) : List AttributeType :=
  (doctype.attributes.lookup element).getD []

/-- The text of an entity: its characters by number are put in, its entities are not. -/
def entityText (text : List Char) : Option (List Char) := do
  if '%' ∈ text then none
  let pieces ← readPieces none text
  return pieces.flatMap fun
    | .data c | .escaped c => [c]
    | .entity name => '&' :: (name.toList ++ [';'])

/-- Adds the rules of an attribute list; of two defaults for one attribute the first counts. -/
def addRules (budget : Nat) (doctype : Doctype) (element : String) (rules : List AttributeRule) :
    Option Doctype := do
  let types ← rules.foldlM (fun (types : List AttributeType) rule => do
    let default ← match rule.default with
      | some text => do
        if '<' ∈ text then none
        let pieces ← readPieces none text
        let (value, _) ← doctype.valueOf rule.isPlain budget pieces
        pure (some value)
      | none => pure none
    if default.isSome ∧ types.any (fun type => type.name = rule.name) then return types
    else return types ++ [{ name := rule.name, isPlain := rule.isPlain, default }])
    (doctype.typesOf element)
  return { doctype with
    attributes := (element, types) :: doctype.attributes.filter (·.1 ≠ element) }

/-- Adds a declaration. The first one of an entity counts. -/
def add (budget : Nat) (doctype : Doctype) (declared : Declared) : Option Doctype :=
  if !doctype.isActive then some doctype
  else match declared with
    | .entity name (.internal text) => do
      let text ← entityText text
      return { doctype with entities := doctype.entities ++ [(name, .internal text)] }
    | .entity name .external =>
      some { doctype with entities := doctype.entities ++ [(name, .external)] }
    | .parameter (.internal text) => (entityText text).map fun _ => doctype
    | .parameter .external | .other => some doctype
    | .attributes element rules => addRules budget doctype element rules

def leaveOut (doctype : Doctype) : Doctype :=
  { doctype with hasOutside := true, isActive := doctype.standalone }

/-- Reads the declarations inside a document up to the closing bracket. -/
def readSubset (budget : Nat) : Nat → Doctype → List Char → Option (Doctype × List Char)
  | 0, _, _ => none
  | bound + 1, doctype, chars =>
    match skipSpaces chars with
    | ']' :: rest => some (doctype, rest)
    | '%' :: rest => do
      let (_, rest) ← takeName rest
      let ';' :: rest := rest | none
      readSubset budget bound doctype.leaveOut rest
    | '<' :: '!' :: '-' :: '-' :: rest => do
      let rest ← skipComment rest
      readSubset budget bound doctype rest
    | '<' :: '?' :: rest => do
      let rest ← skipInstruction rest
      readSubset budget bound doctype rest
    | '<' :: '!' :: rest => do
      let keyword := rest.takeWhile Char.isAlpha
      let rest := rest.drop keyword.length
      if ¬ DeclToken.followed [] rest then none
      let (tokens, rest) ← DeclToken.takeAll (rest.length + 1) rest
      let declared ← readDeclared keyword tokens
      let doctype ← doctype.add budget declared
      readSubset budget bound doctype rest
    | _ => none

def skipExternal (chars : List Char) : Option (Bool × List Char) :=
  let literal (chars : List Char) : Option (List Char × List Char) := do
    let (.literal text, rest) ← DeclToken.take (skipSpaces chars) | none
    return (text, rest)
  match chars with
  | 'S' :: 'Y' :: 'S' :: 'T' :: 'E' :: 'M' :: c :: rest => do
    if ¬ isSpace c then none
    let (_, rest) ← literal rest
    return (true, rest)
  | 'P' :: 'U' :: 'B' :: 'L' :: 'I' :: 'C' :: c :: rest => do
    if ¬ isSpace c then none
    let (identifier, rest) ← literal rest
    if ¬ identifier.all DeclToken.isPublicChar then none
    let (_, rest) ← literal rest
    return (true, rest)
  | _ => some (false, chars)

def read (standalone : Bool) (budget : Nat) (chars : List Char) :
    Option (Doctype × List Char) := do
  if ¬ DeclToken.followed [] chars then none
  let (_, rest) ← takeQualified (skipSpaces chars)
  if ¬ DeclToken.followed ['>', '['] rest then none
  let (hasOutside, rest) ← skipExternal (skipSpaces rest)
  let doctype : Doctype := { hasOutside, standalone }
  let (doctype, rest) ← match skipSpaces rest with
    | '[' :: rest => readSubset budget (rest.length + 1) doctype rest
    | rest => some (doctype, rest)
  let '>' :: rest := skipSpaces rest | none
  return (doctype, rest)

end Doctype

end SitePresets.Xml
