import SitePresets.Xml.Element

/-!
# XML documents

Whole documents: a declaration, a document type, and one root element among comments and blanks.
-/

namespace SitePresets.Xml

/-- A name with a quoted value in the declaration of a document. -/
def takeSetting (chars : List Char) : Option ((List Char × List Char) × List Char) := do
  let name := chars.takeWhile Char.isAlpha
  let '=' :: rest := skipSpaces (chars.drop name.length) | none
  let mark :: rest := skipSpaces rest | none
  if mark ≠ '"' ∧ mark ≠ '\'' then none
  let value := rest.takeWhile fun c => c.isAlphanum || c = '.' || c = '-' || c = '_'
  let close :: rest := rest.drop value.length | none
  if close = mark then return ((name, value), rest) else none

def takeSettings : Nat → List Char → Option (List (List Char × List Char))
  | 0, _ => none
  | bound + 1, chars =>
    let rest := skipSpaces chars
    if rest = [] then some []
    else if rest.length = chars.length then none
    else do
      let (setting, rest) ← takeSetting rest
      let settings ← takeSettings bound rest
      return setting :: settings

/-- Whether the settings of a declaration are in order, and whether the document stands alone. -/
def readSettings : List (List Char × List Char) → Option Bool
  | (version, _) :: rest =>
    if version ≠ "version".toList then none
    else
      let rest := match rest with
        | (name, value) :: rest =>
          if name = "encoding".toList ∧ value.head?.any Char.isAlpha then rest
          else (name, value) :: rest
        | [] => []
      match rest with
      | [] => some false
      | [(name, value)] =>
        if name ≠ "standalone".toList then none
        else if value = "yes".toList then some true
        else if value = "no".toList then some false
        else none
      | _ => none
  | [] => none

/-- Reads the declaration at the beginning of a document, if there is one. -/
def takeDeclaration (chars : List Char) : Option (Bool × List Char) :=
  match chars with
  | '<' :: '?' :: 'x' :: 'm' :: 'l' :: c :: rest =>
    if isSpace c then do
      let (inside, rest) ← Text.cutFirst ['?', '>'] (c :: rest)
      let settings ← takeSettings (inside.length + 1) inside
      let standalone ← readSettings settings
      return (standalone, rest)
    else some (false, chars)
  | _ => some (false, chars)

/-- Skips what may stand before a document type or the root, and gives the document type. -/
def takeProlog (standalone : Bool) (budget : Nat) : Nat → List Char →
    Option (Doctype × List Char)
  | 0, _ => none
  | bound + 1, chars =>
    match skipSpaces chars with
    | '<' :: '!' :: '-' :: '-' :: rest => do
      let rest ← skipComment rest
      takeProlog standalone budget bound rest
    | '<' :: '?' :: rest => do
      let rest ← skipInstruction rest
      takeProlog standalone budget bound rest
    | '<' :: '!' :: 'D' :: 'O' :: 'C' :: 'T' :: 'Y' :: 'P' :: 'E' :: rest =>
      Doctype.read standalone budget rest
    | rest => some ({ standalone }, rest)

/-- How much text entities may add: eight mebibytes, or a hundred times the document. -/
def entityBudget (size : Nat) : Nat :=
  max 8388607 (100 * size) - size

def read? (text : String) : Option Element := do
  let chars := match text.toList with
    | '\uFEFF' :: rest => rest
    | chars => chars
  if ¬ chars.all isLegal then none
  let budget := entityBudget (byteSize chars)
  let (standalone, rest) ← takeDeclaration (unifyLineEnds chars)
  let (doctype, rest) ← takeProlog standalone budget (rest.length + 1) rest
  let tokens ← tokens? rest
  let events ← Event.ofContent doctype budget tokens
  Element.build none [] events

end SitePresets.Xml
