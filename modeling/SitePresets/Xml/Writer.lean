import SitePresets.Numeral.Integer
import SitePresets.Xml.Element

/-!
# Writing XML

Writing elements as indented text. Full names get short ones, which the root declares; an element
without text or children is written as one empty tag.
-/

namespace SitePresets.Xml

def escapeTextChar (c : Char) : List Char :=
  if c = '&' then "&amp;".toList
  else if c = '<' then "&lt;".toList
  else if c = '>' then "&gt;".toList
  else [c]

def escapeText (chars : List Char) : List Char :=
  chars.flatMap escapeTextChar

def escapeValueChar (c : Char) : List Char :=
  if c = '"' then "&quot;".toList
  else if c = '\r' then "&#13;".toList
  else if c = '\n' then "&#10;".toList
  else if c = '\t' then "&#09;".toList
  else escapeTextChar c

def escapeValue (chars : List Char) : List Char :=
  chars.flatMap escapeValueChar

def wellKnown : List (String × String) := [
  (NameScope.xmlSpace, "xml"),
  ("http://www.w3.org/1999/xhtml", "html"),
  ("http://www.w3.org/1999/02/22-rdf-syntax-ns#", "rdf"),
  ("http://schemas.xmlsoap.org/wsdl/", "wsdl"),
  ("http://www.w3.org/2001/XMLSchema", "xs"),
  ("http://www.w3.org/2001/XMLSchema-instance", "xsi"),
  ("http://purl.org/dc/elements/1.1/", "dc")]

/-- The name space and the local name of a full name; without braces there is no name space. `none`
if the opening brace is never closed. -/
def splitFull (name : String) : Option (Option String × String) :=
  match name.toList with
  | '\x7b' :: rest =>
    let tail := (rest.reverse.takeWhile (· ≠ '\x7d')).reverse
    if tail.length = rest.length then none
    else some (some (String.ofList (rest.take (rest.length - tail.length - 1))),
      String.ofList tail)
  | _ => some (none, name)

/-- The short names that a document declares, by name space. -/
abbrev ShortNames := List (String × String)

namespace ShortNames

/-- Gives a short name to the name space of a full name, unless it has one. -/
def add (names : ShortNames) (name : String) : Option ShortNames := do
  match ← splitFull name with
  | (none, _) => return names
  | (some space, _) =>
    if (names.lookup space).isSome ∨ space = NameScope.xmlSpace then return names
    else
      let short := (wellKnown.lookup space).getD ("ns" ++ Numeral.Integer.text names.length)
      return names ++ [(space, short)]

mutual

/-- Gives short names to what an element and its children need. -/
def collect (names : ShortNames) : Element → Option ShortNames
  | ⟨tag, attributes, _, children⟩ => do
    let names ← names.add tag
    let names ← attributes.foldlM (fun names row => names.add row.1) names
    collectAll names children

def collectAll (names : ShortNames) : List Element → Option ShortNames
  | [] => some names
  | child :: rest => do
    let names ← collect names child
    collectAll names rest

end

def written (names : ShortNames) (name : String) : List Char :=
  match splitFull name with
  | some (some space, inner) =>
    ((names.lookup space).getD "xml").toList ++ ':' :: inner.toList
  | _ => name.toList

def declarations (names : ShortNames) : List Char :=
  (names.mergeSort fun a b => a.2 ≤ b.2).flatMap fun (space, short) =>
    " xmlns:".toList ++ short.toList ++ "=\"".toList ++ escapeValue space.toList ++ ['"']

end ShortNames

def newLine (level : Nat) : List Char :=
  '\n' :: List.replicate (2 * level) ' '

def renderAttributes (names : ShortNames) (attributes : List (String × String)) : List Char :=
  attributes.flatMap fun (name, value) =>
    ' ' :: (names.written name ++ '=' :: '"' :: (escapeValue value.toList ++ ['"']))

mutual

/-- An element at some level of indentation. `declared` goes before its attributes. -/
def render (names : ShortNames) (level : Nat) (declared : List Char) : Element → List Char
  | ⟨tag, attributes, text, []⟩ =>
    let start := '<' :: (names.written tag ++ declared ++ renderAttributes names attributes)
    if text = "" then start ++ [' ', '/', '>']
    else start ++ '>' :: (escapeText text.toList ++ '<' :: '/' :: (names.written tag ++ ['>']))
  | ⟨tag, attributes, _, child :: rest⟩ =>
    '<' :: (names.written tag ++ declared ++ renderAttributes names attributes)
      ++ '>' :: (renderAll names (level + 1) (child :: rest)
        ++ newLine level ++ '<' :: '/' :: (names.written tag ++ ['>']))

def renderAll (names : ShortNames) (level : Nat) : List Element → List Char
  | [] => []
  | child :: rest => newLine level ++ render names level [] child ++ renderAll names level rest

end

def declarationLine : String := "<?xml version=\"1.0\" encoding=\"UTF-8\"?>\n"

/-- The text of a document with a root; `none` if a name has a brace that is never closed. -/
def write? (root : Element) : Option String := do
  let names ← ShortNames.collect [] root
  return declarationLine ++ String.ofList (render names 0 names.declarations root)

end SitePresets.Xml
