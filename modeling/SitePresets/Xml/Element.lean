import SitePresets.Xml.Event

/-!
# XML elements

Elements, and how the events of a document make up its root element. Names are resolved by the name
spaces that their elements declare.
-/

namespace SitePresets.Xml

/-- An element: its text is the one before its first child. -/
structure Element where
  tag : String
  attributes : List (String × String)
  text : String
  children : List Element
  deriving Repr

namespace Element

/-- The first child with a tag. -/
def child? (element : Element) (tag : String) : Option Element :=
  element.children.find? fun child => child.tag = tag

end Element

/-- Name spaces by their short names; the empty one is that of elements without a short name. -/
abbrev NameScope := List (String × String)

namespace NameScope

def xmlSpace : String := "http://www.w3.org/XML/1998/namespace"

def xmlnsSpace : String := "http://www.w3.org/2000/xmlns/"

def initial : NameScope := [("xml", xmlSpace)]

def split (name : String) : Option (String × String) :=
  (Text.cutFirst [':'] name.toList).map fun (short, rest) => (String.ofList short, String.ofList rest)

def declaredBy? (name : String) : Option String :=
  if name = "xmlns" then some ""
  else match split name with
    | some ("xmlns", short) => some short
    | _ => none

def isAllowed (short space : String) : Bool :=
  (short = "" || space ≠ "") && short ≠ "xmlns"
    && (short = "xml") == (space = xmlSpace)
    && space ≠ xmlnsSpace && !(space.toList.contains '\x7d')

/-- The name spaces inside an element with some attributes. -/
def extend (scope : NameScope) (attributes : List (String × String)) : Option NameScope :=
  attributes.foldlM (fun scope (name, value) =>
    match declaredBy? name with
    | some short => if isAllowed short value then some ((short, value) :: scope) else none
    | none => some scope) scope

/-- The full form of a name: the name space in braces, then the local name. -/
def full (space name : String) : String :=
  if space = "" then name else "\x7b" ++ space ++ "\x7d" ++ name

def tagOf (scope : NameScope) (name : String) : Option String :=
  match split name with
  | some (short, name) => (scope.lookup short).map fun space => full space name
  | none => some (full ((scope.lookup "").getD "") name)

/-- The full name of an attribute; without a short name it is in no name space. -/
def attributeOf (scope : NameScope) (name : String) : Option String :=
  match split name with
  | some (short, name) => (scope.lookup short).map fun space => full space name
  | none => some name

/-- The attributes that do not declare name spaces, by their full names. No name may come twice. -/
def resolve (scope : NameScope) (attributes : List (String × String)) :
    Option (List (String × String)) := do
  if ¬ (attributes.map Prod.fst).Nodup then none
  let kept := attributes.filter fun row => (declaredBy? row.1).isNone
  let resolved ← kept.mapM fun (name, value) => (attributeOf scope name).map (·, value)
  if (resolved.map Prod.fst).Nodup then some resolved else none

end NameScope

/-- An element that is not closed yet; its text and children are kept backwards. -/
structure OpenElement where
  name : String
  tag : String
  attributes : List (String × String)
  scope : NameScope
  text : List Char := []
  children : List Element := []

namespace OpenElement

def addChar (frame : OpenElement) (c : Char) : OpenElement :=
  if frame.children.isEmpty then { frame with text := c :: frame.text } else frame

def addChild (frame : OpenElement) (child : Element) : OpenElement :=
  { frame with children := child :: frame.children }

def close (frame : OpenElement) : Element :=
  { tag := frame.tag
    attributes := frame.attributes
    text := String.ofList frame.text.reverse
    children := frame.children.reverse }

def ofStart (scope : NameScope) (name : String) (attributes : List (String × String)) :
    Option OpenElement := do
  let scope ← scope.extend attributes
  let tag ← scope.tagOf name
  let attributes ← scope.resolve attributes
  return { name, tag, attributes, scope }

end OpenElement

/-- Builds the root element. `opened` has the open elements, innermost first. -/
def Element.build (root : Option Element) (opened : List OpenElement) :
    List Event → Option Element
  | [] => if opened.isEmpty then root else none
  | event :: rest =>
    match event, opened with
    | .start name attributes, [] =>
      if root.isSome then none
      else do
        let frame ← OpenElement.ofStart NameScope.initial name attributes
        build root [frame] rest
    | .start name attributes, outer :: opened => do
      let frame ← OpenElement.ofStart outer.scope name attributes
      build root (frame :: outer :: opened) rest
    | .stop name, frame :: opened =>
      if frame.name ≠ name then none
      else match opened with
        | [] => build (some frame.close) [] rest
        | outer :: opened => build root (outer.addChild frame.close :: opened) rest
    | .stop _, [] => none
    | .char c _, frame :: opened => build root (frame.addChar c :: opened) rest
    | .char c isData, [] => if isData && isSpace c then build root [] rest else none
    | .border, _ :: _ => build root opened rest
    | .border, [] => none

end SitePresets.Xml
