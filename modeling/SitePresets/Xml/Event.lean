import SitePresets.Xml.Doctype

/-!
# XML events

Content with its entities expanded and its attributes in normal form.
-/

namespace SitePresets.Xml

inductive Event where
  | start (name : String) (attributes : List (String × String))
  | stop (name : String)
  /-- A character; `isData` if it stands in the text itself. -/
  | char (c : Char) (isData : Bool)
  | border
  deriving DecidableEq, Repr

namespace Event

/-- The attributes of a start tag: those given, in normal form, then the defaults of the others. -/
def attributesOf (doctype : Doctype) (element : String) (budget : Nat)
    (given : List (String × List Piece)) : Option (List (String × String) × Nat) := do
  let types := doctype.typesOf element
  let (values, budget) ← given.foldlM (fun (values, budget) (name, pieces) => do
    let isPlain := ((types.find? fun type => type.name = name).map AttributeType.isPlain).getD true
    let (value, budget) ← doctype.valueOf isPlain budget pieces
    return (values ++ [(name, value)], budget)) ([], budget)
  let defaults := types.filterMap fun type =>
    if values.any (fun value => value.1 = type.name) then none
    else type.default.map fun value => (type.name, value)
  return (values ++ defaults, budget)

/-- The events of tokens. `inner` gives those of an entity within what is left of the budget. -/
def ofTokens (doctype : Doctype) (inner : String → Nat → Option (List Event × Nat)) (budget : Nat) :
    List Token → Option (List Event × Nat)
  | [] => some ([], budget)
  | token :: rest => do
    let (first, budget) ← match token with
      | .start name given => do
        let (attributes, budget) ← attributesOf doctype name budget given
        pure ([start name attributes], budget)
      | .stop name => pure ([stop name], budget)
      | .border => pure ([border], budget)
      | .piece (.data c) => pure ([char c true], budget)
      | .piece (.escaped c) => pure ([char c false], budget)
      | .piece (.entity name) =>
        match predefined.lookup name with
        | some c => pure ([char c false], budget)
        | none => inner name budget
    let (events, budget) ← ofTokens doctype inner budget rest
    return (first ++ events, budget)

/-- Whether every element that starts here also stops here, and the other way round. -/
def isBalanced (depth : Nat) : List Event → Bool
  | [] => depth = 0
  | start .. :: rest => isBalanced (depth + 1) rest
  | stop _ :: rest => depth ≠ 0 && isBalanced (depth - 1) rest
  | _ :: rest => isBalanced depth rest

/-- The events of an entity in content. The depth bounds the nesting. -/
def ofEntity (doctype : Doctype) : Nat → String → Nat → Option (List Event × Nat)
  | 0, _, _ => none
  | depth + 1, name, budget =>
    match doctype.entities.lookup name with
    | some (.internal text) => do
      let cost := byteSize text
      if budget < cost then none
      let tokens ← tokens? text
      let (events, budget) ← ofTokens doctype (ofEntity doctype depth) (budget - cost) tokens
      if isBalanced 0 events then some (border :: events, budget) else none
    | _ => none

/-- The events of the content of a document. -/
def ofContent (doctype : Doctype) (budget : Nat) (tokens : List Token) : Option (List Event) :=
  (ofTokens doctype (ofEntity doctype (doctype.entities.length + 1)) budget tokens).map Prod.fst

end Event

end SitePresets.Xml
