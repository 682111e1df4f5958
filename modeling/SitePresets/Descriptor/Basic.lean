import SitePresets.Declaration.Basic
import SitePresets.Descriptor.Value

/-!
# Descriptors

Descriptors: a declared setting of some kind together with a value, which is either the one of the
site or one that a preset carries.
-/

namespace SitePresets

structure Descriptor where
  kind : Kind
  declared : Declaration
  /-- The stored text, before cleaning. -/
  raw : Option String
  choices : Option (List (String × String))
  /-- The facets that are set or unset here, in the order of the kind. -/
  facets : List (Facet × Bool)
  deriving Repr

namespace Descriptor

def facetsOf (kind : Kind) (given : List (Facet × Option String)) : List (Facet × Bool) :=
  kind.facets.filterMap fun facet =>
    (Table.find? facet given).join.map fun text => (facet, Value.textIsOn text)

def wrap (kind : Kind) (declared : Declaration) (raw : Option String)
    (given : List (Facet × Option String)) : Descriptor :=
  { kind, declared, raw, choices := declared.choices, facets := facetsOf kind given }

def key (d : Descriptor) : Key := d.declared.key

def rule (d : Descriptor) : ValueRule :=
  { family := d.kind.family, numeric := d.declared.paramType, choices := d.choices }

/-- The value in its stored form; missing if the raw text is no value of the setting. -/
def value (d : Descriptor) : Option String :=
  d.rule.clean d.raw

def isValid (d : Descriptor) : Bool :=
  d.raw.isNone || d.value.isSome

/-- The same setting with another value and other facets. -/
def withValue (d : Descriptor) (raw : Option String) (given : List (Facet × Option String)) :
    Descriptor :=
  { d with raw, facets := facetsOf d.kind given }

def equals (d : Descriptor) (other : Option String) : Bool :=
  d.rule.same d.value other

def facet? (d : Descriptor) (facet : Facet) : Option Bool :=
  Table.find? facet d.facets

def facetEquals (d : Descriptor) (facet : Facet) (other : Option String) : Bool :=
  match d.facet? facet, other with
  | some current, some text => current = Value.textIsOn text
  | none, none => true
  | _, _ => false

def facetKey (d : Descriptor) (facet : Facet) : Key :=
  ⟨d.declared.scope, facet.variableOf d.declared.name⟩

/-- The facet that a variable holds, if it is one of this setting. -/
def facetOfVariable? (d : Descriptor) (variableName : String) : Option Facet :=
  d.kind.facets.find? fun facet => facet.variableOf d.declared.name = variableName

/-- The same setting with a value and the facets that stored variables give it. Variables of no
facet are passed over; of two for one facet the later one counts. -/
def withStored (d : Descriptor) (raw : Option String) (attributes : List (String × Option String)) :
    Descriptor :=
  let given := attributes.filterMap fun (name, text) =>
    (d.facetOfVariable? name).map fun facet => (facet, text)
  d.withValue raw (Table.ofList given).rows

def facetMarks (d : Descriptor) : String :=
  let mark (facet : Facet) := if d.facet? facet = some true then " (" ++ facet.name ++ ")" else ""
  mark .advanced ++ mark .locked

def display (d : Descriptor) : String :=
  d.rule.display d.value ++ d.facetMarks

end Descriptor

end SitePresets
