import SitePresets.Descriptor.Basic
import SitePresets.Descriptor.Resolver
import SitePresets.Store.Basic

/-!
# Sites

A site: its store, the tree that declares its options, and what it protects from writing. Settings
are read from it and written to it by their descriptors.
-/

namespace SitePresets

structure Site where
  store : Store
  tree : Node
  chain : List Resolver := Resolver.stock
  readOnly : List Key := []
  pinned : List Plugin := []

def blogMenu : String := "blog_menu"

def blogsDisabled : String := "0"

namespace Site

/-- Writes a value unless its key is protected. -/
def set (site : Site) (key : Key) (value : Option String) (user : Option Int) :
    Except Refusal (Change × Site) :=
  if key ∈ site.readOnly then .error .readOnly
  else do
    let (change, store) ← site.store.set key value user
    return (change, { site with store })

/-- Sets the state of an installed plugin unless it is protected. -/
def setPlugin (site : Site) (plugin : Plugin) (enabled : Int) : Except Refusal (Int × Site) :=
  if plugin ∈ site.pinned then .error .pinned
  else do
    let (old, store) ← site.store.setPlugin plugin enabled
    return (old, { site with store })

/-- The choices of a setting: for a handler select the enabled plugins of its type. -/
def choicesOf (store : Store) (kind : Kind) (declared : Declaration) :
    Option (List (String × String)) :=
  match kind, declared.handlerType with
  | .handlerSelect, some type =>
    if type = "" then declared.choices
    else some ((store.handlersOf type).map fun handler => (handler, (Plugin.ofScope handler).name))
  | _, _ => declared.choices

def readFacet (store : Store) (declared : Declaration) (facet : Facet) :
    Except Refusal (Facet × Option String) := do
  let stored ← store.get ⟨declared.scope, facet.variableOf declared.name⟩
  return (facet, some ((stored.or (declared.defaultOf? facet.field)).getD "0"))

/-- A declared setting with the value of the site: the stored one, or the default. -/
def read (site : Site) (declared : Declaration) : Except Refusal Descriptor := do
  let kind := Resolver.kindOf site.chain declared
  let stored ← site.store.get declared.key
  let given ← kind.facets.mapM (readFacet site.store declared)
  let descriptor := Descriptor.wrap kind declared (some (stored.getD declared.defaultText)) given
  return { descriptor with choices := choicesOf site.store kind declared }

/-- Writes the value of a setting. The blog level also shows or hides the blog menu. -/
def write (site : Site) (setting : Descriptor) (value : Option String) (user : Option Int) :
    Except Refusal (Change × Site) := do
  let (change, site) ← site.set setting.key value user
  match setting.kind with
  | .blogLevel =>
    return (change, { site with
      store := site.store.setVisible blogMenu (value ≠ some blogsDisabled) })
  | _ => return (change, site)

def writeFacet (site : Site) (setting : Descriptor) (facet : Facet) (value : Option String)
    (user : Option Int) : Except Refusal (Change × Site) :=
  site.set (setting.facetKey facet) value user

end Site

end SitePresets
