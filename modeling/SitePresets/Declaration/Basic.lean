import SitePresets.Key
import SitePresets.Value.Field
import SitePresets.Value.Text

/-!
# Declared options

The declared options of a site: categories hold pages, and pages hold settings. Anything else that
stands in the tree is malformed, and so is a setting outside a page or a page inside one.
-/

namespace SitePresets

structure Declaration where
  name : String
  plugin : Option String := none
  settingClass : String := "admin_setting_configtext"
  type : String := "text"
  visibleName : String := ""
  description : String := ""
  default : Value := .null
  choices : Option (List (String × String)) := none
  paramType : Option String := none
  handlerType : Option String := none
  component : Option String := none
  deriving Inhabited, Repr

namespace Declaration

/-- The first text that is given and not empty. -/
def firstOf : List (Option String) → String → String
  | [], fallback => fallback
  | some text :: rest, fallback => if text = "" then firstOf rest fallback else text
  | none :: rest, fallback => firstOf rest fallback

def scope (declared : Declaration) : String :=
  firstOf [declared.plugin] siteScope

def key (declared : Declaration) : Key :=
  ⟨declared.scope, declared.name⟩

def owner (declared : Declaration) : String :=
  firstOf [declared.component, declared.plugin] "core"

def label (declared : Declaration) : String :=
  firstOf [some declared.visibleName] declared.name

/-- The stored text of the default. A record carries it in its field `value`. -/
def defaultText (declared : Declaration) : String :=
  let value := match declared.default with
    | .record fields => (Table.find? "value" fields).getD (.integer 0)
    | value => value
  value.configText?.getD ""

def defaultOf? (declared : Declaration) (field : String) : Option String :=
  (declared.default.field? field).bind Value.configText?

/-- A default is one value or a record. -/
def readDefault : Value → Except Value.Fault Value
  | .list _ => .error .noText
  | value => .ok value

def ofValue (value : Value) : Except Value.Fault Declaration := do
  let optional := Value.asOptional Value.asText
  return {
    name := ← value.require "name" Value.asText
    plugin := ← value.fieldOr "plugin" none optional
    settingClass := ← value.fieldOr "setting_class" "admin_setting_configtext" Value.asText
    type := ← value.fieldOr "type" "text" Value.asText
    visibleName := ← value.fieldOr "visible_name" "" Value.asText
    description := ← value.fieldOr "description" "" Value.asText
    default := ← value.fieldOr "default" .null readDefault
    choices := ← value.fieldOr "choices" none (Value.asOptional (Value.asMap Value.asText))
    paramType := ← value.fieldOr "param_type" none optional
    handlerType := ← value.fieldOr "handler_type" none optional
    component := ← value.fieldOr "component" none optional }

end Declaration

inductive Node where
  | category (name visibleName : String) (children : List Node)
  | page (name visibleName : String) (settings : List Node)
  | setting (declared : Declaration)
  | malformed
  deriving Inhabited, Repr

structure Page where
  name : String
  settings : List Node

namespace Node

def declared? : Node → Option Declaration
  | setting declared => some declared
  | _ => none

mutual

/-- The pages at and below a node that are reached through categories, in order. -/
def pages : Node → List Page
  | category _ _ children => pagesOf children
  | page name _ settings => [⟨name, settings⟩]
  | setting _ => []
  | malformed => []

def pagesOf : List Node → List Page
  | [] => []
  | node :: rest => node.pages ++ pagesOf rest

end

/-- The settings that the pages list, in order. -/
def declarations (root : Node) : List Declaration :=
  root.pages.flatMap fun page => page.settings.filterMap declared?

/-- The first setting with a key. -/
def find? (root : Node) (key : Key) : Option Declaration :=
  root.declarations.find? fun declared => declared.key = key

def ofFields (value : Value) (parts : String → Option (Except Value.Fault (List Node))) :
    Except Value.Fault Node := do
  let list (name : String) : Except Value.Fault (List Node) :=
    match value.field? name, parts name with
    | none, _ => .ok []
    | some _, some nodes => nodes
    | some _, none => .error .noList
  match value.field? "kind" with
  | some (.text "category") =>
    return .category (← value.require "name" Value.asText)
      (← value.fieldOr "visible_name" "" Value.asText) (← list "children")
  | some (.text "page") =>
    return .page (← value.require "name" Value.asText)
      (← value.fieldOr "visible_name" "" Value.asText) (← list "settings")
  | some (.text "setting") => return .setting (← Declaration.ofValue value)
  | _ => return .malformed

mutual

/-- Reads a node; what has no known kind is malformed. -/
def ofValue : Value → Except Value.Fault Node
  | .record fields => ofFields (.record fields) fun name => Table.find? name (partsOf fields)
  | _ => .ok .malformed

def partsOf : List (String × Value) → List (String × Except Value.Fault (List Node))
  | [] => []
  | (name, .list items) :: rest => (name, ofValues items) :: partsOf rest
  | _ :: rest => partsOf rest

def ofValues : List Value → Except Value.Fault (List Node)
  | [] => .ok []
  | item :: rest => do
    let node ← ofValue item
    let nodes ← ofValues rest
    return node :: nodes

end

end Node

end SitePresets
