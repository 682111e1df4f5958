/-!
# Kinds of settings

The kinds of settings. A kind belongs to a family, which says how values are cleaned, compared and
shown, and it may carry facets: flags that are stored beside the value in variables of their own.
-/

namespace SitePresets

inductive Facet where
  | advanced
  | locked
  deriving DecidableEq, Repr, Inhabited

namespace Facet

def name : Facet → String
  | advanced => "advanced"
  | locked => "locked"

/-- The end of the names of the variables that hold the facet, and its field in a default. -/
def field : Facet → String
  | advanced => "adv"
  | locked => "locked"

def variableOf (facet : Facet) (setting : String) : String :=
  setting ++ "_" ++ facet.field

def all : List Facet := [advanced, locked]

def ofName? (name : String) : Option Facet :=
  all.find? fun facet => facet.name = name

@[simp]
theorem mem_all (facet : Facet) : facet ∈ all := by
  cases facet <;> simp [all]

end Facet

inductive Family where
  /-- Any text, as it is. -/
  | plain
  /-- Text, or a number if the declaration says so. -/
  | text
  /-- Text of several lines. -/
  | lines
  /-- Text that is not shown. -/
  | secret
  | flag
  /-- One of the choices. -/
  | choice
  /-- Any of the choices. -/
  | choices
  deriving DecidableEq, Repr, Inhabited

inductive Kind where
  | plain
  | text
  | textarea
  | password
  | checkbox
  | select
  | multiSelect
  | multiCheckbox
  | textWithAdvanced
  | checkboxWithAdvanced
  | selectWithAdvanced
  | selectWithLock
  /-- A choice that also shows or hides the blog menu. -/
  | blogLevel
  /-- A choice among the enabled plugins of a type. -/
  | handlerSelect
  deriving DecidableEq, Repr, Inhabited

namespace Kind

def all : List Kind := [
  plain, text, textarea, password, checkbox, select, multiSelect, multiCheckbox, textWithAdvanced,
  checkboxWithAdvanced, selectWithAdvanced, selectWithLock, blogLevel, handlerSelect]

def className : Kind → String
  | plain => "PresetSetting"
  | text => "ConfigText"
  | textarea => "ConfigTextarea"
  | password => "ConfigPassword"
  | checkbox => "ConfigCheckbox"
  | select => "ConfigSelect"
  | multiSelect => "ConfigMultiSelect"
  | multiCheckbox => "ConfigMultiCheckbox"
  | textWithAdvanced => "ConfigTextWithAdvanced"
  | checkboxWithAdvanced => "ConfigCheckboxWithAdvanced"
  | selectWithAdvanced => "ConfigSelectWithAdvanced"
  | selectWithLock => "ConfigSelectWithLock"
  | blogLevel => "BlogLevelSetting"
  | handlerSelect => "HandlerSelectSetting"

def ofClassName? (name : String) : Option Kind :=
  all.find? fun kind => kind.className = name

def family : Kind → Family
  | plain => .plain
  | text | textWithAdvanced => .text
  | textarea => .lines
  | password => .secret
  | checkbox | checkboxWithAdvanced => .flag
  | select | selectWithAdvanced | selectWithLock | blogLevel | handlerSelect => .choice
  | multiSelect | multiCheckbox => .choices

def facets : Kind → List Facet
  | textWithAdvanced | checkboxWithAdvanced | selectWithAdvanced => [.advanced]
  | selectWithLock => [.locked]
  | _ => []

@[simp]
theorem mem_all (kind : Kind) : kind ∈ all := by
  cases kind <;> simp [all]

end Kind

end SitePresets
