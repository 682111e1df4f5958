import SitePresets.Declaration.Basic
import SitePresets.Descriptor.Kind

/-!
# Resolving kinds

Choosing the kind of a declared setting. The resolvers of a chain are asked in order: first for the
class in its component, then for the class alone, then for the primitive type. A setting that none
knows is plain.
-/

namespace SitePresets

/-- One step of a chain, with the table that it looks into. -/
inductive Resolver where
  | component (table : List ((String × String) × Kind))
  | mapped (table : List (String × Kind))
  | primitive (table : List (String × Kind))
  | fallback
  deriving Repr

namespace Resolver

def name : Resolver → String
  | component _ => "component"
  | mapped _ => "mapped"
  | primitive _ => "primitive"
  | fallback => "fallback"

def kind? (declared : Declaration) : Resolver → Option Kind
  | component table => Table.find? (declared.owner, declared.settingClass) table
  | mapped table => Table.find? declared.settingClass table
  | primitive table => Table.find? declared.type table
  | fallback => some .plain

/-- The first step that knows the setting. -/
def answering? (chain : List Resolver) (declared : Declaration) : Option Resolver :=
  chain.find? fun resolver => (resolver.kind? declared).isSome

/-- The kind that the first knowing step gives. -/
def kindOf (chain : List Resolver) (declared : Declaration) : Kind :=
  (chain.findSome? (kind? declared)).getD .plain

def componentClasses : List ((String × String) × Kind) := [
  (("core", "admin_setting_bloglevel"), .blogLevel),
  (("core_h5p", "admin_settings_h5plib_handler_select"), .handlerSelect)]

def mappedClasses : List (String × Kind) := [
  ("admin_setting_configcolourpicker", .text),
  ("admin_setting_configdirectory", .text),
  ("admin_setting_configduration_with_advanced", .textWithAdvanced),
  ("admin_setting_configduration", .text),
  ("admin_setting_configempty", .text),
  ("admin_setting_configexecutable", .text),
  ("admin_setting_configfile", .text),
  ("admin_setting_confightmleditor", .text),
  ("admin_setting_configmixedhostiplist", .text),
  ("admin_setting_configmultiselect_modules", .multiSelect),
  ("admin_setting_configpasswordunmask", .password),
  ("admin_setting_configportlist", .text),
  ("admin_setting_configtext_with_advanced", .textWithAdvanced),
  ("admin_setting_configtext_with_maxlength", .text),
  ("admin_setting_configcheckbox_with_advanced", .checkboxWithAdvanced),
  ("admin_setting_configselect_with_advanced", .selectWithAdvanced),
  ("admin_setting_configselect_with_lock", .selectWithLock),
  ("admin_setting_configtextarea", .textarea),
  ("admin_setting_configthemepreset", .select),
  ("admin_setting_countrycodes", .text),
  ("admin_setting_devicedetectregex", .text),
  ("admin_setting_enablemobileservice", .checkbox),
  ("admin_setting_pickroles", .multiCheckbox),
  ("admin_setting_requiredtext", .text),
  ("admin_setting_requiredtextarea", .textarea),
  ("admin_setting_special_calendar_weekend", .text),
  ("admin_setting_special_debug", .select),
  ("admin_setting_special_selectsetup", .select),
  ("admin_setting_users_with_capability", .multiSelect),
  ("admin_setting_sitesetcheckbox", .checkbox),
  ("admin_setting_sitesetselect", .select),
  ("admin_setting_sitesettext", .text),
  ("admin_setting_special_backup_auto_destination", .text)]

def primitiveTypes : List (String × Kind) := [
  ("text", .text),
  ("textarea", .textarea),
  ("password", .password),
  ("checkbox", .checkbox),
  ("select", .select),
  ("multiselect", .multiSelect),
  ("multicheckbox", .multiCheckbox)]

def stock : List Resolver :=
  [component componentClasses, mapped mappedClasses, primitive primitiveTypes, fallback]

/-- An empty chain counts as the stock one. -/
def chainOrStock (chain : List Resolver) : List Resolver :=
  if chain.isEmpty then stock else chain

/-- A chain that ends in the fallback answers for every setting. -/
theorem answering?_append_fallback (chain : List Resolver) (declared : Declaration) :
    (answering? (chain ++ [fallback]) declared).isSome := by
  simp [answering?, List.find?_append, kind?]

end Resolver

end SitePresets
