import SitePresets.Document
import SitePresets.Error
import SitePresets.Grouping
import SitePresets.Xml.Document
import SitePresets.Xml.Writer

/-!
# Preset documents as XML

Preset documents as XML. Settings stand under their scopes and plugins under their types; tags are in
upper case, and a slash in a scope becomes two underscores.
-/

namespace SitePresets.Document

open Xml Numeral

def scopeMark : List Char := ['_', '_']

def scopeTag (scope : String) : String :=
  String.ofList (Text.upperChars
    (scope.toList.flatMap fun c => if c = '/' then scopeMark else [c]))

def tagScope (tag : String) : String :=
  String.ofList (Text.replacePair '_' '_' ['/'] (Text.lowerChars tag.toList))

def leaf (tag text : String) : Element :=
  { tag, attributes := [], text, children := [] }

def branch (tag : String) (children : List Element) : Element :=
  { tag, attributes := [], text := "", children }

def itemElement (item : Item) : Element :=
  { tag := Text.upper item.key.name
    attributes := item.attributes.map fun (name, value) => (name, value.getD "")
    text := item.value.getD ""
    children := [] }

def scopeElement (scope : String) (items : List Item) : Element :=
  branch (scopeTag scope) [branch "SETTINGS" (items.map itemElement)]

def pluginElement (row : Plugin × Int) : Element :=
  leaf (Text.upper row.1.name) (Integer.text row.2)

def toElement (document : Document) : Element :=
  branch "PRESET" ([
    leaf "NAME" document.name,
    leaf "COMMENTS" (document.comments.getD ""),
    leaf "PRESET_DATE" ((document.timeCreated.map Integer.text).getD ""),
    leaf "SITE_URL" (document.site.getD ""),
    leaf "AUTHOR" (document.author.getD ""),
    leaf "RELEASE" (document.release.getD ""),
    branch "ADMIN_SETTINGS"
      ((Grouping.groups (fun item : Item => item.key.scope) document.items).map
        fun (scope, items) => scopeElement scope items)]
    ++ if document.plugins.isEmpty then [] else
      [branch "PLUGINS"
        ((Grouping.groups (fun row : Plugin × Int => row.1.type) document.plugins).map
          fun (type, rows) => branch (Text.upper type) (rows.map pluginElement))])

/-- The text of the first child with a tag, unless it is empty. -/
def fieldText? (root : Element) (tag : String) : Option String :=
  match root.child? tag with
  | some found => if found.text = "" then none else some found.text
  | none => none

def itemOfElement (scope : String) (element : Element) : Item :=
  { key := ⟨scope, Text.lower element.tag⟩
    value := some element.text
    attributes := (Table.ofList (element.attributes.map fun (name, value) =>
      (Text.lower name, some value))).rows }

def itemsOfScope (element : Element) : List Item :=
  ((element.children.filter fun child => child.tag = "SETTINGS").flatMap Element.children).map
    (itemOfElement (tagScope element.tag))

/-- The plugins below the element of a type; what has no whole number is passed over. -/
def pluginsOfType (element : Element) : List (Plugin × Int) :=
  element.children.filterMap fun child =>
    (Integer.read? (Text.trim child.text)).map fun enabled =>
      (⟨Text.lower element.tag, Text.lower child.tag⟩, enabled)

def ofElement (root : Element) : Except PresetFault Document :=
  if root.tag ≠ "PRESET" then .error (.unexpectedRoot root.tag)
  else match fieldText? root "NAME" with
    | none => .error .noName
    | some name => .ok {
        name
        comments := fieldText? root "COMMENTS"
        author := fieldText? root "AUTHOR"
        site := fieldText? root "SITE_URL"
        release := fieldText? root "RELEASE"
        timeCreated := (fieldText? root "PRESET_DATE").bind Integer.read?
        items := ((root.child? "ADMIN_SETTINGS").map fun settings =>
          settings.children.flatMap itemsOfScope).getD []
        plugins := ((root.child? "PLUGINS").map fun plugins =>
          plugins.children.flatMap pluginsOfType).getD [] }

def toXml (document : Document) : Except Error String :=
  match write? document.toElement with
  | some text => .ok text
  | none => .error .unclosedBrace

def ofXml (text : String) : Except PresetFault Document :=
  match read? text with
  | some root => ofElement root
  | none => .error .notXml

end SitePresets.Document
