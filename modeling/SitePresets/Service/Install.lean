import SitePresets.Declaration.Stock
import SitePresets.Service.Basic

/-!
# Installing a site

The start of a site: its plugins are registered, and a new site gets the two core presets, one of
which may be applied at once. A site that has core presets is left alone.
-/

namespace SitePresets

namespace Core

def siteItem (name value : String) (scope : String := siteScope) : Item :=
  { key := ⟨scope, name⟩, value := some value, attributes := [] }

/-- The items that both core presets have, with their values in each. -/
def items (flag attachments menu : String) : List Item := [
  siteItem "usecomments" flag,
  siteItem "usetags" flag,
  siteItem "enablenotes" flag,
  siteItem "enableblogs" flag,
  siteItem "enablebadges" flag,
  siteItem "enableanalytics" flag,
  siteItem "enabled" flag "core_competency",
  siteItem "showdataretentionsummary" flag "tool_dataprivacy",
  siteItem "forum_maxattachments" attachments,
  siteItem "customusermenuitems" menu]

def lite : Document where
  name := "Lite"
  comments := some
    "Minimalist version with only a few of the most common plugins and features enabled."
  items := items "0" "3" "preferences,moodle|/user/preferences.php|t/preferences"
  plugins := [(⟨"mod", "chat"⟩, 0)]

def full : Document where
  name := "Full"
  comments := some "The default installation with most of the features and plugins enabled."
  items := items "1" "9" <|
    "grades,grades|/grade/report/mygrades.php|t/grades\n" ++
    "messages,message|/message/index.php|t/message\n" ++
    "preferences,moodle|/user/preferences.php|t/preferences"
  plugins := [(⟨"mod", "chat"⟩, 1)]

def presets : List Document := [lite, full]

end Core

namespace Library

def hasCore (library : Library) : Bool :=
  library.presets.any fun preset => preset.core = 1

def addCore (library : Library) (now : Int) (document : Document) :
    Except Error (Preset × Library) := do
  let (preset, library) ← library.create now
    { name := document.name, comments := document.comments, core := 1 }
  let (preset, library) ← library.addItems preset document.items
  library.addPlugins preset document.plugins

def addCores (library : Library) (now : Int) :
    List Document → Except Error (List Preset × Library)
  | [] => .ok ([], library)
  | document :: rest => do
    let (preset, library) ← library.addCore now document
    let (presets, library) ← library.addCores now rest
    return (preset :: presets, library)

end Library

namespace Service

def installPlugins (service : Service) (plugins : List (Plugin × Int)) : Except Error Service := do
  let missing := service.site.store.missing plugins
  Library.checkNumbers (missing.map Prod.snd)
  if (missing.map Prod.fst).Nodup then
    return service.withStore (service.site.store.addPlugins missing)
  else throw .duplicate

/-- The created preset with a name, in any case. -/
def defaultPreset? (created : List Preset) (name : String) : Option Preset :=
  if name = "" then none
  else created.find? fun preset => Text.lower preset.name = Text.lower name

/-- Stores the core presets unless there is one already, and applies the one that a new site starts
with, if any. -/
def seed (service : Service) (exclusions : List Key) (default : String) :
    Except (Failure Error Service) Service := do
  if service.library.hasCore then return service
  else
    let (created, library) ← leaving service (service.library.addCores service.clock Core.presets)
    let service := service.withLibrary library
    match defaultPreset? created default with
    | some preset =>
      let (_, service) ← disclose (service.apply preset.id { exclusions } none)
      return service
    | none => return service

/-- Registers the stock plugins and stores the core presets if they are wanted. -/
def install (service : Service) (exclusions : List Key) (seeded : Bool) (default : String) :
    Except (Failure Error Service) Service := do
  let service ← leaving service (service.installPlugins Stock.plugins)
  if seeded then service.seed exclusions default else return service

end Service

end SitePresets
