import SitePresets.Document.Xml
import SitePresets.Service.Basic

/-!
# Export and import

Presets that leave the site and come to it. An export stores the settings of the site as a preset, and
what the site knows of a document is stored when it is imported.
-/

namespace SitePresets

structure ExportRequest where
  name : String
  comments : Option String := none
  author : Option String := none
  user : Option Int := none
  /-- The keys of the settings to export, as texts; all of them if it is left out. -/
  selected : Option (List String) := none
  includeSensitive : Bool := false
  deriving Repr

namespace Exchange

/-- A live setting as an item of a preset. A value that is none of the setting goes as it is. -/
def exportItem (setting : Descriptor) : Item where
  key := setting.key
  value := some (setting.value.getD (setting.raw.getD ""))
  attributes := setting.facets.map fun (facet, on) =>
    ((setting.facetKey facet).name, some (Value.flagText on))

def isWanted (request : ExportRequest) (exclusions : List Key) (setting : Descriptor) : Bool :=
  request.selected.all (·.contains setting.key.text)
    && (request.includeSensitive || !exclusions.contains setting.key)

def exportItems (request : ExportRequest) (exclusions : List Key) (snapshot : Snapshot) :
    List Item :=
  (snapshot.inOrder.filter (isWanted request exclusions)).map exportItem

/-- An item with the attributes that a live setting supports. -/
def keepSupported (live : Descriptor) (item : Item) : Item :=
  { item with
    attributes := item.attributes.filter fun row => (live.facetOfVariable? row.1).isSome }

def importItems (snapshot : Snapshot) (items : List Item) : List Item :=
  items.filterMap fun item => (snapshot.get? item.key).map (keepSupported · item)

end Exchange

namespace Service

open Exchange

def exportSite (service : Service) (request : ExportRequest) : Except Error (Preset × Service) := do
  let snapshot ← service.snapshot
  let (preset, library) ← service.library.create service.clock {
    name := request.name
    comments := request.comments
    author := request.author
    user := request.user
    site := some service.identity.url
    release := some service.identity.release }
  let (preset, library) ←
    library.addItems preset (exportItems request service.exclusions snapshot)
  if preset.items.isEmpty then throw (.invalidPreset .nothingSelected)
  else return (preset, service.withLibrary library)

/-- Stores a document as a new preset, without what the site does not know. -/
def importDocument (service : Service) (document : Document) (user : Option Int) :
    Except Error (Preset × Service) := do
  let snapshot ← service.snapshot
  let items := importItems snapshot document.items
  if items.isEmpty then throw (.invalidPreset .nothingKnown)
  else
    let (preset, library) ←
      service.library.save service.clock { document with items } user service.clock
    return (preset, service.withLibrary library)

/-- Reads a document and stores it, under another name if one is given. -/
def importXml (service : Service) (text : String) (user : Option Int) (name : Option String) :
    Except Error (Preset × Service) := do
  let document ← (Document.ofXml text).mapError .invalidPreset
  service.importDocument
    { document with name := Declaration.firstOf [name] document.name } user

end Service

end SitePresets
