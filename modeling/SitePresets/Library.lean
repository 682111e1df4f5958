import SitePresets.Descriptor.Kind
import SitePresets.Document
import SitePresets.Error
import SitePresets.Numbering

/-!
# The library of presets

The library of stored presets, and of the occasions on which they were applied. A ledger row of such
an application stands for one write that it made.
-/

namespace SitePresets

/-- One write of an application: of a value or a facet, by its number in the log, or of the state of
a plugin. -/
inductive LedgerRow where
  | setting (logId : Nat)
  | facet (logId : Nat) (item : String) (facet : Facet)
  | plugin (plugin : Plugin) (value old : Int)
  deriving DecidableEq, Repr

namespace LedgerRow

def logId? : LedgerRow → Option Nat
  | setting logId => some logId
  | facet logId _ _ => some logId
  | plugin .. => none

/-- The numbers that are stored with a row, besides the one in the log. -/
def numbers : LedgerRow → List Int
  | plugin _ value old => [value, old]
  | _ => []

def isSetting : LedgerRow → Bool
  | setting _ => true
  | _ => false

def isFacet : LedgerRow → Bool
  | facet .. => true
  | _ => false

def isPlugin : LedgerRow → Bool
  | plugin .. => true
  | _ => false

/-- Values first, then facets, then plugins. -/
def arrange (rows : List LedgerRow) : List LedgerRow :=
  rows.filter isSetting ++ rows.filter isFacet ++ rows.filter isPlugin

theorem mem_arrange {rows : List LedgerRow} {row : LedgerRow} :
    row ∈ arrange rows ↔ row ∈ rows := by
  cases row <;> simp [arrange, isSetting, isFacet, isPlugin]

end LedgerRow

structure Application where
  id : Nat
  presetId : Nat
  user : Option Int
  timeApplied : Int
  rows : List LedgerRow
  deriving DecidableEq, Repr

def Application.isEmpty (application : Application) : Bool :=
  application.rows.isEmpty

structure StoredItem where
  id : Nat
  item : Item
  deriving DecidableEq, Repr

structure StoredPlugin where
  id : Nat
  plugin : Plugin
  enabled : Int
  deriving DecidableEq, Repr

structure Heading where
  name : String
  comments : Option String := none
  author : Option String := none
  user : Option Int := none
  site : Option String := none
  release : Option String := none
  /-- One for the presets of a new site. -/
  core : Int := 0
  timeImported : Int := 0
  timeCreated : Option Int := none
  deriving DecidableEq, Repr

structure Preset where
  id : Nat
  name : String
  comments : Option String
  author : Option String
  user : Option Int
  site : Option String
  release : Option String
  core : Int
  timeCreated : Int
  timeImported : Int
  timeApplied : Int
  items : List StoredItem
  plugins : List StoredPlugin
  deriving DecidableEq, Repr

namespace Preset

def document (preset : Preset) : Document where
  name := preset.name
  comments := preset.comments
  author := preset.author
  site := preset.site
  release := preset.release
  timeCreated := some preset.timeCreated
  items := preset.items.map StoredItem.item
  plugins := preset.plugins.map fun row => (row.plugin, row.enabled)

end Preset

inductive PresetState where
  | stored
  | applied
  deriving DecidableEq, Repr

def PresetState.text : PresetState → String
  | stored => "stored"
  | applied => "applied"

/-- The presets and the applications, each in the order of their numbers. -/
structure Library where
  presets : List Preset := []
  applications : List Application := []
  deriving DecidableEq, Repr

namespace Library

def checkNumber (z : Int) : Except Error Unit :=
  if fitsColumn z then .ok () else .error (.refused .numberTooLarge)

def checkNumbers (numbers : List Int) : Except Error Unit :=
  numbers.forM checkNumber

def preset? (library : Library) (id : Int) : Option Preset :=
  library.presets.find? fun preset => preset.id = id

def getPreset (library : Library) (id : Int) : Except Error Preset := do
  checkNumber id
  match library.preset? id with
  | some preset => return preset
  | none => throw (.presetNotFound id)

def application? (library : Library) (id : Int) : Option Application :=
  library.applications.find? fun application => application.id = id

def getApplication (library : Library) (id : Int) : Except Error Application := do
  checkNumber id
  match library.application? id with
  | some application => return application
  | none => throw (.applicationNotFound id)

/-- The first preset with a name. -/
def findByName? (library : Library) (name : String) : Option Preset :=
  library.presets.find? fun preset => preset.name = name

/-- The applications, the newest first. -/
def newestFirst (library : Library) : List Application :=
  library.applications.reverse

/-- The applications of a preset, the newest first. -/
def applicationsOf (library : Library) (presetId : Int) : List Application :=
  library.newestFirst.filter fun application => application.presetId = presetId

/-- A preset is applied as long as it owns an application. -/
def stateOf (library : Library) (preset : Preset) : PresetState :=
  if library.applications.any fun application => application.presetId = preset.id then .applied
  else .stored

def nextPresetId (library : Library) : Nat :=
  Numbering.next (library.presets.map Preset.id)

def nextItemId (library : Library) : Nat :=
  Numbering.next (library.presets.flatMap fun preset => preset.items.map StoredItem.id)

def nextPluginId (library : Library) : Nat :=
  Numbering.next (library.presets.flatMap fun preset => preset.plugins.map StoredPlugin.id)

def nextApplicationId (library : Library) : Nat :=
  Numbering.next (library.applications.map Application.id)

/-- Puts a preset in the place of the one with its number. -/
def replacePreset (library : Library) (preset : Preset) : Library :=
  { library with
    presets := library.presets.map fun other => if other.id = preset.id then preset else other }

/-- Puts an application in the place of the one with its number. -/
def replaceApplication (library : Library) (application : Application) : Library :=
  { library with
    applications := library.applications.map fun other =>
      if other.id = application.id then application else other }

/-- Stores an empty preset. A missing or zero time of creation is the present. -/
def create (library : Library) (now : Int) (heading : Heading) : Except Error (Preset × Library) := do
  let timeCreated := match heading.timeCreated with
    | none | some 0 => now
    | some time => time
  checkNumbers ([heading.core, heading.timeImported, timeCreated] ++ heading.user.toList)
  let preset : Preset := {
    id := library.nextPresetId
    name := heading.name
    comments := heading.comments
    author := heading.author
    user := heading.user
    site := heading.site
    release := heading.release
    core := heading.core
    timeCreated
    timeImported := heading.timeImported
    timeApplied := 0
    items := []
    plugins := [] }
  return (preset, { library with presets := library.presets ++ [preset] })

/-- Adds an item to a preset, which holds one item for each key. An empty scope is the site. -/
def addItem (library : Library) (preset : Preset) (item : Item) :
    Except Error (StoredItem × Preset × Library) :=
  let key : Key := if item.key.scope = "" then { item.key with scope := siteScope } else item.key
  if preset.items.any fun row => row.item.key = key then .error .duplicate
  else
    let row : StoredItem := { id := library.nextItemId, item := { item with key } }
    let preset := { preset with items := preset.items ++ [row] }
    .ok (row, preset, library.replacePreset preset)

def addPlugin (library : Library) (preset : Preset) (plugin : Plugin) (enabled : Int) :
    Except Error (StoredPlugin × Preset × Library) := do
  checkNumber enabled
  let row : StoredPlugin := { id := library.nextPluginId, plugin, enabled }
  let preset := { preset with plugins := preset.plugins ++ [row] }
  return (row, preset, library.replacePreset preset)

def addItems (library : Library) (preset : Preset) :
    List Item → Except Error (Preset × Library)
  | [] => .ok (preset, library)
  | item :: rest => do
    let (_, preset, library) ← library.addItem preset item
    library.addItems preset rest

def addPlugins (library : Library) (preset : Preset) :
    List (Plugin × Int) → Except Error (Preset × Library)
  | [] => .ok (preset, library)
  | (plugin, enabled) :: rest => do
    let (_, preset, library) ← library.addPlugin preset plugin enabled
    library.addPlugins preset rest

def save (library : Library) (now : Int) (document : Document) (user : Option Int)
    (timeImported : Int) : Except Error (Preset × Library) := do
  let (preset, library) ← library.create now {
    name := document.name
    comments := document.comments
    author := document.author
    user
    site := document.site
    release := document.release
    timeImported
    timeCreated := document.timeCreated }
  let (preset, library) ← library.addItems preset document.items
  library.addPlugins preset document.plugins

def update (library : Library) (id : Int) (name comments : Option String) :
    Except Error (Preset × Library) := do
  let preset ← library.getPreset id
  let preset := { preset with
    name := name.getD preset.name, comments := comments.or preset.comments }
  return (preset, library.replacePreset preset)

def delete (library : Library) (id : Int) : Except Error Library := do
  let preset ← library.getPreset id
  return {
    presets := library.presets.filter fun other => other.id ≠ preset.id
    applications := library.applications.filter fun application =>
      application.presetId ≠ preset.id }

/-- Whether there is a place for an application, whatever its rows will be. -/
def canRecord (now : Int) (user : Option Int) : Bool :=
  (checkNumbers (now :: user.toList)).isOk

def recordApplication (library : Library) (now : Int) (preset : Preset) (user : Option Int)
    (rows : List LedgerRow) : Except Error (Application × Library) := do
  checkNumbers (now :: user.toList)
  checkNumbers (rows.flatMap LedgerRow.numbers)
  let application : Application := {
    id := library.nextApplicationId
    presetId := preset.id
    user
    timeApplied := now
    rows := LedgerRow.arrange rows }
  return (application, { library.replacePreset { preset with timeApplied := now } with
    applications := library.applications ++ [application] })

def removeApplication (library : Library) (id : Nat) : Library :=
  { library with applications := library.applications.filter fun other => other.id ≠ id }

/-- Forgets an application; what it wrote stays. -/
def purge (library : Library) (id : Int) : Except Error Library := do
  let application ← library.getApplication id
  return library.removeApplication application.id

end Library

end SitePresets
