import SitePresets.Document.Yaml
import SitePresets.Service.Exchange
import SitePresets.Service.Install
import SitePresets.SettingsTree
import SitePresets.Value.Whole

/-!
# Sessions

Everything that can be done with a service, one step at a time. Each step is a transaction of the
database: of one that fails nothing is left. A memory takes no part in that, and keeps what was written
to it.
-/

namespace SitePresets

inductive SiteStep where
  | set (key : Key) (value : Option String) (user : Option Int)
  | get (key : Key)
  | log (id : Int)
  | plugin (plugin : Plugin)
  | setPlugin (plugin : Plugin) (enabled : Int)
  | plugins (type : String)
  | handlers (type : String)
  | scopeAvailable (scope : String)
  | visible (component : String)
  | setVisible (component : String) (visible : Bool)
  | read (key : Key)
  | write (key : Key) (facet : Option String) (value : Option String) (user : Option Int)
  | settings
  | tree
  | install (seeded : Bool) (default : String)
  | installPlugins (plugins : List (Plugin × Int))
  deriving Repr

inductive LibraryStep where
  | create (heading : Heading)
  | save (document : Document) (user : Option Int) (timeImported : Int)
  | addItem (preset : Int) (item : Item)
  | addPlugin (preset : Int) (plugin : Plugin) (enabled : Value)
  | preset (preset : Int)
  | presets
  | find (name : String)
  | update (preset : Int) (name comments : Option String)
  | delete (preset : Int)
  | document (preset : Int)
  | xml (preset : Int)
  | yaml (preset : Int)
  | exportSite (request : ExportRequest)
  | importXml (text : String) (user : Option Int) (name : Option String)
  | importDocument (document : Document) (user : Option Int)
  | presetSettings (preset : Int)
  | presetTree (preset : Int)
  | application (application : Int)
  | applications (preset : Option Int)
  | purge (application : Int)

inductive WorldStep where
  | clock (now : Int)
  | lock
  | unlock
  | isLocked
  | protect (readOnly : List Key) (pinned : List Plugin)
  | declare (tree : Node)
  | exclude (exclusions : List Key)
  | truncateLog (keep : Int)
  | uninstall (plugin : Plugin)
  | raw (key : Key)
  | poke (key : Key) (text : String)
  | dump

inductive Step where
  | site (step : SiteStep)
  | library (step : LibraryStep)
  | apply (preset : Int) (request : ApplyRequest) (timeout : Option Int)
  | rollback (application : Int) (user : Option Int) (cancellation : Cancellation)
      (timeout : Option Int)
  | world (step : WorldStep)

structure Dump where
  values : List (Key × Option String)
  log : List (Change × Option Int)
  plugins : List (Plugin × Int)
  visibility : List (String × Bool)
  presets : List Preset
  applications : List Application
  deriving Repr

/-- A row of the database: the text that it means, whether it is encrypted, and who wrote it. -/
structure RawValue where
  text : String
  encrypted : Bool
  updatedBy : Option Int
  deriving DecidableEq, Repr

inductive Answer where
  | done
  | flag (b : Bool)
  | number (z : Option Int)
  | text (s : Option String)
  | texts (items : List String)
  | change (change : Option Change)
  | states (states : List (String × Int))
  | setting (setting : Option Descriptor)
  | settings (settings : List Descriptor)
  | tree (root : Node) (snapshot : Snapshot)
  | known (settings : List Descriptor) (unknown : List Item)
  | item (item : StoredItem)
  | plugin (plugin : StoredPlugin)
  | preset (preset : Preset) (state : PresetState)
  | presets (presets : List (Preset × PresetState))
  | document (document : Document)
  | report (report : ApplyReport)
  | rollbackReport (report : RollbackReport)
  | application (application : Application)
  | applications (applications : List Application)
  | raw (raw : Option RawValue)
  | dump (dump : Dump)

namespace Service

def shown (service : Service) (preset : Preset) : Answer :=
  .preset preset (service.library.stateOf preset)

def unchanged {ε : Type} (service : Service) (answer : Answer) : Except ε (Answer × Service) :=
  .ok (answer, service)

def created (result : Preset × Service) : Answer × Service :=
  (result.2.shown result.1, result.2)

def ofLibrary (service : Service) (result : Preset × Library) : Answer × Service :=
  created (result.1, service.withLibrary result.2)

/-- What a site answers. A site that refuses is as it was: it reads first, and writes last. -/
def asking {α : Type} (service : Service) (result : Except Refusal α) :
    Except (Failure Error Service) α :=
  leaving service (ofStore result)

def ofWrite (service : Service) (result : Except Refusal (Change × Site)) :
    Except (Failure Error Service) (Answer × Service) := do
  let (change, site) ← service.asking result
  return (.change (some change), { service with site })

def setting? (service : Service) (key : Key) : Except (Failure Error Service) (Option Descriptor) :=
  match service.site.tree.find? key with
  | some declared => service.asking ((service.site.read declared).map some)
  | none => .ok none

def write (service : Service) (key : Key) (facet : Option String) (value : Option String)
    (user : Option Int) : Except (Failure Error Service) (Answer × Service) := do
  match ← service.setting? key with
  | none => service.asking (.error (.noSuchFacet key.name))
  | some live =>
    match facet with
    | none => service.ofWrite (service.site.write live value user)
    | some name =>
      match live.kind.facets.find? fun facet => facet.name = name with
      | some facet => service.ofWrite (service.site.writeFacet live facet value user)
      | none => service.asking (.error (.noSuchFacet name))

def siteStep (service : Service) : SiteStep → Except (Failure Error Service) (Answer × Service)
  | .set key value user => service.ofWrite (service.site.set key value user)
  | .get key => do service.unchanged (.text (← service.asking (service.site.store.get key)))
  | .log id => do service.unchanged (.change (← service.asking (service.site.store.change? id)))
  | .plugin plugin => service.unchanged (.number (service.site.store.plugin? plugin))
  | .setPlugin plugin enabled => do
    let (old, site) ← service.asking (service.site.setPlugin plugin enabled)
    return (.number (some old), { service with site })
  | .plugins type => service.unchanged (.states (service.site.store.pluginsOf type))
  | .handlers type => service.unchanged (.texts (service.site.store.handlersOf type))
  | .scopeAvailable scope => service.unchanged (.flag (service.site.store.scopeAvailable scope))
  | .visible component => service.unchanged (.flag (service.site.store.isVisible component))
  | .setVisible component visible =>
    .ok (.done, service.withStore (service.site.store.setVisible component visible))
  | .read key => do service.unchanged (.setting (← service.setting? key))
  | .write key facet value user => service.write key facet value user
  | .settings => do
    service.unchanged (.settings (← service.asking (Snapshot.ofSite service.site)).inOrder)
  | .tree => do
    service.unchanged (.tree service.site.tree (← service.asking (Snapshot.ofSite service.site)))
  | .install seeded default => do
    return (.done, ← service.install (Exclusion.parse Stock.sensitiveSettings) seeded default)
  | .installPlugins plugins => do
    return (.done, ← leaving service (service.installPlugins plugins))

def presetSnapshot (service : Service) (id : Int) : Except Error (Snapshot × List Item) := do
  let preset ← service.library.getPreset id
  let live ← service.snapshot
  let items := preset.items.map StoredItem.item
  return (Snapshot.ofItems live items, Snapshot.unknown live items)

def libraryStep (service : Service) : LibraryStep → Except Error (Answer × Service)
  | .create heading => do
    return service.ofLibrary (← service.library.create service.clock heading)
  | .save document user timeImported => do
    return service.ofLibrary (← service.library.save service.clock document user timeImported)
  | .addItem id item => do
    let preset ← service.library.getPreset id
    let (row, _, library) ← service.library.addItem preset item
    return (.item row, service.withLibrary library)
  | .addPlugin id plugin enabled => do
    let preset ← service.library.getPreset id
    let (row, _, library) ← service.library.addPlugin preset plugin (← enabled.toWhole)
    return (.plugin row, service.withLibrary library)
  | .preset id => do service.unchanged (service.shown (← service.library.getPreset id))
  | .presets => service.unchanged (.presets (service.library.presets.map fun preset =>
      (preset, service.library.stateOf preset)))
  | .find name => service.unchanged (.number
      ((service.library.findByName? name).map fun preset => Int.ofNat preset.id))
  | .update id name comments => do
    return service.ofLibrary (← service.library.update id name comments)
  | .delete id => do return (.done, service.withLibrary (← service.library.delete id))
  | .document id => do
    service.unchanged (.document (← service.library.getPreset id).document)
  | .xml id => do
    service.unchanged (.text (some (← (← service.library.getPreset id).document.toXml)))
  | .yaml id => do
    service.unchanged (.text (some (← service.library.getPreset id).document.toYaml))
  | .exportSite request => do return created (← service.exportSite request)
  | .importXml text user name => do return created (← service.importXml text user name)
  | .importDocument document user => do return created (← service.importDocument document user)
  | .presetSettings id => do
    let (snapshot, unknown) ← service.presetSnapshot id
    service.unchanged (.known snapshot.inOrder unknown)
  | .presetTree id => do
    let (snapshot, _) ← service.presetSnapshot id
    service.unchanged (.tree service.site.tree snapshot)
  | .application id => do
    service.unchanged (.application (← service.library.getApplication id))
  | .applications none => service.unchanged (.applications service.library.newestFirst)
  | .applications (some presetId) =>
    service.unchanged (.applications (service.library.applicationsOf presetId))
  | .purge id => do return (.done, service.withLibrary (← service.library.purge id))

def rawValue (service : Service) (key : Key) : Except Error (Option RawValue) :=
  match service.site.store with
  | .memory _ => .ok none
  | .rows rows =>
    match rows.values.get? key with
    | none => .ok none
    | some row => do
      return some {
        text := ← ofStore (row.stored.decode key.name)
        encrypted := row.stored.isSealed
        updatedBy := row.updatedBy }

def poke (service : Service) (key : Key) (text : String) : Except Error Service :=
  match service.site.store with
  | .memory _ => .ok service
  | .rows rows =>
    match rows.insertRaw key text with
    | some rows => .ok (service.withStore (.rows rows))
    | none => .error .duplicate

def dump (service : Service) : Except Error Dump := do
  let store := service.site.store
  return {
    values := (← ofStore store.values).mergeSort fun a b => Key.le a.1 b.1
    log := ← ofStore store.history
    plugins := store.pluginTable.rows.mergeSort fun a b => Key.le ⟨a.1.type, a.1.name⟩ ⟨b.1.type, b.1.name⟩
    visibility := store.visibility.rows.mergeSort fun a b => a.1 ≤ b.1
    presets := service.library.presets
    applications := service.library.newestFirst }

def worldStep (service : Service) : WorldStep → Except Error (Answer × Service)
  | .clock now => .ok (.done, { service with clock := now })
  | .lock => do
    service.checkLock none
    return (.done, { service with locked := true })
  | .unlock => .ok (.done, { service with locked := false })
  | .isLocked => service.unchanged (.flag service.locked)
  | .protect readOnly pinned =>
    .ok (.done, { service with site := { service.site with readOnly, pinned } })
  | .declare tree => .ok (.done, { service with site := { service.site with tree } })
  | .exclude exclusions => .ok (.done, { service with exclusions })
  | .truncateLog keep => .ok (.done, service.withStore (service.site.store.truncateLog keep))
  | .uninstall plugin => .ok (.done, service.withStore (service.site.store.uninstall plugin))
  | .raw key => do service.unchanged (.raw (← service.rawValue key))
  | .poke key text => do return (.done, ← service.poke key text)
  | .dump => do service.unchanged (.dump (← service.dump))

/-- The result of a step, and the service that the step leaves, also if it fails. -/
def settle {α : Type} : Except (Failure Error Service) (α × Service) → Except Error α × Service
  | .ok (answer, service) => (.ok answer, service)
  | .error failure => (.error failure.cause, failure.left)

/-- Does a step. One that fails leaves what it has done to the site so far. The steps of the library do
nothing to the site, and those of the world fail before they do anything. -/
def attempt (service : Service) : Step → Except Error Answer × Service
  | .site step => settle (service.siteStep step)
  | .library step => settle (leaving service (service.libraryStep step))
  | .apply preset request timeout =>
    let (report, after) := service.apply preset
      { request with exclusions := service.exclusions } timeout
    (report.map .report, after)
  | .rollback application user cancellation timeout => settle do
    let (report, after) ← service.rollback application user cancellation timeout
    return (.rollbackReport report, after)
  | .world step => settle (leaving service (service.worldStep step))

/-- What is left after a step that failed: only what it has written to a memory. -/
def takeBack (service after : Service) : Service :=
  match service.site.store with
  | .memory _ => { service with site := after.site }
  | .rows _ => service

def step (service : Service) (step : Step) : Except Error Answer × Service :=
  match service.attempt step with
  | (.ok answer, after) => (.ok answer, after)
  | (.error error, after) => (.error error, service.takeBack after)

def after (service : Service) (step : Step) : Service :=
  (service.step step).2

def run (service : Service) : List Step → List (Except Error Answer) × Service
  | [] => ([], service)
  | step :: rest =>
    let (answer, service) := service.step step
    let (answers, service) := service.run rest
    (answer :: answers, service)

/-- What a step that fails has left is taken back to a service that has its site. -/
theorem takeBack_of_site_eq {service left : Service} (h : left.site = service.site) :
    service.takeBack left = service := by
  unfold takeBack
  cases service.site.store with
  | memory memory => rw [h]
  | rows rows => rfl

theorem step_of_ok {service after : Service} {step : Step} {answer : Answer}
    (h : service.attempt step = (.ok answer, after)) : service.step step = (.ok answer, after) := by
  unfold Service.step
  rw [h]

theorem step_of_error {service left : Service} {step : Step} {error : Error}
    (h : service.attempt step = (.error error, left)) :
    service.step step = (.error error, service.takeBack left) := by
  unfold Service.step
  rw [h]

/-- A step that fails before it does anything leaves the service as it was. -/
theorem step_of_leaving {service : Service} {step : Step} {result : Except Error (Answer × Service)}
    (h : service.attempt step = settle (leaving service result)) :
    service.step step = settle (leaving service result) := by
  unfold Service.step
  rw [h]
  cases result with
  | ok result => rfl
  | error error => exact congrArg (Prod.mk _) (takeBack_of_site_eq rfl)

theorem step_library (service : Service) (step : LibraryStep) :
    service.step (.library step) = settle (leaving service (service.libraryStep step)) :=
  step_of_leaving rfl

theorem length_run (service : Service) (steps : List Step) :
    (service.run steps).1.length = steps.length := by
  induction steps generalizing service with
  | nil => rfl
  | cons step rest ih => simp [run, ih]

theorem run_append (service : Service) (steps more : List Step) :
    (service.run (steps ++ more)).2 = ((service.run steps).2.run more).2 := by
  induction steps generalizing service with
  | nil => rfl
  | cons step rest ih => simp [run, ih]

end Service

end SitePresets
