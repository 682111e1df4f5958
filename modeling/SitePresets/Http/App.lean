import SitePresets.Document.Yaml
import SitePresets.Http.Form
import SitePresets.Http.Route
import SitePresets.Service.Exchange
import SitePresets.Service.Install
import SitePresets.SettingsTree

/-!
# The application

The service behind its endpoints. Every request is one step: it either succeeds, or the service stays
as it was.
-/

namespace SitePresets.Http

structure Setup where
  identity : Identity := {}
  sensitiveSettings : String := ""
  /-- How long a request waits for the lock on the configuration. -/
  patience : Int := 0
  seeded : Bool := true
  defaultPreset : String := ""

structure App where
  setup : Setup
  service : Service

namespace App

def version : String := "1.0.0"

/-- Starts over a stored service: plugins and core presets are put in place. -/
def startOver (setup : Setup) (service : Service) : Except Error App := do
  let service ←
    (service.install service.exclusions setup.seeded setup.defaultPreset).mapError Failure.cause
  return { setup, service }

def start (setup : Setup) (tree : Node) (now : Int) : Except Error App :=
  startOver setup {
    site := { store := .rows .empty, tree }
    clock := now
    exclusions := Exclusion.parse setup.sensitiveSettings
    identity := setup.identity
    patience := setup.patience }

/-- Stops and starts again over the same database; locks do not outlast it. -/
def restart (app : App) : Except Error App :=
  startOver app.setup { app.service with locked := false }

end App

/-- What an operation answers, with the service after it. -/
abbrev Outcome := Except Error (Response × Service)

def ok (value : Value) : Response :=
  { status := 200, content := .json value }

def created (value : Value) : Response :=
  { status := 201, content := .json value }

def noContent : Response :=
  { status := 204 }

def refusal (status : Int) (detail : Value) : Response :=
  { status, content := .json (.record [("detail", detail)]) }

def crash : Response :=
  { status := 500, content := .text "text/plain; charset=utf-8" "Internal Server Error" }

/-- The response to an error. One that users are not told about is named by what was going on, or not
handled at all. -/
def errorResponse (context : Option String) (error : Error) : Response :=
  match error.code?, context with
  | some code, _ => refusal code.status (Error.response code error.message error.details)
  | none, some context =>
    refusal 500 (Error.response .internal (Error.failure context) none)
  | none, none => crash

def during (context : String) (outcome : Outcome) : Except Response (Response × Service) :=
  outcome.mapError (errorResponse (some context))

def plainly (outcome : Outcome) : Except Response (Response × Service) :=
  outcome.mapError (errorResponse none)

/-- The fields of a preset without its items. -/
def summaryFields (library : Library) (preset : Preset) : List (String × Value) := [
  ("id", .ofNat preset.id), ("name", .text preset.name), ("comments", .ofText? preset.comments),
  ("author", .ofText? preset.author), ("site", .ofText? preset.site),
  ("release", .ofText? preset.release), ("iscore", .flag (preset.core ≠ 0)),
  ("time_created", .integer preset.timeCreated), ("time_imported", .integer preset.timeImported),
  ("time_applied", .integer preset.timeApplied), ("state", .text (library.stateOf preset).text),
  ("item_count", .ofNat preset.items.length)]

def itemValue (item : Item) : Value :=
  .record [
    ("scope", .text item.key.scope), ("name", .text item.key.name), ("value", .ofText? item.value),
    ("attributes", .record (item.attributes.map fun (name, text) => (name, .ofText? text)))]

def presetValue (library : Library) (preset : Preset) : Value :=
  .record (summaryFields library preset ++ [
    ("items", .list (preset.items.map fun row => itemValue row.item)),
    ("plugins", .list (preset.plugins.map fun row =>
      Document.pluginToValue (row.plugin, row.enabled)))])

def applicationValue (application : Application) : Value :=
  .record [
    ("id", .ofNat application.id), ("preset_id", .ofNat application.presetId),
    ("user_id", .ofInteger? application.user), ("time_applied", .integer application.timeApplied),
    ("items", .ofNat (application.rows.countP LedgerRow.isSetting)),
    ("attributes", .ofNat (application.rows.countP LedgerRow.isFacet)),
    ("plugins", .ofNat (application.rows.countP LedgerRow.isPlugin))]

def treeValue (root : Node) (snapshot : Snapshot) (unknown : List Item) : Value :=
  let nodes := TreeNode.build root snapshot
  .record [
    ("tree", .list (TreeNode.toValues nodes)), ("flat", (FlatTree.ofNodes nodes).toValue),
    ("not_applicable", .texts (unknown.map fun item => item.key.text))]

/-! ### Endpoints -/

def exportPreset (service : Service) (user : Int) (form : ExportForm) : Outcome := do
  let (preset, service) ← service.exportSite {
    name := form.name
    comments := form.comments
    author := form.author
    user := some user
    selected := form.settings
    includeSensitive := form.includeSensitive }
  return (created (presetValue service.library preset), service)

def importPreset (service : Service) (user : Int) (text : String) (name : Option String) :
    Outcome := do
  let (preset, service) ← service.importXml text (some user) name
  return (created (presetValue service.library preset), service)

def siteTree (service : Service) : Outcome := do
  return (ok (treeValue service.site.tree (← service.snapshot) []), service)

def rollback (service : Service) (user application : Int) : Outcome := do
  let (report, service) ←
    (service.rollback application (some user) .never none).mapError Failure.cause
  return (ok report.toValue, service)

def purge (service : Service) (application : Int) : Outcome := do
  return (noContent, service.withLibrary (← service.library.purge application))

def showPreset (service : Service) (id : Int) : Outcome := do
  return (ok (presetValue service.library (← service.library.getPreset id)), service)

def nothingToUpdate : Response :=
  refusal ErrorCode.validation.status
    (Error.response .validation "Nothing to update" none)

def updatePreset (service : Service) (id : Int) (name comments : Option String) : Outcome :=
  if name.isNone ∧ comments.isNone then .ok (nothingToUpdate, service)
  else do
    let (preset, library) ← service.library.update id name comments
    return (ok (presetValue library preset), service.withLibrary library)

def deletePreset (service : Service) (id : Int) : Outcome := do
  return (noContent, service.withLibrary (← service.library.delete id))

def writeDocument (document : Document) : Format → Except Error String
  | .xml => document.toXml
  | .yaml => .ok document.toYaml

def download (service : Service) (id : Int) (format : Format) : Outcome := do
  let preset ← service.library.getPreset id
  let text ← writeDocument preset.document format
  return ({
    status := 200
    content := .text format.mediaType text
    disposition := some ("attachment; filename=\"preset-" ++ Numeral.Integer.text preset.id ++ "."
      ++ format.text ++ "\"") }, service)

def presetTree (service : Service) (id : Int) : Outcome := do
  let preset ← service.library.getPreset id
  let live ← service.snapshot
  let items := preset.items.map StoredItem.item
  return (ok (treeValue service.site.tree (Snapshot.ofItems live items)
    (Snapshot.unknown live items)), service)

def apply (service : Service) (id : Int) (request : ApplyRequest) : Outcome := do
  let (report, service) ←
    Service.commit (service.apply id { request with exclusions := service.exclusions } none)
  return (ok report.toValue, service)

def applications (service : Service) (id : Int) : Outcome := do
  let _ ← service.library.getPreset id
  return (ok (.list ((service.library.applicationsOf id).map applicationValue)), service)

def exclusionsValue (service : Service) : Value :=
  .record [("settings", .texts ((service.exclusions.map Key.text).mergeSort fun a b => a ≤ b))]

/-- What is wrong with a request, as a response. It repeats what was found, which must be possible. -/
def faultResponse (faults : List RequestFault) : Response :=
  if faults.all fun fault => Value.Json.canWrite fault.found then
    { status := 422, content := .faults faults }
  else crash

def checked {α : Type} (result : Checked α) : Except Response α :=
  result.mapError faultResponse

/-- The response to a body that cannot be read, which is all that is wrong with the request. -/
def bodyResponse : BodyFault → Response
  | .noJson => faultResponse [{ place := ["body"], code := "json_invalid" }]
  | .numeralTooLong => refusal 400 (.text "There was an error parsing the body")

def bodyValue (request : Request) : Except Response (Option Value) :=
  request.body.mapError bodyResponse

def perform (service : Service) (request : Request) (parameter : String) :
    Endpoint → Except Response (Response × Service)
  | .health => .ok (ok (.record [("status", .text "healthy"), ("version", .text App.version)]), service)
  | .ready => .ok (ok (.record [
      ("status", .text "ready"), ("checks", .record [("database", .flag true)])]), service)
  | .listPresets => .ok (ok (.list (service.library.presets.map fun preset =>
      .record (summaryFields service.library preset))), service)
  | .exportPreset => do
    let body ← bodyValue request
    let (user, form) ← checked (Checked.both (userOf request) (bodyOf exportForm body))
    during "exporting site settings" (exportPreset service user form)
  | .importPreset => do
    let body ← bodyValue request
    let (user, text, name) ← checked (Checked.both (userOf request) (bodyOf importForm body))
    during "importing preset" (importPreset service user text name)
  | .exclusions => .ok (ok (exclusionsValue service), service)
  | .siteTree => plainly (siteTree service)
  | .rollback => do
    let (user, id) ← checked
      (Checked.both (userOf request) (integerAt ["path", "application_id"] parameter))
    during "rolling back application" (rollback service user id)
  | .purge => do
    let id ← checked (integerAt ["path", "application_id"] parameter)
    plainly (purge service id)
  | .preset => do
    let id ← checked (presetId parameter)
    plainly (showPreset service id)
  | .updatePreset => do
    let body ← bodyValue request
    let (id, name, comments) ← checked (Checked.both (presetId parameter) (bodyOf updateForm body))
    plainly (updatePreset service id name comments)
  | .deletePreset => do
    let id ← checked (presetId parameter)
    plainly (deletePreset service id)
  | .download => do
    let (id, format) ← checked (Checked.both (presetId parameter) (formatOf request))
    plainly (download service id format)
  | .presetTree => do
    let id ← checked (presetId parameter)
    plainly (presetTree service id)
  | .preview => do
    let body ← bodyValue request
    let (id, override) ← checked (Checked.both (presetId parameter) (bodyOr false applyForm body))
    during "previewing preset" (apply service id { simulate := true, override })
  | .apply => do
    let body ← bodyValue request
    let (user, id, override) ← checked (Checked.both (userOf request)
      (Checked.both (presetId parameter) (bodyOr false applyForm body)))
    during "applying preset" (apply service id { user := some user, override })
  | .applications => do
    let id ← checked (presetId parameter)
    plainly (applications service id)
where
  presetId (text : String) : Checked Int := integerAt ["path", "preset_id"] text

def misrouted : Route.Target → Response
  | .wrongMethod => refusal 405 (.text "Method Not Allowed")
  | .redirect => { status := 307 }
  | _ => refusal 404 (.text "Not Found")

/-- What a request is answered, apart from the number that it may carry. -/
def answer (service : Service) (request : Request) : Response × Service :=
  match Route.resolve request.method request.path with
  | .endpoint endpoint parameter =>
    match perform service request parameter endpoint with
    | .ok result => result
    | .error response => (response, service)
  | target => (misrouted target, service)

/-- Whether a response is sent without the number of its request: what nobody handled. -/
def isCrash (response : Response) : Bool :=
  match response.content with
  | .text .. => response.status = 500
  | _ => false

/-- One request. A response carries the number of its request. -/
def App.handle (app : App) (request : Request) : Response × App :=
  let (response, service) := answer app.service request
  let correlation := if isCrash response then none
    else (request.header? "x-correlation-id").filter (· ≠ "")
  ({ response with correlation }, { app with service })

end SitePresets.Http
