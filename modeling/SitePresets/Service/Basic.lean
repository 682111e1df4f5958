import SitePresets.Apply
import SitePresets.Exclusion
import SitePresets.Rollback

/-!
# The service

The service over a site: the site itself, its library of presets, the lock on its configuration, and
the clock.
-/

namespace SitePresets

/-- What a site says about itself in the presets that it exports. -/
structure Identity where
  url : String := "http://localhost"
  release : String := "4.0"
  deriving DecidableEq, Repr

structure Service where
  site : Site
  library : Library := {}
  /-- Whether somebody else holds the lock on the configuration. -/
  locked : Bool := false
  clock : Int := 0
  exclusions : List Key := []
  identity : Identity := {}
  /-- How long an operation waits for the lock that says nothing about it. -/
  patience : Int := 0

namespace Service

/-- The target that stands for the configuration of the site. -/
def configLock : String := "site-config"

/-- An operation on the configuration fails while somebody else holds the lock. -/
def checkLock (service : Service) (timeout : Option Int) : Except Error Unit :=
  if service.locked then .error (.lockTimeout configLock (timeout.getD service.patience))
  else .ok ()

def ofStore {α : Type} (result : Except Refusal α) : Except Error α :=
  result.mapError .refused

def snapshot (service : Service) : Except Error Snapshot :=
  ofStore (Snapshot.ofSite service.site)

def withStore (service : Service) (store : Store) : Service :=
  { service with site := { service.site with store } }

def withLibrary (service : Service) (library : Library) : Service :=
  { service with library }

/-- Takes over what a run has written, and records it as an application if it is anything. If it cannot
be recorded, it stays written. -/
def record (service : Service) (preset : Preset) (user : Option Int) (report : ApplyReport)
    (progress : Progress) : Except Error ApplyReport × Service :=
  let service := { service with site := progress.site }
  if progress.rows.isEmpty then (.ok report, service)
  else match service.library.recordApplication service.clock preset user progress.rows with
    | .ok (application, library) =>
      (.ok { report with applicationId := some application.id }, service.withLibrary library)
    | .error error => (.error error, service)

/-- Applies a preset. A preview changes nothing. -/
def apply (service : Service) (presetId : Int) (request : ApplyRequest) (timeout : Option Int) :
    Except Error ApplyReport × Service :=
  let applied := do
    let preset ← service.library.getPreset presetId
    service.checkLock timeout
    return (preset,
      ← ofStore (Apply.run request service.site preset (Library.canRecord service.clock request.user)))
  match applied with
  | .ok (preset, report, progress) => service.record preset request.user report progress
  | .error error => (.error error, service)

/-- An operation as a transaction: nothing is left of one that fails. -/
def commit {α : Type} : Except Error α × Service → Except Error (α × Service)
  | (.ok answer, service) => .ok (answer, service)
  | (.error error, _) => .error error

/-- An operation without a transaction: if it fails, it leaves what it has done so far. -/
def disclose {α : Type} : Except Error α × Service → Except (Failure Error Service) (α × Service)
  | (.ok answer, service) => .ok (answer, service)
  | (.error cause, left) => .error { cause, left }

/-- Rolls an application back. If that fails, the rows restored before stay restored. -/
def rollback (service : Service) (applicationId : Int) (user : Option Int)
    (cancellation : Cancellation) (timeout : Option Int) :
    Except (Failure Error Service) (RollbackReport × Service) := do
  let application ← leaving service (service.library.getApplication applicationId)
  leaving service (service.checkLock timeout)
  let state ← (Rollback.run user cancellation service.site application).mapError fun failure =>
    { cause := .refused failure.cause, left := { service with site := failure.left } }
  let library :=
    if state.report.applicationDeleted then service.library.removeApplication application.id
    else service.library.replaceApplication { application with rows := state.kept }
  return (state.report, { service with site := state.site, library })

end Service

end SitePresets
