import SitePresets.Store.Memory
import SitePresets.Store.Rows

/-!
# Configuration stores

The configuration store of a site: values under keys, a log of the writes, the installed plugins, and
which components are visible.
-/

namespace SitePresets

inductive Store where
  | memory (memory : Memory)
  | rows (rows : Rows)
  deriving Repr

namespace Store

def get : Store → Key → Except Refusal (Option String)
  | memory m, key => .ok (m.get key)
  | rows r, key => r.get key

def set (store : Store) (key : Key) (value : Option String) (user : Option Int) :
    Except Refusal (Change × Store) :=
  match store with
  | memory m =>
    let (change, m) := m.set key value
    .ok (change, memory m)
  | rows r => do
    let (change, r) ← r.set key value user
    return (change, rows r)

/-- The stored values. A memory keeps those that were written as missing. -/
def values : Store → Except Refusal (List (Key × Option String))
  | memory m => .ok m.values.rows
  | rows r => r.values.rows.mapM fun (key, row) => do
    return (key, some (← row.stored.decode key.name))

/-- The whole log with the users who made the changes, as far as they are kept. -/
def history : Store → Except Refusal (List (Change × Option Int))
  | memory m => .ok (m.log.map (·, none))
  | rows r => r.log.mapM fun row => do
    return (← Rows.readRow row, row.changedBy)

def change? : Store → Int → Except Refusal (Option Change)
  | memory m, id => .ok (m.change? id)
  | rows r, id => r.change? id

def pluginTable : Store → Table Plugin Int
  | memory m => m.plugins
  | rows r => r.plugins

def withPlugins (store : Store) (plugins : Table Plugin Int) : Store :=
  match store with
  | memory m => memory { m with plugins }
  | rows r => rows { r with plugins }

def visibility : Store → Table String Bool
  | memory m => m.visibility
  | rows r => r.visibility

/-- The state of an installed plugin: enabled if positive. -/
def plugin? (store : Store) (plugin : Plugin) : Option Int :=
  store.pluginTable.get? plugin

/-- Sets the state of an installed plugin, and gives the one before. -/
def setPlugin (store : Store) (plugin : Plugin) (enabled : Int) : Except Refusal (Int × Store) :=
  match store.plugin? plugin with
  | some old =>
    match store with
    | memory _ => .ok (old, store.withPlugins (store.pluginTable.put plugin enabled))
    | rows _ =>
      if fitsColumn enabled then .ok (old, store.withPlugins (store.pluginTable.put plugin enabled))
      else .error .numberTooLarge
  | none => .error (.notInstalled plugin)

def missing (store : Store) (plugins : List (Plugin × Int)) : List (Plugin × Int) :=
  plugins.filter fun row => !store.pluginTable.contains row.1

def addPlugins (store : Store) (plugins : List (Plugin × Int)) : Store :=
  store.withPlugins ⟨store.pluginTable.rows ++ plugins⟩

def uninstall (store : Store) (plugin : Plugin) : Store :=
  store.withPlugins (store.pluginTable.erase plugin)

/-- The installed plugins of a type with their states. The rows come by name. -/
def pluginsOf (store : Store) (type : String) : List (String × Int) :=
  let found := (store.pluginTable.rows.filter fun row => row.1.type = type).map fun row =>
    (row.1.name, row.2)
  match store with
  | memory _ => found
  | rows _ => found.mergeSort fun a b => a.1 ≤ b.1

/-- The component names of the enabled plugins of a type. -/
def handlersOf (store : Store) (type : String) : List String :=
  ((store.pluginsOf type).filter fun plugin => 0 < plugin.2).map fun plugin =>
    (Plugin.mk type plugin.1).text

/-- Whether the settings of a scope are available: unless it names an installed plugin that is
disabled. -/
def scopeAvailable (store : Store) (scope : String) : Bool :=
  if scope = siteScope then true
  else
    let plugin := Plugin.ofScope scope
    if plugin.type = "" then true
    else match store.plugin? plugin with
      | some enabled => 0 < enabled
      | none => true

/-- Components are visible unless they were hidden. -/
def isVisible (store : Store) (component : String) : Bool :=
  (store.visibility.get? component).getD true

def setVisible (store : Store) (component : String) (visible : Bool) : Store :=
  match store with
  | memory m => memory { m with visibility := m.visibility.put component visible }
  | rows r => rows { r with visibility := r.visibility.put component visible }

def truncateLog (store : Store) (keep : Int) : Store :=
  match store with
  | memory m => memory (m.truncateLog keep)
  | rows r => rows (r.truncateLog keep)

theorem isVisible_setVisible (store : Store) (component other : String) (visible : Bool) :
    (store.setVisible component visible).isVisible other =
      if other = component then visible else store.isVisible other := by
  cases store <;> by_cases h : other = component <;>
    simp [isVisible, setVisible, visibility, Table.get?_put, h]

end Store

end SitePresets
