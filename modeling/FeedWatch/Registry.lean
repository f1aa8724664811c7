import FeedWatch.Query.Compile
import FeedWatch.Store

/-!
# The filter registry

The registry holds the settings and the filters compiled from them, in order.  Every change is
written to the settings file at once.  A change that cannot be written stays in memory, and a reload
that fails at a filter keeps the filters of before beside the settings just read.

Each compiled filter has a serial number of its own, by which an alert in flight finds its filters
again when their alert texts have been changed meanwhile.
-/

namespace FeedWatch

/-- A compiled filter. -/
structure Filter where
  name : String
  query : Query
  alert : Json
  serial : Nat

/-- Whether a filter accepts an item. -/
def Filter.accepts (f : Filter) (item : Item) : Bool := f.query.accepts item

/-- The form in which a filter is kept. -/
def Filter.stored (f : Filter) : StoredFilter := { name := f.name, alert := f.alert }

/-- The settings and the compiled filters. -/
structure Registry where
  settings : Settings
  filters : List Filter

/-- A registry at work: the store and the index it was opened with, the disk, and the serial number
of the next filter. -/
structure Session where
  store : Store
  index : ReferenceIndex
  disk : Disk
  registry : Registry
  nextSerial : Nat

/-- Why an operation on a registry fails. -/
inductive RegistryError
  | load (e : LoadError)
  | save (e : Disk.ReplaceError)
  | tooLong (e : TooManyDigits)
  | duplicate (name : String)
  | notFound (name : String)
  | noWebhook
  | notUrl (url : String)

/-- The wording of an error. -/
def RegistryError.message : RegistryError → String
  | load e => e.message
  | save (.disk e) => e.message
  | save (.stopped _) => "Writing was stopped"
  | tooLong e => e.message
  | duplicate name => "Filter already exists: " ++ name
  | notFound name => "No such filter: " ++ name
  | noWebhook => "Set a webhook before enabling alerts"
  | notUrl url => Webhook.notUrl url

/-- Compiles a filter. -/
def Filter.compile (index : ReferenceIndex) (serial : Nat) (f : StoredFilter) :
    Except TooManyDigits Filter := do
  return { name := f.name, query := ← Query.compile index f.name, alert := f.alert, serial }

/-- Compiles filters in order, with serial numbers from `serial` on. -/
def Filter.compileAll (index : ReferenceIndex) (serial : Nat) :
    List StoredFilter → Except TooManyDigits (List Filter)
  | [] => .ok []
  | f :: rest => do
    return (← compile index serial f) :: (← compileAll index (serial + 1) rest)

namespace Registry

/-- The registry of some settings. -/
def ofSettings (index : ReferenceIndex) (serial : Nat) (settings : Settings) :
    Except TooManyDigits Registry := do
  return { settings, filters := ← Filter.compileAll index serial settings.filters }

/-- Whether there is a filter with a name. -/
def contains (r : Registry) (name : String) : Bool := r.filters.any (·.name == name)

/-- The first filter with a name. -/
def get? (r : Registry) (name : String) : Option Filter := r.filters.find? (·.name == name)

/-- The filters that accept an item, in order. -/
def accepting (r : Registry) (item : Item) : List Filter := r.filters.filter (·.accepts item)

/-- The settings with the filters as they are now. -/
def current (r : Registry) : Settings := { r.settings with filters := r.filters.map Filter.stored }

end Registry

/-- A page of the list of filters. -/
structure FilterPage where
  page : Int
  totalPages : Nat
  filters : List Filter

/-- The number of filters on a full page. -/
def pageSize : Nat := 10

/-- A page of the filters, counted from one; a page below one is the first. -/
def Registry.page (r : Registry) (page : Int) : FilterPage :=
  let page := max page 1
  { page
    totalPages := (r.filters.length + pageSize - 1) / pageSize
    filters := (r.filters.drop ((page.toNat - 1) * pageSize)).take pageSize }

/-- The page as members of a report. -/
def FilterPage.toMembers (p : FilterPage) : List (String × Json) := [
  ("page", .int p.page), ("total_pages", .nat p.totalPages),
  ("filters", .arr (p.filters.map fun f => f.stored.toJson))]

namespace Session

/-- What an operation leaves, and its result. -/
abbrev Outcome (α : Type) := Session × Except RegistryError α

/-- Writes the settings and the filters as they are now. -/
def save (s : Session) : Outcome Unit :=
  let settings := s.registry.current
  let (disk, result) := s.store.save settings s.disk
  ({ s with disk, registry := { s.registry with settings } }, result.mapError .save)

/-- Writes, and then gives a result. -/
def saveAnd {α : Type} (s : Session) (a : α) : Outcome α :=
  let (s, result) := s.save
  (s, result.map fun _ => a)

/-- Opens a registry on a store: the settings are read, compiled, and written back in the current
form. -/
def openOn (store : Store) (index : ReferenceIndex) (disk : Disk) (serial : Nat) :
    Disk × Except RegistryError Session :=
  match store.load disk with
  | .error e => (disk, .error (.load e))
  | .ok settings =>
    match Registry.ofSettings index serial settings with
    | .error e => (disk, .error (.tooLong e))
    | .ok registry =>
      let (s, result) := save
        { store, index, disk, registry, nextSerial := serial + registry.filters.length }
      (s.disk, result.map fun _ => s)

/-- Opens the registry again in the place of the one at work. -/
def load (s : Session) : Outcome Unit :=
  match openOn s.store s.index s.disk s.nextSerial with
  | (disk, .error e) => ({ s with disk }, .error e)
  | (_, .ok s) => (s, .ok ())

/-- Reads the settings again.  They are taken over before their filters are compiled. -/
def reload (s : Session) : Outcome Unit :=
  match s.store.load s.disk with
  | .error e => (s, .error (.load e))
  | .ok settings =>
    match Filter.compileAll s.index s.nextSerial settings.filters with
    | .error e => ({ s with registry := { s.registry with settings } }, .error (.tooLong e))
    | .ok filters =>
      ({ s with registry := { settings, filters }, nextSerial := s.nextSerial + filters.length },
        .ok ())

/-- Changes the settings and writes them. -/
def change (f : Settings → Settings) (s : Session) : Outcome Unit :=
  save { s with registry := { s.registry with settings := f s.registry.settings } }

/-- Adds a filter at the end. -/
def add (name : String) (s : Session) : Outcome Filter :=
  if s.registry.contains name then (s, .error (.duplicate name))
  else
    match Filter.compile s.index s.nextSerial { name, alert := .null } with
    | .error e => (s, .error (.tooLong e))
    | .ok filter =>
      saveAnd { s with
        registry := { s.registry with filters := s.registry.filters ++ [filter] }
        nextSerial := s.nextSerial + 1 } filter

/-- Removes all filters with a name; the result is their number. -/
def remove (name : String) (s : Session) : Outcome Nat :=
  let kept := s.registry.filters.filter (·.name != name)
  saveAnd { s with registry := { s.registry with filters := kept } }
    (s.registry.filters.length - kept.length)

/-- Finds the first filter with a name. -/
def get (name : String) (s : Session) : Except RegistryError Filter :=
  match s.registry.get? name with
  | some filter => .ok filter
  | none => .error (.notFound name)

/-- Changes the alert of the first filter with a name. -/
def alertFirst (name : String) (alert : Json) : List Filter → List Filter
  | [] => []
  | f :: rest => if f.name = name then { f with alert } :: rest else f :: alertFirst name alert rest

/-- Sets the alert of the first filter with a name; an empty text clears it. -/
def setAlert (name : String) (text : Option String) (s : Session) : Outcome Filter :=
  match s.registry.get? name with
  | none => (s, .error (.notFound name))
  | some filter =>
    let alert : Json := match text with
      | some text => if text.isEmpty then .null else .str text
      | none => .null
    saveAnd { s with
      registry := { s.registry with filters := alertFirst name alert s.registry.filters } }
      { filter with alert }

/-- Sets the text of every alert. -/
def setGlobalAlert (text : String) (s : Session) : Outcome Unit :=
  s.change fun settings => { settings with alert := text }

/-- Sets the webhook. -/
def setWebhook (w : Webhook) (s : Session) : Outcome Unit :=
  s.change fun settings => { settings with webhook := some w }

/-- Sets the webhook by its address. -/
def setWebhookUrl (url : String) (location : Json) (s : Session) : Outcome Unit :=
  match Webhook.ofUrl? url location with
  | none => (s, .error (.notUrl url))
  | some w => s.setWebhook w

/-- Switches alerts on, which takes a webhook. -/
def enable (s : Session) : Outcome Unit :=
  if s.registry.settings.webhook.isNone then (s, .error .noWebhook)
  else s.change fun settings => { settings with enabled := true }

/-- Switches alerts off. -/
def disable (s : Session) : Outcome Unit :=
  s.change fun settings => { settings with enabled := false }

end Session

end FeedWatch
