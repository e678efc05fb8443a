import Micboard.ChassisModel
import Micboard.LibraryCache
import Micboard.LibraryFraming
import Micboard.RealtimeRouting

/-! The registry of database-backed settings. A value is resolved at the one scope that its
definition declares and cached for five minutes under a key that holds the generations of the cache,
the default mode and the scopes. A write invalidates by a new generation; definitions are cached in
each process under generations of their own. A generation that is missing from the cache is added as
"0" on its first read, and generations never expire. -/

namespace Micboard

open Library Library.Text

/-- A Python value: `None`, or anything else with its truth value and its `str(…)` where it is not
plain. -/
inductive SettingValue where
  | none
  | bool (value : Bool)
  | int (value : Int)
  | text (value : String)
  | other (truthy : Bool) (rendering : String)
  deriving DecidableEq, Repr

namespace SettingValue

def isTruthy : SettingValue → Bool
  | none => false
  | bool value => value
  | int value => value ≠ 0
  | text value => value ≠ ""
  | other truthy _ => truthy

/-- `str(value)`. -/
def str : SettingValue → String
  | none => "None"
  | bool value => if value then "True" else "False"
  | int value => if value < 0 then "-" ++ String.ofList (decimal value.natAbs)
      else String.ofList (decimal value.natAbs)
  | text value => value
  | other _ rendering => rendering

end SettingValue

/-- The `json` module: `loads` may raise, and so may `dumps`. -/
structure JsonCodec where
  loads : String → Option SettingValue
  dumps : SettingValue → Option String

inductive SettingsError where
  | valueError
  | settingNotFound (key : String)
  deriving DecidableEq, Repr

inductive SettingScope where
  | global | organization | site | manufacturer
  | unsupported (name : String)
  deriving DecidableEq, Repr

inductive SettingType where
  | string | integer | boolean | json | choices
  | unsupported (name : String)
  deriving DecidableEq, Repr

/-- A definition, with the keys of its choices if they are a mapping. -/
structure SettingDefinition where
  key : String
  scope : SettingScope := .global
  settingType : SettingType := .string
  defaultValue : String := ""
  choices : Option (List String) := none
  isActive : Bool := true
  deriving DecidableEq, Repr

/-- A stored override of the definition with the given key. -/
structure Setting where
  definition : String
  organizationId : Option Nat := none
  siteId : Option Nat := none
  manufacturerId : Option Nat := none
  value : String
  deriving DecidableEq, Repr

structure SettingsDatabase where
  definitions : List SettingDefinition := []
  settings : List Setting := []
  deriving DecidableEq, Repr

namespace SettingDefinition

variable (definition : SettingDefinition) (json : JsonCodec)

/-- Parse raw string value according to setting type. -/
def parseValue (raw : String) : Except SettingsError SettingValue :=
  match definition.settingType with
  | .string | .unsupported _ => .ok (.text raw)
  | .integer => (parseInt raw).elim (.error .valueError) fun value => .ok (.int value)
  | .boolean =>
    let normalized := raw.toLower
    if ["true", "1", "yes", "on"].contains normalized then .ok (.bool true)
    else if ["false", "0", "no", "off"].contains normalized then .ok (.bool false)
    else .error .valueError
  | .json => (json.loads raw).elim (.error .valueError) .ok
  | .choices =>
    if (definition.choices.getD []).contains raw then .ok (.text raw) else .error .valueError

def serializeValue (value : SettingValue) : Option String :=
  match definition.settingType with
  | .json => json.dumps value
  | .boolean => some (if value.isTruthy then "true" else "false")
  | .string | .integer | .choices | .unsupported _ => some value.str

end SettingDefinition

namespace SettingsDatabase

variable (db : SettingsDatabase)

/-- `SettingDefinition.objects.get(key=key)`. -/
def definition (key : String) : Option SettingDefinition :=
  db.definitions.find? fun definition => definition.key = key

/-- `Setting.objects.get(…)` by definition and scope. -/
def setting (key : String) (organizationId siteId manufacturerId : Option Nat) : Option Setting :=
  db.settings.find? fun setting =>
    setting.definition = key && setting.organizationId = organizationId &&
    setting.siteId = siteId && setting.manufacturerId = manufacturerId

end SettingsDatabase

/-- The arguments of a `get`; scopes are given by their primary keys, and no default is `None`. -/
structure SettingsCall where
  key : String
  default : SettingValue := .none
  organization : Option Nat := none
  site : Option Nat := none
  manufacturer : Option Nat := none
  required : Bool := false
  includeDefinitionDefault : Bool := true
  process : Nat := 0
  deriving DecidableEq, Repr

/-- The database, the clock, the shared cache of values and generations, and the definitions that
each process has cached with their generation. -/
structure SettingsSystem where
  database : SettingsDatabase := {}
  now : Time := 0
  values : Cache String SettingValue := fun _ => none
  versions : String → String := fun _ => "0"
  localDefinitions : Nat → String → Option (String × SettingDefinition) := fun _ _ => none

namespace SettingsRegistry

/-- Five minutes. -/
def cacheTtl : Time := 300 * 1000000

def globalVersionCacheKey : String := "settings-version:all"

def globalDefinitionVersionCacheKey : String := "settings-definition-version:all"

def versionCacheKey (key : String) : String := "settings-version:" ++ key

def definitionVersionCacheKey (key : String) : String := "settings-definition-version:" ++ key

def scopeText : Option Nat → String
  | some pk => String.ofList (decimal pk)
  | none => "g"

/-- The cache key of a call under given generations. -/
def cacheKeyText (globalVersion version : String) (call : SettingsCall) : String :=
  "settings:" ++ globalVersion ++ ":" ++ call.key ++ ":" ++ version ++ ":" ++
    (if call.includeDefinitionDefault then "definition" else "stored") ++ ":" ++
    scopeText call.organization ++ ":" ++ scopeText call.site ++ ":" ++ scopeText call.manufacturer

variable (json : JsonCodec) (s : SettingsSystem)

/-- Build cache key from setting and scopes. -/
def buildCacheKey (call : SettingsCall) : String :=
  cacheKeyText (s.versions globalVersionCacheKey) (s.versions (versionCacheKey call.key)) call

/-- Return shared global and per-definition metadata generations. -/
def definitionVersion (key : String) : String :=
  s.versions globalDefinitionVersionCacheKey ++ ":" ++ s.versions (definitionVersionCacheKey key)

/-- Write an entry of a process's definitions. -/
def setLocal (process : Nat) (key : String) (entry : Option (String × SettingDefinition)) :
    SettingsSystem :=
  let definitions := Function.update (s.localDefinitions process) key entry
  { s with localDefinitions := Function.update s.localDefinitions process definitions }

def clearLocal (process : Nat) : SettingsSystem :=
  { s with localDefinitions := Function.update s.localDefinitions process fun _ => none }

def loadDefinition (process : Nat) (key : String) : SettingsSystem × Option SettingDefinition :=
  match s.database.definition key with
  | some definition =>
    (setLocal s process key (some (definitionVersion s key, definition)), some definition)
  | none => (s, none)

def getDefinition (process : Nat) (key : String) : SettingsSystem × Option SettingDefinition :=
  match s.localDefinitions process key with
  | some (version, definition) =>
    if version = definitionVersion s key then (s, some definition) else loadDefinition s process key
  | none => loadDefinition s process key

/-- The scope columns that a definition looks at, if the call names its scope. -/
def scopeFilter (definition : SettingDefinition) (call : SettingsCall) :
    Option (Option Nat × Option Nat × Option Nat) :=
  match definition.scope with
  | .global => some (none, none, none)
  | .organization => call.organization.map fun pk => (some pk, none, none)
  | .site => call.site.map fun pk => (none, some pk, none)
  | .manufacturer => call.manufacturer.map fun pk => (none, none, some pk)
  | .unsupported _ => none

/-- The value at the declared scope. A stored row parses its value with its own definition. -/
def storedValue (db : SettingsDatabase) (definition : SettingDefinition) (call : SettingsCall) :
    Except SettingsError SettingValue :=
  match scopeFilter definition call with
  | none => .ok .none
  | some (organizationId, siteId, manufacturerId) =>
    match db.setting definition.key organizationId siteId manufacturerId with
    | none => .ok .none
    | some setting => ((db.definition setting.definition).getD definition).parseValue json setting.value

/-- Resolve only the value matching the definition's declared scope. -/
def resolveScopedValue (call : SettingsCall) : SettingsSystem × Except SettingsError SettingValue :=
  let (s, definition) := getDefinition s call.process call.key
  match definition with
  | none => (s, .ok .none)
  | some definition => (s, storedValue json s.database definition call)

def definitionDefault (definition : Option SettingDefinition) :
    Option (Except SettingsError SettingValue) :=
  match definition with
  | none => none
  | some definition =>
    if definition.defaultValue = "" then none else some
      (definition.parseValue json definition.defaultValue)

/-- Return the typed definition default without consulting stored values. -/
def getDefinitionDefault (call : SettingsCall) :
    SettingsSystem × Option (Except SettingsError SettingValue) :=
  let (s, definition) := getDefinition s call.process call.key
  (s, definitionDefault json definition)

def store (cacheKey : String) (value : SettingValue) : SettingsSystem :=
  { s with values := Cache.set s.values s.now cacheKey value cacheTtl }

/-- The provided default comes last. -/
def useDefault (cacheKey : String) (call : SettingsCall) :
    SettingsSystem × Except SettingsError SettingValue :=
  if call.default ≠ .none then (store s cacheKey call.default, .ok call.default)
  else if call.required then (s, .error (.settingNotFound call.key))
  else (s, .ok .none)

/-- What a `get` does that finds nothing in the cache. -/
def fetch (cacheKey : String)
    (call : SettingsCall) : SettingsSystem × Except SettingsError SettingValue :=
  let (s, value) := resolveScopedValue json s call
  match value with
  | .error error => (s, .error error)
  | .ok value =>
    if value ≠ .none then (store s cacheKey value, .ok value)
    else if call.includeDefinitionDefault then
      let (s, parsed) := getDefinitionDefault json s call
      match parsed with
      | some (.error error) => (s, .error error)
      | some (.ok parsed) => (store s cacheKey parsed, .ok parsed)
      | none => useDefault s cacheKey call
    else useDefault s cacheKey call

/-- Get a setting value at its definition's declared scope. A cached `None` counts as missing. -/
def get (call : SettingsCall) : SettingsSystem × Except SettingsError SettingValue :=
  let cacheKey := buildCacheKey s call
  match Cache.get s.values s.now cacheKey with
  | some value => if value ≠ .none then (s, .ok value) else fetch json s cacheKey call
  | none => fetch json s cacheKey call

/-- The resolution of a call without any cache. -/
def uncached (call : SettingsCall) : Except SettingsError SettingValue :=
  (get json { s with values := fun _ => none, localDefinitions := fun _ _ => none } call).2

def setVersion (name token : String) : SettingsSystem :=
  { s with versions := Function.update s.versions name token }

/-- Invalidate one value, or all; an empty key means all. -/
def invalidateCache (process : Nat) (key : Option String) (token : String) : SettingsSystem :=
  match key.filter (· ≠ "") with
  | some key => setVersion s (versionCacheKey key) token
  | none => clearLocal (setVersion s globalVersionCacheKey token) process

/-- Invalidate cached definition metadata and all values derived from it. -/
def invalidateDefinition (process : Nat) (key : Option String) (definitionToken token : String) :
    SettingsSystem :=
  match key with
  | none =>
    invalidateCache (clearLocal (setVersion s globalDefinitionVersionCacheKey definitionToken) process)
      process none token
  | some key =>
    invalidateCache
      (setVersion (setLocal s process key none) (definitionVersionCacheKey key) definitionToken)
      process (some key) token

end SettingsRegistry

/-- One exact scope. -/
inductive SettingWriteTarget where
  | global
  | organization (pk : Nat)
  | site (pk : Nat)
  | manufacturer (pk : Nat)
  deriving DecidableEq, Repr

namespace SettingWriteTarget

def scope : SettingWriteTarget → SettingScope
  | global => .global
  | organization _ => .organization
  | site _ => .site
  | manufacturer _ => .manufacturer

def row (key value : String) : SettingWriteTarget → Setting
  | global => { definition := key, value := value }
  | organization pk => { definition := key, organizationId := some pk, value := value }
  | site pk => { definition := key, siteId := some pk, value := value }
  | manufacturer pk => { definition := key, manufacturerId := some pk, value := value }

end SettingWriteTarget

/-- One item of a batch; a batch is the sequence of its items. -/
structure SettingsWrite where
  authorized : Bool := true
  target : SettingWriteTarget
  key : String
  value : SettingValue
  process : Nat := 0
  deriving DecidableEq, Repr

namespace SettingsPersistenceService

/-- `update_or_create` by definition and scope. -/
def updateOrCreate (settings : List Setting) (row : Setting) : List Setting :=
  let same (setting : Setting) : Bool := setting.definition = row.definition &&
    setting.organizationId = row.organizationId && setting.siteId = row.siteId &&
    setting.manufacturerId = row.manufacturerId
  if settings.any same then
    settings.map fun setting => if same setting then { setting with value := row.value } else setting
  else settings ++ [row]

/-- The active definition of a write at its target's scope. -/
def definitionFor (db : SettingsDatabase) (write : SettingsWrite) : Option SettingDefinition :=
  db.definitions.find? fun definition =>
    definition.key = write.key && definition.isActive && definition.scope = write.target.scope

/-- Persist one item and invalidate its key. -/
def save (json : JsonCodec) (s : SettingsSystem) (write : SettingsWrite)
    (token : String) : SettingsSystem :=
  if !write.authorized then s
  else
    match definitionFor s.database write with
    | none => s
    | some definition =>
      match definition.serializeValue json write.value with
      | none => s
      | some value =>
        SettingsRegistry.invalidateCache
          { s with database := { s.database with
              settings := updateOrCreate s.database.settings (write.target.row definition.key value) } }
          write.process (some definition.key) token

end SettingsPersistenceService

/-- An administrator's edit of a definition under its key. -/
def saveDefinition (s : SettingsSystem) (process : Nat) (definition : SettingDefinition)
    (definitionToken token : String) : SettingsSystem :=
  let definitions := s.database.definitions
  SettingsRegistry.invalidateDefinition
    { s with database := { s.database with
        definitions :=
          if definitions.any (fun other => other.key = definition.key) then
            definitions.map fun other => if other.key = definition.key then definition else other
          else definitions ++ [definition] } }
    process (some definition.key) definitionToken token

/-- Each write is committed and then invalidated, with the generations that it draws. -/
inductive SettingsEvent where
  | tick (microseconds : Nat)
  | get (call : SettingsCall)
  | save (write : SettingsWrite) (token : String)
  | saveDefinition (process : Nat) (definition : SettingDefinition) (definitionToken token : String)
  | invalidateCache (process : Nat) (key : Option String) (token : String)
  | invalidateDefinition (process : Nat) (key : Option String) (definitionToken token : String)
  deriving DecidableEq, Repr

/-- The generations that an event draws. -/
def SettingsEvent.tokens : SettingsEvent → List String
  | .tick _ | .get _ => []
  | .save _ token | .invalidateCache _ _ token => [token]
  | .saveDefinition _ _ definitionToken token | .invalidateDefinition _ _ definitionToken token =>
    [definitionToken, token]

def SettingsSystem.step (json : JsonCodec) (s : SettingsSystem) : SettingsEvent → SettingsSystem
  | .tick microseconds => { s with now := s.now + microseconds }
  | .get call => (SettingsRegistry.get json s call).1
  | .save write token => SettingsPersistenceService.save json s write token
  | .saveDefinition process definition definitionToken token =>
    saveDefinition s process definition definitionToken token
  | .invalidateCache process key token => SettingsRegistry.invalidateCache s process key token
  | .invalidateDefinition process key definitionToken token =>
    SettingsRegistry.invalidateDefinition s process key definitionToken token

/-- The system before each event of a run, from empty caches on. -/
def settingsAt (json : JsonCodec) (database : SettingsDatabase) (events : Nat → SettingsEvent) :
    Nat → SettingsSystem
  | 0 => { database := database }
  | i + 1 => (settingsAt json database events i).step json (events i)

/-- Random generations: hexadecimal digits, and no two drawn alike in a run. -/
def FreshTokens (events : Nat → SettingsEvent) : Prop :=
  ∀ i, ∀ token ∈ (events i).tokens, (∀ c ∈ token.toList, isHexDigit c = true) ∧ token.length = 16 ∧
    ∀ j < i, token ∉ (events j).tokens

end Micboard
