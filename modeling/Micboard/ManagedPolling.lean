import Micboard.ApiServers
import Micboard.PollingSnapshot

/-! The poll of one managed chassis through a server that is configured by hand. The manufacturer
and the location of a server, which it names, are the boundary of what it owns; a name that is not
that of exactly one active location owns nothing. Whatever an owning server answers, the poll writes
at most the chassis that it was asked for. Channels that the answer does not embed are read through
the client of the deployment, not through the server. -/

namespace Micboard

open Library Library.Text Library.Ranking APIServerConnectionService

/-- The columns of a location that an ownership reads. -/
structure NamedLocation where
  pk : Nat
  name : String
  isActive : Bool := true
  deriving DecidableEq, Repr

/-- Why a poll has no count. `service` hides what went wrong. -/
inductive ManagedPollError where
  | permissionDenied
  | raised (error : ServerError)
  | service
  deriving DecidableEq, Repr

/-- What a poll meets: the network, the client of the deployment (its address and key, or nothing if
it cannot be built), the locations, where the chassis are, and whether channels can be read and
updated. -/
structure PollConditions where
  network : VendorNetwork
  deploymentClient : Option (String × String)
  now : Time
  locations : List NamedLocation
  locationOf : Nat → Option Nat
  channelsUpdated : Bool := true

/-- The tables after a poll, and its contacts. -/
structure ManagedPollState where
  inventory : Inventory
  servers : List ManufacturerAPIServer
  contacts : List (String × String) := []

namespace APIServerPollingService

variable (conditions : PollConditions)

/-- The active locations that a server names, but no more than two. -/
def matchingLocationIds (server : ManufacturerAPIServer) : List Nat :=
  ((orderBy NamedLocation.pk (conditions.locations.filter fun location =>
    location.name = strip server.locationName && location.isActive)).map NamedLocation.pk).take 2

/-- Fail closed unless the server's legacy location name is globally unambiguous. -/
def serverOwnsChassis (server : ManufacturerAPIServer) (chassis : Chassis) : Bool :=
  if !server.enabled || server.manufacturer ≠ chassis.manufacturer.code ||
    strip server.locationName = "" then false
  else match conditions.locationOf chassis.pk with
    | none => false
    | some locationId => matchingLocationIds conditions server = [locationId]

/-- The identifier that a raw device is compared by. -/
def rawDeviceId (device : JsonObject) : String :=
  strip ((device.get "id").orElse ((device.get "api_device_id").orElse (.text ""))).str

/-- A raw device comes with channels. -/
def embedsChannels (device : JsonObject) : Bool :=
  (transformDeviceData shureCatalog device).any fun transformed => !transformed.channels.isEmpty

/-- A raw device as the Shure plugin transforms it. -/
def polledDevice (device : JsonObject) : PolledDevice where
  transformed := ((transformDeviceData shureCatalog device).map TransformedDevice.fields).getD []
  channelsUpdated :=
    (embedsChannels device || conditions.deploymentClient.isSome) && conditions.channelsUpdated

/-- The contacts of the update of a device. The plugin has no other client than that of the
deployment, and asks it for the channels of a chassis that is stored and came without them. -/
def channelContacts (db : Inventory) (manufacturer : Manufacturer)
    (device : JsonObject) : List (String × String) :=
  let run := pollDevice conditions.now manufacturer (.start db) (polledDevice conditions device)
  if embedsChannels device || run.activeChassisIds = [] then [] else conditions.deploymentClient.toList

def handled : ServerError → ManagedPollError
  | .validation => .raised .validation
  | .micboard typeName => .raised (.micboard typeName)
  | .other _ => .service

/-- What the poll of one chassis does: the tables of the hardware, the row of the server that it
saved, its contacts, and its count. -/
structure ManagedPoll where
  inventory : Inventory
  saved : Option ManufacturerAPIServer
  contacts : List (String × String)
  result : Except ManagedPollError Nat

/-- Poll one explicitly managed chassis through its persisted API server. -/
def pollManagedDevice (server : ManufacturerAPIServer) (chassis : Chassis)
    (db : Inventory) : ManagedPoll :=
  let targetDeviceId := strip chassis.apiDeviceId
  if !serverOwnsChassis conditions server chassis || targetDeviceId = "" then
    ⟨db, none, [], .error .permissionDenied⟩
  else if server.manufacturer ≠ "shure" then ⟨db, none, [], .ok 0⟩
  else
    match fetchServerDevices conditions.network server with
    | (contacts, .error error) =>
      ⟨db, some { server with
          status := .error, statusMessage := "Polling failed (" ++ error.typeName ++ ")" },
        contacts, .error (handled error)⟩
    | (contacts, .ok devices) =>
      let targetDevices :=
        ((devices.getD []).filter fun device => rawDeviceId device = targetDeviceId).take 1
      let (inventory, updated) := updateModelsFromApiData conditions.now db
        (targetDevices.map (polledDevice conditions)) chassis.manufacturer false
      ⟨inventory, some { server with
          status := .active, statusMessage := "", lastHealthCheck := some conditions.now },
        contacts ++ targetDevices.flatMap
          (channelContacts conditions db chassis.manufacturer), .ok updated⟩

/-- Poll one API-server-owned chassis through the service layer; what fails is logged. -/
def pollApiServerDevice (apiServerId chassisId : Nat)
    (state : ManagedPollState) : ManagedPollState × Option Nat :=
  match state.servers.find? fun server => server.pk = apiServerId, state.inventory.find chassisId with
  | some server, some chassis =>
    let poll := pollManagedDevice conditions server chassis state.inventory
    ({ inventory := poll.inventory
       servers := match poll.saved with
         | none => state.servers
         | some row => replaceRow ManufacturerAPIServer.pk row state.servers
       contacts := state.contacts ++ poll.contacts }, poll.result.toOption)
  | none, _ | some _, none => (state, none)

/-! ### The boundary -/

structure Owns (server : ManufacturerAPIServer) (chassis : Chassis) : Prop where
  enabled : server.enabled = true
  manufacturer : server.manufacturer = chassis.manufacturer.code
  named : strip server.locationName ≠ ""
  location : ∃ location, conditions.locationOf chassis.pk = some location.pk ∧
    (conditions.locations.filter fun location =>
      location.name = strip server.locationName && location.isActive) =
      [location]

structure Asked (state : ManagedPollState) (apiServerId chassisId : Nat)
    (server : ManufacturerAPIServer)
    (chassis : Chassis) : Prop where
  server_mem : server ∈ state.servers
  server_pk : server.pk = apiServerId
  chassis_mem : chassis ∈ state.inventory.chassis
  chassis_pk : chassis.pk = chassisId
  identified : strip chassis.apiDeviceId ≠ ""
  owns : Owns conditions server chassis

inductive PollContact (server : ManufacturerAPIServer) (chassis : Chassis)
    (contact : String × String) : Prop where
  | own (h : OwnContact conditions.network server contact)
  | deployment (devices : List JsonObject) (device : JsonObject)
      (client : conditions.deploymentClient = some contact)
      (answer : (fetchServerDevices conditions.network server).2 = .ok (some devices))
      (mem : device ∈ devices)
      (named : rawDeviceId device = strip chassis.apiDeviceId)
      (bare : embedsChannels device = false)

section Poll

variable {conditions} {now : Time} {manufacturer : Manufacturer} {db : Inventory}
  {server : ManufacturerAPIServer}
  {chassis : Chassis} {state : ManagedPollState} {apiServerId chassisId : Nat}

theorem serverOwnsChassis_iff : serverOwnsChassis conditions server chassis = true ↔
    Owns conditions server chassis := by
  have hunambiguous : ∀ locationId, matchingLocationIds conditions server = [locationId] ↔
      ∃ location : NamedLocation, location.pk = locationId ∧
        (conditions.locations.filter fun location =>
        location.name = strip server.locationName && location.isActive) = [location] := by
    intro locationId
    unfold matchingLocationIds
    have hperm := orderBy_perm NamedLocation.pk (conditions.locations.filter fun location =>
      location.name = strip server.locationName && location.isActive)
    constructor
    · intro h
      have hlength := congrArg List.length h
      simp only [List.length_take, List.length_map, List.length_cons, List.length_nil] at hlength
      obtain ⟨location, hordered⟩ := List.length_eq_one_iff.mp (by omega : (orderBy NamedLocation.pk
        (conditions.locations.filter fun location =>
          location.name = strip server.locationName && location.isActive)).length = 1)
      rw [hordered] at h hperm
      exact ⟨location, by simpa using h, List.perm_singleton.mp hperm.symm⟩
    · rintro ⟨location, rfl, hfilter⟩
      rw [hfilter] at hperm ⊢
      rw [List.perm_singleton.mp hperm]
      rfl
  unfold serverOwnsChassis
  constructor
  · intro h
    split at h
    next => cases h
    next hguard =>
      cases hlocation : conditions.locationOf chassis.pk with
      | none => simp [hlocation] at h
      | some locationId =>
        rw [hlocation] at h
        obtain ⟨location, rfl, hfilter⟩ := (hunambiguous locationId).mp (of_decide_eq_true h)
        simp only [Bool.or_eq_true, decide_eq_true_eq, not_or, Bool.not_eq_true'] at hguard
        exact ⟨by simpa using hguard.1.1, not_not.mp hguard.1.2, hguard.2, location, hlocation, hfilter⟩
  · rintro ⟨henabled, hmanufacturer, hnamed, location, hlocation, hfilter⟩
    rw [if_neg (by simp [henabled, hmanufacturer, hnamed]), hlocation]
    exact decide_eq_true ((hunambiguous location.pk).mpr ⟨location, rfl, hfilter⟩)

theorem polledApiDeviceId_cons {value : PyValue} {rest : VendorPayload} (h : value.isTruthy = true) :
    polledApiDeviceId (("api_device_id", value) :: rest) = strip value.str := by
  have hget : VendorPayload.get (("api_device_id", value) :: rest) "api_device_id" = value := by
    simp [VendorPayload.get, VendorPayload.getD]
  unfold polledApiDeviceId
  rw [hget, PyValue.orElse, if_pos h]
  cases value with
  | none => cases h
  | text value => rfl
  | unpaired => rfl
  | other truthy rendering => rfl

/-- A transformed device keeps the identifier that its raw device is compared by. -/
theorem polledApiDeviceId_polledDevice {device : JsonObject}
    (h : (polledDevice conditions device).transformed ≠ []) :
    polledApiDeviceId (polledDevice conditions device).transformed = rawDeviceId device := by
  unfold polledDevice at h ⊢
  simp only at h ⊢
  cases htransformed : transformDeviceData shureCatalog device with
  | none => simp [htransformed] at h
  | some transformed =>
    unfold transformDeviceData at htransformed
    cases htruthy : (device.get "id").isTruthy with
    | false => simp [htruthy] at htransformed
    | true =>
      simp only [htruthy, Bool.not_true, Bool.false_eq_true, if_false] at htransformed
      cases hidentity : identifyDeviceModel shureCatalog device with
      | none => simp [hidentity] at htransformed
      | some identity =>
        cases hchannels : transformChannels (device.getD "channels" (.array [] "[]")) with
        | none => simp [hidentity, hchannels] at htransformed
        | some channels =>
          simp only [hidentity, hchannels, Option.bind_eq_bind, Option.bind_some,
            Option.some.injEq] at htransformed
          subst htransformed
          have hraw : rawDeviceId device = strip (device.get "id").str := by
            rw [rawDeviceId, JsonValue.orElse, if_pos htruthy]
          rw [hraw]
          exact polledApiDeviceId_cons htruthy

/-- A device is written to the chassis that holds its identifier, or to a new one. -/
theorem writes_holds {device : PolledDevice} {pk : Nat} (h : Writes now manufacturer db device pk)
    (hdb : db.Consistent) :
    ∀ row ∈ db.chassis, row.pk = pk →
      HoldsApiId manufacturer (polledApiDeviceId device.transformed) row := by
  obtain ⟨-, mid, chassis, created, hupsert, rfl⟩ := h
  intro row hrow hpk
  obtain ⟨written, hwritten⟩ := upsertPolled_write hdb hupsert
  rcases hwritten.origin with ⟨found, hfound, hholds, hfoundPk, -⟩ | ⟨hnone, -⟩
  · rw [hdb.pk_unique.eq hrow hfound (hpk.trans hfoundPk.symm)]
    exact hholds
  · exact absurd hpk (hnone row hrow).2

theorem writes_pk_eq {device : PolledDevice} {pk : Nat} (h : Writes now manufacturer db device pk)
    (hdb : db.Consistent)
    {row : Chassis} (hrow : row ∈ db.chassis)
    (hholds : HoldsApiId manufacturer (polledApiDeviceId device.transformed) row) : row.pk = pk := by
  obtain ⟨-, mid, chassis, created, hupsert, rfl⟩ := h
  obtain ⟨written, hwritten⟩ := upsertPolled_write hdb hupsert
  rcases hwritten.origin with ⟨found, hfound, hfoundHolds, hfoundPk, -⟩ | ⟨hnone, -⟩
  · rw [← hfoundPk]
    have hsame : (row.manufacturer.pk, row.apiDeviceId) =
        (found.manufacturer.pk, found.apiDeviceId) := by
      rw [hholds.1, hholds.2, hfoundHolds.1, hfoundHolds.2]
    rw [hdb.api_unique.eq hrow hfound hsame]
  · exact absurd hholds (hnone row hrow).1

/-- The device of an answer that is polled, if there is one: the first with the identifier that was
asked for. -/
def targets (chassis : Chassis) (devices : List JsonObject) : List JsonObject :=
  (devices.filter fun device => rawDeviceId device = strip chassis.apiDeviceId).take 1

theorem mem_targets {device : JsonObject} {devices : List JsonObject}
    (h : device ∈ targets chassis devices) :
    device ∈ devices ∧ rawDeviceId device = strip chassis.apiDeviceId := by
  simpa using List.mem_filter.mp (List.mem_of_mem_take h)

theorem targets_spec (chassis : Chassis) (devices : List JsonObject) :
    ((targets chassis devices).map (polledDevice conditions)).length ≤ 1 ∧
      ∀ device ∈ (targets chassis devices).map (polledDevice conditions), device.transformed ≠ [] →
        polledApiDeviceId device.transformed = strip chassis.apiDeviceId := by
  refine ⟨by simp [targets], fun device hdevice hne => ?_⟩
  obtain ⟨raw, hraw, rfl⟩ := List.mem_map.mp hdevice
  rw [polledApiDeviceId_polledDevice hne]
  exact (mem_targets hraw).2

theorem mem_channelContacts {device : JsonObject} {contact : String × String}
    (h : contact ∈ channelContacts conditions db manufacturer device) :
    conditions.deploymentClient = some contact ∧ embedsChannels device = false := by
  unfold channelContacts at h
  simp only at h
  split at h
  next => exact absurd h List.not_mem_nil
  next hbare =>
    rw [Bool.or_eq_true, not_or, Bool.not_eq_true] at hbare
    exact ⟨Option.mem_toList.mp h, hbare.1⟩

theorem length_channelContacts (device : JsonObject) :
    (channelContacts conditions db manufacturer device).length ≤ 1 := by
  unfold channelContacts
  simp only
  split
  next => exact Nat.zero_le 1
  next => cases conditions.deploymentClient <;> simp

/-- What a poll of one device at most does: it counts no more than one, and of the rows that there
are it changes only the one that holds the identifier. -/
theorem poll_single {devices : List PolledDevice} {target : String} (hdb : db.Consistent)
    (hlength : devices.length ≤ 1)
    (htarget : ∀ device ∈ devices, device.transformed ≠ [] →
      polledApiDeviceId device.transformed = target) :
    (updateModelsFromApiData now db devices manufacturer false).1.Consistent ∧
      NoNewOffline db (updateModelsFromApiData now db devices manufacturer false).1 ∧
      (updateModelsFromApiData now db devices manufacturer false).2 ≤ 1 ∧
      (∀ row ∈ db.chassis, row ∈ (updateModelsFromApiData now db devices manufacturer false).1.chassis ∨
        HoldsApiId manufacturer target row) ∧
      ∀ row ∈ db.chassis, HoldsApiId manufacturer target row →
        OnlyTouches db (updateModelsFromApiData now db devices manufacturer false).1 row.pk := by
  have hinventory : (updateModelsFromApiData now db devices manufacturer false).1 =
      (pollDevices now manufacturer db devices).inventory :=
        updateModelsFromApiData_eq now db devices manufacturer false
  rw [hinventory]
  refine ⟨pollDevices_consistent hdb, (pollDevices_inventory hdb).1, ?_, ?_, ?_⟩
  · match devices, hlength with
    | [], _ => exact Nat.zero_le _
    | [device], _ =>
      show (pollDevice now manufacturer (.start db) device).updatedCount ≤ 1
      unfold pollDevice
      split
      next => exact Nat.zero_le _
      next =>
        split
        next => exact Nat.zero_le _
        next =>
          split
          next => exact Nat.zero_le _
          next =>
            cases device.channelsUpdated with
            | true => exact le_rfl
            | false => exact Nat.zero_le _
  · intro row hrow
    match devices, hlength with
    | [], _ => exact .inl hrow
    | [device], _ =>
      by_cases hwrites : Writes now manufacturer db device row.pk
      · right
        rw [← htarget device (by simp) hwrites.1]
        exact writes_holds hwrites hdb row hrow rfl
      · exact .inl
          (((@pollDevice_inventory now manufacturer (.start db) device hdb).2 row hwrites).mpr hrow)
  · intro row hrow hholds other hne
    match devices, hlength with
    | [], _ => exact Iff.rfl
    | [device], _ =>
      refine (@pollDevice_inventory now manufacturer (.start db) device hdb).2 other
        fun hwrites => hne ?_
      rw [← htarget device (by simp) hwrites.1] at hholds
      exact (writes_pk_eq hwrites hdb hrow hholds).symm

theorem pollManagedDevice_refused
    (h : ¬(Owns conditions server chassis ∧ strip chassis.apiDeviceId ≠ "")) :
    pollManagedDevice conditions server chassis db = ⟨db, none, [], .error .permissionDenied⟩ := by
  unfold pollManagedDevice
  simp only
  rw [if_pos]
  rw [Bool.or_eq_true, Bool.not_eq_true', decide_eq_true_eq, ← Bool.not_eq_true, serverOwnsChassis_iff]
  exact not_and_or.mp h |>.imp id not_not.mp

theorem length_fetchServerDevices (network : VendorNetwork) (server : ManufacturerAPIServer) :
    (fetchServerDevices network server).1.length ≤ 1 := by
  unfold fetchServerDevices fetchShureDevices
  split
  next => exact Nat.zero_le 1
  next => cases validateDestination network server.baseUrl <;> simp

theorem managedPoll_idle {saved : Option ManufacturerAPIServer} {contacts : List (String × String)}
    {result : Except ManagedPollError Nat} (hdb : db.Consistent)
    (hsaved : ∀ row ∈ saved, row.pk = server.pk)
    (hcontacts : ∀ contact ∈ contacts, OwnContact conditions.network server contact)
    (hlength : contacts.length ≤ 1)
    (hresult : ∀ updated ∈ result.toOption, updated ≤ 1) :
    (ManagedPoll.mk db saved contacts result).inventory.Consistent ∧
      NoNewOffline db db ∧
      (∀ row ∈ db.chassis, row ∈ db.chassis ∨
        HoldsApiId chassis.manufacturer (strip chassis.apiDeviceId) row) ∧
      (strip chassis.apiDeviceId = chassis.apiDeviceId → OnlyTouches db db chassis.pk) ∧
      (∀ row ∈ saved, row.pk = server.pk) ∧
      (∀ contact ∈ contacts, PollContact conditions server chassis contact) ∧
      contacts.length ≤ 2 ∧ ∀ updated ∈ result.toOption, updated ≤ 1 :=
  ⟨hdb, .refl db, fun row hrow => .inl hrow, fun _ => .refl db _, hsaved, fun contact h =>
    .own (hcontacts contact h),
    by omega, hresult⟩

/-- A poll writes at most the chassis that it was asked for, keeps the row of its server but for its
state, and contacts that server and at most the deployment's own. -/
theorem pollManagedDevice_spec (hdb : db.Consistent) (hchassis : chassis ∈ db.chassis) :
    (pollManagedDevice conditions server chassis db).inventory.Consistent ∧
      NoNewOffline db (pollManagedDevice conditions server chassis db).inventory ∧
      (∀ row ∈ db.chassis, row ∈ (pollManagedDevice conditions server chassis db).inventory.chassis ∨
        HoldsApiId chassis.manufacturer (strip chassis.apiDeviceId) row) ∧
      (strip chassis.apiDeviceId = chassis.apiDeviceId →
        OnlyTouches db (pollManagedDevice conditions server chassis db).inventory chassis.pk) ∧
      (∀ row ∈ (pollManagedDevice conditions server chassis db).saved, row.pk = server.pk) ∧
      (∀ contact ∈ (pollManagedDevice conditions server chassis db).contacts,
        PollContact conditions server chassis contact) ∧
      (pollManagedDevice conditions server chassis db).contacts.length ≤ 2 ∧
      ∀ updated ∈ (pollManagedDevice conditions server chassis db).result.toOption, updated ≤ 1 := by
  unfold pollManagedDevice
  simp only
  split
  next => exact managedPoll_idle hdb (by simp) (by simp) (by simp) (by simp [Except.toOption])
  next =>
    split
    next => exact managedPoll_idle hdb (by simp) (by simp) (by simp) (by simp [Except.toOption])
    next =>
      have hcontacts := fun contact => @fetchServerDevices_contacts conditions.network server contact
      have hlength := length_fetchServerDevices conditions.network server
      cases hfetch : fetchServerDevices conditions.network server with
      | mk contacts result =>
        rw [hfetch] at hcontacts hlength
        cases result with
        | error error =>
            exact managedPoll_idle hdb (by simp) hcontacts hlength (by simp [Except.toOption])
        | ok devices =>
          obtain ⟨hone, htarget⟩ := @targets_spec conditions chassis (devices.getD [])
          obtain ⟨hconsistent, hoffline, hcount, hkept, honly⟩ :=
            @poll_single conditions.now chassis.manufacturer db _ _ hdb hone htarget
          refine ⟨hconsistent, hoffline, hkept, fun htrimmed =>
            honly chassis hchassis ⟨rfl, htrimmed.symm⟩,
            by simp, fun contact h => ?_, ?_, fun updated h => ?_⟩
          · rcases List.mem_append.mp h with hown | hchannels
            · exact .own (hcontacts contact hown)
            · obtain ⟨device, hdevice, hcontact⟩ := List.mem_flatMap.mp hchannels
              obtain ⟨hclient, hbare⟩ := mem_channelContacts hcontact
              obtain ⟨hmem, hnamed⟩ := mem_targets hdevice
              cases devices with
              | none => exact absurd hmem List.not_mem_nil
              | some devices =>
                  exact .deployment devices device hclient (by rw [hfetch]) hmem hnamed hbare
          · have hchannels : ((targets chassis (devices.getD [])).flatMap
                (channelContacts conditions db chassis.manufacturer)).length ≤ 1 := by
              rw [List.length_map] at hone
              generalize targets chassis (devices.getD []) = polled at hone
              cases polled with
              | nil => exact Nat.zero_le 1
              | cons device rest =>
                  obtain rfl : rest = [] := List.length_eq_zero_iff.mp (by simpa using hone)
                  simpa using length_channelContacts device
            rw [List.length_append]
            exact Nat.add_le_add hlength hchannels
          · obtain rfl := Option.some.inj h
            exact hcount

/-- The save of a server leaves the other ones. -/
theorem mem_savedServers {saved : Option ManufacturerAPIServer}
    {servers : List ManufacturerAPIServer} {other : ManufacturerAPIServer}
    (hsaved : ∀ row ∈ saved, row.pk = apiServerId) (hne : other.pk ≠ apiServerId) :
    other ∈ (match saved with
      | none => servers
      | some row => replaceRow ManufacturerAPIServer.pk row servers) ↔ other ∈ servers := by
  cases saved with
  | none => exact Iff.rfl
  | some row =>
    have hpk : row.pk = apiServerId := hsaved row rfl
    rw [mem_replaceRow, hpk]
    constructor
    · rintro (⟨rfl, -⟩ | ⟨hother, -⟩)
      · exact absurd hpk hne
      · exact hother
    · exact fun hother => .inr ⟨hother, hne⟩

/-- A poll that is not to be carried out does nothing, whichever of its rows is missing. -/
theorem pollApiServerDevice_refused (hdb : state.inventory.Consistent)
    (hfree : ¬∃ server chassis, Asked conditions state apiServerId chassisId server chassis ∧
      state.servers.find? (fun server => server.pk = apiServerId) = some server) :
    pollApiServerDevice conditions apiServerId chassisId state = (state, none) := by
  unfold pollApiServerDevice
  split
  next server chassis hserver hchassis =>
    have hserverPk : server.pk = apiServerId := by
      have hfound := List.find?_some hserver
      exact of_decide_eq_true hfound
    obtain ⟨hchassisMem, hchassisPk⟩ := hdb.find_eq_some.mp hchassis
    have hrefused : ¬(Owns conditions server chassis ∧ strip chassis.apiDeviceId ≠ "") := by
      rintro ⟨howns, hidentified⟩
      exact hfree ⟨server, chassis, ⟨List.mem_of_find?_eq_some hserver, hserverPk, hchassisMem,
        hchassisPk, hidentified, howns⟩, hserver⟩
    simp [pollManagedDevice_refused hrefused, Except.toOption]
  next => rfl
  next => rfl

/-- **A managed poll stays within its boundary.** Whatever the vendor answers and whatever keys are
queued: unless the named server owns the named chassis nothing is contacted or written; otherwise
that server is contacted, with its own key at an allowed host, and besides it only the client of the
deployment, where the answer embeds no channels of the chassis; only the row of the server may
change among the servers, no chassis goes offline, and of the chassis that are stored only the one
that holds the identifier of the named chassis may change, which is the named one itself if its
identifier is stored without blanks around it. -/
theorem poll_api_server_device_spec (hdb : state.inventory.Consistent) :
    ((¬∃ server chassis, Asked conditions state apiServerId chassisId server chassis) →
      pollApiServerDevice conditions apiServerId chassisId state = (state, none)) ∧
    (∃ made, (pollApiServerDevice conditions apiServerId chassisId state).1.contacts =
      state.contacts ++ made ∧
      made.length ≤ 2 ∧ ∀ contact ∈ made, ∃ server chassis,
        Asked conditions state apiServerId chassisId server chassis ∧
          PollContact conditions server chassis contact) ∧
    (∀ server, server.pk ≠ apiServerId →
      (server ∈ (pollApiServerDevice conditions apiServerId chassisId state).1.servers ↔
        server ∈ state.servers)) ∧
    (pollApiServerDevice conditions apiServerId chassisId state).1.inventory.Consistent ∧
    NoNewOffline state.inventory
      (pollApiServerDevice conditions apiServerId chassisId state).1.inventory ∧
    (∀ row ∈ state.inventory.chassis,
      row ∈ (pollApiServerDevice conditions apiServerId chassisId state).1.inventory.chassis ∨
        ∃ server chassis, Asked conditions state apiServerId chassisId server chassis ∧
          HoldsApiId chassis.manufacturer (strip chassis.apiDeviceId) row) ∧
    (∀ chassis, state.inventory.find chassisId = some chassis →
      strip chassis.apiDeviceId = chassis.apiDeviceId →
      OnlyTouches state.inventory
        (pollApiServerDevice conditions apiServerId chassisId state).1.inventory chassisId) ∧
    ∀ updated ∈ (pollApiServerDevice conditions apiServerId chassisId state).2, updated ≤ 1 := by
  by_cases hasked : ∃ server chassis, Asked conditions state apiServerId chassisId server chassis ∧
      state.servers.find? (fun server => server.pk = apiServerId) = some server
  · obtain ⟨server, chassis, hasked, hserver⟩ := hasked
    have hchassis := hdb.find_eq_some.mpr ⟨hasked.chassis_mem, hasked.chassis_pk⟩
    obtain ⟨hconsistent, hoffline, hkept, honly, hsaved, hcontacts, hlength, hcount⟩ :=
      @pollManagedDevice_spec conditions state.inventory server chassis hdb hasked.chassis_mem
    unfold pollApiServerDevice
    rw [hserver, hchassis]
    refine ⟨fun h => absurd ⟨server, chassis, hasked⟩ h, ⟨_, rfl, hlength, fun contact h =>
        ⟨server, chassis, hasked, hcontacts contact h⟩⟩, fun other hne => ?_, hconsistent, hoffline,
      fun row hrow => (hkept row hrow).imp id fun hholds => ⟨server, chassis, hasked, hholds⟩,
      fun chassis' hfound htrimmed => ?_, hcount⟩
    · exact mem_savedServers (fun row hrow => (hsaved row hrow).trans hasked.server_pk) hne
    · obtain rfl : chassis = chassis' := Option.some.inj hfound
      rw [← hasked.chassis_pk]
      exact honly htrimmed
  · rw [pollApiServerDevice_refused hdb hasked]
    exact ⟨fun _ => rfl, ⟨[], by simp, by simp, by simp⟩, fun _ _ => Iff.rfl, hdb, .refl _,
      fun row hrow => .inl hrow,
      fun _ _ _ => .refl _ _, by simp⟩

end Poll

/-- Two chassis of one manufacturer, of which the server of the hall owns the first. -/
def hallInventory : Inventory where
  chassis :=
    [{ Chassis.unsaved ⟨1, "shure", true⟩ with pk := 1, apiDeviceId := "dev-1", ip := "10.0.0.9" },
    { Chassis.unsaved ⟨1, "shure", true⟩ with pk := 2, apiDeviceId := "dev-2", ip := "10.0.0.8" }]
  chargers := []
  nextPk := 3

def hallServer : ManufacturerAPIServer where
  pk := 4
  manufacturer := "shure"
  baseUrl := "https://api.venue:10000"
  sharedKey := "venue-key-1"
  locationName := "Hall "

/-- The server of the hall answers for both chassis. -/
def hallConditions : PollConditions where
  network := { venueNetwork with
    getDevices _ _ := .ok (some [[("id", .text "dev-2"), ("ip", .text "10.0.0.7")],
      [("id", .text "dev-1"), ("ip", .text "10.0.0.6"), ("name", .text "Stage left")]]) }
  deploymentClient := some ("https://system.local:10000", "deployment-key")
  now := 60000000
  locations := [⟨3, "Hall", true⟩, ⟨5, "Hall", false⟩]
  locationOf pk := if pk = 1 then some 3 else some 7

theorem poll_api_server_device_spec_hall :
    (pollApiServerDevice hallConditions 4 1
      ⟨hallInventory, [hallServer], []⟩).1.inventory.chassis.map (·.ip) =
        ["10.0.0.6", "10.0.0.8"] ∧
      (pollApiServerDevice hallConditions 4 1 ⟨hallInventory, [hallServer], []⟩).1.contacts =
        [("https://api.venue:10000", "venue-key-1"), ("https://system.local:10000", "deployment-key")] ∧
      OnlyTouches hallInventory
        (pollApiServerDevice hallConditions 4 1 ⟨hallInventory, [hallServer], []⟩).1.inventory 1 ∧
      pollApiServerDevice hallConditions 4 2 ⟨hallInventory, [hallServer], []⟩ =
        (⟨hallInventory, [hallServer], []⟩, none) := by
  have hconsistent : hallInventory.Consistent :=
    ⟨by decide, by decide, by decide +kernel, by decide, by decide⟩
  obtain ⟨-, -, -, -, -, -, honly, -⟩ := @poll_api_server_device_spec hallConditions
    ⟨hallInventory, [hallServer], []⟩ 4 1 hconsistent
  obtain ⟨hrefused, -⟩ := @poll_api_server_device_spec hallConditions
    ⟨hallInventory, [hallServer], []⟩ 4 2 hconsistent
  refine ⟨by decide +kernel, by decide +kernel, honly _ rfl (by decide +kernel), hrefused ?_⟩
  rintro ⟨server, chassis, hasked⟩
  obtain rfl : server = hallServer := List.mem_singleton.mp hasked.server_mem
  obtain ⟨location, hlocation, hnamed⟩ := hasked.owns.location
  rw [hasked.chassis_pk] at hlocation
  have hplace : location.pk = 7 := (Option.some.inj hlocation).symm
  have hmem : location ∈ hallConditions.locations := by
    have hlisted : location ∈ [location] := List.mem_singleton.mpr rfl
    rw [← hnamed] at hlisted
    exact (List.mem_filter.mp hlisted).1
  simp only [hallConditions, List.mem_cons, List.not_mem_nil, or_false] at hmem
  rcases hmem with rfl | rfl <;> cases hplace

end APIServerPollingService

end Micboard
