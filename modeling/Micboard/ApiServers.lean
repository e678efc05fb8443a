import Micboard.ChassisRefresh
import Micboard.QueueFixpoint

/-! The API servers that are configured by hand. A server is contacted with its own address and key,
and only if its host is on the list of the deployment. A batch of connection tests is cut to a page,
rechecked for the operator who asked for it, and leaves what each test found in the row of its
server, whatever happens to the others. What the servers answer, which rows cannot be saved and what
`urlsplit` makes of an address are inputs. -/

namespace Micboard

open Library Library.Text Library.Ranking TenantAccess

inductive ServerStatus where
  | active | inactive | error | unknown
  deriving DecidableEq, Repr

structure ManufacturerAPIServer where
  pk : Nat
  manufacturer : String
  baseUrl : String
  sharedKey : String
  locationName : String := ""
  enabled : Bool := true
  status : ServerStatus := .unknown
  statusMessage : String := ""
  lastHealthCheck : Option Time := none
  deriving DecidableEq, Repr

/-- What a call to a server may raise: a rejected destination, an error of the package, or any other. -/
inductive ServerError where
  | validation
  | micboard (typeName : String)
  | other (typeName : String)
  deriving DecidableEq, Repr

/-- `type(exc).__name__`. -/
def ServerError.typeName : ServerError → String
  | validation => "ValidationError"
  | micboard typeName | other typeName => typeName

/-- The configured hosts: one text, or several values as `str` shows them. -/
inductive HostSetting where
  | text (value : String)
  | hosts (values : List String)
  deriving DecidableEq, Repr

/-- What lies outside: the methods of texts, the host of an address, the list of hosts, and the
answers of the servers to an address and a key. -/
structure VendorNetwork where
  python : PythonText
  hostname : String → Except String (Option String)
  allowedHosts : HostSetting
  getDevices : String → String → Except ServerError (Option (List JsonObject))

namespace APIServerConnectionService

/-- `text.rstrip(".").lower()`. -/
def canonicalHost (python : PythonText) (host : String) : String :=
  python.lower (String.ofList (host.toList.reverse.dropWhile (· = '.')).reverse)

/-- The hosts that servers may have. -/
def configuredHosts (network : VendorNetwork) : List String :=
  let configured := match network.allowedHosts with
    | .text value => (value.toList.splitOn ',').map String.ofList
    | .hosts values => values
  (configured.filter fun host => strip host ≠ "").map fun host =>
    canonicalHost network.python (strip host)

/-- Require an endpoint host to appear in the deployment allowlist. -/
def validateDestination (network : VendorNetwork) (baseUrl : String) : Except ServerError Unit :=
  match network.hostname baseUrl with
  | .error typeName => .error (.other typeName)
  | .ok found =>
    let hostname := canonicalHost network.python (found.getD "")
    if hostname = "" ∨ hostname ∉ configuredHosts network then .error .validation else .ok ()

/-- Fetch devices using one explicitly allowed destination and credential; with the contacts that
were made. -/
def fetchShureDevices (network : VendorNetwork) (baseUrl sharedKey : String) :
    List (String × String) × Except ServerError (List JsonObject) :=
  match validateDestination network baseUrl with
  | .error error => ([], .error error)
  | .ok () => ([(baseUrl, sharedKey)], (network.getDevices baseUrl sharedKey).map fun devices =>
    devices.getD [])

/-- Fetch devices for a supported persisted server, scoped to that row. -/
def fetchServerDevices (network : VendorNetwork) (server : ManufacturerAPIServer) :
    List (String × String) × Except ServerError (Option (List JsonObject)) :=
  if server.manufacturer ≠ "shure" then ([], .ok none)
  else
    let (contacts, devices) := fetchShureDevices network server.baseUrl server.sharedKey
    (contacts, devices.map some)

/-- What one test does: its contacts, the server as it leaves it, and the row that was saved. -/
structure ConnectionTest where
  contacts : List (String × String)
  server : ManufacturerAPIServer
  saved : Option ManufacturerAPIServer
  raised : Option ServerError

/-- Test one server using only that row's destination and credential. -/
def testConnection (network : VendorNetwork) (now : Time) (saveFails : Bool)
    (server : ManufacturerAPIServer) :
    ConnectionTest :=
  let store (contacts : List (String × String)) (server : ManufacturerAPIServer) : ConnectionTest :=
    if saveFails then ⟨contacts, server, none, some (.other "DatabaseError")⟩ else
      ⟨contacts, server, some server, none⟩
  if server.manufacturer ≠ "shure" then
    match validateDestination network server.baseUrl with
    | .error error => ⟨[], server, none, some error⟩
    | .ok () => store [] { server with
        status := .unknown
        statusMessage := "Health check not implemented for " ++ server.manufacturer }
  else
    match fetchServerDevices network server with
    | (contacts, .error error) => ⟨contacts, server, none, some error⟩
    | (contacts, .ok none) => ⟨contacts, server, none, none⟩
    | (contacts, .ok (some devices)) => store contacts { server with
        status := .active
        statusMessage :=
          "Connection successful (" ++ String.ofList (decimal devices.length) ++ " devices found)"
        lastHealthCheck := some now }

/-- Test one server and persist a bounded failure state on error; `recordFails` if that cannot be
saved either. -/
def testConnectionAndRecord (network : VendorNetwork) (now : Time) (saveFails recordFails : Bool)
    (server : ManufacturerAPIServer) : ConnectionTest :=
  let test := testConnection network now saveFails server
  match test.raised with
  | none => test
  | some error =>
    let failed := { test.server with
      status := .error
      statusMessage := "Connection failed (" ++ error.typeName ++ ")"
      lastHealthCheck := some now }
    if recordFails then ⟨test.contacts, failed, none, some (.other "DatabaseError")⟩
    else ⟨test.contacts, failed, some failed, none⟩

def maxApiServerHealthCheckBatch : Nat := 20

structure APIServerHealthCheckBatchResult where
  requested : Nat
  checked : Nat
  failed : Nat
  missing : Nat
  denied : Bool := false
  truncated : Bool := false
  deriving DecidableEq, Repr

/-- The servers that a batch names: positive numbers, the first of each. -/
def selectedServerIds (apiServerIds : List ChassisRefreshService.QueuedId) : List Nat :=
  ((page maxApiServerHealthCheckBatch apiServerIds).1.filterMap
    ChassisRefreshService.QueuedId.validKey).eraseDups

def apiServerModel : TenantModel := { labelLower := "micboard.manufacturerapiserver", attributes := [] }

/-- The operator is one who may test servers. -/
def mayTest (deployment : ChassisRefreshService.Deployment)
    (actor : ChassisRefreshService.Operator) : Bool :=
  actor.isActive && actor.isStaff && actor.hasPerm "micboard.change_manufacturerapiserver" &&
    TenantRoleAccessService.canManageModel deployment.controls deployment.tenancy
      actor.toUser apiServerModel

/-- The tables during a batch, its contacts so far, and the servers that failed. -/
structure BatchState where
  servers : List ManufacturerAPIServer
  contacts : List (String × String) := []
  failed : Nat := 0

/-- The times and the failures of the saves are those of the server's own test. -/
structure BatchConditions where
  network : VendorNetwork
  clock : Nat → Time
  saveFails : Nat → Bool := fun _ => false
  recordFails : Nat → Bool := fun _ => false

def BatchConditions.test (conditions : BatchConditions)
    (server : ManufacturerAPIServer) : ConnectionTest :=
  testConnectionAndRecord conditions.network (conditions.clock server.pk)
    (conditions.saveFails server.pk)
    (conditions.recordFails server.pk) server

/-- One round of the loop. -/
def batchStep (conditions : BatchConditions) (state : BatchState)
    (server : ManufacturerAPIServer) : BatchState :=
  let test := conditions.test server
  { servers := match test.saved with
      | none => state.servers
      | some row => replaceRow ManufacturerAPIServer.pk row state.servers
    contacts := state.contacts ++ test.contacts
    failed :=
      if test.raised.isSome ∨ test.server.status = .error then state.failed + 1 else state.failed }

/-- Test an exact, bounded selection after rechecking the actor's permission. -/
def testSelectedConnections (conditions : BatchConditions)
    (deployment : ChassisRefreshService.Deployment)
    (servers : List ManufacturerAPIServer) (apiServerIds : List ChassisRefreshService.QueuedId)
    (actorId : Nat) :
    BatchState × APIServerHealthCheckBatchResult :=
  let requested := apiServerIds.length
  let truncated := (page maxApiServerHealthCheckBatch apiServerIds).2
  let selectedIds := selectedServerIds apiServerIds
  let denied : BatchState × APIServerHealthCheckBatchResult :=
    ({ servers }, { requested, checked := 0, failed := 0, missing := 0, denied := true, truncated })
  match deployment.users.find? fun user => user.pk = actorId with
  | none => denied
  | some actor =>
    if !mayTest deployment actor then denied
    else
      let chosen :=
        orderBy ManufacturerAPIServer.pk (servers.filter fun server => server.pk ∈ selectedIds)
      let state := chosen.foldl (batchStep conditions) { servers }
      (state, {
        requested
        checked := chosen.length
        failed := state.failed
        missing := selectedIds.length - chosen.length
        truncated })

/-! ### What a batch does -/

section Batch

variable {network : VendorNetwork} {now : Time} {saveFails recordFails : Bool}
  {server row : ManufacturerAPIServer}
  {conditions : BatchConditions} {servers todo : List ManufacturerAPIServer} {contact : String × String}

/-- The contacts that a server may be asked for: its own, at an allowed host. -/
def OwnContact (network : VendorNetwork) (server : ManufacturerAPIServer)
    (contact : String × String) : Prop :=
  contact = (server.baseUrl, server.sharedKey) ∧ server.manufacturer = "shure" ∧
    validateDestination network server.baseUrl = .ok ()

theorem fetchServerDevices_contacts (h : contact ∈ (fetchServerDevices network server).1) :
    OwnContact network server contact := by
  unfold fetchServerDevices at h
  split at h
  next => exact absurd h List.not_mem_nil
  next hshure =>
    unfold fetchShureDevices at h
    cases hvalid : validateDestination network server.baseUrl with
    | error error => simp [hvalid] at h
    | ok =>
      rw [hvalid] at h
      exact ⟨List.mem_singleton.mp h, not_not.mp hshure, hvalid⟩

theorem testConnection_own : (∀ contact ∈ (testConnection network now saveFails server).contacts,
      OwnContact network server contact) ∧
        (testConnection network now saveFails server).server.pk = server.pk ∧
    ∀ row ∈ (testConnection network now saveFails server).saved,
      row = (testConnection network now saveFails server).server := by
  unfold testConnection
  by_cases hshure : server.manufacturer = "shure"
  · rw [if_neg (not_not.mpr hshure)]
    have hcontacts := fun contact => @fetchServerDevices_contacts network server contact
    cases hfetch : fetchServerDevices network server with
    | mk contacts devices =>
      rw [hfetch] at hcontacts
      cases devices with
      | error error => exact ⟨hcontacts, rfl, by simp⟩
      | ok devices =>
        cases devices with
        | none => exact ⟨hcontacts, rfl, by simp⟩
        | some devices =>
          cases saveFails with
          | true => exact ⟨hcontacts, rfl, by simp⟩
          | false => exact ⟨hcontacts, rfl, by simp⟩
  · rw [if_pos hshure]
    cases validateDestination network server.baseUrl with
    | error error => exact ⟨by simp, rfl, by simp⟩
    | ok =>
      cases saveFails with
      | true => exact ⟨by simp, rfl, by simp⟩
      | false => exact ⟨by simp, rfl, by simp⟩

theorem testConnectionAndRecord_own :
    (∀ contact ∈ (testConnectionAndRecord network now saveFails recordFails server).contacts,
      OwnContact network server contact) ∧
    ∀ row ∈ (testConnectionAndRecord network now saveFails recordFails server).saved,
      row.pk = server.pk := by
  obtain ⟨hcontacts, hpk, hsaved⟩ := @testConnection_own network now saveFails server
  unfold testConnectionAndRecord
  simp only
  split
  next => exact ⟨hcontacts, fun row hrow => hsaved row hrow ▸ hpk⟩
  next =>
    cases recordFails with
    | true => exact ⟨hcontacts, by simp⟩
    | false => exact ⟨hcontacts, fun row hrow => Option.some.inj hrow ▸ hpk⟩

/-- The row of a server after its own test. -/
def BatchConditions.tested (conditions : BatchConditions)
    (server : ManufacturerAPIServer) : ManufacturerAPIServer :=
  (conditions.test server).saved.getD server

def BatchConditions.fails (conditions : BatchConditions) (server : ManufacturerAPIServer) : Bool :=
  (conditions.test server).raised.isSome || (conditions.test server).server.status = .error

theorem tested_pk (conditions : BatchConditions) (server : ManufacturerAPIServer) :
    (conditions.tested server).pk = server.pk := by
  unfold BatchConditions.tested
  cases hsaved : (conditions.test server).saved with
  | none => rfl
  | some row => exact testConnectionAndRecord_own.2 row hsaved

/-- The loop, row by row. -/
theorem foldl_batchStep (hunique : UniqueOn ManufacturerAPIServer.pk servers)
    (htodo : UniqueOn ManufacturerAPIServer.pk todo) (hmem : ∀ server ∈ todo, server ∈ servers) :
    (todo.foldl (batchStep conditions) { servers }).servers =
        (servers.map fun server =>
          if server.pk ∈ todo.map ManufacturerAPIServer.pk then conditions.tested server
          else server) ∧
      (todo.foldl (batchStep conditions) { servers }).contacts =
        todo.flatMap (fun server => (conditions.test server).contacts) ∧
      (todo.foldl (batchStep conditions) { servers }).failed = todo.countP conditions.fails := by
  induction todo using List.reverseRecOn with
  | nil => simp
  | append_singleton todo last ih =>
    rw [UniqueOn, List.map_append, List.nodup_append] at htodo
    obtain ⟨hnodup, -, hfresh⟩ := htodo
    obtain ⟨hservers, hcontacts, hfailed⟩ :=
      ih hnodup fun server hserver => hmem server (List.mem_append_left _ hserver)
    have hrowwise := fun todo hmem =>
      @foldl_replaceRow_rowwise _ _ _ ManufacturerAPIServer.pk conditions.tested todo
      servers hunique hmem (tested_pk conditions)
    have hbefore := hrowwise todo fun server hserver => hmem server (List.mem_append_left _ hserver)
    have hafter := hrowwise (todo ++ [last]) hmem
    rw [List.foldl_concat, hbefore] at hafter
    have hlast : last.pk ∉ todo.map ManufacturerAPIServer.pk := fun h => hfresh _ h _ (by simp) rfl
    rw [List.foldl_concat, batchStep, hcontacts, hfailed, hservers]
    refine ⟨?_, by simp, ?_⟩
    · rw [← hafter]
      unfold BatchConditions.tested
      cases hsaved : (conditions.test last).saved with
      | some row => rfl
      | none =>
        have hstands : last ∈ servers.map fun server =>
            if server.pk ∈ todo.map ManufacturerAPIServer.pk then conditions.tested
              server else server :=
          List.mem_map.mpr ⟨last, hmem last (by simp), if_neg hlast⟩
        have htable : UniqueOn ManufacturerAPIServer.pk (servers.map fun server =>
            if server.pk ∈ todo.map ManufacturerAPIServer.pk then conditions.tested
              server else server) := by
          apply hunique.map_rows
          intro server
          split
          next => exact tested_pk conditions server
          next => rfl
        exact (replaceRow_of_mem _ htable hstands).symm
    · rw [List.countP_append, List.countP_singleton]
      unfold BatchConditions.fails
      simp only [Bool.or_eq_true, decide_eq_true_eq]
      split
      next => rfl
      next => rfl

/-- The operator who asked for a batch may test servers. -/
def permitted (deployment : ChassisRefreshService.Deployment) (actorId : Nat) : Bool :=
  (deployment.users.find? fun user => user.pk = actorId).any (mayTest deployment)

/-- **A batch of connection tests.** It is denied exactly to operators who may not test, and then it
neither contacts nor writes anything. Otherwise each stored server that it names is tested once, by
itself alone: its row is what its own test leaves, every other row stays, and the contacts are those
of these tests in order of the keys, each with the address and key of its own server at an allowed
host. The counts are those of the servers. -/
theorem test_selected_connections_spec (hunique : UniqueOn ManufacturerAPIServer.pk servers)
    (deployment : ChassisRefreshService.Deployment) (apiServerIds : List ChassisRefreshService.QueuedId)
    (actorId : Nat) :
    ((testSelectedConnections conditions deployment servers apiServerIds actorId).2.denied = true ↔
      permitted deployment actorId = false) ∧
    (testSelectedConnections conditions deployment servers apiServerIds actorId).1.servers =
      (servers.map fun server =>
        if permitted deployment actorId = true ∧ server.pk ∈ selectedServerIds apiServerIds
          then conditions.tested server else server) ∧
    (permitted deployment actorId = true →
      (testSelectedConnections conditions deployment servers apiServerIds actorId).1.contacts =
        (orderBy ManufacturerAPIServer.pk (servers.filter fun server =>
          server.pk ∈ selectedServerIds apiServerIds)).flatMap fun server =>
            (conditions.test server).contacts) ∧
    (∀ contact ∈
      (testSelectedConnections conditions deployment servers apiServerIds actorId).1.contacts,
      permitted deployment actorId = true ∧
        ∃ server ∈ servers, server.pk ∈ selectedServerIds apiServerIds ∧
          OwnContact conditions.network server contact) ∧
    (permitted deployment actorId = true →
      (testSelectedConnections conditions deployment servers apiServerIds actorId).2.checked +
          (testSelectedConnections conditions deployment servers apiServerIds actorId).2.missing =
        (selectedServerIds apiServerIds).length ∧
      (testSelectedConnections conditions deployment servers apiServerIds actorId).2.checked =
        (servers.countP fun server => server.pk ∈ selectedServerIds apiServerIds) ∧
      (testSelectedConnections conditions deployment servers apiServerIds actorId).2.failed =
        servers.countP fun server =>
          server.pk ∈ selectedServerIds apiServerIds && conditions.fails server) := by
  unfold testSelectedConnections permitted
  simp only
  split
  next hfind => simp [hfind]
  next actor hfind =>
    cases hmay : mayTest deployment actor with
    | false => simp [hfind, hmay]
    | true =>
      simp only [Bool.not_true, Bool.false_eq_true, if_false, hfind, Option.any_some, hmay,
        true_and, forall_const]
      have hmem : ∀ server, server ∈ orderBy ManufacturerAPIServer.pk (servers.filter fun server =>
          server.pk ∈ selectedServerIds apiServerIds) ↔
            server ∈ servers ∧ server.pk ∈ selectedServerIds apiServerIds := by
        simp
      have hperm := orderBy_perm ManufacturerAPIServer.pk (servers.filter fun server =>
        server.pk ∈ selectedServerIds apiServerIds)
      have htodo : UniqueOn ManufacturerAPIServer.pk
          (orderBy ManufacturerAPIServer.pk (servers.filter fun server =>
          server.pk ∈ selectedServerIds apiServerIds)) :=
        (hperm.map _).nodup_iff.mpr (List.Nodup.sublist (List.filter_sublist.map _) hunique)
      generalize orderBy ManufacturerAPIServer.pk (servers.filter fun server =>
        server.pk ∈ selectedServerIds apiServerIds) = chosen at hmem hperm htodo ⊢
      obtain ⟨hservers, hcontacts, hfailed⟩ := @foldl_batchStep conditions servers chosen hunique htodo
        fun server hserver => ((hmem server).mp hserver).1
      have hkeys : ∀ server ∈ servers, server.pk ∈ chosen.map ManufacturerAPIServer.pk ↔
          server.pk ∈ selectedServerIds apiServerIds := by
        intro server hserver
        constructor
        · intro h
          obtain ⟨other, hother, heq⟩ := List.mem_map.mp h
          rw [← heq]
          exact ((hmem other).mp hother).2
        · exact fun h => List.mem_map_of_mem ((hmem server).mpr ⟨hserver, h⟩)
      have hfits : chosen.length ≤ (selectedServerIds apiServerIds).length := by
        have hsub : chosen.map ManufacturerAPIServer.pk ⊆ selectedServerIds apiServerIds := by
          intro pk hpk
          obtain ⟨server, hserver, rfl⟩ := List.mem_map.mp hpk
          exact ((hmem server).mp hserver).2
        have hle := (List.Nodup.subperm htodo hsub).length_le
        rwa [List.length_map] at hle
      refine ⟨by simp, ?_, hcontacts, ?_, by omega, ?_, ?_⟩
      · rw [hservers]
        apply List.map_congr_left
        intro server hserver
        rw [if_congr (hkeys server hserver) rfl rfl]
      · intro contact hcontact
        rw [hcontacts, List.mem_flatMap] at hcontact
        obtain ⟨server, hserver, hcontact⟩ := hcontact
        obtain ⟨hstored, hselected⟩ := (hmem server).mp hserver
        exact ⟨server, hstored, hselected, testConnectionAndRecord_own.1 contact hcontact⟩
      · rw [hperm.length_eq, List.countP_eq_length_filter]
      · rw [hfailed, hperm.countP_eq, List.countP_filter]
        apply List.countP_congr
        intro server _
        simp [and_comm]

end Batch

/-- Two servers, of which one has a host that is not on the list. -/
def venueServers : List ManufacturerAPIServer :=
  [{ pk := 4, manufacturer := "shure", baseUrl := "https://api.venue:10000",
     sharedKey := "venue-key-1" },
    { pk := 6, manufacturer := "shure", baseUrl := "https://elsewhere", sharedKey := "venue-key-2" }]

def venueNetwork : VendorNetwork where
  python := asciiText
  hostname url := .ok (if url = "https://api.venue:10000" then some "api.venue" else some "elsewhere")
  allowedHosts := .text " API.venue., other"
  getDevices _ _ := .ok (some [[]])

def venueDeployment : ChassisRefreshService.Deployment where
  controls := { mspEnabled := false, multiSiteMode := false }
  tenancy := {
    organizations := [⟨5, none, true⟩]
    campuses := []
    memberships := [{ userId := 8, organizationId := 5, campusId := none, isActive := true }] }
  groups := []
  users := [{ pk := 8, isSuperuser := true, isStaff := true }]
  locationOf _ := none

theorem test_selected_connections_spec_venue :
    (testSelectedConnections ⟨venueNetwork, fun _ => 7, fun _ => false, fun _ =>
      false⟩ venueDeployment venueServers
      [.int 6, .int 4, .int 4, .int 9] 8).1.servers.map
        (fun server => (server.status, server.statusMessage)) =
        [(.active, "Connection successful (1 devices found)"),
          (.error, "Connection failed (ValidationError)")] ∧
      ∀ contact ∈ (testSelectedConnections ⟨venueNetwork, fun _ => 7, fun _ => false, fun _ =>
        false⟩ venueDeployment
        venueServers [.int 6, .int 4, .int 4, .int 9] 8).1.contacts, contact.2 ≠ "venue-key-2" := by
  have hspec := @test_selected_connections_spec ⟨venueNetwork, fun _ => 7, fun _ => false, fun _ =>
    false⟩ venueServers
    (by decide) venueDeployment [.int 6, .int 4, .int 4, .int 9] 8
  refine ⟨?_, fun contact hcontact => ?_⟩
  · rw [hspec.2.1]
    decide +kernel
  · obtain ⟨-, server, hserver, -, heq, -, hallowed⟩ := hspec.2.2.2.1 contact hcontact
    simp only [venueServers, List.mem_cons, List.not_mem_nil, or_false] at hserver
    rcases hserver with rfl | rfl
    · rw [heq]
      decide
    · have hrefused : validateDestination venueNetwork "https://elsewhere" = .error .validation :=
        by decide +kernel
      exact absurd (hrefused.symm.trans hallowed) (by simp)

end APIServerConnectionService

end Micboard
