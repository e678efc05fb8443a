import Mathlib.Data.List.ReduceOption
import Micboard.LibraryDictionary
import Micboard.LibraryRun
import Micboard.RealtimeRouting

/-! Broadcasts of device snapshots. In multi-tenant mode the receiver rows of a snapshot are
partitioned by the tenant that owns them before anything is sent, and every partition goes to the
groups of its tenant only. A broadcast is given by the sends it makes to a configured channel layer,
in order, or by what it raises before the first of them. -/

namespace Micboard

open Library

abbrev GroupSend := String × EventData

def deviceUpdate (data : EventValue) : EventData :=
  [("type", .text "device_update"), ("data", data)]

namespace BroadcastService

def sendToGroups (event : EventData) (groups : List String) : List GroupSend :=
  groups.eraseDups.map fun groupName => (groupName, event)

def sendForScope (settings : RealtimeSettings) (event : EventData)
    (organizationId campusId siteId : Option Nat) : List GroupSend :=
  sendToGroups event
    (RealtimeRoutingService.groupsForScope settings organizationId campusId siteId)

/-- `isinstance(value, Mapping)`. -/
def asMapping : EventValue → Option EventData
  | .mapping items => some items
  | _ => none

/-- `normalize_identifier(receiver.get("id"))` of the receivers that are mappings. -/
def receiverIds (receivers : List EventValue) : Except IntError (List Nat) := do
  let identifiers ← (receivers.filterMap asMapping).mapM fun receiver =>
    RealtimeRoutingService.normalizeIdentifier (receiver.get "id")
  .ok identifiers.reduceOption

/-- `resolved.get(receiver_id) if receiver_id is not None else None`. -/
def resolvedFor {α : Type} (resolved : List (Nat × α)) (receiver : EventData) :
    Except IntError (Option α) := do
  let receiverId ← RealtimeRoutingService.normalizeIdentifier (receiver.get "id")
  .ok (receiverId.bind fun receiverId =>
    (resolved.find? fun item => item.1 = receiverId).map Prod.snd)

def keyed {κ : Type} (key : EventData → Except IntError (Option κ)) (receiver : EventValue) :
    Except IntError (Option (κ × EventValue)) :=
  match asMapping receiver with
  | none => .ok none
  | some items => do
    let scope ← key items
    .ok (scope.map fun scope => (scope, receiver))

/-- The partitions of the receivers under their keys; a receiver without a key is left out. -/
def partition {κ : Type} [DecidableEq κ] (key : EventData → Except IntError (Option κ))
    (receivers : List EventValue) : Except IntError (List (κ × List (κ × EventValue))) := do
  let keyedReceivers ← receivers.mapM (keyed key)
  .ok (groupBy Prod.fst keyedReceivers.reduceOption)

/-- The tenant a receiver names, else that of its chassis. -/
def tenantKey (resolvedScopes : List (Nat × TenantScope)) (receiver : EventData) :
    Except IntError (Option TenantScope) := do
  match ← RealtimeRoutingService.scopeFromMapping receiver with
  | some scope => .ok (some scope)
  | none => resolvedFor resolvedScopes receiver

/-- The site a receiver names, else that of its chassis. -/
def siteKey (resolvedSites : List (Nat × Nat)) (receiver : EventData) :
    Except IntError (Option Nat) := do
  match ← RealtimeRoutingService.normalizeIdentifier (receiver.get "site_id") with
  | some siteId => .ok (some siteId)
  | none => resolvedFor resolvedSites receiver

/-- `dict(data)` with other receivers. -/
def scopedData (data : EventData) (receivers : List EventValue) : EventValue :=
  .mapping (data.set "receivers" (.list receivers))

/-- Partition serialized chassis data before routing it to tenants. -/
def broadcastPartitionedDeviceData (settings : RealtimeSettings) (table : PlacementTable)
    (data : EventData) : Except IntError (List GroupSend) :=
  match data.get "receivers" with
  | .list receivers => do
    let ids ← receiverIds receivers
    let partitions ←
      partition (tenantKey (RealtimeRoutingService.chassisTenantScopes table ids)) receivers
    .ok (partitions.flatMap fun (scope, scopedReceivers) =>
      sendForScope settings (deviceUpdate (scopedData data (scopedReceivers.map Prod.snd)))
        (some scope.1) scope.2 none)
  | _ => .ok []

/-- Partition serialized chassis data before routing it by Django Site. -/
def broadcastPartitionedSiteData (settings : RealtimeSettings) (table : PlacementTable)
    (data : EventData) : Except IntError (List GroupSend) :=
  match data.get "receivers" with
  | .list receivers => do
    let ids ← receiverIds receivers
    let partitions ← partition (siteKey (RealtimeRoutingService.chassisSiteIds table ids)) receivers
    .ok (partitions.flatMap fun (siteId, scopedReceivers) =>
      sendForScope settings (deviceUpdate (scopedData data (scopedReceivers.map Prod.snd)))
        none none (some siteId))
  | _ => .ok []

/-- Route one non-MSP device payload within Django Site boundaries. -/
def broadcastMultisiteDeviceUpdate (settings : RealtimeSettings) (table : PlacementTable)
    (data : EventValue) (chassisId siteId : Option Nat) : Except IntError (List GroupSend) := do
  let fromChassis := chassisId.bind fun chassisId =>
    ((RealtimeRoutingService.chassisSiteIds table [chassisId]).find? fun item =>
      item.1 = chassisId).map Prod.snd
  let resolvedSiteId ←
    match siteId.orElse fun _ => fromChassis, asMapping data with
    | some siteId, _ => .ok (some siteId)
    | none, some items => RealtimeRoutingService.normalizeIdentifier (items.get "site_id")
    | none, none => .ok none
  match resolvedSiteId, asMapping data with
  | some siteId, _ => .ok (sendForScope settings (deviceUpdate data) none none (some siteId))
  | none, some items => broadcastPartitionedSiteData settings table items
  | none, none => .ok []

/-- Broadcast polled device data to authorized clients. -/
def broadcastDeviceUpdate (settings : RealtimeSettings) (table : PlacementTable) (data : EventValue)
    (organizationId campusId chassisId siteId : Option Nat) : Except IntError (List GroupSend) :=
  if !(settings.mspEnabled || settings.multiSiteMode) then
    .ok (sendForScope settings (deviceUpdate data) none none none)
  else if !settings.mspEnabled then
    broadcastMultisiteDeviceUpdate settings table data chassisId siteId
  else do
    let scope : Option TenantScope ←
      match organizationId, chassisId with
      | some organizationId, _ => .ok (some (organizationId, campusId))
      | none, some chassisId =>
        .ok (((RealtimeRoutingService.chassisTenantScopes table [chassisId]).find? fun item =>
          item.1 = chassisId).map Prod.snd)
      | none, none =>
        match asMapping data with
        | some items => RealtimeRoutingService.scopeFromMapping items
        | none => .ok none
    match scope, asMapping data with
    | some scope, _ => .ok (sendForScope settings (deviceUpdate data) (some scope.1) scope.2 none)
    | none, some items => broadcastPartitionedDeviceData settings table items
    | none, none => .ok []

end BroadcastService

/-! ### Who owns a receiver row, and who is sent it -/

/-- The tenant of the building a chassis stands in. -/
def PlacementTable.scopeOf (table : PlacementTable) (pk : Nat) : Option TenantScope := do
  let row ← table.rows.find? fun row => row.pk = pk
  row.organizationId.map fun organizationId => (organizationId, row.campusId)

/-- The positive integer that a value names, if it names one. -/
def validIdentifier (value : EventValue) : Option Nat :=
  match RealtimeRoutingService.normalizeIdentifier value with
  | .ok identifier => identifier
  | .error _ => none

/-- The owner of a receiver row: the organization and campus it names when the organization is valid,
and the building of its chassis otherwise. -/
def receiverOwner (table : PlacementTable) (receiver : EventValue) : Option TenantScope := do
  let items ← BroadcastService.asMapping receiver
  match validIdentifier (items.get "organization_id") with
  | some organizationId => some (organizationId, validIdentifier (items.get "campus_id"))
  | none => (validIdentifier (items.get "id")).bind table.scopeOf

/-- A value that is read of a receiver row is an infinite number: its identifier, its organization,
or its campus beside a valid organization. -/
def Overflows (receiver : EventValue) : Prop :=
  ∃ items, BroadcastService.asMapping receiver = some items ∧
    (items.get "id" = .infinite ∨ items.get "organization_id" = .infinite ∨
      (∃ organizationId, validIdentifier (items.get "organization_id") = some organizationId) ∧
        items.get "campus_id" = .infinite)

/-- The receiver rows an event carries. -/
def EventData.receivers (event : EventData) : List EventValue :=
  match BroadcastService.asMapping (event.get "data") with
  | some data =>
    match data.get "receivers" with
    | .list receivers => receivers
    | _ => []
  | none => []

/-- All receiver rows sent to a group, message by message. -/
def deliveredTo (sends : List GroupSend) (groupName : String) : List EventValue :=
  (sends.filter fun send => send.1 = groupName).flatMap fun send => send.2.receivers

section Delivered

variable {settings : RealtimeSettings} {table : PlacementTable}

theorem receivers_deviceUpdate (data : EventData) (receivers : List EventValue) :
    (deviceUpdate (BroadcastService.scopedData data receivers)).receivers = receivers := by
  have hdata : (deviceUpdate (BroadcastService.scopedData data receivers)).get "data" =
      BroadcastService.scopedData data receivers := rfl
  rw [EventData.receivers, hdata, BroadcastService.scopedData, BroadcastService.asMapping]
  dsimp only
  rw [get_set]

theorem deliveredTo_append (first second : List GroupSend) (groupName : String) :
    deliveredTo (first ++ second) groupName =
      deliveredTo first groupName ++ deliveredTo second groupName := by
  simp [deliveredTo]

theorem deliveredTo_flatMap {α : Type} (parts : List α) (sends : α → List GroupSend)
    (groupName : String) : deliveredTo (parts.flatMap sends) groupName =
      parts.flatMap fun part => deliveredTo (sends part) groupName := by
  induction parts with
  | nil => rfl
  | cons part parts ih => rw [List.flatMap_cons, deliveredTo_append, ih, List.flatMap_cons]

theorem mem_chassisTenantScopes {ids : List Nat} {item : Nat × TenantScope} :
    item ∈ RealtimeRoutingService.chassisTenantScopes table ids ↔
      item.1 ∈ ids ∧ table.scopeOf item.1 = some item.2 := by
  rw [RealtimeRoutingService.chassisTenantScopes, List.mem_filterMap]
  constructor
  · rintro ⟨row, hrow, hitem⟩
    obtain ⟨hmem, hids⟩ := List.mem_filter.mp hrow
    obtain ⟨organizationId, horganization, rfl⟩ := Option.map_eq_some_iff.mp hitem
    have hfind : table.rows.find? (fun other => other.pk = row.pk) = some row :=
      table.unique.find?_eq_some.mpr ⟨hmem, rfl⟩
    refine ⟨of_decide_eq_true hids, ?_⟩
    simp [PlacementTable.scopeOf, hfind, horganization]
  · rintro ⟨hids, hscope⟩
    obtain ⟨row, hfind, hrow⟩ := Option.bind_eq_some_iff.mp hscope
    obtain ⟨hmem, hpk⟩ := table.unique.find?_eq_some.mp hfind
    refine ⟨row, List.mem_filter.mpr ⟨hmem, by simpa [hpk] using hids⟩, ?_⟩
    obtain ⟨organizationId, horganization, heq⟩ := Option.map_eq_some_iff.mp hrow
    rw [horganization, Option.map_some, hpk, heq]

/-- The bulk lookup finds the building of every receiver that has an identifier. -/
theorem find?_chassisTenantScopes {ids : List Nat} {pk : Nat} (hpk : pk ∈ ids) :
    ((RealtimeRoutingService.chassisTenantScopes table ids).find? fun item => item.1 = pk).map
      Prod.snd = table.scopeOf pk := by
  cases hfind : (RealtimeRoutingService.chassisTenantScopes table ids).find? fun item =>
      item.1 = pk with
  | none =>
      cases hscope : table.scopeOf pk with
      | none => rfl
      | some scope =>
          have hmem : (pk, scope) ∈ RealtimeRoutingService.chassisTenantScopes table ids :=
            mem_chassisTenantScopes.mpr ⟨hpk, hscope⟩
          exact absurd (List.find?_eq_none.mp hfind _ hmem) (by simp)
  | some item =>
      have heq : item.1 = pk := by simpa using List.find?_some hfind
      have hscope := (mem_chassisTenantScopes.mp (List.mem_of_find?_eq_some hfind)).2
      rw [heq] at hscope
      rw [Option.map_some, hscope]

theorem normalizeIdentifier_eq_ok {value : EventValue} (h : value ≠ .infinite) :
    RealtimeRoutingService.normalizeIdentifier value = .ok (validIdentifier value) := by
  cases value with
  | infinite => exact absurd rfl h
  | text value =>
      rw [validIdentifier, RealtimeRoutingService.normalizeIdentifier, EventValue.toInt]
      cases parseInt value <;> rfl
  | none | bool | int | float | list | mapping | other => rfl

theorem ne_infinite_of_ok {value : EventValue} {identifier : Option Nat}
    (h : RealtimeRoutingService.normalizeIdentifier value = .ok identifier) : value ≠ .infinite := by
  rintro rfl
  cases h

section Keyed

variable {receivers : List EventValue} {receiver : EventValue} {items : EventData} {ids : List Nat}

theorem id_of_receiverIds (h : BroadcastService.receiverIds receivers = .ok ids)
    (hmem : receiver ∈ receivers) (hitems : BroadcastService.asMapping receiver = some items) :
    items.get "id" ≠ .infinite ∧ ∀ pk, validIdentifier (items.get "id") = some pk → pk ∈ ids := by
  obtain ⟨identifiers, hread, h⟩ := bind_eq_ok.mp h
  obtain rfl := Except.ok.inj h
  obtain ⟨identifier, hidentifier, hid⟩ :=
    mem_of_mapM_eq_ok hread (List.mem_filterMap.mpr ⟨receiver, hmem, hitems⟩)
  have hfinite := ne_infinite_of_ok hid
  refine ⟨hfinite, fun pk hpk => List.reduceOption_mem_iff.mpr ?_⟩
  rw [normalizeIdentifier_eq_ok hfinite, hpk] at hid
  exact Except.ok.inj hid ▸ hidentifier

theorem keyed_tenantKey (hids : BroadcastService.receiverIds receivers = .ok ids)
    (hmem : receiver ∈ receivers) (hfinite : ¬ Overflows receiver) :
    BroadcastService.keyed
        (BroadcastService.tenantKey (RealtimeRoutingService.chassisTenantScopes table ids)) receiver =
      .ok ((receiverOwner table receiver).map fun scope => (scope, receiver)) := by
  rw [BroadcastService.keyed, receiverOwner]
  cases hitems : BroadcastService.asMapping receiver with
  | none => rfl
  | some items =>
      obtain ⟨hid, hpk⟩ := id_of_receiverIds hids hmem hitems
      have horganization : items.get "organization_id" ≠ .infinite := fun h =>
        hfinite ⟨items, hitems, .inr (.inl h)⟩
      simp only [BroadcastService.tenantKey, RealtimeRoutingService.scopeFromMapping,
        normalizeIdentifier_eq_ok horganization, Option.bind_some, Option.bind_eq_bind]
      cases howner : validIdentifier (items.get "organization_id") with
      | some organizationId =>
          have hcampus : items.get "campus_id" ≠ .infinite := fun h =>
            hfinite ⟨items, hitems, .inr (.inr ⟨⟨organizationId, howner⟩, h⟩)⟩
          simp only [normalizeIdentifier_eq_ok hcampus]
          rfl
      | none =>
          simp only [BroadcastService.resolvedFor, normalizeIdentifier_eq_ok hid]
          cases hvalid : validIdentifier (items.get "id") with
          | none => rfl
          | some pk =>
              have hfind := @find?_chassisTenantScopes table ids pk (hpk pk hvalid)
              exact congrArg
                (fun scope => Except.ok (Option.map (fun scope => (scope, receiver)) scope))
                hfind

/-- A row that is keyed without an error has no infinite value. -/
theorem not_overflows_of_keyed (hids : BroadcastService.receiverIds receivers = .ok ids)
    (hmem : receiver ∈ receivers) {scopes : List (Nat × TenantScope)}
    {row : Option (TenantScope × EventValue)}
    (h : BroadcastService.keyed (BroadcastService.tenantKey scopes) receiver = .ok row) :
    ¬ Overflows receiver := by
  rintro ⟨items, hitems, hinfinite⟩
  obtain ⟨hid, -⟩ := id_of_receiverIds hids hmem hitems
  rw [BroadcastService.keyed, hitems] at h
  obtain ⟨scope, hscope, -⟩ := bind_eq_ok.mp h
  obtain ⟨named, hnamed, -⟩ := bind_eq_ok.mp hscope
  obtain ⟨organizationId, horganization, hnamed⟩ := bind_eq_ok.mp hnamed
  have hfinite := ne_infinite_of_ok horganization
  rcases hinfinite with hinfinite | hinfinite | ⟨⟨owner, howner⟩, hinfinite⟩
  · exact hid hinfinite
  · exact hfinite hinfinite
  · rw [normalizeIdentifier_eq_ok hfinite, howner] at horganization
    obtain rfl := Except.ok.inj horganization
    obtain ⟨campusId, hcampus, -⟩ := bind_eq_ok.mp hnamed
    exact ne_infinite_of_ok hcampus hinfinite

end Keyed

/-- The receivers that have an owner, with their owners. -/
def owned (table : PlacementTable) (receivers : List EventValue) :
    List (TenantScope × EventValue) :=
  receivers.filterMap fun receiver =>
    (receiverOwner table receiver).map fun scope => (scope, receiver)

theorem map_snd_owned (receivers : List EventValue) (p : TenantScope → Bool) :
    ((owned table receivers).filter fun pair => p pair.1).map Prod.snd =
      receivers.filter fun receiver => (receiverOwner table receiver).any p := by
  induction receivers with
  | nil => rfl
  | cons receiver receivers ih =>
      rw [owned] at ih ⊢
      cases howner : receiverOwner table receiver with
      | none => simp [howner, ih]
      | some scope =>
          cases hp : p scope with
          | true => simp [howner, hp, ih]
          | false => simp [howner, hp, ih]

theorem flatMap_ite {α β : Type} (p : α → Bool) (f : α → List β) (values : List α) :
    (values.flatMap fun value => if p value then f value else []) =
      (values.filter p).flatMap f := by
  induction values with
  | nil => rfl
  | cons value values ih =>
      cases hp : p value with
      | true => simp [hp, ih]
      | false => simp [hp, ih]

def TenantScope.groups (scope : TenantScope) : List String :=
  organizationUpdatesGroup scope.1 :: (scope.2.map (campusUpdatesGroup scope.1)).toList

theorem mem_groups {scope : TenantScope} {groupName : String} :
    groupName ∈ scope.groups ↔ groupName = organizationUpdatesGroup scope.1 ∨
      ∃ campusId, scope.2 = some campusId ∧ groupName = campusUpdatesGroup scope.1 campusId := by
  obtain ⟨organizationId, campusId⟩ := scope
  cases campusId with
  | none => simp [TenantScope.groups]
  | some campusId => simp [TenantScope.groups]

theorem organization_mem_groups {scope : TenantScope} {organizationId : Nat} :
    organizationUpdatesGroup organizationId ∈ scope.groups ↔ scope.1 = organizationId := by
  rw [mem_groups]
  constructor
  · rintro (h | ⟨campusId, -, h⟩)
    · exact (organizationUpdatesGroup_injective h).symm
    · exact absurd h.symm (campusUpdatesGroup_ne _ _ _)
  · rintro rfl
    exact .inl rfl

theorem campus_mem_groups {scope : TenantScope} {organizationId campusId : Nat} :
    campusUpdatesGroup organizationId campusId ∈ scope.groups ↔
      scope = (organizationId, some campusId) := by
  rw [mem_groups]
  constructor
  · rintro (h | ⟨campus, hcampus, h⟩)
    · exact absurd h (campusUpdatesGroup_ne _ _ _)
    · obtain ⟨rfl, rfl⟩ := campusUpdatesGroup_injective h
      exact Prod.ext rfl hcampus
  · rintro rfl
    exact .inr ⟨campusId, rfl, rfl⟩

theorem sendForScope_tenant (hmsp : settings.mspEnabled = true) (event : EventData)
    (scope : TenantScope) :
    BroadcastService.sendForScope settings event (some scope.1) scope.2 none =
      scope.groups.map fun groupName => (groupName, event) := by
  obtain ⟨organizationId, campusId⟩ := scope
  have hne : ∀ campusId, campusUpdatesGroup organizationId campusId ≠
      organizationUpdatesGroup organizationId := fun campusId => campusUpdatesGroup_ne _ _ _
  cases campusId with
  | none =>
      simp [BroadcastService.sendForScope, BroadcastService.sendToGroups,
        RealtimeRoutingService.groupsForScope, hmsp, TenantScope.groups, List.eraseDups_cons]
  | some campusId =>
      simp [BroadcastService.sendForScope, BroadcastService.sendToGroups,
        RealtimeRoutingService.groupsForScope, hmsp, TenantScope.groups, List.eraseDups_cons, hne]

theorem deliveredTo_tenant (hmsp : settings.mspEnabled = true) (event : EventData)
    (scope : TenantScope) (groupName : String) :
    deliveredTo (BroadcastService.sendForScope settings event (some scope.1) scope.2 none)
      groupName = if groupName ∈ scope.groups then event.receivers else [] := by
  rw [sendForScope_tenant hmsp]
  obtain ⟨organizationId, campusId⟩ := scope
  have hne : ∀ campusId, campusUpdatesGroup organizationId campusId ≠
      organizationUpdatesGroup organizationId := fun campusId => campusUpdatesGroup_ne _ _ _
  cases campusId with
  | none =>
      by_cases h : organizationUpdatesGroup organizationId = groupName
      · simp [deliveredTo, TenantScope.groups, h]
      · simp [deliveredTo, TenantScope.groups, h, Ne.symm h]
  | some campusId =>
      by_cases horganization : organizationUpdatesGroup organizationId = groupName
      · subst horganization
        simp [deliveredTo, TenantScope.groups, hne]
      · by_cases hcampus : campusUpdatesGroup organizationId campusId = groupName
        · simp [deliveredTo, TenantScope.groups, horganization, hcampus]
        · simp [deliveredTo, TenantScope.groups, horganization, hcampus, Ne.symm horganization,
            Ne.symm hcampus]

def ownerSends (settings : RealtimeSettings) (table : PlacementTable) (data : EventData)
    (receivers : List EventValue) : List GroupSend :=
  (groupBy Prod.fst (owned table receivers)).flatMap fun (scope, scopedReceivers) =>
    BroadcastService.sendForScope settings
      (deviceUpdate (BroadcastService.scopedData data (scopedReceivers.map Prod.snd)))
      (some scope.1) scope.2 none

/-- A partitioned broadcast sends to the owners exactly when no row has an infinite value, and raises
otherwise. -/
theorem broadcastPartitioned_eq_ok_iff {data : EventData} {receivers : List EventValue}
    (hreceivers : data.get "receivers" = .list receivers) {sends : List GroupSend} :
    BroadcastService.broadcastPartitionedDeviceData settings table data = .ok sends ↔
      (∀ receiver ∈ receivers, ¬ Overflows receiver) ∧
        sends = ownerSends settings table data receivers := by
  simp only [BroadcastService.broadcastPartitionedDeviceData, hreceivers]
  have howned : ∀ ids, BroadcastService.receiverIds receivers = .ok ids →
      (∀ receiver ∈ receivers, ¬ Overflows receiver) →
      BroadcastService.partition (BroadcastService.tenantKey
        (RealtimeRoutingService.chassisTenantScopes table ids)) receivers =
          .ok (groupBy Prod.fst (owned table receivers)) := by
    intro ids hids hfinite
    rw [BroadcastService.partition, mapM_eq_ok_map fun receiver hmem =>
      keyed_tenantKey hids hmem (hfinite receiver hmem)]
    show Except.ok (groupBy Prod.fst (List.reduceOption _)) = _
    rw [List.reduceOption, List.filterMap_map]
    rfl
  constructor
  · intro h
    obtain ⟨ids, hids, h⟩ := bind_eq_ok.mp h
    obtain ⟨partitions, hpartitions, h⟩ := bind_eq_ok.mp h
    have hfinite : ∀ receiver ∈ receivers, ¬ Overflows receiver := by
      intro receiver hmem
      obtain ⟨rows, hrows, -⟩ := bind_eq_ok.mp hpartitions
      obtain ⟨row, -, hrow⟩ := mem_of_mapM_eq_ok hrows hmem
      exact not_overflows_of_keyed hids hmem hrow
    rw [howned ids hids hfinite] at hpartitions
    obtain rfl := Except.ok.inj hpartitions
    exact ⟨hfinite, (Except.ok.inj h).symm⟩
  · rintro ⟨hfinite, rfl⟩
    have hids : ∃ ids, BroadcastService.receiverIds receivers = .ok ids := by
      rw [BroadcastService.receiverIds, mapM_eq_ok_map (g := fun items =>
        validIdentifier (EventData.get items "id"))]
      · exact ⟨_, rfl⟩
      · intro items hmem
        obtain ⟨receiver, hreceiver, hitems⟩ := List.mem_filterMap.mp hmem
        exact normalizeIdentifier_eq_ok fun h =>
          hfinite receiver hreceiver ⟨items, hitems, .inl h⟩
    obtain ⟨ids, hids⟩ := hids
    rw [hids]
    show (BroadcastService.partition _ receivers >>= _) = _
    rw [howned ids hids hfinite]
    rfl

theorem deliveredTo_ownerSends (hmsp : settings.mspEnabled = true) (data : EventData)
    (receivers : List EventValue) (groupName : String) :
    (deliveredTo (ownerSends settings table data receivers) groupName).Perm
      (receivers.filter fun receiver =>
        (receiverOwner table receiver).any fun scope => groupName ∈ scope.groups) := by
  obtain ⟨scopes, hscopes, hcovered, hgroups⟩ :=
    exists_groupBy_keys Prod.fst (owned table receivers)
  rw [ownerSends, deliveredTo_flatMap, hgroups, List.flatMap_map]
  simp only [deliveredTo_tenant hmsp, receivers_deviceUpdate]
  -- Only the partitions of the tenants that the group belongs to contribute.
  have hcollected := (flatMap_group_perm Prod.fst
    (hscopes.filter fun scope => groupName ∈ scope.groups) (owned table receivers)).trans
      (List.Perm.of_eq (List.filter_congr fun pair hpair =>
        (by simp [List.mem_filter, hcovered pair hpair] :
          _ = decide (groupName ∈ pair.1.groups))))
  have hreceived := hcollected.map Prod.snd
  rw [map_snd_owned _ fun scope => groupName ∈ scope.groups, List.map_flatMap,
    ← flatMap_ite] at hreceived
  simp only [decide_eq_true_eq] at hreceived
  exact hreceived

/-- Tenant isolation and completeness of the sends of a snapshot: every receiver row with an owner
is sent exactly once to the group of its organization and, when its campus is known, exactly once to
the group of that campus, and whatever a group is sent belongs to its own tenant. -/
structure DeliveredByOwner (table : PlacementTable) (receivers : List EventValue)
    (sends : List GroupSend) : Prop where
  organization : ∀ organizationId,
    (deliveredTo sends (organizationUpdatesGroup organizationId)).Perm
      (receivers.filter fun receiver =>
        (receiverOwner table receiver).any fun scope => scope.1 = organizationId)
  campus : ∀ organizationId campusId,
    (deliveredTo sends (campusUpdatesGroup organizationId campusId)).Perm
      (receivers.filter fun receiver =>
        receiverOwner table receiver = some (organizationId, some campusId))
  isolated : ∀ groupName, ∀ receiver ∈ deliveredTo sends groupName, ∃ organizationId campusId,
    receiverOwner table receiver = some (organizationId, campusId) ∧
      (groupName = organizationUpdatesGroup organizationId ∨
        ∃ campus, campusId = some campus ∧ groupName = campusUpdatesGroup organizationId campus)

theorem deliveredByOwner_ownerSends (hmsp : settings.mspEnabled = true) (data : EventData)
    (receivers : List EventValue) :
    DeliveredByOwner table receivers (ownerSends settings table data receivers) := by
  have hdelivered := @deliveredTo_ownerSends settings table hmsp data receivers
  refine ⟨fun organizationId => ?_, fun organizationId campusId => ?_, fun groupName receiver hmem =>
    ?_⟩
  · refine (hdelivered _).trans (List.Perm.of_eq (List.filter_congr fun receiver _ => ?_))
    congr 1
    funext scope
    rw [decide_eq_decide, organization_mem_groups]
  · refine (hdelivered _).trans (List.Perm.of_eq (List.filter_congr fun receiver _ => ?_))
    cases receiverOwner table receiver with
    | none => rfl
    | some scope => simp [campus_mem_groups]
  · obtain ⟨-, howner⟩ := List.mem_filter.mp ((hdelivered groupName).mem_iff.mp hmem)
    cases hscope : receiverOwner table receiver with
    | none =>
        rw [hscope] at howner
        cases howner
    | some scope =>
        rw [hscope] at howner
        refine ⟨scope.1, scope.2, rfl, ?_⟩
        exact mem_groups.mp (of_decide_eq_true howner)

/-- Nothing that is sent is what is due exactly when no row has an owner. -/
theorem deliveredByOwner_nil_iff {receivers : List EventValue} :
    DeliveredByOwner table receivers [] ↔
      ∀ receiver ∈ receivers, receiverOwner table receiver = none := by
  constructor
  · intro h receiver hmem
    cases howner : receiverOwner table receiver with
    | none => rfl
    | some scope =>
        have hnone := (h.organization scope.1).nil_eq
        have hdue : receiver ∈ receivers.filter fun receiver =>
            (receiverOwner table receiver).any fun owner => owner.1 = scope.1 :=
          List.mem_filter.mpr ⟨hmem, by simp [howner]⟩
        rw [← hnone] at hdue
        cases hdue
  · intro hnone
    refine ⟨fun organizationId => ?_, fun organizationId campusId => ?_, fun _ _ hmem => ?_⟩
    · rw [List.filter_eq_nil_iff.mpr fun receiver hmem => by simp [hnone receiver hmem]]
      exact .nil
    · rw [List.filter_eq_nil_iff.mpr fun receiver hmem => by simp [hnone receiver hmem]]
      exact .nil
    · cases hmem

/-- What a broadcast has sent: nothing where it raises. -/
def sentBy (broadcast : Except IntError (List GroupSend)) : List GroupSend :=
  broadcast.toOption.getD []

/-- **A snapshot broadcast in multi-tenant mode reaches the owners of its rows, and no other group,
exactly when no value that is read of a row is an infinite number or no row has an owner.** -/
theorem receiver_broadcast_isolated_iff (hmsp : settings.mspEnabled = true) (data : EventData)
    (receivers : List EventValue) (hreceivers : data.get "receivers" = .list receivers)
    (hscope : RealtimeRoutingService.normalizeIdentifier (data.get "organization_id") = .ok none)
    (campusId siteId : Option Nat) :
    DeliveredByOwner table receivers (sentBy (BroadcastService.broadcastDeviceUpdate settings table
        (.mapping data) none campusId none siteId)) ↔
      (∀ receiver ∈ receivers, ¬ Overflows receiver) ∨
        ∀ receiver ∈ receivers, receiverOwner table receiver = none := by
  have hpartitioned : BroadcastService.broadcastDeviceUpdate settings table (.mapping data) none
      campusId none siteId =
        BroadcastService.broadcastPartitionedDeviceData settings table data := by
    simp only [BroadcastService.broadcastDeviceUpdate, hmsp, BroadcastService.asMapping,
      RealtimeRoutingService.scopeFromMapping, hscope]
    rfl
  rw [hpartitioned]
  cases hsends : BroadcastService.broadcastPartitionedDeviceData settings table data with
  | ok sends =>
      obtain ⟨hfinite, rfl⟩ := (broadcastPartitioned_eq_ok_iff hreceivers).mp hsends
      exact iff_of_true (deliveredByOwner_ownerSends hmsp data receivers) (.inl hfinite)
  | error e =>
      refine deliveredByOwner_nil_iff.trans (or_iff_right fun hfinite => ?_).symm
      cases hsends.symm.trans ((broadcastPartitioned_eq_ok_iff hreceivers).mpr ⟨hfinite, rfl⟩)

end Delivered

/-- Two buildings: the first of organization 10, the second of campus 30 in organization 20. -/
def twoBuildings : PlacementTable where
  rows := [⟨1, some 10, none, none⟩, ⟨2, some 20, some 30, none⟩]
  unique := by decide

/-- One receiver in each building and one that no building places. -/
def threeReceivers : List EventValue :=
  [.mapping [("id", .int 1)], .mapping [("id", .int 2)], .mapping [("id", .int 3)]]

theorem receiver_broadcast_isolated_iff_twoBuildings :
    DeliveredByOwner twoBuildings threeReceivers (sentBy (BroadcastService.broadcastDeviceUpdate
      ⟨true, false, none⟩ twoBuildings (.mapping [("receivers", .list threeReceivers)]) none none none
      none)) := by
  refine (receiver_broadcast_isolated_iff rfl _ threeReceivers rfl rfl none none).mpr (.inl ?_)
  rintro receiver hmem ⟨items, hitems, hinfinite⟩
  simp only [threeReceivers, List.mem_cons, List.not_mem_nil, or_false] at hmem
  obtain rfl | rfl | rfl := hmem <;> obtain rfl := Option.some.inj hitems <;>
    simp [EventData.get] at hinfinite

/-- A receiver of each building, the second with an identifier that is no finite number. -/
def infiniteReceivers : List EventValue :=
  [.mapping [("id", .int 1)], .mapping [("id", .infinite), ("organization_id", .int 20)]]

/-- One row with an infinite number keeps the snapshot from everyone. -/
theorem infinite_identifier_silences :
    BroadcastService.broadcastDeviceUpdate ⟨true, false, none⟩ twoBuildings
      (.mapping [("receivers", .list infiniteReceivers)]) none none none none =
        .error .overflowError ∧
    ¬ DeliveredByOwner twoBuildings infiniteReceivers (sentBy (BroadcastService.broadcastDeviceUpdate
      ⟨true, false, none⟩ twoBuildings (.mapping [("receivers", .list infiniteReceivers)]) none none
      none none)) := by
  have hraised : BroadcastService.broadcastDeviceUpdate ⟨true, false, none⟩ twoBuildings
      (.mapping [("receivers", .list infiniteReceivers)]) none none none none =
        .error .overflowError := rfl
  refine ⟨hraised, fun h => ?_⟩
  rw [hraised] at h
  cases deliveredByOwner_nil_iff.mp h _ (List.mem_cons_self : EventValue.mapping [("id", .int 1)] ∈ _)

end Micboard
