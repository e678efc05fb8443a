import Micboard.LibraryFraming
import Micboard.RealtimeRouting

/-! The bounded poll of a manufacturer's chargers. One poll reads a page of the vendor's inventory
behind a cached cursor, reads the channels of its stations and either publishes the stations of a
complete cycle or keeps them in the cursor for the next page. The cursor is bound to a fingerprint
of the inventory. A cursor that expired or cannot be read counts as none; the upper bounds of the
limits are those of the host settings and play no part here. -/

namespace Micboard

open Library.Text Library.Sha256 Library.Framing

/-- What a plugin returns for a collection of rows: a sequence, another iterable, or neither. A row
that is not a mapping is nothing. -/
inductive VendorRows (α : Type*) where
  | sequence (rows : List (Option α))
  | iterable (rows : List (Option α))
  | other

/-- The fields of an inventory row; one that is missing is `None`. -/
structure ChargerDevice where
  apiDeviceId : EventValue := .none
  model : EventValue := .none
  deviceType : EventValue := .none
  name : EventValue := .none

/-- The `tx` mapping of a channel, with the truth value of its charging status. -/
structure ChargerTransmitter where
  name : EventValue
  batteryPercentage : EventValue
  chargingStatus : Bool

structure ChargerChannel where
  channel : EventValue
  tx : Option ChargerTransmitter

/-- The vendor at one poll. Reading the devices or the channels of one may raise; a health check
that raises is one that is not healthy. -/
structure ChargerPlugin where
  devices : Option (VendorRows ChargerDevice)
  channels : String → Option (VendorRows ChargerChannel)
  healthy : Bool

structure ChargerPollingLimits where
  maxDevices : Nat
  maxStations : Nat
  maxSlots : Nat
  positive : 0 < maxDevices ∧ 0 < maxStations ∧ 0 < maxSlots := by decide

structure ChargerSlotSnapshot where
  slotNumber : Int
  micName : String
  batteryLevel : Int
  charging : Bool
  deriving DecidableEq, Repr

inductive ChargerStatus where
  | online | offline
  deriving DecidableEq, Repr

structure ChargerStationSnapshot where
  id : String
  name : String
  status : ChargerStatus
  slots : List ChargerSlotSnapshot
  deriving DecidableEq, Repr

/-- One deterministic bounded page from a vendor inventory. -/
structure ChargerInventoryPage where
  items : List ChargerDevice
  startOffset : Nat
  nextOffset : Nat
  inventorySize : Option Nat := none
  inventoryFingerprint : Option (List Nat) := none
  inventoryTruncated : Bool
  cycleComplete : Bool

/-- Cache-safe continuation state for a partial charger inventory cycle. -/
structure ChargerPollingCursor where
  nextOffset : Nat := 0
  inventorySize : Nat := 0
  inventoryFingerprint : Option (List Nat) := none
  stations : List ChargerStationSnapshot := []
  stationsTruncated : Bool := false
  slotsTruncated : Bool := false
  cycleFailed : Bool := false
  deriving DecidableEq, Repr

structure ChargerPollResult where
  scannedCount : Nat
  cachedCount : Nat
  failedCount : Nat
  inventoryTruncated : Bool
  stationsTruncated : Bool
  slotsTruncated : Bool
  deriving DecidableEq, Repr

/-- What a poll has gathered so far. -/
structure ChargerPollProgress where
  accumulated : List ChargerStationSnapshot
  stationsTruncated : Bool
  failedCount : Nat := 0
  slotsTruncated : Bool
  cycleFailed : Bool
  deriving DecidableEq, Repr

/-- The cached cursor and the snapshots that were published, the last one at the end. -/
structure ChargerPollingState where
  cursor : Option ChargerPollingCursor := none
  published : List (List ChargerStationSnapshot) := []
  deriving DecidableEq, Repr

/-- One poll with the vendor, the limits and the availability of the cache that it meets. -/
structure ChargerPollCall where
  plugin : ChargerPlugin
  limits : ChargerPollingLimits
  cacheReads : Bool := true
  cacheWrites : Bool := true

def hardMaxChargerInventorySize : Nat := 5000

def chargingStationModels : List String := ["SBC250", "SBC850", "MXWNCS8", "MXWNCS4", "SBC220"]

namespace ChargerPollingService

variable (isPrintable : Char → Bool)

def boundedText (value : EventValue) (maximum : Nat) : String :=
  match value with
  | .text text => strip (String.ofList ((text.toList.take maximum).filter isPrintable))
  | _ => ""

def boundedInteger (value : EventValue) (minimum maximum : Int) : Int :=
  match value with
  | .bool _ => minimum
  | value =>
    match value.toInt with
    | .ok parsed => min (max parsed minimum) maximum
    | .error _ => minimum

/-- At most `limit` mappings, and whether more rows follow. -/
def boundedItems {α : Type*} (value : VendorRows α) (limit : Nat) : List α × Bool :=
  match value with
  | .sequence rows | .iterable rows =>
    let bounded := rows.take (limit + 1)
    ((bounded.take limit).reduceOption, limit < bounded.length)
  | .other => ([], false)

def slotSnapshot (channel : ChargerChannel) : Option ChargerSlotSnapshot :=
  channel.tx.map fun tx => {
    slotNumber := boundedInteger channel.channel 0 1024
    micName :=
      let name := boundedText isPrintable tx.name 200
      if name = "" then "Unknown Mic" else name
    batteryLevel := boundedInteger tx.batteryPercentage 0 100
    charging := tx.chargingStatus }

/-- The slots of a station, whether there are more, and whether reading them failed. -/
def stationSlots (plugin : ChargerPlugin) (deviceId : String) (limit : Nat) :
    List ChargerSlotSnapshot × Bool × Bool :=
  match plugin.channels deviceId with
  | none => ([], false, true)
  | some channels =>
    let (rawChannels, truncated) := boundedItems channels limit
    (rawChannels.filterMap (slotSnapshot isPrintable), truncated, false)

def isStation (device : ChargerDevice) : Bool :=
  let hasId : Bool := match device.apiDeviceId with
    | .text deviceId => deviceId ≠ ""
    | _ => false
  hasId && (chargingStationModels.contains (boundedText isPrintable device.model 255) ||
    chargingStationModels.contains (boundedText isPrintable device.deviceType 255))

/-- The mark of a row and its bounded identity fields. -/
def identityOf : Option ChargerDevice → Nat × String × String × String
  | some device => (77, boundedText isPrintable device.apiDeviceId 255,
      boundedText isPrintable device.model 255, boundedText isPrintable device.deviceType 255)
  | none => (88, boundedText isPrintable .none 255, boundedText isPrintable .none 255,
      boundedText isPrintable .none 255)

/-- The bytes of a row: a zero, its mark, and each field behind its length. -/
def identityBytes : Nat × String × String × String → List Nat
  | (mark, apiDeviceId, model, deviceType) =>
    [0, mark] ++ (framed 2 (encode apiDeviceId) ++ (framed 2 (encode model) ++
      framed 2 (encode deviceType)))

def inventoryBytes (items : List (Option ChargerDevice)) : List Nat :=
  encode (String.ofList (decimal items.length)) ++
    items.flatMap fun item => identityBytes (identityOf isPrintable item)

/-- Hash bounded identity fields so a cursor cannot cross inventory versions. -/
def inventoryFingerprint (items : List (Option ChargerDevice)) : List Nat :=
  sha256 (inventoryBytes isPrintable items)

def inventoryItems (items : List (Option ChargerDevice)) (limit : Nat) : List ChargerDevice :=
  (items.take limit).reduceOption

/-- A page behind an offset, as long as the inventory is the expected one. -/
def inventoryPage (value : VendorRows ChargerDevice) (limit startOffset : Nat)
    (expectedInventorySize : Option Nat) (expectedInventoryFingerprint : Option (List Nat)) :
    ChargerInventoryPage :=
  match value with
  | .sequence rows =>
    let total := rows.length
    if hardMaxChargerInventorySize < total then
      { items := [], startOffset := 0, nextOffset := 0, inventorySize := some total,
        inventoryTruncated := true, cycleComplete := false }
    else
      let fingerprint := inventoryFingerprint isPrintable rows
      let inventoryUnchanged : Bool := expectedInventorySize.all (· = total) &&
        expectedInventoryFingerprint.all (· = fingerprint)
      let normalizedOffset := if inventoryUnchanged && startOffset < total then startOffset else 0
      let nextOffset := min (normalizedOffset + limit) total
      let rawItems := (rows.take nextOffset).drop normalizedOffset
      { items := inventoryItems rawItems limit
        startOffset := normalizedOffset
        nextOffset := if total ≤ nextOffset then 0 else nextOffset
        inventorySize := some total
        inventoryFingerprint := some fingerprint
        inventoryTruncated := limit < total
        cycleComplete := total ≤ nextOffset }
  | value =>
    let (items, truncated) := boundedItems value limit
    { items := inventoryItems (items.map some) limit, startOffset := 0, nextOffset := 0,
      inventoryTruncated := truncated, cycleComplete := !truncated }

/-! ### Polls -/

/-- Restore unique cursor stations in deterministic order under the current limit. -/
def stationAccumulator (stations : List ChargerStationSnapshot) (limit : Nat) :
    List ChargerStationSnapshot × Bool :=
  stations.foldl (fun (accumulated, truncated) station =>
    if accumulated.any (fun other => other.id = station.id) then (accumulated, truncated)
    else if limit ≤ accumulated.length then (accumulated, true)
    else (accumulated ++ [station], truncated)) ([], false)

def currentStatus (plugin : ChargerPlugin) : ChargerStatus :=
  if plugin.healthy then .online else .offline

variable (call : ChargerPollCall) (state : ChargerPollingState)

/-- One row of a page. -/
def pollDevice (progress : ChargerPollProgress) (device : ChargerDevice) : ChargerPollProgress :=
  if !isStation isPrintable device then progress
  else
    let deviceId := boundedText isPrintable device.apiDeviceId 255
    if deviceId = "" then { progress with failedCount := progress.failedCount + 1 }
    else if progress.accumulated.any (fun station => station.id = deviceId) then progress
    -- A stable prefix of the stations is kept.
    else if call.limits.maxStations ≤ progress.accumulated.length then
      { progress with stationsTruncated := true }
    else
      let (slots, channelTruncated, channelFailed) :=
        stationSlots isPrintable call.plugin deviceId call.limits.maxSlots
      let progress := { progress with slotsTruncated := progress.slotsTruncated || channelTruncated }
      if channelFailed then
        { progress with failedCount := progress.failedCount + 1, cycleFailed := true }
      else
        let name := boundedText isPrintable device.name 200
        { progress with accumulated := progress.accumulated ++ [{
            id := deviceId
            name := if name = "" then "Charger" else name
            status := currentStatus call.plugin
            slots := slots }] }

def readCursor : ChargerPollingCursor := if call.cacheReads then state.cursor.getD {} else {}

/-- The page of a poll that the vendor's rows give. -/
def pollPage (devices : VendorRows ChargerDevice) : ChargerInventoryPage :=
  let cursor := readCursor call state
  inventoryPage isPrintable devices call.limits.maxDevices cursor.nextOffset
    (if cursor.nextOffset ≠ 0 then some cursor.inventorySize else none)
    (if cursor.nextOffset ≠ 0 then cursor.inventoryFingerprint else none)

/-- What the earlier pages of the cycle leave to a page. -/
def startProgress (page : ChargerInventoryPage) : ChargerPollProgress :=
  let cursor := readCursor call state
  let continuingCycle : Bool := page.startOffset ≠ 0
  let (accumulated, cursorRebounded) :=
    stationAccumulator (if page.startOffset = 0 then [] else cursor.stations) call.limits.maxStations
  { accumulated := accumulated
    stationsTruncated := cursorRebounded || (continuingCycle && cursor.stationsTruncated)
    slotsTruncated := continuingCycle && cursor.slotsTruncated
    cycleFailed := continuingCycle && cursor.cycleFailed }

def pollProgress (page : ChargerInventoryPage) : ChargerPollProgress :=
  page.items.foldl (pollDevice isPrintable call) (startProgress call state page)

def currentStations (progress : ChargerPollProgress) : List ChargerStationSnapshot :=
  progress.accumulated.map fun station => { station with status := currentStatus call.plugin }

/-- Publish complete station data when safe, then discard continuation state. -/
def finishCycle (progress : ChargerPollProgress) : ChargerPollingState where
  cursor := none
  published :=
    if progress.cycleFailed then state.published
    else state.published ++ [currentStations call progress]

/-- Persist only resumable pages while retaining the last public snapshot. -/
def persistContinuation (page : ChargerInventoryPage) (progress : ChargerPollProgress) :
    ChargerPollingState where
  cursor :=
    match page.inventorySize, page.inventoryFingerprint with
    | some size, some fingerprint =>
      if page.nextOffset ≠ 0 then
        some {
          nextOffset := page.nextOffset
          inventorySize := size
          inventoryFingerprint := some fingerprint
          stations := currentStations call progress
          stationsTruncated := progress.stationsTruncated
          slotsTruncated := progress.slotsTruncated
          cycleFailed := progress.cycleFailed }
      else none
    | _, _ => none
  published := state.published

/-- What a poll stores, where the cache can be written. -/
def storePage (page : ChargerInventoryPage) (progress : ChargerPollProgress) : ChargerPollingState :=
  if !call.cacheWrites then state
  else if page.cycleComplete then finishCycle call state progress
  else persistContinuation call state page progress

/-- Poll supported stations without unbounded inventory or channel work. -/
def poll : ChargerPollingState × Option ChargerPollResult :=
  match call.plugin.devices with
  | none => (state, none)
  | some devices =>
    let page := pollPage isPrintable call state devices
    let progress := pollProgress isPrintable call state page
    (storePage call state page progress, some {
      scannedCount := page.items.length
      cachedCount := (currentStations call progress).length
      failedCount := progress.failedCount
      inventoryTruncated := page.inventoryTruncated
      stationsTruncated := progress.stationsTruncated
      slotsTruncated := progress.slotsTruncated })

end ChargerPollingService

/-- The cached state before each poll of a run, from an empty cache on. -/
def chargerStateAt (isPrintable : Char → Bool) (calls : Nat → ChargerPollCall) : Nat →
    ChargerPollingState
  | 0 => {}
  | n + 1 => (ChargerPollingService.poll isPrintable (calls n) (chargerStateAt isPrintable calls n)).1

end Micboard
