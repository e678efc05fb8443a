import Micboard.DiscoveryCompleteness

/-! The full synchronization of a manufacturer submits managed, staged and scanned addresses to the
list of the vendor, and reconciliations that run later work on the same list. Both are steps on the
list here, and a run interleaves them in any order. -/

namespace Micboard

open Library Library.Address Library.Budget Library.Text

/-- A device that was discovered on the network but is not configured yet. -/
structure DiscoveredDevice where
  pk : Nat
  manufacturerId : Option Nat
  ip : String
  deriving DecidableEq, Repr

structure SyncTables extends DiscoveryTables where
  staged : List DiscoveredDevice

structure DiscoveryCandidatePage where
  candidates : List String
  sourcesComplete : Bool

structure DiscoveryScanSourcePage where
  cidrs : List String
  fqdns : List String
  sourceOrder : List ScanSource
  sourcesComplete : Bool

structure DiscoveryCandidateSubmission where
  submittedIps : List String
  failedIps : List String
  rejectedCount : Nat
  deriving DecidableEq, Repr

def discoverySubmissionBatchSize : Nat := 1024

/-- `batched(items, size)`. -/
def batched {α : Type} (items : List α) (size : Nat) : List (List α) :=
  (List.range ((items.length + size - 1) / size)).map fun index =>
    (items.drop (index * size)).take size

namespace DiscoveryService

/-- Submit deduplicated candidates in bounded batches after one ownership query. -/
def addDiscoveryCandidates (inventory : Inventory) (manufacturer : Nat) (ipAddresses : List String)
    (plugin : DiscoveryPlugin) (batchSize : Nat) : Except String DiscoveryCandidateSubmission :=
  if batchSize = 0 then .error "batch_size must be greater than zero"
  else
    let candidateInputs := ipAddresses.take (maxDiscoveryCandidates + 1)
    if maxDiscoveryCandidates < candidateInputs.length then
      .error s!"candidate count exceeds hard limit of {maxDiscoveryCandidates}"
    else
      let (uniqueIps, rejectedCount) :=
        canonicalizeIpAddresses (candidateInputs.map EventValue.text)
      let conflictingIps := getConflictingIps inventory manufacturer uniqueIps
      let eligibleIps := uniqueIps.filter (· ∉ conflictingIps)
      let batches := batched eligibleIps batchSize
      let submitted := (batches.filter (addDiscoveryIps plugin)).flatten
      let failed := conflictingIps ++ (batches.filter (!addDiscoveryIps plugin ·)).flatten
      .ok
        { submittedIps := uniqueIps.filter (· ∈ submitted)
          failedIps := uniqueIps.filter (· ∈ failed)
          rejectedCount }

end DiscoveryService

namespace DiscoveryCandidateSourceService

open DiscoverySourceCursorService

/-- The staged devices of the manufacturer at no configured address. -/
def stagedSource (tables : SyncTables) (manufacturer : Nat) : DiscoverySource where
  name := .staged
  rows := (tables.staged.filter fun row => row.manufacturerId = some manufacturer &&
    row.ip ∉ (configuredSource tables.toDiscoveryTables manufacturer).rows.map Prod.snd).map
      fun row => (row.pk, row.ip)

/-- Collect a bounded, stable inventory projection for one manufacturer. -/
def collectInventoryCandidates (tables : SyncTables) (manufacturer : Nat) (cursors : SourceCursors)
    (limit : Int) : DiscoveryCandidatePage × SourceCursors :=
  let (pages, cursors) := rotatingPages cursors .fullSyncLocalInventory
    [configuredSource tables.toDiscoveryTables manufacturer, stagedSource tables manufacturer]
    (clampCandidateLimit limit)
  ({ candidates := (pageValues pages .configured ++ pageValues pages .staged).map trim
     sourcesComplete := pagesComplete pages }, cursors)

/-- Load a bounded set of enabled scan sources for a manufacturer. -/
def configuredScanSources (tables : DiscoveryTables) (manufacturer : Nat) (cursors : SourceCursors)
    (scanCidrs scanFqdns : Bool) (limit : Int) : DiscoveryScanSourcePage × SourceCursors :=
  let (pages, cursors) := rotatingPages cursors .fullSyncScanSources
    (enabledSources tables manufacturer scanCidrs scanFqdns) (clampCandidateLimit limit)
  ({ cidrs := (pageValues pages .cidrs).map trim
     fqdns := (pageValues pages .fqdns).map trim
     sourceOrder := scanOrder pages
     sourcesComplete := pagesComplete pages }, cursors)

def orderedMaps (expansion : ScanExpansion) : ScanSource → List (String × List String)
  | .cidr => expansion.cidrHosts
  | .fqdn => expansion.fqdnHosts

/-- Expand enabled scan sources into a deduplicated candidate list. -/
def collectScannedCandidates (getaddrinfo : String → Resolution) (cidrs fqdns : List String)
    (scanCidrs scanFqdns : Bool) (maxHosts : Int) (sourceOrder : List ScanSource) :
    DiscoveryCandidatePage :=
  let candidateLimit := clampCandidateLimit maxHosts
  let order := if sourceOrder.isEmpty then [.cidr, .fqdn] else sourceOrder
  let expansion := expandScanningSources getaddrinfo (if scanCidrs then cidrs else [])
    (if scanFqdns then fqdns else []) candidateLimit order
  let candidateIps := order.eraseDups.flatMap fun source =>
    (orderedMaps expansion source).flatMap Prod.snd
  { candidates := (candidateIps.eraseDups.take candidateLimit).map trim
    sourcesComplete := expansion.sourcesComplete }

end DiscoveryCandidateSourceService

open DiscoveryCandidateSourceService DiscoveryService

/-- Submit inventory and scanned candidates through one deduplicated vendor batch. -/
def submitCandidates (inventory : Inventory) (manufacturer : Nat) (missingIps scannedIps : List String)
    (plugin : DiscoveryPlugin) : Except String DiscoveryCandidateSubmission :=
  let uniqueMissing := (missingIps.filter (· ≠ "")).eraseDups
  let uniqueScanned := ((scannedIps.filter (· ≠ "")).eraseDups).filter (· ∉ uniqueMissing)
  addDiscoveryCandidates inventory manufacturer (uniqueMissing ++ uniqueScanned) plugin
    discoverySubmissionBatchSize

/-- The candidates a synchronization collects and submits. -/
def executeClaimedWorkflow (tables : SyncTables) (manufacturer : Nat)
    (getaddrinfo : String → Resolution) (plugin : DiscoveryPlugin) (cursors : SourceCursors)
    (scanCidrs scanFqdns : Bool) (maxHosts : Int) :
    Except String DiscoveryCandidateSubmission × SourceCursors :=
  let candidateLimit : Int := clampCandidateLimit maxHosts
  let (inventoryPage, cursors) :=
    collectInventoryCandidates tables manufacturer cursors candidateLimit
  let remainingCandidates := candidateLimit - inventoryPage.candidates.length
  let (scanSourcePage, cursors) := configuredScanSources tables.toDiscoveryTables manufacturer cursors
    scanCidrs scanFqdns remainingCandidates
  let scannedPage := collectScannedCandidates getaddrinfo scanSourcePage.cidrs scanSourcePage.fqdns
    scanCidrs scanFqdns remainingCandidates scanSourcePage.sourceOrder
  (submitCandidates tables.inventory manufacturer inventoryPage.candidates scannedPage.candidates
    plugin, cursors)

/-- A submitted address is the canonical form of one of the candidates and belongs to no other
manufacturer, unless it names a scope. -/
theorem of_mem_submittedIps {inventory : Inventory} {manufacturer batchSize : Nat}
    {candidates : List String} {plugin : DiscoveryPlugin} {submission : DiscoveryCandidateSubmission}
    (hdb : inventory.Consistent)
    (h : addDiscoveryCandidates inventory manufacturer candidates plugin batchSize = .ok submission)
    {ip : String} (hip : ip ∈ submission.submittedIps) :
    (∃ value ∈ candidates, ipAddress value = some ip) ∧
      ('%' ∉ ip.toList → ¬ inventory.OwnedByOther manufacturer ip) := by
  simp only [addDiscoveryCandidates] at h
  split at h
  next => cases h
  next =>
    split at h
    next => cases h
    next =>
      obtain rfl := Except.ok.inj h
      obtain ⟨hunique, hsubmitted⟩ := List.mem_filter.mp hip
      obtain ⟨value, hvalue, hip⟩ := mem_canonicalizeIpAddresses.mp hunique
      obtain ⟨_, hvalue, heq⟩ := List.mem_map.mp hvalue
      cases heq
      refine ⟨⟨value, List.mem_of_mem_take hvalue, hip⟩, fun hscope howned => ?_⟩
      have hstored := (getPrepValue_eq_self_iff hip).mpr hscope
      obtain ⟨batch, hbatch, hmem⟩ := List.mem_flatten.mp (of_decide_eq_true hsubmitted)
      obtain ⟨index, -, rfl⟩ := List.mem_map.mp (List.mem_filter.mp hbatch).1
      have heligible := (List.mem_filter.mp (List.mem_of_mem_drop (List.mem_of_mem_take hmem))).2
      exact of_decide_eq_true heligible (conflicting_of_owned hdb hunique hstored howned)

def SyncTables.Stages (tables : SyncTables) (manufacturer : Nat) (value : String) : Prop :=
  ∃ row ∈ tables.staged, row.manufacturerId = some manufacturer ∧ trim row.ip = value

section Collected

variable {tables : SyncTables} {manufacturer : Nat} {getaddrinfo : String → Resolution}
  {cursors : SourceCursors} {scanCidrs scanFqdns : Bool}

theorem of_mem_inventoryCandidates {limit : Int} {value : String}
    (h : value ∈ (collectInventoryCandidates tables manufacturer cursors limit).1.candidates) :
    (∃ row ∈ tables.inventory.chassis, row.manufacturer.pk = manufacturer ∧ trim row.ip = value) ∨
      tables.Stages manufacturer value := by
  have hunique : UniqueOn DiscoverySource.name
      [configuredSource tables.toDiscoveryTables manufacturer, stagedSource tables manufacturer] := by
    simp [UniqueOn, configuredSource, stagedSource]
  obtain ⟨given, hgiven, rfl⟩ := List.mem_map.mp h
  rcases List.mem_append.mp hgiven with hconfigured | hstaged
  · obtain ⟨item, hitem, rfl⟩ := mem_pageValues hunique List.mem_cons_self hconfigured
    obtain ⟨row, hrow, rfl⟩ := List.mem_map.mp hitem
    obtain ⟨hrow, hmanufacturer⟩ := List.mem_filter.mp hrow
    have hvalue := (trim_trim row.ip).symm
    exact .inl ⟨row, hrow, of_decide_eq_true hmanufacturer, hvalue⟩
  · obtain ⟨item, hitem, rfl⟩ :=
      mem_pageValues hunique (List.mem_cons_of_mem _ List.mem_cons_self) hstaged
    obtain ⟨row, hrow, rfl⟩ := List.mem_map.mp hitem
    obtain ⟨hrow, hquery⟩ := List.mem_filter.mp hrow
    obtain ⟨hmanufacturer, -⟩ := Bool.and_eq_true_iff.mp hquery
    have hvalue := (trim_trim row.ip).symm
    exact .inr ⟨row, hrow, of_decide_eq_true hmanufacturer, hvalue⟩

/-- The scanned candidates are addresses to which the enabled scans expand, as a page keeps them. -/
theorem of_mem_scannedCandidates {limit maxHosts : Int} {value : String}
    (h : value ∈ (collectScannedCandidates getaddrinfo
      (configuredScanSources tables.toDiscoveryTables manufacturer cursors scanCidrs scanFqdns
        limit).1.cidrs
      (configuredScanSources tables.toDiscoveryTables manufacturer cursors scanCidrs scanFqdns
        limit).1.fqdns
      scanCidrs scanFqdns maxHosts
      (configuredScanSources tables.toDiscoveryTables manufacturer cursors scanCidrs scanFqdns
        limit).1.sourceOrder).candidates) :
    ∃ scan, scanIsEnabled scanCidrs scanFqdns scan = true ∧ ∃ address,
      tables.toDiscoveryTables.Expands getaddrinfo scan manufacturer address ∧
        trim address = value := by
  obtain ⟨address, haddress, rfl⟩ := List.mem_map.mp h
  obtain ⟨source, -, haddress⟩ := List.mem_flatMap.mp
    (List.mem_eraseDups.mp (List.mem_of_mem_take haddress))
  -- the hosts under a source are among the candidates of the expansion
  have hcandidate : ∀ expansion : ScanExpansion,
      address ∈ (orderedMaps expansion source).flatMap Prod.snd → address ∈ expansion.candidates := by
    intro expansion hmem
    cases source with
    | cidr => exact List.mem_append_left _ hmem
    | fqdn => exact List.mem_append_right _ hmem
  obtain ⟨scan, definition, hdefinition, hvalue⟩ := exists_of_mem_expansion (hcandidate _ haddress)
  have hpage : scanIsEnabled scanCidrs scanFqdns scan = true ∧ ∃ entry ∈ tables.entries scan,
      entry.manufacturerId = manufacturer ∧ trim entry.value = definition := by
    have hgiven : ∃ given ∈ pageValues (DiscoverySourceCursorService.rotatingPages cursors
        .fullSyncScanSources (enabledSources tables.toDiscoveryTables manufacturer scanCidrs scanFqdns)
        (clampCandidateLimit limit)).1 scan.sourceName, trim given = definition := by
      cases scan with
      | cidr =>
          simp only [definitionsOf] at hdefinition
          split at hdefinition
          next => exact List.mem_map.mp hdefinition
          next => cases hdefinition
      | fqdn =>
          simp only [definitionsOf] at hdefinition
          split at hdefinition
          next => exact List.mem_map.mp hdefinition
          next => cases hdefinition
    obtain ⟨given, hgiven, rfl⟩ := hgiven
    obtain ⟨henabled, entry, hentry, hmanufacturer, rfl⟩ := mem_definitionsOf hgiven
    have hvalue := (trim_trim entry.value).symm
    exact ⟨henabled, entry, hentry, hmanufacturer, hvalue⟩
  obtain ⟨henabled, entry, hentry, hmanufacturer, rfl⟩ := hpage
  exact ⟨scan, henabled, address, ⟨entry, hentry, hmanufacturer, hvalue⟩, rfl⟩

/-- Whatever a synchronization submits is managed, staged or scanned, and no other manufacturer's
unless it names a scope. -/
theorem exists_source_of_submitted {plugin : DiscoveryPlugin} {maxHosts : Int}
    {submission : DiscoveryCandidateSubmission} (hdb : tables.inventory.Consistent)
    (h : (executeClaimedWorkflow tables manufacturer getaddrinfo plugin cursors scanCidrs scanFqdns
      maxHosts).1 = .ok submission) {ip : String} (hip : ip ∈ submission.submittedIps) :
    (∃ value, ((∃ row ∈ tables.inventory.chassis,
        row.manufacturer.pk = manufacturer ∧ trim row.ip = value) ∨ tables.Stages manufacturer value ∨
      ∃ scan, scanIsEnabled scanCidrs scanFqdns scan = true ∧ ∃ address,
        tables.toDiscoveryTables.Expands getaddrinfo scan manufacturer address ∧
          trim address = value) ∧ ipAddress value = some ip) ∧
    ('%' ∉ ip.toList → ¬ tables.inventory.OwnedByOther manufacturer ip) := by
  simp only [executeClaimedWorkflow, submitCandidates] at h
  obtain ⟨⟨value, hvalue, hcanonical⟩, howned⟩ := of_mem_submittedIps hdb h hip
  refine ⟨⟨value, ?_, hcanonical⟩, howned⟩
  rcases List.mem_append.mp hvalue with hmissing | hscanned
  · have hmissing := (List.mem_filter.mp (List.mem_eraseDups.mp hmissing)).1
    rcases of_mem_inventoryCandidates hmissing with hmanaged | hstaged
    · exact .inl hmanaged
    · exact .inr (.inl hstaged)
  · have hscanned := (List.mem_filter.mp (List.mem_eraseDups.mp (List.mem_filter.mp hscanned).1)).1
    exact .inr (.inr (of_mem_scannedCandidates hscanned))

end Collected

/-! ### The list under both workflows -/

/-- With what a workflow runs: the resolver and the cursors it meets, its arguments, and which
batches the vendor accepts. -/
structure WorkflowRequest where
  getaddrinfo : String → Resolution
  cursors : SourceCursors
  scanCidrs : Bool
  scanFqdns : Bool
  maxHosts : Int
  accepts : List String → Bool
  acceptsRemoval : List String → Bool

/-- The list of the vendor, and every address that a synchronization has submitted to it so far. -/
structure VendorList where
  remote : List String
  submitted : List String

def WorkflowRequest.plugin (request : WorkflowRequest) (list : VendorList) : DiscoveryPlugin where
  getDiscoveryIps := some (list.remote.map EventValue.text)
  addDiscoveryIps := request.accepts
  removeDiscoveryIps := request.acceptsRemoval

inductive WorkflowStep where
  | fullSync (request : WorkflowRequest)
  | reconciliation (request : WorkflowRequest)

section List

variable (tables : SyncTables) (manufacturer : Nat)

def VendorList.submission (list : VendorList) (request : WorkflowRequest) :
    Except String DiscoveryCandidateSubmission :=
  (executeClaimedWorkflow tables manufacturer request.getaddrinfo (request.plugin list)
    request.cursors request.scanCidrs request.scanFqdns request.maxHosts).1

def VendorList.reconciliation (list : VendorList) (request : WorkflowRequest) : ReconciliationRun :=
  (runManufacturerDiscovery tables.toDiscoveryTables manufacturer request.getaddrinfo
    (request.plugin list) request.cursors request.scanCidrs request.scanFqdns request.maxHosts).1

def VendorList.step (list : VendorList) : WorkflowStep → VendorList
  | .fullSync request =>
    match list.submission tables manufacturer request with
    | .ok submission =>
      { remote := list.remote ++ submission.submittedIps
        submitted := list.submitted ++ submission.submittedIps }
    | .error _ => list
  | .reconciliation request =>
    let run := list.reconciliation tables manufacturer request
    let extended :=
      if run.report.additionsSucceeded then list.remote ++ run.ipsToAdd else list.remote
    { list with remote :=
        if run.report.removalsSucceeded then extended.filter (· ∉ run.ipsToRemove) else extended }

/-- Something holds of every step of a run and of the list it meets. -/
def VendorList.Throughout (holds : VendorList → WorkflowStep → Prop) :
    VendorList → List WorkflowStep → Prop
  | _, [] => True
  | list, step :: later =>
    holds list step ∧ Throughout holds (list.step tables manufacturer step) later

/-- A step asks for the removal of no submitted address, unless another manufacturer owns it. -/
def KeepsSubmitted (list : VendorList) : WorkflowStep → Prop
  | .fullSync _ => True
  | .reconciliation request => ∀ ip ∈ list.submitted,
      ¬ tables.inventory.OwnedByOther manufacturer ip →
      ip ∉ (list.reconciliation tables manufacturer request).ipsToRemove

/-- A reconciliation cannot read everything within its budget, or every submitted address that is
still on the list is one its own sources want. -/
def WantsSubmitted (list : VendorList) : WorkflowStep → Prop
  | .fullSync _ => True
  | .reconciliation request =>
    ¬ SourcesFit tables.toDiscoveryTables request.getaddrinfo request.scanCidrs request.scanFqdns
        manufacturer request.maxHosts ∨
      ¬ (list.remote.length ≤ maxDiscoveryCandidates ∧
        ∀ value ∈ list.remote, (ipAddress value).isSome = true) ∨
      ∀ ip ∈ list.submitted, ¬ tables.inventory.OwnedByOther manufacturer ip →
        (∃ value ∈ list.remote, ipAddress value = some ip) →
        tables.toDiscoveryTables.Desires request.getaddrinfo request.scanCidrs request.scanFqdns
          manufacturer ip

variable {tables manufacturer} {list : VendorList}

/-- A step keeps what was submitted exactly if it wants it or cannot read everything. -/
theorem keepsSubmitted_iff (step : WorkflowStep) :
    KeepsSubmitted tables manufacturer list step ↔ WantsSubmitted tables manufacturer list step := by
  cases step with
  | fullSync request => exact Iff.rfl
  | reconciliation request =>
      have hsourcesIff : (list.reconciliation tables manufacturer request).report.sourcesComplete =
          true ↔ SourcesFit tables.toDiscoveryTables request.getaddrinfo request.scanCidrs
            request.scanFqdns manufacturer request.maxHosts := sourcesComplete_iff
      have hremoteIff : (list.reconciliation tables manufacturer request).report.remoteSourceComplete =
          true ↔ list.remote.length ≤ maxDiscoveryCandidates ∧
            ∀ value ∈ list.remote, (ipAddress value).isSome = true := remoteComplete_iff
      constructor
      · intro hkeeps
        by_contra hwants
        obtain ⟨hfits, hwants⟩ := not_or.mp hwants
        obtain ⟨hlisted, hwants⟩ := not_or.mp hwants
        obtain ⟨hbound, hvalid⟩ := not_not.mp hlisted
        refine hwants fun ip hip howned hexists => ?_
        by_contra hdesired
        refine hkeeps ip hip howned (mem_ipsToRemove_of_complete (hsourcesIff.mpr (not_not.mp hfits))
          (hremoteIff.mpr ⟨hbound, hvalid⟩) ((mem_existingDiscoveryIps hbound).mpr hexists) ?_)
        exact fun hcandidate => hdesired (desires_of_mem_candidates hcandidate)
      · intro hwants ip hip howned hremoved
        rcases of_mem_ipsToRemove hremoved with hother | ⟨⟨hsources, hremote⟩, hcandidate⟩
        · exact howned hother
        · have hread := sourcesRead_of_complete hsources
          have hlisted := hremoteIff.mp hremote
          rcases hwants with hfits | hinvalid | hwants
          · exact hfits (hsourcesIff.mp hsources)
          · exact hinvalid hlisted
          · refine hcandidate (hread.mem (hwants ip hip howned ?_))
            exact (mem_existingDiscoveryIps hlisted.1).mp (existing_of_mem_ipsToRemove hremoved)

/-- Over every run: no reconciliation removes what a synchronization has submitted, exactly if each of
them wants it or cannot read everything. -/
theorem submitted_addresses_kept (tables : SyncTables) (manufacturer : Nat) (list : VendorList)
    (run : List WorkflowStep) :
    list.Throughout tables manufacturer (KeepsSubmitted tables manufacturer) run ↔
      list.Throughout tables manufacturer (WantsSubmitted tables manufacturer) run := by
  induction run generalizing list with
  | nil => exact Iff.rfl
  | cons step later ih => exact and_congr (keepsSubmitted_iff step) (ih _)

end List

/-- A manufacturer without chassis and scans, and one staged device. -/
def stagedTables : SyncTables where
  inventory := .empty
  cidrs := []
  fqdns := []
  staged := [⟨1, some 1, "192.0.2.7"⟩]

/-- Both workflows with the scans off, as the triggers of a chassis request them. -/
def inventoryRequest : WorkflowRequest where
  getaddrinfo _ := .failed
  cursors _ := 0
  scanCidrs := false
  scanFqdns := false
  maxHosts := 1024
  accepts _ := true
  acceptsRemoval _ := true

/-- The synchronization submits the staged address, and the reconciliation after it removes it. -/
theorem staged_address_removed :
    (VendorList.mk [] []).step stagedTables 1 (.fullSync inventoryRequest) =
      ⟨["192.0.2.7"], ["192.0.2.7"]⟩ ∧
    ((VendorList.mk ["192.0.2.7"] ["192.0.2.7"]).reconciliation stagedTables 1
      inventoryRequest).ipsToRemove = ["192.0.2.7"] ∧
    ¬ (VendorList.mk [] []).Throughout stagedTables 1 (KeepsSubmitted stagedTables 1)
      [.fullSync inventoryRequest, .reconciliation inventoryRequest] := by
  have hsync : (VendorList.mk [] []).step stagedTables 1 (.fullSync inventoryRequest) =
      ⟨["192.0.2.7"], ["192.0.2.7"]⟩ := by
    have hremote : ((VendorList.mk [] []).step stagedTables 1 (.fullSync inventoryRequest)).remote =
        ["192.0.2.7"] := by decide +kernel
    have hsubmitted : ((VendorList.mk [] []).step stagedTables 1
        (.fullSync inventoryRequest)).submitted = ["192.0.2.7"] := by decide +kernel
    exact congrArg₂ VendorList.mk hremote hsubmitted
  have hremoved : ((VendorList.mk ["192.0.2.7"] ["192.0.2.7"]).reconciliation stagedTables 1
      inventoryRequest).ipsToRemove = ["192.0.2.7"] := by decide +kernel
  refine ⟨hsync, hremoved, fun hkept => ?_⟩
  have hreconciled := hkept.2.1
  rw [hsync] at hreconciled
  have howned : ¬ stagedTables.inventory.OwnedByOther 1 "192.0.2.7" := by
    rintro ⟨row, hrow, -⟩
    cases hrow
  have hkeeps := hreconciled "192.0.2.7" (List.mem_singleton_self _) howned
  rw [hremoved] at hkeeps
  exact hkeeps (List.mem_singleton_self _)

end Micboard
