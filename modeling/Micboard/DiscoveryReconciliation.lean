import Micboard.DiscoverySources
import Micboard.RealtimeRouting

/-! Reconciliation of the discovery list a vendor keeps with the addresses its manufacturer should
have there. The wanted addresses are read in bounded pages, the list is read from the plugin, and
the plugin is asked to add what is missing and to remove what is not wanted. -/

namespace Micboard

open Library Library.Address Library.Budget Library.Text

/-- The canonical address of an item, if it is a text that reads as one. -/
def EventValue.toAddress : EventValue → Option String
  | .text value => ipAddress value
  | _ => Option.none

def EventValue.isText : EventValue → Bool
  | .text _ => true
  | _ => false

/-- What a plugin answers in one run: the items of its list, or nothing where reading or iterating it
raises, and whether a batch is accepted. A batch that raises is not. -/
structure DiscoveryPlugin where
  getDiscoveryIps : Option (List EventValue)
  addDiscoveryIps : List String → Bool
  removeDiscoveryIps : List String → Bool

structure DiscoverySourceReconciliation where
  manufacturer : Nat
  success : Bool
  sourcesComplete : Bool
  remoteSourceComplete : Bool
  additionsSucceeded : Bool
  removalsSucceeded : Bool
  deriving DecidableEq, Repr

/-- A run: its unique candidates, what it asks of the plugin and what it reports. -/
structure ReconciliationRun where
  uniqueCandidateIps : List String
  ipsToAdd : List String
  ipsToRemove : List String
  report : DiscoverySourceReconciliation
  deriving DecidableEq, Repr

/-- A chassis of another manufacturer has the address: the two are the same in the form that the column
stores, which has no scope. -/
def Inventory.OwnedByOther (inventory : Inventory) (manufacturer : Nat) (ip : String) : Prop :=
  ∃ row ∈ inventory.chassis, row.manufacturer.pk ≠ manufacturer ∧ getPrepValue row.ip = getPrepValue ip

namespace DiscoveryService

/-- Stable canonical addresses and an invalid-item count. -/
def canonicalizeIpAddresses (ipAddresses : List EventValue) : List String × Nat :=
  ((ipAddresses.filterMap EventValue.toAddress).eraseDups,
    ipAddresses.countP fun candidate => candidate.toAddress.isNone)

/-- The addresses already owned by another manufacturer. -/
def getConflictingIps (inventory : Inventory) (manufacturer : Nat) (ipAddresses : List String) :
    List String :=
  (inventory.chassis.filter fun row =>
    row.ip ∈ ipAddresses.map getPrepValue && row.manufacturer.pk ≠ manufacturer).map Chassis.ip

def addDiscoveryIps (plugin : DiscoveryPlugin) (ipAddresses : List String) : Bool :=
  if ipAddresses.isEmpty then true else plugin.addDiscoveryIps ipAddresses

def removeDiscoveryIps (plugin : DiscoveryPlugin) (ipAddresses : List String) : Bool :=
  if ipAddresses.isEmpty then true else plugin.removeDiscoveryIps ipAddresses

/-- The addresses on the list of the plugin and whether the list was read completely. -/
def existingDiscoveryIps (response : Option (List EventValue)) : List String × Bool :=
  match response with
  | none => ([], false)
  | some remoteCandidates =>
    let rawRemoteCandidates := remoteCandidates.take (maxDiscoveryCandidates + 1)
    let bounded := rawRemoteCandidates.take maxDiscoveryCandidates
    let stringRemoteCandidates := bounded.filter EventValue.isText
    let (existingIps, rejectedRemoteCandidates) := canonicalizeIpAddresses stringRemoteCandidates
    let remotePayloadValid := stringRemoteCandidates.length = bounded.length &&
      rejectedRemoteCandidates = 0
    (existingIps,
      !(maxDiscoveryCandidates < rawRemoteCandidates.length || !remotePayloadValid))

/-- The candidates of a manufacturer and whether every source was read completely. -/
def candidateIps (tables : DiscoveryTables) (manufacturer : Nat) (getaddrinfo : String → Resolution)
    (cursors : SourceCursors) (scanCidrs scanFqdns : Bool) (maxHosts : Int) :
    (List String × Bool) × SourceCursors :=
  let candidateLimit : Int := clampCandidateLimit maxHosts
  let ((localIps, localSourcesComplete), cursors) :=
    collectLocalCandidates tables manufacturer cursors candidateLimit
  let scanLimit := candidateLimit - localIps.length
  let (scan, cursors) :=
    prepareScanningData tables manufacturer getaddrinfo cursors scanCidrs scanFqdns scanLimit
  ((localIps ++ scan.candidates, localSourcesComplete && scan.sourcesComplete), cursors)

/-- Ask the plugin for the difference between its list and the candidates. -/
def reconcile (inventory : Inventory) (manufacturer : Nat) (plugin : DiscoveryPlugin)
    (candidates : List String) (sourcesComplete : Bool) : ReconciliationRun :=
  let (uniqueCandidateIps, rejectedLocalCandidates) :=
    canonicalizeIpAddresses (candidates.map EventValue.text)
  let sourcesComplete := sourcesComplete && rejectedLocalCandidates = 0
  let (existingIps, remoteSourceComplete) := existingDiscoveryIps plugin.getDiscoveryIps
  let reconciliationIps := (uniqueCandidateIps ++ existingIps).eraseDups
  let conflictingIps := getConflictingIps inventory manufacturer reconciliationIps
  let eligibleCandidates := uniqueCandidateIps.filter (· ∉ conflictingIps)
  let ipsToAdd := eligibleCandidates.filter (· ∉ existingIps)
  -- what is not wanted is known only if nothing was left out
  let ipsToRemove :=
    if sourcesComplete && remoteSourceComplete then existingIps.filter (· ∉ eligibleCandidates)
    else existingIps.filter (· ∈ conflictingIps)
  let additionsSucceeded := addDiscoveryIps plugin ipsToAdd
  let removalsSucceeded := removeDiscoveryIps plugin ipsToRemove
  { uniqueCandidateIps
    ipsToAdd
    ipsToRemove
    report :=
      { manufacturer
        success := additionsSucceeded && removalsSucceeded && sourcesComplete &&
          remoteSourceComplete
        sourcesComplete
        remoteSourceComplete
        additionsSucceeded
        removalsSucceeded } }

/-- Runs discovery for a single manufacturer. -/
def runManufacturerDiscovery (tables : DiscoveryTables) (manufacturer : Nat)
    (getaddrinfo : String → Resolution) (plugin : DiscoveryPlugin) (cursors : SourceCursors)
    (scanCidrs scanFqdns : Bool) (maxHosts : Int) : ReconciliationRun × SourceCursors :=
  let ((candidates, sourcesComplete), cursors) :=
    candidateIps tables manufacturer getaddrinfo cursors scanCidrs scanFqdns maxHosts
  (reconcile tables.inventory manufacturer plugin candidates sourcesComplete, cursors)

theorem mem_canonicalizeIpAddresses {items : List EventValue} {ip : String} :
    ip ∈ (canonicalizeIpAddresses items).1 ↔
      ∃ value, EventValue.text value ∈ items ∧ ipAddress value = some ip := by
  rw [canonicalizeIpAddresses, List.mem_eraseDups, List.mem_filterMap]
  constructor
  · rintro ⟨item, hitem, hip⟩
    cases item with
    | text value => exact ⟨value, hitem, hip⟩
    | none | bool | int | float | infinite | list | mapping | other => cases hip
  · rintro ⟨value, hvalue, hip⟩
    exact ⟨.text value, hvalue, hip⟩

theorem rejected_eq_zero {items : List EventValue} :
    (canonicalizeIpAddresses items).2 = 0 ↔ ∀ item ∈ items, item.toAddress.isSome = true := by
  rw [canonicalizeIpAddresses, List.countP_eq_zero]
  simp only [Option.isNone_iff_eq_none, Option.isSome_iff_ne_none, ne_eq]

theorem owned_of_conflicting {inventory : Inventory} {manufacturer : Nat} {ips : List String}
    {ip : String} (h : ip ∈ getConflictingIps inventory manufacturer ips) :
    inventory.OwnedByOther manufacturer ip := by
  obtain ⟨row, hrow, rfl⟩ := List.mem_map.mp h
  obtain ⟨hrow, hquery⟩ := List.mem_filter.mp hrow
  obtain ⟨-, hmanufacturer⟩ := Bool.and_eq_true_iff.mp hquery
  exact ⟨row, hrow, of_decide_eq_true hmanufacturer, rfl⟩

theorem stored_of_conflicting {inventory : Inventory} {manufacturer : Nat} {ips : List String}
    {ip : String} (hdb : inventory.Consistent)
    (h : ip ∈ getConflictingIps inventory manufacturer ips) : getPrepValue ip = ip := by
  obtain ⟨row, hrow, rfl⟩ := List.mem_map.mp h
  exact (hdb.ip_stored row (List.mem_filter.mp hrow).1).2

/-- Every requested address that is owned by another manufacturer is a conflict, if it is in the
form that the column stores: the lookup compares stored forms, and answers with what the rows hold.
-/
theorem conflicting_of_owned {inventory : Inventory} {manufacturer : Nat} {ips : List String}
    {ip : String} (hdb : inventory.Consistent) (hip : ip ∈ ips) (hstored : getPrepValue ip = ip)
    (h : inventory.OwnedByOther manufacturer ip) :
    ip ∈ getConflictingIps inventory manufacturer ips := by
  obtain ⟨row, hrow, hmanufacturer, hsame⟩ := h
  rw [(hdb.ip_stored row hrow).2, hstored] at hsame
  refine List.mem_map.mpr ⟨row, List.mem_filter.mpr ⟨hrow, ?_⟩, hsame⟩
  refine Bool.and_eq_true_iff.mpr ⟨decide_eq_true ?_, decide_eq_true hmanufacturer⟩
  exact List.mem_map.mpr ⟨ip, hip, hstored.trans hsame.symm⟩

/-- A list that was read completely is a bounded list of addresses. -/
def RemoteRead (response : Option (List EventValue)) : Prop :=
  ∃ remote : List String, response = some (remote.map EventValue.text) ∧
    remote.length ≤ maxDiscoveryCandidates ∧ ∀ value ∈ remote, (ipAddress value).isSome = true

theorem exists_map_text {items : List EventValue} (h : ∀ item ∈ items, item.isText = true) :
    ∃ values : List String, items = values.map EventValue.text := by
  induction items with
  | nil => exact ⟨[], rfl⟩
  | cons item rest ih =>
      obtain ⟨values, rfl⟩ := ih fun later hlater => h later (List.mem_cons_of_mem _ hlater)
      cases item with
      | text value => exact ⟨value :: values, rfl⟩
      | none | bool | int | float | infinite | list | mapping | other => cases h _ List.mem_cons_self

theorem filter_isText_map (values : List String) :
    (values.map EventValue.text).filter EventValue.isText = values.map EventValue.text := by
  refine List.filter_eq_self.mpr fun item hitem => ?_
  obtain ⟨value, -, rfl⟩ := List.mem_map.mp hitem
  rfl

theorem remoteRead_of_complete {response : Option (List EventValue)}
    (h : (existingDiscoveryIps response).2 = true) : RemoteRead response := by
  cases response with
  | none => cases h
  | some items =>
      simp only [existingDiscoveryIps, Bool.not_eq_true', Bool.or_eq_false_iff,
        Bool.not_eq_false', Bool.and_eq_true, decide_eq_true_eq, decide_eq_false_iff_not] at h
      obtain ⟨hbound, hstrings, hrejected⟩ := h
      have hlength : items.length ≤ maxDiscoveryCandidates := by
        rw [List.length_take] at hbound
        omega
      have hitems : (items.take (maxDiscoveryCandidates + 1)).take maxDiscoveryCandidates = items := by
        rw [List.take_of_length_le (Nat.le_succ_of_le hlength), List.take_of_length_le hlength]
      rw [hitems] at hstrings hrejected
      obtain ⟨remote, rfl⟩ := exists_map_text (List.length_filter_eq_length_iff.mp hstrings)
      refine ⟨remote, rfl, by simpa using hlength, fun value hvalue => ?_⟩
      rw [filter_isText_map] at hrejected
      exact rejected_eq_zero.mp hrejected (.text value) (List.mem_map_of_mem hvalue)

/-- The addresses on a list of texts that was read completely. -/
theorem mem_existingDiscoveryIps {remote : List String} {ip : String}
    (hbound : remote.length ≤ maxDiscoveryCandidates) :
    ip ∈ (existingDiscoveryIps (some (remote.map EventValue.text))).1 ↔
      ∃ value ∈ remote, ipAddress value = some ip := by
  have hlength : (remote.map EventValue.text).length ≤ maxDiscoveryCandidates := by
    rw [List.length_map]
    exact hbound
  simp only [existingDiscoveryIps]
  rw [List.take_of_length_le (Nat.le_succ_of_le hlength), List.take_of_length_le hlength,
    filter_isText_map, mem_canonicalizeIpAddresses]
  simp

section Asked

variable {inventory : Inventory} {manufacturer : Nat} {plugin : DiscoveryPlugin}
  {candidates : List String} {complete : Bool} {ip : String}

/-- An address is removed when another manufacturer has it, or when nothing was left out and it is no
candidate. -/
theorem of_mem_ipsToRemove
    (h : ip ∈ (reconcile inventory manufacturer plugin candidates complete).ipsToRemove) :
    inventory.OwnedByOther manufacturer ip ∨
      ((reconcile inventory manufacturer plugin candidates complete).report.sourcesComplete = true ∧
        (reconcile inventory manufacturer plugin candidates complete).report.remoteSourceComplete =
          true) ∧
      ip ∉ (reconcile inventory manufacturer plugin candidates complete).uniqueCandidateIps := by
  simp only [reconcile] at h ⊢
  split at h
  next hcomplete =>
    obtain ⟨-, heligible⟩ := List.mem_filter.mp h
    rw [decide_eq_true_eq, List.mem_filter, decide_eq_true_eq] at heligible
    by_cases hcandidate : ip ∈ (canonicalizeIpAddresses (candidates.map EventValue.text)).1
    · by_contra hnot
      refine heligible ⟨hcandidate, fun hconflict => hnot (.inl (owned_of_conflicting hconflict))⟩
    · exact .inr ⟨Bool.and_eq_true_iff.mp hcomplete, hcandidate⟩
  next => exact .inl (owned_of_conflicting (of_decide_eq_true (List.mem_filter.mp h).2))

theorem existing_of_mem_ipsToRemove
    (h : ip ∈ (reconcile inventory manufacturer plugin candidates complete).ipsToRemove) :
    ip ∈ (existingDiscoveryIps plugin.getDiscoveryIps).1 := by
  simp only [reconcile] at h
  split at h
  next => exact (List.mem_filter.mp h).1
  next => exact (List.mem_filter.mp h).1

/-- When nothing was left out, whatever is on the list and no candidate is removed. -/
theorem mem_ipsToRemove_of_complete
    (hsources :
      (reconcile inventory manufacturer plugin candidates complete).report.sourcesComplete = true)
    (hremote :
      (reconcile inventory manufacturer plugin candidates complete).report.remoteSourceComplete =
        true)
    (hexisting : ip ∈ (existingDiscoveryIps plugin.getDiscoveryIps).1)
    (h : ip ∉ (reconcile inventory manufacturer plugin candidates complete).uniqueCandidateIps) :
    ip ∈ (reconcile inventory manufacturer plugin candidates complete).ipsToRemove := by
  simp only [reconcile] at hsources hremote h ⊢
  rw [if_pos (Bool.and_eq_true_iff.mpr ⟨hsources, hremote⟩)]
  refine List.mem_filter.mpr ⟨hexisting, decide_eq_true fun heligible => h ?_⟩
  exact (List.mem_filter.mp heligible).1

theorem of_mem_ipsToAdd (hdb : inventory.Consistent)
    (h : ip ∈ (reconcile inventory manufacturer plugin candidates complete).ipsToAdd) :
    ip ∈ (reconcile inventory manufacturer plugin candidates complete).uniqueCandidateIps ∧
      (getPrepValue ip = ip → ¬ inventory.OwnedByOther manufacturer ip) := by
  simp only [reconcile] at h ⊢
  obtain ⟨heligible, -⟩ := List.mem_filter.mp h
  obtain ⟨hcandidate, hconflict⟩ := List.mem_filter.mp heligible
  refine ⟨hcandidate, fun hstored howned => of_decide_eq_true hconflict ?_⟩
  exact conflicting_of_owned hdb (List.mem_eraseDups.mpr (List.mem_append_left _ hcandidate)) hstored
    howned

/-- To an empty list a run adds every candidate that is not stored as it is written: no conflict is
named so. -/
theorem mem_ipsToAdd_of_empty (hdb : inventory.Consistent)
    (hlist : plugin.getDiscoveryIps = some [])
    (hcandidate :
      ip ∈ (reconcile inventory manufacturer plugin candidates complete).uniqueCandidateIps)
    (hstored : getPrepValue ip ≠ ip) :
    ip ∈ (reconcile inventory manufacturer plugin candidates complete).ipsToAdd := by
  simp only [reconcile] at hcandidate ⊢
  refine List.mem_filter.mpr ⟨List.mem_filter.mpr ⟨hcandidate, ?_⟩, ?_⟩
  · exact decide_eq_true fun hconflict => hstored (stored_of_conflicting hdb hconflict)
  · have hempty : (existingDiscoveryIps plugin.getDiscoveryIps).1 = [] := by
      rw [hlist]
      rfl
    rw [hempty]
    exact decide_eq_true List.not_mem_nil

theorem complete_of_success
    (h : (reconcile inventory manufacturer plugin candidates complete).report.success = true) :
    (reconcile inventory manufacturer plugin candidates complete).report.sourcesComplete = true ∧
      (reconcile inventory manufacturer plugin candidates complete).report.remoteSourceComplete =
        true := by
  have hsuccess : (reconcile inventory manufacturer plugin candidates complete).report.success =
      ((reconcile inventory manufacturer plugin candidates complete).report.additionsSucceeded &&
        (reconcile inventory manufacturer plugin candidates complete).report.removalsSucceeded &&
        (reconcile inventory manufacturer plugin candidates complete).report.sourcesComplete &&
        (reconcile inventory manufacturer plugin candidates complete).report.remoteSourceComplete) :=
    rfl
  rw [hsuccess, Bool.and_eq_true_iff, Bool.and_eq_true_iff] at h
  exact ⟨h.1.2, h.2⟩

end Asked

/-- The list after the plugin has done what a run asked for. -/
def applyTo (run : ReconciliationRun) (remote : List String) : List String :=
  (remote ++ run.ipsToAdd).filter (· ∉ run.ipsToRemove)

/-- After a complete run the list holds the candidates that no other manufacturer has, as long as
those it has are stored as they are written. -/
theorem mem_applyTo_of_complete {inventory : Inventory} {manufacturer : Nat}
    {plugin : DiscoveryPlugin} {candidates remote : List String} {complete : Bool} {ip : String}
    (hdb : inventory.Consistent)
    (hsources :
      (reconcile inventory manufacturer plugin candidates complete).report.sourcesComplete = true)
    (hremote :
      (reconcile inventory manufacturer plugin candidates complete).report.remoteSourceComplete =
        true)
    (hlist : plugin.getDiscoveryIps = some (remote.map EventValue.text))
    (hcanonical : ∀ value ∈ remote, ipAddress value = some value)
    (hstored : ∀ value ∈
      (reconcile inventory manufacturer plugin candidates complete).uniqueCandidateIps,
      inventory.OwnedByOther manufacturer value → getPrepValue value = value) :
    ip ∈ applyTo (reconcile inventory manufacturer plugin candidates complete) remote ↔
      ip ∈ (reconcile inventory manufacturer plugin candidates complete).uniqueCandidateIps ∧
        ¬ inventory.OwnedByOther manufacturer ip := by
  simp only [reconcile] at hsources hremote hstored
  have hexisting : ∀ value,
      value ∈ (existingDiscoveryIps plugin.getDiscoveryIps).1 ↔ value ∈ remote := by
    obtain ⟨other, hother, hbound, -⟩ := remoteRead_of_complete hremote
    have hsame : remote.map EventValue.text = other.map EventValue.text :=
      Option.some.inj (hlist.symm.trans hother)
    have hlength : remote.length ≤ maxDiscoveryCandidates := by
      have hlengths := congrArg List.length hsame
      rw [List.length_map, List.length_map] at hlengths
      omega
    intro value
    rw [hlist, mem_existingDiscoveryIps hlength]
    constructor
    · rintro ⟨found, hfound, hvalue⟩
      rw [hcanonical found hfound, Option.some.injEq] at hvalue
      exact hvalue ▸ hfound
    · exact fun hvalue => ⟨value, hvalue, hcanonical value hvalue⟩
  have howned : ∀ value ∈ (canonicalizeIpAddresses (candidates.map EventValue.text)).1,
      value ∈ getConflictingIps inventory manufacturer
        ((canonicalizeIpAddresses (candidates.map EventValue.text)).1 ++
          (existingDiscoveryIps plugin.getDiscoveryIps).1).eraseDups ↔
      inventory.OwnedByOther manufacturer value := fun value hvalue =>
    ⟨owned_of_conflicting, fun howned => conflicting_of_owned hdb
      (List.mem_eraseDups.mpr (List.mem_append_left _ hvalue)) (hstored value hvalue howned) howned⟩
  simp only [applyTo, reconcile, if_pos (Bool.and_eq_true_iff.mpr ⟨hsources, hremote⟩),
    List.mem_filter, List.mem_append, hexisting, decide_eq_true_eq]
  constructor
  · rintro ⟨hremote | ⟨⟨hcandidate, hconflict⟩, -⟩, hkept⟩
    · by_contra hnot
      refine hkept ⟨hremote, fun ⟨hcandidate, hconflict⟩ => hnot ⟨hcandidate, fun hother => ?_⟩⟩
      exact hconflict ((howned ip hcandidate).mpr hother)
    · exact ⟨hcandidate, fun hother => hconflict ((howned ip hcandidate).mpr hother)⟩
  · rintro ⟨hcandidate, hother⟩
    have heligible := (not_congr (howned ip hcandidate)).mpr hother
    refine ⟨?_, fun ⟨_, hnot⟩ => hnot ⟨hcandidate, heligible⟩⟩
    by_cases hmem : ip ∈ remote
    · exact .inl hmem
    · exact .inr ⟨⟨hcandidate, heligible⟩, hmem⟩

end DiscoveryService

/-! ### What the sources want -/

section Desired

variable (tables : DiscoveryTables) (getaddrinfo : String → Resolution) (scanCidrs scanFqdns : Bool)
  (manufacturer : Nat)

/-- The addresses a run should leave on the list: those of the managed chassis and those that the
enabled scans expand to, in canonical form. -/
def DiscoveryTables.Desires (ip : String) : Prop :=
  ∃ value, ((∃ row ∈ tables.inventory.chassis,
      row.manufacturer.pk = manufacturer ∧ trim row.ip = value) ∨
    ∃ scan, scanIsEnabled scanCidrs scanFqdns scan = true ∧
      tables.Expands getaddrinfo scan manufacturer value) ∧ ipAddress value = some ip

/-- The managed chassis and the definitions of the enabled scans were all read, every definition
could be expanded, and every address is among the candidates. -/
structure SourcesRead (candidates : List String) : Prop where
  managed : ∀ row ∈ tables.inventory.chassis, row.manufacturer.pk = manufacturer →
    ∃ ip ∈ candidates, ipAddress (trim row.ip) = some ip
  scanned : ∀ scan, scanIsEnabled scanCidrs scanFqdns scan = true → ∀ entry ∈ tables.entries scan,
    entry.manufacturerId = manufacturer →
      definitionIsComplete getaddrinfo scan (trim entry.value) = true ∧
        ∀ value ∈ definitionAddresses getaddrinfo scan (trim entry.value),
          ∃ ip ∈ candidates, ipAddress value = some ip

variable {tables getaddrinfo scanCidrs scanFqdns manufacturer} {candidates : List String}

/-- Whatever is wanted is among the candidates of sources that were read. -/
theorem SourcesRead.mem (h : SourcesRead tables getaddrinfo scanCidrs scanFqdns manufacturer candidates)
    {ip : String} (hip : tables.Desires getaddrinfo scanCidrs scanFqdns manufacturer ip) :
    ip ∈ candidates := by
  obtain ⟨value, hvalue, hip⟩ := hip
  have hfound : ∃ found ∈ candidates, ipAddress value = some found := by
    rcases hvalue with ⟨row, hrow, hmanufacturer, rfl⟩ | ⟨scan, henabled, hexpands⟩
    · exact h.managed row hrow hmanufacturer
    · obtain ⟨entry, hentry, hmanufacturer, hvalue⟩ := hexpands
      exact (h.scanned scan henabled entry hentry hmanufacturer).2 value hvalue
  obtain ⟨found, hfound, hsame⟩ := hfound
  rw [Option.some.inj (hip.symm.trans hsame)]
  exact hfound

variable {plugin : DiscoveryPlugin} {cursors : SourceCursors} {maxHosts : Int}

open DiscoveryService

/-- The texts of the candidates come from the sources. -/
theorem exists_of_mem_candidateIps {value : String}
    (h : value ∈ (candidateIps tables manufacturer getaddrinfo cursors scanCidrs scanFqdns
      maxHosts).1.1) :
    (∃ row ∈ tables.inventory.chassis, row.manufacturer.pk = manufacturer ∧ trim row.ip = value) ∨
      ∃ scan, scanIsEnabled scanCidrs scanFqdns scan = true ∧
        tables.Expands getaddrinfo scan manufacturer value := by
  rcases List.mem_append.mp h with hlocal | hscan
  · exact .inl (mem_localCandidates.1 value hlocal)
  · exact .inr (expands_of_mem_prepared hscan)

/-- The texts of the candidates and their canonical forms. -/
theorem mem_uniqueCandidateIps {ip : String} : ip ∈ (runManufacturerDiscovery tables manufacturer
      getaddrinfo plugin cursors scanCidrs scanFqdns maxHosts).1.uniqueCandidateIps ↔
    ∃ value ∈ (candidateIps tables manufacturer getaddrinfo cursors scanCidrs scanFqdns maxHosts).1.1,
      ipAddress value = some ip := by
  refine mem_canonicalizeIpAddresses.trans ⟨?_, ?_⟩
  · rintro ⟨value, hvalue, hip⟩
    obtain ⟨_, hvalue, heq⟩ := List.mem_map.mp hvalue
    cases heq
    exact ⟨value, hvalue, hip⟩
  · rintro ⟨value, hvalue, hip⟩
    exact ⟨value, List.mem_map_of_mem hvalue, hip⟩

theorem desires_of_mem_candidates {ip : String} (h : ip ∈ (runManufacturerDiscovery tables manufacturer
      getaddrinfo plugin cursors scanCidrs scanFqdns maxHosts).1.uniqueCandidateIps) :
    tables.Desires getaddrinfo scanCidrs scanFqdns manufacturer ip := by
  obtain ⟨value, hvalue, hip⟩ := mem_uniqueCandidateIps.mp h
  exact ⟨value, exists_of_mem_candidateIps hvalue, hip⟩

theorem sourcesRead_of_complete (h : (runManufacturerDiscovery tables manufacturer getaddrinfo plugin
      cursors scanCidrs scanFqdns maxHosts).1.report.sourcesComplete = true) :
    SourcesRead tables getaddrinfo scanCidrs scanFqdns manufacturer
      (runManufacturerDiscovery tables manufacturer getaddrinfo plugin cursors scanCidrs scanFqdns
        maxHosts).1.uniqueCandidateIps := by
  obtain ⟨hsources, hrejected⟩ := Bool.and_eq_true_iff.mp h
  obtain ⟨hlocal, hscan⟩ := Bool.and_eq_true_iff.mp hsources
  have hvalid := rejected_eq_zero.mp (of_decide_eq_true hrejected)
  have hcanonical : ∀ value ∈ (candidateIps tables manufacturer getaddrinfo cursors scanCidrs
      scanFqdns maxHosts).1.1, ∃ ip ∈ (runManufacturerDiscovery tables manufacturer getaddrinfo plugin
        cursors scanCidrs scanFqdns maxHosts).1.uniqueCandidateIps, ipAddress value = some ip := by
    intro value hvalue
    have htext := List.mem_map_of_mem (f := EventValue.text) hvalue
    obtain ⟨ip, hip⟩ := Option.isSome_iff_exists.mp (hvalid _ htext)
    exact ⟨ip, mem_canonicalizeIpAddresses.mpr ⟨value, htext, hip⟩, hip⟩
  constructor
  · intro row hrow hmanufacturer
    exact hcanonical _ (List.mem_append_left _ (mem_localCandidates.2 hlocal row hrow hmanufacturer))
  · intro scan henabled entry hentry hmanufacturer
    obtain ⟨hexpanded, haddresses⟩ := mem_prepared_of_complete hscan henabled hentry hmanufacturer
    refine ⟨hexpanded, fun value hvalue => ?_⟩
    exact hcanonical value (List.mem_append_right _ (haddresses value hvalue))

/-- A plugin whose list is empty and that accepts what it is asked. -/
def emptyListPlugin : DiscoveryPlugin where
  getDiscoveryIps := some []
  addDiscoveryIps _ := true
  removeDiscoveryIps _ := true

variable (tables getaddrinfo scanCidrs scanFqdns manufacturer plugin) in
structure Reconciled (run : ReconciliationRun) : Prop where
  removed : ∀ ip ∈ run.ipsToRemove, tables.inventory.OwnedByOther manufacturer ip ∨
    SourcesRead tables getaddrinfo scanCidrs scanFqdns manufacturer run.uniqueCandidateIps ∧
      RemoteRead plugin.getDiscoveryIps ∧
      ¬ tables.Desires getaddrinfo scanCidrs scanFqdns manufacturer ip
  added : ∀ ip ∈ run.ipsToAdd, ¬ tables.inventory.OwnedByOther manufacturer ip
  converged : run.report.success = true → ∀ remote : List String,
    plugin.getDiscoveryIps = some (remote.map EventValue.text) →
    (∀ value ∈ remote, ipAddress value = some value) → ∀ ip,
      ip ∈ applyTo run remote ↔ tables.Desires getaddrinfo scanCidrs scanFqdns manufacturer ip ∧
        ¬ tables.inventory.OwnedByOther manufacturer ip

/-- No candidate of a run that names a scope is, without it, an address of another manufacturer. -/
def ScopesUnowned (tables : DiscoveryTables) (manufacturer : Nat) (candidates : List String) : Prop :=
  ∀ value ∈ candidates, ∀ ip, ipAddress value = some ip → '%' ∈ ip.toList →
    ¬ tables.inventory.OwnedByOther manufacturer ip

/-- A run reconciles the list, unless an address of another manufacturer is a candidate with a scope. -/
theorem reconciled_of_scopesUnowned (hdb : tables.inventory.Consistent)
    (hscopes : ScopesUnowned tables manufacturer
      (candidateIps tables manufacturer getaddrinfo cursors scanCidrs scanFqdns maxHosts).1.1) :
    Reconciled tables getaddrinfo scanCidrs scanFqdns manufacturer plugin
      (runManufacturerDiscovery tables manufacturer getaddrinfo plugin cursors scanCidrs scanFqdns
        maxHosts).1 := by
  have hstored : ∀ ip ∈ (runManufacturerDiscovery tables manufacturer getaddrinfo plugin cursors
      scanCidrs scanFqdns maxHosts).1.uniqueCandidateIps,
      tables.inventory.OwnedByOther manufacturer ip → getPrepValue ip = ip := by
    intro ip hcandidate howned
    obtain ⟨value, hvalue, hip⟩ := mem_uniqueCandidateIps.mp hcandidate
    exact (getPrepValue_eq_self_iff hip).mpr fun hscope => hscopes value hvalue ip hip hscope howned
  constructor
  · intro ip hip
    rcases of_mem_ipsToRemove hip with howned | ⟨⟨hsources, hremote⟩, hcandidate⟩
    · exact .inl howned
    · have hread := sourcesRead_of_complete hsources
      exact .inr ⟨hread, remoteRead_of_complete hremote, fun hdesired =>
        hcandidate (hread.mem hdesired)⟩
  · intro ip hip howned
    obtain ⟨hcandidate, hunowned⟩ := of_mem_ipsToAdd hdb hip
    exact hunowned (hstored ip hcandidate howned) howned
  · intro hsuccess remote hlist hcanonical ip
    obtain ⟨hsources, hremote⟩ := complete_of_success hsuccess
    have hcandidates := sourcesRead_of_complete hsources
    have hlisted :=
      @mem_applyTo_of_complete _ _ _ _ _ _ ip hdb hsources hremote hlist hcanonical hstored
    exact hlisted.trans (and_congr_left fun _ => ⟨desires_of_mem_candidates, hcandidates.mem⟩)

/-- Whatever the plugin answers, a run removes only what another manufacturer has or what nobody
wants, adds nothing that another manufacturer has, and when it succeeds leaves exactly the wanted
addresses on a list in canonical form: exactly if no candidate that names a scope is, without it, an
address of another manufacturer. -/
theorem manufacturer_discovery_reconciled_iff (tables : DiscoveryTables)
    (hdb : tables.inventory.Consistent) (manufacturer : Nat) (getaddrinfo : String → Resolution)
    (cursors : SourceCursors) (scanCidrs scanFqdns : Bool) (maxHosts : Int) :
    (∀ plugin, Reconciled tables getaddrinfo scanCidrs scanFqdns manufacturer plugin
      (runManufacturerDiscovery tables manufacturer getaddrinfo plugin cursors scanCidrs scanFqdns
        maxHosts).1) ↔
    ScopesUnowned tables manufacturer
      (candidateIps tables manufacturer getaddrinfo cursors scanCidrs scanFqdns maxHosts).1.1 := by
  constructor
  · intro hreconciled value hvalue ip hip hscope howned
    have hlist : emptyListPlugin.getDiscoveryIps = some [] := rfl
    have hadded := mem_ipsToAdd_of_empty hdb hlist
      (mem_uniqueCandidateIps.mpr ⟨value, hvalue, hip⟩)
      (fun hstored => (getPrepValue_eq_self_iff hip).mp hstored hscope)
    exact (hreconciled emptyListPlugin).added ip hadded howned
  · exact fun hscopes plugin => reconciled_of_scopesUnowned hdb hscopes

end Desired

/-- Two manufacturers with a chassis each, and a range of the first one. -/
def sharedNetworkTables : DiscoveryTables where
  inventory :=
    { chassis := [
        { Chassis.unsaved ⟨1, "shure", true⟩ with pk := 1, apiDeviceId := "a", ip := "192.0.2.1" },
        { Chassis.unsaved ⟨2, "sennheiser", true⟩ with pk := 2, apiDeviceId := "b", ip := "192.0.2.6" }]
      chargers := []
      nextPk := 3 }
  cidrs := [⟨1, 1, "192.0.2.4/30"⟩]
  fqdns := []

theorem sharedNetworkTables_consistent : sharedNetworkTables.inventory.Consistent := by
  constructor <;> decide +kernel

/-- The list of the first one holds an address of each and a forgotten one. -/
def sharedNetworkPlugin : DiscoveryPlugin where
  getDiscoveryIps := some [.text "192.0.2.1", .text "192.0.2.6", .text "192.0.2.9"]
  addDiscoveryIps _ := true
  removeDiscoveryIps _ := true

def sharedNetworkRun : ReconciliationRun where
  uniqueCandidateIps := ["192.0.2.1", "192.0.2.5", "192.0.2.6"]
  ipsToAdd := ["192.0.2.5"]
  ipsToRemove := ["192.0.2.6", "192.0.2.9"]
  report := ⟨1, true, true, true, true, true⟩

theorem manufacturer_discovery_reconciled_iff_shared :
    Reconciled sharedNetworkTables (fun _ => .failed) true false 1 sharedNetworkPlugin
      sharedNetworkRun := by
  have hrun : (DiscoveryService.runManufacturerDiscovery sharedNetworkTables 1 (fun _ => .failed)
      sharedNetworkPlugin (fun _ => 0) true false 4096).1 = sharedNetworkRun := by
    decide +kernel
  have hcandidates : (DiscoveryService.candidateIps sharedNetworkTables 1 (fun _ => .failed)
      (fun _ => 0) true false 4096).1.1 = ["192.0.2.1", "192.0.2.5", "192.0.2.6"] := by
    decide +kernel
  rw [← hrun]
  refine (manufacturer_discovery_reconciled_iff sharedNetworkTables sharedNetworkTables_consistent 1 _
    _ true false 4096).mpr ?_ sharedNetworkPlugin
  rw [hcandidates]
  intro value hvalue ip hip hscope
  have hplain : ∀ value ∈ ["192.0.2.1", "192.0.2.5", "192.0.2.6"],
      (ipAddress value).all (fun ip => '%' ∉ ip.toList) = true := by decide +kernel
  have hplain := hplain value hvalue
  rw [hip, Option.all_some, decide_eq_true_eq] at hplain
  exact absurd hscope hplain

/-- Two manufacturers: the chassis of the second one is at an address that a definition of the first one
names with a scope. -/
def scopedTables : DiscoveryTables where
  inventory :=
    { chassis := [
        { Chassis.unsaved ⟨2, "sennheiser", true⟩ with pk := 1, apiDeviceId := "b", ip := "fe80::1" }]
      chargers := []
      nextPk := 2 }
  cidrs := [⟨1, 1, "fe80::1%eth0"⟩]
  fqdns := []

/-- The lookup of owned addresses finds the chassis, and the run asks to add its address all the
same. -/
theorem scoped_address_added :
    DiscoveryService.getConflictingIps scopedTables.inventory 1 ["fe80::1%eth0"] = ["fe80::1"] ∧
    (DiscoveryService.runManufacturerDiscovery scopedTables 1 (fun _ => .failed) emptyListPlugin
      (fun _ => 0) true false 4096).1.ipsToAdd = ["fe80::1%eth0"] ∧
    ¬ Reconciled scopedTables (fun _ => .failed) true false 1 emptyListPlugin
      (DiscoveryService.runManufacturerDiscovery scopedTables 1 (fun _ => .failed) emptyListPlugin
        (fun _ => 0) true false 4096).1 := by
  have hadded : (DiscoveryService.runManufacturerDiscovery scopedTables 1 (fun _ => .failed)
      emptyListPlugin (fun _ => 0) true false 4096).1.ipsToAdd = ["fe80::1%eth0"] := by
    decide +kernel
  refine ⟨by decide +kernel, hadded, fun hreconciled => ?_⟩
  have hunowned := hreconciled.added "fe80::1%eth0"
  rw [hadded] at hunowned
  refine hunowned (List.mem_singleton_self _) ⟨_, List.mem_singleton_self _, by decide, ?_⟩
  decide +kernel

end Micboard
