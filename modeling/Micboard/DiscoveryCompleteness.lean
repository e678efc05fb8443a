import Micboard.DiscoveryReconciliation
import Micboard.LibraryDictionary

/-! When the sources of a reconciliation are read completely. A page, an expansion and a run report
completeness exactly if everything fits into the budget of the run and nothing failed; this says so
in terms of the tables, the resolver and the limit alone. -/

namespace Micboard

open Library Library.Address Library.Budget Library.Text

@[simp] theorem clampCandidateLimit_clamp (limit : Int) :
    clampCandidateLimit (clampCandidateLimit limit : Nat) = clampCandidateLimit limit := by
  rw [clampCandidateLimit, clampCandidateLimit, Int.toNat_natCast]
  exact min_eq_right (min_le_left _ _)

section Expansion

variable {getaddrinfo : String → Resolution} {cidrs fqdns : List String} {maxHosts : Int}
  {order : List ScanSource}

variable (getaddrinfo) in
/-- How many addresses the definitions have together. -/
def addressCount (definitions : List (ScanSource × String)) : Nat :=
  (definitions.map fun entry => (definitionAddresses getaddrinfo entry.1 entry.2).length).sum

theorem addressCount_append (front back : List (ScanSource × String)) :
    addressCount getaddrinfo (front ++ back) =
      addressCount getaddrinfo front + addressCount getaddrinfo back := by
  rw [addressCount, List.map_append, List.sum_append]
  rfl

theorem addressCount_perm {definitions others : List (ScanSource × String)}
    (h : definitions.Perm others) :
    addressCount getaddrinfo definitions = addressCount getaddrinfo others := (h.map _).sum_eq

theorem remainder_cidrIterators : remainder (buildCidrIterators cidrs).1 =
    addressCount getaddrinfo (cidrs.map (Prod.mk .cidr)) := by
  induction cidrs with
  | nil => rfl
  | cons cidr rest ih =>
      simp only [remainder, buildCidrIterators, addressCount] at ih ⊢
      cases hhosts : networkHosts cidr with
      | none => simp [hhosts, ih, definitionAddresses]
      | some hosts => simp [hhosts, ih, definitionAddresses]

/-- Unless a lookup raises, every name has its iterator. -/
theorem remainder_fqdnIterators (h : (buildFqdnIterators getaddrinfo fqdns).2 = true) :
    remainder (buildFqdnIterators getaddrinfo fqdns).1 =
      addressCount getaddrinfo (fqdns.map (Prod.mk .fqdn)) := by
  rw [buildFqdnIterators] at h ⊢
  split at h
  next => cases h
  next hraised =>
    rw [if_neg hraised, remainder, addressCount, List.map_map, List.map_map]
    rfl

theorem fqdnIterators_complete_iff : (buildFqdnIterators getaddrinfo fqdns).2 = true ↔
    ∀ fqdn ∈ fqdns, definitionIsComplete getaddrinfo .fqdn fqdn = true := by
  rw [buildFqdnIterators]
  split
  next hraised =>
    obtain ⟨fqdn, hfqdn, hraised⟩ := List.any_eq_true.mp hraised
    refine ⟨fun h => absurd h Bool.false_ne_true, fun h => ?_⟩
    have hcomplete := h fqdn hfqdn
    rw [definitionIsComplete, of_decide_eq_true hraised] at hcomplete
    cases hcomplete
  next => exact List.all_eq_true

theorem sourceOrder_perm (order : List ScanSource) :
    (order ++ [ScanSource.cidr, ScanSource.fqdn]).eraseDups.Perm [.cidr, .fqdn] := by
  refine (List.perm_ext_iff_of_nodup (nodup_eraseDups _) (by decide)).mpr fun source => ?_
  rw [List.mem_eraseDups, List.mem_append]
  cases source <;> simp

theorem remainder_active (order : List ScanSource)
    (iterators : ScanSource → List AddressIterator) :
    remainder ((order ++ [ScanSource.cidr, ScanSource.fqdn]).eraseDups.flatMap iterators) =
      remainder (iterators .cidr) + remainder (iterators .fqdn) := by
  have hsum := (((sourceOrder_perm order).flatMap_right iterators).map fun iterator =>
    iterator.2.length).sum_eq
  rw [remainder, hsum]
  simp [remainder]

/-- An expansion is complete exactly if every definition can be expanded and the budget is enough. -/
theorem expansion_complete_iff :
    (expandScanningSources getaddrinfo cidrs fqdns maxHosts order).sourcesComplete = true ↔
      (∀ entry ∈ cidrs.map (Prod.mk .cidr) ++ fqdns.map (Prod.mk .fqdn),
        definitionIsComplete getaddrinfo entry.1 entry.2 = true) ∧
      addressCount getaddrinfo (cidrs.map (Prod.mk .cidr) ++ fqdns.map (Prod.mk .fqdn)) ≤
        clampCandidateLimit maxHosts := by
  have hcidrs : (buildCidrIterators cidrs).2 = true ↔
      ∀ cidr ∈ cidrs, definitionIsComplete getaddrinfo .cidr cidr = true := List.all_eq_true
  obtain ⟨iterators, hcidr, hfqdn, hcomplete⟩ : ∃ iterators : ScanSource → List AddressIterator,
      iterators .cidr = (buildCidrIterators cidrs).1 ∧
      iterators .fqdn = (buildFqdnIterators getaddrinfo fqdns).1 ∧
      (expandScanningSources getaddrinfo cidrs fqdns maxHosts order).sourcesComplete =
        ((buildCidrIterators cidrs).2 && (buildFqdnIterators getaddrinfo fqdns).2 &&
          (consume (clampCandidateLimit maxHosts)
            ((order ++ [ScanSource.cidr, ScanSource.fqdn]).eraseDups.flatMap iterators)).2.2) := by
    refine ⟨_, ?_, ?_, rfl⟩ <;> rfl
  have hconsumed : (consume (clampCandidateLimit maxHosts)
      ((order ++ [ScanSource.cidr, ScanSource.fqdn]).eraseDups.flatMap iterators)).2.2 = true ↔
      remainder (buildCidrIterators cidrs).1 + remainder (buildFqdnIterators getaddrinfo fqdns).1 ≤
        clampCandidateLimit maxHosts := by
    rw [consume_complete_iff, remainder_active, hcidr, hfqdn]
  rw [hcomplete, Bool.and_eq_true_iff, Bool.and_eq_true_iff, hconsumed, hcidrs, addressCount_append,
    List.forall_mem_append, List.forall_mem_map, List.forall_mem_map]
  constructor
  · rintro ⟨⟨hcidr, hfqdn⟩, hbudget⟩
    rw [remainder_cidrIterators, remainder_fqdnIterators hfqdn] at hbudget
    exact ⟨⟨hcidr, fqdnIterators_complete_iff.mp hfqdn⟩, hbudget⟩
  · rintro ⟨⟨hcidr, hfqdn⟩, hbudget⟩
    have hresolved := fqdnIterators_complete_iff.mpr hfqdn
    refine ⟨⟨hcidr, hresolved⟩, ?_⟩
    rw [remainder_cidrIterators, remainder_fqdnIterators hresolved]
    exact hbudget

end Expansion

/-! ### Sources of a manufacturer -/

section Manufacturer

variable (tables : DiscoveryTables) (getaddrinfo : String → Resolution) (scanCidrs scanFqdns : Bool)
  (manufacturer : Nat) (maxHosts : Int)

def enabledDefinitions : List (ScanSource × String) :=
  (if scanCidrs then (registrySource tables manufacturer .cidr).values.map (Prod.mk .cidr) else []) ++
    if scanFqdns then (registrySource tables manufacturer .fqdn).values.map (Prod.mk .fqdn) else []

structure ScansFit (limit : Nat) : Prop where
  definitions : (enabledDefinitions tables scanCidrs scanFqdns manufacturer).length ≤ limit
  expandable : ∀ entry ∈ enabledDefinitions tables scanCidrs scanFqdns manufacturer,
    definitionIsComplete getaddrinfo entry.1 entry.2 = true
  addresses :
    addressCount getaddrinfo (enabledDefinitions tables scanCidrs scanFqdns manufacturer) ≤ limit

/-- Everything a run reads fits into its limit and reads as an address. -/
structure SourcesFit : Prop where
  managed : (configuredSource tables manufacturer).rows.length ≤ clampCandidateLimit maxHosts
  scans : ScansFit tables getaddrinfo scanCidrs scanFqdns manufacturer
    (clampCandidateLimit maxHosts - (configuredSource tables manufacturer).rows.length)
  managedValid : ∀ value ∈ (configuredSource tables manufacturer).values,
    (ipAddress value).isSome = true
  scannedValid : ∀ entry ∈ enabledDefinitions tables scanCidrs scanFqdns manufacturer,
    ∀ value ∈ definitionAddresses getaddrinfo entry.1 entry.2, (ipAddress value).isSome = true

variable {tables getaddrinfo scanCidrs scanFqdns manufacturer maxHosts} {cursors : SourceCursors}

theorem mem_enabledDefinitions {scan : ScanSource} {definition : String} :
    (scan, definition) ∈ enabledDefinitions tables scanCidrs scanFqdns manufacturer ↔
      scanIsEnabled scanCidrs scanFqdns scan = true ∧ ∃ entry ∈ tables.entries scan,
        entry.manufacturerId = manufacturer ∧ trim entry.value = definition := by
  rw [enabledDefinitions]
  cases scan <;> cases scanCidrs <;> cases scanFqdns <;>
    simp [scanIsEnabled, DiscoverySource.values, registrySource, and_assoc]

theorem length_enabledDefinitions :
    ((enabledSources tables manufacturer scanCidrs scanFqdns).map fun source =>
      source.rows.length).sum =
      (enabledDefinitions tables scanCidrs scanFqdns manufacturer).length := by
  cases scanCidrs <;> cases scanFqdns <;>
    simp [enabledSources, enabledDefinitions, DiscoverySource.values]

theorem scanValues_perm {group : CursorGroup} {limit : Nat} (scan : ScanSource)
    (hcomplete : pagesComplete (DiscoverySourceCursorService.rotatingPages cursors group
      (enabledSources tables manufacturer scanCidrs scanFqdns) limit).1 = true) :
    (pageValues (DiscoverySourceCursorService.rotatingPages cursors group
      (enabledSources tables manufacturer scanCidrs scanFqdns) limit).1 scan.sourceName).Perm
      (if scanIsEnabled scanCidrs scanFqdns scan then (registrySource tables manufacturer scan).values
        else []) := by
  split
  next henabled =>
    exact pageValues_perm_of_complete uniqueOn_enabledSources (registrySource_mem henabled) hcomplete
  next henabled =>
    rw [pageValues_eq_nil fun source hsource hname => ?_]
    obtain ⟨other, hother, rfl⟩ := mem_enabledSources.mp hsource
    have hsame : other = scan := by
      revert hname
      cases other <;> cases scan <;> simp [registrySource, ScanSource.sourceName]
    exact henabled (hsame ▸ hother)

theorem pageDefinitions_perm {group : CursorGroup} {limit : Nat}
    (hcomplete : pagesComplete (DiscoverySourceCursorService.rotatingPages cursors group
      (enabledSources tables manufacturer scanCidrs scanFqdns) limit).1 = true) :
    ((pageValues (DiscoverySourceCursorService.rotatingPages cursors group
        (enabledSources tables manufacturer scanCidrs scanFqdns) limit).1 .cidrs).map
          (Prod.mk ScanSource.cidr) ++
      (pageValues (DiscoverySourceCursorService.rotatingPages cursors group
        (enabledSources tables manufacturer scanCidrs scanFqdns) limit).1 .fqdns).map
          (Prod.mk ScanSource.fqdn)).Perm
      (enabledDefinitions tables scanCidrs scanFqdns manufacturer) := by
  refine (((scanValues_perm .cidr hcomplete).map _).append
    ((scanValues_perm .fqdn hcomplete).map _)).trans ?_
  rw [enabledDefinitions]
  cases scanCidrs <;> cases scanFqdns <;> exact .refl _

theorem prepared_complete_iff :
    (prepareScanningData tables manufacturer getaddrinfo cursors scanCidrs scanFqdns
      maxHosts).1.sourcesComplete = true ↔
    ScansFit tables getaddrinfo scanCidrs scanFqdns manufacturer (clampCandidateLimit maxHosts) := by
  rw [prepareScanningData, Bool.and_eq_true_iff, expansion_complete_iff, clampCandidateLimit_clamp]
  constructor
  · rintro ⟨hpages, hexpandable, haddresses⟩
    have hperm := pageDefinitions_perm hpages
    rw [addressCount_perm hperm] at haddresses
    refine ⟨?_, fun entry hentry => hexpandable entry (hperm.mem_iff.mpr hentry), haddresses⟩
    rw [← length_enabledDefinitions]
    exact pagesComplete_iff.mp hpages
  · rintro ⟨hdefinitions, hexpandable, haddresses⟩
    rw [← length_enabledDefinitions] at hdefinitions
    have hpages := (@pagesComplete_iff cursors .reconciliationScanSources _ _).mpr hdefinitions
    have hperm := pageDefinitions_perm hpages
    refine ⟨hpages, fun entry hentry => hexpandable entry (hperm.mem_iff.mp hentry), ?_⟩
    rw [addressCount_perm hperm]
    exact haddresses

open DiscoveryService

theorem clampCandidateLimit_sub (used : Nat) :
    clampCandidateLimit ((clampCandidateLimit maxHosts : Int) - used) =
      clampCandidateLimit maxHosts - used := by
  rw [clampCandidateLimit, clampCandidateLimit]
  omega

theorem candidateIps_complete_iff :
    (candidateIps tables manufacturer getaddrinfo cursors scanCidrs scanFqdns maxHosts).1.2 = true ↔
      (configuredSource tables manufacturer).rows.length ≤ clampCandidateLimit maxHosts ∧
      ScansFit tables getaddrinfo scanCidrs scanFqdns manufacturer
        (clampCandidateLimit maxHosts - (configuredSource tables manufacturer).rows.length) := by
  have hlocal : (collectLocalCandidates tables manufacturer cursors
      (clampCandidateLimit maxHosts)).1.2 = true ↔
      (configuredSource tables manufacturer).rows.length ≤ clampCandidateLimit maxHosts := by
    rw [collectLocalCandidates, clampCandidateLimit_clamp]
    exact rotatingPage_complete_iff
  rw [candidateIps, Bool.and_eq_true_iff, prepared_complete_iff, hlocal, clampCandidateLimit_sub]
  refine and_congr_right fun hfits => ?_
  have hvalues : (collectLocalCandidates tables manufacturer cursors
      (clampCandidateLimit maxHosts)).1.1.Perm (configuredSource tables manufacturer).values :=
    rotatingPage_perm (hlocal.mpr hfits)
  rw [hvalues.length_eq, DiscoverySource.values, List.length_map]

/-- A candidate is the text of a managed chassis or of the scan prepared after them. -/
theorem mem_candidateIps {value : String} :
    value ∈ (candidateIps tables manufacturer getaddrinfo cursors scanCidrs scanFqdns maxHosts).1.1 ↔
      value ∈ (collectLocalCandidates tables manufacturer cursors
        (clampCandidateLimit maxHosts)).1.1 ∨
      value ∈ (prepareScanningData tables manufacturer getaddrinfo
        (collectLocalCandidates tables manufacturer cursors (clampCandidateLimit maxHosts)).2
        scanCidrs scanFqdns ((clampCandidateLimit maxHosts : Int) -
          (collectLocalCandidates tables manufacturer cursors
            (clampCandidateLimit maxHosts)).1.1.length)).1.candidates := by
  rw [candidateIps]
  exact List.mem_append

/-- A run reports that its sources are complete exactly if everything it reads fits. -/
theorem sourcesComplete_iff {plugin : DiscoveryPlugin} :
    (runManufacturerDiscovery tables manufacturer getaddrinfo plugin cursors scanCidrs scanFqdns
      maxHosts).1.report.sourcesComplete = true ↔
    SourcesFit tables getaddrinfo scanCidrs scanFqdns manufacturer maxHosts := by
  have hreported : (runManufacturerDiscovery tables manufacturer getaddrinfo plugin cursors scanCidrs
      scanFqdns maxHosts).1.report.sourcesComplete =
      ((candidateIps tables manufacturer getaddrinfo cursors scanCidrs scanFqdns maxHosts).1.2 &&
        (canonicalizeIpAddresses ((candidateIps tables manufacturer getaddrinfo cursors scanCidrs
          scanFqdns maxHosts).1.1.map EventValue.text)).2 = 0) := rfl
  rw [hreported, Bool.and_eq_true_iff, decide_eq_true_eq, rejected_eq_zero, List.forall_mem_map]
  constructor
  · rintro ⟨hcomplete, hvalid⟩
    obtain ⟨hmanaged, hscans⟩ := candidateIps_complete_iff.mp hcomplete
    obtain ⟨hlocal, hprepared⟩ := Bool.and_eq_true_iff.mp hcomplete
    refine ⟨hmanaged, hscans, fun value hvalue => ?_, fun entry hentry value hvalue => ?_⟩
    · exact hvalid value (mem_candidateIps.mpr (.inl ((rotatingPage_perm hlocal).mem_iff.mpr hvalue)))
    · obtain ⟨henabled, row, hrow, hmanufacturer, hdefinition⟩ := mem_enabledDefinitions.mp hentry
      rw [← hdefinition] at hvalue
      exact hvalid value (mem_candidateIps.mpr (.inr
        ((mem_prepared_of_complete hprepared henabled hrow hmanufacturer).2 value hvalue)))
  · rintro ⟨hmanaged, hscans, hmanagedValid, hscannedValid⟩
    refine ⟨candidateIps_complete_iff.mpr ⟨hmanaged, hscans⟩, fun value hvalue => ?_⟩
    rcases mem_candidateIps.mp hvalue with hlocal | hprepared
    · obtain ⟨row, hrow, rfl⟩ := mem_rotatingPage hlocal
      exact hmanagedValid (trim row.2) (List.mem_map.mpr ⟨row, hrow, rfl⟩)
    · obtain ⟨scan, henabled, entry, hentry, hmanufacturer, hvalue⟩ := expands_of_mem_prepared hprepared
      exact hscannedValid (scan, trim entry.value)
        (mem_enabledDefinitions.mpr ⟨henabled, entry, hentry, hmanufacturer, rfl⟩) value hvalue

end Manufacturer

/-- The list of a plugin is read completely exactly if it is a bounded list of addresses. -/
theorem remoteComplete_iff {remote : List String} :
    (DiscoveryService.existingDiscoveryIps (some (remote.map EventValue.text))).2 = true ↔
      remote.length ≤ maxDiscoveryCandidates ∧ ∀ value ∈ remote, (ipAddress value).isSome = true := by
  constructor
  · intro h
    obtain ⟨other, hsame, hbound, hvalid⟩ := DiscoveryService.remoteRead_of_complete h
    have hother : remote = other := by
      refine List.map_injective_iff.mpr (fun a b hab => ?_) (Option.some.inj hsame)
      exact EventValue.text.inj hab
    exact hother ▸ ⟨hbound, hvalid⟩
  · rintro ⟨hbound, hvalid⟩
    have hlength : (remote.map EventValue.text).length ≤ maxDiscoveryCandidates := by
      rw [List.length_map]
      exact hbound
    have hrejected : (DiscoveryService.canonicalizeIpAddresses (remote.map EventValue.text)).2 = 0 := by
      refine DiscoveryService.rejected_eq_zero.mpr fun item hitem => ?_
      obtain ⟨value, hvalue, rfl⟩ := List.mem_map.mp hitem
      exact hvalid value hvalue
    simp only [DiscoveryService.existingDiscoveryIps]
    rw [List.take_of_length_le (Nat.le_succ_of_le hlength), List.take_of_length_le hlength,
      DiscoveryService.filter_isText_map, hrejected]
    simp [Nat.not_lt.mpr hbound]

end Micboard
