import Micboard.DiscoveryTriggers
import Micboard.LibraryBudget

/-! The local sources of discovery candidates: managed chassis, staged devices and the definitions
of the scan registry. They are read in bounded pages that rotate through the rows, the definitions
are expanded under one budget, and every step says whether it left something out. -/

namespace Micboard

open Library Library.Address Library.Budget Library.Text

def maxDiscoveryCandidates : Nat := 4096

/-- Clamp a caller-provided candidate limit to the safe supported range. -/
def clampCandidateLimit (requestedLimit : Int) : Nat :=
  min maxDiscoveryCandidates requestedLimit.toNat

inductive SourceName where
  | configured | staged | cidrs | fqdns
  deriving DecidableEq, Repr

inductive CursorGroup where
  | reconciliationLocalInventory | reconciliationScanSources | fullSyncLocalInventory
  | fullSyncScanSources
  deriving DecidableEq, Repr

/-- The cached cursors of a manufacturer: one for each source of a group and one for the priority among
them. A cursor that cannot be read is zero. -/
abbrev SourceCursors := CursorGroup × Option SourceName → Nat

/-- A source with the keys and values of its rows. -/
structure DiscoverySource where
  name : SourceName
  rows : List (Nat × String)

structure DiscoverySourcePage where
  values : List String
  sourcesComplete : Bool

namespace DiscoverySourceCursorService

/-- One page of a source and its completeness. The page strips its values. -/
def rotatingPage (cursors : SourceCursors) (group : CursorGroup) (source : DiscoverySource)
    (limit : Nat) : DiscoverySourcePage × SourceCursors :=
  if limit = 0 then (⟨[], source.rows.isEmpty⟩, cursors)
  else
    let key := (group, some source.name)
    let (selected, complete) := circularPage Prod.fst (cursors key) limit source.rows
    (⟨selected.map fun row => trim row.2, complete⟩,
      match selected.getLast? with
      | some row => Function.update cursors key row.1
      | none => cursors)

/-- No more than one page plus its overflow sentinel. -/
def boundedSize (source : DiscoverySource) (limit : Nat) : Nat :=
  if limit = 0 then (if source.rows.isEmpty then 0 else 1) else min source.rows.length (limit + 1)

def sharedPages (group : CursorGroup) (limit : Nat) :
    List (DiscoverySource × Nat) → SourceCursors →
      List (SourceName × DiscoverySourcePage) × SourceCursors
  | [], cursors => ([], cursors)
  | (source, share) :: rest, cursors =>
    let (page, cursors) :=
      if share = 0 then (⟨[], decide (boundedSize source limit = 0)⟩, cursors)
      else rotatingPage cursors group source share
    let (pages, cursors) := sharedPages group limit rest cursors
    ((source.name, page) :: pages, cursors)

/-- Share one hard budget fairly across the sources and rotate their priority. -/
def rotatingPages (cursors : SourceCursors) (group : CursorGroup) (sources : List DiscoverySource)
    (limit : Nat) : List (SourceName × DiscoverySourcePage) × SourceCursors :=
  if sources.isEmpty then ([], cursors)
  else if limit = 0 then
    (sources.map fun source => (source.name, ⟨[], decide (boundedSize source 0 = 0)⟩), cursors)
  else
    let startIndex := cursors (group, none) % sources.length
    let ordered := sources.drop startIndex ++ sources.take startIndex
    let shares := allocate limit (ordered.map fun source => boundedSize source limit)
    let (pages, cursors) := sharedPages group limit (ordered.zip shares) cursors
    (pages, if pages.any fun page => !page.2.values.isEmpty then
        Function.update cursors (group, none) ((startIndex + 1) % sources.length)
      else cursors)

end DiscoverySourceCursorService

open DiscoverySourceCursorService

/-- `pages[name].values if name in pages else []`. -/
def pageValues (pages : List (SourceName × DiscoverySourcePage)) (name : SourceName) : List String :=
  ((pages.find? fun page => page.1 = name).map fun page => page.2.values).getD []

/-- `all(page.sources_complete for page in pages.values())`. -/
def pagesComplete (pages : List (SourceName × DiscoverySourcePage)) : Bool :=
  pages.all fun page => page.2.sourcesComplete

/-- What a lookup of a host name comes to: its addresses, a failure, or another exception. -/
inductive Resolution where
  | addresses (found : List String)
  | failed
  | raised
  deriving DecidableEq

/-- The addresses of a definition, in the order in which an expansion gives them. -/
def definitionAddresses (getaddrinfo : String → Resolution) : ScanSource → String → List String
  | .cidr, cidr => (networkHosts cidr).getD []
  | .fqdn, fqdn =>
    match getaddrinfo fqdn with
    | .addresses found => found.dedup.insertionSort (· ≤ ·)
    | .failed | .raised => []

/-- A definition can be expanded: a range is well formed, a name is resolved. -/
def definitionIsComplete (getaddrinfo : String → Resolution) : ScanSource → String → Bool
  | .cidr, cidr => (networkHosts cidr).isSome
  | .fqdn, fqdn => match getaddrinfo fqdn with
    | .addresses _ => true
    | .failed | .raised => false

/-- An iterator over the addresses of a definition. -/
abbrev AddressIterator := (ScanSource × String) × List String

def buildCidrIterators (cidrs : List String) : List AddressIterator × Bool :=
  (cidrs.filterMap fun cidr => (networkHosts cidr).map fun hosts => ((.cidr, cidr), hosts),
    cidrs.all fun cidr => (networkHosts cidr).isSome)

/-- One lookup that raises discards all of them. -/
def buildFqdnIterators (getaddrinfo : String → Resolution) (fqdns : List String) :
    List AddressIterator × Bool :=
  if fqdns.any fun fqdn => getaddrinfo fqdn = .raised then ([], false)
  else
    (fqdns.map fun fqdn => ((.fqdn, fqdn), definitionAddresses getaddrinfo .fqdn fqdn),
      fqdns.all (definitionIsComplete getaddrinfo .fqdn))

structure ScanExpansion where
  cidrHosts : List (String × List String)
  fqdnHosts : List (String × List String)
  totalToScan : Nat
  sourcesComplete : Bool

/-- The addresses taken for each definition of a source: the definitions are the keys of a
dictionary. -/
def addressesMap (source : ScanSource) (definitions : List String)
    (taken : List ((ScanSource × String) × String)) : List (String × List String) :=
  definitions.eraseDups.map fun definition =>
    (definition, (taken.filter fun item => item.1 = (source, definition)).map Prod.snd)

/-- Interleave configured definitions under one bounded address budget. -/
def expandScanningSources (getaddrinfo : String → Resolution) (cidrs fqdns : List String)
    (maxHosts : Int) (sourceOrder : List ScanSource) : ScanExpansion :=
  let (cidrIterators, cidrsComplete) := buildCidrIterators cidrs
  let (fqdnIterators, fqdnsComplete) := buildFqdnIterators getaddrinfo fqdns
  let active := (sourceOrder ++ [ScanSource.cidr, ScanSource.fqdn]).eraseDups.flatMap fun
    | ScanSource.cidr => cidrIterators
    | ScanSource.fqdn => fqdnIterators
  let (taken, totalToScan, iteratorsComplete) := consume (clampCandidateLimit maxHosts) active
  { cidrHosts := addressesMap .cidr cidrs taken
    fqdnHosts := addressesMap .fqdn fqdns taken
    totalToScan
    sourcesComplete := cidrsComplete && fqdnsComplete && iteratorsComplete }

def ScanSource.sourceName : ScanSource → SourceName
  | .cidr => .cidrs
  | .fqdn => .fqdns

section Manufacturer

variable (tables : DiscoveryTables) (manufacturer : Nat)

/-- The managed chassis of the manufacturer. -/
def configuredSource : DiscoverySource where
  name := .configured
  rows := (tables.inventory.chassis.filter fun row => row.manufacturer.pk = manufacturer).map
    fun row => (row.pk, row.ip)

/-- The registry entries of the manufacturer. -/
def registrySource (source : ScanSource) : DiscoverySource where
  name := source.sourceName
  rows := ((tables.entries source).filter fun row => row.manufacturerId = manufacturer).map
    fun row => (row.pk, row.value)

def enabledSources (scanCidrs scanFqdns : Bool) : List DiscoverySource :=
  (if scanCidrs then [registrySource tables manufacturer .cidr] else []) ++
    if scanFqdns then [registrySource tables manufacturer .fqdn] else []

/-- The scans among the names of pages, in their order. -/
def scanOrder (pages : List (SourceName × DiscoverySourcePage)) : List ScanSource :=
  pages.filterMap fun
    | (.cidrs, _) => some .cidr
    | (.fqdns, _) => some .fqdn
    | _ => none

/-- Collect a bounded desired-state projection from locally managed chassis. -/
def collectLocalCandidates (cursors : SourceCursors) (limit : Int) :
    (List String × Bool) × SourceCursors :=
  let (page, cursors) := rotatingPage cursors .reconciliationLocalInventory
    (configuredSource tables manufacturer) (clampCandidateLimit limit)
  ((page.values, page.sourcesComplete), cursors)

/-- Prepare scan data under one global bounded address budget. -/
def prepareScanningData (getaddrinfo : String → Resolution) (cursors : SourceCursors)
    (scanCidrs scanFqdns : Bool) (maxHosts : Int) : ScanExpansion × SourceCursors :=
  let candidateLimit := clampCandidateLimit maxHosts
  let (pages, cursors) := rotatingPages cursors .reconciliationScanSources
    (enabledSources tables manufacturer scanCidrs scanFqdns) candidateLimit
  let expansion := expandScanningSources getaddrinfo (pageValues pages .cidrs)
    (pageValues pages .fqdns) candidateLimit (scanOrder pages)
  ({ expansion with sourcesComplete := pagesComplete pages && expansion.sourcesComplete }, cursors)

end Manufacturer

section Pages

variable {cursors : SourceCursors} {group : CursorGroup} {sources : List DiscoverySource}
  {source : DiscoverySource} {limit : Nat}

theorem mem_rotatingPage {value : String}
    (h : value ∈ (rotatingPage cursors group source limit).1.values) :
    ∃ row ∈ source.rows, trim row.2 = value := by
  rw [rotatingPage] at h
  split at h
  next => cases h
  next =>
    obtain ⟨row, hrow, rfl⟩ := List.mem_map.mp h
    exact ⟨row, mem_of_mem_circularPage hrow, rfl⟩

theorem rotatingPage_complete_iff :
    (rotatingPage cursors group source limit).1.sourcesComplete = true ↔
      source.rows.length ≤ limit := by
  rw [rotatingPage]
  split
  next hlimit =>
    rw [hlimit, Nat.le_zero, List.length_eq_zero_iff]
    exact List.isEmpty_iff
  next => exact circularPage_complete_iff

def DiscoverySource.values (source : DiscoverySource) : List String :=
  source.rows.map fun row => trim row.2

theorem rotatingPage_perm
    (h : (rotatingPage cursors group source limit).1.sourcesComplete = true) :
    (rotatingPage cursors group source limit).1.values.Perm source.values := by
  have hfits := rotatingPage_complete_iff.mp h
  rw [rotatingPage]
  split
  next hlimit =>
    rw [hlimit, Nat.le_zero, List.length_eq_zero_iff] at hfits
    rw [DiscoverySource.values, hfits]
    exact .nil
  next => exact (circularPage_perm (circularPage_complete_iff.mpr hfits)).map _

/-- A page of one of the sources: it holds values of the source only, all of them if it is complete. -/
def IsPageOf (page : SourceName × DiscoverySourcePage) (source : DiscoverySource) : Prop :=
  page.1 = source.name ∧
    (∀ value ∈ page.2.values, ∃ row ∈ source.rows, trim row.2 = value) ∧
    (page.2.sourcesComplete = true → page.2.values.Perm source.values)

theorem isPageOf_empty (h : boundedSize source limit = 0 → source.rows = []) :
    IsPageOf (source.name, ⟨[], decide (boundedSize source limit = 0)⟩) source := by
  refine ⟨rfl, fun value hvalue => absurd hvalue List.not_mem_nil, fun hcomplete => ?_⟩
  rw [DiscoverySource.values, h (of_decide_eq_true hcomplete)]
  exact .nil

theorem boundedSize_eq_zero : boundedSize source limit = 0 ↔ source.rows = [] := by
  rw [boundedSize, ← List.length_eq_zero_iff]
  split
  next =>
    split
    next hempty => simp [List.isEmpty_iff.mp hempty]
    next hempty => simpa using fun h => hempty (List.isEmpty_iff.mpr h)
  next => omega

theorem sharedPages_isPageOf (shared : List (DiscoverySource × Nat)) :
    List.Forall₂ IsPageOf (sharedPages group limit shared cursors).1 (shared.map Prod.fst) := by
  induction shared generalizing cursors with
  | nil => exact .nil
  | cons head rest ih =>
      obtain ⟨source, share⟩ := head
      rw [sharedPages]
      refine .cons ?_ ih
      split
      next => exact isPageOf_empty boundedSize_eq_zero.mp
      next => exact ⟨rfl, fun value => mem_rotatingPage, rotatingPage_perm⟩

theorem rotatingPages_isPageOf :
    ∃ ordered : List DiscoverySource, ordered.Perm sources ∧
      List.Forall₂ IsPageOf (rotatingPages cursors group sources limit).1 ordered := by
  rw [rotatingPages]
  split
  next hempty =>
    rw [List.isEmpty_iff.mp hempty]
    exact ⟨[], .nil, .nil⟩
  next =>
    split
    next =>
      refine ⟨sources, .refl _, List.forall₂_map_left_iff.mpr (List.forall₂_same.mpr ?_)⟩
      exact fun source _ => isPageOf_empty boundedSize_eq_zero.mp
    next =>
      generalize cursors (group, none) % sources.length = start
      refine ⟨sources.drop start ++ sources.take start, ?_, ?_⟩
      · exact List.perm_append_comm.trans (by rw [List.take_append_drop])
      · have hpages := @sharedPages_isPageOf cursors group limit
          ((sources.drop start ++ sources.take start).zip
            (allocate limit ((sources.drop start ++ sources.take start).map fun source =>
              boundedSize source limit)))
        rw [List.map_fst_zip (by rw [length_allocate, List.length_map])] at hpages
        exact hpages

theorem exists_of_forall₂ {α β : Type} {R : α → β → Prop} {as : List α} {bs : List β}
    (h : List.Forall₂ R as bs) : (∀ a ∈ as, ∃ b ∈ bs, R a b) ∧ ∀ b ∈ bs, ∃ a ∈ as, R a b := by
  induction h with
  | nil => simp
  | cons hab _ ih =>
      constructor
      · intro a ha
        rcases List.mem_cons.mp ha with rfl | ha
        · exact ⟨_, List.mem_cons_self, hab⟩
        · obtain ⟨b, hb, hrel⟩ := ih.1 a ha
          exact ⟨b, List.mem_cons_of_mem _ hb, hrel⟩
      · intro b hb
        rcases List.mem_cons.mp hb with rfl | hb
        · exact ⟨_, List.mem_cons_self, hab⟩
        · obtain ⟨a, ha, hrel⟩ := ih.2 b hb
          exact ⟨a, List.mem_cons_of_mem _ ha, hrel⟩

theorem mem_pageValues (hunique : UniqueOn DiscoverySource.name sources) (hsource : source ∈ sources)
    {value : String}
    (h : value ∈ pageValues (rotatingPages cursors group sources limit).1 source.name) :
    ∃ row ∈ source.rows, trim row.2 = value := by
  obtain ⟨ordered, hperm, hpages⟩ := @rotatingPages_isPageOf cursors group sources limit
  rw [pageValues] at h
  cases hfind : (rotatingPages cursors group sources limit).1.find? fun page =>
      page.1 = source.name with
  | none =>
      rw [hfind] at h
      cases h
  | some page =>
      rw [hfind] at h
      obtain ⟨owner, howner, hname, hvalues, -⟩ :=
        (exists_of_forall₂ hpages).1 page (List.mem_of_find?_eq_some hfind)
      have hsame : page.1 = source.name := by simpa using List.find?_some hfind
      rw [← hunique.eq (hperm.mem_iff.mp howner) hsource (hname.symm.trans hsame)]
      exact hvalues value h

theorem pageValues_perm_of_complete (hunique : UniqueOn DiscoverySource.name sources)
    (hsource : source ∈ sources)
    (h : pagesComplete (rotatingPages cursors group sources limit).1 = true) :
    (pageValues (rotatingPages cursors group sources limit).1 source.name).Perm source.values := by
  obtain ⟨ordered, hperm, hpages⟩ := @rotatingPages_isPageOf cursors group sources limit
  obtain ⟨page, hpage, hname, -⟩ :=
    (exists_of_forall₂ hpages).2 source (hperm.mem_iff.mpr hsource)
  rw [pageValues]
  cases hfind : (rotatingPages cursors group sources limit).1.find? fun page =>
      page.1 = source.name with
  | none => exact absurd hname (by simpa using List.find?_eq_none.mp hfind page hpage)
  | some found =>
      have hfound := List.mem_of_find?_eq_some hfind
      obtain ⟨owner, howner, hownerName, -, hall⟩ := (exists_of_forall₂ hpages).1 found hfound
      have hsame : found.1 = source.name := by simpa using List.find?_some hfind
      have heq := hunique.eq (hperm.mem_iff.mp howner) hsource (hownerName.symm.trans hsame)
      rw [← heq]
      exact hall (List.all_eq_true.mp h found hfound)

theorem sharedPages_complete_iff (shared : List (DiscoverySource × Nat)) :
    pagesComplete (sharedPages group limit shared cursors).1 = true ↔
      ∀ share ∈ shared, share.1.rows.length ≤ share.2 := by
  induction shared generalizing cursors with
  | nil => simp [sharedPages, pagesComplete]
  | cons head rest ih =>
      obtain ⟨source, share⟩ := head
      rw [sharedPages, pagesComplete, List.all_cons, Bool.and_eq_true_iff, List.forall_mem_cons]
      refine and_congr ?_ ih
      split
      next hshare =>
        rw [decide_eq_true_eq, boundedSize_eq_zero, ← List.length_eq_zero_iff]
        show source.rows.length = 0 ↔ source.rows.length ≤ share
        rw [hshare, Nat.le_zero]
      next => exact rotatingPage_complete_iff

theorem pagesComplete_iff : pagesComplete (rotatingPages cursors group sources limit).1 = true ↔
    (sources.map fun source => source.rows.length).sum ≤ limit := by
  rw [rotatingPages]
  split
  next hempty =>
    rw [List.isEmpty_iff.mp hempty]
    simp [pagesComplete]
  next =>
    split
    next hlimit =>
      rw [hlimit, Nat.le_zero, List.sum_eq_zero_iff, List.forall_mem_map, pagesComplete,
        List.all_eq_true, List.forall_mem_map]
      refine forall₂_congr fun source _ => ?_
      rw [decide_eq_true_eq, boundedSize_eq_zero, List.length_eq_zero_iff]
    next hlimit =>
      simp only [sharedPages_complete_iff]
      generalize cursors (group, none) % sources.length = start
      have hperm : (sources.drop start ++ sources.take start).Perm sources :=
        List.perm_append_comm.trans (by rw [List.take_append_drop])
      rw [← (hperm.map fun source => source.rows.length).sum_eq]
      generalize sources.drop start ++ sources.take start = ordered
      obtain ⟨hspent, henough⟩ := allocate_spec limit (ordered.map fun source =>
        boundedSize source limit)
      have hshared : (∀ share ∈ ordered.zip (allocate limit (ordered.map fun source =>
          boundedSize source limit)), share.1.rows.length ≤ share.2) ↔
          List.Forall₂ (fun size share => size ≤ share) (ordered.map fun source => source.rows.length)
            (allocate limit (ordered.map fun source => boundedSize source limit)) := by
        rw [List.forall₂_map_left_iff, List.forall₂_iff_zip]
        simp [length_allocate]
      rw [hshared]
      constructor
      · exact fun hshares => hshares.sum_le_sum.trans hspent
      · intro hfits
        have hsizes : (ordered.map fun source => boundedSize source limit) =
            ordered.map fun source => source.rows.length := by
          refine List.map_congr_left fun source hsource => ?_
          have hle := List.single_le_sum (by simp) _
            (List.mem_map_of_mem (f := fun source : DiscoverySource => source.rows.length) hsource)
          rw [boundedSize, if_neg hlimit]
          omega
        rw [hsizes] at henough ⊢
        rw [henough hfits]
        exact List.forall₂_same.mpr fun _ _ => Nat.le_refl _

theorem pageValues_eq_nil {name : SourceName} (h : ∀ source ∈ sources, source.name ≠ name) :
    pageValues (rotatingPages cursors group sources limit).1 name = [] := by
  obtain ⟨ordered, hperm, hpages⟩ := @rotatingPages_isPageOf cursors group sources limit
  rw [pageValues, List.find?_eq_none.mpr fun page hpage => ?_]
  · rfl
  · obtain ⟨source, hsource, hname, -⟩ := (exists_of_forall₂ hpages).1 page hpage
    rw [decide_eq_true_eq, hname]
    exact h source (hperm.mem_iff.mp hsource)

end Pages

section Expansion

variable {getaddrinfo : String → Resolution} {cidrs fqdns : List String} {maxHosts : Int}
  {order : List ScanSource}

def definitionsOf (cidrs fqdns : List String) : ScanSource → List String
  | .cidr => cidrs
  | .fqdn => fqdns

def ScanExpansion.candidates (expansion : ScanExpansion) : List String :=
  expansion.cidrHosts.flatMap Prod.snd ++ expansion.fqdnHosts.flatMap Prod.snd

theorem mem_addressesMap {source : ScanSource} {definitions : List String}
    {taken : List ((ScanSource × String) × String)} {ip : String} :
    ip ∈ (addressesMap source definitions taken).flatMap Prod.snd ↔
      ∃ definition ∈ definitions, ((source, definition), ip) ∈ taken := by
  constructor
  · intro h
    obtain ⟨entry, hentry, hip⟩ := List.mem_flatMap.mp h
    obtain ⟨definition, hdefinition, rfl⟩ := List.mem_map.mp hentry
    obtain ⟨⟨key, item⟩, hitem, rfl⟩ := List.mem_map.mp hip
    obtain ⟨hitem, hkey⟩ := List.mem_filter.mp hitem
    obtain rfl : key = (source, definition) := of_decide_eq_true hkey
    exact ⟨definition, List.mem_eraseDups.mp hdefinition, hitem⟩
  · rintro ⟨definition, hdefinition, hitem⟩
    refine List.mem_flatMap.mpr ⟨_, List.mem_map.mpr ⟨definition,
      List.mem_eraseDups.mpr hdefinition, rfl⟩, List.mem_map.mpr ⟨((source, definition), ip), ?_, rfl⟩⟩
    exact List.mem_filter.mpr ⟨hitem, decide_eq_true rfl⟩

theorem pending_cidrIterators {key : ScanSource × String} {ip : String} :
    Pending (buildCidrIterators cidrs).1 key ip ↔
      ∃ cidr ∈ cidrs, key = (.cidr, cidr) ∧ ip ∈ definitionAddresses getaddrinfo .cidr cidr := by
  simp only [Pending, buildCidrIterators, List.mem_filterMap, Option.map_eq_some_iff,
    Prod.mk.injEq, definitionAddresses]
  constructor
  · rintro ⟨hosts, ⟨cidr, hcidr, found, hfound, rfl, rfl⟩, hip⟩
    refine ⟨cidr, hcidr, rfl, ?_⟩
    rw [hfound]
    exact hip
  · rintro ⟨cidr, hcidr, rfl, hip⟩
    cases hhosts : networkHosts cidr with
    | none =>
        rw [hhosts] at hip
        cases hip
    | some hosts =>
        rw [hhosts] at hip
        exact ⟨hosts, ⟨cidr, hcidr, hosts, hhosts, rfl, rfl⟩, hip⟩

theorem pending_fqdnIterators {key : ScanSource × String} {ip : String} :
    Pending (buildFqdnIterators getaddrinfo fqdns).1 key ip ↔
      (∀ fqdn ∈ fqdns, getaddrinfo fqdn ≠ .raised) ∧
      ∃ fqdn ∈ fqdns, key = (.fqdn, fqdn) ∧ ip ∈ definitionAddresses getaddrinfo .fqdn fqdn := by
  rw [buildFqdnIterators]
  split
  next hraised =>
    obtain ⟨fqdn, hfqdn, hraised⟩ := List.any_eq_true.mp hraised
    constructor
    · exact fun h => absurd h pending_nil
    · rintro ⟨hall, -⟩
      exact absurd (of_decide_eq_true hraised) (hall fqdn hfqdn)
  next hraised =>
    have hall : ∀ fqdn ∈ fqdns, getaddrinfo fqdn ≠ .raised := fun fqdn hfqdn heq =>
      hraised (List.any_eq_true.mpr ⟨fqdn, hfqdn, decide_eq_true heq⟩)
    simp only [Pending, List.mem_map, Prod.mk.injEq]
    constructor
    · rintro ⟨found, ⟨fqdn, hfqdn, rfl, rfl⟩, hip⟩
      exact ⟨hall, fqdn, hfqdn, rfl, hip⟩
    · rintro ⟨-, fqdn, hfqdn, rfl, hip⟩
      exact ⟨_, ⟨fqdn, hfqdn, rfl, rfl⟩, hip⟩

theorem pending_active {key : ScanSource × String} {ip : String} :
    Pending ((order ++ [ScanSource.cidr, ScanSource.fqdn]).eraseDups.flatMap fun
      | ScanSource.cidr => (buildCidrIterators cidrs).1
      | ScanSource.fqdn => (buildFqdnIterators getaddrinfo fqdns).1) key ip ↔
    Pending (buildCidrIterators cidrs).1 key ip ∨
      Pending (buildFqdnIterators getaddrinfo fqdns).1 key ip := by
  have hmem : ∀ source : ScanSource,
      source ∈ (order ++ [ScanSource.cidr, ScanSource.fqdn]).eraseDups := by
    intro source
    rw [List.mem_eraseDups, List.mem_append]
    cases source <;> simp
  constructor
  · rintro ⟨items, hitems, hip⟩
    obtain ⟨source, -, hitems⟩ := List.mem_flatMap.mp hitems
    cases source with
    | cidr => exact .inl ⟨items, hitems, hip⟩
    | fqdn => exact .inr ⟨items, hitems, hip⟩
  · rintro (⟨items, hitems, hip⟩ | ⟨items, hitems, hip⟩)
    · exact ⟨items, List.mem_flatMap.mpr ⟨.cidr, hmem .cidr, hitems⟩, hip⟩
    · exact ⟨items, List.mem_flatMap.mpr ⟨.fqdn, hmem .fqdn, hitems⟩, hip⟩

theorem mem_expansion_candidates {ip : String} :
    ip ∈ (expandScanningSources getaddrinfo cidrs fqdns maxHosts order).candidates ↔
      ∃ source, ∃ definition ∈ definitionsOf cidrs fqdns source,
        ((source, definition), ip) ∈ (consume (clampCandidateLimit maxHosts)
          ((order ++ [ScanSource.cidr, ScanSource.fqdn]).eraseDups.flatMap fun
            | ScanSource.cidr => (buildCidrIterators cidrs).1
            | ScanSource.fqdn => (buildFqdnIterators getaddrinfo fqdns).1)).1 := by
  rw [ScanExpansion.candidates, List.mem_append, expandScanningSources, mem_addressesMap,
    mem_addressesMap]
  constructor
  · rintro (⟨cidr, hcidr, hip⟩ | ⟨fqdn, hfqdn, hip⟩)
    · exact ⟨.cidr, cidr, hcidr, hip⟩
    · exact ⟨.fqdn, fqdn, hfqdn, hip⟩
  · rintro ⟨source, definition, hdefinition, hip⟩
    cases source with
    | cidr => exact .inl ⟨definition, hdefinition, hip⟩
    | fqdn => exact .inr ⟨definition, hdefinition, hip⟩

theorem exists_of_mem_expansion {ip : String}
    (h : ip ∈ (expandScanningSources getaddrinfo cidrs fqdns maxHosts order).candidates) :
    ∃ source, ∃ definition ∈ definitionsOf cidrs fqdns source,
      ip ∈ definitionAddresses getaddrinfo source definition := by
  obtain ⟨source, definition, hdefinition, htaken⟩ := mem_expansion_candidates.mp h
  refine ⟨source, definition, hdefinition, ?_⟩
  rcases pending_active.mp (pending_of_mem_consume htaken) with hcidr | hfqdn
  · obtain ⟨cidr, -, heq, hip⟩ := (@pending_cidrIterators getaddrinfo cidrs _ _).mp hcidr
    cases heq
    exact hip
  · obtain ⟨-, fqdn, -, heq, hip⟩ := pending_fqdnIterators.mp hfqdn
    cases heq
    exact hip

/-- A complete expansion gives all of them, and can expand every definition. -/
theorem mem_expansion_of_complete
    (h : (expandScanningSources getaddrinfo cidrs fqdns maxHosts order).sourcesComplete = true)
    {source : ScanSource} {definition : String}
    (hdefinition : definition ∈ definitionsOf cidrs fqdns source) :
    definitionIsComplete getaddrinfo source definition = true ∧
      ∀ ip ∈ definitionAddresses getaddrinfo source definition,
        ip ∈ (expandScanningSources getaddrinfo cidrs fqdns maxHosts order).candidates := by
  obtain ⟨hdefinitions, hiterators⟩ := Bool.and_eq_true_iff.mp h
  obtain ⟨hcidrs, hfqdns⟩ := Bool.and_eq_true_iff.mp hdefinitions
  have hraised : ∀ fqdn ∈ fqdns, definitionIsComplete getaddrinfo .fqdn fqdn = true := by
    have hfqdns : (buildFqdnIterators getaddrinfo fqdns).2 = true := hfqdns
    rw [buildFqdnIterators] at hfqdns
    split at hfqdns
    next => cases hfqdns
    next => exact List.all_eq_true.mp hfqdns
  constructor
  · cases source with
    | cidr => exact List.all_eq_true.mp hcidrs definition hdefinition
    | fqdn => exact hraised definition hdefinition
  · intro ip hip
    refine mem_expansion_candidates.mpr ⟨source, definition, hdefinition,
      mem_consume_of_complete hiterators (pending_active.mpr ?_)⟩
    cases source with
    | cidr =>
        exact .inl ((@pending_cidrIterators getaddrinfo cidrs _ _).mpr
          ⟨definition, hdefinition, rfl, hip⟩)
    | fqdn =>
        refine .inr (pending_fqdnIterators.mpr ⟨fun fqdn hfqdn heq => ?_, definition, hdefinition,
          rfl, hip⟩)
        have hcomplete := hraised fqdn hfqdn
        rw [definitionIsComplete, heq] at hcomplete
        cases hcomplete

end Expansion

/-! ### What a manufacturer's sources hold -/

def scanIsEnabled (scanCidrs scanFqdns : Bool) : ScanSource → Bool
  | .cidr => scanCidrs
  | .fqdn => scanFqdns

namespace DiscoveryTables

variable (tables : DiscoveryTables) (getaddrinfo : String → Resolution)

/-- A registry entry of the manufacturer expands to the address. -/
def Expands (source : ScanSource) (manufacturer : Nat) (ip : String) : Prop :=
  ∃ entry ∈ tables.entries source, entry.manufacturerId = manufacturer ∧
    ip ∈ definitionAddresses getaddrinfo source (trim entry.value)

end DiscoveryTables

section Prepared

variable {tables : DiscoveryTables} {manufacturer : Nat} {getaddrinfo : String → Resolution}
  {cursors : SourceCursors} {scanCidrs scanFqdns : Bool}

theorem mem_enabledSources {source : DiscoverySource} :
    source ∈ enabledSources tables manufacturer scanCidrs scanFqdns ↔
      ∃ scan, scanIsEnabled scanCidrs scanFqdns scan = true ∧
        source = registrySource tables manufacturer scan := by
  rw [enabledSources, List.mem_append]
  constructor
  · rintro (h | h)
    · split at h
      next hcidrs => exact ⟨.cidr, hcidrs, List.mem_singleton.mp h⟩
      next => cases h
    · split at h
      next hfqdns => exact ⟨.fqdn, hfqdns, List.mem_singleton.mp h⟩
      next => cases h
  · rintro ⟨scan, henabled, rfl⟩
    cases scan with
    | cidr =>
        left
        rw [if_pos (show scanCidrs = true from henabled)]
        exact List.mem_singleton_self _
    | fqdn =>
        right
        rw [if_pos (show scanFqdns = true from henabled)]
        exact List.mem_singleton_self _

theorem registrySource_mem {scan : ScanSource}
    (henabled : scanIsEnabled scanCidrs scanFqdns scan = true) :
    registrySource tables manufacturer scan ∈
      enabledSources tables manufacturer scanCidrs scanFqdns :=
  mem_enabledSources.mpr ⟨scan, henabled, rfl⟩

theorem uniqueOn_enabledSources :
    UniqueOn DiscoverySource.name (enabledSources tables manufacturer scanCidrs scanFqdns) := by
  cases scanCidrs <;> cases scanFqdns <;>
    simp [enabledSources, UniqueOn, registrySource, ScanSource.sourceName]

theorem mem_definitionsOf {group : CursorGroup} {limit : Nat} {scan : ScanSource}
    {definition : String} (h : definition ∈ pageValues (rotatingPages cursors group
      (enabledSources tables manufacturer scanCidrs scanFqdns) limit).1 scan.sourceName) :
    scanIsEnabled scanCidrs scanFqdns scan = true ∧ ∃ entry ∈ tables.entries scan,
      entry.manufacturerId = manufacturer ∧ trim entry.value = definition := by
  by_cases henabled : scanIsEnabled scanCidrs scanFqdns scan = true
  · obtain ⟨row, hrow, rfl⟩ :=
      mem_pageValues uniqueOn_enabledSources (registrySource_mem henabled) h
    obtain ⟨entry, hentry, rfl⟩ := List.mem_map.mp hrow
    obtain ⟨hentry, hmanufacturer⟩ := List.mem_filter.mp hentry
    exact ⟨henabled, entry, hentry, of_decide_eq_true hmanufacturer, rfl⟩
  · rw [pageValues_eq_nil] at h
    · cases h
    · intro source hsource hname
      obtain ⟨other, hother, rfl⟩ := mem_enabledSources.mp hsource
      refine henabled ?_
      have hsame : other = scan := by
        revert hname
        cases other <;> cases scan <;> simp [registrySource, ScanSource.sourceName]
      rw [← hsame]
      exact hother

theorem mem_definitionsOf_of_complete {group : CursorGroup} {limit : Nat} {scan : ScanSource}
    (hcomplete : pagesComplete (rotatingPages cursors group
      (enabledSources tables manufacturer scanCidrs scanFqdns) limit).1 = true)
    (henabled : scanIsEnabled scanCidrs scanFqdns scan = true) {entry : RegistryEntry}
    (hentry : entry ∈ tables.entries scan) (hmanufacturer : entry.manufacturerId = manufacturer) :
    trim entry.value ∈ pageValues (rotatingPages cursors group
      (enabledSources tables manufacturer scanCidrs scanFqdns) limit).1 scan.sourceName := by
  have hvalues := pageValues_perm_of_complete uniqueOn_enabledSources (registrySource_mem henabled)
    hcomplete
  refine hvalues.mem_iff.mpr (List.mem_map.mpr ⟨(entry.pk, entry.value), ?_, rfl⟩)
  exact List.mem_map.mpr ⟨entry, List.mem_filter.mpr ⟨hentry, decide_eq_true hmanufacturer⟩, rfl⟩

theorem definitionsOf_pageValues (pages : List (SourceName × DiscoverySourcePage))
    (scan : ScanSource) :
    definitionsOf (pageValues pages .cidrs) (pageValues pages .fqdns) scan =
      pageValues pages scan.sourceName := by
  cases scan <;> rfl

variable {maxHosts : Int}

/-- Scan data hold addresses of entries of enabled scans only. -/
theorem expands_of_mem_prepared {ip : String}
    (h : ip ∈ (prepareScanningData tables manufacturer getaddrinfo cursors scanCidrs scanFqdns
      maxHosts).1.candidates) :
    ∃ scan, scanIsEnabled scanCidrs scanFqdns scan = true ∧
      tables.Expands getaddrinfo scan manufacturer ip := by
  obtain ⟨scan, definition, hdefinition, hip⟩ := exists_of_mem_expansion h
  rw [definitionsOf_pageValues] at hdefinition
  obtain ⟨henabled, entry, hentry, hmanufacturer, rfl⟩ := mem_definitionsOf hdefinition
  exact ⟨scan, henabled, entry, hentry, hmanufacturer, hip⟩

theorem mem_prepared_of_complete
    (hcomplete : (prepareScanningData tables manufacturer getaddrinfo cursors scanCidrs scanFqdns
      maxHosts).1.sourcesComplete = true) {scan : ScanSource}
    (henabled : scanIsEnabled scanCidrs scanFqdns scan = true) {entry : RegistryEntry}
    (hentry : entry ∈ tables.entries scan) (hmanufacturer : entry.manufacturerId = manufacturer) :
    definitionIsComplete getaddrinfo scan (trim entry.value) = true ∧
      ∀ ip ∈ definitionAddresses getaddrinfo scan (trim entry.value),
        ip ∈ (prepareScanningData tables manufacturer getaddrinfo cursors scanCidrs scanFqdns
          maxHosts).1.candidates := by
  obtain ⟨hpages, hexpansion⟩ := Bool.and_eq_true_iff.mp hcomplete
  have hdefinition := mem_definitionsOf_of_complete hpages henabled hentry hmanufacturer
  rw [← definitionsOf_pageValues] at hdefinition
  exact mem_expansion_of_complete hexpansion hdefinition

/-- The local candidates are managed addresses of the manufacturer, all of them if they are complete. -/
theorem mem_localCandidates {limit : Int} :
    (∀ ip ∈ (collectLocalCandidates tables manufacturer cursors limit).1.1, ∃ row ∈
      tables.inventory.chassis, row.manufacturer.pk = manufacturer ∧ trim row.ip = ip) ∧
    ((collectLocalCandidates tables manufacturer cursors limit).1.2 = true →
      ∀ row ∈ tables.inventory.chassis, row.manufacturer.pk = manufacturer →
        trim row.ip ∈ (collectLocalCandidates tables manufacturer cursors limit).1.1) := by
  constructor
  · intro ip hip
    obtain ⟨item, hitem, rfl⟩ := mem_rotatingPage hip
    obtain ⟨row, hrow, rfl⟩ := List.mem_map.mp hitem
    obtain ⟨hrow, hmanufacturer⟩ := List.mem_filter.mp hrow
    exact ⟨row, hrow, of_decide_eq_true hmanufacturer, rfl⟩
  · intro hcomplete row hrow hmanufacturer
    have hitem : (row.pk, row.ip) ∈ (configuredSource tables manufacturer).rows :=
      List.mem_map.mpr ⟨row, List.mem_filter.mpr ⟨hrow, decide_eq_true hmanufacturer⟩, rfl⟩
    exact (rotatingPage_perm hcomplete).mem_iff.mpr (List.mem_map.mpr ⟨_, hitem, rfl⟩)

end Prepared

end Micboard
