import Micboard.DiscoveryCompleteness
import Micboard.LibraryFairShare

/-! Fairness of a scan expansion. Each definition gives addresses from its front, the budget is
spent as far as there are addresses, and no definition is ahead by more than one of another that has
more to give. -/

namespace Micboard

open Library Library.Address Library.Budget

variable {getaddrinfo : String → Resolution} {cidrs fqdns : List String} {scan : ScanSource}
  {definition : String}

variable (getaddrinfo fqdns) in
/-- What an expansion can take of a definition. One lookup that raises discards the addresses of all
names. -/
def enumeration : ScanSource → String → List String
  | .cidr, cidr => definitionAddresses getaddrinfo .cidr cidr
  | .fqdn, fqdn =>
    if fqdns.any fun fqdn => getaddrinfo fqdn = .raised then []
    else definitionAddresses getaddrinfo .fqdn fqdn

/-- `cidr_hosts_map[cidr]` and `fqdns_map[fqdn]`. -/
def ScanExpansion.addresses (expansion : ScanExpansion) : ScanSource → String → List String
  | .cidr, cidr => (expansion.cidrHosts.lookup cidr).getD []
  | .fqdn, fqdn => (expansion.fqdnHosts.lookup fqdn).getD []

def sumOverDefinitions (cidrs fqdns : List String) (f : ScanSource → String → Nat) : Nat :=
  (cidrs.map (f .cidr)).sum + (fqdns.map (f .fqdn)).sum

structure ScanExpansion.Fair (getaddrinfo : String → Resolution)
    (cidrs fqdns : List String) (limit : Nat)
    (expansion : ScanExpansion) : Prop where
  total : expansion.totalToScan =
    min limit (sumOverDefinitions cidrs fqdns fun scan definition =>
      (enumeration getaddrinfo fqdns scan definition).length)
  counted : expansion.totalToScan =
    sumOverDefinitions cidrs fqdns fun scan definition => (expansion.addresses scan definition).length
  front : ∀ scan, ∀ definition ∈ definitionsOf cidrs fqdns scan,
    expansion.addresses scan definition <+: enumeration getaddrinfo fqdns scan definition
  even : ∀ scan, ∀ definition ∈ definitionsOf cidrs fqdns scan,
    ∀ scan', ∀ definition' ∈ definitionsOf cidrs fqdns scan',
      (expansion.addresses scan definition).length <
        (enumeration getaddrinfo fqdns scan definition).length →
      (expansion.addresses scan' definition').length <
        (enumeration getaddrinfo fqdns scan' definition').length →
      (expansion.addresses scan definition).length ≤ (expansion.addresses scan' definition').length + 1
  complete : expansion.sourcesComplete = true ↔
    (∀ cidr ∈ cidrs, (networkHosts cidr).isSome = true) ∧
    (∀ fqdn ∈ fqdns, definitionIsComplete getaddrinfo .fqdn fqdn = true) ∧
    ∀ scan, ∀ definition ∈ definitionsOf cidrs fqdns scan,
      expansion.addresses scan definition = enumeration getaddrinfo fqdns scan definition

/-- The definitions, with the source that each of them belongs to. -/
def scanKeys (cidrs fqdns : List String) : List (ScanSource × String) :=
  cidrs.map (Prod.mk .cidr) ++ fqdns.map (Prod.mk .fqdn)

theorem mem_scanKeys :
    (scan, definition) ∈ scanKeys cidrs fqdns ↔ definition ∈ definitionsOf cidrs fqdns scan := by
  cases scan <;> simp [scanKeys, definitionsOf]

theorem nodup_scanKeys (hcidrs : cidrs.Nodup)
    (hfqdns : fqdns.Nodup) : (scanKeys cidrs fqdns).Nodup := by
  refine (hcidrs.map (Prod.mk_right_injective _)).append (hfqdns.map (Prod.mk_right_injective _)) ?_
  intro key hcidr hfqdn
  obtain ⟨cidr, -, rfl⟩ := List.mem_map.mp hcidr
  obtain ⟨fqdn, -, heq⟩ := List.mem_map.mp hfqdn
  cases heq

theorem sumOverDefinitions_eq (f : ScanSource → String → Nat) :
    sumOverDefinitions cidrs fqdns f = ((scanKeys cidrs fqdns).map fun key => f key.1 key.2).sum := by
  rw [scanKeys, List.map_append, List.sum_append, List.map_map, List.map_map]
  rfl

/-- The iterators of an expansion: one for each definition that can be expanded, with what it
enumerates. -/
structure Iterates (getaddrinfo : String → Resolution) (cidrs fqdns : List String)
    (active : List AddressIterator) : Prop where
  nodup : (active.map Prod.fst).Nodup
  known : ∀ key ∈ active.map Prod.fst, key ∈ scanKeys cidrs fqdns
  left : ∀ scan, ∀ definition ∈ definitionsOf cidrs fqdns scan,
    leftOf (scan, definition) active = enumeration getaddrinfo fqdns scan definition
  size : remainder active = sumOverDefinitions cidrs fqdns fun scan definition =>
    (enumeration getaddrinfo fqdns scan definition).length

theorem cidrIterators_keys :
    ((buildCidrIterators cidrs).1.map Prod.fst).Sublist (cidrs.map (Prod.mk .cidr)) := by
  rw [buildCidrIterators]
  induction cidrs with
  | nil => exact .slnil
  | cons cidr rest ih =>
      cases hhosts : networkHosts cidr with
      | none => simpa [hhosts] using ih.cons _
      | some hosts => simpa [hhosts] using ih

theorem mem_cidrIterators {key : ScanSource × String} {items : List String} :
    (key, items) ∈ (buildCidrIterators cidrs).1 ↔
      ∃ cidr ∈ cidrs, networkHosts cidr = some items ∧ (ScanSource.cidr, cidr) = key := by
  simp only [buildCidrIterators, List.mem_filterMap, Option.map_eq_some_iff, Prod.mk.injEq]
  constructor
  · rintro ⟨cidr, hcidr, _, hhosts, hkey, rfl⟩
    exact ⟨cidr, hcidr, hhosts, hkey⟩
  · rintro ⟨cidr, hcidr, hhosts, hkey⟩
    exact ⟨cidr, hcidr, items, hhosts, hkey, rfl⟩

/-- The iterators over names are what the names enumerate, unless a lookup raised. -/
theorem fqdnIterators_eq : (buildFqdnIterators getaddrinfo fqdns).1 =
    if fqdns.any fun fqdn => getaddrinfo fqdn = .raised then []
    else fqdns.map fun fqdn => ((.fqdn, fqdn), enumeration getaddrinfo fqdns .fqdn fqdn) := by
  rw [buildFqdnIterators]
  split_ifs with hraised
  · rfl
  · simp only [enumeration, if_neg hraised]

theorem fqdnIterators_keys :
    ((buildFqdnIterators getaddrinfo fqdns).1.map Prod.fst).Sublist (fqdns.map (Prod.mk .fqdn)) := by
  rw [fqdnIterators_eq]
  split_ifs
  · exact List.nil_sublist _
  · rw [List.map_map]
    exact .refl _

theorem remainder_fqdnIterators_enumeration : remainder (buildFqdnIterators getaddrinfo fqdns).1 =
    (fqdns.map fun fqdn => (enumeration getaddrinfo fqdns .fqdn fqdn).length).sum := by
  rw [fqdnIterators_eq]
  split_ifs with hraised
  · have hnone : ∀ fqdn, (enumeration getaddrinfo fqdns .fqdn fqdn).length = 0 := by
      intro fqdn
      rw [enumeration, if_pos hraised, List.length_nil]
    simp [hnone, remainder]
  · rw [remainder, List.map_map]
    rfl

theorem iterates_of_perm {active : List AddressIterator} (hcidrs : cidrs.Nodup) (hfqdns : fqdns.Nodup)
    (hperm : active.Perm ((buildCidrIterators cidrs).1 ++ (buildFqdnIterators getaddrinfo fqdns).1)) :
    Iterates getaddrinfo cidrs fqdns active := by
  have hkeys : (((buildCidrIterators cidrs).1 ++ (buildFqdnIterators getaddrinfo fqdns).1).map
      Prod.fst).Sublist (scanKeys cidrs fqdns) := by
    rw [List.map_append]
    exact cidrIterators_keys.append fqdnIterators_keys
  have hnodup : (active.map Prod.fst).Nodup :=
    ((hperm.map Prod.fst).nodup_iff).mpr ((nodup_scanKeys hcidrs hfqdns).sublist hkeys)
  refine ⟨hnodup, fun key hkey => hkeys.subset ((hperm.map Prod.fst).mem_iff.mp hkey), ?_, ?_⟩
  · rintro (_ | _) definition hdefinition
    · cases hhosts : networkHosts definition with
      | none =>
          rw [enumeration, definitionAddresses, hhosts, Option.getD_none]
          refine leftOf_of_notMem fun hkey => ?_
          obtain ⟨⟨key, items⟩, hiterator, rfl⟩ := List.mem_map.mp hkey
          rcases List.mem_append.mp (hperm.mem_iff.mp hiterator) with hcidr | hfqdn
          · obtain ⟨cidr, -, hsome, heq⟩ := mem_cidrIterators.mp hcidr
            cases heq
            exact absurd (hsome.symm.trans hhosts) (Option.some_ne_none items)
          · obtain ⟨fqdn, -, heq⟩ :=
              List.mem_map.mp (fqdnIterators_keys.subset (List.mem_map_of_mem hfqdn))
            cases heq
      | some hosts =>
          rw [enumeration, definitionAddresses, hhosts, Option.getD_some]
          refine leftOf_of_mem hnodup (hperm.mem_iff.mpr (List.mem_append_left _ ?_))
          exact mem_cidrIterators.mpr ⟨definition, hdefinition, hhosts, rfl⟩
    · by_cases hraised : (fqdns.any fun fqdn => getaddrinfo fqdn = .raised) = true
      · rw [enumeration, if_pos hraised]
        refine leftOf_of_notMem fun hkey => ?_
        obtain ⟨⟨key, items⟩, hiterator, rfl⟩ := List.mem_map.mp hkey
        rcases List.mem_append.mp (hperm.mem_iff.mp hiterator) with hcidr | hfqdn
        · obtain ⟨cidr, -, -, heq⟩ := mem_cidrIterators.mp hcidr
          cases heq
        · rw [fqdnIterators_eq, if_pos hraised] at hfqdn
          cases hfqdn
      · refine leftOf_of_mem hnodup (hperm.mem_iff.mpr (List.mem_append_right _ ?_))
        rw [fqdnIterators_eq, if_neg hraised]
        exact List.mem_map.mpr ⟨definition, hdefinition, rfl⟩
  · have hsize : remainder active = remainder (buildCidrIterators cidrs).1 +
        remainder (buildFqdnIterators getaddrinfo fqdns).1 := by
      rw [remainder, (hperm.map _).sum_eq, List.map_append, List.sum_append]
      rfl
    rw [hsize, @remainder_cidrIterators getaddrinfo, remainder_fqdnIterators_enumeration, addressCount,
      List.map_map]
    rfl

variable (getaddrinfo cidrs fqdns) in
/-- The expansion with what was consumed: the items, the total, and whether the iterators ended. -/
def expansionOf (consumed : List ((ScanSource × String) × String) × Nat × Bool) : ScanExpansion where
  cidrHosts := addressesMap .cidr cidrs consumed.1
  fqdnHosts := addressesMap .fqdn fqdns consumed.1
  totalToScan := consumed.2.1
  sourcesComplete :=
    (buildCidrIterators cidrs).2 && (buildFqdnIterators getaddrinfo fqdns).2 && consumed.2.2

variable (getaddrinfo) in
theorem exists_iterates (hcidrs : cidrs.Nodup) (hfqdns : fqdns.Nodup) (maxHosts : Int)
    (order : List ScanSource) : ∃ active, Iterates getaddrinfo cidrs fqdns active ∧
      expandScanningSources getaddrinfo cidrs fqdns maxHosts order =
        expansionOf getaddrinfo cidrs fqdns (consume (clampCandidateLimit maxHosts) active) := by
  obtain ⟨iterators, hcidr, hfqdn, hexpansion⟩ : ∃ iterators : ScanSource → List AddressIterator,
      iterators .cidr = (buildCidrIterators cidrs).1 ∧
      iterators .fqdn = (buildFqdnIterators getaddrinfo fqdns).1 ∧
      expandScanningSources getaddrinfo cidrs fqdns maxHosts order =
        expansionOf getaddrinfo cidrs fqdns (consume (clampCandidateLimit maxHosts)
          ((order ++ [ScanSource.cidr, ScanSource.fqdn]).eraseDups.flatMap iterators)) := by
    refine ⟨_, ?_, ?_, rfl⟩ <;> rfl
  have hperm := (sourceOrder_perm order).flatMap_right iterators
  rw [List.flatMap_cons, List.flatMap_cons, List.flatMap_nil, List.append_nil, hcidr, hfqdn] at hperm
  exact ⟨_, iterates_of_perm hcidrs hfqdns hperm, hexpansion⟩

/-! ### The expansion -/

theorem addresses_expansionOf {consumed : List ((ScanSource × String) × String) × Nat × Bool}
    (hdefinition : definition ∈ definitionsOf cidrs fqdns scan) :
    (expansionOf getaddrinfo cidrs fqdns consumed).addresses scan definition =
      takenOf (scan, definition) consumed.1 := by
  have hlookup : ∀ (source : ScanSource) (definitions : List String), definition ∈ definitions →
      ((addressesMap source definitions consumed.1).lookup definition).getD [] =
        takenOf (source, definition) consumed.1 := by
    intro source definitions hmem
    rw [addressesMap, List.lookup_graph _ (List.mem_eraseDups.mpr hmem), Option.getD_some]
    rfl
  cases scan with
  | cidr => exact hlookup .cidr cidrs hdefinition
  | fqdn => exact hlookup .fqdn fqdns hdefinition

end Micboard
