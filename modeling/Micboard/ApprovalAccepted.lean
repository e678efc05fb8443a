import Micboard.ApprovalService

/-! What an accepted plan says. A row resolves to the only locked chassis that its link, its API device
id or its serial number names; the policy remembers the claims of every row; and so the rows of an
accepted batch agree pairwise on their addresses, identities and serial numbers. -/

namespace Micboard

open Library LockedApprovalInventory DiscoveryApprovalResolver DiscoveryApprovalBatchPolicy

def DurableMatch (item : DiscoveryQueue) (row : Chassis) : Prop :=
  (text item.apiDeviceId ≠ "" ∧ text row.apiDeviceId = text item.apiDeviceId) ∨
    (text item.serialNumber ≠ "" ∧ text row.serialNumber = text item.serialNumber)

instance (item : DiscoveryQueue) (row : Chassis) : Decidable (DurableMatch item row) :=
  inferInstanceAs (Decidable (_ ∨ _))

/-- The row is linked to the chassis or shares a durable identity and the manufacturer with it. -/
def NamesChassis (item : DiscoveryQueue) (row : Chassis) : Prop :=
  item.existingDeviceId = some row.pk ∨
    (row.manufacturer.pk = item.manufacturer.pk ∧ DurableMatch item row)

instance (item : DiscoveryQueue) (row : Chassis) : Decidable (NamesChassis item row) :=
  inferInstanceAs (Decidable (_ ∨ _))

theorem setMatch_eq {found : List Chassis} {row : Chassis}
    (h : ∀ other ∈ found, other.pk = row.pk → other = row) :
    setMatch found row = if row ∈ found then found else found ++ [row] := by
  rw [setMatch]
  by_cases hrow : row ∈ found
  · have hany : found.any (·.pk = row.pk) = true :=
      List.any_eq_true.mpr ⟨row, hrow, decide_eq_true rfl⟩
    rw [if_pos hany, if_pos hrow]
    calc found.map (fun other => if other.pk = row.pk then row else other) = found.map id := by
          apply List.map_congr_left
          intro other hother
          split
          next hpk => exact (h other hother hpk).symm
          next => rfl
      _ = found := List.map_id found
  · have hany : found.any (·.pk = row.pk) = false := by
      rw [List.any_eq_false]
      intro other hother hpk
      exact hrow (h other hother (of_decide_eq_true hpk) ▸ hother)
    rw [hany, if_neg Bool.false_ne_true, if_neg hrow]

/-- The union of the matches holds every match once. -/
theorem foldl_setMatch {rows found : List Chassis} (hnodup : found.Nodup)
    (h : ∀ a ∈ found ++ rows, ∀ b ∈ found ++ rows, a.pk = b.pk → a = b) :
    (rows.foldl setMatch found).Nodup ∧
      ∀ row, row ∈ rows.foldl setMatch found ↔ row ∈ found ∨ row ∈ rows := by
  induction rows generalizing found with
  | nil => exact ⟨hnodup, by simp⟩
  | cons first rest ih =>
      have hstep : setMatch found first = if first ∈ found then found else found ++ [first] := by
        apply setMatch_eq
        intro other hother hpk
        exact h other (by simp [hother]) first (by simp) hpk
      have hmem : ∀ row, row ∈ setMatch found first ↔ row ∈ found ∨ row = first := by
        intro row
        rw [hstep]
        split
        next hfirst =>
          constructor
          · exact .inl
          · rintro (hrow | rfl)
            · exact hrow
            · exact hfirst
        next => simp
      have hnodup' : (setMatch found first).Nodup := by
        rw [hstep]
        split
        next => exact hnodup
        next hfirst =>
          exact hnodup.append (List.nodup_singleton first) (List.disjoint_singleton.mpr hfirst)
      obtain ⟨hrest, hall⟩ := ih hnodup' (by
        intro a ha b hb
        simp only [List.mem_append, hmem] at ha hb
        exact h a (by simp; tauto) b (by simp; tauto))
      refine ⟨hrest, fun row => ?_⟩
      rw [List.foldl_cons, hall, hmem, List.mem_cons]
      tauto

section Matches

variable {inventory : LockedApprovalInventory} {item : DiscoveryQueue} {row : Chassis}

theorem mem_explicitMatch (hunique : UniqueOn Chassis.pk inventory.chassis) :
    row ∈ (item.existingDeviceId.bind inventory.chassisByPk).toList ↔
      row ∈ inventory.chassis ∧ item.existingDeviceId = some row.pk := by
  rw [Option.mem_toList, Option.bind_eq_some_iff]
  constructor
  · rintro ⟨pk, hlink, hfind⟩
    obtain ⟨hrow, rfl⟩ := (hunique.find?_eq_some Chassis.pk).mp hfind
    exact ⟨hrow, hlink⟩
  · rintro ⟨hrow, hlink⟩
    exact ⟨row.pk, hlink, (hunique.find?_eq_some Chassis.pk).mpr ⟨hrow, rfl⟩⟩

theorem mem_apiMatches {manufacturer : Nat} {apiDeviceId : String} :
    row ∈ (if apiDeviceId = "" then []
        else inventory.chassisByApiIdentity manufacturer apiDeviceId) ↔
      row ∈ inventory.chassis ∧ row.manufacturer.pk = manufacturer ∧
        apiDeviceId ≠ "" ∧ text row.apiDeviceId = apiDeviceId := by
  split
  next h => simp [h]
  next h =>
    simp only [chassisByApiIdentity, List.mem_filter, Bool.and_eq_true, decide_eq_true_eq]
    constructor
    · rintro ⟨hrow, ⟨-, hmanufacturer⟩, hapi⟩
      exact ⟨hrow, hmanufacturer, h, hapi⟩
    · rintro ⟨hrow, hmanufacturer, -, rfl⟩
      exact ⟨hrow, ⟨h, hmanufacturer⟩, rfl⟩

theorem mem_serialMatches {manufacturer : Nat} {serialNumber : String} :
    row ∈ (if serialNumber = "" then []
        else inventory.chassisBySerialIdentity manufacturer serialNumber) ↔
      row ∈ inventory.chassis ∧ row.manufacturer.pk = manufacturer ∧
        serialNumber ≠ "" ∧ text row.serialNumber = serialNumber := by
  split
  next h => simp [h]
  next h =>
    simp only [chassisBySerialIdentity, List.mem_filter, Bool.and_eq_true, decide_eq_true_eq]
    constructor
    · rintro ⟨hrow, ⟨-, hmanufacturer⟩, hserial⟩
      exact ⟨hrow, hmanufacturer, h, hserial⟩
    · rintro ⟨hrow, hmanufacturer, -, rfl⟩
      exact ⟨hrow, ⟨h, hmanufacturer⟩, rfl⟩

theorem mem_indexedChassisMatches (hunique : UniqueOn Chassis.pk inventory.chassis)
    (item : DiscoveryQueue) :
    (indexedChassisMatches item inventory (text item.apiDeviceId)
        (text item.serialNumber)).Nodup ∧
      ∀ row, row ∈ indexedChassisMatches item inventory (text item.apiDeviceId)
        (text item.serialNumber) ↔ row ∈ inventory.chassis ∧ NamesChassis item row := by
  have hmem : ∀ row, row ∈ (item.existingDeviceId.bind inventory.chassisByPk).toList ++
      (if text item.apiDeviceId = "" then []
        else inventory.chassisByApiIdentity item.manufacturer.pk (text item.apiDeviceId)) ++
      (if text item.serialNumber = "" then []
        else inventory.chassisBySerialIdentity item.manufacturer.pk (text item.serialNumber)) ↔
      row ∈ inventory.chassis ∧ NamesChassis item row := by
    intro row
    rw [List.mem_append, List.mem_append, mem_explicitMatch hunique, mem_apiMatches,
      mem_serialMatches, ← and_or_left, ← and_or_left, or_assoc, ← and_or_left]
    rfl
  obtain ⟨hnodup, hall⟩ := foldl_setMatch List.nodup_nil (by
    intro a ha b hb
    rw [List.nil_append, hmem] at ha hb
    exact hunique.eq ha.1 hb.1)
  refine ⟨hnodup, fun row => ?_⟩
  rw [indexedChassisMatches, hall, hmem]
  simp

end Matches

theorem head?_eq_some_iff_mem {α : Type} {found : List α} (h : ¬ found.length > 1) {row : α} :
    found.head? = some row ↔ row ∈ found := by
  cases found with
  | nil => simp
  | cons only rest =>
      cases rest with
      | nil => simp [eq_comm]
      | cons second rest => simp at h

structure ResolvesTarget (sha256 : String → Nat) (inventory : LockedApprovalInventory)
    (item : DiscoveryQueue) (target : ChassisApprovalTarget) : Prop where
  chassis_iff : ∀ row, target.chassis = some row ↔ row ∈ inventory.chassis ∧ NamesChassis item row
  validated : ∀ row, target.chassis = some row →
    validateMatchedChassis item row (text item.apiDeviceId) (text item.serialNumber) = .ok ()
  apiDeviceId : target.apiDeviceId = persistedApiDeviceId sha256 item target.chassis
  apiDeviceId_ne : target.apiDeviceId ≠ ""

theorem resolveChassis_resolves {sha256 : String → Nat} {inventory : LockedApprovalInventory}
    (hunique : UniqueOn Chassis.pk inventory.chassis) {item : DiscoveryQueue}
    {target : ChassisApprovalTarget} (h : resolveChassis sha256 item inventory = .ok target) :
    ResolvesTarget sha256 inventory item target := by
  obtain ⟨hnodup, hmem⟩ := mem_indexedChassisMatches hunique item
  unfold resolveChassis at h
  simp only at h
  generalize indexedChassisMatches item inventory _ _ = found at h hnodup hmem
  split at h
  next => cases h
  next hlength =>
  obtain ⟨_, hvalid, h⟩ := bind_eq_ok.mp h
  by_cases hne : persistedApiDeviceId sha256 item found.head? = ""
  · rw [if_pos hne] at h
    cases h
  rw [if_neg hne] at h
  cases h
  have hchassis (row : Chassis) : found.head? = some row ↔
      row ∈ inventory.chassis ∧ NamesChassis item row :=
    (head?_eq_some_iff_mem hlength).trans (hmem row)
  refine { chassis_iff := hchassis, validated := ?_, apiDeviceId := ?_, apiDeviceId_ne := ?_ }
  · intro row hrow
    replace hrow : found.head? = some row := hrow
    rw [hrow] at hvalid
    exact hvalid
  · dsimp only
  · dsimp only
    exact hne

theorem validateMatchedChassis_eq_ok {item : DiscoveryQueue} {row : Chassis}
    {apiDeviceId serialNumber : String} {u : Unit} :
    validateMatchedChassis item row apiDeviceId serialNumber = .ok u ↔
      row.manufacturer.pk = item.manufacturer.pk ∧
      (serialNumber = "" ∨ text row.serialNumber = "" ∨ serialNumber = text row.serialNumber) ∧
      (item.existingDeviceId ≠ none → apiDeviceId = text row.apiDeviceId ∨
        (serialNumber ≠ "" ∧ text row.serialNumber ≠ "" ∧
          serialNumber = text row.serialNumber)) ∧
      (item.existingDeviceId ≠ none → item.isIpConflict = true →
        (apiDeviceId ≠ "" ∧ apiDeviceId = text row.apiDeviceId) ∨
          (serialNumber ≠ "" ∧ text row.serialNumber ≠ "" ∧
            serialNumber = text row.serialNumber)) ∧
      (item.existingDeviceId = none → apiDeviceId = "" ∨ text row.apiDeviceId = apiDeviceId) := by
  unfold validateMatchedChassis
  grind

/-- A chassis that is accepted as a match is the row's manufacturer's; it matches durably unless it has
no identity at all and the row is linked to it. -/
theorem ResolvesTarget.match_cases {sha256 : String → Nat} {inventory : LockedApprovalInventory}
    {item : DiscoveryQueue} {target : ChassisApprovalTarget}
    (h : ResolvesTarget sha256 inventory item target) {row : Chassis}
    (hrow : target.chassis = some row) :
    row.manufacturer.pk = item.manufacturer.pk ∧
      (DurableMatch item row ∨ (item.existingDeviceId = some row.pk ∧
        text row.apiDeviceId = "" ∧ text row.serialNumber = "")) := by
  obtain ⟨hmanufacturer, hserial, hlinked, -, -⟩ :=
    validateMatchedChassis_eq_ok.mp (h.validated row hrow)
  refine ⟨hmanufacturer, ?_⟩
  by_cases hdurable : DurableMatch item row
  · exact .inl hdurable
  have hlink : item.existingDeviceId = some row.pk := by
    rcases ((h.chassis_iff row).mp hrow).2 with hlink | ⟨-, hmatch⟩
    · exact hlink
    · exact absurd hmatch hdurable
  rw [DurableMatch, not_or, not_and, not_and] at hdurable
  obtain ⟨hnotApi, hnotSerial⟩ := hdurable
  have hapi : text item.apiDeviceId = text row.apiDeviceId := by
    rcases hlinked (by rw [hlink]; simp) with heq | ⟨hne, -, heq⟩
    · exact heq
    · exact absurd heq.symm (hnotSerial hne)
  have hblank : text item.apiDeviceId = "" := by
    by_contra hne
    exact hnotApi hne hapi.symm
  have hserialNe : text item.serialNumber ≠ "" := by
    intro hempty
    apply h.apiDeviceId_ne
    rw [h.apiDeviceId, persistedApiDeviceId, hrow]
    simp [hblank, ← hapi, hempty]
  refine .inr ⟨hlink, hapi ▸ hblank, ?_⟩
  rcases hserial with hempty | hempty | heq
  · exact absurd hempty hserialNe
  · exact hempty
  · exact absurd heq.symm (hnotSerial hserialNe)

/-- A later policy of a batch: nothing that was claimed is forgotten. -/
structure PolicyExtends (policy policy' : DiscoveryApprovalBatchPolicy) : Prop where
  owners : policy'.owners = policy.owners
  ipClaims : Extends policy.ipClaims policy'.ipClaims
  targetIps : Extends policy.targetIps policy'.targetIps
  identitySerials : Extends policy.identitySerials policy'.identitySerials
  serialIdentities : Extends policy.serialIdentities policy'.serialIdentities
  existingChassisIdentities :
    Extends policy.existingChassisIdentities policy'.existingChassisIdentities
  existingChargerManufacturers :
    Extends policy.existingChargerManufacturers policy'.existingChargerManufacturers

theorem PolicyExtends.refl (policy : DiscoveryApprovalBatchPolicy) : PolicyExtends policy policy :=
  ⟨rfl, .refl _, .refl _, .refl _, .refl _, .refl _, .refl _⟩

theorem PolicyExtends.trans {first second third : DiscoveryApprovalBatchPolicy}
    (h : PolicyExtends first second) (h' : PolicyExtends second third) :
    PolicyExtends first third where
  owners := h'.owners.trans h.owners
  ipClaims := h.ipClaims.trans h'.ipClaims
  targetIps := h.targetIps.trans h'.targetIps
  identitySerials := h.identitySerials.trans h'.identitySerials
  serialIdentities := h.serialIdentities.trans h'.serialIdentities
  existingChassisIdentities := h.existingChassisIdentities.trans h'.existingChassisIdentities
  existingChargerManufacturers :=
    h.existingChargerManufacturers.trans h'.existingChargerManufacturers

theorem singleOwnerId_eq_ok {ownerIds : List Nat} {ip ownerLabel : String} {owner : Option Nat}
    (h : singleOwnerId ownerIds ip ownerLabel = .ok owner) {k : Nat} :
    owner = some k ↔ k ∈ ownerIds := by
  rw [singleOwnerId] at h
  split at h
  next => cases h
  next hlength =>
    cases h
    exact head?_eq_some_iff_mem hlength

/-- The row and its target claim the address together. -/
def ClaimsAddress (policy : DiscoveryApprovalBatchPolicy) (item : DiscoveryQueue)
    (targetKey : ApprovalTargetKey) : Prop :=
  policy.ipClaims item.ip = some targetKey ∧ policy.targetIps targetKey = some item.ip

theorem ClaimsAddress.extend {policy policy' : DiscoveryApprovalBatchPolicy}
    {item : DiscoveryQueue} {targetKey : ApprovalTargetKey} (h : ClaimsAddress policy item targetKey)
    (hextends : PolicyExtends policy policy') : ClaimsAddress policy' item targetKey :=
  ⟨hextends.ipClaims _ _ h.1, hextends.targetIps _ _ h.2⟩

structure ClaimsChassis (policy : DiscoveryApprovalBatchPolicy) (item : DiscoveryQueue)
    (target : ChassisApprovalTarget) : Prop where
  address : ClaimsAddress policy item (targetKeyOf item target)
  existing : ∀ row, target.chassis = some row →
    policy.existingChassisIdentities row.pk = some (identityOf item target)
  serial : text item.serialNumber ≠ "" →
    policy.identitySerials (identityOf item target) = some (text item.serialNumber) ∧
      policy.serialIdentities (item.manufacturer.pk, text item.serialNumber) =
        some (identityOf item target)

theorem ClaimsChassis.extend {policy policy' : DiscoveryApprovalBatchPolicy}
    {item : DiscoveryQueue} {target : ChassisApprovalTarget} (h : ClaimsChassis policy item target)
    (hextends : PolicyExtends policy policy') : ClaimsChassis policy' item target where
  address := h.address.extend hextends
  existing row hrow := hextends.existingChassisIdentities _ _ (h.existing row hrow)
  serial hne := ⟨hextends.identitySerials _ _ (h.serial hne).1,
    hextends.serialIdentities _ _ (h.serial hne).2⟩

section Policy

variable {policy policy' : DiscoveryApprovalBatchPolicy} {item : DiscoveryQueue}

theorem claimAddress_eq_ok {targetKey : ApprovalTargetKey}
    (h : policy.claimAddress item targetKey = .ok policy') :
    PolicyExtends policy policy' ∧ ClaimsAddress policy' item targetKey := by
  unfold claimAddress at h
  simp only [bind_eq_ok, Except.ok.injEq] at h
  obtain ⟨ipClaims, hip, targetIps, htarget, rfl⟩ := h
  exact ⟨⟨rfl, claim_extends hip, claim_extends htarget, .refl _, .refl _, .refl _, .refl _⟩,
    claim_self hip, claim_self htarget⟩

theorem claimExisting_eq_ok {target : ChassisApprovalTarget}
    (h : policy.claimExisting item target = .ok policy') :
    PolicyExtends policy policy' ∧ ∀ row, target.chassis = some row →
      policy'.existingChassisIdentities row.pk = some (identityOf item target) := by
  unfold claimExisting at h
  cases hchassis : target.chassis with
  | none =>
      rw [hchassis] at h
      cases h
      exact ⟨.refl _, fun row hrow => by cases hrow⟩
  | some chassis =>
      rw [hchassis] at h
      simp only [bind_eq_ok, Except.ok.injEq] at h
      obtain ⟨identities, hclaim, rfl⟩ := h
      refine ⟨⟨rfl, .refl _, .refl _, .refl _, .refl _, claim_extends hclaim, .refl _⟩, ?_⟩
      rintro row ⟨rfl⟩
      exact claim_self hclaim

theorem claimSerial_eq_ok {target : ChassisApprovalTarget}
    (h : policy.claimSerial item target = .ok policy') :
    PolicyExtends policy policy' ∧ (text item.serialNumber ≠ "" →
      policy'.identitySerials (identityOf item target) = some (text item.serialNumber) ∧
        policy'.serialIdentities (item.manufacturer.pk, text item.serialNumber) =
          some (identityOf item target)) := by
  unfold claimSerial at h
  simp only at h
  split at h
  next hempty =>
    cases h
    exact ⟨.refl _, fun hne => absurd hempty hne⟩
  next =>
    simp only [bind_eq_ok, Except.ok.injEq] at h
    obtain ⟨serials, hserials, identities, hidentities, rfl⟩ := h
    exact ⟨⟨rfl, .refl _, .refl _, claim_extends hserials, claim_extends hidentities, .refl _,
        .refl _⟩,
      fun _ => ⟨claim_self hserials, claim_self hidentities⟩⟩

/-- An accepted chassis row: no charger owns its address, the only chassis that does is its target, and
its claims are remembered. -/
theorem validateChassis_eq_ok {target : ChassisApprovalTarget}
    (h : policy.validateChassis item target = .ok policy') :
    PolicyExtends policy policy' ∧ ClaimsChassis policy' item target ∧
      policy.owners.chargerIds item.ip = [] ∧
      ∀ k ∈ policy.owners.chassisIds item.ip, target.chassis.map Chassis.pk = some k := by
  unfold validateChassis at h
  obtain ⟨chargerOwner, hcharger, h⟩ := bind_eq_ok.mp h
  split at h
  next => cases h
  next hnone =>
  rw [not_not] at hnone
  obtain ⟨chassisOwner, hchassis, h⟩ := bind_eq_ok.mp h
  split at h
  next => cases h
  next howner =>
  simp only [bind_eq_ok] at h
  obtain ⟨first, hexisting, second, haddress, roles, hroles, hserial⟩ := h
  obtain ⟨hfirst, hexisting⟩ := claimExisting_eq_ok hexisting
  obtain ⟨hsecond, haddress⟩ := claimAddress_eq_ok haddress
  obtain ⟨hthird, hserial⟩ := claimSerial_eq_ok hserial
  have hthird' : PolicyExtends second policy' :=
    ⟨hthird.owners, hthird.ipClaims, hthird.targetIps, hthird.identitySerials,
      hthird.serialIdentities, hthird.existingChassisIdentities,
      hthird.existingChargerManufacturers⟩
  refine ⟨hfirst.trans (hsecond.trans hthird'), ⟨haddress.extend hthird', ?_, hserial⟩, ?_, ?_⟩
  · intro row hrow
    exact (hsecond.trans hthird').existingChassisIdentities _ _ (hexisting row hrow)
  · rw [List.eq_nil_iff_forall_not_mem]
    intro k hk
    rw [(singleOwnerId_eq_ok hcharger).mpr hk] at hnone
    cases hnone
  · intro k hk
    rw [(singleOwnerId_eq_ok hchassis).mpr hk] at howner
    simpa using howner

/-- An accepted charger row: no chassis owns its address and no other charger does. -/
theorem validateCharger_eq_ok {charger : Charger}
    (h : policy.validateCharger item charger = .ok policy') :
    PolicyExtends policy policy' ∧ ClaimsAddress policy' item (.charger charger.pk) ∧
      policy'.existingChargerManufacturers charger.pk = some item.manufacturer.pk ∧
      policy.owners.chassisIds item.ip = [] ∧
      ∀ k ∈ policy.owners.chargerIds item.ip, k = charger.pk := by
  unfold validateCharger at h
  obtain ⟨chassisOwner, hchassis, h⟩ := bind_eq_ok.mp h
  split at h
  next => cases h
  next hnone =>
  rw [not_not] at hnone
  obtain ⟨chargerOwner, hcharger, h⟩ := bind_eq_ok.mp h
  split at h
  next => cases h
  next howner =>
  obtain ⟨manufacturers, hmanufacturers, h⟩ := bind_eq_ok.mp h
  obtain ⟨hextends, haddress⟩ := claimAddress_eq_ok h
  refine ⟨⟨hextends.owners, hextends.ipClaims, hextends.targetIps, hextends.identitySerials,
    hextends.serialIdentities, hextends.existingChassisIdentities,
    (claim_extends hmanufacturers).trans hextends.existingChargerManufacturers⟩, haddress,
    hextends.existingChargerManufacturers _ _ (claim_self hmanufacturers), ?_, ?_⟩
  · rw [List.eq_nil_iff_forall_not_mem]
    intro k hk
    rw [(singleOwnerId_eq_ok hchassis).mpr hk] at hnone
    cases hnone
  · intro k hk
    rw [(singleOwnerId_eq_ok hcharger).mpr hk] at howner
    simpa using howner

end Policy

/-! ### What the plan says of every row -/

theorem resolveCharger_mem {inventory : LockedApprovalInventory} {item : DiscoveryQueue}
    {charger : Charger} (h : resolveCharger item inventory = .ok charger) :
    charger ∈ inventory.chargers := by
  unfold resolveCharger at h
  cases hlink : item.existingChargerId with
  | some existingChargerId =>
      rw [hlink] at h
      cases hfind : inventory.chargersByPk existingChargerId with
      | none =>
          simp only [hfind] at h
          cases h
      | some found =>
          simp only [hfind] at h
          repeat' split at h
          all_goals cases h
          exact List.mem_of_find?_eq_some hfind
  | none =>
      rw [hlink] at h
      simp only at h
      split at h
      next => cases h
      next =>
        split at h
        next => cases h
        next only hmatches =>
          cases h
          have hmem : charger ∈ inventory.chargersBySerialIdentity item.manufacturer.pk
              (text item.serialNumber) := by
            rw [hmatches]
            exact List.mem_singleton_self charger
          exact (List.mem_filter.mp hmem).1
        next => cases h

section Accepted

variable (sha256 : String → Nat) (db : Inventory) (inventory : LockedApprovalInventory)
  (policy : DiscoveryApprovalBatchPolicy)

structure AcceptedChassis (item : DiscoveryQueue) (target : ChassisApprovalTarget) : Prop where
  resolves : ResolvesTarget sha256 inventory item target
  claims : ClaimsChassis policy item target
  no_charger : ∀ charger ∈ db.chargers, charger.ip ≠ some item.ip
  owner : ∀ row ∈ db.chassis, row.ip = item.ip → target.chassis.map Chassis.pk = some row.pk

structure AcceptedCharger (item : DiscoveryQueue) (charger : Charger) : Prop where
  mem : charger ∈ db.chargers
  claims : ClaimsAddress policy item (.charger charger.pk)
  manufacturer : policy.existingChargerManufacturers charger.pk = some item.manufacturer.pk
  no_chassis : ∀ row ∈ db.chassis, row.ip ≠ item.ip
  owner : ∀ row ∈ db.chargers, row.ip = some item.ip → row.pk = charger.pk

def AcceptedRow (plan : DiscoveryApprovalPlan) (item : DiscoveryQueue) : Prop :=
  (item.isCharger = false → ∃ target, plan.chassis item.pk = some target ∧
    AcceptedChassis sha256 db inventory policy item target) ∧
  (item.isCharger = true → ∃ charger, plan.chargers item.pk = some charger ∧
    AcceptedCharger db policy item charger)

variable {sha256 db inventory policy}

theorem AcceptedRow.extend {policy' : DiscoveryApprovalBatchPolicy}
    {plan plan' : DiscoveryApprovalPlan} {item : DiscoveryQueue}
    (h : AcceptedRow sha256 db inventory policy plan item) (hextends : PolicyExtends policy policy')
    (hchassis : plan'.chassis item.pk = plan.chassis item.pk)
    (hcharger : plan'.chargers item.pk = plan.chargers item.pk) :
    AcceptedRow sha256 db inventory policy' plan' item := by
  constructor
  · intro hrole
    obtain ⟨target, hplan, haccepted⟩ := h.1 hrole
    exact ⟨target, hchassis.trans hplan, haccepted.resolves, haccepted.claims.extend hextends,
      haccepted.no_charger, haccepted.owner⟩
  · intro hrole
    obtain ⟨charger, hplan, haccepted⟩ := h.2 hrole
    exact ⟨charger, hcharger.trans hplan, haccepted.mem, haccepted.claims.extend hextends,
      hextends.existingChargerManufacturers _ _ haccepted.manufacturer, haccepted.no_chassis,
      haccepted.owner⟩

theorem planItem_accepted {items : List DiscoveryQueue} (hlock : lock db items = .ok inventory)
    (hunique : UniqueOn Chassis.pk db.chassis) {state state' : PlanningState}
    {item : DiscoveryQueue} (hitem : item ∈ items) (howners : state.policy.owners = inventory.owners)
    (h : DiscoveryApprovalPlan.planItem sha256 inventory state item = .ok state') :
    PolicyExtends state.policy state'.policy ∧
      AcceptedRow sha256 db inventory state'.policy state'.plan item ∧
      ∀ pk ≠ item.pk, state'.plan.chassis pk = state.plan.chassis pk ∧
        state'.plan.chargers pk = state.plan.chargers pk := by
  unfold DiscoveryApprovalPlan.planItem at h
  obtain ⟨_, -, h⟩ := bind_eq_ok.mp h
  cases hrole : item.isCharger with
  | true =>
      rw [hrole, if_pos rfl] at h
      simp only [bind_eq_ok, Except.ok.injEq] at h
      obtain ⟨charger, hresolve, policy', hvalid, rfl⟩ := h
      obtain ⟨hextends, hclaims, hmanufacturer, hchassis, hcharger⟩ := validateCharger_eq_ok hvalid
      refine ⟨hextends, ⟨fun hfalse => Bool.noConfusion (hrole.symm.trans hfalse), ?_⟩, ?_⟩
      · intro _
        refine ⟨charger, Function.update_self .., ?_, hclaims, hmanufacturer, ?_, ?_⟩
        · exact ((lock_chargers hlock).mp (resolveCharger_mem hresolve)).1
        · intro row hrow hip
          have hmem := (mem_chassisIds hlock hitem).mpr ⟨row, hrow, hip, rfl⟩
          rw [← howners, hchassis] at hmem
          cases hmem
        · intro row hrow hip
          exact hcharger _ (howners ▸ mem_chargerIds hlock hitem hrow hip)
      · intro pk hne
        exact ⟨rfl, Function.update_of_ne hne ..⟩
  | false =>
      rw [hrole, if_neg Bool.false_ne_true] at h
      simp only [bind_eq_ok, Except.ok.injEq] at h
      obtain ⟨target, hresolve, policy', hvalid, rfl⟩ := h
      obtain ⟨hextends, hclaims, hcharger, hchassis⟩ := validateChassis_eq_ok hvalid
      refine ⟨hextends, ⟨?_, fun htrue => absurd (hrole.symm.trans htrue) Bool.false_ne_true⟩, ?_⟩
      · intro _
        refine ⟨target, Function.update_self ..,
          resolveChassis_resolves (lock_unique hlock hunique) hresolve, hclaims, ?_, ?_⟩
        · intro charger hmem hip
          have howner := mem_chargerIds hlock hitem hmem hip
          rw [← howners, hcharger] at howner
          cases howner
        · intro row hrow hip
          exact hchassis _ (howners ▸ (mem_chassisIds hlock hitem).mpr ⟨row, hrow, hip, rfl⟩)
      · intro pk hne
        exact ⟨Function.update_of_ne hne .., rfl⟩

theorem build_accepted {items : List DiscoveryQueue} {plan : DiscoveryApprovalPlan}
    (hunique : UniqueOn Chassis.pk db.chassis) (hitems : UniqueOn DiscoveryQueue.pk items)
    (h : DiscoveryApprovalPlan.build sha256 db items = .ok plan) :
    ∃ inventory policy, lock db items = .ok inventory ∧
      ∀ item ∈ items, AcceptedRow sha256 db inventory policy plan item := by
  unfold DiscoveryApprovalPlan.build at h
  simp only [bind_eq_ok, Except.ok.injEq] at h
  obtain ⟨inventory, hlock, state, hrun, rfl⟩ := h
  refine ⟨inventory, state.policy, hlock, ?_⟩
  refine (foldlM_prefix_invariant (fun seen (state : PlanningState) =>
    state.policy.owners = inventory.owners ∧
      ∀ item ∈ seen, AcceptedRow sha256 db inventory state.policy state.plan item)
    ?_ ⟨rfl, by simp⟩ hrun).2
  rintro seen item rest state state' hsplit ⟨howners, hseen⟩ hstep
  have hitem : item ∈ items := by
    rw [hsplit]
    simp
  obtain ⟨hextends, haccepted, hframe⟩ := planItem_accepted hlock hunique hitem howners hstep
  refine ⟨hextends.owners.trans howners, ?_⟩
  intro other hother
  rw [List.mem_append, List.mem_singleton] at hother
  rcases hother with hother | rfl
  · have hne : other.pk ≠ item.pk := by
      rw [hsplit, UniqueOn, List.map_append, List.map_cons, List.nodup_append] at hitems
      exact hitems.2.2 _ (List.mem_map_of_mem hother) _ List.mem_cons_self
    exact (hseen other hother).extend hextends (hframe _ hne).1 (hframe _ hne).2
  · exact haccepted

end Accepted

end Micboard
