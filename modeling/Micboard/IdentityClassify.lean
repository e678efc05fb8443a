import Micboard.IdentityCheck

/-! What an identity check decides: which chassis a payload resolves to, when it is new, and when it is
ambiguous or conflicting, by the keys that the stored chassis hold. -/

namespace Micboard

open Library

def HoldsSerial (serialNumber : Option String) (chassis : Chassis) : Prop :=
  supplied serialNumber = some chassis.serialNumber

/-- The chassis holds the supplied hardware address in a spelling that a query asks for. -/
def HoldsMac (macAddress : Option String) (chassis : Chassis) : Prop :=
  ∃ canonical ∈ canonicalizeMacAddress macAddress, ∃ stored ∈ chassis.macAddress,
    stored ∈ macAddressQueryVariants canonical

/-- The chassis holds the network address. -/
def HoldsIp (ip : String) (chassis : Chassis) : Prop := chassis.ip = getPrepValue ip

/-- The chassis holds the vendor identifier. -/
def HoldsApiId (manufacturer : Manufacturer) (apiDeviceId : String) (chassis : Chassis) : Prop :=
  chassis.manufacturer.pk = manufacturer.pk ∧ chassis.apiDeviceId = apiDeviceId

def HoldsDurable (serialNumber macAddress : Option String) (chassis : Chassis) : Prop :=
  HoldsSerial serialNumber chassis ∨ HoldsMac macAddress chassis

/-- A lookup yields the only row that holds a key, nothing when no row does, and is ambiguous when two
rows do. -/
def Resolves (rows : List Chassis) (holds : Chassis → Prop) :
    Except IdentityError (Option Chassis) → Prop
  | .ok none => ∀ row ∈ rows, ¬ holds row
  | .ok (some existing) => existing ∈ rows ∧ holds existing ∧ ∀ row ∈ rows, holds row → row = existing
  | .error e => e = .multipleObjectsReturned ∧
      ∃ row ∈ rows, ∃ other ∈ rows, row ≠ other ∧ holds row ∧ holds other

theorem resolves_uniqueMatch {rows : List Chassis} {holds : Chassis → Prop} {p : Chassis → Bool}
    (hnodup : rows.Nodup) (hp : ∀ row, p row = true ↔ holds row) :
    Resolves rows holds (uniqueMatch .multipleObjectsReturned (rows.filter p)) := by
  cases h : uniqueMatch IdentityError.multipleObjectsReturned (rows.filter p) with
  | error e => simpa only [Resolves, hp] using uniqueMatch_filter_eq_error hnodup h
  | ok found =>
      cases found with
      | none => simpa only [Resolves, hp] using uniqueMatch_filter_eq_none.mp h
      | some existing => simpa only [Resolves, hp] using uniqueMatch_filter_eq_some h

/-- A canonical address is never the empty text. -/
theorem supplied_canonicalizeMacAddress (macAddress : Option String) :
    supplied (canonicalizeMacAddress macAddress) = canonicalizeMacAddress macAddress := by
  cases h : canonicalizeMacAddress macAddress with
  | none => rfl
  | some canonical =>
      have hne := (canonicalizeMacAddress_isCanonical h).ne_empty
      rw [supplied, Option.filter_some, if_pos (by simpa using hne)]

section Lookups

variable {db : Inventory} (h : db.chassis.Nodup)
include h

theorem resolves_serial (serialNumber : Option String) :
    Resolves db.chassis (HoldsSerial serialNumber) (resolveSerialIdentity db serialNumber none) := by
  rw [resolveSerialIdentity]
  cases hserial : supplied serialNumber with
  | none =>
      intro row hrow hholds
      rw [HoldsSerial, hserial] at hholds
      cases hholds
  | some serial =>
      apply resolves_uniqueMatch h
      intro row
      rw [HoldsSerial, hserial, decide_eq_true_eq, Option.some.injEq]
      exact eq_comm

theorem resolves_mac (macAddress : Option String) :
    Resolves db.chassis (HoldsMac macAddress)
      (resolveMacIdentity db (canonicalizeMacAddress macAddress) none) := by
  rw [resolveMacIdentity, supplied_canonicalizeMacAddress]
  cases hmac : canonicalizeMacAddress macAddress with
  | none =>
      intro row hrow hholds
      obtain ⟨canonical, hcanonical, -⟩ := hholds
      rw [hmac] at hcanonical
      cases hcanonical
  | some canonical =>
      apply resolves_uniqueMatch h
      intro row
      simp only [HoldsMac, hmac, Option.mem_some_iff, exists_eq_left', Option.any_eq_true,
        decide_eq_true_eq]
      rfl

theorem resolves_ip (ip : String) : Resolves db.chassis (HoldsIp ip) (db.getIp ip) := by
  apply resolves_uniqueMatch h
  intro row
  exact decide_eq_true_iff

theorem resolves_apiId (manufacturer : Manufacturer) (apiDeviceId : String) :
    Resolves db.chassis (HoldsApiId manufacturer apiDeviceId)
      (db.getApiId manufacturer apiDeviceId) := by
  apply resolves_uniqueMatch h
  intro row
  exact decide_eq_true_iff

end Lookups

/-! ### The decision -/

theorem checkManufacturerConflict_eq_none {existing : Chassis} {manufacturer : Manufacturer}
    {matchType : String} : checkManufacturerConflict existing manufacturer matchType = none ↔
      existing.manufacturer.pk = manufacturer.pk := by
  rw [checkManufacturerConflict]
  split
  next h => simp [h]
  next h => simp [h]

/-- The durable keys agree when their owners are the manufacturer and they resolve to one row. -/
theorem checkDurableIdentityConflict_eq_none {serialExisting macExisting : Option Chassis}
    {manufacturer : Manufacturer} :
    checkDurableIdentityConflict serialExisting macExisting manufacturer = none ↔
      (∀ existing ∈ serialExisting, existing.manufacturer.pk = manufacturer.pk) ∧
      (∀ existing ∈ macExisting, existing.manufacturer.pk = manufacturer.pk) ∧
      ∀ first ∈ serialExisting, ∀ second ∈ macExisting, first.pk = second.pk := by
  unfold checkDurableIdentityConflict
  cases serialExisting with
  | none =>
      cases macExisting with
      | none => simp
      | some second => simp [checkManufacturerConflict_eq_none]
  | some first =>
      cases macExisting with
      | none => simp [checkManufacturerConflict_eq_none]
      | some second =>
          by_cases hpk : first.pk = second.pk
          · simp [checkManufacturerConflict_eq_none, hpk]
          · simp [hpk]

theorem checkDurableIdentityConflict_conflict {serialExisting macExisting : Option Chassis}
    {manufacturer : Manufacturer} {result : DeduplicationResult}
    (h : checkDurableIdentityConflict serialExisting macExisting manufacturer = some result) :
    ∃ existing conflictType details, result = .conflict existing conflictType details := by
  have howned : ∀ (existing : Option Chassis) (matchType : String) (r : DeduplicationResult),
      (existing.bind fun e => checkManufacturerConflict e manufacturer matchType) = some r →
      ∃ existing conflictType details, r = .conflict existing conflictType details := by
    intro existing matchType r hr
    obtain ⟨e, -, hr⟩ := Option.bind_eq_some_iff.mp hr
    rw [checkManufacturerConflict] at hr
    split at hr
    next => cases hr
    next =>
      cases hr
      exact ⟨_, _, _, rfl⟩
  unfold checkDurableIdentityConflict at h
  rcases Option.or_eq_some_iff.mp h with h | ⟨-, h⟩
  · exact howned _ _ _ h
  rcases Option.or_eq_some_iff.mp h with h | ⟨-, h⟩
  · exact howned _ _ _ h
  split at h
  next =>
    split at h
    next => cases h
    next =>
      cases h
      exact ⟨_, _, _, rfl⟩
  next => cases h

/-- The ways an identity check ends, with what the table holds in each. -/
inductive Classified (db : Inventory) (serialNumber macAddress : Option String)
    (ip apiDeviceId : String) (manufacturer : Manufacturer) :
    Except IdentityError DeduplicationResult → Prop where
  | ambiguous {row other : Chassis} (hrow : row ∈ db.chassis) (hother : other ∈ db.chassis)
      (hne : row ≠ other)
      (hholds : (HoldsSerial serialNumber row ∧ HoldsSerial serialNumber other) ∨
        (HoldsMac macAddress row ∧ HoldsMac macAddress other)) :
      Classified db serialNumber macAddress ip apiDeviceId manufacturer
        (.error .multipleObjectsReturned)
  | durableConflict {row other : Chassis} (hrow : row ∈ db.chassis) (hother : other ∈ db.chassis)
      (hholds : HoldsDurable serialNumber macAddress row)
      (hholds' : HoldsDurable serialNumber macAddress other)
      (h : row.manufacturer.pk ≠ manufacturer.pk ∨ row ≠ other) (existing : Option Chassis)
      (conflictType : String) (details : Details) :
      Classified db serialNumber macAddress ip apiDeviceId manufacturer
        (.ok (.conflict existing conflictType details))
  | durable {existing : Chassis} (hmem : existing ∈ db.chassis)
      (hholds : HoldsDurable serialNumber macAddress existing)
      (honly : ∀ row ∈ db.chassis, HoldsDurable serialNumber macAddress row → row = existing)
      (howner : existing.manufacturer.pk = manufacturer.pk) (matchType : String) :
      Classified db serialNumber macAddress ip apiDeviceId manufacturer
        (.ok (matchResult existing ip matchType))
  | ipConflict {existing : Chassis} (hmem : existing ∈ db.chassis)
      (hnone : ∀ row ∈ db.chassis, ¬ HoldsDurable serialNumber macAddress row)
      (hip : HoldsIp ip existing)
      (h : supplied serialNumber ≠ none ∨ ∃ canonical ∈ canonicalizeMacAddress macAddress,
        canonicalizeMacAddress existing.macAddress ≠ some canonical)
      (conflictType : String) (details : Details) :
      Classified db serialNumber macAddress ip apiDeviceId manufacturer
        (.ok (.conflict (some existing) conflictType details))
  | ipDuplicate {existing : Chassis} (hmem : existing ∈ db.chassis)
      (hnone : ∀ row ∈ db.chassis, ¬ HoldsDurable serialNumber macAddress row)
      (hip : HoldsIp ip existing) (hserial : supplied serialNumber = none)
      (hmac : ∀ canonical ∈ canonicalizeMacAddress macAddress,
        canonicalizeMacAddress existing.macAddress = some canonical) (details : Details) :
      Classified db serialNumber macAddress ip apiDeviceId manufacturer
        (.ok (.duplicate existing details))
  | apiId {existing : Chassis} (hmem : existing ∈ db.chassis)
      (hnone : ∀ row ∈ db.chassis, ¬ HoldsDurable serialNumber macAddress row)
      (hnoIp : ∀ row ∈ db.chassis, ¬ HoldsIp ip row)
      (hholds : HoldsApiId manufacturer apiDeviceId existing) :
      Classified db serialNumber macAddress ip apiDeviceId manufacturer
        (.ok (matchResult existing ip "api_device_id"))
  | new (hnone : ∀ row ∈ db.chassis, ¬ HoldsDurable serialNumber macAddress row)
      (hnoIp : ∀ row ∈ db.chassis, ¬ HoldsIp ip row)
      (hnoApi : ∀ row ∈ db.chassis, ¬ HoldsApiId manufacturer apiDeviceId row) :
      Classified db serialNumber macAddress ip apiDeviceId manufacturer (.ok .new)

/-- A check by address against a row that no durable key resolves to. -/
theorem checkByIp_classified {db : Inventory} {serialNumber macAddress : Option String}
    {ip apiDeviceId : String} {manufacturer : Manufacturer} {existing : Chassis}
    (hmem : existing ∈ db.chassis)
    (hnone : ∀ row ∈ db.chassis, ¬ HoldsDurable serialNumber macAddress row)
    (hip : HoldsIp ip existing) :
    ∃ result, checkByIp serialNumber (canonicalizeMacAddress macAddress) (some existing) =
        some result ∧
      Classified db serialNumber macAddress ip apiDeviceId manufacturer (.ok result) := by
  rw [checkByIp, Option.map_some, supplied_canonicalizeMacAddress]
  refine ⟨_, rfl, ?_⟩
  split
  next hserial =>
    refine .ipConflict hmem hnone hip (.inl ?_) _ _
    intro hnone
    rw [hnone] at hserial
    cases hserial
  next hserial =>
    have hserial' : supplied serialNumber = none := by
      cases hsupplied : supplied serialNumber with
      | none => rfl
      | some serial =>
          have hholds : HoldsSerial serialNumber existing := by
            have heq : existing.serialNumber = serial := by simpa [hsupplied] using hserial
            rw [HoldsSerial, hsupplied, heq]
          exact absurd (.inl hholds) (hnone existing hmem)
    split
    next hmac =>
      refine .ipConflict hmem hnone hip (.inr ?_) _ _
      simpa [Option.any_eq_true] using hmac
    next hmac =>
      refine .ipDuplicate hmem hnone hip hserial' ?_ _
      simpa [Option.any_eq_true] using hmac

/-- What the lookups by durable keys have found: rows that hold the keys, and every row that holds
one. -/
structure DurableFound (db : Inventory) (serialNumber macAddress : Option String)
    (serialExisting macExisting : Option Chassis) : Prop where
  serial : ∀ existing ∈ serialExisting, existing ∈ db.chassis ∧ HoldsSerial serialNumber existing
  mac : ∀ existing ∈ macExisting, existing ∈ db.chassis ∧ HoldsMac macAddress existing
  cover : ∀ row ∈ db.chassis, HoldsDurable serialNumber macAddress row →
    row ∈ serialExisting ∨ row ∈ macExisting

section Durable

variable {db : Inventory} {serialNumber macAddress : Option String}
  {serialExisting macExisting : Option Chassis}

theorem durableFound_of_resolves
    (hserial : Resolves db.chassis (HoldsSerial serialNumber) (.ok serialExisting))
    (hmac : Resolves db.chassis (HoldsMac macAddress) (.ok macExisting)) :
    DurableFound db serialNumber macAddress serialExisting macExisting where
  serial := by
    rintro existing rfl
    exact ⟨hserial.1, hserial.2.1⟩
  mac := by
    rintro existing rfl
    exact ⟨hmac.1, hmac.2.1⟩
  cover := by
    rintro row hrow (hholds | hholds)
    · cases serialExisting with
      | none => exact absurd hholds (hserial row hrow)
      | some existing => exact .inl (congrArg some (hserial.2.2 row hrow hholds).symm)
    · cases macExisting with
      | none => exact absurd hholds (hmac row hrow)
      | some existing => exact .inr (congrArg some (hmac.2.2 row hrow hholds).symm)

variable {ip apiDeviceId : String} {manufacturer : Manufacturer}

/-- A conflict of the durable keys names a foreign owner or two owners. -/
theorem DurableFound.conflict_classified
    (hfound : DurableFound db serialNumber macAddress serialExisting macExisting)
    {result : DeduplicationResult}
    (hconflict : checkDurableIdentityConflict serialExisting macExisting manufacturer = some result) :
    Classified db serialNumber macAddress ip apiDeviceId manufacturer (.ok result) := by
  obtain ⟨existing, conflictType, details, rfl⟩ := checkDurableIdentityConflict_conflict hconflict
  have hne : ¬ checkDurableIdentityConflict serialExisting macExisting manufacturer = none := by
    rw [hconflict]
    exact Option.some_ne_none _
  rw [checkDurableIdentityConflict_eq_none, not_and_or, not_and_or] at hne
  rcases hne with hne | hne | hne
  · push Not at hne
    obtain ⟨row, hrow, howner⟩ := hne
    obtain ⟨hmem, hholds⟩ := hfound.serial row hrow
    exact .durableConflict hmem hmem (.inl hholds) (.inl hholds) (.inl howner) _ _ _
  · push Not at hne
    obtain ⟨row, hrow, howner⟩ := hne
    obtain ⟨hmem, hholds⟩ := hfound.mac row hrow
    exact .durableConflict hmem hmem (.inr hholds) (.inr hholds) (.inl howner) _ _ _
  · push Not at hne
    obtain ⟨row, hrow, other, hother, hpk⟩ := hne
    obtain ⟨hmem, hholds⟩ := hfound.serial row hrow
    obtain ⟨hmem', hholds'⟩ := hfound.mac other hother
    exact .durableConflict hmem hmem' (.inl hholds) (.inr hholds')
      (.inr fun heq => hpk (congrArg Chassis.pk heq)) _ _ _

/-- The row that the serial number finds, or else the one that the hardware address finds, is the
match. -/
theorem DurableFound.match_classified
    (hfound : DurableFound db serialNumber macAddress serialExisting macExisting)
    (hunique : UniqueOn Chassis.pk db.chassis)
    (hconflict : checkDurableIdentityConflict serialExisting macExisting manufacturer = none)
    {existing : Chassis}
    (hexisting : existing ∈ serialExisting ∨ serialExisting = none ∧ existing ∈ macExisting)
    (ip apiDeviceId matchType : String) :
    checkByDurableKey matchType ip manufacturer (some existing) = some
      (matchResult existing ip matchType) ∧
      Classified db serialNumber macAddress ip apiDeviceId manufacturer
        (.ok (matchResult existing ip matchType)) := by
  obtain ⟨hserialOwner, hmacOwner, hpk⟩ := checkDurableIdentityConflict_eq_none.mp hconflict
  have howner : existing.manufacturer.pk = manufacturer.pk :=
    hexisting.elim (hserialOwner existing) fun hmac => hmacOwner existing hmac.2
  constructor
  · rw [checkByDurableKey, Option.map_some, checkManufacturerConflict_eq_none.mpr howner,
      Option.getD_none]
  rcases hexisting with hexisting | ⟨hserialNone, hexisting⟩
  · obtain ⟨hmem, hholds⟩ := hfound.serial existing hexisting
    refine .durable hmem (.inl hholds) (fun row hrow hdurable => ?_) howner matchType
    rcases hfound.cover row hrow hdurable with hrow' | hrow'
    · exact Option.mem_unique hrow' hexisting
    · exact hunique.eq hrow hmem (hpk existing hexisting row hrow').symm
  · obtain ⟨hmem, hholds⟩ := hfound.mac existing hexisting
    refine .durable hmem (.inr hholds) (fun row hrow hdurable => ?_) howner matchType
    rcases hfound.cover row hrow hdurable with hrow' | hrow'
    · rw [hserialNone] at hrow'
      cases hrow'
    · exact Option.mem_unique hrow' hexisting

end Durable

/-- **The decision of an identity check**: the durable keys first, then the address, then the vendor
identifier. -/
theorem checkDevice_classified {db : Inventory} (h : db.Consistent)
    (serialNumber macAddress : Option String) (ip apiDeviceId : String)
    (manufacturer : Manufacturer) :
    Classified db serialNumber macAddress ip apiDeviceId manufacturer
      (checkDevice db serialNumber macAddress ip apiDeviceId (some manufacturer) none) := by
  have hnodup := h.pk_unique.nodup
  have hserial := resolves_serial hnodup serialNumber
  have hmac := resolves_mac hnodup macAddress
  have hip := resolves_ip hnodup ip
  have hapi := resolves_apiId hnodup manufacturer apiDeviceId
  simp only [checkDevice]
  cases hs : resolveSerialIdentity db serialNumber none with
  | error e =>
      rw [hs] at hserial
      obtain ⟨rfl, row, hrow, other, hother, hne, hholds⟩ := hserial
      exact .ambiguous hrow hother hne (.inl hholds)
  | ok serialExisting =>
  cases hm : resolveMacIdentity db (canonicalizeMacAddress macAddress) none with
  | error e =>
      rw [hm] at hmac
      obtain ⟨rfl, row, hrow, other, hother, hne, hholds⟩ := hmac
      exact .ambiguous hrow hother hne (.inr hholds)
  | ok macExisting =>
  rw [hs] at hserial
  rw [hm] at hmac
  have hfound := durableFound_of_resolves hserial hmac
  simp only [bind, Except.bind]
  cases hconflict : checkDurableIdentityConflict serialExisting macExisting manufacturer with
  | some result => exact hfound.conflict_classified hconflict
  | none =>
  cases serialExisting with
  | some existing =>
      obtain ⟨hresult, hclassified⟩ := hfound.match_classified h.pk_unique hconflict (.inl rfl) ip
        apiDeviceId "serial_number"
      simp only [checkBySerial, hresult, Option.some_or]
      exact hclassified
  | none =>
  cases macExisting with
  | some existing =>
      obtain ⟨hresult, hclassified⟩ :=
        hfound.match_classified h.pk_unique hconflict (.inr ⟨rfl, rfl⟩) ip apiDeviceId "mac_address"
      have hnone : checkBySerial ip manufacturer none = none := rfl
      simp only [hnone, checkByMac, hresult, Option.none_or]
      exact hclassified
  | none =>
  have hnone : ∀ row ∈ db.chassis, ¬ HoldsDurable serialNumber macAddress row := by
    intro row hrow hholds
    rcases hfound.cover row hrow hholds with hrow' | hrow'
    · cases hrow'
    · cases hrow'
  show Classified db _ _ _ _ _ (db.getIp ip >>= _)
  cases hi : db.getIp ip with
  | error e =>
      rw [hi] at hip
      obtain ⟨-, row, hrow, other, hother, hne, hrowIp, hotherIp⟩ := hip
      exact absurd (h.ip_unique.eq hrow hother (hrowIp.trans hotherIp.symm)) hne
  | ok ipExisting =>
  rw [hi] at hip
  cases ipExisting with
  | some existing =>
      obtain ⟨result, hresult, hclassified⟩ :=
        @checkByIp_classified _ _ _ _ apiDeviceId manufacturer _ hip.1 hnone hip.2.1
      simp only [Bind.bind, Except.bind, hresult]
      exact hclassified
  | none =>
  show Classified db _ _ _ _ _ (db.getApiId manufacturer apiDeviceId >>= _)
  cases ha : db.getApiId manufacturer apiDeviceId with
  | error e =>
      rw [ha] at hapi
      obtain ⟨-, row, hrow, other, hother, hne, hrowApi, hotherApi⟩ := hapi
      refine absurd (h.api_unique.eq hrow hother ?_) hne
      rw [hrowApi.1, hrowApi.2, hotherApi.1, hotherApi.2]
  | ok apiExisting =>
  rw [ha] at hapi
  cases apiExisting with
  | some existing => exact .apiId hapi.1 hnone hip hapi.2.1
  | none => exact .new hnone hip hapi

end Micboard
