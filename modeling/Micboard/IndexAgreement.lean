import Micboard.IndexLookup

/-! A check against the running index agrees with a check against the table. The decision depends on the
lookups alone, except that it compares addresses, which the index holds as they were typed. Agreement
holds at every step of a batch at which no spelling stands in its way. -/

namespace Micboard

open Library

/-- The two results are of one kind and name instances of the same row. -/
inductive SameResult : DeduplicationResult → DeduplicationResult → Prop where
  | new : SameResult .new .new
  | duplicate {chassis row : Chassis} (h : Mirrors chassis row) (details details' : Details) :
      SameResult (.duplicate chassis details) (.duplicate row details')
  | moved {chassis row : Chassis} (h : Mirrors chassis row) (conflictType : String)
      (details details' : Details) :
      SameResult (.moved chassis conflictType details) (.moved row conflictType details')
  | conflict {existing existing' : Option Chassis} (h : Option.Rel Mirrors existing existing')
      (conflictType : String) (details details' : Details) :
      SameResult (.conflict existing conflictType details) (.conflict existing' conflictType details')

inductive SameCheck : Except IdentityError DeduplicationResult →
    Except IdentityError DeduplicationResult → Prop where
  | error (e : IdentityError) : SameCheck (.error e) (.error e)
  | ok {result result' : DeduplicationResult} (h : SameResult result result') :
      SameCheck (.ok result) (.ok result')

theorem checkManufacturerConflict_same {chassis row : Chassis} (h : Mirrors chassis row)
    (manufacturer : Manufacturer) (matchType : String) :
    Option.Rel SameResult (checkManufacturerConflict chassis manufacturer matchType)
      (checkManufacturerConflict row manufacturer matchType) := by
  unfold checkManufacturerConflict
  rw [h.manufacturer]
  split
  next => exact .none
  next => exact .some (.conflict (.some h) _ _ _)

theorem optionRel_or {α β : Type} {r : α → β → Prop} {a b : Option α} {a' b' : Option β}
    (h : Option.Rel r a a') (h' : Option.Rel r b b') : Option.Rel r (a.or b) (a'.or b') := by
  cases h with
  | some h => exact .some h
  | none => exact h'

theorem optionRel_bind {α β γ δ : Type} {r : α → β → Prop} {q : γ → δ → Prop} {a : Option α}
    {a' : Option β} {f : α → Option γ} {g : β → Option δ} (h : Option.Rel r a a')
    (hf : ∀ x y, r x y → Option.Rel q (f x) (g y)) : Option.Rel q (a.bind f) (a'.bind g) := by
  cases h with
  | some h => exact hf _ _ h
  | none => exact .none

theorem checkDurableIdentityConflict_same {serialChassis serialRow macChassis macRow : Option Chassis}
    (hserial : Option.Rel Mirrors serialChassis serialRow)
    (hmac : Option.Rel Mirrors macChassis macRow) (manufacturer : Manufacturer) :
    Option.Rel SameResult (checkDurableIdentityConflict serialChassis macChassis manufacturer)
      (checkDurableIdentityConflict serialRow macRow manufacturer) := by
  unfold checkDurableIdentityConflict
  apply optionRel_or
  · exact optionRel_bind hserial fun _ _ h => checkManufacturerConflict_same h _ _
  apply optionRel_or
  · exact optionRel_bind hmac fun _ _ h => checkManufacturerConflict_same h _ _
  cases hserial with
  | none => exact .none
  | some hserial =>
      cases hmac with
      | none => exact .none
      | some hmac =>
          simp only [hserial.pk, hmac.pk]
          split
          next => exact .none
          next => exact .some (.conflict .none _ _ _)

/-- A serial number and a hardware address that resolve to one row say what the serial number says. -/
theorem checkDurableIdentityConflict_self (existing : Chassis) (manufacturer : Manufacturer) :
    checkDurableIdentityConflict (some existing) (some existing) manufacturer =
      checkDurableIdentityConflict (some existing) none manufacturer := by
  unfold checkDurableIdentityConflict checkManufacturerConflict
  by_cases howner : existing.manufacturer.pk = manufacturer.pk
  · simp [howner]
  · simp [howner]

section Decision

variable {chassis row : Chassis} {ip : String} (h : Mirrors chassis row)
include h

theorem matchResult_same (hip : chassis.ip = ip ↔ row.ip = ip) (matchType : String) :
    SameResult (matchResult chassis ip matchType) (matchResult row ip matchType) := by
  unfold matchResult
  by_cases hsame : row.ip = ip
  · simp only [hsame, hip.mpr hsame, ne_eq, not_true_eq_false, if_false]
    exact .duplicate h _ _
  · have hmoved : chassis.ip ≠ ip := fun heq => hsame (hip.mp heq)
    simp only [hsame, hmoved, ne_eq, not_false_eq_true, if_true]
    exact .moved h _ _ _

theorem checkByDurableKey_same (hip : chassis.ip = ip ↔ row.ip = ip) (matchType : String)
    (manufacturer : Manufacturer) :
    Option.Rel SameResult (checkByDurableKey matchType ip manufacturer (some chassis))
      (checkByDurableKey matchType ip manufacturer (some row)) := by
  have hconflict := checkManufacturerConflict_same h manufacturer matchType
  unfold checkByDurableKey
  rw [Option.map_some, Option.map_some]
  generalize checkManufacturerConflict chassis manufacturer matchType = first at hconflict ⊢
  generalize checkManufacturerConflict row manufacturer matchType = second at hconflict ⊢
  cases hconflict with
  | some hconflict => exact .some hconflict
  | none => exact .some (matchResult_same h hip matchType)

theorem checkByIp_same (serialNumber macAddress : Option String) :
    ∃ result result', checkByIp serialNumber macAddress (some chassis) = some result ∧
      checkByIp serialNumber macAddress (some row) = some result' ∧ SameResult result result' := by
  unfold checkByIp
  rw [Option.map_some, Option.map_some, h.serialNumber, h.macAddress]
  refine ⟨_, _, rfl, rfl, ?_⟩
  split
  next => exact .conflict (.some h) _ _ _
  next =>
    split
    next => exact .conflict (.some h) _ _ _
    next => exact .duplicate h _ _

end Decision

/-! ### A check -/

section Check

variable {db : Inventory} {index : DeviceIdentityIndex} {serialNumber macAddress : Option String}
  {ip apiDeviceId : String} {manufacturer : Manufacturer}

/-- The part of a check that follows the lookups by serial number and hardware address. -/
def checkAfterDurable (db : Inventory) (serialNumber macAddress : Option String)
    (ip apiDeviceId : String) (manufacturer : Manufacturer)
    (identityIndex : Option DeviceIdentityIndex) (serialExisting macExisting : Option Chassis) :
    Except IdentityError DeduplicationResult :=
  match checkDurableIdentityConflict serialExisting macExisting manufacturer with
  | some conflict => .ok conflict
  | none =>
  match (checkBySerial ip manufacturer serialExisting).or
      (checkByMac ip manufacturer macExisting) with
  | some result => .ok result
  | none => do
  let ipExisting ←
    match identityIndex with
    | some index => index.ip ip
    | none => db.getIp ip
  match checkByIp serialNumber macAddress ipExisting with
  | some result => .ok result
  | none =>
  let apiExisting ←
    match identityIndex with
    | some index => index.apiId manufacturer.pk apiDeviceId
    | none => db.getApiId manufacturer apiDeviceId
  match checkByApiId ip apiExisting with
  | some result => .ok result
  | none => .ok .new

theorem checkDevice_eq (identityIndex : Option DeviceIdentityIndex) :
    checkDevice db serialNumber macAddress ip apiDeviceId (some manufacturer) identityIndex =
      (resolveSerialIdentity db serialNumber identityIndex >>= fun serialExisting =>
        resolveMacIdentity db (canonicalizeMacAddress macAddress) identityIndex >>= fun macExisting =>
          checkAfterDurable db serialNumber (canonicalizeMacAddress macAddress) ip apiDeviceId
            manufacturer identityIndex serialExisting macExisting) := rfl

/-- A serial number that finds a chassis decides, whether the hardware address finds it as well or
finds nothing. -/
theorem checkAfterDurable_serial (identityIndex : Option DeviceIdentityIndex) (existing : Chassis) :
    checkAfterDurable db serialNumber macAddress ip apiDeviceId manufacturer identityIndex
        (some existing) (some existing) =
      checkAfterDurable db serialNumber macAddress ip apiDeviceId manufacturer identityIndex
        (some existing) none := by
  unfold checkAfterDurable
  rw [checkDurableIdentityConflict_self]
  rfl

theorem checkAfterDurable_same {serialChassis serialRow macChassis macRow : Option Chassis}
    (hip : SameLookup db index (index.ip ip) (db.getIp ip))
    (hapi : SameLookup db index (index.apiId manufacturer.pk apiDeviceId)
      (db.getApiId manufacturer apiDeviceId))
    (hspelled : ∀ chassis ∈ index.objects, ∀ row ∈ db.chassis, Mirrors chassis row →
      (chassis.ip = ip ↔ row.ip = ip))
    (hserial : SameLookup db index (.ok serialChassis) (.ok serialRow))
    (hmac : SameLookup db index (.ok macChassis) (.ok macRow)) :
    SameCheck
      (checkAfterDurable db serialNumber macAddress ip apiDeviceId manufacturer (some index)
        serialChassis macChassis)
      (checkAfterDurable db serialNumber macAddress ip apiDeviceId manufacturer none
        serialRow macRow) := by
  have hrel : ∀ {a b}, SameLookup db index (.ok a) (.ok b) → Option.Rel Mirrors a b := by
    intro a b h
    cases h with
    | none => exact .none
    | found _ _ h => exact .some h
  have hdurable : ∀ {a b} matchType, SameLookup db index (.ok a) (.ok b) →
      Option.Rel SameResult (checkByDurableKey matchType ip manufacturer a)
        (checkByDurableKey matchType ip manufacturer b) := by
    intro a b matchType h
    cases h with
    | none => exact .none
    | found hchassis hrow h =>
        exact checkByDurableKey_same h (hspelled _ hchassis _ hrow h) matchType manufacturer
  unfold checkAfterDurable
  have hconflict := checkDurableIdentityConflict_same (hrel hserial) (hrel hmac) manufacturer
  generalize checkDurableIdentityConflict serialChassis macChassis manufacturer = first
    at hconflict ⊢
  generalize checkDurableIdentityConflict serialRow macRow manufacturer = second at hconflict ⊢
  cases hconflict with
  | some hconflict => exact .ok hconflict
  | none =>
  have hfound := optionRel_or (hdurable "serial_number" hserial) (hdurable "mac_address" hmac)
  simp only [checkBySerial, checkByMac]
  generalize (checkByDurableKey "serial_number" ip manufacturer serialChassis).or _ = first
    at hfound ⊢
  generalize (checkByDurableKey "serial_number" ip manufacturer serialRow).or _ = second
    at hfound ⊢
  cases hfound with
  | some hfound => exact .ok hfound
  | none =>
  generalize index.ip ip = first at hip ⊢
  generalize db.getIp ip = second at hip ⊢
  generalize index.apiId manufacturer.pk apiDeviceId = third at hapi ⊢
  generalize db.getApiId manufacturer apiDeviceId = fourth at hapi ⊢
  simp only [Bind.bind, Except.bind]
  cases hip with
  | error e => exact .error e
  | found hchassis hrow h =>
      obtain ⟨result, result', hresult, hresult', hsame⟩ :=
        checkByIp_same h serialNumber macAddress
      simp only [hresult, hresult']
      exact .ok hsame
  | none =>
  cases hapi with
  | error e => exact .error e
  | none => exact .ok .new
  | found hchassis hrow h =>
      exact .ok (matchResult_same h (hspelled _ hchassis _ hrow h) "api_device_id")

/-- A check of a device of the batch against its index agrees with one against the table, when the
hardware addresses are spelled as the query asks and no address compares differently as it was typed. -/
theorem checkPayload_same {keys : IdentityKeys} {payloads : List NormalizedHardware}
    {payload : NormalizedHardware} (h : IndexInv keys manufacturer db index) (hdb : db.Consistent)
    (hkeys : IdentityKeys.ofPayloads payloads = .ok keys) (hpayload : payload ∈ payloads)
    {known : Chassis → Prop}
    (hknown : ∀ chassis ∈ index.objects, ∀ row ∈ db.chassis, Mirrors chassis row → known row)
    (hagrees : MacAgrees known db payload)
    (hspelled : ∀ chassis ∈ index.objects, ∀ row ∈ db.chassis, Mirrors chassis row →
      (chassis.ip = payload.ip ↔ row.ip = payload.ip)) :
    SameCheck (checkPayload manufacturer ⟨db, some index⟩ payload)
      (checkPayload manufacturer ⟨db, none⟩ payload) := by
  have hserial := serial_sameLookup h hdb hkeys hpayload
  have hmac := mac_sameLookup h hdb hkeys hpayload hknown hagrees
  have hip := ip_sameLookup h hdb hkeys hpayload
  have hapi := apiId_sameLookup h hdb hkeys hpayload
  have hunique : ∀ row ∈ db.chassis, HoldsSerial payload.serial row →
      ∀ existing, resolveSerialIdentity db payload.serial none = .ok existing →
        existing = some row := by
    intro row hrow hholds existing hexisting
    have hresolves := resolves_serial hdb.pk_unique.nodup payload.serial
    rw [hexisting] at hresolves
    cases existing with
    | none => exact absurd hholds (hresolves row hrow)
    | some existing => rw [hresolves.2.2 row hrow hholds]
  have hafter : ∀ {serialChassis serialRow macChassis macRow : Option Chassis},
      SameLookup db index (.ok serialChassis) (.ok serialRow) →
      SameLookup db index (.ok macChassis) (.ok macRow) →
      SameCheck
        (checkAfterDurable db payload.serial payload.mac payload.ip payload.apiDeviceId manufacturer
          (some index) serialChassis macChassis)
        (checkAfterDurable db payload.serial payload.mac payload.ip payload.apiDeviceId manufacturer
          none serialRow macRow) := checkAfterDurable_same hip hapi hspelled
  simp only [checkPayload, checkDevice_eq, payload_mac_canonical]
  generalize resolveSerialIdentity db payload.serial (some index) = first at hserial ⊢
  generalize resolveSerialIdentity db payload.serial none = second at hserial hunique ⊢
  cases hserial with
  | error e => exact .error e
  | none =>
      rcases hmac with hmac | ⟨-, -, row, hrow, -, hholds, -⟩
      · generalize resolveMacIdentity db payload.mac (some index) = first at hmac ⊢
        generalize resolveMacIdentity db payload.mac none = second at hmac ⊢
        cases hmac with
        | error e => exact .error e
        | none => exact hafter .none .none
        | found hchassis hrow hmirrors =>
            exact hafter .none (.found hchassis hrow hmirrors)
      · cases hunique row hrow hholds none rfl
  | @found serialChassis serialRow hchassis hrow hmirrors =>
      have hfound : SameLookup db index (.ok (some serialChassis)) (.ok (some serialRow)) :=
        .found hchassis hrow hmirrors
      rcases hmac with hmac | ⟨macChassis, hmacChassis, row, hmacRow, hmacMirrors, hholds, hmac, hmac'⟩
      · generalize resolveMacIdentity db payload.mac (some index) = first at hmac ⊢
        generalize resolveMacIdentity db payload.mac none = second at hmac ⊢
        cases hmac with
        | error e => exact .error e
        | none => exact hafter hfound .none
        | found hchassis hrow hmirrors =>
            exact hafter hfound (.found hchassis hrow hmirrors)
      · -- The serial number found the row whose hardware address only the index recognizes.
        have hrowEq : serialRow = row := Option.some.inj (hunique row hmacRow hholds _ rfl)
        have hchassisEq : macChassis = serialChassis :=
          h.unique.eq hmacChassis hchassis (by rw [hmacMirrors.pk, hmirrors.pk, hrowEq])
        rw [hmac, hmac', hchassisEq]
        show SameCheck (checkAfterDurable db payload.serial payload.mac payload.ip payload.apiDeviceId
          manufacturer (some index) (some serialChassis) (some serialChassis)) _
        rw [checkAfterDurable_serial]
        exact hafter hfound .none

end Check

end Micboard
