import Micboard.IdentityClassify

/-! Soundness of hardware deduplication. A new device holds no key of a stored chassis; a duplicate or
moved device resolves to the chassis that holds the strongest of its keys; everything else is a conflict
or an ambiguity. -/

namespace Micboard

open Library

def DeduplicationResult.resolvedDevice : DeduplicationResult → Option Chassis
  | .new => none
  | .duplicate existing _ => some existing
  | .moved existing _ _ => some existing
  | .conflict _ _ _ => none

@[simp] theorem resolvedDevice_matchResult (existing : Chassis) (ip matchType : String) :
    (matchResult existing ip matchType).resolvedDevice = some existing := by
  unfold matchResult
  split <;> rfl

theorem outcome_matchResult (existing : Chassis) (ip matchType : String) :
    (matchResult existing ip matchType).outcome = if existing.ip = ip then .duplicate else .moved := by
  unfold matchResult
  by_cases h : existing.ip = ip <;> simp [h, DeduplicationResult.outcome]

/-- The payload's durable keys are held by this chassis of the manufacturer and by no other. -/
def MatchesDurable (db : Inventory) (serialNumber macAddress : Option String)
    (manufacturer : Manufacturer) (existing : Chassis) : Prop :=
  HoldsDurable serialNumber macAddress existing ∧
    (∀ row ∈ db.chassis, HoldsDurable serialNumber macAddress row → row = existing) ∧
    existing.manufacturer.pk = manufacturer.pk

/-- No chassis holds a durable key of the payload, this one holds its address, and the payload says
nothing else about its identity. -/
def MatchesIp (db : Inventory) (serialNumber macAddress : Option String) (ip : String)
    (existing : Chassis) : Prop :=
  (∀ row ∈ db.chassis, ¬ HoldsDurable serialNumber macAddress row) ∧ HoldsIp ip existing ∧
    supplied serialNumber = none ∧ ∀ canonical ∈ canonicalizeMacAddress macAddress,
      canonicalizeMacAddress existing.macAddress = some canonical

/-- No chassis holds a durable key of the payload or its address, and this one holds its vendor
identifier. -/
def MatchesApiId (db : Inventory) (serialNumber macAddress : Option String) (ip apiDeviceId : String)
    (manufacturer : Manufacturer) (existing : Chassis) : Prop :=
  (∀ row ∈ db.chassis, ¬ HoldsDurable serialNumber macAddress row) ∧
    (∀ row ∈ db.chassis, ¬ HoldsIp ip row) ∧ HoldsApiId manufacturer apiDeviceId existing

section Sound

variable {db : Inventory} (h : db.Consistent) (serialNumber macAddress : Option String)
  (ip apiDeviceId : String) (manufacturer : Manufacturer)

/-- A stored row that holds the address as text holds it as the column stores it. -/
theorem holdsIp_of_ip_eq (h : db.Consistent) {existing : Chassis} (hmem : existing ∈ db.chassis)
    (hip : existing.ip = ip) : HoldsIp ip existing := by
  rw [HoldsIp, ← hip]
  exact (h.ip_stored existing hmem).2.symm

theorem holdsIp_unique (h : db.Consistent) {first second : Chassis} (hfirst : first ∈ db.chassis)
    (hsecond : second ∈ db.chassis) (hip : HoldsIp ip first) (hip' : HoldsIp ip second) :
    second = first :=
  h.ip_unique.eq hsecond hfirst (hip'.trans hip.symm)

include h

/-- A payload resolves to a chassis exactly when the chassis matches by the first key that any chassis
holds. -/
theorem checkDevice_resolves_iff {existing : Chassis} :
    (∃ result, checkDevice db serialNumber macAddress ip apiDeviceId (some manufacturer) none =
        .ok result ∧ result.resolvedDevice = some existing) ↔
      existing ∈ db.chassis ∧ (MatchesDurable db serialNumber macAddress manufacturer existing ∨
        MatchesIp db serialNumber macAddress ip existing ∨
        MatchesApiId db serialNumber macAddress ip apiDeviceId manufacturer existing) := by
  have hclassified :=
    checkDevice_classified h serialNumber macAddress ip apiDeviceId manufacturer
  generalize checkDevice db serialNumber macAddress ip apiDeviceId (some manufacturer) none = checked
    at hclassified
  constructor
  · rintro ⟨result, rfl, hresolved⟩
    cases hclassified with
    | durableConflict => cases hresolved
    | durable hmem hholds honly howner matchType =>
        rw [resolvedDevice_matchResult, Option.some.injEq] at hresolved
        subst hresolved
        exact ⟨hmem, .inl ⟨hholds, honly, howner⟩⟩
    | ipConflict => cases hresolved
    | ipDuplicate hmem hnone hip hserial hmac details =>
        cases hresolved
        exact ⟨hmem, .inr (.inl ⟨hnone, hip, hserial, hmac⟩)⟩
    | apiId hmem hnone hnoIp hholds =>
        rw [resolvedDevice_matchResult, Option.some.injEq] at hresolved
        subst hresolved
        exact ⟨hmem, .inr (.inr ⟨hnone, hnoIp, hholds⟩)⟩
    | new => cases hresolved
  · rintro ⟨hmem, hmatches⟩
    have hunheld : (∃ row ∈ db.chassis, HoldsDurable serialNumber macAddress row) →
        MatchesDurable db serialNumber macAddress manufacturer existing := by
      rintro ⟨row, hrow, hholds⟩
      rcases hmatches with hdurable | ⟨hnone, -⟩ | ⟨hnone, -⟩
      · exact hdurable
      · exact absurd hholds (hnone row hrow)
      · exact absurd hholds (hnone row hrow)
    cases hclassified with
    | @ambiguous row other hrow hother hne hholds =>
        have hboth : HoldsDurable serialNumber macAddress row ∧
            HoldsDurable serialNumber macAddress other :=
          hholds.elim (fun h => ⟨.inl h.1, .inl h.2⟩) fun h => ⟨.inr h.1, .inr h.2⟩
        obtain ⟨-, honly, -⟩ := hunheld ⟨row, hrow, hboth.1⟩
        exact absurd ((honly row hrow hboth.1).trans (honly other hother hboth.2).symm) hne
    | @durableConflict row other hrow hother hholds hholds' hconflict =>
        obtain ⟨-, honly, howner⟩ := hunheld ⟨row, hrow, hholds⟩
        have heq := honly row hrow hholds
        rcases hconflict with hforeign | hne
        · exact absurd (heq ▸ howner) hforeign
        · exact absurd (heq.trans (honly other hother hholds').symm) hne
    | @durable found hfound hholds honly howner matchType =>
        obtain ⟨hexisting, -, -⟩ := hunheld ⟨found, hfound, hholds⟩
        rw [honly existing hmem hexisting]
        exact ⟨_, rfl, resolvedDevice_matchResult _ _ _⟩
    | @ipConflict found hfound hnone hip hcontradicts =>
        exfalso
        rcases hmatches with ⟨hholds, -⟩ | ⟨-, hip', hserial, hmac⟩ | ⟨-, hnoIp, -⟩
        · exact hnone existing hmem hholds
        · rw [holdsIp_unique ip h hmem hfound hip' hip] at hcontradicts
          rcases hcontradicts with hsupplied | ⟨canonical, hcanonical, hne⟩
          · exact hsupplied hserial
          · exact hne (hmac canonical hcanonical)
        · exact hnoIp found hfound hip
    | @ipDuplicate found hfound hnone hip hserial hmac details =>
        rcases hmatches with ⟨hholds, -⟩ | ⟨-, hip', -⟩ | ⟨-, hnoIp, -⟩
        · exact absurd hholds (hnone existing hmem)
        · rw [holdsIp_unique ip h hfound hmem hip hip']
          exact ⟨_, rfl, rfl⟩
        · exact absurd hip (hnoIp found hfound)
    | @apiId found hfound hnone hnoIp hholds =>
        rcases hmatches with ⟨hdurable, -⟩ | ⟨-, hip, -⟩ | ⟨-, -, hapi⟩
        · exact absurd hdurable (hnone existing hmem)
        · exact absurd hip (hnoIp existing hmem)
        · have heq : existing = found := by
            apply h.api_unique.eq hmem hfound
            rw [hapi.1, hapi.2, hholds.1, hholds.2]
          rw [heq]
          exact ⟨_, rfl, resolvedDevice_matchResult _ _ _⟩
    | new hnone hnoIp hnoApi =>
        exfalso
        rcases hmatches with ⟨hholds, -⟩ | ⟨-, hip, -⟩ | ⟨-, -, hapi⟩
        · exact hnone existing hmem hholds
        · exact hnoIp existing hmem hip
        · exact hnoApi existing hmem hapi

theorem checkDevice_new_iff :
    checkDevice db serialNumber macAddress ip apiDeviceId (some manufacturer) none = .ok .new ↔
      ∀ row ∈ db.chassis, ¬ HoldsDurable serialNumber macAddress row ∧ ¬ HoldsIp ip row ∧
        ¬ HoldsApiId manufacturer apiDeviceId row := by
  have hclassified :=
    checkDevice_classified h serialNumber macAddress ip apiDeviceId manufacturer
  generalize checkDevice db serialNumber macAddress ip apiDeviceId (some manufacturer) none = checked
    at hclassified
  constructor
  · rintro rfl
    generalize hresult : DeduplicationResult.new = result at hclassified
    cases hclassified with
    | durableConflict => cases hresult
    | durable hmem hholds honly howner matchType =>
        have := congrArg DeduplicationResult.resolvedDevice hresult
        rw [resolvedDevice_matchResult] at this
        cases this
    | ipConflict => cases hresult
    | ipDuplicate => cases hresult
    | apiId hmem hnone hnoIp hholds =>
        have := congrArg DeduplicationResult.resolvedDevice hresult
        rw [resolvedDevice_matchResult] at this
        cases this
    | new hnone hnoIp hnoApi =>
        exact fun row hrow => ⟨hnone row hrow, hnoIp row hrow, hnoApi row hrow⟩
  · intro hfree
    cases hclassified with
    | ambiguous hrow hother hne hholds =>
        exact absurd (hholds.elim (fun h => .inl h.1) fun h => .inr h.1) (hfree _ hrow).1
    | durableConflict hrow hother hholds => exact absurd hholds (hfree _ hrow).1
    | durable hmem hholds => exact absurd hholds (hfree _ hmem).1
    | ipConflict hmem hnone hip => exact absurd hip (hfree _ hmem).2.1
    | ipDuplicate hmem hnone hip => exact absurd hip (hfree _ hmem).2.1
    | apiId hmem hnone hnoIp hholds => exact absurd hholds (hfree _ hmem).2.2
    | new => rfl

/-- How a resolved device was found, with its outcome: by a durable key, by the address alone, or by the
vendor identifier. -/
theorem checkDevice_resolved {result : DeduplicationResult} {existing : Chassis}
    (hresult : checkDevice db serialNumber macAddress ip apiDeviceId (some manufacturer) none =
      .ok result) (hresolved : result.resolvedDevice = some existing) :
    existing ∈ db.chassis ∧
      ((MatchesDurable db serialNumber macAddress manufacturer existing ∧
          (result.outcome = .duplicate → ∀ row ∈ db.chassis, HoldsIp ip row → row = existing)) ∨
        (result.outcome = .duplicate ∧ MatchesIp db serialNumber macAddress ip existing ∧
          ∀ row ∈ db.chassis, HoldsIp ip row → row = existing) ∨
        (result.outcome = .moved ∧
          MatchesApiId db serialNumber macAddress ip apiDeviceId manufacturer existing)) := by
  have hclassified :=
    checkDevice_classified h serialNumber macAddress ip apiDeviceId manufacturer
  rw [hresult] at hclassified
  cases hclassified with
  | durableConflict => cases hresolved
  | @durable found hmem hholds honly howner matchType =>
      rw [resolvedDevice_matchResult, Option.some.injEq] at hresolved
      subst hresolved
      refine ⟨hmem, .inl ⟨⟨hholds, honly, howner⟩, fun hduplicate row hrow hip => ?_⟩⟩
      have hsame : found.ip = ip := by
        by_contra hne
        rw [outcome_matchResult, if_neg hne] at hduplicate
        cases hduplicate
      exact holdsIp_unique ip h hmem hrow (holdsIp_of_ip_eq ip h hmem hsame) hip
  | ipConflict => cases hresolved
  | ipDuplicate hmem hnone hip hserial hmac details =>
      cases hresolved
      exact ⟨hmem, .inr (.inl ⟨rfl, ⟨hnone, hip, hserial, hmac⟩, fun row hrow hrowIp =>
        holdsIp_unique ip h hmem hrow hip hrowIp⟩)⟩
  | @apiId found hmem hnone hnoIp hholds =>
      rw [resolvedDevice_matchResult, Option.some.injEq] at hresolved
      subst hresolved
      have hmoved : found.ip ≠ ip := fun hsame =>
        hnoIp found hmem (holdsIp_of_ip_eq ip h hmem hsame)
      refine ⟨hmem, .inr (.inr ⟨?_, hnone, hnoIp, hholds⟩)⟩
      rw [outcome_matchResult, if_neg hmoved]
  | new => cases hresolved

/-- A check raises only when two chassis hold the payload's serial number or its hardware address. -/
theorem checkDevice_error {e : IdentityError}
    (herror : checkDevice db serialNumber macAddress ip apiDeviceId (some manufacturer) none =
      .error e) :
    e = .multipleObjectsReturned ∧ ∃ row ∈ db.chassis, ∃ other ∈ db.chassis, row ≠ other ∧
      ((HoldsSerial serialNumber row ∧ HoldsSerial serialNumber other) ∨
        (HoldsMac macAddress row ∧ HoldsMac macAddress other)) := by
  have hclassified :=
    checkDevice_classified h serialNumber macAddress ip apiDeviceId manufacturer
  rw [herror] at hclassified
  cases hclassified with
  | ambiguous hrow hother hne hholds => exact ⟨rfl, _, hrow, _, hother, hne, hholds⟩

/-- Soundness of a check. A new device holds no key of a stored chassis. A duplicate or moved device
resolves to a stored chassis that is found by the first key any chassis holds: the durable keys, of
which it is then the only holder and with which it belongs to the manufacturer; the address, when the
payload says nothing that contradicts it; or the vendor identifier. Everything else is a conflict, or
raises because two chassis hold a durable key. -/
theorem checkDevice_sound :
    (checkDevice db serialNumber macAddress ip apiDeviceId (some manufacturer) none = .ok .new →
      ∀ row ∈ db.chassis, ¬ HoldsSerial serialNumber row ∧ ¬ HoldsMac macAddress row ∧
        ¬ HoldsIp ip row ∧ ¬ HoldsApiId manufacturer apiDeviceId row) ∧
    (∀ result existing,
      checkDevice db serialNumber macAddress ip apiDeviceId (some manufacturer) none = .ok result →
      result.resolvedDevice = some existing →
      existing ∈ db.chassis ∧
      ((MatchesDurable db serialNumber macAddress manufacturer existing ∧
          (result.outcome = .duplicate → ∀ row ∈ db.chassis, HoldsIp ip row → row = existing)) ∨
        (result.outcome = .duplicate ∧ MatchesIp db serialNumber macAddress ip existing ∧
          ∀ row ∈ db.chassis, HoldsIp ip row → row = existing) ∨
        (result.outcome = .moved ∧
          MatchesApiId db serialNumber macAddress ip apiDeviceId manufacturer existing))) ∧
    ((∃ row ∈ db.chassis, HoldsDurable serialNumber macAddress row ∨ HoldsIp ip row ∨
        HoldsApiId manufacturer apiDeviceId row) →
      (∀ existing ∈ db.chassis, ¬ MatchesDurable db serialNumber macAddress manufacturer existing ∧
        ¬ MatchesIp db serialNumber macAddress ip existing ∧
        ¬ MatchesApiId db serialNumber macAddress ip apiDeviceId manufacturer existing) →
      (∃ result, checkDevice db serialNumber macAddress ip apiDeviceId (some manufacturer) none =
        .ok result ∧ result.outcome = .conflict) ∨
      checkDevice db serialNumber macAddress ip apiDeviceId (some manufacturer) none =
        .error .multipleObjectsReturned ∧
        ∃ row ∈ db.chassis, ∃ other ∈ db.chassis, row ≠ other ∧
          ((HoldsSerial serialNumber row ∧ HoldsSerial serialNumber other) ∨
            (HoldsMac macAddress row ∧ HoldsMac macAddress other))) := by
  refine ⟨fun hnew row hrow => ?_, fun result existing hresult hresolved =>
    checkDevice_resolved h _ _ _ _ _ hresult hresolved, fun hheld hunmatched => ?_⟩
  · have hfree := (checkDevice_new_iff h _ _ _ _ _).mp hnew row hrow
    exact ⟨fun hserial => hfree.1 (.inl hserial), fun hmac => hfree.1 (.inr hmac), hfree.2⟩
  have hunresolved : ∀ result existing,
      checkDevice db serialNumber macAddress ip apiDeviceId (some manufacturer) none = .ok result →
      result.resolvedDevice ≠ some existing := by
    intro result existing hresult hresolved
    obtain ⟨hmem, hmatches⟩ := (checkDevice_resolves_iff h serialNumber macAddress ip apiDeviceId
      manufacturer).mp ⟨result, hresult, hresolved⟩
    obtain ⟨hdurable, hip, hapi⟩ := hunmatched existing hmem
    exact hmatches.elim hdurable fun hmatches => hmatches.elim hip hapi
  cases hchecked : checkDevice db serialNumber macAddress ip apiDeviceId (some manufacturer) none with
  | error e =>
      obtain ⟨rfl, hambiguous⟩ := checkDevice_error h _ _ _ _ _ hchecked
      exact .inr ⟨rfl, hambiguous⟩
  | ok result =>
      refine .inl ⟨result, rfl, ?_⟩
      cases result with
      | new =>
          obtain ⟨row, hrow, hholds⟩ := hheld
          have hfree := (checkDevice_new_iff h _ _ _ _ _).mp hchecked row hrow
          exact absurd hholds (by simp [hfree])
      | duplicate existing details => exact absurd rfl (hunresolved _ existing hchecked)
      | moved existing conflictType details => exact absurd rfl (hunresolved _ existing hchecked)
      | conflict existing conflictType details => rfl

end Sound

def shure : Manufacturer := ⟨1, "shure", true⟩

/-- A stored receiver with a serial number and a hardware address. -/
def storedReceiver : Chassis :=
  { Chassis.unsaved shure with
    pk := 1
    apiDeviceId := "dev-1"
    serialNumber := "SN-1"
    macAddress := some "aa:bb:cc:dd:ee:01"
    ip := "10.0.0.1" }

def receiverInventory : Inventory := { chassis := [storedReceiver], chargers := [], nextPk := 2 }

theorem receiverInventory_consistent : receiverInventory.Consistent where
  pk_unique := by decide
  pk_lt := by decide
  ip_stored := by decide
  ip_unique := by decide
  api_unique := by decide

/-- The check of a device that kept its serial number and changed its hardware address and its network
address. -/
theorem checkDevice_sound_storedReceiver :
    storedReceiver ∈ receiverInventory.chassis ∧
      storedReceiver.manufacturer.pk = shure.pk := by
  have hchecked : checkDevice receiverInventory (some "SN-1") (some "aa:bb:cc:dd:ee:02") "10.0.0.2"
      "dev-1" (some shure) none = .ok (.moved storedReceiver "ip_changed"
        [("old_ip", .text "10.0.0.1"), ("new_ip", .text "10.0.0.2"),
          ("match_type", .text "serial_number")]) := by decide +kernel
  obtain ⟨hmem, hfound⟩ := (checkDevice_sound receiverInventory_consistent (some "SN-1")
    (some "aa:bb:cc:dd:ee:02") "10.0.0.2" "dev-1" shure).2.1 _ storedReceiver hchecked rfl
  refine ⟨hmem, ?_⟩
  rcases hfound with ⟨⟨-, -, howner⟩, -⟩ | ⟨-, ⟨-, -, hserial, -⟩, -⟩ | ⟨-, -, -, hholds⟩
  · exact howner
  · exact absurd hserial (by decide)
  · exact hholds.1

/-- The serial number takes precedence over the hardware address by design, so a resolved device may
contradict the stored hardware address; and a device found by its address alone may belong to another
manufacturer. -/
theorem checkDevice_not_sound_for_every_key :
    ¬ ∀ (db : Inventory) (serialNumber macAddress : Option String) (ip apiDeviceId : String)
        (manufacturer : Manufacturer), db.Consistent →
      ∀ result existing,
        checkDevice db serialNumber macAddress ip apiDeviceId (some manufacturer) none = .ok result →
        result.resolvedDevice = some existing →
        existing.manufacturer.pk = manufacturer.pk ∧
        (∀ serial, supplied serialNumber = some serial → existing.serialNumber ≠ "" →
          existing.serialNumber = serial) ∧
        (∀ canonical, canonicalizeMacAddress macAddress = some canonical →
          ∀ stored ∈ existing.macAddress, stored ≠ "" →
            canonicalizeMacAddress (some stored) = some canonical) ∧
        ∀ row ∈ db.chassis, HoldsIp ip row → row = existing := by
  intro hclaim
  have hchecked : checkDevice receiverInventory (some "SN-1") (some "aa:bb:cc:dd:ee:02") "10.0.0.1"
      "dev-1" (some shure) none = .ok (.duplicate storedReceiver
        [("match_type", .text "serial_number")]) := by decide +kernel
  have hmac := (hclaim _ _ _ _ _ _ receiverInventory_consistent _ storedReceiver hchecked rfl).2.2.1
    "aa:bb:cc:dd:ee:02" (by decide +kernel) "aa:bb:cc:dd:ee:01" rfl (by decide)
  revert hmac
  decide +kernel

end Micboard
