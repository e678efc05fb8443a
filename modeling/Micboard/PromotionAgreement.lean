import Micboard.DevicePromotion

/-! Promotion against deduplication. The identity that promotion checks has no serial number, a
moved device is handled like a new one, and a chassis at the discovered address ends the promotion
at once. So promotion agrees with the check of the normalized identity only where these differences
do not show. -/

namespace Micboard

open Library Library.Text WirelessChassisPersistenceService DevicePromotionService

/-- A payload can be created: its address is one that no charger and no chassis has, and its vendor
identifier is free. -/
def Insertable (db : Inventory) (manufacturer : Manufacturer) (payload : NormalizedHardware) : Prop :=
  OwnableAddress db payload.ip ∧ ∀ row ∈ db.chassis, row.ip ≠ getPrepValue payload.ip ∧
    (row.manufacturer.pk, row.apiDeviceId) ≠ (manufacturer.pk, payload.apiDeviceId)

theorem createFromNormalized_accepted_iff {now : Time} {db : Inventory} (hdb : db.Consistent)
    {manufacturer : Manufacturer} {payload : NormalizedHardware} :
    (∃ db' chassis, createFromNormalized now db manufacturer payload none = .ok (db', chassis)) ↔
      Insertable db manufacturer payload := by
  unfold createFromNormalized
  simp only [create_eq_ok, createChassis_eq_ok, Option.some_or, Option.some.injEq, exists_eq_left']
  generalize hinstance : (WirelessChassisWrite.assignTo _ (Chassis.unsaved manufacturer)) = chassis
  have hidentity : chassis.manufacturer = manufacturer ∧ chassis.apiDeviceId = payload.apiDeviceId ∧
      chassis.ip = payload.ip := by
    rw [← hinstance]
    simp [WirelessChassisWrite.ofValues, WirelessChassisWrite.assignTo,
      WirelessChassisWrite.withoutManufacturer, FieldValue.column, FieldValue.validated,
      FieldValue.assign, payload.api_trimmed, payload.ip_trimmed, Chassis.unsaved]
  obtain ⟨hmanufacturer, hapi, hip⟩ := hidentity
  rw [hapi, hip, Insertable]
  have hunique : db.violatesUnique (startLifecycle now db chassis).stored = false ↔
      ∀ row ∈ db.chassis, row.ip ≠ getPrepValue payload.ip ∧
        (row.manufacturer.pk, row.apiDeviceId) ≠ (manufacturer.pk, payload.apiDeviceId) := by
    obtain ⟨isOnline, on, heq⟩ := startLifecycle_eq now db chassis
    have hpk : ∀ row ∈ db.chassis, row.pk ≠ db.nextPk := fun row hrow =>
      Nat.ne_of_lt (hdb.pk_lt row hrow)
    rw [Inventory.violatesUnique_eq_false, heq]
    simp only [Chassis.stored, writeTo_pk, writeTo_ip, writeTo_manufacturer, writeTo_apiDeviceId,
      Column.mem_all, if_true, withLifecycle_ip, withLifecycle_manufacturer, withLifecycle_apiDeviceId,
      hmanufacturer, hapi, hip]
    constructor
    · intro h row hrow
      exact h row hrow (hpk row hrow)
    · intro h row hrow _
      exact h row hrow
  rw [hunique]
  constructor
  · rintro ⟨db', saved, -, -, hownable, -, hfree, -⟩
    exact ⟨hownable, hfree⟩
  · rintro ⟨hownable, hfree⟩
    exact ⟨_, _, payload.api_ne, payload.ip_ne, hownable, payload.ip_ne, hfree, rfl, rfl⟩
theorem Inventory.Consistent.violatesUnique_self {db : Inventory} (h : db.Consistent) {row : Chassis}
    (hrow : row ∈ db.chassis) : db.violatesUnique row = false := by
  rw [Inventory.violatesUnique_eq_false]
  intro other hother hpk
  refine ⟨fun hip => hpk ?_, fun hapi => hpk ?_⟩
  · rw [h.ip_unique.eq hother hrow hip]
  · rw [h.api_unique.eq hother hrow hapi]

/-- A refresh of a stored row that keeps its address is refused only when a charger owns that
address. -/
theorem updateFromNormalized_accepted_iff {now : Time} {db : Inventory} (hdb : db.Consistent)
    {row : Chassis} (hrow : row ∈ db.chassis) {payload : NormalizedHardware} :
    (∃ db' chassis, updateFromNormalized now db row payload false = .ok (db', chassis)) ↔
      OwnableAddress db row.ip := by
  obtain ⟨hpk, -, -, -, -, hip, hstatus, -⟩ := refreshedInstance_identity now row payload false
  obtain ⟨hipColumn, -, hothers⟩ := mem_refreshedColumns now row payload false
  have hnoIp : .ip ∉ refreshedColumns now row payload false := fun h => by
    cases hipColumn.mp h
  have hfind : db.find (refreshedInstance now row payload false).pk = some row :=
    hdb.find_eq_some.mpr ⟨hrow, hpk.symm⟩
  have hfields : some (refreshedColumns now row payload false) ≠ some [] := fun h =>
    refreshedColumns_ne_nil now row payload false (Option.some.inj h)
  have hfree : db.violatesUnique ((refreshedInstance now row payload false).writeTo
      (refreshedColumns now row payload false) row) = false := by
    refine Eq.trans ?_ (hdb.violatesUnique_self hrow)
    refine Inventory.violatesUnique_congr rfl ?_ ?_ ?_
    · rw [writeTo_ip, if_neg hnoIp]
    · rw [writeTo_manufacturer, if_neg (hothers _ (by decide))]
    · rw [writeTo_apiDeviceId, if_neg (hothers _ (by decide))]
  simp only [updateFromNormalized_eq, liftSave_eq_ok,
    saveChassis_eq_ok_of_status hfields hfind hstatus.symm, hip, Bool.false_eq_true, if_false,
    Option.getD_some]
  constructor
  · rintro ⟨db', saved, hownable, -⟩
    exact hownable
  · intro hownable
    exact ⟨_, _, hownable, fun h => absurd h hnoIp, hfree, rfl, rfl⟩

/-- A row that was not stored before. -/
def CreatesChassis (db db' : Inventory) : Prop :=
  ∃ row ∈ db'.chassis, ∀ old ∈ db.chassis, old.pk ≠ row.pk

theorem not_createsChassis_self (db : Inventory) : ¬CreatesChassis db db := by
  rintro ⟨row, hrow, hnew⟩
  exact hnew row hrow rfl

theorem Rewrites.not_createsChassis {db db' : Inventory} {row row' : Chassis}
    (h : Rewrites db db' row row') : ¬CreatesChassis db db' := by
  rintro ⟨other, hother, hnew⟩
  rcases h.mem.mp hother with rfl | ⟨hold, -⟩
  · exact hnew row (Inventory.find_mem h.find) h.pk.symm
  · exact hnew other hold rfl

section Promotion

variable (now : Time) (db : Inventory) (manufacturer : Manufacturer) (catalog : VendorCatalog)
  (deviceData : JsonObject)

def NormalizesTo (payload : NormalizedHardware) : Prop :=
  normalizeDevices (transformedFields catalog) [deviceData] = .ok [payload]

/-- What promotion asks of the deduplication, where that raises nothing. -/
def checkDeviceData : Option DeduplicationResult :=
  (transformedFields catalog deviceData).bind (checkTransformed db manufacturer)

def checkNormalized (payload : NormalizedHardware) : Except IdentityError DeduplicationResult :=
  checkPayload manufacturer ⟨db, none⟩ payload

/-- Only a device that is new to the deduplication is created, and one that it finds is reused with its
address updated. -/
structure PromotionAgrees (result : Inventory × PromotionOutcome) : Prop where
  creates : CreatesChassis db result.1 → ∃ payload, NormalizesTo catalog deviceData payload ∧
    checkNormalized db manufacturer payload = .ok .new
  reuses : ∀ payload checked existing, NormalizesTo catalog deviceData payload →
    checkNormalized db manufacturer payload = .ok checked → checked.resolvedDevice = some existing →
      ¬CreatesChassis db result.1 ∧ result.2.chassis.map Chassis.pk = some existing.pk ∧
      ∃ row ∈ result.1.chassis, row.pk = existing.pk ∧ row.ip = getPrepValue payload.ip
  conflicts : ∀ payload existing conflictType details, NormalizesTo catalog deviceData payload →
    checkNormalized db manufacturer payload = .ok (.conflict existing conflictType details) →
      ¬CreatesChassis db result.1

/-- The chassis that the deduplication finds for the normalized identity is stored at the payload's
address already, and is the one managed at the discovered address, or where none is, also a
duplicate by the identity that promotion checks, with an address that no charger owns. -/
def FoundInPlace (managed : Option Chassis) (payload : NormalizedHardware) : Prop :=
  ∀ checked existing, checkNormalized db manufacturer payload = .ok checked →
    checked.resolvedDevice = some existing →
      existing.ip = getPrepValue payload.ip ∧ (managed = some existing ∨ managed = none ∧
        (∃ details, checkDeviceData db manufacturer catalog deviceData =
          some (.duplicate existing details)) ∧ OwnableAddress db existing.ip)

/-- The check of the normalized identity finds neither a new device nor a chassis. -/
def Undecided (payload : NormalizedHardware) : Prop :=
  ∀ checked, checkNormalized db manufacturer payload = .ok checked → checked.outcome = .conflict

/-- Where the check of the normalized identity is a conflict or ambiguous, a chassis is managed at
the discovered address, the identity that promotion checks is neither new nor moved, or the payload
cannot be created. -/
def RefusedElsewhere (managed : Option Chassis) (payload : NormalizedHardware) : Prop :=
  Undecided db manufacturer payload → managed = none →
    (∃ checked, checkDeviceData db manufacturer catalog deviceData = some checked ∧
      (checked.outcome = .new ∨ checked.outcome = .moved)) → ¬Insertable db manufacturer payload

end Promotion

section Agreement

variable {now : Time} {db : Inventory} {manufacturer : Manufacturer} {catalog : VendorCatalog}
  {deviceData : JsonObject}

theorem resolved_mem (hdb : db.Consistent) {payload : NormalizedHardware}
    {checked : DeduplicationResult}
    {existing : Chassis} (hchecked : checkNormalized db manufacturer payload = .ok checked)
    (hresolved : checked.resolvedDevice = some existing) : existing ∈ db.chassis :=
  ((checkDevice_resolves_iff hdb _ _ _ _ _).mp ⟨checked, hchecked, hresolved⟩).1

theorem checkTransformed_mem (hdb : db.Consistent) {transformed : VendorPayload}
    {checked : DeduplicationResult} {existing : Chassis}
    (hchecked : checkTransformed db manufacturer transformed = some checked)
    (hresolved : checked.resolvedDevice = some existing) : existing ∈ db.chassis := by
  simp only [checkTransformed, Option.bind_eq_bind, Option.bind_eq_some_iff] at hchecked
  obtain ⟨serialNumber, -, macAddress, -, _, -, ip, -, _, -, apiDeviceId, -, hcheck⟩ := hchecked
  have hok : checkDevice db serialNumber macAddress ip apiDeviceId (some manufacturer) none =
      .ok checked := by
    cases hresult : checkDevice db serialNumber macAddress ip apiDeviceId (some manufacturer) none with
    | error e =>
        rw [hresult] at hcheck
        cases hcheck
    | ok result =>
        rw [hresult] at hcheck
        rw [Option.some.inj hcheck]
  exact ((checkDevice_resolves_iff hdb _ _ _ _ _).mp ⟨checked, hok, hresolved⟩).1

theorem normalizeDevices_singleton {normalized : List NormalizedHardware}
    (h : normalizeDevices (transformedFields catalog) [deviceData] = .ok normalized) :
    normalized = [] ∨ ∃ payload, normalized = [payload] := by
  rcases normalizeDevices_cons deviceData [] with ⟨hskip, -⟩ | ⟨data, -, hstep⟩
  · rw [hskip] at h
    exact .inl (Except.ok.inj h).symm
  · rw [hstep] at h
    obtain ⟨result, -, h⟩ := bind_eq_ok.mp h
    cases result with
    | none => exact .inl (Except.ok.inj h).symm
    | some payload => exact .inr ⟨payload, (Except.ok.inj h).symm⟩

/-- What the check of the normalized identity can end in. -/
theorem undecided_or (payload : NormalizedHardware) :
    checkNormalized db manufacturer payload = .ok .new ∨
      (∃ checked existing, checkNormalized db manufacturer payload = .ok checked ∧
        checked.resolvedDevice = some existing) ∨
      Undecided db manufacturer payload := by
  cases hchecked : checkNormalized db manufacturer payload with
  | error e =>
      refine .inr (.inr fun checked h => ?_)
      rw [hchecked] at h
      cases h
  | ok checked =>
      cases checked with
      | new => exact .inl rfl
      | duplicate existing details => exact .inr (.inl ⟨_, existing, rfl, rfl⟩)
      | moved existing conflictType details => exact .inr (.inl ⟨_, existing, rfl, rfl⟩)
      | conflict existing conflictType details =>
          refine .inr (.inr fun checked h => ?_)
          rw [hchecked] at h
          rw [← Except.ok.inj h]
          rfl

/-- A promotion that stores nothing and returns no chassis agrees exactly when there is none to
return. -/
theorem agrees_unchanged_iff (outcome : PromotionOutcome) (hchassis : outcome.chassis = none) :
    PromotionAgrees db manufacturer catalog deviceData (db, outcome) ↔
      ∀ payload, NormalizesTo catalog deviceData payload → ∀ checked existing,
        checkNormalized db manufacturer payload = .ok checked →
          checked.resolvedDevice ≠ some existing := by
  constructor
  · intro h payload hnormalizes checked existing hchecked hresolved
    obtain ⟨-, hreturned, -⟩ := h.reuses payload checked existing hnormalizes hchecked hresolved
    rw [hchassis] at hreturned
    cases hreturned
  · intro h
    refine ⟨fun hcreates => absurd hcreates (not_createsChassis_self db), ?_, ?_⟩
    · intro payload checked existing hnormalizes hchecked hresolved
      exact absurd hresolved (h payload hnormalizes checked existing hchecked)
    · intro _ _ _ _ _ _
      exact not_createsChassis_self db

/-- Where no chassis is managed and promotion finds no duplicate, nothing must be found in place. -/
theorem foundInPlace_of_not_duplicate {payload : NormalizedHardware}
    (h : ∀ existing details,
      checkDeviceData db manufacturer catalog deviceData ≠ some (.duplicate existing details)) :
    FoundInPlace db manufacturer catalog deviceData none payload ↔ ∀ checked existing,
      checkNormalized db manufacturer payload = .ok checked →
        checked.resolvedDevice ≠ some existing := by
  constructor
  · intro hfound checked existing hchecked hresolved
    obtain ⟨-, hmanaged | ⟨-, ⟨details, hduplicate⟩, -⟩⟩ := hfound checked existing hchecked hresolved
    · cases hmanaged
    · exact h existing details hduplicate
  · intro hnone checked existing hchecked hresolved
    exact absurd hresolved (hnone checked existing hchecked)

/-- A promotion that ends before a write agrees as the identity that it checked allows. -/
theorem idle_agrees_iff (outcome : PromotionOutcome) (hchassis : outcome.chassis = none)
    (hchecked : ∀ checked, checkDeviceData db manufacturer catalog deviceData = some checked →
      checked.outcome = .conflict) :
    PromotionAgrees db manufacturer catalog deviceData (db, outcome) ↔
      ∀ payload, NormalizesTo catalog deviceData payload →
        FoundInPlace db manufacturer catalog deviceData none payload ∧
        RefusedElsewhere db manufacturer catalog deviceData none payload := by
  rw [agrees_unchanged_iff outcome hchassis]
  refine forall_congr' fun payload => imp_congr_right fun _ => ?_
  have hrefused : RefusedElsewhere db manufacturer catalog deviceData none payload := by
    rintro - - ⟨checked, hsome, hnew | hmoved⟩
    · rw [hchecked checked hsome] at hnew
      cases hnew
    · rw [hchecked checked hsome] at hmoved
      cases hmoved
  rw [foundInPlace_of_not_duplicate, and_iff_left hrefused]
  intro existing details hduplicate
  cases hchecked _ hduplicate

/-- A refresh in place reuses the chassis that it rewrites, and no other. -/
theorem refresh_reuses_iff (hdb : db.Consistent) {db' : Inventory}
    {chassis refreshed existing : Chassis}
    {payload : NormalizedHardware} (hchassis : chassis ∈ db.chassis) (hexisting : existing ∈ db.chassis)
    (hok : updateFromNormalized now db chassis payload false = .ok (db', refreshed)) :
    (¬CreatesChassis db db' ∧ some refreshed.pk = some existing.pk ∧
        ∃ row ∈ db'.chassis, row.pk = existing.pk ∧ row.ip = getPrepValue payload.ip) ↔
      existing.ip = getPrepValue payload.ip ∧ chassis = existing := by
  obtain ⟨row, row', hpk, hrewrites, hidentity, -, hrefreshed, -⟩ := updateFromNormalized_rewrites hok
  have hrow : row = chassis := hdb.pk_unique.eq (Inventory.find_mem hrewrites.find) hchassis hpk
  have hip : row'.ip = chassis.ip := by
    rw [hidentity.ip, refreshedRow, if_neg Bool.false_ne_true, hrow]
  have hkept : refreshed.pk = chassis.pk := hrefreshed.pk
  constructor
  · rintro ⟨-, hsame, stored, hstored, hstoredPk, hstoredIp⟩
    have hsame : chassis = existing :=
      hdb.pk_unique.eq hchassis hexisting (hkept.symm.trans (Option.some.inj hsame))
    refine ⟨?_, hsame⟩
    rcases hrewrites.mem.mp hstored with rfl | ⟨-, hother⟩
    · rw [← hsame, ← hip]
      exact hstoredIp
    · rw [hstoredPk, ← hsame, ← hpk] at hother
      exact absurd rfl hother
  · rintro ⟨hplace, rfl⟩
    refine ⟨hrewrites.not_createsChassis, by rw [hkept], row', ?_, ?_, ?_⟩
    · exact hrewrites.mem.mpr (.inl rfl)
    · rw [hrewrites.pk, hpk]
    · rw [hip, hplace]

theorem normalizesTo_cases :
    (∀ payload, ¬NormalizesTo catalog deviceData payload) ∨
      ∃ payload, normalizeDevices (transformedFields catalog) [deviceData] = .ok [payload] ∧
        ∀ other, NormalizesTo catalog deviceData other ↔ payload = other := by
  unfold NormalizesTo
  cases hnormalized : normalizeDevices (transformedFields catalog) [deviceData] with
  | error e =>
      left
      intro payload h
      cases h
  | ok normalized =>
      rcases normalizeDevices_singleton hnormalized with rfl | ⟨payload, rfl⟩
      · left
        intro payload h
        cases Except.ok.inj h
      · exact .inr ⟨payload, rfl, by simp⟩

theorem updateDuplicate_cases (now : Time) (hdb : db.Consistent) {chassis : Chassis}
    (hchassis : chassis ∈ db.chassis) :
    ((∀ payload, ¬NormalizesTo catalog deviceData payload) ∧ ∃ outcome : PromotionOutcome,
        outcome.chassis = none ∧ updateDuplicate now db catalog chassis deviceData = (db, outcome)) ∨
      ∃ payload, (∀ other, NormalizesTo catalog deviceData other ↔ payload = other) ∧
        ((OwnableAddress db chassis.ip ∧ ∃ db' refreshed,
            updateFromNormalized now db chassis payload false = .ok (db', refreshed) ∧
            updateDuplicate now db catalog chassis deviceData = (db', .updated refreshed)) ∨
          (¬OwnableAddress db chassis.ip ∧
            updateDuplicate now db catalog chassis deviceData = (db, .failed))) := by
  rcases @normalizesTo_cases catalog deviceData with hnone | hsome
  · refine .inl ⟨hnone, ?_⟩
    unfold updateDuplicate
    cases hnormalized : normalizeDevices (transformedFields catalog) [deviceData] with
    | error e => exact ⟨_, rfl, rfl⟩
    | ok normalized =>
        rcases normalizeDevices_singleton hnormalized with rfl | ⟨payload, rfl⟩
        · exact ⟨_, rfl, rfl⟩
        · exact absurd hnormalized (hnone payload)
  · obtain ⟨payload, hnormalized, hpayload⟩ := hsome
    refine .inr ⟨payload, hpayload, ?_⟩
    have haccepted :=
      @updateFromNormalized_accepted_iff now db hdb chassis hchassis payload
    cases hok : updateFromNormalized now db chassis payload false with
    | error e =>
        refine .inr ⟨?_, by simp only [updateDuplicate, hnormalized, hok]⟩
        rw [← haccepted, hok]
        rintro ⟨db', refreshed, h⟩
        cases h
    | ok result =>
        refine .inl ⟨haccepted.mp ⟨_, _, hok⟩, result.1, result.2, rfl, ?_⟩
        simp only [updateDuplicate, hnormalized, hok]

theorem createManaged_cases (now : Time) (hdb : db.Consistent) :
    ((∀ payload, ¬NormalizesTo catalog deviceData payload) ∧ ∃ outcome : PromotionOutcome,
        outcome.chassis = none ∧
          createManaged now db manufacturer catalog deviceData = (db, outcome)) ∨
      ∃ payload, (∀ other, NormalizesTo catalog deviceData other ↔ payload = other) ∧
        ((Insertable db manufacturer payload ∧ ∃ db' chassis,
            createFromNormalized now db manufacturer payload none = .ok (db', chassis) ∧
            createManaged now db manufacturer catalog deviceData = (db', .created chassis)) ∨
          (¬Insertable db manufacturer payload ∧
            createManaged now db manufacturer catalog deviceData = (db, .failed))) := by
  rcases @normalizesTo_cases catalog deviceData with hnone | hsome
  · refine .inl ⟨hnone, ?_⟩
    unfold createManaged
    cases hnormalized : normalizeDevices (transformedFields catalog) [deviceData] with
    | error e => exact ⟨_, rfl, rfl⟩
    | ok normalized =>
        rcases normalizeDevices_singleton hnormalized with rfl | ⟨payload, rfl⟩
        · exact ⟨_, rfl, rfl⟩
        · exact absurd hnormalized (hnone payload)
  · obtain ⟨payload, hnormalized, hpayload⟩ := hsome
    refine .inr ⟨payload, hpayload, ?_⟩
    have haccepted := @createFromNormalized_accepted_iff now db hdb manufacturer payload
    cases hok : createFromNormalized now db manufacturer payload none with
    | error e =>
        refine .inr ⟨?_, by simp only [createManaged, hnormalized, hok]⟩
        rw [← haccepted, hok]
        rintro ⟨db', chassis, h⟩
        cases h
    | ok result =>
        refine .inl ⟨haccepted.mp ⟨_, _, hok⟩, result.1, result.2, rfl, ?_⟩
        simp only [createManaged, hnormalized, hok]

/-- The refresh of a duplicate agrees when it is the chassis that the normalized identity finds. -/
theorem updateDuplicate_agrees_iff (hdb : db.Consistent) {chassis : Chassis} {details : Details}
    (hchecked : checkDeviceData db manufacturer catalog deviceData = some (.duplicate chassis details))
    (hchassis : chassis ∈ db.chassis) :
    PromotionAgrees db manufacturer catalog deviceData
        (updateDuplicate now db catalog chassis deviceData) ↔
      ∀ payload, NormalizesTo catalog deviceData payload →
        FoundInPlace db manufacturer catalog deviceData none payload ∧
        RefusedElsewhere db manufacturer catalog deviceData none payload := by
  have hrefused : ∀ payload, RefusedElsewhere db manufacturer catalog deviceData none payload := by
    rintro payload - - ⟨checked, hsome, hnew | hmoved⟩
    · rw [← Option.some.inj (hchecked.symm.trans hsome)] at hnew
      cases hnew
    · rw [← Option.some.inj (hchecked.symm.trans hsome)] at hmoved
      cases hmoved
  have hduplicate : ∀ existing, (∃ details, checkDeviceData db manufacturer catalog deviceData =
      some (.duplicate existing details)) ↔ chassis = existing := by
    intro existing
    rw [hchecked]
    simp
  simp only [hrefused, and_true]
  rcases updateDuplicate_cases now hdb hchassis with ⟨hnone, outcome, hreturned, heq⟩ |
    ⟨payload, hpayload, ⟨hownable, db', refreshed, hok, heq⟩ | ⟨hownable, heq⟩⟩
  · rw [heq, agrees_unchanged_iff outcome hreturned]
    simp only [hnone, false_imp_iff]
  · have hcreates : ¬CreatesChassis db db' := by
      obtain ⟨_, _, -, hrewrites, -⟩ := updateFromNormalized_rewrites hok
      exact hrewrites.not_createsChassis
    rw [heq]
    simp only [hpayload, forall_eq']
    constructor
    · intro h resolved existing hresult hresolved
      obtain ⟨hplace, hsame⟩ :=
        (refresh_reuses_iff hdb hchassis (resolved_mem hdb hresult hresolved) hok).mp
          (h.reuses payload resolved existing ((hpayload payload).mpr rfl) hresult hresolved)
      rw [← hsame] at hplace ⊢
      exact ⟨hplace, .inr ⟨rfl, ⟨details, hchecked⟩, hownable⟩⟩
    · intro h
      refine ⟨fun hnew => absurd hnew hcreates, ?_, fun _ _ _ _ _ _ => hcreates⟩
      intro other resolved existing hother hresult hresolved
      obtain rfl := (hpayload other).mp hother
      refine (refresh_reuses_iff hdb hchassis (resolved_mem hdb hresult hresolved) hok).mpr ?_
      obtain ⟨hplace, hmanaged | ⟨-, hsame, -⟩⟩ := h resolved existing hresult hresolved
      · cases hmanaged
      · exact ⟨hplace, (hduplicate existing).mp hsame⟩
  · rw [heq, agrees_unchanged_iff .failed rfl]
    simp only [hpayload, forall_eq']
    constructor
    · intro h resolved existing hresult hresolved
      exact absurd hresolved (h resolved existing hresult)
    · intro h resolved existing hresult hresolved
      obtain ⟨-, hmanaged | ⟨-, hsame, hfree⟩⟩ := h resolved existing hresult hresolved
      · cases hmanaged
      · rw [← (hduplicate existing).mp hsame] at hfree
        exact hownable hfree

theorem createManaged_agrees_iff (hdb : db.Consistent) {checked : DeduplicationResult}
    (hchecked : checkDeviceData db manufacturer catalog deviceData = some checked)
    (houtcome : checked.outcome = .new ∨ checked.outcome = .moved) :
    PromotionAgrees db manufacturer catalog deviceData
        (createManaged now db manufacturer catalog deviceData) ↔
      ∀ payload, NormalizesTo catalog deviceData payload →
        FoundInPlace db manufacturer catalog deviceData none payload ∧
        RefusedElsewhere db manufacturer catalog deviceData none payload := by
  have hplace : ∀ payload, FoundInPlace db manufacturer catalog deviceData none payload ↔
      ∀ checked existing, checkNormalized db manufacturer payload = .ok checked →
        checked.resolvedDevice ≠ some existing := by
    intro payload
    refine foundInPlace_of_not_duplicate fun existing details hduplicate => ?_
    rw [Option.some.inj (hchecked.symm.trans hduplicate)] at houtcome
    rcases houtcome with h | h
    · cases h
    · cases h
  have hrefused : ∀ payload, RefusedElsewhere db manufacturer catalog deviceData none payload ↔
      (Undecided db manufacturer payload → ¬Insertable db manufacturer payload) := by
    intro payload
    refine imp_congr_right fun _ => ?_
    constructor
    · intro h
      exact h rfl ⟨checked, hchecked, houtcome⟩
    · intro h _ _
      exact h
  simp only [hplace, hrefused]
  rcases createManaged_cases now hdb with ⟨hnone, outcome, hreturned, heq⟩ |
    ⟨payload, hpayload, ⟨hinsertable, db', chassis, hok, heq⟩ | ⟨hinsertable, heq⟩⟩
  · rw [heq, agrees_unchanged_iff outcome hreturned]
    simp only [hnone, false_imp_iff]
  · have hcreates : CreatesChassis db db' := by
      obtain ⟨hpk, -, -, -, -, -, -, row, rfl, hidentity, -⟩ := createFromNormalized_inserts hok
      refine ⟨row, ?_, fun old hold hsame => ?_⟩
      · rw [Inventory.insertRow_chassis]
        exact List.mem_append_right _ (List.mem_singleton_self _)
      · rw [hidentity.pk, hpk] at hsame
        exact absurd hsame (Nat.ne_of_lt (hdb.pk_lt old hold))
    rw [heq]
    simp only [hpayload, forall_eq', hinsertable, not_true, imp_false]
    constructor
    · intro h
      obtain ⟨other, hother, hnew⟩ := h.creates hcreates
      obtain rfl := (hpayload other).mp hother
      rw [hnew]
      refine ⟨?_, fun hundecided => ?_⟩
      · rintro _ existing ⟨⟩ hresolved
        cases hresolved
      · cases hundecided .new hnew
    · rintro ⟨hnotFound, hdecided⟩
      rcases @undecided_or db manufacturer payload with hnew | hfound | hundecided
      · refine ⟨fun _ => ⟨payload, (hpayload payload).mpr rfl, hnew⟩, ?_, ?_⟩
        · intro other resolved existing hother hresult hresolved
          obtain rfl := (hpayload other).mp hother
          exact absurd hresolved (hnotFound resolved existing hresult)
        · intro other existing conflictType details hother hresult
          obtain rfl := (hpayload other).mp hother
          cases hnew.symm.trans hresult
      · obtain ⟨resolved, existing, hresult, hresolved⟩ := hfound
        exact absurd hresolved (hnotFound resolved existing hresult)
      · exact absurd hundecided hdecided
  · rw [heq, agrees_unchanged_iff .failed rfl]
    simp only [hpayload, forall_eq', hinsertable, not_false_eq_true, implies_true, and_true]

theorem attempt_agrees_iff (hdb : db.Consistent) :
    PromotionAgrees db manufacturer catalog deviceData
        (attemptPromotionWithDeviceData now db manufacturer catalog deviceData) ↔
      ∀ payload, NormalizesTo catalog deviceData payload →
        FoundInPlace db manufacturer catalog deviceData none payload ∧
        RefusedElsewhere db manufacturer catalog deviceData none payload := by
  unfold attemptPromotionWithDeviceData
  cases htransformed : transformedFields catalog deviceData with
  | none =>
      refine idle_agrees_iff .untransformable rfl ?_
      intro checked hchecked
      simp [checkDeviceData, htransformed] at hchecked
  | some transformed =>
      have hdata : checkDeviceData db manufacturer catalog deviceData =
          checkTransformed db manufacturer transformed := by
        rw [checkDeviceData, htransformed, Option.bind_some]
      cases hcheck : checkTransformed db manufacturer transformed with
      | none =>
          simp only [hcheck]
          refine idle_agrees_iff .failed rfl ?_
          intro checked hchecked
          rw [hdata, hcheck] at hchecked
          cases hchecked
      | some checked =>
          rw [hcheck] at hdata
          simp only [hcheck]
          cases checked with
          | conflict existing conflictType details =>
              refine idle_agrees_iff (.conflict conflictType) rfl ?_
              intro checked hchecked
              rw [hdata] at hchecked
              rw [← Option.some.inj hchecked]
              rfl
          | duplicate existing details =>
              exact updateDuplicate_agrees_iff hdb hdata (checkTransformed_mem hdb hcheck rfl)
          | moved existing conflictType details =>
              exact createManaged_agrees_iff hdb hdata (.inr rfl)
          | new => exact createManaged_agrees_iff hdb hdata (.inl rfl)

/-- The refusal of a managed device agrees when it is the chassis that the normalized identity finds. -/
theorem alreadyManaged_agrees_iff (hdb : db.Consistent) {managed : Chassis}
    (hmanaged : managed ∈ db.chassis) :
    PromotionAgrees db manufacturer catalog deviceData (db, .alreadyManaged managed) ↔
      ∀ payload, NormalizesTo catalog deviceData payload →
        FoundInPlace db manufacturer catalog deviceData (some managed) payload ∧
        RefusedElsewhere db manufacturer catalog deviceData (some managed) payload := by
  have hrefused : ∀ payload,
      RefusedElsewhere db manufacturer catalog deviceData (some managed) payload := by
    rintro payload - ⟨⟩
  simp only [hrefused, and_true]
  constructor
  · intro h payload hnormalizes checked existing hchecked hresolved
    obtain ⟨-, hreturned, row, hrow, hpk, hip⟩ :=
      h.reuses payload checked existing hnormalizes hchecked hresolved
    have hexisting := resolved_mem hdb hchecked hresolved
    rw [hdb.pk_unique.eq hrow hexisting hpk] at hip
    exact ⟨hip, .inl (congrArg some (hdb.pk_unique.eq hmanaged hexisting (Option.some.inj hreturned)))⟩
  · intro h
    refine ⟨fun hcreates => absurd hcreates (not_createsChassis_self db), ?_, ?_⟩
    · intro payload checked existing hnormalizes hchecked hresolved
      obtain ⟨hip, hsame | ⟨hnone, -⟩⟩ := h payload hnormalizes checked existing hchecked hresolved
      · obtain rfl := Option.some.inj hsame
        exact ⟨not_createsChassis_self db, rfl, managed, hmanaged, rfl, hip⟩
      · cases hnone
    · intro _ _ _ _ _ _
      exact not_createsChassis_self db

/-- **Promotion agrees with the deduplication of the normalized identity exactly where its own
reading of the vendor's data makes no difference**: what the deduplication finds is in place, and
what it leaves undecided is not created. -/
theorem promotion_agrees_iff (now : Time) (hdb : db.Consistent) {discovered : PromotionCandidate}
    {plugin : PromotionPlugin} (hmanufacturer : discovered.manufacturer = some manufacturer)
    (hdata : PromotionPlugin.deviceData plugin discovered.ip = some deviceData) :
    PromotionAgrees db manufacturer plugin.catalog deviceData
        (promoteDiscoveredDevice now db discovered (some plugin)) ↔
      ∀ payload, NormalizesTo plugin.catalog deviceData payload →
        FoundInPlace db manufacturer plugin.catalog deviceData
          (findExistingChassis db discovered.ip manufacturer) payload ∧
        RefusedElsewhere db manufacturer plugin.catalog deviceData
          (findExistingChassis db discovered.ip manufacturer) payload := by
  unfold promoteDiscoveredDevice
  simp only [hmanufacturer]
  cases hmanaged : findExistingChassis db discovered.ip manufacturer with
  | some managed => exact alreadyManaged_agrees_iff hdb (List.mem_of_find?_eq_some hmanaged)
  | none =>
      cases deviceData with
      | nil => cases List.find?_some hdata
      | cons item rest =>
          simp only [hdata]
          exact attempt_agrees_iff hdb

end Agreement

/-- A receiver found at an address, and a vendor that lists one device. -/
def discoveredAt (ip : String) : PromotionCandidate := ⟨some shure, ip, "ulxd"⟩

def listingPlugin (deviceData : JsonObject) : PromotionPlugin := ⟨shureCatalog, some [deviceData]⟩

/-- A receiver that no stored row shares a key with. -/
def freshReceiverData : JsonObject := [("id", .text "rx-5"), ("ip", .text "10.0.0.5")]

/-- The stored receiver where it is stored. -/
def knownReceiverData : JsonObject := [("id", .text "dev-1"), ("ip", .text "10.0.0.1")]

/-- A receiver that is new, and one that is managed already. -/
theorem promotion_agrees_iff_receivers :
    PromotionAgrees receiverInventory shure shureCatalog freshReceiverData
        (promoteDiscoveredDevice 0 receiverInventory (discoveredAt "10.0.0.5")
          (some (listingPlugin freshReceiverData))) ∧
      PromotionAgrees receiverInventory shure shureCatalog knownReceiverData
        (promoteDiscoveredDevice 0 receiverInventory (discoveredAt "10.0.0.1")
          (some (listingPlugin knownReceiverData))) := by
  have hmanufacturer : ∀ ip, (discoveredAt ip).manufacturer = some shure := fun _ => rfl
  have hfresh : PromotionPlugin.deviceData (listingPlugin freshReceiverData)
      (discoveredAt "10.0.0.5").ip = some freshReceiverData := rfl
  have hknown : PromotionPlugin.deviceData (listingPlugin knownReceiverData)
      (discoveredAt "10.0.0.1").ip = some knownReceiverData := rfl
  constructor
  · refine (promotion_agrees_iff 0 receiverInventory_consistent (hmanufacturer _) hfresh).mpr ?_
    intro payload hnormalizes
    have hnew : (normalizeDevices (transformedFields shureCatalog) [freshReceiverData]).map
        (List.map (checkNormalized receiverInventory shure)) = .ok [.ok .new] := by decide +kernel
    have hpayload : normalizeDevices (transformedFields shureCatalog) [freshReceiverData] =
        .ok [payload] := hnormalizes
    rw [hpayload] at hnew
    have hnew : checkNormalized receiverInventory shure payload = .ok .new :=
      List.head_eq_of_cons_eq (Except.ok.inj hnew)
    refine ⟨?_, fun hundecided => ?_⟩
    · intro checked existing hchecked hresolved
      obtain rfl := Except.ok.inj (hnew.symm.trans hchecked)
      cases hresolved
    · cases hundecided .new hnew
  · refine (promotion_agrees_iff 0 receiverInventory_consistent (hmanufacturer _) hknown).mpr ?_
    intro payload hnormalizes
    have hmanaged : findExistingChassis receiverInventory (discoveredAt "10.0.0.1").ip shure =
        some storedReceiver := by decide +kernel
    have hfound : (normalizeDevices (transformedFields shureCatalog) [knownReceiverData]).map
        (List.map fun payload => ((checkNormalized receiverInventory shure payload).map
          DeduplicationResult.resolvedDevice, getPrepValue payload.ip)) =
        .ok [(.ok (some storedReceiver), "10.0.0.1")] := by decide +kernel
    have hpayload : normalizeDevices (transformedFields shureCatalog) [knownReceiverData] =
        .ok [payload] := hnormalizes
    rw [hpayload] at hfound
    obtain ⟨hresolves, hip⟩ := Prod.mk.inj (List.head_eq_of_cons_eq (Except.ok.inj hfound))
    rw [hmanaged]
    refine ⟨fun checked existing hchecked hresolved => ?_, fun _ hnone => nomatch hnone⟩
    rw [hchecked] at hresolves
    obtain rfl := Option.some.inj (hresolved.symm.trans (Except.ok.inj hresolves))
    exact ⟨hip.symm, .inl rfl⟩

/-- The stored receiver under another identifier and at another address. -/
def relocatedReceiverData : JsonObject :=
  [("id", .text "rx-9"), ("ip", .text "10.0.0.9"), ("serial_number", .text "SN-1")]

/-- The serial number of a moved receiver is lost on the way to the check, and a second chassis is
created for it. -/
theorem moved_receiver_created_twice :
    ¬ ∀ now db (discovered : PromotionCandidate) plugin manufacturer deviceData, db.Consistent →
      discovered.manufacturer = some manufacturer →
      PromotionPlugin.deviceData plugin discovered.ip = some deviceData →
      PromotionAgrees db manufacturer plugin.catalog deviceData
        (promoteDiscoveredDevice now db discovered (some plugin)) := by
  intro hclaim
  have hagrees := hclaim 0 receiverInventory (discoveredAt "10.0.0.9")
    (listingPlugin relocatedReceiverData) shure relocatedReceiverData
      receiverInventory_consistent rfl rfl
  have hcreates : CreatesChassis receiverInventory
      (promoteDiscoveredDevice 0 receiverInventory (discoveredAt "10.0.0.9")
        (some (listingPlugin relocatedReceiverData))).1 := by
    unfold CreatesChassis
    decide +kernel
  obtain ⟨payload, hnormalizes, hnew⟩ := hagrees.creates hcreates
  have hmoved : (normalizeDevices (transformedFields shureCatalog) [relocatedReceiverData]).map
      (List.map fun payload => (checkNormalized receiverInventory shure payload).map
        DeduplicationResult.outcome) = .ok [.ok .moved] := by decide +kernel
  have hpayload : normalizeDevices (transformedFields shureCatalog) [relocatedReceiverData] =
      .ok [payload] := hnormalizes
  rw [hpayload] at hmoved
  simp [Except.map, hnew, DeduplicationResult.outcome] at hmoved

end Micboard
