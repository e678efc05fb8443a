import Micboard.ApprovalAccepted
import Micboard.PersistenceEffect

/-! What persisting an accepted plan does. Every group of rows writes one chassis or one charger: it
fails when its chassis is retired or when another chassis holds the API identity it is given, and
succeeds otherwise. A successful run leaves the untouched rows as they were and one written row for
each group. -/

namespace Micboard

open Library Library.Text LockedApprovalInventory DiscoveryApprovalResolver
  DiscoveryApprovalBatchPolicy DiscoveryApprovalService

/-- A chassis row of the queue with its planned target. -/
abbrev ChassisEntry := DiscoveryQueue × ChassisApprovalTarget

/-- The values one row gives, when its target is not retired. -/
def entryValues (entry : ChassisEntry) : List FieldValue :=
  [.manufacturer entry.1.manufacturer, .apiDeviceId entry.2.apiDeviceId, .ip entry.1.ip,
    .role entry.1.role, .isOnline true, .status (approvedStatus entry.2.chassis)] ++
    optionalValues entry.1

theorem chassisValues_eq (item : DiscoveryQueue) (target : ChassisApprovalTarget) :
    chassisValues item target =
      match target.chassis.filter (·.status = .retired) with
      | some chassis => .error (.retired chassis)
      | none => .ok (entryValues (item, target)) := rfl

theorem trim_serial (item : DiscoveryQueue) : trim (text item.serialNumber) = text item.serialNumber :=
  trim_strip item.serialNumber

theorem optionalValues_eq (item : DiscoveryQueue) :
    ∃ rest, optionalValues item =
        (if text item.serialNumber = "" then [] else [.serialNumber (text item.serialNumber)]) ++
          rest ∧
      ∀ value ∈ rest, value.column ∉ keyColumns := by
  refine ⟨_, by simp only [optionalValues, List.append_assoc]; rfl, ?_⟩
  intro value hvalue
  simp only [List.mem_append] at hvalue
  rcases hvalue with h | h | h | h | h | h | h <;>
    · split at h
      next => cases h
      next =>
        rw [List.mem_singleton] at h
        rw [h]
        simp [FieldValue.column, keyColumns]

/-- One row's values set every key but the serial number, which they set when they have one. -/
theorem assign_entryValues (entry : ChassisEntry) (chassis : Chassis) :
    SameKeys ((WirelessChassisWrite.ofValues (entryValues entry)).assignTo chassis) {
      chassis with
      manufacturer := entry.1.manufacturer
      apiDeviceId := trim entry.2.apiDeviceId
      ip := entry.1.ip
      serialNumber := if text entry.1.serialNumber = "" then chassis.serialNumber
        else text entry.1.serialNumber
      status := approvedStatus entry.2.chassis } := by
  obtain ⟨rest, hrest, hkeys⟩ := optionalValues_eq entry.1
  have hothers : ∀ value ∈ rest.map FieldValue.validated, value.column ∉ keyColumns := by
    intro value hvalue
    obtain ⟨raw, hraw, rfl⟩ := List.mem_map.mp hvalue
    rw [FieldValue.validated_column]
    exact hkeys raw hraw
  rw [entryValues, hrest, WirelessChassisWrite.ofValues, List.map_append, List.map_append,
    assignTo_append, assignTo_append]
  refine (assignTo_sameKeys _ hothers).trans ?_
  split
  next hserial =>
    exact ⟨rfl, rfl, rfl, rfl, entry.1.ip_trimmed, rfl⟩
  next hserial =>
    exact ⟨rfl, rfl, rfl, trim_serial entry.1, entry.1.ip_trimmed, rfl⟩

def groupInstance (entries : List ChassisEntry) (chassis : Chassis) : Chassis :=
  (WirelessChassisWrite.ofValues (entries.map entryValues).flatten).assignTo chassis

theorem groupInstance_append (entries : List ChassisEntry) (entry : ChassisEntry)
    (chassis : Chassis) : groupInstance (entries ++ [entry]) chassis =
      (WirelessChassisWrite.ofValues (entryValues entry)).assignTo (groupInstance entries chassis) := by
  simp only [groupInstance, WirelessChassisWrite.ofValues, List.map_append, List.map_cons,
    List.map_nil, List.flatten_append, List.flatten_cons, List.flatten_nil, List.append_nil,
    assignTo_append]

/-- Rows that agree on their target, manufacturer and address. -/
structure Agree (entries : List ChassisEntry) (item : DiscoveryQueue)
    (target : ChassisApprovalTarget) : Prop where
  mem : (item, target) ∈ entries
  target : ∀ entry ∈ entries, entry.2 = target
  manufacturer : ∀ entry ∈ entries, entry.1.manufacturer.pk = item.manufacturer.pk
  ip : ∀ entry ∈ entries, entry.1.ip = item.ip

/-- The serial number of a group's instance is one of its rows', or the one it had. -/
def GroupSerial (entries : List ChassisEntry) (stored serialNumber : String) : Prop :=
  (∃ entry ∈ entries, text entry.1.serialNumber ≠ "" ∧ serialNumber = text entry.1.serialNumber) ∨
    ((∀ entry ∈ entries, text entry.1.serialNumber = "") ∧ serialNumber = stored)

theorem groupInstance_serial (entries : List ChassisEntry) (chassis : Chassis) :
    GroupSerial entries chassis.serialNumber (groupInstance entries chassis).serialNumber := by
  induction entries using List.reverseRecOn with
  | nil => exact .inr ⟨by simp, rfl⟩
  | append_singleton entries entry ih =>
      have hserial := (assign_entryValues entry (groupInstance entries chassis)).serialNumber
      rw [groupInstance_append, hserial]
      split
      next hempty =>
        rcases ih with ⟨earlier, hearlier, hne, heq⟩ | ⟨hall, heq⟩
        · exact .inl ⟨earlier, List.mem_append_left _ hearlier, hne, heq⟩
        · refine .inr ⟨?_, heq⟩
          intro other hother
          rcases List.mem_append.mp hother with hother | hother
          · exact hall other hother
          · rw [List.mem_singleton.mp hother]
            exact hempty
      next hne => exact .inl ⟨entry, by simp, hne, rfl⟩

theorem groupInstance_pk (entries : List ChassisEntry) (chassis : Chassis) :
    (groupInstance entries chassis).pk = chassis.pk := by
  induction entries using List.reverseRecOn with
  | nil => rfl
  | append_singleton entries entry ih =>
      rw [groupInstance_append, (assign_entryValues entry _).pk]
      exact ih

/-- Rows that agree give their instance the manufacturer, identity, address and status they agree on. -/
theorem Agree.instanceKeys {entries : List ChassisEntry} {item : DiscoveryQueue}
    {target : ChassisApprovalTarget} (h : Agree entries item target) (chassis : Chassis) :
    (groupInstance entries chassis).manufacturer.pk = item.manufacturer.pk ∧
      (groupInstance entries chassis).apiDeviceId = trim target.apiDeviceId ∧
      (groupInstance entries chassis).ip = item.ip ∧
      (groupInstance entries chassis).status = approvedStatus target.chassis := by
  obtain ⟨front, last, rfl⟩ : ∃ front last, entries = front ++ [last] := by
    rcases List.eq_nil_or_concat entries with rfl | ⟨front, last, rfl⟩
    · cases h.mem
    · exact ⟨front, last, List.concat_eq_append⟩
  have hkeys := assign_entryValues last (groupInstance front chassis)
  have hlast : last ∈ front ++ [last] := by simp
  rw [groupInstance_append, hkeys.manufacturer, hkeys.apiDeviceId, hkeys.ip, hkeys.status,
    h.target last hlast]
  exact ⟨h.manufacturer last hlast, rfl, h.ip last hlast, rfl⟩

theorem hexdigest_chars (digest : Nat) :
    ∀ c ∈ (hexdigest digest).toList, isWhiteSpace c = false := by
  intro c hc
  have hdigit : ∀ d < 16, isWhiteSpace (Nat.digitChar d) = false := by decide +kernel
  rw [hexdigest, String.toList_ofList, List.leftpad, List.mem_append] at hc
  rcases hc with hpad | hdigits
  · rw [List.eq_of_mem_replicate hpad]
    decide
  · obtain ⟨d, hd, rfl⟩ := Library.Address.mem_hexadecimal hdigits
    exact hdigit d hd

theorem hexdigest_ne (digest : Nat) : hexdigest digest ≠ "" := by
  intro hempty
  have hnil : (hexadecimal digest).leftpad 64 '0' = [] := by
    rw [← String.toList_ofList (l := (hexadecimal digest).leftpad 64 '0')]
    exact congrArg String.toList hempty
  rw [List.leftpad, List.append_eq_nil_iff] at hnil
  exact Library.Address.hexadecimal_ne_nil digest hnil.2

theorem trim_serialApiId (sha256 : String → Nat) {serialNumber : String}
    (hne : serialNumber ≠ "") (htrim : trim serialNumber = serialNumber) :
    trim (serialApiId sha256 serialNumber) = serialApiId sha256 serialNumber := by
  rw [serialApiId]
  split
  next => exact trim_append (c := 's') (by decide) (by decide) hne htrim
  next =>
    exact trim_append (c := 's') (by decide) (by decide) (hexdigest_ne _)
      (trim_of_forall (hexdigest_chars _))

theorem trim_persistedApiDeviceId (sha256 : String → Nat) (item : DiscoveryQueue)
    (chassis : Option Chassis) :
    trim (persistedApiDeviceId sha256 item chassis) = persistedApiDeviceId sha256 item chassis := by
  have htext : ∀ value, trim (text value) = text value := trim_strip
  have hserial : text item.serialNumber ≠ "" → _ := fun hne =>
    trim_serialApiId sha256 hne (htext _)
  have hchassis : trim ((chassis.map fun row => text row.apiDeviceId).getD "") =
      (chassis.map fun row => text row.apiDeviceId).getD "" := by
    cases chassis with
    | none => exact trim_empty
    | some row => exact htext _
  unfold persistedApiDeviceId
  dsimp only
  generalize serialApiId sha256 (text item.serialNumber) = fallback at hserial ⊢
  generalize (chassis.map fun row => text row.apiDeviceId).getD "" = stored at hchassis ⊢
  by_cases hfallback : (if text item.apiDeviceId = "" then stored else text item.apiDeviceId) = "" ∧
      text item.serialNumber ≠ ""
  · rw [if_pos hfallback]
    exact hserial hfallback.2
  · rw [if_neg hfallback]
    by_cases hapi : text item.apiDeviceId = ""
    · rw [if_pos hapi]
      exact hchassis
    · rw [if_neg hapi]
      exact htext _

/-! ### One group -/

section Adopt

variable {now : Time} {db : Inventory} {entries : List ChassisEntry} {item : DiscoveryQueue}
  {target : ChassisApprovalTarget}

theorem Agree.head (h : Agree entries item target) :
    (entries.head?.bind fun entry => entry.2.chassis) = target.chassis := by
  cases entries with
  | nil => cases h.mem
  | cons first rest =>
      rw [List.head?_cons, Option.bind_some, h.target first List.mem_cons_self]

theorem adopt_retired (h : Agree entries item target) {chassis : Chassis}
    (hchassis : target.chassis = some chassis) (hretired : chassis.status = .retired) :
    adoptWirelessChassis now db entries = .error (.retired chassis) := by
  cases entries with
  | nil => cases h.mem
  | cons first rest =>
      have hfirst : chassisValues first.1 first.2 = .error (.retired chassis) := by
        rw [chassisValues_eq, h.target first List.mem_cons_self, hchassis]
        simp [Option.filter, hretired]
      rw [adoptWirelessChassis, List.mapM_cons, hfirst]
      rfl

theorem Agree.values (h : Agree entries item target)
    (hactive : ∀ chassis, target.chassis = some chassis → chassis.status ≠ .retired) :
    (entries.mapM fun entry => chassisValues entry.1 entry.2) =
      .ok (entries.map entryValues) := by
  apply mapM_eq_ok_map
  intro entry hentry
  have hnone : target.chassis.filter (·.status = .retired) = none := by
    cases hchassis : target.chassis with
    | none => rfl
    | some chassis => simp [Option.filter, hactive chassis hchassis]
  rw [chassisValues_eq, h.target entry hentry, hnone, ← h.target entry hentry]

theorem Agree.manufacturer_mem (h : Agree entries item target) :
    FieldValue.manufacturer item.manufacturer ∈
      WirelessChassisWrite.ofValues (entries.map entryValues).flatten := by
  refine List.mem_map.mpr ⟨.manufacturer item.manufacturer, ?_, rfl⟩
  exact List.mem_flatten.mpr ⟨_, List.mem_map_of_mem h.mem, List.mem_cons_self⟩

theorem adopt_new (h : Agree entries item target) (hchassis : target.chassis = none)
    (hapi : trim target.apiDeviceId = target.apiDeviceId) (hne : target.apiDeviceId ≠ "") :
    ∃ selected, adoptWirelessChassis now db entries =
      (liftApproval (liftSave (createChassis now db
        (groupInstance entries (Chassis.unsaved selected))))).map fun saved =>
          (saved.1, saved.2, true) := by
  obtain ⟨selected, hselected⟩ : ∃ selected, WirelessChassisWrite.namedManufacturer
      (.ofValues (entries.map entryValues).flatten) = some selected := by
    rw [← Option.isSome_iff_exists, WirelessChassisWrite.namedManufacturer,
      List.findSome?_isSome_iff]
    exact ⟨_, List.mem_reverse.mpr h.manufacturer_mem, rfl⟩
  have hinstance : WirelessChassisWrite.assignTo (WirelessChassisWrite.withoutManufacturer
      (.ofValues (entries.map entryValues).flatten)) (Chassis.unsaved selected) =
      groupInstance entries (Chassis.unsaved selected) :=
    withoutManufacturer_assignTo hselected
  obtain ⟨-, hinstanceApi, hinstanceIp, -⟩ := h.instanceKeys (Chassis.unsaved selected)
  refine ⟨selected, ?_⟩
  rw [adoptWirelessChassis, h.values (by simp [hchassis]), h.head, hchassis]
  simp only [bind, Except.bind, WirelessChassisPersistenceService.create, Option.none_or, hselected,
    hinstance, hinstanceApi, hinstanceIp, hapi, hne, item.ip_eq.2.1, or_self, if_false]
  cases createChassis now db (groupInstance entries (Chassis.unsaved selected)) <;> rfl

theorem adopt_existing (h : Agree entries item target) {chassis : Chassis}
    (hchassis : target.chassis = some chassis) (hactive : chassis.status ≠ .retired) :
    adoptWirelessChassis now db entries =
      (liftApproval (liftSave (saveChassis now db (groupInstance entries chassis) none))).map
        fun saved => (saved.1, saved.2, false) := by
  have hne : WirelessChassisWrite.ofValues (entries.map entryValues).flatten ≠ [] :=
    List.ne_nil_of_mem h.manufacturer_mem
  have hvalues := h.values (by
    intro other hother
    rw [hchassis, Option.some.injEq] at hother
    exact hother ▸ hactive)
  rw [adoptWirelessChassis, hvalues, h.head, hchassis]
  simp only [bind, Except.bind, WirelessChassisPersistenceService.update, if_neg hne, if_true]
  rw [← groupInstance]
  cases saveChassis now db (groupInstance entries chassis) none <;> rfl

/-- The keys of the row that a group writes. -/
structure WrittenRow (entries : List ChassisEntry) (item : DiscoveryQueue)
    (target : ChassisApprovalTarget) (pk : Nat) (stored : String) (row : Chassis) : Prop where
  pk : row.pk = pk
  identity : (row.manufacturer.pk, row.apiDeviceId) = identityOf item target
  ip : row.ip = item.ip
  serial : GroupSerial entries stored row.serialNumber

/-- The tables after one row was written. -/
structure WritesRow (db db' : Inventory) (row : Chassis) : Prop where
  mem : ∀ other, other ∈ db'.chassis ↔ other = row ∨ (other ∈ db.chassis ∧ other.pk ≠ row.pk)
  chargers : db'.chargers = db.chargers
  nextPk : db.nextPk ≤ db'.nextPk
  consistent : db'.Consistent

theorem Agree.writtenRow (h : Agree entries item target)
    (hapi : trim target.apiDeviceId = target.apiDeviceId) (chassis row : Chassis)
    (hmanufacturer : row.manufacturer = (groupInstance entries chassis).manufacturer)
    (hapiDeviceId : row.apiDeviceId = (groupInstance entries chassis).apiDeviceId)
    (hserial : row.serialNumber = (groupInstance entries chassis).serialNumber)
    (hip : row.ip = getPrepValue (groupInstance entries chassis).ip) :
    WrittenRow entries item target row.pk chassis.serialNumber row := by
  obtain ⟨hinstanceManufacturer, hinstanceApi, hinstanceIp, -⟩ := h.instanceKeys chassis
  refine ⟨rfl, ?_, ?_, ?_⟩
  · rw [identityOf, hmanufacturer, hapiDeviceId, hinstanceManufacturer, hinstanceApi, hapi]
  · rw [hip, hinstanceIp, item.ip_eq.1]
  · rw [hserial]
    exact groupInstance_serial entries chassis

theorem approvedStatus_valid {chassis : Chassis} (hactive : chassis.status ≠ .retired) :
    chassis.status = approvedStatus (some chassis) ∨
      approvedStatus (some chassis) ∈ validStatusTransitions chassis.status := by
  rw [approvedStatus, Option.any_some]
  cases hstatus : chassis.status with
  | retired => exact absurd hstatus hactive
  | _ => decide

theorem DiscoveryQueue.ownableAddress (hcharger : ∀ charger ∈ db.chargers,
    charger.ip ≠ some item.ip) : OwnableAddress db item.ip := by
  obtain ⟨-, -, address, haddress, hip⟩ := item.ip_eq
  refine .inr ⟨address, haddress, ?_⟩
  rw [hip]
  exact hcharger

/-- A group of a stored chassis that is not retired fails on a taken key or rewrites the row. -/
theorem adopt_existing_cases (h : Agree entries item target)
    (hapi : trim target.apiDeviceId = target.apiDeviceId) (hconsistent : db.Consistent)
    (hcharger : ∀ charger ∈ db.chargers, charger.ip ≠ some item.ip) {chassis : Chassis}
    (hchassis : target.chassis = some chassis) (hactive : chassis.status ≠ .retired)
    (hfind : db.find chassis.pk = some chassis) :
    ∃ row, WrittenRow entries item target chassis.pk chassis.serialNumber row ∧
      (db.violatesUnique row = true → adoptWirelessChassis now db entries =
        .error (.persistence (.save .integrityError))) ∧
      (db.violatesUnique row = false → ∃ db' saved row',
        adoptWirelessChassis now db entries = .ok (db', saved, false) ∧ saved.pk = row'.pk ∧
        WrittenRow entries item target chassis.pk chassis.serialNumber row' ∧
        WritesRow db db' row') := by
  obtain ⟨-, -, hinstanceIp, hinstanceStatus⟩ := h.instanceKeys chassis
  have hpk := groupInstance_pk entries chassis
  have hfindInstance : db.find (groupInstance entries chassis).pk = some chassis := by
    rw [hpk]
    exact hfind
  have hownable : OwnableAddress db (groupInstance entries chassis).ip := by
    rw [hinstanceIp]
    exact DiscoveryQueue.ownableAddress hcharger
  have hstatus : chassis.status = (groupInstance entries chassis).status ∨
      (groupInstance entries chassis).status ∈ validStatusTransitions chassis.status := by
    rw [hinstanceStatus, hchassis]
    exact approvedStatus_valid hactive
  have hnone : (none : Option (List Column)) ≠ some [] := by simp
  refine ⟨(groupInstance entries chassis).writeTo Column.all chassis, ?_, ?_, ?_⟩
  · exact h.writtenRow hapi chassis ((groupInstance entries chassis).writeTo Column.all chassis)
      (by simp [Column.mem_all]) (by simp [Column.mem_all]) (by simp [Column.mem_all])
      (by simp [Column.mem_all])
  · intro hviolates
    rw [adopt_existing h hchassis hactive,
      saveChassis_eq_integrityError hnone hfindInstance hownable hstatus hviolates]
    rfl
  · intro hfree
    obtain ⟨saved, derived, hstep⟩ := exists_lifecycleStep.mpr hstatus
    have hsave : saveChassis now db (groupInstance entries chassis) none =
        .ok (db.updateRow (saved.writeTo (Column.all ++ derived) chassis), saved) := by
      rw [saveChassis_eq_ok hnone]
      refine ⟨chassis, derived, hfindInstance, hownable, hstep, ?_, hfree, rfl⟩
      intro _
      rw [hinstanceIp]
      exact item.ip_eq.2.1
    obtain ⟨isOnline, on, off, uptime, hsaved⟩ := hstep.eq_withLifecycle
    have hall : ∀ column, column ∈ Column.all ++ derived := fun column =>
      List.mem_append_left _ (Column.mem_all column)
    have hrewrites : Rewrites db (db.updateRow (saved.writeTo (Column.all ++ derived) chassis))
        chassis (saved.writeTo (Column.all ++ derived) chassis) := ⟨hfind, rfl, rfl⟩
    refine ⟨db.updateRow (saved.writeTo (Column.all ++ derived) chassis), saved,
      saved.writeTo (Column.all ++ derived) chassis, ?_, ?_, ?_, ?_⟩
    · rw [adopt_existing h hchassis hactive, hsave]
      rfl
    · rw [hsaved, withLifecycle_pk, hpk]
      rfl
    · exact h.writtenRow hapi chassis (saved.writeTo (Column.all ++ derived) chassis)
        (by simp [hall, hsaved]) (by simp [hall, hsaved]) (by simp [hall, hsaved])
        (by simp [hall, hsaved])
    · exact ⟨fun other => hrewrites.mem, rfl, Nat.le_refl _, hconsistent.saveChassis hsave⟩

/-- A group of a new identity fails on a taken key or appends a row. -/
theorem adopt_new_cases (h : Agree entries item target)
    (hapi : trim target.apiDeviceId = target.apiDeviceId) (hne : target.apiDeviceId ≠ "")
    (hconsistent : db.Consistent)
    (hcharger : ∀ charger ∈ db.chargers, charger.ip ≠ some item.ip)
    (hchassis : target.chassis = none) :
    ∃ row, WrittenRow entries item target db.nextPk "" row ∧
      (db.violatesUnique row = true → adoptWirelessChassis now db entries =
        .error (.persistence (.save .integrityError))) ∧
      (db.violatesUnique row = false → ∃ db' saved,
        adoptWirelessChassis now db entries = .ok (db', saved, true) ∧ saved.pk = row.pk ∧
        WritesRow db db' row) := by
  obtain ⟨selected, hadopt⟩ := @adopt_new now db _ _ _ h hchassis hapi hne
  obtain ⟨-, -, hinstanceIp, -⟩ := h.instanceKeys (Chassis.unsaved selected)
  have hownable : OwnableAddress db (groupInstance entries (Chassis.unsaved selected)).ip := by
    rw [hinstanceIp]
    exact DiscoveryQueue.ownableAddress hcharger
  obtain ⟨isOnline, on, heq⟩ :=
    startLifecycle_eq now db (groupInstance entries (Chassis.unsaved selected))
  have hwritten := h.writtenRow hapi (Chassis.unsaved selected)
    (startLifecycle now db (groupInstance entries (Chassis.unsaved selected))).stored
    (by simp [heq, Chassis.stored, Column.mem_all]) (by simp [heq, Chassis.stored, Column.mem_all])
    (by simp [heq, Chassis.stored, Column.mem_all]) (by simp [heq, Chassis.stored, Column.mem_all])
  have hpk : (startLifecycle now db (groupInstance entries (Chassis.unsaved selected))).stored.pk =
      db.nextPk := by
    rw [heq]
    rfl
  refine ⟨_, hpk ▸ hwritten, ?_, ?_⟩
  · intro hviolates
    rw [hadopt, createChassis_eq_integrityError hownable hviolates]
    rfl
  · intro hfree
    have hcreate := createChassis_eq_ok.mpr ⟨hownable, by rw [hinstanceIp]; exact item.ip_eq.2.1,
      hfree, rfl, rfl⟩
    refine ⟨db.insertRow
        (startLifecycle now db (groupInstance entries (Chassis.unsaved selected))).stored,
      startLifecycle now db (groupInstance entries (Chassis.unsaved selected)), ?_, rfl, ?_,
      rfl, Nat.le_succ _, hconsistent.createChassis hcreate⟩
    · rw [hadopt, hcreate]
      rfl
    · intro other
      rw [Inventory.insertRow_chassis, List.mem_append, List.mem_singleton, hpk]
      constructor
      · rintro (hother | hother)
        · exact .inr ⟨hother, Nat.ne_of_lt (hconsistent.pk_lt other hother)⟩
        · exact .inl hother
      · rintro (hother | ⟨hother, -⟩)
        · exact .inr hother
        · exact .inl hother

end Adopt

end Micboard
