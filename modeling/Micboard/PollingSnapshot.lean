import Micboard.PollingAgreement

/-! Authoritative snapshots. The devices of a snapshot are persisted one by one, each failure is noted,
and only a complete authoritative snapshot marks chassis offline: exactly those of the manufacturer that
it did not write and that are stored as online, degraded or provisioning. -/

namespace Micboard

open Library Library.Text WirelessChassisPersistenceService HardwareLifecycleManager

def PollRun.start (db : Inventory) : PollRun where
  inventory := db
  updatedCount := 0
  activeChassisIds := []
  snapshotFailed := false

/-- The tables after some devices of a snapshot. -/
def pollDevices (now : Time) (manufacturer : Manufacturer) (db : Inventory)
    (devices : List PolledDevice) : PollRun :=
  devices.foldl (pollDevice now manufacturer) (.start db)

section Definitions

variable (now : Time) (manufacturer : Manufacturer) (db : Inventory)

/-- The device is transformed and persisted, its lifecycle reconciled and its channels updated. -/
def Persists (device : PolledDevice) : Prop :=
  device.transformed ≠ [] ∧ device.channelsUpdated = true ∧ ∃ mid chassis created db',
    upsertPolled now db manufacturer device.transformed = .ok (mid, chassis, created) ∧
    reconcileChassisLifecycle now mid chassis created = (db', .ok ())

/-- No device of the snapshot fails at its turn. -/
def SnapshotComplete (devices : List PolledDevice) : Prop :=
  ∀ seen device rest, devices = seen ++ device :: rest →
    Persists now manufacturer (pollDevices now manufacturer db seen).inventory device

/-- The device is written to the chassis. -/
def Writes (device : PolledDevice) (pk : Nat) : Prop :=
  device.transformed ≠ [] ∧ ∃ mid chassis created,
    upsertPolled now db manufacturer device.transformed = .ok (mid, chassis, created) ∧ chassis.pk = pk

/-- A device of the snapshot was written to the chassis. -/
def WrittenFrom (devices : List PolledDevice) (pk : Nat) : Prop :=
  ∃ seen device rest, devices = seen ++ device :: rest ∧
    Writes now manufacturer (pollDevices now manufacturer db seen).inventory device pk

/-- No save of the offline pass is rejected. -/
def OfflineSavesAccepted (absent : List Chassis) : Prop :=
  ∀ seen chassis rest, absent = seen ++ chassis :: rest →
    ∀ e, transitionDevice now (seen.foldl (markOfflineStep now) db) chassis.pk .offline ≠ .error e

end Definitions

/-- Every row that is offline after an operation was offline before it. -/
def NoNewOffline (db db' : Inventory) : Prop :=
  ∀ row' ∈ db'.chassis, row'.status = .offline →
    ∃ row ∈ db.chassis, row.pk = row'.pk ∧ row.status = .offline

theorem NoNewOffline.refl (db : Inventory) : NoNewOffline db db := fun row hrow hstatus =>
  ⟨row, hrow, rfl, hstatus⟩

theorem NoNewOffline.trans {db db' db'' : Inventory} (h : NoNewOffline db db')
    (h' : NoNewOffline db' db'') : NoNewOffline db db'' := by
  intro row'' hrow'' hstatus
  obtain ⟨row', hrow', hpk', hstatus'⟩ := h' row'' hrow'' hstatus
  obtain ⟨row, hrow, hpk, hstatus⟩ := h row' hrow' hstatus'
  exact ⟨row, hrow, hpk.trans hpk', hstatus⟩

/-- Every row but those of one primary key is left as it is. -/
def OnlyTouches (db db' : Inventory) (pk : Nat) : Prop :=
  ∀ row, row.pk ≠ pk → (row ∈ db'.chassis ↔ row ∈ db.chassis)

theorem OnlyTouches.refl (db : Inventory) (pk : Nat) : OnlyTouches db db pk := fun _ _ => Iff.rfl

theorem OnlyTouches.trans {db db' db'' : Inventory} {pk : Nat} (h : OnlyTouches db db' pk)
    (h' : OnlyTouches db' db'' pk) : OnlyTouches db db'' pk := fun row hne =>
  (h' row hne).trans (h row hne)

theorem Rewrites.onlyTouches {db db' : Inventory} {row row' : Chassis}
    (h : Rewrites db db' row row') : OnlyTouches db db' row.pk := by
  intro other hne
  rw [h.mem]
  constructor
  · rintro (rfl | ⟨hother, -⟩)
    · exact absurd h.pk hne
    · exact hother
  · exact fun hother => .inr ⟨hother, hne⟩

theorem Rewrites.noNewOffline {db db' : Inventory} {row row' : Chassis} (h : Rewrites db db' row row')
    (hstatus : row'.status = .offline → row.status = .offline) : NoNewOffline db db' := by
  intro other hother hoffline
  rcases h.mem.mp hother with rfl | ⟨hother, -⟩
  · exact ⟨row, Inventory.find_mem h.find, h.pk.symm, hstatus hoffline⟩
  · exact ⟨other, hother, rfl, hoffline⟩

/-- A transition writes one row, and marks it offline only when asked to. -/
theorem transitionDevice_touches {now : Time} {db db' : Inventory} {pk : Nat}
    {toStatus : HardwareStatus} {done : Bool}
    (hok : transitionDevice now db pk toStatus = .ok (db', done)) :
    OnlyTouches db db' pk ∧ (toStatus ≠ .offline → NoNewOffline db db') := by
  cases done with
  | true =>
      obtain ⟨row, row', rfl, hrewrites, -, hstatus⟩ := transitionDevice_rewrites hok
      refine ⟨hrewrites.onlyTouches, fun hne => hrewrites.noNewOffline fun hoffline => ?_⟩
      exact absurd (hstatus.symm.trans hoffline) hne
  | false =>
      obtain rfl : db' = db := by
        unfold transitionDevice at hok
        split at hok
        next => cases hok
        next =>
          split at hok
          next =>
            cases hok
            rfl
          next => simp [bind_eq_ok] at hok
      exact ⟨.refl _ _, fun _ => .refl _⟩

theorem provisionDiscovered_touches {now : Time} {db db' : Inventory} {chassis : Chassis}
    {done : Bool} (hok : provisionDiscovered now db chassis = .ok (db', done)) :
    OnlyTouches db db' chassis.pk ∧ NoNewOffline db db' := by
  unfold provisionDiscovered at hok
  split at hok
  next =>
    have h := transitionDevice_touches hok
    exact ⟨h.1, h.2 (by decide)⟩
  next =>
    cases hok
    exact ⟨.refl _ _, .refl _⟩

/-- Reconciling a lifecycle writes one row and marks none offline, whether it succeeds or not. -/
theorem reconcileChassisLifecycle_touches (now : Time) (db : Inventory) (chassis : Chassis)
    (created : Bool) :
    OnlyTouches db (reconcileChassisLifecycle now db chassis created).1 chassis.pk ∧
      NoNewOffline db (reconcileChassisLifecycle now db chassis created).1 := by
  unfold reconcileChassisLifecycle
  split
  next => exact ⟨.refl _ _, .refl _⟩
  next =>
  split
  next => exact ⟨.refl _ _, .refl _⟩
  next _ db₁ hprovision => exact provisionDiscovered_touches hprovision
  next _ db₁ hprovision =>
    obtain ⟨htouches, hoffline⟩ := provisionDiscovered_touches hprovision
    split
    next => exact ⟨htouches, hoffline⟩
    next honline =>
      have h := transitionDevice_touches honline
      exact ⟨htouches.trans h.1, hoffline.trans (h.2 (by decide))⟩
    next honline =>
      have h := transitionDevice_touches honline
      exact ⟨htouches.trans h.1, hoffline.trans (h.2 (by decide))⟩

/-- A stored chassis with the values of a polled device assigned. -/
def Chassis.polled (chassis : Chassis) (now : Time) (ip model name firmwareVersion : String) :
    Chassis :=
  { chassis with ip, model, name, firmwareVersion, lastSeen := some now }

/-- A row at the address that a text is stored as. -/
def Chassis.storedAt (row : Chassis) (ip : String) : Chassis := { row with ip := getPrepValue ip }

/-- The columns an upsert of a stored chassis writes. -/
def polledColumns : List Column := [.ip, .model, .name, .firmwareVersion, .lastSeen]

/-- The validated values that a polled device supplies. -/
theorem polledValues_eq_ok_iff {now : Time} {data : VendorPayload} {values : List FieldValue} :
    polledValues now data = .ok values ↔ ∃ ip model name firmwareVersion,
      requiredText "ip" (data.getD "ip" (.text "")) = .ok ip ∧
      requiredText "model" (data.getD "type" (.text "unknown")) = .ok model ∧
      requiredText "name" (data.getD "name" (.text "")) = .ok name ∧
      requiredText "firmware_version" (data.getD "firmware" (.text "")) = .ok firmwareVersion ∧
      values = [.ip ip, .model model, .name name, .firmwareVersion firmwareVersion,
        .lastSeen (some now)] := by
  unfold polledValues
  simp only [bind_eq_ok, Except.ok.injEq]
  constructor
  · rintro ⟨ip, hip, model, hmodel, name, hname, firmwareVersion, hfirmware, rfl⟩
    exact ⟨ip, model, name, firmwareVersion, hip, hmodel, hname, hfirmware, rfl⟩
  · rintro ⟨ip, model, name, firmwareVersion, hip, hmodel, hname, hfirmware, rfl⟩
    exact ⟨ip, hip, model, hmodel, name, hname, firmwareVersion, hfirmware, rfl⟩

theorem requiredText_trim {field text : String} {value : PyValue}
    (h : requiredText field value = .ok text) : trim text = text := by
  obtain ⟨raw, -, rfl⟩ := requiredText_eq_ok h
  exact trim_trim raw

/-- **The upsert of a stored chassis** writes the five columns of its vendor values and keeps its
status. -/
theorem upsertPolled_stored_eq_ok {now : Time} {db db' : Inventory} (hdb : db.Consistent)
    {manufacturer : Manufacturer} {data : VendorPayload} {row chassis : Chassis} {created : Bool}
    (hrow : db.getApiId manufacturer (polledApiDeviceId data) = .ok (some row)) :
    upsertPolled now db manufacturer data = .ok (db', chassis, created) ↔
      polledApiDeviceId data ≠ "" ∧ created = false ∧ ∃ ip model name firmwareVersion,
        requiredText "ip" (data.getD "ip" (.text "")) = .ok ip ∧
        requiredText "model" (data.getD "type" (.text "unknown")) = .ok model ∧
        requiredText "name" (data.getD "name" (.text "")) = .ok name ∧
        requiredText "firmware_version" (data.getD "firmware" (.text "")) = .ok firmwareVersion ∧
        OwnableAddress db ip ∧ ip ≠ "" ∧
        db.violatesUnique (row.storedAt ip) = false ∧
        chassis = row.polled now ip model name firmwareVersion ∧
        db' = db.updateRow (row.polled now (getPrepValue ip) model name firmwareVersion) := by
  have hmem : row ∈ db.chassis := by
    have hresolves := resolves_apiId hdb.pk_unique.nodup manufacturer (polledApiDeviceId data)
    rw [hrow] at hresolves
    exact hresolves.1
  have hfind : db.find row.pk = some row := hdb.find_eq_some.mpr ⟨hmem, rfl⟩
  have hsave : ∀ ip model name firmwareVersion,
      saveChassis now db (row.polled now ip model name firmwareVersion) (some polledColumns) =
        .ok (db', chassis) ↔ OwnableAddress db ip ∧ ip ≠ "" ∧
        db.violatesUnique (row.storedAt ip) = false ∧
        chassis = row.polled now ip model name firmwareVersion ∧
        db' = db.updateRow (row.polled now (getPrepValue ip) model name firmwareVersion) := by
    intro ip model name firmwareVersion
    have hfind' : db.find (row.polled now ip model name firmwareVersion).pk = some row := hfind
    have hfields : some polledColumns ≠ some [] := by decide
    rw [saveChassis_eq_ok_of_status hfields hfind' rfl, Option.getD_some]
    have hwritten : (row.polled now ip model name firmwareVersion).writeTo polledColumns row =
        row.polled now (getPrepValue ip) model name firmwareVersion := by
      simp [Chassis.writeTo, Chassis.polled, polledColumns]
    have hunique : db.violatesUnique (row.polled now (getPrepValue ip) model name firmwareVersion) =
        db.violatesUnique (row.storedAt ip) :=
      Inventory.violatesUnique_congr rfl rfl rfl rfl
    rw [hwritten, hunique]
    simp [polledColumns, Chassis.polled]
  unfold upsertPolled
  by_cases hblank : polledApiDeviceId data = ""
  · simp [hblank]
  have hupsert : ∀ ip model name firmwareVersion createDefaults, trim ip = ip → trim model = model →
      trim name = name → trim firmwareVersion = firmwareVersion →
      (upsert now db manufacturer (polledApiDeviceId data) (.ofValues [.ip ip, .model model,
          .name name, .firmwareVersion firmwareVersion, .lastSeen (some now)]) createDefaults =
        .ok (db', chassis, created) ↔ created = false ∧
          saveChassis now db (row.polled now ip model name firmwareVersion) (some polledColumns) =
            .ok (db', chassis)) := by
    intro ip model name firmwareVersion createDefaults hip hmodel hname hfirmware
    have hvalues : WirelessChassisWrite.withoutManufacturer (.ofValues [.ip ip, .model model,
        .name name, .firmwareVersion firmwareVersion, .lastSeen (some now)]) =
        [.ip ip, .model model, .name name, .firmwareVersion firmwareVersion, .lastSeen (some now)] := by
      simp [WirelessChassisWrite.ofValues, WirelessChassisWrite.withoutManufacturer,
        FieldValue.validated, FieldValue.column, hip, hmodel, hname, hfirmware]
    unfold upsert
    simp only [hrow, hvalues, if_neg hblank, bind_eq_ok, liftIdentity_eq_ok, Except.ok.injEq,
      exists_eq_left', liftSave_eq_ok, Prod.exists, Prod.mk.injEq]
    constructor
    · rintro ⟨_, _, hsaved, rfl, rfl, rfl⟩
      exact ⟨rfl, hsaved⟩
    · rintro ⟨rfl, hsaved⟩
      exact ⟨_, _, hsaved, rfl, rfl, rfl⟩
  simp only [if_neg hblank, bind_eq_ok, liftPersistence_eq_ok, polledValues_eq_ok_iff]
  constructor
  · rintro ⟨values, ⟨ip, model, name, firmwareVersion, hip, hmodel, hname, hfirmware, rfl⟩, hok⟩
    obtain ⟨hcreated, hsaved⟩ := (hupsert _ _ _ _ _ (requiredText_trim hip)
      (requiredText_trim hmodel) (requiredText_trim hname) (requiredText_trim hfirmware)).mp hok
    exact ⟨hblank, hcreated, ip, model, name, firmwareVersion, hip, hmodel, hname, hfirmware,
      (hsave _ _ _ _).mp hsaved⟩
  · rintro ⟨-, rfl, ip, model, name, firmwareVersion, hip, hmodel, hname, hfirmware, hok⟩
    refine ⟨_, ⟨ip, model, name, firmwareVersion, hip, hmodel, hname, hfirmware, rfl⟩, ?_⟩
    exact (hupsert _ _ _ _ _ (requiredText_trim hip) (requiredText_trim hmodel)
      (requiredText_trim hname) (requiredText_trim hfirmware)).mpr ⟨rfl, (hsave _ _ _ _).mpr hok⟩

theorem upsertPolled_unstored {now : Time} {db db' : Inventory} {manufacturer : Manufacturer}
    {data : VendorPayload} {chassis : Chassis} {created : Bool}
    (hrow : db.getApiId manufacturer (polledApiDeviceId data) = .ok none)
    (hok : upsertPolled now db manufacturer data = .ok (db', chassis, created)) :
    created = true ∧ ∃ row, db' = db.insertRow row ∧ row.pk = chassis.pk ∧ row.status = .online := by
  unfold upsertPolled at hok
  split at hok
  next => cases hok
  next =>
  simp only [bind_eq_ok, liftPersistence_eq_ok] at hok
  obtain ⟨values, hvalues, hok⟩ := hok
  obtain ⟨model, name, firmwareVersion, rfl⟩ := polledValues_eq_ok hvalues
  unfold upsert at hok
  simp only at hok
  split at hok
  next => cases hok
  next =>
  simp only [hrow, bind_eq_ok, liftIdentity_eq_ok, Except.ok.injEq, exists_eq_left', liftSave_eq_ok,
    Prod.exists, Prod.mk.injEq] at hok
  obtain ⟨_, saved, hcreate, rfl, rfl, rfl⟩ := hok
  obtain ⟨-, -, -, hsaved, hinserts⟩ := createChassis_eq_ok.mp hcreate
  refine ⟨rfl, saved.stored, hinserts, rfl, ?_⟩
  generalize hinstance : (WirelessChassisWrite.assignTo _ _) = device at hsaved
  have hstatus : device.status = .online := by
    rw [← hinstance]
    simp [WirelessChassisWrite.ofValues, WirelessChassisWrite.assignTo,
      WirelessChassisWrite.withoutManufacturer, FieldValue.validated, FieldValue.column,
      FieldValue.assign]
  obtain ⟨isOnline, on, heq⟩ := startLifecycle_eq now db device
  rw [hsaved, heq, Chassis.stored, writeTo_status, if_pos (Column.mem_all _), withLifecycle_status,
    hstatus]

theorem upsertPolled_getApiId {now : Time} {db db' : Inventory} {manufacturer : Manufacturer}
    {data : VendorPayload} {chassis : Chassis} {created : Bool}
    (hok : upsertPolled now db manufacturer data = .ok (db', chassis, created)) :
    ∃ found, db.getApiId manufacturer (polledApiDeviceId data) = .ok found := by
  unfold upsertPolled at hok
  split at hok
  next => cases hok
  next =>
    simp only [bind_eq_ok, liftPersistence_eq_ok] at hok
    obtain ⟨values, -, hok⟩ := hok
    unfold upsert at hok
    simp only at hok
    split at hok
    next => cases hok
    next =>
      simp only [bind_eq_ok, liftIdentity_eq_ok] at hok
      obtain ⟨found, hfound, -⟩ := hok
      exact ⟨found, hfound⟩

/-- An upsert writes the row of one chassis, one of the manufacturer, and marks none offline. -/
theorem upsertPolled_touches {now : Time} {db db' : Inventory} (hdb : db.Consistent)
    {manufacturer : Manufacturer} {data : VendorPayload} {chassis : Chassis} {created : Bool}
    (hok : upsertPolled now db manufacturer data = .ok (db', chassis, created)) :
    OnlyTouches db db' chassis.pk ∧ NoNewOffline db db' ∧
      ∀ row ∈ db.chassis, row.manufacturer.pk ≠ manufacturer.pk → row.pk ≠ chassis.pk := by
  have hresolves := resolves_apiId hdb.pk_unique.nodup manufacturer (polledApiDeviceId data)
  obtain ⟨found, hfound⟩ := upsertPolled_getApiId hok
  rw [hfound] at hresolves
  cases found with
  | some row =>
      obtain ⟨hrow, hholds, -⟩ := hresolves
      obtain ⟨-, -, ip, model, name, firmwareVersion, -, -, -, -, -, -, -, rfl, rfl⟩ :=
        (upsertPolled_stored_eq_ok hdb hfound).mp hok
      have hrewrites : Rewrites db _ row
          (row.polled now (getPrepValue ip) model name firmwareVersion) :=
        ⟨hdb.find_eq_some.mpr ⟨hrow, rfl⟩, rfl, rfl⟩
      refine ⟨hrewrites.onlyTouches, hrewrites.noNewOffline fun hstatus => hstatus, ?_⟩
      intro other hother hforeign hpk
      rw [hdb.pk_unique.eq hother hrow hpk] at hforeign
      exact hforeign hholds.1
  | none =>
      obtain ⟨-, row, rfl, hpk, hstatus⟩ := upsertPolled_unstored hfound hok
      obtain ⟨written, hwritten⟩ := upsertPolled_write hdb hok
      refine ⟨fun other hne => ?_, ?_, ?_⟩
      · rw [Inventory.insertRow_chassis, List.mem_append, List.mem_singleton]
        refine or_iff_left fun heq => hne ?_
        rw [heq, hpk]
      · intro other hother hoffline
        rcases List.mem_append.mp hother with hother | hother
        · exact ⟨other, hother, rfl, hoffline⟩
        · rw [List.mem_singleton.mp hother, hstatus] at hoffline
          cases hoffline
      · intro other hother _ hsame
        rcases hwritten.origin with ⟨row, hrow, hholds, -⟩ | ⟨hnone, -⟩
        · exact hresolves row hrow hholds
        · exact (hnone other hother).2 hsame

section Device

variable {now : Time} {manufacturer : Manufacturer} {run : PollRun} {device : PolledDevice}

theorem persists_iff {db mid : Inventory} {chassis : Chassis} {created : Bool}
    (hempty : device.transformed ≠ [])
    (hupsert : upsertPolled now db manufacturer device.transformed = .ok (mid, chassis, created)) :
    Persists now manufacturer db device ↔ device.channelsUpdated = true ∧
      ∃ db', reconcileChassisLifecycle now mid chassis created = (db', .ok ()) := by
  constructor
  · rintro ⟨-, hchannels, _, _, _, db', hupsert', hreconcile⟩
    rw [hupsert, Except.ok.injEq, Prod.mk.injEq, Prod.mk.injEq] at hupsert'
    obtain ⟨rfl, rfl, rfl⟩ := hupsert'
    exact ⟨hchannels, db', hreconcile⟩
  · rintro ⟨hchannels, db', hreconcile⟩
    exact ⟨hempty, hchannels, mid, chassis, created, db', hupsert, hreconcile⟩

theorem pollDevice_snapshotFailed :
    (pollDevice now manufacturer run device).snapshotFailed = true ↔
      run.snapshotFailed = true ∨ ¬Persists now manufacturer run.inventory device := by
  by_cases hempty : device.transformed = []
  · simp [pollDevice, Persists, hempty]
  cases hupsert : upsertPolled now run.inventory manufacturer device.transformed with
  | error e => simp [pollDevice, Persists, hempty, hupsert]
  | ok result =>
      obtain ⟨mid, chassis, created⟩ := result
      rw [persists_iff hempty hupsert, pollDevice, if_neg hempty, hupsert]
      cases hreconcile : reconcileChassisLifecycle now mid chassis created with
      | mk db' outcome =>
          cases outcome with
          | error e => simp [hreconcile]
          | ok => cases hchannels : device.channelsUpdated <;> simp [hreconcile]

theorem pollDevice_activeChassisIds (h : Persists now manufacturer run.inventory device) (pk : Nat) :
    pk ∈ (pollDevice now manufacturer run device).activeChassisIds ↔
      pk ∈ run.activeChassisIds ∨ Writes now manufacturer run.inventory device pk := by
  obtain ⟨hempty, hchannels, mid, chassis, created, db', hupsert, hreconcile⟩ := h
  have hwrites : Writes now manufacturer run.inventory device pk ↔ pk = chassis.pk := by
    constructor
    · rintro ⟨-, _, _, _, hupsert', rfl⟩
      rw [hupsert, Except.ok.injEq, Prod.mk.injEq, Prod.mk.injEq] at hupsert'
      rw [hupsert'.2.1]
    · rintro rfl
      exact ⟨hempty, mid, chassis, created, hupsert, rfl⟩
  simp [pollDevice, hwrites, hempty, hupsert, hreconcile]

/-- What a device does to the tables: it writes the chassis it is stored as, and marks none offline. -/
theorem pollDevice_inventory (hrun : run.inventory.Consistent) :
    NoNewOffline run.inventory (pollDevice now manufacturer run device).inventory ∧
      ∀ row, ¬Writes now manufacturer run.inventory device row.pk →
        (row ∈ (pollDevice now manufacturer run device).inventory.chassis ↔
          row ∈ run.inventory.chassis) := by
  unfold pollDevice Writes
  by_cases hempty : device.transformed = []
  · rw [if_pos hempty]
    exact ⟨.refl _, fun _ _ => Iff.rfl⟩
  rw [if_neg hempty]
  cases hupsert : upsertPolled now run.inventory manufacturer device.transformed with
  | error e => exact ⟨.refl _, fun _ _ => Iff.rfl⟩
  | ok result =>
      obtain ⟨mid, chassis, created⟩ := result
      obtain ⟨htouches, hoffline, -⟩ := upsertPolled_touches hrun hupsert
      obtain ⟨htouches', hoffline'⟩ := reconcileChassisLifecycle_touches now mid chassis created
      have hboth := hoffline.trans hoffline'
      have hkept : ∀ row, ¬(device.transformed ≠ [] ∧
          ∃ mid' chassis' created', Except.ok (mid, chassis, created) =
            (Except.ok (mid', chassis', created') : Except PollingError _) ∧ chassis'.pk = row.pk) →
          (row ∈ (reconcileChassisLifecycle now mid chassis created).1.chassis ↔
            row ∈ run.inventory.chassis) := by
        intro row hnot
        refine htouches.trans htouches' row fun hpk => ?_
        exact hnot ⟨hempty, mid, chassis, created, rfl, hpk.symm⟩
      cases hreconcile : reconcileChassisLifecycle now mid chassis created with
      | mk db' outcome =>
          rw [hreconcile] at hboth hkept
          simp only [hreconcile]
          cases outcome with
          | error e => exact ⟨hboth, hkept⟩
          | ok => exact ⟨hboth, hkept⟩

theorem Writes.owner {pk : Nat} (h : Writes now manufacturer run.inventory device pk)
    (hrun : run.inventory.Consistent) :
    ∀ row ∈ run.inventory.chassis, row.pk = pk → row.manufacturer.pk = manufacturer.pk := by
  obtain ⟨-, mid, chassis, created, hupsert, rfl⟩ := h
  intro row hrow hpk
  by_contra hforeign
  exact (upsertPolled_touches hrun hupsert).2.2 row hrow hforeign hpk

end Device

section Devices

variable {now : Time} {manufacturer : Manufacturer} {db : Inventory} {devices : List PolledDevice}

theorem pollDevices_concat (device : PolledDevice) :
    pollDevices now manufacturer db (devices ++ [device]) =
      pollDevice now manufacturer (pollDevices now manufacturer db devices) device :=
  List.foldl_concat _ _ _ _

theorem pollDevices_consistent (hdb : db.Consistent) :
    (pollDevices now manufacturer db devices).inventory.Consistent := by
  induction devices using List.reverseRecOn with
  | nil => exact hdb
  | append_singleton devices device ih =>
      rw [pollDevices_concat]
      exact pollDevice_consistent now manufacturer ih device

theorem snapshotComplete_concat {device : PolledDevice} :
    SnapshotComplete now manufacturer db (devices ++ [device]) ↔
      SnapshotComplete now manufacturer db devices ∧
        Persists now manufacturer (pollDevices now manufacturer db devices).inventory device :=
  forall_split_concat

theorem writtenFrom_concat {device : PolledDevice} {pk : Nat} :
    WrittenFrom now manufacturer db (devices ++ [device]) pk ↔
      WrittenFrom now manufacturer db devices pk ∨
        Writes now manufacturer (pollDevices now manufacturer db devices).inventory device pk :=
  exists_split_concat

theorem pollDevices_snapshotFailed :
    (pollDevices now manufacturer db devices).snapshotFailed = true ↔
      ¬SnapshotComplete now manufacturer db devices := by
  induction devices using List.reverseRecOn with
  | nil => simp [pollDevices, PollRun.start, SnapshotComplete]
  | append_singleton devices device ih =>
      rw [pollDevices_concat, pollDevice_snapshotFailed, ih, snapshotComplete_concat, not_and_or]

theorem pollDevices_activeChassisIds (h : SnapshotComplete now manufacturer db devices) (pk : Nat) :
    pk ∈ (pollDevices now manufacturer db devices).activeChassisIds ↔
      WrittenFrom now manufacturer db devices pk := by
  induction devices using List.reverseRecOn with
  | nil => simp [pollDevices, PollRun.start, WrittenFrom]
  | append_singleton devices device ih =>
      obtain ⟨hbefore, hlast⟩ := snapshotComplete_concat.mp h
      rw [pollDevices_concat, pollDevice_activeChassisIds hlast, ih hbefore, writtenFrom_concat]

/-- Persisting the devices leaves every chassis alone that none of them is written to, those of other
manufacturers among them, and marks none offline. -/
theorem pollDevices_inventory (hdb : db.Consistent) :
    NoNewOffline db (pollDevices now manufacturer db devices).inventory ∧
      (∀ row, ¬WrittenFrom now manufacturer db devices row.pk →
        (row ∈ (pollDevices now manufacturer db devices).inventory.chassis ↔ row ∈ db.chassis)) ∧
      ∀ row ∈ db.chassis, row.manufacturer.pk ≠ manufacturer.pk →
        ¬WrittenFrom now manufacturer db devices row.pk := by
  induction devices using List.reverseRecOn with
  | nil => exact ⟨.refl db, fun _ _ => Iff.rfl, fun _ _ _ => by simp [WrittenFrom]⟩
  | append_singleton devices device ih =>
      obtain ⟨hoffline, hkept, hforeign⟩ := ih
      have hrun : (pollDevices now manufacturer db devices).inventory.Consistent :=
        pollDevices_consistent hdb
      obtain ⟨hoffline', hkept'⟩ := @pollDevice_inventory now manufacturer _ device hrun
      rw [pollDevices_concat]
      refine ⟨hoffline.trans hoffline', fun row hnot => ?_, fun row hrow hother => ?_⟩
      · rw [writtenFrom_concat, not_or] at hnot
        exact (hkept' row hnot.2).trans (hkept row hnot.1)
      · have hnot := hforeign row hrow hother
        rw [writtenFrom_concat, not_or]
        exact ⟨hnot, fun hwrites => hother (hwrites.owner hrun row ((hkept row hnot).mpr hrow) rfl)⟩

end Devices

/-- A chassis that a snapshot may mark offline can be, unless its save is rejected. -/
theorem markOfflineStep_rewrites {now : Time} {db : Inventory} {chassis : Chassis}
    (hdb : db.Consistent) (hmem : chassis ∈ db.chassis)
    (hstatus : chassis.status ∈ [HardwareStatus.online, .degraded, .provisioning])
    (haccepted : ∀ e, transitionDevice now db chassis.pk .offline ≠ .error e) :
    ∃ row', Rewrites db (markOfflineStep now db chassis) chassis row' ∧ SameIdentity row' chassis ∧
      row'.status = .offline ∧ (markOfflineStep now db chassis).Consistent := by
  have hfind : db.find chassis.pk = some chassis := hdb.find_eq_some.mpr ⟨hmem, rfl⟩
  have hvalid : isValidTransition chassis.status .offline = true := by
    simp only [List.mem_cons, List.not_mem_nil, or_false] at hstatus
    rcases hstatus with hstatus | hstatus | hstatus <;> rw [hstatus] <;> decide
  cases htransition : transitionDevice now db chassis.pk .offline with
  | error e => exact absurd htransition (haccepted e)
  | ok result =>
      obtain ⟨db', done⟩ := result
      have hdone : done = true := by
        have hok := htransition
        simp only [transitionDevice, hfind, hvalid, Bool.not_true, Bool.false_eq_true, if_false,
          bind_eq_ok, Prod.exists, Except.ok.injEq, Prod.mk.injEq] at hok
        obtain ⟨_, _, -, -, rfl⟩ := hok
        rfl
      subst hdone
      have hstep : markOfflineStep now db chassis = db' := by rw [markOfflineStep, htransition]
      obtain ⟨row, row', hpk, hrewrites, hidentity, hoffline⟩ :=
        transitionDevice_rewrites htransition
      have hsame : row = chassis := by
        have hfound := hrewrites.find
        rw [hpk, hfind] at hfound
        exact (Option.some.inj hfound).symm
      subst hsame
      rw [hstep]
      exact ⟨row', hrewrites, hidentity, hoffline, hdb.transitionDevice htransition⟩

/-- What an offline pass leaves: the absent chassis are offline and the others are as they were. -/
structure MarkedOffline (db db' : Inventory) (absent : List Chassis) : Prop where
  consistent : db'.Consistent
  marked : ∀ row ∈ absent, ∃ row' ∈ db'.chassis, SameIdentity row' row ∧ row'.status = .offline
  kept : ∀ row ∈ db.chassis, row ∉ absent → row ∈ db'.chassis
  origin : ∀ row' ∈ db'.chassis, ∃ row ∈ db.chassis, row.pk = row'.pk

theorem foldl_markOfflineStep {now : Time} {db : Inventory} {absent : List Chassis}
    (hdb : db.Consistent) (hunique : UniqueOn Chassis.pk absent)
    (habsent : ∀ chassis ∈ absent, chassis ∈ db.chassis ∧
      chassis.status ∈ [HardwareStatus.online, .degraded, .provisioning])
    (haccepted : OfflineSavesAccepted now db absent) :
    MarkedOffline db (absent.foldl (markOfflineStep now) db) absent := by
  induction absent using List.reverseRecOn with
  | nil =>
      exact ⟨hdb, fun _ hrow => absurd hrow List.not_mem_nil, fun _ hrow _ => hrow,
        fun row hrow => ⟨row, hrow, rfl⟩⟩
  | append_singleton absent last ih =>
      obtain ⟨hbefore, hlast⟩ := forall_split_concat.mp haccepted
      obtain ⟨hlastMem, hlastStatus⟩ := habsent last (by simp)
      have hne : ∀ other ∈ absent, other.pk ≠ last.pk := by
        intro other hother heq
        rw [UniqueOn, List.map_append, List.nodup_append] at hunique
        exact hunique.2.2 other.pk (List.mem_map_of_mem hother) last.pk (by simp) heq
      have hmid := ih (List.Nodup.sublist (List.Sublist.map _ (List.sublist_append_left _ _)) hunique)
        (fun chassis hchassis => habsent chassis (List.mem_append_left _ hchassis)) hbefore
      have hkept : last ∈ (absent.foldl (markOfflineStep now) db).chassis :=
        hmid.kept last hlastMem fun hmem => hne last hmem rfl
      obtain ⟨row', hrewrites, hidentity, hoffline, hconsistent⟩ :=
        markOfflineStep_rewrites hmid.consistent hkept hlastStatus hlast
      rw [List.foldl_concat]
      refine ⟨hconsistent, ?_, ?_, ?_⟩
      · intro row hrow
        rcases List.mem_append.mp hrow with hrow | hrow
        · obtain ⟨marked, hmarked, hsame, hstatus⟩ := hmid.marked row hrow
          refine ⟨marked, (hrewrites.onlyTouches marked ?_).mpr hmarked, hsame, hstatus⟩
          rw [hsame.pk]
          exact hne row hrow
        · rw [List.mem_singleton.mp hrow]
          exact ⟨row', hrewrites.mem.mpr (.inl rfl), hidentity, hoffline⟩
      · intro row hrow hnot
        rw [List.mem_append, List.mem_singleton, not_or] at hnot
        refine (hrewrites.onlyTouches row fun hpk => ?_).mpr (hmid.kept row hrow hnot.1)
        exact hnot.2 (hdb.pk_unique.eq hrow hlastMem hpk)
      · intro other hother
        rcases hrewrites.mem.mp hother with rfl | ⟨hother, -⟩
        · exact ⟨last, hlastMem, hidentity.pk.symm⟩
        · exact hmid.origin other hother

/-! ### The whole update -/

theorem updateModelsFromApiData_eq (now : Time) (db : Inventory) (devices : List PolledDevice)
    (manufacturer : Manufacturer) (authoritative : Bool) :
    (updateModelsFromApiData now db devices manufacturer authoritative).1 =
      if authoritative && !(pollDevices now manufacturer db devices).snapshotFailed then
        markOfflineReceivers now (pollDevices now manufacturer db devices).inventory manufacturer
          (pollDevices now manufacturer db devices).activeChassisIds
      else (pollDevices now manufacturer db devices).inventory := by
  rw [updateModelsFromApiData]
  exact apply_ite Prod.fst _ _ _

/-- A chassis that a complete snapshot marks offline. -/
def MarkedAbsent (now : Time) (manufacturer : Manufacturer) (db : Inventory)
    (devices : List PolledDevice) (row : Chassis) : Prop :=
  row.manufacturer.pk = manufacturer.pk ∧
    row.status ∈ [HardwareStatus.online, .degraded, .provisioning] ∧
    ¬WrittenFrom now manufacturer db devices row.pk

/-- The chassis the offline pass of a snapshot is about, in the tables after its devices. -/
def absentAfter (now : Time) (manufacturer : Manufacturer) (db : Inventory)
    (devices : List PolledDevice) : List Chassis :=
  (pollDevices now manufacturer db devices).inventory.chassis.filter
    (isAbsent manufacturer (pollDevices now manufacturer db devices).activeChassisIds)

theorem mem_absentAfter {now : Time} {manufacturer : Manufacturer} {db : Inventory}
    {devices : List PolledDevice} (h : SnapshotComplete now manufacturer db devices) {row : Chassis} :
    row ∈ absentAfter now manufacturer db devices ↔
      row ∈ (pollDevices now manufacturer db devices).inventory.chassis ∧
        MarkedAbsent now manufacturer db devices row := by
  rw [absentAfter, List.mem_filter, isAbsent, Bool.and_eq_true, Bool.and_eq_true,
    decide_eq_true_eq, decide_eq_true_eq, decide_eq_true_eq, pollDevices_activeChassisIds h,
    MarkedAbsent, and_assoc]

/-- **Authoritative snapshots only.** When a device of the snapshot fails or the snapshot is not
authoritative, no chassis is marked offline. Otherwise, when no save of the offline pass is rejected,
the manufacturer's chassis that are online, degraded or provisioning and were not written from the
snapshot are, and exactly these; every other chassis that was not written is left as it was, those of
other manufacturers among them. -/
theorem authoritative_snapshots {now : Time} {db : Inventory} (hdb : db.Consistent)
    (devices : List PolledDevice) (manufacturer : Manufacturer) (authoritative : Bool) :
    (authoritative = false ∨ ¬SnapshotComplete now manufacturer db devices →
      NoNewOffline db (updateModelsFromApiData now db devices manufacturer authoritative).1) ∧
    (authoritative = true → SnapshotComplete now manufacturer db devices →
      OfflineSavesAccepted now (pollDevices now manufacturer db devices).inventory
        (absentAfter now manufacturer db devices) →
      (∀ row ∈ db.chassis, MarkedAbsent now manufacturer db devices row →
        ∃ row' ∈ (updateModelsFromApiData now db devices manufacturer authoritative).1.chassis,
          SameIdentity row' row ∧ row'.status = .offline) ∧
      (∀ row ∈ db.chassis, ¬WrittenFrom now manufacturer db devices row.pk →
        ¬MarkedAbsent now manufacturer db devices row →
        row ∈ (updateModelsFromApiData now db devices manufacturer authoritative).1.chassis) ∧
      (∀ row ∈ db.chassis, row.manufacturer.pk ≠ manufacturer.pk →
        row ∈ (updateModelsFromApiData now db devices manufacturer authoritative).1.chassis) ∧
      ∀ row' ∈ (updateModelsFromApiData now db devices manufacturer authoritative).1.chassis,
        row'.status = .offline → ∃ row ∈ db.chassis, row.pk = row'.pk ∧
          (row.status = .offline ∨ MarkedAbsent now manufacturer db devices row)) := by
  have hrun : (pollDevices now manufacturer db devices).inventory.Consistent :=
    pollDevices_consistent hdb
  obtain ⟨hoffline, hkept, hforeign⟩ := @pollDevices_inventory now manufacturer db devices hdb
  rw [updateModelsFromApiData_eq]
  refine ⟨fun hpartial => ?_, fun hauthoritative hcomplete haccepted => ?_⟩
  · rw [if_neg]
    · exact hoffline
    · rw [Bool.and_eq_true, Bool.not_eq_true', ← Bool.not_eq_true, pollDevices_snapshotFailed,
        not_not]
      rintro ⟨rfl, hcomplete⟩
      rcases hpartial with hfalse | hincomplete
      · cases hfalse
      · exact hincomplete hcomplete
  · have hsucceeded : (pollDevices now manufacturer db devices).snapshotFailed = false := by
      rw [← Bool.not_eq_true, pollDevices_snapshotFailed, not_not]
      exact hcomplete
    rw [hauthoritative, hsucceeded, Bool.not_false, Bool.and_true, if_pos rfl]
    have hmarked : MarkedOffline (pollDevices now manufacturer db devices).inventory
        (markOfflineReceivers now (pollDevices now manufacturer db devices).inventory manufacturer
          (pollDevices now manufacturer db devices).activeChassisIds)
        (absentAfter now manufacturer db devices) := by
      refine foldl_markOfflineStep hrun ?_ ?_ haccepted
      · exact hrun.pk_unique.sublist (List.filter_sublist.map Chassis.pk)
      · intro chassis hchassis
        obtain ⟨hmem, -, hstatus, -⟩ := (mem_absentAfter hcomplete).mp hchassis
        exact ⟨hmem, hstatus⟩
    have hothers : ∀ row ∈ db.chassis, ¬WrittenFrom now manufacturer db devices row.pk →
        ¬MarkedAbsent now manufacturer db devices row →
        row ∈ (markOfflineReceivers now (pollDevices now manufacturer db devices).inventory
          manufacturer (pollDevices now manufacturer db devices).activeChassisIds).chassis := by
      intro row hrow hnot hpresent
      refine hmarked.kept row ((hkept row hnot).mpr hrow) fun habsent => ?_
      exact hpresent ((mem_absentAfter hcomplete).mp habsent).2
    refine ⟨?_, hothers, ?_, ?_⟩
    · intro row hrow habsent
      have hmem := (hkept row habsent.2.2).mpr hrow
      exact hmarked.marked row ((mem_absentAfter hcomplete).mpr ⟨hmem, habsent⟩)
    · intro row hrow hother
      exact hothers row hrow (hforeign row hrow hother) fun habsent => hother habsent.1
    · intro row' hrow' hstatus
      obtain ⟨mid, hmid, hpk⟩ := hmarked.origin row' hrow'
      by_cases habsent : mid ∈ absentAfter now manufacturer db devices
      · have hmarkedAbsent := ((mem_absentAfter hcomplete).mp habsent).2
        have hmem := (hkept mid hmarkedAbsent.2.2).mp hmid
        exact ⟨mid, hmem, hpk, .inr hmarkedAbsent⟩
      · have hstill := hmarked.kept mid hmid habsent
        rw [hmarked.consistent.pk_unique.eq hrow' hstill hpk.symm] at hstatus ⊢
        obtain ⟨row, hrow, hrowPk, hrowStatus⟩ := hoffline mid hmid hstatus
        exact ⟨row, hrow, hrowPk, .inl hrowStatus⟩

/-- A receiver that the snapshot of the plain poll does not list. -/
def unlistedReceiver : Chassis :=
  { storedReceiver with
    pk := 2
    apiDeviceId := "dev-2"
    serialNumber := "SN-2"
    ip := "10.0.0.2"
    status := .online
    isOnline := true }

def listedInventory : Inventory :=
  { chassis := [storedReceiver, unlistedReceiver], chargers := [], nextPk := 3 }

theorem listedInventory_consistent : listedInventory.Consistent where
  pk_unique := by decide
  pk_lt := by decide
  ip_stored := by decide
  ip_unique := by decide
  api_unique := by decide

theorem authoritative_snapshots_unlistedReceiver :
    ∃ row' ∈ (updateModelsFromApiData 0 listedInventory [⟨plainPoll, true⟩] shure true).1.chassis,
      SameIdentity row' unlistedReceiver ∧ row'.status = .offline := by
  have hcomplete : SnapshotComplete 0 shure listedInventory [⟨plainPoll, true⟩] := by
    by_contra hfailed
    rw [← pollDevices_snapshotFailed] at hfailed
    revert hfailed
    decide +kernel
  have hunlisted : MarkedAbsent 0 shure listedInventory [⟨plainPoll, true⟩] unlistedReceiver := by
    refine ⟨rfl, by decide, ?_⟩
    rw [← pollDevices_activeChassisIds hcomplete]
    decide +kernel
  have habsent : absentAfter 0 shure listedInventory [⟨plainPoll, true⟩] = [] ++
      [unlistedReceiver] := by
    decide +kernel
  have haccepted : OfflineSavesAccepted 0
      (pollDevices 0 shure listedInventory [⟨plainPoll, true⟩]).inventory
      (absentAfter 0 shure listedInventory [⟨plainPoll, true⟩]) := by
    rw [habsent]
    refine forall_split_concat.mpr ⟨by simp, fun e he => ?_⟩
    have hok : (transitionDevice 0 (pollDevices 0 shure listedInventory
        [⟨plainPoll, true⟩]).inventory 2 .offline).toBool = true := by decide +kernel
    obtain ⟨result, hresult⟩ := exists_eq_ok hok
    have herror : transitionDevice 0 (pollDevices 0 shure listedInventory
        [⟨plainPoll, true⟩]).inventory 2 .offline = .error e := he
    rw [hresult] at herror
    cases herror
  exact ((authoritative_snapshots listedInventory_consistent [⟨plainPoll, true⟩] shure true).2 rfl
    hcomplete haccepted).1 unlistedReceiver (by simp [listedInventory]) hunlisted

end Micboard
