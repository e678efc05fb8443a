import Micboard.PollingEffect

/-! Polling and inventory synchronization over any history of the two. Polling writes the chassis
with the polled vendor identifier and stores no other identity, so an identity check of the same
device finds this chassis only under a condition on the chassis that were stored before. -/

namespace Micboard

open Library Library.Text

/-- A run of one of the two paths. An inventory synchronization that fails is undone. -/
inductive SyncPathStep (db db' : Inventory) : Prop where
  | inventory (now : Time) (payloads : List NormalizedHardware) (manufacturer : Manufacturer)
      (force : Bool) (counts : Option (Nat × Nat))
      (hok : persistNormalizedDevices now db payloads manufacturer force = .ok (db', counts))
  | polling (now : Time) (apiData : List PolledDevice) (manufacturer : Manufacturer)
      (authoritativeSnapshot : Bool) (count : Nat)
      (hok : updateModelsFromApiData now db apiData manufacturer authoritativeSnapshot = (db', count))

theorem pollDevice_consistent (now : Time) (manufacturer : Manufacturer) {run : PollRun}
    (h : run.inventory.Consistent) (device : PolledDevice) :
    (pollDevice now manufacturer run device).inventory.Consistent := by
  unfold pollDevice
  split
  next => exact h
  next =>
  split
  next => exact h
  next db chassis created hupsert =>
  have hmid := h.upsertPolled hupsert
  have hreconciled := (reconcileChassisLifecycle_effect now hmid chassis created).1
  split
  next heq =>
    rw [heq] at hreconciled
    exact hreconciled
  next heq =>
    rw [heq] at hreconciled
    exact hreconciled

theorem Inventory.Consistent.updateModelsFromApiData {now : Time} {db db' : Inventory}
    (h : db.Consistent) {apiData : List PolledDevice} {manufacturer : Manufacturer}
    {authoritativeSnapshot : Bool} {count : Nat}
    (hok : updateModelsFromApiData now db apiData manufacturer authoritativeSnapshot = (db', count)) :
    db'.Consistent := by
  have hrun : ∀ run : PollRun, run.inventory.Consistent →
      (apiData.foldl (pollDevice now manufacturer) run).inventory.Consistent := by
    clear hok
    induction apiData with
    | nil => exact fun _ hrun => hrun
    | cons device rest ih =>
        exact fun run hrun => ih _ (pollDevice_consistent now manufacturer hrun device)
  unfold Micboard.updateModelsFromApiData at hok
  simp only at hok
  split at hok
  next =>
    cases hok
    exact markOfflineReceivers_consistent now (hrun _ h) manufacturer _
  next =>
    cases hok
    exact hrun _ h

theorem SyncPathStep.consistent {db db' : Inventory} (hstep : SyncPathStep db db')
    (h : db.Consistent) : db'.Consistent := by
  cases hstep with
  | inventory now payloads manufacturer force counts hok => exact h.persistNormalizedDevices hok
  | polling now apiData manufacturer authoritativeSnapshot count hok =>
      exact h.updateModelsFromApiData hok

/-- The transitions that follow the upsert rewrite the written row and keep its identity. -/
theorem PolledWrite.keeps {db mid db' : Inventory} {manufacturer : Manufacturer}
    {data : VendorPayload} {pk : Nat} {written : Chassis} (hmid : mid.Consistent)
    (h : PolledWrite db mid manufacturer data pk written) (hkeeps : KeepsIdentity mid db' pk) :
    ∃ written', PolledWrite db db' manufacturer data pk written' := by
  rcases hkeeps with rfl | ⟨row, row', hpk, hrewrites, hidentity⟩
  · exact ⟨written, h⟩
  have hwritten : written ∈ mid.chassis := (h.mem written).mpr (.inl rfl)
  have hrow := Inventory.find_mem hrewrites.find
  have hsame : row = written :=
    hmid.pk_unique.eq hrow hwritten (hpk.trans h.written_pk.symm)
  subst hsame
  refine ⟨row', hidentity.pk.trans h.written_pk, ?_, hidentity.ip.trans h.ip, ?_, fun other => ?_⟩
  · rw [HoldsApiId, hidentity.manufacturer, hidentity.apiDeviceId]
    exact h.holds
  · rw [hidentity.serialNumber, hidentity.macAddress]
    exact h.origin
  · rw [hrewrites.mem, h.mem]
    refine or_congr_right ?_
    constructor
    · rintro ⟨rfl | hother, hne⟩
      · exact absurd rfl hne
      · exact hother
    · intro hother
      refine ⟨.inr hother, fun heq => ?_⟩
      have hotherMid : other ∈ mid.chassis := (h.mem other).mpr (.inr hother)
      rw [hmid.pk_unique.eq hotherMid hwritten heq] at hother
      exact hother.2 h.holds

/-- The chassis a poll of the device is written to: the one with the polled vendor identifier. -/
def HoldsPolled (manufacturer : Manufacturer) (data : VendorPayload) (row : Chassis) : Prop :=
  HoldsApiId manufacturer (polledApiDeviceId data) row

/-- What the chassis stored before a poll have to say so that an identity check after it finds the
chassis that was written. Either a durable key of the device is stored and only the polled chassis holds
one; or none is stored and the device brings none that the polled chassis lacks, at the polled address;
or none is stored and the device is found under the polled identifier, at an address of nobody else. -/
def PollAgrees (db : Inventory) (manufacturer : Manufacturer) (data : VendorPayload)
    (payload : NormalizedHardware) : Prop :=
  ((∃ row ∈ db.chassis, HoldsDurable payload.serial payload.mac row) ∧
      ∀ row ∈ db.chassis, HoldsDurable payload.serial payload.mac row →
        HoldsPolled manufacturer data row) ∨
    ((∀ row ∈ db.chassis, ¬ HoldsDurable payload.serial payload.mac row) ∧
      getPrepValue (polledIp data) = getPrepValue payload.ip ∧ payload.serial = none ∧
      ∀ mac ∈ payload.mac, ∃ row ∈ db.chassis, HoldsPolled manufacturer data row ∧
        canonicalizeMacAddress row.macAddress = some mac) ∨
    ((∀ row ∈ db.chassis, ¬ HoldsDurable payload.serial payload.mac row) ∧
      getPrepValue (polledIp data) ≠ getPrepValue payload.ip ∧
      polledApiDeviceId data = payload.apiDeviceId ∧
      ∀ row ∈ db.chassis, HoldsIp payload.ip row → HoldsPolled manufacturer data row)

section Written

variable {db db' : Inventory} {manufacturer : Manufacturer} {data : VendorPayload} {pk : Nat}
  {written : Chassis} (h : PolledWrite db db' manufacturer data pk written) (hdb : db.Consistent)
  (payload : NormalizedHardware)

theorem supplied_serial : supplied payload.serial = payload.serial := by
  cases hserial : payload.serial with
  | none => rfl
  | some serial =>
      have hne := (NormalizedHardware.serial_eq_some.mp hserial).2
      rw [supplied, Option.filter_some, if_pos (by simpa using hne)]

include h hdb

/-- A property of the serial number and the hardware address that a chassis without them does not have
holds of the written chassis exactly when the polled chassis had it. -/
theorem PolledWrite.transfer {holds : Chassis → Prop}
    (hcongr : ∀ a b : Chassis, a.serialNumber = b.serialNumber → a.macAddress = b.macAddress →
      (holds a ↔ holds b))
    (hblank : ∀ a : Chassis, a.serialNumber = "" → a.macAddress = none → ¬ holds a) :
    holds written ↔ ∃ row ∈ db.chassis, HoldsPolled manufacturer data row ∧ holds row := by
  rcases h.origin with ⟨row, hrow, hpolled, -, hserial, hmac⟩ | ⟨hnone, hserial, hmac⟩
  · rw [hcongr written row hserial hmac]
    constructor
    · exact fun hholds => ⟨row, hrow, hpolled, hholds⟩
    · rintro ⟨other, hother, hotherPolled, hholds⟩
      have hkey : (other.manufacturer.pk, other.apiDeviceId) =
          (row.manufacturer.pk, row.apiDeviceId) := by
        rw [hotherPolled.1, hotherPolled.2, hpolled.1, hpolled.2]
      rwa [← hdb.api_unique.eq hother hrow hkey]
  · refine iff_of_false (hblank written hserial hmac) ?_
    rintro ⟨row, hrow, hpolled, -⟩
    exact (hnone row hrow).1 hpolled

theorem PolledWrite.holdsDurable_iff : HoldsDurable payload.serial payload.mac written ↔
    ∃ row ∈ db.chassis, HoldsPolled manufacturer data row ∧
      HoldsDurable payload.serial payload.mac row := by
  refine h.transfer hdb (fun a b hserial hmac => ?_) fun a hserial hmac => ?_
  · rw [HoldsDurable, HoldsDurable, HoldsSerial, HoldsSerial, HoldsMac, HoldsMac, hserial, hmac]
  · rintro (hholds | ⟨canonical, -, stored, hstored, -⟩)
    · rw [HoldsSerial, supplied_serial, hserial] at hholds
      exact (NormalizedHardware.serial_eq_some.mp hholds).2 rfl
    · rw [hmac] at hstored
      cases hstored

theorem PolledWrite.unheld_iff :
    (∀ row ∈ db'.chassis, ¬ HoldsDurable payload.serial payload.mac row) ↔
      ∀ row ∈ db.chassis, ¬ HoldsDurable payload.serial payload.mac row := by
  constructor
  · intro hnone row hrow hholds
    by_cases hpolled : HoldsPolled manufacturer data row
    · exact hnone written ((h.mem written).mpr (.inl rfl))
        ((h.holdsDurable_iff hdb payload).mpr ⟨row, hrow, hpolled, hholds⟩)
    · exact hnone row ((h.mem row).mpr (.inr ⟨hrow, hpolled⟩)) hholds
  · intro hnone row hrow hholds
    rcases (h.mem row).mp hrow with rfl | ⟨hrow, -⟩
    · obtain ⟨other, hother, -, hotherHolds⟩ := (h.holdsDurable_iff hdb payload).mp hholds
      exact hnone other hother hotherHolds
    · exact hnone row hrow hholds

theorem PolledWrite.matchesDurable_iff :
    MatchesDurable db' payload.serial payload.mac manufacturer written ↔
      (∃ row ∈ db.chassis, HoldsDurable payload.serial payload.mac row) ∧
        ∀ row ∈ db.chassis, HoldsDurable payload.serial payload.mac row →
          HoldsPolled manufacturer data row := by
  rw [MatchesDurable, h.holdsDurable_iff hdb payload]
  constructor
  · rintro ⟨⟨row, hrow, -, hholds⟩, honly, -⟩
    refine ⟨⟨row, hrow, hholds⟩, fun other hother hotherHolds => ?_⟩
    by_contra hpolled
    have heq := honly other ((h.mem other).mpr (.inr ⟨hother, hpolled⟩)) hotherHolds
    rw [heq] at hpolled
    exact hpolled h.holds
  · rintro ⟨⟨row, hrow, hholds⟩, honly⟩
    refine ⟨⟨row, hrow, honly row hrow hholds, hholds⟩, fun other hother hotherHolds => ?_,
      h.holds.1⟩
    rcases (h.mem other).mp hother with heq | ⟨hother, hpolled⟩
    · exact heq
    · exact absurd (honly other hother hotherHolds) hpolled

theorem PolledWrite.matchesIp_iff : MatchesIp db' payload.serial payload.mac payload.ip written ↔
    (∀ row ∈ db.chassis, ¬ HoldsDurable payload.serial payload.mac row) ∧
      getPrepValue (polledIp data) = getPrepValue payload.ip ∧ payload.serial = none ∧
      ∀ mac ∈ payload.mac, ∃ row ∈ db.chassis, HoldsPolled manufacturer data row ∧
        canonicalizeMacAddress row.macAddress = some mac := by
  rw [MatchesIp, h.unheld_iff hdb payload, HoldsIp, h.ip, supplied_serial, payload_mac_canonical]
  refine and_congr_right fun _ => and_congr_right fun _ => and_congr_right fun _ => ?_
  refine forall₂_congr fun mac _ => ?_
  have hblank : ∀ a : Chassis, a.serialNumber = "" → a.macAddress = none →
      ¬ canonicalizeMacAddress a.macAddress = some mac := by
    intro a _ hmac heq
    rw [hmac] at heq
    cases heq
  exact h.transfer hdb (fun a b _ hmac => by rw [hmac]) hblank

theorem PolledWrite.matchesApiId_iff :
    MatchesApiId db' payload.serial payload.mac payload.ip payload.apiDeviceId manufacturer written ↔
      (∀ row ∈ db.chassis, ¬ HoldsDurable payload.serial payload.mac row) ∧
        getPrepValue (polledIp data) ≠ getPrepValue payload.ip ∧
        polledApiDeviceId data = payload.apiDeviceId ∧
        ∀ row ∈ db.chassis, HoldsIp payload.ip row → HoldsPolled manufacturer data row := by
  have hip : (∀ row ∈ db'.chassis, ¬ HoldsIp payload.ip row) ↔
      getPrepValue (polledIp data) ≠ getPrepValue payload.ip ∧
        ∀ row ∈ db.chassis, HoldsIp payload.ip row → HoldsPolled manufacturer data row := by
    constructor
    · intro hnone
      refine ⟨fun heq => ?_, fun row hrow hholds => ?_⟩
      · exact hnone written ((h.mem written).mpr (.inl rfl)) (h.ip.trans heq)
      · by_contra hpolled
        exact hnone row ((h.mem row).mpr (.inr ⟨hrow, hpolled⟩)) hholds
    · rintro ⟨hne, honly⟩ row hrow hholds
      rcases (h.mem row).mp hrow with rfl | ⟨hrow, hpolled⟩
      · exact hne (h.ip.symm.trans hholds)
      · exact hpolled (honly row hrow hholds)
  have hapi : HoldsApiId manufacturer payload.apiDeviceId written ↔
      polledApiDeviceId data = payload.apiDeviceId := by
    rw [HoldsApiId, h.holds.2]
    exact and_iff_right h.holds.1
  rw [MatchesApiId, h.unheld_iff hdb payload, hip, hapi]
  constructor
  · rintro ⟨hnone, ⟨hne, honly⟩, heq⟩
    exact ⟨hnone, hne, heq, honly⟩
  · rintro ⟨hnone, hne, heq, honly⟩
    exact ⟨hnone, ⟨hne, honly⟩, heq⟩

end Written

/-- After any history of polls and inventory synchronizations, an identity check of a device that
was just polled resolves to the chassis the poll wrote exactly when the chassis stored before agree;
and a chassis that the check resolved to before the poll is the one the poll writes exactly when it
holds the polled vendor identifier. -/
theorem polled_device_resolves_iff {start db mid : Inventory} {now : Time}
    {manufacturer : Manufacturer} {data : VendorPayload} {chassis : Chassis} {created : Bool}
    (hstart : start.chassis = []) (hreach : Relation.ReflTransGen SyncPathStep start db)
    (hupsert : upsertPolled now db manufacturer data = .ok (mid, chassis, created))
    (payload : NormalizedHardware) :
    ((∃ result existing,
        checkDevice (reconcileChassisLifecycle now mid chassis created).1 payload.serial payload.mac
          payload.ip payload.apiDeviceId (some manufacturer) none = .ok result ∧
        result.resolvedDevice = some existing ∧ existing.pk = chassis.pk) ↔
      PollAgrees db manufacturer data payload) ∧
    ∀ result existing,
      checkDevice db payload.serial payload.mac payload.ip payload.apiDeviceId (some manufacturer)
        none = .ok result → result.resolvedDevice = some existing →
      (existing.pk = chassis.pk ↔ HoldsPolled manufacturer data existing) := by
  have hdb : db.Consistent := reachable_invariant Inventory.Consistent
    (fun _ _ hconsistent hstep => hstep.consistent hconsistent)
    (Inventory.consistent_of_chassis_nil hstart) hreach
  obtain ⟨upserted, hupserted⟩ := upsertPolled_write hdb hupsert
  have hmid := hdb.upsertPolled hupsert
  obtain ⟨hconsistent, hkeeps⟩ := reconcileChassisLifecycle_effect now hmid chassis created
  obtain ⟨written, hwritten⟩ := hupserted.keeps hmid hkeeps
  generalize (reconcileChassisLifecycle now mid chassis created).1 = db' at hconsistent hwritten ⊢
  have hmem : written ∈ db'.chassis := (hwritten.mem written).mpr (.inl rfl)
  constructor
  · rw [PollAgrees, ← hwritten.matchesDurable_iff hdb payload, ← hwritten.matchesIp_iff hdb payload,
      ← hwritten.matchesApiId_iff hdb payload]
    have hresolves := @checkDevice_resolves_iff db' hconsistent payload.serial payload.mac payload.ip
      payload.apiDeviceId manufacturer written
    constructor
    · rintro ⟨result, existing, hchecked, hresolved, hpk⟩
      have hexisting := (checkDevice_resolved hconsistent _ _ _ _ _ hchecked hresolved).1
      have heq : existing = written :=
        hconsistent.pk_unique.eq hexisting hmem (hpk.trans hwritten.written_pk.symm)
      rw [heq] at hresolved
      exact (hresolves.mp ⟨result, hchecked, hresolved⟩).2
    · intro hmatches
      obtain ⟨result, hchecked, hresolved⟩ := hresolves.mpr ⟨hmem, hmatches⟩
      exact ⟨result, written, hchecked, hresolved, hwritten.written_pk⟩
  · intro result existing hchecked hresolved
    have hexisting := (checkDevice_resolved hdb _ _ _ _ _ hchecked hresolved).1
    rcases hwritten.origin with ⟨row, hrow, hpolled, hpk, -⟩ | ⟨hnone, -⟩
    · constructor
      · intro heq
        rwa [hdb.pk_unique.eq hexisting hrow (heq.trans hpk.symm)]
      · intro hholds
        have hkey : (existing.manufacturer.pk, existing.apiDeviceId) =
            (row.manufacturer.pk, row.apiDeviceId) := by
          rw [hholds.1, hholds.2, hpolled.1, hpolled.2]
        rw [hdb.api_unique.eq hexisting hrow hkey, hpk]
    · exact iff_of_false (hnone existing hexisting).2 (hnone existing hexisting).1

/-- A polled device without a serial number. -/
def plainPoll : VendorPayload := [("id", .text "dev-1"), ("ip", .text "10.0.0.1")]

/-- It is found by the address it was polled with. -/
theorem polled_device_resolves_iff_plainPoll :
    ∃ mid chassis created, upsertPolled 0 .empty shure plainPoll = .ok (mid, chassis, created) ∧
      ∃ result existing,
        checkDevice (reconcileChassisLifecycle 0 mid chassis created).1 none none "10.0.0.1" "dev-1"
          (some shure) none = .ok result ∧
        result.resolvedDevice = some existing ∧ existing.pk = chassis.pk := by
  have hruns : (upsertPolled 0 .empty shure plainPoll).toBool = true := by decide +kernel
  obtain ⟨⟨mid, chassis, created⟩, hupsert⟩ := exists_eq_ok hruns
  refine ⟨mid, chassis, created, hupsert, ?_⟩
  have hagrees := (polled_device_resolves_iff rfl .refl hupsert
    (.identified "dev-1" "10.0.0.1" "" none)).1.mpr ?_
  · exact hagrees
  · have hmac : (NormalizedHardware.identified "dev-1" "10.0.0.1" "" none).mac = none := by
      decide +kernel
    refine .inr (.inl ⟨by simp [Inventory.empty], by decide +kernel, by decide +kernel, ?_⟩)
    intro mac hmem
    rw [hmac] at hmem
    cases hmem

/-- The same device with a serial number. -/
def serialPoll : VendorPayload :=
  [("id", .text "dev-1"), ("ip", .text "10.0.0.1"), ("serial_number", .text "SN-1")]

/-- A poll does not store the serial number, so the device that was just polled is reported as a
conflict at its own address. -/
theorem polled_device_conflicts_serialPoll :
    ¬ ∀ (start db mid : Inventory) (now : Time) (manufacturer : Manufacturer) (data : VendorPayload)
        (payload : NormalizedHardware) (chassis : Chassis) (created : Bool), start.chassis = [] →
      Relation.ReflTransGen SyncPathStep start db →
      NormalizedHardware.fromApi data = .ok (some payload) →
      upsertPolled now db manufacturer data = .ok (mid, chassis, created) →
      ∃ result existing,
        checkDevice (reconcileChassisLifecycle now mid chassis created).1 payload.serial payload.mac
          payload.ip payload.apiDeviceId (some manufacturer) none = .ok result ∧
        result.resolvedDevice = some existing ∧ existing.pk = chassis.pk := by
  intro hclaim
  have hnormalized : (NormalizedHardware.fromApi serialPoll).map (Option.map fun payload =>
      (payload.serial, payload.mac, payload.ip, payload.apiDeviceId)) =
        .ok (some (some "SN-1", none, "10.0.0.1", "dev-1")) := by decide +kernel
  have hchecked : (upsertPolled 0 .empty shure serialPoll).map (fun upserted =>
      (checkDevice (reconcileChassisLifecycle 0 upserted.1 upserted.2.1 upserted.2.2).1 (some "SN-1")
        none "10.0.0.1" "dev-1" (some shure) none).map DeduplicationResult.resolvedDevice) =
          .ok (.ok none) := by decide +kernel
  cases hpayload : NormalizedHardware.fromApi serialPoll with
  | error e =>
      rw [hpayload] at hnormalized
      cases hnormalized
  | ok normalized =>
      rw [hpayload] at hnormalized
      obtain ⟨payload, rfl, hfields⟩ := Option.map_eq_some_iff.mp (Except.ok.inj hnormalized)
      simp only [Prod.mk.injEq] at hfields
      obtain ⟨hserial, hmac, hip, hapi⟩ := hfields
      cases hupsert : upsertPolled 0 .empty shure serialPoll with
      | error e =>
          rw [hupsert] at hchecked
          cases hchecked
      | ok upserted =>
          rw [hupsert] at hchecked
          obtain ⟨result, existing, hresult, hresolved, -⟩ := hclaim .empty .empty upserted.1 0 shure
            serialPoll payload upserted.2.1 upserted.2.2 rfl .refl hpayload hupsert
          rw [hserial, hmac, hip, hapi] at hresult
          have hnone := Except.ok.inj hchecked
          simp only [hresult] at hnone
          have hunresolved : result.resolvedDevice = none := Except.ok.inj hnone
          rw [hunresolved] at hresolved
          cases hresolved

end Micboard
