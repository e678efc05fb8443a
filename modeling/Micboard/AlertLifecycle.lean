import Micboard.AlertEvaluation

/-! Alerts under concurrent workers. A worker creates an alert in a transaction that holds the row
lock of the channel; after the commit it sends the e-mail with its own copy of the alert, and writes
the status when that fails. Meanwhile users acknowledge and resolve stored alerts under the lock of
the alert's row, each in one step. Every read of the clock is one of the current time, and the clock
never goes back. -/

namespace Micboard

structure AlertCreation where
  key : AlertKey
  assignment : Nat
  message : String
  deriving DecidableEq, Repr

/-- How far a worker has come: it holds the lock of the channel, has found no recent alert, has
inserted one, or has committed and sends its e-mail. -/
inductive CreationPhase where
  | idle
  | locked (request : AlertCreation)
  | unmatched (request : AlertCreation)
  | inserted (alert : Alert)
  | emailing (alert : Alert)
  deriving DecidableEq, Repr

/-- What comes of an e-mail: it is not allowed, it is sent, it is not sent, or an exception is
raised. -/
inductive EmailOutcome where
  | notAllowed | sent | failed | raised
  deriving DecidableEq, Repr

inductive AlertEvent where
  | tick (microseconds : Nat)
  | lock (worker : Nat) (request : AlertCreation)
  | release (worker : Nat)
  | search (worker : Nat)
  | insert (worker : Nat)
  | commit (worker : Nat)
  | email (worker : Nat) (outcome : EmailOutcome)
  | acknowledge (id : Nat)
  | resolve (id : Nat)
  deriving DecidableEq, Repr

/-- The stored alerts, the clock, the next primary key, the holders of the channel locks and the
workers. -/
structure AlertSystem where
  alerts : List Alert := []
  now : Time := 0
  nextId : Nat := 1
  locks : Nat → Option Nat := fun _ => none
  workers : Nat → CreationPhase := fun _ => .idle

/-- `UPDATE … SET status = … WHERE id = …`. -/
def setStatus (alerts : List Alert) (id : Nat) (status : AlertStatus) : List Alert :=
  alerts.map fun alert => if alert.id = id then { alert with status := status } else alert

def statusOf (alerts : List Alert) (id : Nat) : Option AlertStatus :=
  (alerts.find? fun alert => alert.id = id).map Alert.status

namespace AlertSystem

variable (users : AlertUsers)

def setWorker (s : AlertSystem) (worker : Nat) (phase : CreationPhase) : AlertSystem :=
  { s with workers := Function.update s.workers worker phase }

def unlock (s : AlertSystem) (channel : Nat) : AlertSystem :=
  { s with locks := Function.update s.locks channel none }

/-- Only pending alerts can be acknowledged; an acknowledged one stays. -/
def acknowledge (s : AlertSystem) (id : Nat) : AlertSystem :=
  if statusOf s.alerts id = some .pending then
    { s with alerts := setStatus s.alerts id .acknowledged }
  else s

/-- Only pending or acknowledged alerts can be resolved; a resolved one stays. -/
def resolve (s : AlertSystem) (id : Nat) : AlertSystem :=
  if statusOf s.alerts id = some .pending ∨ statusOf s.alerts id = some .acknowledged then
    { s with alerts := setStatus s.alerts id .resolved }
  else s

/-- The alert that a worker inserts for a request. -/
def newAlert (s : AlertSystem) (request : AlertCreation) : Alert :=
  ⟨s.nextId, request.key, request.assignment, request.message, .pending, s.now⟩

/-- What an event makes of the system; one that cannot happen changes nothing. -/
def step (s : AlertSystem) : AlertEvent → AlertSystem
  | .tick microseconds => { s with now := s.now + microseconds }
  | .lock worker request =>
    match s.workers worker, s.locks request.key.channel with
    | .idle, none =>
      { s with locks := Function.update s.locks request.key.channel (some worker) }.setWorker worker
        (.locked request)
    | _, _ => s
  | .release worker =>
    match s.workers worker with
    | .locked request | .unmatched request => (s.unlock request.key.channel).setWorker worker .idle
    | .inserted alert => (s.unlock alert.key.channel).setWorker worker .idle
    | .idle | .emailing _ => s
  | .search worker =>
    match s.workers worker with
    | .locked request =>
      if (recentAlerts s.alerts request.key s.now
        (alertInterval (users.user request.key.user))).isEmpty then
        s.setWorker worker (.unmatched request)
      else (s.unlock request.key.channel).setWorker worker .idle
    | _ => s
  | .insert worker =>
    match s.workers worker with
    | .unmatched request =>
      { s with nextId := s.nextId + 1 }.setWorker worker (.inserted (s.newAlert request))
    | _ => s
  | .commit worker =>
    match s.workers worker with
    | .inserted alert =>
      ({ s with alerts := s.alerts ++ [alert] }.unlock alert.key.channel).setWorker worker
      (.emailing alert)
    | _ => s
  | .email worker outcome =>
    match s.workers worker with
    | .emailing alert =>
      match outcome with
      | .notAllowed | .sent => s.setWorker worker .idle
      | .failed | .raised =>
        { s with alerts := setStatus s.alerts alert.id .failed }.setWorker worker .idle
    | _ => s
  | .acknowledge id => s.acknowledge id
  | .resolve id => s.resolve id

end AlertSystem

/-- The system before each event of a run from an empty table on. -/
def systemAt (users : AlertUsers) (events : Nat → AlertEvent) : Nat → AlertSystem
  | 0 => {}
  | i + 1 => (systemAt users events i).step users (events i)

/-! ### The stored status -/

/-- A step towards the end of an alert's life: anything may follow while it is open, but an
acknowledged alert can only be resolved and a resolved one stays. -/
def AlertStatus.Precedes : AlertStatus → AlertStatus → Prop
  | .acknowledged, later => later = .acknowledged ∨ later = .resolved
  | .resolved, later => later = .resolved
  | _, _ => True

/-- No stored alert has left the acknowledged or the resolved status. -/
def Kept (before after : List Alert) : Prop :=
  ∀ id status, statusOf before id = some status →
    ∃ later, statusOf after id = some later ∧ status.Precedes later

/-- The e-mail of an alert that is acknowledged or resolved by now does not fail. -/
def EmailSafe (s : AlertSystem) : AlertEvent → Prop
  | .email worker .failed | .email worker .raised =>
    ∀ alert, s.workers worker = .emailing alert →
      statusOf s.alerts alert.id ≠ some .acknowledged ∧ statusOf s.alerts alert.id ≠ some .resolved
  | _ => True

theorem AlertStatus.Precedes.refl (status : AlertStatus) : status.Precedes status := by
  cases status with
  | acknowledged => exact .inl rfl
  | resolved => rfl
  | pending | sent | failed => trivial

theorem AlertStatus.Precedes.trans {first second third : AlertStatus} (h : first.Precedes second)
    (h' : second.Precedes third) : first.Precedes third := by
  cases first with
  | acknowledged =>
      rcases h with rfl | rfl
      · exact h'
      · exact .inr h'
  | resolved =>
      cases h
      exact h'
  | pending | sent | failed => trivial

theorem Kept.refl (alerts : List Alert) : Kept alerts alerts := by
  intro id status h
  exact ⟨status, h, .refl status⟩

theorem Kept.trans {first second third : List Alert} (h : Kept first second) (h' : Kept second third) :
    Kept first third := by
  intro id status hstatus
  obtain ⟨later, hlater, hprec⟩ := h id status hstatus
  obtain ⟨last, hlast, hprec'⟩ := h' id later hlater
  exact ⟨last, hlast, hprec.trans hprec'⟩

theorem statusOf_append {alerts : List Alert} {id : Nat} {status : AlertStatus} (alert : Alert)
    (h : statusOf alerts id = some status) : statusOf (alerts ++ [alert]) id = some status := by
  unfold statusOf at h ⊢
  obtain ⟨found, hfound, rfl⟩ := Option.map_eq_some_iff.mp h
  rw [List.find?_append, hfound]
  rfl

/-- A new row hides none of the stored ones. -/
theorem Kept.append (alerts : List Alert) (alert : Alert) : Kept alerts (alerts ++ [alert]) := by
  intro id status h
  exact ⟨status, statusOf_append alert h, .refl status⟩

theorem statusOf_setStatus (alerts : List Alert) (id : Nat) (status : AlertStatus) (other : Nat) :
    statusOf (setStatus alerts id status) other =
      if other = id then (statusOf alerts id).map fun _ => status else statusOf alerts other := by
  have hfind : (setStatus alerts id status).find? (fun alert => alert.id = other) =
      (alerts.find? fun alert => alert.id = other).map fun alert =>
        if alert.id = id then { alert with status := status } else alert := by
    unfold setStatus
    rw [List.find?_map]
    congr 2
    funext alert
    simp only [Function.comp_apply]
    split
    · rfl
    · rfl
  unfold statusOf
  rw [hfind]
  cases hfound : alerts.find? fun alert => alert.id = other with
  | none =>
      split
      · next heq =>
          rw [← heq, hfound]
          rfl
      · rfl
  | some alert =>
      have hid : alert.id = other := by simpa using List.find?_some hfound
      split
      · next heq =>
          rw [← heq, hfound]
          simp [hid, heq]
      · next hne =>
          simp [hid, hne]

/-- Writing a status keeps the others, and keeps its own alert when the written status may follow. -/
theorem kept_setStatus_iff {alerts : List Alert} {id : Nat} {status : AlertStatus} :
    Kept alerts (setStatus alerts id status) ↔
      ∀ stored, statusOf alerts id = some stored → stored.Precedes status := by
  constructor
  · intro h stored hstored
    obtain ⟨later, hlater, hprec⟩ := h id stored hstored
    rw [statusOf_setStatus, if_pos rfl, hstored] at hlater
    cases hlater
    exact hprec
  · intro h other stored hstored
    rw [statusOf_setStatus]
    by_cases hother : other = id
    · subst hother
      rw [if_pos rfl, hstored]
      exact ⟨status, rfl, h stored hstored⟩
    · rw [if_neg hother]
      exact ⟨stored, hstored, .refl stored⟩

theorem precedes_failed_iff {status : AlertStatus} :
    status.Precedes .failed ↔ status ≠ .acknowledged ∧ status ≠ .resolved := by
  cases status with
  | acknowledged | resolved => simp [AlertStatus.Precedes]
  | pending | sent | failed => simp [AlertStatus.Precedes]

section Lifecycle

variable (users : AlertUsers) (s : AlertSystem)

theorem kept_acknowledge (id : Nat) : Kept s.alerts (s.acknowledge id).alerts := by
  unfold AlertSystem.acknowledge
  split
  · next hpending =>
      refine kept_setStatus_iff.mpr fun stored hstored => ?_
      rw [hpending] at hstored
      cases hstored
      trivial
  · exact .refl _

theorem kept_resolve (id : Nat) : Kept s.alerts (s.resolve id).alerts := by
  unfold AlertSystem.resolve
  split
  · next hopen =>
      refine kept_setStatus_iff.mpr fun stored hstored => ?_
      rcases hopen with hpending | hacknowledged
      · rw [hpending] at hstored
        cases hstored
        trivial
      · rw [hacknowledged] at hstored
        cases hstored
        exact .inr rfl
  · exact .refl _

/-- The write after an e-mail that was not sent ignores the stored status. -/
theorem kept_emailFailed_iff (worker : Nat) (outcome : EmailOutcome)
    (houtcome : outcome = .failed ∨ outcome = .raised) :
    Kept s.alerts (s.step users (.email worker outcome)).alerts ↔
      EmailSafe s (.email worker outcome) := by
  have hsafe : EmailSafe s (.email worker outcome) ↔ ∀ alert, s.workers worker = .emailing alert →
      statusOf s.alerts alert.id ≠ some .acknowledged ∧
        statusOf s.alerts alert.id ≠ some .resolved := by
    rcases houtcome with rfl | rfl
    · rfl
    · rfl
  rw [hsafe]
  cases hphase : s.workers worker with
  | emailing alert =>
      have hstep : (s.step users (.email worker outcome)).alerts =
          setStatus s.alerts alert.id .failed := by
        rcases houtcome with rfl | rfl
        · simp only [AlertSystem.step, hphase, AlertSystem.setWorker]
        · simp only [AlertSystem.step, hphase, AlertSystem.setWorker]
      rw [hstep, kept_setStatus_iff]
      constructor
      · intro h other hother
        cases hother
        constructor
        · intro hstored
          exact (precedes_failed_iff.mp (h _ hstored)).1 rfl
        · intro hstored
          exact (precedes_failed_iff.mp (h _ hstored)).2 rfl
      · intro h stored hstored
        obtain ⟨hack, hres⟩ := h alert rfl
        refine precedes_failed_iff.mpr ⟨?_, ?_⟩
        · rintro rfl
          exact hack hstored
        · rintro rfl
          exact hres hstored
  | idle | locked _ | unmatched _ | inserted _ =>
      have hstep : (s.step users (.email worker outcome)).alerts = s.alerts := by
        simp only [AlertSystem.step, hphase]
      rw [hstep]
      exact iff_of_true (.refl _) (by rintro alert ⟨⟩)

/-- The events of a creation, up to its commit, write no status. -/
theorem kept_step_iff (event : AlertEvent) :
    Kept s.alerts (s.step users event).alerts ↔ EmailSafe s event := by
  cases event with
  | tick _ => exact iff_of_true (.refl _) trivial
  | lock worker request =>
      refine iff_of_true ?_ trivial
      simp only [AlertSystem.step]
      split
      · exact .refl _
      · exact .refl _
  | release worker =>
      refine iff_of_true ?_ trivial
      simp only [AlertSystem.step]
      split
      · exact .refl _
      · exact .refl _
      · exact .refl _
      · exact .refl _
      · exact .refl _
  | search worker =>
      refine iff_of_true ?_ trivial
      simp only [AlertSystem.step]
      split
      · split
        · exact .refl _
        · exact .refl _
      · exact .refl _
  | insert worker =>
      refine iff_of_true ?_ trivial
      simp only [AlertSystem.step]
      split
      · exact .refl _
      · exact .refl _
  | commit worker =>
      refine iff_of_true ?_ trivial
      simp only [AlertSystem.step]
      split
      · exact .append _ _
      · exact .refl _
  | email worker outcome =>
      cases outcome with
      | notAllowed | sent =>
          refine iff_of_true ?_ trivial
          simp only [AlertSystem.step]
          split
          · exact .refl _
          · exact .refl _
      | failed => exact kept_emailFailed_iff users s worker .failed (.inl rfl)
      | raised => exact kept_emailFailed_iff users s worker .raised (.inr rfl)
  | acknowledge id => exact iff_of_true (kept_acknowledge s id) trivial
  | resolve id => exact iff_of_true (kept_resolve s id) trivial

/-- Acknowledged and resolved alerts are kept in every run in which no e-mail fails for one of them,
and only in these. -/
theorem alert_status_kept (events : Nat → AlertEvent) :
    (∀ i j, i ≤ j → Kept (systemAt users events i).alerts (systemAt users events j).alerts) ↔
      ∀ i, EmailSafe (systemAt users events i) (events i) := by
  constructor
  · intro h i
    exact (kept_step_iff users _ _).mp (h i (i + 1) i.le_succ)
  · intro h i j hij
    induction j, hij using Nat.le_induction with
    | base => exact .refl _
    | succ j _ ih => exact ih.trans ((kept_step_iff users _ _).mpr (h j))

end Lifecycle

/-- A user acknowledges an alert while its e-mail is under way, and the e-mail then fails. -/
def acknowledgedInFlight : Nat → AlertEvent
  | 0 => .lock 1 ⟨⟨7, 3, .batteryLow⟩, 2, "Battery low"⟩
  | 1 => .search 1
  | 2 => .insert 1
  | 3 => .commit 1
  | 4 => .acknowledge 1
  | 5 => .email 1 .failed
  | _ => .tick 0

theorem acknowledged_alert_fails :
    let run := systemAt ⟨fun _ => {}, fun _ _ => true⟩ acknowledgedInFlight
    statusOf (run 5).alerts 1 = some .acknowledged ∧ statusOf (run 6).alerts 1 = some .failed ∧
      ¬ ∀ i j, i ≤ j → Kept (run i).alerts (run j).alerts := by
  refine ⟨by decide +kernel, by decide +kernel, fun h => ?_⟩
  obtain ⟨later, hlater, hprec⟩ := h 5 6 (by decide) 1 .acknowledged (by decide +kernel)
  have hfailed : later = .failed := by
    have : statusOf (systemAt ⟨fun _ => {}, fun _ _ => true⟩ acknowledgedInFlight 6).alerts 1 =
        some .failed := by
      decide +kernel
    exact Option.some.inj (hlater.symm.trans this)
  subst hfailed
  rcases hprec with h | h
  · cases h
  · cases h

end Micboard
