import Micboard.AlertLifecycle

/-! The minimum interval between two alerts of one channel, user and type. The lock of the channel
serializes the creations, so that a worker that has found no recent alert inserts before any other
of the channel. Only pending and sent alerts count as recent, whereas failed, acknowledged and
resolved ones do not. -/

namespace Micboard

/-- Two alerts of one key are at least the interval of the user apart. -/
def Spaced (users : AlertUsers) (alerts : List Alert) : Prop :=
  alerts.Pairwise fun first second => first.key = second.key →
    minutes (alertInterval (users.user second.key.user)) ≤ |second.createdAt - first.createdAt|

/-- A worker that finds no recent pending or sent alert has no recent failed, acknowledged or
resolved alert to repeat either. -/
def SearchSuffices (users : AlertUsers) (s : AlertSystem) : AlertEvent → Prop
  | .search worker => ∀ request, s.workers worker = .locked request →
    recentAlerts s.alerts request.key s.now (alertInterval (users.user request.key.user)) = [] →
    ∀ alert ∈ s.alerts, alert.key = request.key → alert.status ≠ .pending → alert.status ≠ .sent →
      alert.createdAt + minutes (alertInterval (users.user request.key.user)) ≤ s.now
  | _ => True

/-- The channel whose lock a worker holds. -/
def CreationPhase.channel : CreationPhase → Option Nat
  | .locked request | .unmatched request => some request.key.channel
  | .inserted alert => some alert.key.channel
  | .idle | .emailing _ => none

/-- What a worker has found to be over: the intervals of the stored alerts of its key. -/
def CreationPhase.Due (users : AlertUsers) (alerts : List Alert) (now : Time) : CreationPhase → Prop
  | .unmatched request => ∀ alert ∈ alerts, alert.key = request.key →
    alert.createdAt + minutes (alertInterval (users.user request.key.user)) ≤ now
  | .inserted new => new.createdAt ≤ now ∧ ∀ alert ∈ alerts, alert.key = new.key →
    alert.createdAt + minutes (alertInterval (users.user new.key.user)) ≤ new.createdAt
  | .idle | .locked _ | .emailing _ => True

structure Serialized (users : AlertUsers) (s : AlertSystem) : Prop where
  spaced : Spaced users s.alerts
  past : ∀ alert ∈ s.alerts, alert.createdAt ≤ s.now
  holds : ∀ worker channel, (s.workers worker).channel = some channel → s.locks channel = some worker
  due : ∀ worker, (s.workers worker).Due users s.alerts s.now

section Interval

variable {users : AlertUsers} {s : AlertSystem} {alerts : List Alert} {worker : Nat}

theorem mem_setStatus {id : Nat} {status : AlertStatus} {alert : Alert}
    (h : alert ∈ setStatus alerts id status) :
    ∃ stored ∈ alerts, stored.key = alert.key ∧ stored.createdAt = alert.createdAt := by
  obtain ⟨stored, hstored, rfl⟩ := List.mem_map.mp h
  refine ⟨stored, hstored, ?_⟩
  split
  · exact ⟨rfl, rfl⟩
  · exact ⟨rfl, rfl⟩

theorem Spaced.setStatus (h : Spaced users alerts) (id : Nat) (status : AlertStatus) :
    Spaced users (setStatus alerts id status) := by
  have hsame : ∀ alert : Alert,
      (if alert.id = id then { alert with status := status } else alert).key = alert.key ∧
        (if alert.id = id then { alert with status := status } else alert).createdAt =
          alert.createdAt := by
    intro alert
    split
    · exact ⟨rfl, rfl⟩
    · exact ⟨rfl, rfl⟩
  refine List.pairwise_map.mpr (h.imp fun {first second} hspaced hkey => ?_)
  rw [(hsame first).1, (hsame second).1] at hkey
  rw [(hsame first).2, (hsame second).1, (hsame second).2]
  exact hspaced hkey

/-- What a worker has found depends on the keys and the creation times alone. -/
theorem CreationPhase.Due.mono {phase : CreationPhase} {later : List Alert} {now then' : Time}
    (h : phase.Due users alerts now) (hnow : now ≤ then')
    (hlater : ∀ alert ∈ later, (∃ stored ∈ alerts, stored.key = alert.key ∧
      stored.createdAt = alert.createdAt) ∨ phase.channel ≠ some alert.key.channel) :
    phase.Due users later then' := by
  cases phase with
  | idle | locked _ | emailing _ => trivial
  | unmatched request =>
      intro alert halert hkey
      rcases hlater alert halert with ⟨stored, hstored, hsame, htime⟩ | hchannel
      · rw [← htime]
        exact (h stored hstored (hsame.trans hkey)).trans hnow
      · exact absurd (by rw [hkey]; rfl) hchannel
  | inserted new =>
      refine ⟨h.1.trans hnow, fun alert halert hkey => ?_⟩
      rcases hlater alert halert with ⟨stored, hstored, hsame, htime⟩ | hchannel
      · rw [← htime]
        exact h.2 stored hstored (hsame.trans hkey)
      · exact absurd (by rw [hkey]; rfl) hchannel

theorem serialized_empty : Serialized users {} :=
  ⟨.nil, (fun _ h => nomatch h), (fun _ _ h => nomatch h), fun _ => trivial⟩

theorem Serialized.tick (h : Serialized users s) (microseconds : Nat) :
    Serialized users { s with now := s.now + microseconds } := by
  have hnow : s.now ≤ s.now + microseconds := Int.le_add_of_nonneg_right (Int.natCast_nonneg _)
  refine ⟨h.spaced, fun alert halert => (h.past alert halert).trans hnow, h.holds, fun worker => ?_⟩
  exact (h.due worker).mono hnow fun alert halert => .inl ⟨alert, halert, rfl, rfl⟩

theorem Serialized.setWorker (h : Serialized users s) {phase : CreationPhase}
    (hdue : phase.Due users s.alerts s.now)
    (hlock : ∀ channel, phase.channel = some channel → s.locks channel = some worker) :
    Serialized users (s.setWorker worker phase) := by
  refine ⟨h.spaced, h.past, fun other channel hchannel => ?_, fun other => ?_⟩
  · by_cases hother : other = worker
    · subst hother
      refine hlock channel ?_
      simpa [AlertSystem.setWorker] using hchannel
    · refine h.holds other channel ?_
      simpa [AlertSystem.setWorker, hother] using hchannel
  · by_cases hother : other = worker
    · subst hother
      simpa [AlertSystem.setWorker] using hdue
    · simpa [AlertSystem.setWorker, hother] using h.due other

theorem Serialized.unlock (h : Serialized users s) {channel : Nat}
    (hfree : ∀ worker, (s.workers worker).channel ≠ some channel) :
    Serialized users (s.unlock channel) := by
  refine ⟨h.spaced, h.past, fun worker held hheld => ?_, h.due⟩
  have hne : held ≠ channel := by
    rintro rfl
    exact hfree worker hheld
  simpa [AlertSystem.unlock, hne] using h.holds worker held hheld

/-- No two workers hold the lock of one channel. -/
theorem Serialized.channel_free (h : Serialized users s) {phase : CreationPhase} {channel : Nat}
    (hheld : (s.workers worker).channel = some channel) (hphase : phase.channel = none) (other : Nat) :
    ((s.setWorker worker phase).workers other).channel ≠ some channel := by
  intro hother
  by_cases hne : other = worker
  · subst hne
    simp [AlertSystem.setWorker, hphase] at hother
  · have hlock : s.locks channel = some other := by
      refine h.holds other channel ?_
      simpa [AlertSystem.setWorker, hne] using hother
    rw [h.holds worker channel hheld] at hlock
    exact hne (Option.some.inj hlock).symm

/-- A worker leaves the transaction and gives its lock back. -/
theorem Serialized.leave (h : Serialized users s) {phase : CreationPhase} {channel : Nat}
    (hheld : (s.workers worker).channel = some channel) (hphase : phase.channel = none)
    (hdue : phase.Due users s.alerts s.now) :
    Serialized users ((s.unlock channel).setWorker worker phase) := by
  have hset : Serialized users (s.setWorker worker phase) := by
    refine h.setWorker hdue fun held hchannel => ?_
    rw [hphase] at hchannel
    cases hchannel
  exact hset.unlock (h.channel_free hheld hphase)

theorem Serialized.write (h : Serialized users s) (id : Nat) (status : AlertStatus) :
    Serialized users { s with alerts := setStatus s.alerts id status } := by
  refine ⟨h.spaced.setStatus id status, fun alert halert => ?_, h.holds, fun worker => ?_⟩
  · obtain ⟨stored, hstored, -, htime⟩ := mem_setStatus halert
    rw [← htime]
    exact h.past stored hstored
  · exact (h.due worker).mono le_rfl fun alert halert => .inl (mem_setStatus halert)

theorem Serialized.append (h : Serialized users s) {new : Alert} (hpast : new.createdAt ≤ s.now)
    (hfree : ∀ worker, (s.workers worker).channel ≠ some new.key.channel)
    (hover : ∀ alert ∈ s.alerts, alert.key = new.key →
      alert.createdAt + minutes (alertInterval (users.user new.key.user)) ≤ new.createdAt) :
    Serialized users { s with alerts := s.alerts ++ [new] } := by
  refine ⟨?_, ?_, h.holds, fun worker => ?_⟩
  · refine List.pairwise_append.mpr ⟨h.spaced, List.pairwise_singleton _ _, ?_⟩
    intro first hfirst second hsecond hkey
    rw [List.mem_singleton.mp hsecond] at hkey ⊢
    have := hover first hfirst hkey
    exact (le_sub_iff_add_le'.mpr this).trans (le_abs_self _)
  · intro alert halert
    rcases List.mem_append.mp halert with hstored | hnew
    · exact h.past alert hstored
    · rw [List.mem_singleton.mp hnew]
      exact hpast
  · refine (h.due worker).mono le_rfl fun alert halert => ?_
    rcases List.mem_append.mp halert with hstored | hnew
    · exact .inl ⟨alert, hstored, rfl, rfl⟩
    · rw [List.mem_singleton.mp hnew]
      exact .inr (hfree worker)

theorem Serialized.acknowledge (h : Serialized users s) (id : Nat) :
    Serialized users (s.acknowledge id) := by
  unfold AlertSystem.acknowledge
  split
  · exact h.write id .acknowledged
  · exact h

theorem Serialized.resolve (h : Serialized users s) (id : Nat) : Serialized users (s.resolve id) := by
  unfold AlertSystem.resolve
  split
  · exact h.write id .resolved
  · exact h

/-- An alert that the search misses is either closed or old enough. -/
theorem over_of_recentAlerts {key : AlertKey} {now : Time} {interval : Nat}
    (hnone : recentAlerts alerts key now interval = [])
    (hclosed : ∀ alert ∈ alerts, alert.key = key → alert.status ≠ .pending → alert.status ≠ .sent →
      alert.createdAt + minutes interval ≤ now) :
    ∀ alert ∈ alerts, alert.key = key → alert.createdAt + minutes interval ≤ now := by
  intro alert halert hkey
  by_cases hopen : alert.status = .pending ∨ alert.status = .sent
  · have hold := List.filter_eq_nil_iff.mp hnone alert halert
    have hlt : alert.createdAt + minutes interval < now := by
      rcases hopen with hpending | hsent
      · simpa [hkey, hpending] using hold
      · simpa [hkey, hsent] using hold
    exact hlt.le
  · rw [not_or] at hopen
    exact hclosed alert halert hkey hopen.1 hopen.2

theorem Serialized.step (h : Serialized users s) {event : AlertEvent}
    (hsearch : SearchSuffices users s event) : Serialized users (s.step users event) := by
  cases event with
  | tick microseconds => exact h.tick microseconds
  | lock worker request =>
      simp only [AlertSystem.step]
      split
      · next hidle hfree =>
          have hlocked : Serialized users
              { s with locks := Function.update s.locks request.key.channel (some worker) } := by
            refine ⟨h.spaced, h.past, fun other channel hchannel => ?_, h.due⟩
            have hne : channel ≠ request.key.channel := by
              rintro rfl
              have := h.holds other _ hchannel
              rw [hfree] at this
              cases this
            simpa [hne] using h.holds other channel hchannel
          refine hlocked.setWorker trivial fun channel hchannel => ?_
          cases hchannel
          exact Function.update_self _ _ _
      · exact h
  | release worker =>
      simp only [AlertSystem.step]
      split
      · next request hphase => exact h.leave (by rw [hphase]; rfl) rfl trivial
      · next request hphase => exact h.leave (by rw [hphase]; rfl) rfl trivial
      · next alert hphase => exact h.leave (by rw [hphase]; rfl) rfl trivial
      · exact h
      · exact h
  | search worker =>
      simp only [AlertSystem.step]
      split
      · next request hphase =>
          have hheld : (s.workers worker).channel = some request.key.channel := by
            rw [hphase]
            rfl
          split
          · next hnone =>
              have hnone := List.isEmpty_iff.mp hnone
              refine h.setWorker ?_ fun channel hchannel => ?_
              · exact over_of_recentAlerts hnone (hsearch request hphase hnone)
              · exact h.holds worker channel (hheld.trans hchannel)
          · exact h.leave hheld rfl trivial
      · exact h
  | insert worker =>
      simp only [AlertSystem.step]
      split
      · next request hphase =>
          have hdue := h.due worker
          rw [hphase] at hdue
          have hnext : Serialized users { s with nextId := s.nextId + 1 } :=
            ⟨h.spaced, h.past, h.holds, h.due⟩
          refine hnext.setWorker ⟨le_rfl, hdue⟩ fun channel hchannel => h.holds worker channel ?_
          rw [hphase]
          exact hchannel
      · exact h
  | commit worker =>
      simp only [AlertSystem.step]
      split
      · next alert hphase =>
          have hheld : (s.workers worker).channel = some alert.key.channel := by
            rw [hphase]
            rfl
          have hdue := h.due worker
          rw [hphase] at hdue
          have hleft : Serialized users
              ((s.unlock alert.key.channel).setWorker worker (.emailing alert)) :=
            h.leave hheld rfl trivial
          exact hleft.append hdue.1 (h.channel_free hheld rfl) hdue.2
      · exact h
  | email worker outcome =>
      simp only [AlertSystem.step]
      split
      · next alert hphase =>
          split
          · exact h.setWorker trivial fun _ hchannel => by cases hchannel
          · exact h.setWorker trivial fun _ hchannel => by cases hchannel
          · exact (h.write alert.id .failed).setWorker trivial fun _ hchannel => by cases hchannel
          · exact (h.write alert.id .failed).setWorker trivial fun _ hchannel => by cases hchannel
      · exact h
  | acknowledge id => exact h.acknowledge id
  | resolve id => exact h.resolve id

theorem serialized_systemAt {events : Nat → AlertEvent} {i : Nat}
    (hsearch : ∀ j < i, SearchSuffices users (systemAt users events j) (events j)) :
    Serialized users (systemAt users events i) := by
  induction i with
  | zero => exact serialized_empty
  | succ i ih =>
      have hbefore := ih fun j hj => hsearch j (hj.trans i.lt_succ_self)
      exact hbefore.step (hsearch i i.lt_succ_self)

/-- A run goes on from the first event that misses a recent alert to a second alert within the
interval. -/
def insertAfter (events : Nat → AlertEvent) (i worker : Nat) (j : Nat) : AlertEvent :=
  if j ≤ i then events j else if j = i + 1 then .insert worker else .commit worker

theorem systemAt_congr {events events' : Nat → AlertEvent} {i : Nat}
    (h : ∀ j < i, events j = events' j) : systemAt users events i = systemAt users events' i := by
  induction i with
  | zero => rfl
  | succ i ih =>
      unfold systemAt
      rw [ih fun j hj => h j (hj.trans i.lt_succ_self), h i i.lt_succ_self]

/-- Where the search misses a recent alert, the second alert is committed at once. -/
theorem alerts_insertAfter {events : Nat → AlertEvent} {i : Nat} {request : AlertCreation}
    (hevent : events i = .search worker)
    (hphase : (systemAt users events i).workers worker = .locked request)
    (hnone : recentAlerts (systemAt users events i).alerts request.key (systemAt users events i).now
      (alertInterval (users.user request.key.user)) = []) :
    (systemAt users (insertAfter events i worker) (i + 3)).alerts =
      (systemAt users events i).alerts ++ [(systemAt users events i).newAlert request] := by
  have hsame : systemAt users (insertAfter events i worker) i = systemAt users events i := by
    refine systemAt_congr fun j hj => ?_
    exact if_pos hj.le
  have hsearch : insertAfter events i worker i = .search worker := by
    rw [← hevent]
    exact if_pos le_rfl
  have hinsert : insertAfter events i worker (i + 1) = .insert worker := by
    unfold insertAfter
    rw [if_neg (by omega), if_pos rfl]
  have hcommit : insertAfter events i worker (i + 2) = .commit worker := by
    unfold insertAfter
    rw [if_neg (by omega), if_neg (by omega)]
  generalize systemAt users events i = s at hsame hphase hnone ⊢
  have hfound : systemAt users (insertAfter events i worker) (i + 1) =
      s.setWorker worker (.unmatched request) := by
    simp only [systemAt, hsame, hsearch, AlertSystem.step, hphase, hnone, List.isEmpty_nil, if_true]
  have hinserted : systemAt users (insertAfter events i worker) (i + 2) =
      { s.setWorker worker (.unmatched request) with nextId := s.nextId + 1 }.setWorker worker
        (.inserted (s.newAlert request)) := by
    rw [systemAt, hfound, hinsert]
    simp only [AlertSystem.step, AlertSystem.setWorker, Function.update_self]
    rfl
  rw [systemAt, hinserted, hcommit]
  simp only [AlertSystem.step, AlertSystem.setWorker, Function.update_self]
  rfl

end Interval

/-- Alerts of one key keep the interval of their user in every run in which no search misses a
recent alert that is not pending or sent any more. From the first event that misses one, the run can
go on to an alert within the interval. -/
theorem alert_interval_kept (users : AlertUsers) (events : Nat → AlertEvent) :
    ((∀ i, SearchSuffices users (systemAt users events i) (events i)) →
      ∀ i, Spaced users (systemAt users events i).alerts) ∧
    ∀ i, (∀ j < i, SearchSuffices users (systemAt users events j) (events j)) →
      ¬ SearchSuffices users (systemAt users events i) (events i) →
      ∃ continued : Nat → AlertEvent, (∀ j ≤ i, continued j = events j) ∧
        ¬ ∀ j, Spaced users (systemAt users continued j).alerts := by
  constructor
  · intro h i
    exact (serialized_systemAt fun j _ => h j).spaced
  · intro i hbefore hmisses
    cases hevent : events i with
    | search worker =>
        rw [hevent] at hmisses
        simp only [SearchSuffices, not_forall] at hmisses
        obtain ⟨request, hphase, hnone, alert, halert, hkey, -, -, hrecent⟩ := hmisses
        refine ⟨insertAfter events i worker, fun j hj => if_pos hj, fun hspaced => ?_⟩
        have hspaced := hspaced (i + 3)
        rw [alerts_insertAfter hevent hphase hnone] at hspaced
        have hlate : minutes (alertInterval (users.user request.key.user)) ≤
            |(systemAt users events i).now - alert.createdAt| :=
          (List.pairwise_append.mp hspaced).2.2 alert halert _ (List.mem_singleton_self _) hkey
        have hpast := (serialized_systemAt hbefore).past alert halert
        rw [abs_of_nonneg (sub_nonneg.mpr hpast)] at hlate
        exact hrecent (le_sub_iff_add_le'.mp hlate)
    | tick _ | lock _ _ | release _ | insert _ | commit _ | email _ _ | acknowledge _ | resolve _ =>
        rw [hevent] at hmisses
        exact absurd trivial hmisses

/-- A worker creates an alert, a user acknowledges it, and another worker creates the next one later. -/
def createdTwice (microseconds : Nat) : Nat → AlertEvent
  | 0 => .lock 1 ⟨⟨7, 3, .batteryLow⟩, 2, "Battery low"⟩
  | 1 => .search 1
  | 2 => .insert 1
  | 3 => .commit 1
  | 4 => .acknowledge 1
  | 5 => .tick microseconds
  | 6 => .lock 2 ⟨⟨7, 3, .batteryLow⟩, 2, "Battery low"⟩
  | 7 => .search 2
  | 8 => .insert 2
  | 9 => .commit 2
  | _ => .email 1 .sent

theorem alert_interval_kept_later :
    ∀ i, Spaced ⟨fun _ => {}, fun _ _ => true⟩
      (systemAt ⟨fun _ => {}, fun _ _ => true⟩ (createdTwice 300000000) i).alerts := by
  refine (alert_interval_kept ⟨fun _ => {}, fun _ _ => true⟩ (createdTwice 300000000)).1 fun i => ?_
  match i with
  | 1 =>
      intro request _ _ alert halert
      have hnone :
          (systemAt ⟨fun _ => {}, fun _ _ => true⟩ (createdTwice 300000000) 1).alerts = [] := by
        decide +kernel
      rw [hnone] at halert
      cases halert
  | 7 =>
      intro request hphase _ alert halert _ _ _
      have hone : (systemAt ⟨fun _ => {}, fun _ _ => true⟩ (createdTwice 300000000) 7).alerts =
          [⟨1, ⟨7, 3, .batteryLow⟩, 2, "Battery low", .acknowledged, 0⟩] := by
        decide +kernel
      have hnow : (systemAt ⟨fun _ => {}, fun _ _ => true⟩ (createdTwice 300000000) 7).now =
          300000000 := by
        decide +kernel
      rw [hone, List.mem_singleton] at halert
      rw [hnow, halert]
      show (0 : Time) + minutes 5 ≤ 300000000
      decide +kernel
  | 0 | 2 | 3 | 4 | 5 | 6 | 8 | 9 => trivial
  | _ + 10 => trivial

theorem alerts_minute_apart :
    ¬ ∀ i, Spaced ⟨fun _ => {}, fun _ _ => true⟩
      (systemAt ⟨fun _ => {}, fun _ _ => true⟩ (createdTwice 60000000) i).alerts := by
  intro h
  have hspaced := h 10
  have htwo : (systemAt ⟨fun _ => {}, fun _ _ => true⟩ (createdTwice 60000000) 10).alerts =
      [⟨1, ⟨7, 3, .batteryLow⟩, 2, "Battery low", .acknowledged, 0⟩,
        ⟨2, ⟨7, 3, .batteryLow⟩, 2, "Battery low", .pending, 60000000⟩] := by
    decide +kernel
  rw [htwo] at hspaced
  have hlate := (List.pairwise_cons.mp hspaced).1 _ (List.mem_singleton_self _) rfl
  exact absurd hlate (by decide +kernel)

end Micboard
