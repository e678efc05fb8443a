import Micboard.LibrarySchedule
import Mathlib.Algebra.Order.Group.Nat
import Mathlib.Algebra.Ring.Nat

/-! A round of realtime subscriptions. The selected devices are put into a queue, a bounded number
of workers take them from it, and each subscription runs under a timeout. A schedule says which
worker goes on next and how each subscription ends; nothing cancels the round from outside. -/

namespace Micboard

open Library.Schedule

/-- How a subscription ends. -/
inductive SubscriptionEnding where
  | returned
  | timeoutError
  | failed
  | cancelled
  deriving DecidableEq, Repr

/-- How the block of `asyncio.timeout` ends around a subscription: a cancellation that its deadline
has caused becomes a `TimeoutError`. -/
def leaveTimeout (expired : Bool) : SubscriptionEnding → SubscriptionEnding
  | .cancelled => if expired then .timeoutError else .cancelled
  | ending => ending

structure EndedSubscription (Item : Type*) where
  item : Item
  expired : Bool
  ending : SubscriptionEnding

/-- How its block ended. -/
def EndedSubscription.outcome {Item : Type*} (ended : EndedSubscription Item) : SubscriptionEnding :=
  leaveTimeout ended.expired ended.ending

section Round

variable {Item : Type*}

inductive RoundWorker (Item : Type*) where
  | idle
  | running (item : Item) (expired : Bool)
  | returned
  | cancelled
  | raised

/-- The device whose subscription a worker runs. -/
def RoundWorker.item? : RoundWorker Item → Option Item
  | .running item _ => some item
  | _ => none

def RoundWorker.isReturned : RoundWorker Item → Bool
  | .returned => true
  | _ => false

/-- What a worker still has to do with its device, or to find that there is none. -/
def RoundWorker.work : RoundWorker Item → Nat
  | .running _ false => 3
  | .running _ true => 2
  | .idle => 1
  | .returned | .cancelled | .raised => 0

/-- The queue with its count of unfinished tasks, the workers and the flag of the round, and the
subscriptions that have started and ended. `aborted` says that `gather` has raised, so that the
workers are being cancelled. -/
structure RoundState (Item : Type*) where
  queue : List Item
  unfinished : Nat
  workers : List (RoundWorker Item)
  timedOut : Bool := false
  aborted : Bool := false
  started : List Item := []
  ended : List (EndedSubscription Item) := []

/-- `queue.put_nowait`; a full queue raises. -/
def putNowait (maxsize : Nat) (queue : List Item) (item : Item) : Option (List Item) :=
  if 0 < maxsize ∧ maxsize ≤ queue.length then none else some (queue ++ [item])

/-- The start of `_run_subscription_round`. -/
def startRound (items : List Item) (maxConcurrency : Nat) : Option (RoundState Item) := do
  let queue ← items.foldlM (putNowait items.length) []
  let workerCount := min maxConcurrency items.length
  some { queue, unfinished := queue.length, workers := List.replicate workerCount .idle }

/-- What can happen next: a worker looks for its next device, the deadline of its subscription
passes, its subscription ends, or it is cancelled between two devices. -/
inductive RoundEvent where
  | take (worker : Nat)
  | expire (worker : Nat)
  | finish (worker : Nat) (ending : SubscriptionEnding)
  | cancel (worker : Nat)

namespace RoundState

/-- `get_nowait`, and the start of the subscription. -/
def take (s : RoundState Item) (worker : Nat) : RoundState Item :=
  match s.queue with
  | [] => { s with workers := s.workers.set worker .returned }
  | item :: rest =>
    { s with
      queue := rest
      workers := s.workers.set worker (.running item false)
      started := s.started ++ [item] }

/-- The end of a subscription: what its block raises is handled, and `task_done` counts the device.
It raises where no device is unfinished; that or a cancellation leaves the worker. -/
def finish (s : RoundState Item) (worker : Nat) (subscription : EndedSubscription Item) :
    RoundState Item :=
  let timedOut := s.timedOut || subscription.outcome = .timeoutError
  let ended := s.ended ++ [subscription]
  match s.unfinished with
  | 0 => { s with timedOut, ended, aborted := true, workers := s.workers.set worker .raised }
  | unfinished + 1 =>
    let next := if subscription.outcome = .cancelled then .cancelled else .idle
    { s with timedOut, ended, unfinished, workers := s.workers.set worker next }

/-- One event, where it is possible: tasks are only cancelled by their deadline or after `gather` has
raised. -/
def step (s : RoundState Item) : RoundEvent → Option (RoundState Item)
  | .take worker =>
    match s.workers[worker]? with
    | some .idle => some (s.take worker)
    | _ => none
  | .expire worker =>
    match s.workers[worker]? with
    | some (.running item false) => some { s with workers := s.workers.set worker (.running item true) }
    | _ => none
  | .finish worker ending =>
    match s.workers[worker]? with
    | some (.running item expired) =>
      if ending = .cancelled ∧ !expired ∧ !s.aborted then none
      else some (s.finish worker { item, expired, ending })
    | _ => none
  | .cancel worker =>
    match s.workers[worker]? with
    | some .idle =>
        if s.aborted then some { s with workers := s.workers.set worker .cancelled } else none
    | _ => none

/-- What the round returns, once every worker has returned. -/
def result (s : RoundState Item) : Option Bool :=
  if s.workers.all RoundWorker.isReturned then some s.timedOut else none

def inFlight (s : RoundState Item) : List Item := s.workers.filterMap RoundWorker.item?

structure Sound (items : List Item) (workerCount : Nat) (s : RoundState Item) : Prop where
  fifo : s.started ++ s.queue = items
  workerCount : s.workers.length = workerCount
  unfinished : s.unfinished = s.queue.length + s.inFlight.length
  conserved : s.started.Perm (s.ended.map EndedSubscription.item ++ s.inFlight)
  drained : .returned ∈ s.workers → s.queue = []
  alive : .cancelled ∉ s.workers ∧ .raised ∉ s.workers
  undisturbed : s.aborted = false
  notCancelled : ∀ subscription ∈ s.ended, subscription.outcome ≠ .cancelled
  reported : s.timedOut = true ↔ ∃ subscription ∈ s.ended, subscription.outcome = .timeoutError

/-- What an event does in a sound state: one worker goes from one phase to the next. -/
inductive Move (s : RoundState Item) (workers : List (RoundWorker Item)) :
    RoundWorker Item → RoundWorker Item → RoundState Item → Prop
  | taken {item : Item} {rest : List Item} (queue : s.queue = item :: rest) :
      Move s workers .idle (.running item false)
        { s with queue := rest, workers, started := s.started ++ [item] }
  | drained (queue : s.queue = []) : Move s workers .idle .returned { s with queue := [], workers }
  | expired {item : Item} : Move s workers (.running item false) (.running item true) { s with workers }
  | finished {subscription : EndedSubscription Item} {unfinished : Nat}
      (counted : s.unfinished = unfinished + 1) (notCancelled : subscription.outcome ≠ .cancelled) :
      Move s workers (.running subscription.item subscription.expired) .idle
        { s with
          timedOut := s.timedOut || subscription.outcome = .timeoutError
          ended := s.ended ++ [subscription]
          unfinished
          workers }

variable {items : List Item} {workerCount : Nat} {s t : RoundState Item}

theorem inFlight_perm {worker : RoundWorker Item} {others : List (RoundWorker Item)}
    (h : s.workers.Perm (worker :: others)) :
    s.inFlight.Perm (worker.item?.toList ++ others.filterMap RoundWorker.item?) := by
  refine (h.filterMap RoundWorker.item?).trans (.of_eq ?_)
  cases worker <;> rfl

theorem Sound.step_move (hs : s.Sound items workerCount) {event : RoundEvent}
    (h : s.step event = some t) :
    ∃ old new others, s.workers.Perm (old :: others) ∧ t.workers.Perm (new :: others) ∧
      Move s t.workers old new t := by
  cases event with
  | take worker =>
      simp only [step] at h
      split at h
      next hworker =>
        obtain rfl := Option.some.inj h
        obtain ⟨others, hold, hnew⟩ := exists_others hworker
        cases hqueue : s.queue with
        | nil =>
            simp only [take, hqueue]
            exact ⟨_, _, others, hold, hnew _, .drained hqueue⟩
        | cons item rest =>
            simp only [take, hqueue]
            exact ⟨_, _, others, hold, hnew _, .taken hqueue⟩
      next => cases h
  | expire worker =>
      simp only [step] at h
      split at h
      next item hworker =>
        obtain rfl := Option.some.inj h
        obtain ⟨others, hold, hnew⟩ := exists_others hworker
        exact ⟨_, _, others, hold, hnew _, .expired⟩
      next => cases h
  | finish worker ending =>
      simp only [step] at h
      split at h
      next item expired hworker =>
        split at h
        next => cases h
        next hown =>
          obtain rfl := Option.some.inj h
          obtain ⟨others, hold, hnew⟩ := exists_others hworker
          have hcancelled : EndedSubscription.outcome ⟨item, expired, ending⟩ ≠ .cancelled := by
            rw [hs.undisturbed] at hown
            cases ending <;> cases expired <;> simp_all [EndedSubscription.outcome, leaveTimeout]
          obtain ⟨unfinished, hunfinished⟩ : ∃ unfinished, s.unfinished = unfinished + 1 := by
            have hlength := (inFlight_perm hold).length_eq
            have hcount := hs.unfinished
            rw [List.length_append, RoundWorker.item?, Option.toList_some,
              List.length_singleton] at hlength
            exact Nat.exists_eq_succ_of_ne_zero (by omega)
          simp only [finish, hunfinished, if_neg hcancelled]
          exact ⟨_, _, others, hold, hnew _, .finished hunfinished hcancelled⟩
      next => cases h
  | cancel worker =>
      simp only [step] at h
      split at h
      next =>
        rw [hs.undisturbed] at h
        cases h
      next => cases h

theorem mem_workers_of_move {old new other : RoundWorker Item} {others : List (RoundWorker Item)}
    (hold : s.workers.Perm (old :: others)) (hnew : t.workers.Perm (new :: others))
    (h : other ∈ t.workers) : other = new ∨ other ∈ s.workers := by
  rcases List.mem_cons.mp (hnew.mem_iff.mp h) with rfl | hmem
  · exact .inl rfl
  · exact .inr (hold.mem_iff.mpr (List.mem_cons_of_mem _ hmem))

theorem Sound.after_step (hs : s.Sound items workerCount) {event : RoundEvent}
    (h : s.step event = some t) : t.Sound items workerCount := by
  obtain ⟨old, new, others, hold, hnew, hmove⟩ := hs.step_move h
  have hcount : t.workers.length = workerCount := by
    rw [hnew.length_eq, List.length_cons, ← hs.workerCount, hold.length_eq, List.length_cons]
  have hbefore := inFlight_perm hold
  have hafter := inFlight_perm hnew
  have hmem {other} := @mem_workers_of_move _ s t old new other others hold hnew
  have hunfinished := hs.unfinished
  rw [hbefore.length_eq] at hunfinished
  have hconserved := hs.conserved.trans (hbefore.append_left _)
  have halive (hcancelled : .cancelled ≠ new) (hraised : .raised ≠ new) :
      .cancelled ∉ t.workers ∧ .raised ∉ t.workers :=
    ⟨fun h => (hmem h).elim hcancelled hs.alive.1, fun h => (hmem h).elim hraised hs.alive.2⟩
  generalize t.workers = workers at hmove hnew hcount hmem halive
  cases hmove with
  | @taken item rest queue =>
      have hqueue : s.started ++ [item] ++ rest = items := by
        rw [List.append_assoc, List.singleton_append, ← queue]
        exact hs.fifo
      refine ⟨hqueue, hcount, ?_, ?_, ?_, halive nofun nofun, hs.undisturbed, hs.notCancelled,
        hs.reported⟩
      · rw [hafter.length_eq, hunfinished, queue]
        simp [RoundWorker.item?]
        omega
      · refine List.Perm.trans ?_ (hafter.symm.append_left _)
        refine (hconserved.append_right _).trans ?_
        rw [List.append_assoc]
        exact List.perm_append_comm.append_left _
      · intro hreturned
        have hempty := hs.drained ((hmem hreturned).resolve_left nofun)
        rw [queue] at hempty
        cases hempty
  | drained queue =>
      refine ⟨queue ▸ hs.fifo, hcount, ?_, ?_, fun _ => rfl, halive nofun nofun, hs.undisturbed,
        hs.notCancelled, hs.reported⟩
      · rw [hafter.length_eq, hunfinished, queue]
        rfl
      · exact hconserved.trans (hafter.symm.append_left _)
  | expired =>
      refine ⟨hs.fifo, hcount, ?_, ?_, ?_, halive nofun nofun, hs.undisturbed, hs.notCancelled,
        hs.reported⟩
      · rw [hafter.length_eq, hunfinished]
        rfl
      · exact hconserved.trans (hafter.symm.append_left _)
      · exact fun hreturned => hs.drained ((hmem hreturned).resolve_left nofun)
  | @finished subscription unfinished counted notCancelled =>
      refine ⟨hs.fifo, hcount, ?_, ?_, ?_, halive nofun nofun, hs.undisturbed, ?_, ?_⟩
      · rw [hafter.length_eq]
        rw [counted] at hunfinished
        simp [RoundWorker.item?] at hunfinished ⊢
        omega
      · refine List.Perm.trans ?_ (hafter.symm.append_left _)
        rw [List.map_append, List.append_assoc]
        exact hconserved
      · exact fun hreturned => hs.drained ((hmem hreturned).resolve_left nofun)
      · intro ended hended
        rcases List.mem_append.mp hended with hended | hended
        · exact hs.notCancelled ended hended
        · obtain rfl := List.mem_singleton.mp hended
          exact notCancelled
      · simp [hs.reported, or_and_right, exists_or]

def work (s : RoundState Item) : Nat :=
  3 * s.queue.length + (s.workers.map RoundWorker.work).sum

theorem work_of_perm {worker : RoundWorker Item} {others : List (RoundWorker Item)}
    (h : s.workers.Perm (worker :: others)) :
    s.work = 3 * s.queue.length + (worker.work + (others.map RoundWorker.work).sum) := by
  rw [work, (h.map RoundWorker.work).sum_nat, List.map_cons, List.sum_cons]

theorem Sound.work_lt (hs : s.Sound items workerCount) {event : RoundEvent}
    (h : s.step event = some t) : t.work < s.work := by
  obtain ⟨old, new, others, hold, hnew, hmove⟩ := hs.step_move h
  rw [work_of_perm hold, work_of_perm hnew]
  generalize t.workers = workers at hmove
  cases hmove with
  | taken queue =>
      simp only [queue, List.length_cons, RoundWorker.work]
      omega
  | drained queue =>
      simp only [queue, RoundWorker.work]
      omega
  | expired =>
      simp only [RoundWorker.work]
      omega
  | @finished subscription _ _ _ =>
      cases subscription.expired
      all_goals
        simp only [RoundWorker.work]
        omega

/-- A round with a worker that has not returned can go on. -/
theorem Sound.progress (hs : s.Sound items workerCount) (h : ¬s.result.isSome) :
    ∃ event t, s.step event = some t := by
  have hnot : ¬s.workers.all RoundWorker.isReturned = true := by
    intro hall
    exact h (by rw [result, if_pos hall]; rfl)
  obtain ⟨worker, hworker, hphase⟩ : ∃ worker ∈ s.workers, ¬worker.isReturned = true := by
    simpa only [List.all_eq_true, not_forall, exists_prop] using hnot
  obtain ⟨n, hn⟩ := List.mem_iff_getElem?.mp hworker
  cases worker with
  | idle => exact ⟨.take n, s.take n, by rw [step, hn]⟩
  | running item expired =>
      refine ⟨.finish n .returned, s.finish n ⟨item, expired, .returned⟩, ?_⟩
      rw [step, hn]
      rfl
  | returned => exact absurd rfl hphase
  | cancelled => exact absurd hworker hs.alive.1
  | raised => exact absurd hworker hs.alive.2

theorem Sound.complete (hs : s.Sound items workerCount) (hworkers : items ≠ [] → 0 < workerCount)
    {timedOut : Bool} (h : s.result = some timedOut) :
    s.started = items ∧ s.inFlight = [] ∧ s.timedOut = timedOut := by
  rw [result] at h
  split at h
  next hall =>
    have hreturned : ∀ worker ∈ s.workers, worker = .returned := by
      intro worker hworker
      have hphase := List.all_eq_true.mp hall worker hworker
      cases worker with
      | returned => rfl
      | idle | running | cancelled | raised => cases hphase
    have hqueue : s.queue = [] := by
      cases hitems : items with
      | nil =>
          have hfifo := hs.fifo
          rw [hitems] at hfifo
          exact (List.append_eq_nil_iff.mp hfifo).2
      | cons item rest =>
          have hpos := hworkers (hitems ▸ List.cons_ne_nil item rest)
          rw [← hs.workerCount] at hpos
          obtain ⟨worker, hworker⟩ := List.exists_mem_of_length_pos hpos
          exact hs.drained (hreturned worker hworker ▸ hworker)
    refine ⟨?_, ?_, Option.some.inj h⟩
    · have hfifo := hs.fifo
      rw [hqueue, List.append_nil] at hfifo
      exact hfifo
    · rw [inFlight, List.filterMap_eq_nil_iff]
      intro worker hworker
      rw [hreturned worker hworker]
      rfl
  next => cases h

end RoundState

/-! ### Every schedule -/

theorem fillQueue (items : List Item) : items.foldlM (putNowait items.length) [] = some items := by
  suffices h : ∀ rest seen, items = seen ++ rest →
      rest.foldlM (putNowait items.length) seen = some items from h items [] rfl
  intro rest
  induction rest with
  | nil =>
      intro seen hseen
      rw [hseen, List.append_nil]
      rfl
  | cons item rest ih =>
      intro seen hseen
      have hroom : ¬(0 < items.length ∧ items.length ≤ seen.length) := by
        have hlength := congrArg List.length hseen
        rw [List.length_append, List.length_cons] at hlength
        omega
      rw [List.foldlM_cons, putNowait, if_neg hroom]
      exact ih (seen ++ [item]) (by rw [hseen, List.append_assoc, List.singleton_append])

def RoundState.start (items : List Item) (maxConcurrency : Nat) : RoundState Item where
  queue := items
  unfinished := items.length
  workers := List.replicate (min maxConcurrency items.length) .idle

theorem startRound_eq (items : List Item) (maxConcurrency : Nat) :
    startRound items maxConcurrency = some (.start items maxConcurrency) := by
  rw [startRound, fillQueue]
  rfl

theorem RoundState.sound_start (items : List Item) (maxConcurrency : Nat) :
    (RoundState.start items maxConcurrency).Sound items (min maxConcurrency items.length) := by
  have hidle : ∀ worker ∈ (start items maxConcurrency).workers, worker = .idle :=
    fun worker hworker => List.eq_of_mem_replicate hworker
  have hinFlight : (start items maxConcurrency).inFlight = [] := by
    rw [inFlight, List.filterMap_eq_nil_iff]
    intro worker hworker
    rw [hidle worker hworker]
    rfl
  refine ⟨rfl, List.length_replicate, ?_, ?_, ?_, ⟨?_, ?_⟩, rfl, nofun, ?_⟩
  · rw [hinFlight]
    rfl
  · rw [hinFlight]
    exact .refl _
  · exact fun h => absurd (hidle _ h) nofun
  · exact fun h => absurd (hidle _ h) nofun
  · exact fun h => absurd (hidle _ h) nofun
  · exact ⟨nofun, fun ⟨_, h, _⟩ => absurd h List.not_mem_nil⟩

/-- A subscription that its deadline has ended, or that has raised `TimeoutError`. -/
def EndedSubscription.TimedOut (subscription : EndedSubscription Item) : Prop :=
  (subscription.expired = true ∧ subscription.ending = .cancelled) ∨
    subscription.ending = .timeoutError

theorem EndedSubscription.timedOut_iff (subscription : EndedSubscription Item) :
    subscription.TimedOut ↔ subscription.outcome = .timeoutError := by
  obtain ⟨item, expired, ending⟩ := subscription
  cases ending <;> cases expired <;> simp [TimedOut, outcome, leaveTimeout]

/-- What the round guarantees after a schedule: no subscription is started twice or out of turn, at
most `maxConcurrency` are in flight, each one that has started is in flight or has ended on its own,
and the flag says whether one of them has timed out. -/
structure RoundState.Guarantees (items : List Item) (maxConcurrency : Nat)
    (s : RoundState Item) : Prop where
  started : s.started ++ s.queue = items
  inFlight : s.inFlight.length ≤ maxConcurrency
  ended : s.started.Perm (s.ended.map EndedSubscription.item ++ s.inFlight)
  undisturbed : s.aborted = false ∧ ∀ subscription ∈ s.ended, subscription.outcome ≠ .cancelled
  timedOut : s.timedOut = true ↔ ∃ subscription ∈ s.ended, subscription.TimedOut

theorem RoundState.Sound.guarantees {items : List Item} {maxConcurrency : Nat} {s : RoundState Item}
    (hs : s.Sound items (min maxConcurrency items.length)) : s.Guarantees items maxConcurrency where
  started := hs.fifo
  inFlight := by
    have hle := List.length_filterMap_le RoundWorker.item? s.workers
    have hcount := hs.workerCount
    rw [RoundState.inFlight]
    omega
  ended := hs.conserved
  undisturbed := ⟨hs.undisturbed, hs.notCancelled⟩
  timedOut := by
    rw [hs.reported]
    exact exists_congr fun subscription =>
      and_congr_right fun _ => subscription.timedOut_iff.symm

theorem RoundState.work_start (items : List Item) (maxConcurrency : Nat) :
    (RoundState.start items maxConcurrency).work = 3 *
      items.length + min maxConcurrency items.length := by
  simp [work, start, RoundWorker.work]

/-- **In every schedule a round of subscriptions starts each device once, keeps at most
`maxConcurrency` subscriptions in flight, and lets every subscription end on its own. Every schedule
is finite and can be completed, and a completed round has ended the subscriptions of all devices and
reports a timeout exactly when one of them has timed out.** -/
theorem subscriptionRound_spec (items : List Item) {maxConcurrency : Nat}
    (hpositive : 0 < maxConcurrency) :
    ∃ start, startRound items maxConcurrency = some start ∧
      ∀ events s, after RoundState.step start events = some s →
        s.Guarantees items maxConcurrency ∧
        events.length ≤ 4 * items.length ∧
        (∃ more t, after RoundState.step s more = some t ∧ t.result.isSome) ∧
        ∀ timedOut, s.result = some timedOut →
          s.started = items ∧ (s.ended.map EndedSubscription.item).Perm items ∧
          (timedOut = true ↔ ∃ subscription ∈ s.ended, subscription.TimedOut) := by
  refine ⟨_, startRound_eq items maxConcurrency, ?_⟩
  intro events s hrun
  have hstart := RoundState.sound_start items maxConcurrency
  have hstep (s : RoundState Item) (event : RoundEvent) (t : RoundState Item)
      (hs : s.Sound items (min maxConcurrency items.length)) (h : s.step event = some t) :=
    hs.after_step h
  have hwork (s : RoundState Item) (event : RoundEvent) (t : RoundState Item)
      (hs : s.Sound items (min maxConcurrency items.length)) (h : s.step event = some t) :=
    hs.work_lt h
  have hsound := after_invariant hstep hstart hrun
  refine ⟨hsound.guarantees, ?_, ?_, ?_⟩
  · have hbound := length_add_work_le hstep hwork hstart hrun
    rw [RoundState.work_start] at hbound
    omega
  · exact exists_completion hstep hwork (fun s hs => hs.progress) hsound
  · intro timedOut hresult
    have hworkers : items ≠ [] → 0 < min maxConcurrency items.length := by
      intro hitems
      have hlength := List.length_pos_iff.mpr hitems
      omega
    obtain ⟨hstarted, hnone, rfl⟩ := hsound.complete hworkers hresult
    refine ⟨hstarted, ?_, hsound.guarantees.timedOut⟩
    have hended := hsound.conserved
    rw [hnone, List.append_nil, hstarted] at hended
    exact hended.symm

/-- Two workers for three devices, the first of which fails and the second of which times out. -/
theorem subscriptionRound_spec_three :
    ∃ start s, startRound ["a", "b", "c"] 2 = some start ∧
      after RoundState.step start [.take 0, .take 1, .finish 0 .failed, .take 0, .expire 1,
        .finish 1 .cancelled, .take 1, .finish 0 .returned, .take 0] = some s ∧
      s.started = ["a", "b", "c"] ∧ s.result = some true ∧
      ∃ subscription ∈ s.ended, subscription.TimedOut := by
  obtain ⟨start, hstart, hspec⟩ := @subscriptionRound_spec String ["a", "b", "c"] 2 (by decide)
  obtain rfl := Option.some.inj hstart
  obtain ⟨-, -, -, hcomplete⟩ := hspec [.take 0, .take 1, .finish 0 .failed, .take 0, .expire 1,
    .finish 1 .cancelled, .take 1, .finish 0 .returned, .take 0] _ rfl
  obtain ⟨hstarted, -, hreported⟩ := hcomplete true rfl
  exact ⟨_, _, rfl, rfl, hstarted, rfl, hreported.mp rfl⟩

end Round

end Micboard
