import Micboard.LibraryRun
import Micboard.LibraryWindow
import Mathlib.Algebra.Order.Ring.Rat
import Mathlib.Data.Rat.Floor

/-! The request rate limit. The times of the admitted requests are kept in the cache under one key,
and each call reads them, drops those that no longer count, and writes them back with its own.
Workers take these steps one by one and interleave them. -/

namespace Micboard

open Library Library.Window

/-- `int(x)`. -/
def truncated (x : ℚ) : Int := if 0 ≤ x then ⌊x⌋ else ⌈x⌉

/-- What `check_rate_limit` returns, with the times it goes on with, or the `ValueError` of
`min([])`. -/
inductive RateDecision where
  | allowed (requestTimes : List ℚ)
  | rejected (retryAfter : Int) (requestTimes : List ℚ)
  | valueError
  deriving DecidableEq

/-- `check_rate_limit` at the time `now` over the times that the cache holds. -/
def checkRateLimit (maxRequests windowSeconds : Nat) (now : ℚ) (cached : List ℚ) : RateDecision :=
  let requestTimes := cached.filter fun t => now - t < windowSeconds
  if maxRequests ≤ requestTimes.length then
    match requestTimes.min? with
    | some oldestRequest =>
      .rejected (truncated (windowSeconds - (now - oldestRequest)) + 1) requestTimes
    | none => .valueError
  else .allowed (requestTimes ++ [now])

/-- The cache entry of the key. -/
structure RateEntry where
  requestTimes : List ℚ
  expires : ℚ

/-- Where a worker is: it has read the clock, or has been allowed and is about to write. Both
remember how many calls had been admitted when the clock was read. -/
inductive RatePhase where
  | idle
  | started (now : ℚ) (admittedBefore : Nat)
  | deciding (now : ℚ) (requestTimes : List ℚ) (admittedBefore : Nat)

/-- The clock, the entry, the workers and the times of the calls that were admitted, in the order of
their writes. -/
structure RateState where
  clock : ℚ := 0
  entry : Option RateEntry := none
  worker : Nat → RatePhase := fun _ => .idle
  admitted : List ℚ := []

inductive RateStep where
  | advance (clock : ℚ)
  | start (worker : Nat)
  | read (worker : Nat)
  | write (worker : Nat)
  deriving DecidableEq

namespace RateState

/-- `cache.get(window_key, [])`. -/
def cached (s : RateState) : List ℚ :=
  match s.entry with
  | some entry => if s.clock < entry.expires then entry.requestTimes else []
  | none => []

def setWorker (s : RateState) (worker : Nat) (phase : RatePhase) : RateState :=
  { s with worker := Function.update s.worker worker phase }

/-- A step of one worker; a worker that is not where the step starts does nothing. -/
def step (maxRequests windowSeconds : Nat) (s : RateState) : RateStep → RateState
  | .advance clock => { s with clock := max s.clock clock }
  | .start worker =>
    match s.worker worker with
    | .idle => s.setWorker worker (.started s.clock s.admitted.length)
    | _ => s
  | .read worker =>
    match s.worker worker with
    | .started now admittedBefore =>
      match checkRateLimit maxRequests windowSeconds now s.cached with
      | .allowed requestTimes => s.setWorker worker (.deciding now requestTimes admittedBefore)
      | .rejected _ _ | .valueError => s.setWorker worker .idle
    | _ => s
  | .write worker =>
    match s.worker worker with
    | .deciding now requestTimes _ =>
      { s.setWorker worker .idle with
        entry := some ⟨requestTimes, s.clock + (windowSeconds + 1)⟩
        admitted := s.admitted ++ [now] }
    | _ => s

def run (maxRequests windowSeconds : Nat) (s : RateState) (steps : List RateStep) : RateState :=
  steps.foldl (step maxRequests windowSeconds) s

/-- A caller that was rejected is admitted when it comes back after `retry_after` and no call was
admitted meanwhile. -/
def RetryHonoured (maxRequests windowSeconds : Nat) (s : RateState) : Prop :=
  ∀ worker now before retryAfter requestTimes more again now' before',
    s.worker worker = .started now before →
    checkRateLimit maxRequests windowSeconds now s.cached = .rejected retryAfter requestTimes →
    (s.run maxRequests windowSeconds (.read worker :: more)).admitted = s.admitted →
    (s.run maxRequests windowSeconds (.read worker :: more)).worker again = .started now' before' →
    now + retryAfter ≤ now' →
      ∃ requestTimes', checkRateLimit maxRequests windowSeconds now'
        (s.run maxRequests windowSeconds (.read worker :: more)).cached = .allowed requestTimes'

/-- No other call was admitted since the clock reading of a call that is now written, and a call
that finds the entry expired finds none of its times still counted. -/
def Undisturbed (windowSeconds : Nat) (s : RateState) : RateStep → Prop
  | .read worker => ∀ now before entry, s.worker worker = .started now before → s.entry = some entry →
      entry.expires ≤ s.clock → ∀ t ∈ entry.requestTimes, windowSeconds ≤ now - t
  | .write worker => ∀ now requestTimes before,
      s.worker worker = .deciding now requestTimes before → s.admitted.length = before
  | .advance _ | .start _ => True

end RateState

variable {maxRequests windowSeconds : Nat} {now now' : ℚ} {cached : List ℚ}

theorem checkRateLimit_eq_allowed {requestTimes : List ℚ} :
    checkRateLimit maxRequests windowSeconds now cached = .allowed requestTimes ↔
      (counted (windowSeconds : ℚ) now cached).length < maxRequests ∧
        requestTimes = counted (windowSeconds : ℚ) now cached ++ [now] := by
  rw [checkRateLimit, ← counted]
  by_cases hfull : maxRequests ≤ (counted (windowSeconds : ℚ) now cached).length
  · rw [if_pos hfull]
    constructor
    · intro h
      split at h <;> cases h
    · exact fun h => absurd hfull (Nat.not_le.mpr h.1)
  · rw [if_neg hfull, RateDecision.allowed.injEq]
    exact ⟨fun h => ⟨Nat.not_le.mp hfull, h.symm⟩, fun h => h.2.symm⟩

theorem lt_truncated_add_one {x : ℚ} (hx : 0 ≤ x) : x < (truncated x + 1 : Int) := by
  rw [truncated, if_pos hx, Int.cast_add, Int.cast_one]
  exact Int.lt_floor_add_one x

/-- A rejection asks to wait until the oldest of the counted times is out of the window. -/
theorem oldest_of_rejected {retryAfter : Int} {requestTimes : List ℚ}
    (h : checkRateLimit maxRequests windowSeconds now cached = .rejected retryAfter requestTimes) :
    ∃ oldest ∈ counted (windowSeconds : ℚ) now cached,
      windowSeconds ≤ now + retryAfter - oldest ∧ 0 ≤ (retryAfter : ℚ) := by
  rw [checkRateLimit, ← counted] at h
  split_ifs at h with hfull
  split at h
  next oldest holdest =>
    have hmem := List.min?_mem holdest
    have hwait : (0 : ℚ) < windowSeconds - (now - oldest) := sub_pos.mpr (mem_counted.mp hmem).2
    obtain ⟨rfl, -⟩ := RateDecision.rejected.inj h
    have hlt := lt_truncated_add_one hwait.le
    exact ⟨oldest, hmem, by linarith, hwait.le.trans hlt.le⟩
  next => cases h

/-- **After the wait one time fewer counts**, and so a list within the limit leaves room. -/
theorem checkRateLimit_retry {retryAfter : Int} {requestTimes : List ℚ}
    (h : checkRateLimit maxRequests windowSeconds now cached = .rejected retryAfter requestTimes)
    (hlength : cached.length ≤ maxRequests) (hwaited : now + retryAfter ≤ now') :
    (counted (windowSeconds : ℚ) now' cached).length < maxRequests := by
  obtain ⟨oldest, holdest, hwait, hpos⟩ := oldest_of_rejected h
  have hfewer := counted_length_lt (le_of_add_le_of_nonneg_left hwaited hpos) holdest
    (hwait.trans (sub_le_sub_right hwaited oldest))
  exact hfewer.trans_le ((List.length_filter_le ..).trans hlength)

namespace RateState

variable {s t : RateState} {i : RateStep}

inductive Moves (maxRequests windowSeconds : Nat) (s : RateState) : RateStep → RateState → Prop where
  | stay (i : RateStep) : Moves maxRequests windowSeconds s i s
  | advance (clock : ℚ) :
      Moves maxRequests windowSeconds s (.advance clock) { s with clock := max s.clock clock }
  | start (worker : Nat) : Moves maxRequests windowSeconds s (.start worker)
      (s.setWorker worker (.started s.clock s.admitted.length))
  | allow (worker : Nat) (now : ℚ) (before : Nat) (hstarted : s.worker worker = .started now before)
      (hfew : (counted (windowSeconds : ℚ) now s.cached).length < maxRequests) :
      Moves maxRequests windowSeconds s (.read worker) (s.setWorker worker
        (.deciding now (counted (windowSeconds : ℚ) now s.cached ++ [now]) before))
  | refuse (worker : Nat) : Moves maxRequests windowSeconds s (.read worker) (s.setWorker worker .idle)
  | write (worker : Nat) (now : ℚ) (requestTimes : List ℚ) (before : Nat)
      (hdeciding : s.worker worker = .deciding now requestTimes before) :
      Moves maxRequests windowSeconds s (.write worker)
        { s.setWorker worker .idle with
          entry := some ⟨requestTimes, s.clock + (windowSeconds + 1)⟩
          admitted := s.admitted ++ [now] }

theorem step_moves (maxRequests windowSeconds : Nat) (s : RateState) (i : RateStep) :
    Moves maxRequests windowSeconds s i (s.step maxRequests windowSeconds i) := by
  cases i with
  | advance clock => exact .advance clock
  | start worker =>
      rw [step]
      cases hworker : s.worker worker with
      | idle => exact .start worker
      | started now before => exact .stay _
      | deciding now requestTimes before => exact .stay _
  | read worker =>
      rw [step]
      split
      next now before hworker =>
          cases hcheck : checkRateLimit maxRequests windowSeconds now s.cached with
          | allowed requestTimes =>
              obtain ⟨hfew, rfl⟩ := checkRateLimit_eq_allowed.mp hcheck
              exact .allow worker now before hworker hfew
          | rejected retryAfter requestTimes => exact .refuse worker
          | valueError => exact .refuse worker
      next => exact .stay _
  | write worker =>
      rw [step]
      cases hworker : s.worker worker with
      | idle => exact .stay _
      | started now before => exact .stay _
      | deciding now requestTimes before => exact .write worker now requestTimes before hworker

theorem setWorker_self (worker : Nat) (phase : RatePhase) :
    (s.setWorker worker phase).worker worker = phase :=
  Function.update_self ..

/-- What holds of every phase holds after a worker has taken one for which it holds. -/
theorem forall_setWorker {P : RatePhase → Prop} {worker : Nat} {phase : RatePhase} (hphase : P phase)
    (h : ∀ other, P (s.worker other)) (other : Nat) : P ((s.setWorker worker phase).worker other) := by
  by_cases heq : other = worker
  · rw [heq, setWorker_self]
    exact hphase
  · have hother : (s.setWorker worker phase).worker other = s.worker other :=
      Function.update_of_ne heq ..
    rw [hother]
    exact h other

/-- A list that a worker is about to write, or that it wrote, is within the limit. -/
def RatePhase.Short (maxRequests : Nat) : RatePhase → Prop
  | .deciding _ requestTimes _ => requestTimes.length ≤ maxRequests
  | .idle | .started _ _ => True

structure Short (maxRequests : Nat) (s : RateState) : Prop where
  entry : ∀ entry, s.entry = some entry → entry.requestTimes.length ≤ maxRequests
  worker : ∀ worker, RatePhase.Short maxRequests (s.worker worker)

theorem Short.moves (h : s.Short maxRequests) (hmove : Moves maxRequests windowSeconds s i t) :
    t.Short maxRequests := by
  cases hmove with
  | stay => exact h
  | advance clock => exact ⟨h.entry, h.worker⟩
  | start worker => exact ⟨h.entry, forall_setWorker trivial h.worker⟩
  | refuse worker => exact ⟨h.entry, forall_setWorker trivial h.worker⟩
  | allow worker now before hstarted hfew =>
      refine ⟨h.entry, forall_setWorker ?_ h.worker⟩
      rw [RatePhase.Short, List.length_append]
      exact hfew
  | write worker now requestTimes before hdeciding =>
      refine ⟨fun entry hentry => ?_, forall_setWorker trivial h.worker⟩
      obtain rfl := Option.some.inj hentry
      have hshort := h.worker worker
      rw [hdeciding] at hshort
      exact hshort

theorem Short.cached_length (h : s.Short maxRequests) : s.cached.length ≤ maxRequests := by
  rw [RateState.cached]
  split
  next entry hentry =>
    split
    · exact h.entry entry hentry
    · exact Nat.zero_le _
  next => exact Nat.zero_le _

/-- A step that admits no call leaves the entry, and the clock goes on. -/
theorem Moves.entry (hmove : Moves maxRequests windowSeconds s i t) :
    (t.entry = s.entry ∧ t.admitted = s.admitted ∨ s.admitted.length < t.admitted.length) ∧
      s.clock ≤ t.clock := by
  cases hmove with
  | write worker now requestTimes before hdeciding =>
      exact ⟨.inr (by rw [List.length_append]; exact Nat.lt_succ_self _), le_rfl⟩
  | advance clock => exact ⟨.inl ⟨rfl, rfl⟩, le_max_left ..⟩
  | _ => exact ⟨.inl ⟨rfl, rfl⟩, le_rfl⟩

theorem run_entry (steps : List RateStep) :
    ((s.run maxRequests windowSeconds steps).entry = s.entry ∧
        (s.run maxRequests windowSeconds steps).admitted = s.admitted ∨
      s.admitted.length < (s.run maxRequests windowSeconds steps).admitted.length) ∧
      s.clock ≤ (s.run maxRequests windowSeconds steps).clock := by
  induction steps generalizing s with
  | nil => exact ⟨.inl ⟨rfl, rfl⟩, le_rfl⟩
  | cons i steps ih =>
      obtain ⟨hentry, hclock⟩ := (step_moves maxRequests windowSeconds s i).entry
      obtain ⟨hrest, hrestClock⟩ := @ih (s.step maxRequests windowSeconds i)
      refine ⟨?_, hclock.trans hrestClock⟩
      rw [run, List.foldl_cons, ← run]
      rcases hentry with ⟨hentry, hadmitted⟩ | hmore
      · rw [← hentry, ← hadmitted]
        exact hrest
      · exact .inr (hrest.elim (fun hsame => by rw [hsame.2]; exact hmore) hmore.trans)

/-- The cache forgets, but it does not change what it holds before the next call is admitted. -/
theorem counted_run_le (steps : List RateStep)
    (hnone : (s.run maxRequests windowSeconds steps).admitted = s.admitted) (width now : ℚ) :
    (counted width now (s.run maxRequests windowSeconds steps).cached).length ≤
      (counted width now s.cached).length := by
  obtain ⟨hentry, hclock⟩ := @run_entry maxRequests windowSeconds s steps
  have hsame : (s.run maxRequests windowSeconds steps).entry = s.entry := by
    rcases hentry with hentry | hmore
    · exact hentry.1
    · rw [hnone] at hmore
      exact absurd hmore (lt_irrefl _)
  rw [RateState.cached, RateState.cached, hsame]
  split
  next entry hentry =>
    split_ifs with hlate hearly
    · exact le_rfl
    · exact absurd (hclock.trans_lt hlate) hearly
    · exact Nat.zero_le _
    · exact le_rfl
  next => exact le_rfl

/-- **The wait is long enough.** -/
theorem Short.retryHonoured (h : s.Short maxRequests) : s.RetryHonoured maxRequests windowSeconds := by
  intro worker now before retryAfter requestTimes more again now' before' _ hrejected hnone _ hwaited
  have hroom := checkRateLimit_retry hrejected h.cached_length hwaited
  have hless := counted_run_le (.read worker :: more) hnone windowSeconds now'
  exact ⟨_, checkRateLimit_eq_allowed.mpr ⟨hless.trans_lt hroom, rfl⟩⟩

/-! ### The limit -/

/-- The times that the entry holds, expired or not. -/
def stored (s : RateState) : List ℚ := (s.entry.map RateEntry.requestTimes).getD []

/-- What a worker has seen, as long as no other call is admitted since its clock reading. -/
def Current (maxRequests windowSeconds : Nat) (s : RateState) : RatePhase → Prop
  | .idle => True
  | .started now before => now ≤ s.clock ∧ before ≤ s.admitted.length ∧
      (s.admitted.length = before → ∀ t ∈ s.admitted, t ≤ now)
  | .deciding now requestTimes before => now ≤ s.clock ∧ before ≤ s.admitted.length ∧
      (s.admitted.length = before → (∀ t ∈ s.admitted, t ≤ now) ∧
        requestTimes = counted (windowSeconds : ℚ) now s.admitted ++ [now] ∧
        (counted (windowSeconds : ℚ) now s.admitted).length < maxRequests)

/-- The invariant of undisturbed runs: the entry holds the admitted times that may still count. -/
structure Limited (maxRequests windowSeconds : Nat) (s : RateState) : Prop where
  window : WithinLimit maxRequests (windowSeconds : ℚ) s.admitted
  past : ∀ t ∈ s.admitted, t ≤ s.clock
  stored : ∀ now, (∀ t ∈ s.admitted, t ≤ now) →
    counted (windowSeconds : ℚ) now s.stored = counted (windowSeconds : ℚ) now s.admitted
  worker : ∀ worker, s.Current maxRequests windowSeconds (s.worker worker)

/-- An entry is only found expired when nothing in it counts. -/
theorem counted_cached {worker : Nat} {before : Nat} (hstarted : s.worker worker = .started now before)
    (hundisturbed : s.Undisturbed windowSeconds (.read worker)) :
    counted (windowSeconds : ℚ) now s.cached = counted (windowSeconds : ℚ) now s.stored := by
  rw [RateState.cached, RateState.stored]
  cases hentry : s.entry with
  | none => rfl
  | some entry =>
      by_cases hfresh : s.clock < entry.expires
      · simp only [if_pos hfresh, Option.map_some, Option.getD_some]
      · have hgone := hundisturbed now before entry hstarted hentry (not_lt.mp hfresh)
        have hnone : counted (windowSeconds : ℚ) now entry.requestTimes = [] :=
          List.filter_eq_nil_iff.mpr fun t ht => by simpa using hgone t ht
        simp only [if_neg hfresh, Option.map_some, Option.getD_some, hnone]
        rfl

theorem Current.mono {phase : RatePhase} (h : s.Current maxRequests windowSeconds phase)
    (hclock : s.clock ≤ t.clock) (hadmitted : t.admitted = s.admitted) :
    t.Current maxRequests windowSeconds phase := by
  cases phase with
  | idle => trivial
  | started now before => exact ⟨h.1.trans hclock, hadmitted ▸ h.2⟩
  | deciding now requestTimes before => exact ⟨h.1.trans hclock, hadmitted ▸ h.2⟩

/-- An admitted call outdates what all workers have seen. -/
theorem Current.outdated {phase : RatePhase} (h : s.Current maxRequests windowSeconds phase)
    (hclock : s.clock ≤ t.clock) (hmore : s.admitted.length < t.admitted.length) :
    t.Current maxRequests windowSeconds phase := by
  cases phase with
  | idle => trivial
  | started now before =>
      exact ⟨h.1.trans hclock, h.2.1.trans hmore.le, fun heq => absurd (heq ▸ h.2.1) hmore.not_ge⟩
  | deciding now requestTimes before =>
      exact ⟨h.1.trans hclock, h.2.1.trans hmore.le, fun heq => absurd (heq ▸ h.2.1) hmore.not_ge⟩

/-- **An undisturbed step keeps the limit.** -/
theorem Limited.moves (h : s.Limited maxRequests windowSeconds)
    (hundisturbed : s.Undisturbed windowSeconds i)
    (hmove : Moves maxRequests windowSeconds s i t) : t.Limited maxRequests windowSeconds := by
  cases hmove with
  | stay => exact h
  | advance clock =>
      have hclock : s.clock ≤ max s.clock clock := le_max_left ..
      exact ⟨h.window, fun t ht => (h.past t ht).trans hclock, h.stored,
        fun worker => (h.worker worker).mono hclock rfl⟩
  | start worker =>
      refine ⟨h.window, h.past, h.stored, forall_setWorker ?_ h.worker⟩
      exact ⟨le_rfl, le_rfl, fun _ => h.past⟩
  | refuse worker => exact ⟨h.window, h.past, h.stored, forall_setWorker trivial h.worker⟩
  | allow worker now before hstarted hfew =>
      obtain ⟨hclock, hbefore, hcurrent⟩ := hstarted ▸ h.worker worker
      rw [counted_cached hstarted hundisturbed] at hfew ⊢
      refine ⟨h.window, h.past, h.stored, forall_setWorker ⟨hclock, hbefore, fun heq => ?_⟩ h.worker⟩
      have hseen := h.stored now (hcurrent heq)
      exact ⟨hcurrent heq, congrArg (· ++ [now]) hseen, hseen ▸ hfew⟩
  | write worker now requestTimes before hdeciding =>
      obtain ⟨hclock, -, hcurrent⟩ := hdeciding ▸ h.worker worker
      obtain ⟨hpast, rfl, hfew⟩ := hcurrent (hundisturbed now requestTimes before hdeciding)
      refine ⟨h.window.append hfew, fun t ht => ?_, fun later hlater => ?_, ?_⟩
      · rcases List.mem_append.mp ht with ht | ht
        · exact h.past t ht
        · exact (List.mem_singleton.mp ht).trans_le hclock
      · have hle : now ≤ later := hlater now (List.mem_append_right _ List.mem_cons_self)
        show counted _ later (counted _ now s.admitted ++ [now]) = counted _ later (s.admitted ++ [now])
        rw [counted_append, counted_append, counted_counted hle]
      · exact forall_setWorker trivial fun other => (h.worker other).outdated le_rfl (by simp)

theorem initial_limited (clock : ℚ) : Limited maxRequests windowSeconds { clock } where
  window := withinLimit_nil
  past := fun _ ht => absurd ht List.not_mem_nil
  stored := fun _ _ => rfl
  worker := fun _ => trivial

theorem initial_short (clock : ℚ) : Short maxRequests { clock } where
  entry := fun _ hentry => nomatch hentry
  worker := fun _ => trivial

/-- **The limit and the wait**: in a run without overlaps no window holds more admitted calls than
allowed, and a rejected caller that waits as long as it is told is admitted. -/
theorem limited_of_undisturbed (maxRequests windowSeconds : Nat) (clock : ℚ) (steps : List RateStep)
    (hundisturbed : ∀ seen i rest, steps = seen ++ i :: rest →
      (run maxRequests windowSeconds { clock } seen).Undisturbed windowSeconds i) :
    ∀ seen rest, steps = seen ++ rest →
      WithinLimit maxRequests (windowSeconds : ℚ)
        (run maxRequests windowSeconds { clock } seen).admitted ∧
        (run maxRequests windowSeconds { clock } seen).RetryHonoured maxRequests windowSeconds := by
  intro seen rest hsplit
  obtain ⟨hlimited, hshort⟩ := foldl_always
    (fun s i (h : s.Limited maxRequests windowSeconds ∧ s.Short maxRequests) hi =>
      ⟨h.1.moves hi (step_moves ..), h.2.moves (step_moves maxRequests windowSeconds s i)⟩)
    ⟨initial_limited clock, initial_short clock⟩ hundisturbed seen rest hsplit
  exact ⟨hlimited.window, hshort.retryHonoured⟩

/-- One call after the other: the second one is rejected. -/
theorem limited_of_successive :
    WithinLimit 1 ((10 : Nat) : ℚ)
        (run 1 10 { clock := 0 } [.start 0, .read 0, .write 0, .start 1, .read 1]).admitted ∧
      (run 1 10 { clock := 0 }
        [.start 0, .read 0, .write 0, .start 1, .read 1]).RetryHonoured 1 10 := by
  refine limited_of_undisturbed 1 10 0 _ ?_ _ [] (List.append_nil _).symm
  refine forall_split_cons trivial (forall_split_cons ?_ (forall_split_cons ?_
    (forall_split_cons trivial (forall_split_cons ?_ forall_split_nil))))
  · intro now before entry _ hentry
    cases hentry
  · intro now requestTimes before hdeciding
    cases hdeciding
    rfl
  · intro now before entry _ hentry hexpired
    cases hentry
    exact absurd hexpired (by decide +kernel)

/-- Two workers that both read the cache before one of them has written are both admitted. -/
theorem overlapping_exceed : ¬ WithinLimit 1 ((10 : Nat) : ℚ) (run 1 10 { clock := 0 }
    [.start 0, .start 1, .read 0, .read 1, .write 0, .write 1]).admitted := by
  intro h
  exact absurd (h 0) (by decide +kernel)

end RateState

end Micboard
