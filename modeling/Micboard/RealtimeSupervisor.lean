import Micboard.LibraryCache
import Micboard.LibraryRotation

/-! The supervisor of realtime subscriptions: the fair batch of devices that it selects, and the
lease that lets one worker at a time run a group. A lease is a cache key with a timeout that holds
the token of its owner. The cache answers one command at a time, so the commands of different calls
interleave, and an entry may expire or be dropped between any two of them. -/

namespace Micboard

open Library Library.Budget

def hardMaxSubscriptionDevices : Nat := 256

namespace RealtimeSubscriptionSupervisor

/-- One bounded circular inventory window, and the cursor after it. -/
def selectFairQuerysetBatch {α : Type*} (pk : α → Nat) (queryset : List α) (limit : Int)
    (afterId : Nat) : List α × Nat :=
  let boundedLimit := min (max limit.toNat 1) hardMaxSubscriptionDevices
  let selected := (byKey pk (queryset.filter fun row => afterId < pk row)).take boundedLimit
  let remaining := boundedLimit - selected.length
  let selected :=
    if remaining ≠ 0 ∧ afterId ≠ 0 then
      selected ++ (byKey pk (queryset.filter fun row => pk row ≤ afterId)).take remaining
    else selected
  (selected, advance pk afterId selected)

end RealtimeSubscriptionSupervisor

def subscriptionLeaseSeconds : Int := 60

structure SupervisorKey where
  transport : String
  scope : String
  deriving DecidableEq, Repr

/-- Ownership token for one cache-backed supervisor lease: the tokens of `secrets.token_urlsafe(24)`
are numbered in the order in which they are drawn. -/
structure RealtimeSubscriptionLease where
  cacheKey : SupervisorKey
  token : Nat
  deriving DecidableEq, Repr

/-- How far a refresh has come: nothing read yet, its token found, the timeout renewed, or an answer. -/
inductive RefreshPhase where
  | started | found | touched
  | returned (answer : Bool)
  deriving DecidableEq, Repr

structure RefreshCall where
  lease : RealtimeSubscriptionLease
  phase : RefreshPhase
  deriving DecidableEq, Repr

/-- The cache, the clock in seconds, the number of tokens drawn, the leases that calls of `acquire` have
returned, and the calls of `refresh`. -/
structure LeaseState where
  cache : Cache SupervisorKey Nat := fun _ => none
  now : Int := 0
  tokens : Nat := 0
  leases : List RealtimeSubscriptionLease := []
  calls : Nat → Option RefreshCall := fun _ => none

/-- One atomic step: time passes, the cache drops an entry, a worker acquires a lease or starts to
refresh one, or a refresh issues its next command, which may raise. -/
inductive LeaseEvent where
  | tick (seconds : Nat)
  | evict (key : SupervisorKey)
  | acquire (key : SupervisorKey)
  | startRefresh (call : Nat) (lease : RealtimeSubscriptionLease)
  | firstGet (call : Nat)
  | touch (call : Nat)
  | lastGet (call : Nat)
  | raise (call : Nat)
  deriving DecidableEq, Repr

namespace LeaseState

/-- The token that a read of a key finds. -/
def held (state : LeaseState) (key : SupervisorKey) : Option Nat :=
  state.cache.get state.now key

def setCall (state : LeaseState) (call : Nat) (lease : RealtimeSubscriptionLease)
    (phase : RefreshPhase) : LeaseState :=
  { state with calls := Function.update state.calls call (some ⟨lease, phase⟩) }

/-- `add` a fresh token; a lease is returned if the key was free. -/
def acquire (state : LeaseState) (key : SupervisorKey) : LeaseState :=
  let (cache, acquired) := state.cache.add state.now key state.tokens subscriptionLeaseSeconds
  { state with
    cache := cache
    tokens := state.tokens + 1
    leases := if acquired then state.leases ++ [⟨key, state.tokens⟩] else state.leases }

/-- What an event makes of a state, if it can happen there. -/
def step (state : LeaseState) : LeaseEvent → Option LeaseState
  | .tick seconds => some { state with now := state.now + seconds }
  | .evict key => some { state with cache := state.cache.delete key }
  | .acquire key => some (state.acquire key)
  | .startRefresh call lease =>
    if state.calls call = none ∧ lease ∈ state.leases then some (state.setCall call lease .started)
    else none
  | .firstGet call =>
    match state.calls call with
    | some ⟨lease, .started⟩ =>
      some (state.setCall call lease
        (if state.held lease.cacheKey = some lease.token then .found else .returned false))
    | _ => none
  | .touch call =>
    match state.calls call with
    | some ⟨lease, .found⟩ =>
      let (cache, touched) := state.cache.touch state.now lease.cacheKey subscriptionLeaseSeconds
      some ({ state with cache := cache }.setCall call lease
        (if touched then .touched else .returned false))
    | _ => none
  | .lastGet call =>
    match state.calls call with
    | some ⟨lease, .touched⟩ =>
      some (state.setCall call lease
        (.returned (decide (state.held lease.cacheKey = some lease.token))))
    | _ => none
  | .raise call =>
    match state.calls call with
    | some ⟨_, .returned _⟩ => none
    | some ⟨lease, _⟩ => some (state.setCall call lease (.returned false))
    | none => none

end LeaseState

/-- A run of the workers from an empty cache on, by the state before each event. -/
structure LeaseRun where
  state : Nat → LeaseState
  event : Nat → LeaseEvent
  start : state 0 = {}
  follows : ∀ i, (state i).step (event i) = some (state (i + 1))

def LeaseEvent.refreshes : LeaseEvent → Option Nat
  | .firstGet call | .touch call | .lastGet call | .raise call => some call
  | .tick _ | .evict _ | .acquire _ | .startRefresh _ _ => none

/-- How a call comes into a phase. -/
inductive RefreshStep (s : LeaseState) (call : Nat) (lease : RealtimeSubscriptionLease) :
    LeaseEvent → RefreshPhase → Prop
  | started : s.calls call = none → RefreshStep s call lease (.startRefresh call lease) .started
  | found : s.calls call = some ⟨lease, .started⟩ → s.held lease.cacheKey = some lease.token →
      RefreshStep s call lease (.firstGet call) .found
  | touched : s.calls call = some ⟨lease, .found⟩ → RefreshStep s call lease (.touch call) .touched
  | confirmed : s.calls call = some ⟨lease, .touched⟩ → s.held lease.cacheKey = some lease.token →
      RefreshStep s call lease (.lastGet call) (.returned true)
  | refused {event : LeaseEvent} {phase : RefreshPhase} : s.calls call = some ⟨lease, phase⟩ →
      RefreshStep s call lease event (.returned false)

inductive LeaseStep (s : LeaseState) : LeaseEvent → LeaseState → Prop
  | tick (seconds : Nat) : LeaseStep s (.tick seconds) { s with now := s.now + seconds }
  | evict (key : SupervisorKey) : LeaseStep s (.evict key) { s with cache := s.cache.delete key }
  | acquire (key : SupervisorKey) : LeaseStep s (.acquire key) (s.acquire key)
  | read {call : Nat} {lease : RealtimeSubscriptionLease} {event : LeaseEvent} {phase : RefreshPhase} :
      RefreshStep s call lease event phase → LeaseStep s event (s.setCall call lease phase)
  | touch {call : Nat} {lease : RealtimeSubscriptionLease} {event : LeaseEvent} {phase : RefreshPhase} :
      RefreshStep s call lease event phase → LeaseStep s event
        ({ s with cache :=
          (s.cache.touch s.now lease.cacheKey subscriptionLeaseSeconds).1 }.setCall call
          lease phase)

section Step

variable {s t : LeaseState} {event : LeaseEvent} {call : Nat} {key : SupervisorKey}
  {lease : RealtimeSubscriptionLease} {phase : RefreshPhase}

theorem LeaseState.step_cases (h : s.step event = some t) : LeaseStep s event t := by
  cases event with
  | tick seconds =>
      cases h
      exact .tick seconds
  | evict key =>
      cases h
      exact .evict key
  | acquire key =>
      cases h
      exact .acquire key
  | startRefresh call lease =>
      rw [step] at h
      split at h
      next hfree =>
        cases h
        exact .read (.started hfree.1)
      next => cases h
  | firstGet call =>
      rw [step] at h
      split at h
      next lease hstarted =>
        cases h
        refine .read ?_
        split
        next hheld => exact .found hstarted hheld
        next => exact .refused hstarted
      next => cases h
  | touch call =>
      rw [step] at h
      split at h
      next lease hfound =>
        cases h
        refine .touch ?_
        split
        next => exact .touched hfound
        next => exact .refused hfound
      next => cases h
  | lastGet call =>
      rw [step] at h
      split at h
      next lease htouched =>
        cases h
        refine .read ?_
        by_cases hheld : s.held lease.cacheKey = some lease.token
        · rw [decide_eq_true hheld]
          exact .confirmed htouched hheld
        · rw [decide_eq_false hheld]
          exact .refused htouched
      next => cases h
  | raise call =>
      rw [step] at h
      split at h
      next => cases h
      next lease before hopen hbefore =>
        cases h
        exact .read (.refused hbefore)
      next => cases h

/-- A call keeps its phase or moves on by a command of its own. -/
theorem LeaseState.step_calls (h : s.step event = some t)
    (hcall : t.calls call = some ⟨lease, phase⟩) :
    s.calls call = some ⟨lease, phase⟩ ∨ RefreshStep s call lease event phase := by
  cases step_cases h with
  | tick | evict | acquire => exact .inl hcall
  | @read other set _ reached hread | @touch other set _ reached hread =>
      by_cases heq : call = other
      · subst heq
        simp only [setCall, Function.update_self, Option.some.injEq, RefreshCall.mk.injEq] at hcall
        obtain ⟨rfl, rfl⟩ := hcall
        exact .inr hread
      · simp only [setCall, Function.update_of_ne heq] at hcall
        exact .inl hcall

theorem LeaseState.exists_step_calls (h : s.step event = some t)
    (hcall : s.calls call = some ⟨lease, phase⟩) : ∃ later, t.calls call = some ⟨lease, later⟩ := by
  cases step_cases h with
  | tick | evict | acquire => exact ⟨phase, hcall⟩
  | @read other set _ reached hread | @touch other set _ reached hread =>
      by_cases heq : call = other
      · subst heq
        have hset : lease = set := by
          cases hread with
          | started hfree => exact nomatch hfree.symm.trans hcall
          | found hbefore | touched hbefore | confirmed hbefore | refused hbefore =>
              exact congrArg RefreshCall.lease (Option.some.inj (hcall.symm.trans hbefore))
        exact ⟨reached, by simp only [setCall, Function.update_self, hset]⟩
      · exact ⟨phase, by simpa only [setCall, Function.update_of_ne heq] using hcall⟩

theorem LeaseState.step_cache (h : s.step event = some t) {entry : CacheEntry Nat}
    (hentry : t.cache key = some entry) :
    (∃ before, s.cache key = some before ∧ before.value = entry.value) ∨
      event = .acquire key ∧ entry.value = s.tokens ∧ t.tokens = s.tokens + 1 := by
  cases step_cases h with
  | tick | read => exact .inl ⟨entry, hentry, rfl⟩
  | evict => exact .inl ⟨entry, Cache.delete_eq_some hentry, rfl⟩
  | touch => exact .inl (Cache.touch_eq_some hentry)
  | acquire wanted =>
      simp only [acquire, Cache.add] at hentry
      split at hentry
      next => exact .inl ⟨entry, hentry, rfl⟩
      next =>
        rcases Cache.set_eq_some hentry with ⟨rfl, rfl⟩ | hother
        · exact .inr ⟨rfl, rfl, rfl⟩
        · exact .inl ⟨entry, hother, rfl⟩

theorem LeaseState.step_tokens (h : s.step event = some t) : s.tokens ≤ t.tokens := by
  cases step_cases h with
  | tick | evict | read | touch => exact Nat.le_refl _
  | acquire => exact Nat.le_succ _

/-- A lease has the token that its call drew, and the cache holds it then. -/
theorem LeaseState.step_leases (h : s.step event = some t) (hlease : lease ∈ t.leases) :
    lease ∈ s.leases ∨ lease.token = s.tokens ∧ t.tokens = s.tokens + 1 ∧
      t.held lease.cacheKey = some lease.token := by
  cases step_cases h with
  | tick | evict | read | touch => exact .inl hlease
  | acquire wanted =>
      simp only [acquire] at hlease
      split at hlease
      next hadded =>
        rcases List.mem_append.mp hlease with hlease | hlease
        · exact .inl hlease
        · rw [List.mem_singleton.mp hlease]
          have hfree : ¬ (s.cache.get s.now wanted).isSome = true := by
            simp [Cache.add_answer.mp hadded]
          refine .inr ⟨rfl, rfl, ?_⟩
          simp only [acquire, held, Cache.add, if_neg hfree]
          rw [Cache.get_set (by decide), if_pos rfl]
      next => exact .inl hlease

/-- No entry outlives the timeout of a lease. -/
def LeaseState.Timely (s : LeaseState) : Prop :=
  ∀ key entry, s.cache key = some entry → entry.expires ≤ s.now + subscriptionLeaseSeconds

theorem LeaseState.step_timely (hs : s.Timely) (h : s.step event = some t) : t.Timely := by
  intro key entry hentry
  cases step_cases h with
  | tick seconds =>
      have hbefore := hs key entry hentry
      have hlater : s.now ≤ s.now + (seconds : Int) := by omega
      exact hbefore.trans (Int.add_le_add_right hlater _)
  | evict => exact hs key entry (Cache.delete_eq_some hentry)
  | read => exact hs key entry hentry
  | acquire wanted =>
      simp only [acquire, Cache.add] at hentry
      split at hentry
      next => exact hs key entry hentry
      next =>
        rcases Cache.set_eq_some hentry with ⟨-, rfl⟩ | hother
        · exact Int.le_refl _
        · exact hs key entry hother
  | @touch _ lease =>
      simp only [setCall, Cache.touch] at hentry
      split at hentry
      next =>
        rcases Cache.set_eq_some hentry with ⟨-, rfl⟩ | hother
        · exact Int.le_refl _
        · exact hs key entry hother
      next => exact hs key entry hentry

/-- The commands of a refresh change no token and take none of its time. -/
theorem LeaseState.step_keeps (hs : s.Timely) (h : s.step event = some t)
    (hrefresh : event.refreshes = some call) {entry : CacheEntry Nat}
    (hentry : s.cache key = some entry) :
    ∃ after, t.cache key = some after ∧ after.value = entry.value ∧ entry.expires ≤ after.expires := by
  cases step_cases h with
  | tick | evict | acquire => cases hrefresh
  | read => exact ⟨entry, hentry, rfl, Int.le_refl _⟩
  | touch => exact Cache.exists_touch hentry (hs key entry hentry)

end Step

/-! ### Runs -/

namespace LeaseRun

variable (run : LeaseRun)

/-- The worker's read of the lease's key finds its own token. -/
def ReadsOwn (i : Nat) (lease : RealtimeSubscriptionLease) : Prop :=
  (run.state i).held lease.cacheKey = some lease.token

def Acquires (i : Nat) (lease : RealtimeSubscriptionLease) : Prop :=
  lease ∉ (run.state i).leases ∧ lease ∈ (run.state (i + 1)).leases

variable {run} {i j : Nat} {call : Nat} {old lease : RealtimeSubscriptionLease} {phase : RefreshPhase}

theorem timely (i : Nat) : (run.state i).Timely := by
  induction i with
  | zero =>
      rw [run.start]
      intro key entry hentry
      cases hentry
  | succ i ih => exact LeaseState.step_timely ih (run.follows i)

theorem token_lt (h : lease ∈ (run.state i).leases) : lease.token < (run.state i).tokens := by
  induction i with
  | zero =>
      rw [run.start] at h
      cases h
  | succ i ih =>
      have htokens := LeaseState.step_tokens (run.follows i)
      rcases LeaseState.step_leases (run.follows i) h with hbefore | ⟨htoken, hnext, -⟩
      · exact (ih hbefore).trans_le htokens
      · omega

/-- A refresh that is past its first read found its own token there, and one that returned true also
at its last read. -/
theorem reads_of_call (h : (run.state j).calls call = some ⟨lease, phase⟩) :
    (phase = .found ∨ phase = .touched →
        ∃ i < j, run.event i = .firstGet call ∧ run.ReadsOwn i lease) ∧
      (phase = .returned true → ∃ i k, i < k ∧ k < j ∧
        run.event i = .firstGet call ∧ run.ReadsOwn i lease ∧
        run.event k = .lastGet call ∧ run.ReadsOwn k lease) := by
  induction j generalizing phase with
  | zero =>
      rw [run.start] at h
      cases h
  | succ j ih =>
      rcases LeaseState.step_calls (run.follows j) h with hbefore | hmove
      · obtain ⟨hfirst, hboth⟩ := ih hbefore
        refine ⟨fun hphase => ?_, fun hphase => ?_⟩
        · obtain ⟨i, hi, hread⟩ := hfirst hphase
          exact ⟨i, Nat.lt_succ_of_lt hi, hread⟩
        · obtain ⟨i, k, hi, hk, hread⟩ := hboth hphase
          exact ⟨i, k, hi, Nat.lt_succ_of_lt hk, hread⟩
      · generalize hevent : run.event j = event at hmove
        cases hmove with
        | started =>
            exact ⟨fun h => h.elim (fun h => nomatch h) (fun h => nomatch h), fun h => nomatch h⟩
        | found hstarted hheld =>
            exact ⟨fun _ => ⟨j, Nat.lt_succ_self j, hevent, hheld⟩, fun h => nomatch h⟩
        | touched hfound =>
            obtain ⟨i, hi, hread⟩ := (ih hfound).1 (.inl rfl)
            exact ⟨fun _ => ⟨i, Nat.lt_succ_of_lt hi, hread⟩, fun h => nomatch h⟩
        | confirmed htouched hheld =>
            obtain ⟨i, hi, hread, hown⟩ := (ih htouched).1 (.inr rfl)
            exact ⟨fun h => h.elim (fun h => nomatch h) (fun h => nomatch h),
              fun _ => ⟨i, j, hi, Nat.lt_succ_self j, hread, hown, hevent, hheld⟩⟩
        | refused =>
            exact ⟨fun h => h.elim (fun h => nomatch h) (fun h => nomatch h), fun h => nomatch h⟩

/-- The cache holds the token no more, and no worker can draw it again. -/
def Superseded (s : LeaseState) (old : RealtimeSubscriptionLease) : Prop :=
  old.token < s.tokens ∧ ∀ entry, s.cache old.cacheKey = some entry → entry.value ≠ old.token

theorem superseded_step (h : Superseded (run.state i) old) : Superseded (run.state (i + 1)) old := by
  have htokens := LeaseState.step_tokens (run.follows i)
  refine ⟨h.1.trans_le htokens, fun entry hentry heq => ?_⟩
  rcases LeaseState.step_cache (run.follows i) hentry with ⟨before, hbefore, hvalue⟩ | ⟨-, hvalue, -⟩
  · exact h.2 before hbefore (hvalue.trans heq)
  · have hlt := h.1
    omega

/-- Once another worker has acquired the lease, the earlier one is superseded for good. -/
theorem superseded_of_acquires {new : RealtimeSubscriptionLease} (hold : old ∈ (run.state i).leases)
    (hnew : run.Acquires i new) (hkey : new.cacheKey = old.cacheKey) (hj : i < j) :
    Superseded (run.state j) old := by
  induction j with
  | zero => omega
  | succ j ih =>
      rcases Nat.lt_succ_iff_lt_or_eq.mp hj with hlater | rfl
      · exact superseded_step (ih hlater)
      · have hdrawn := token_lt hold
        obtain ⟨htoken, hnext, hheld⟩ :=
          (LeaseState.step_leases (run.follows i) hnew.2).resolve_left hnew.1
        refine ⟨by omega, fun entry hentry => ?_⟩
        obtain ⟨held, hfound, -, hvalue⟩ := Cache.get_eq_some.mp (hkey ▸ hheld)
        obtain rfl := Option.some.inj (hfound.symm.trans hentry)
        omega

/-- A refresh that starts when its lease is superseded comes no further than its first read. -/
theorem refused_of_superseded (hstart : run.event i = .startRefresh call old)
    (hsuperseded : ∀ k, i < k → Superseded (run.state k) old) (hj : i < j) :
    (run.state j).calls call = some ⟨old, .started⟩ ∨
      (run.state j).calls call = some ⟨old, .returned false⟩ := by
  induction j with
  | zero => omega
  | succ j ih =>
      rcases Nat.lt_succ_iff_lt_or_eq.mp hj with hlater | rfl
      · obtain ⟨before, hcall, hbefore⟩ : ∃ before, (run.state j).calls call = some ⟨old, before⟩ ∧
            (before = .started ∨ before = .returned false) :=
          (ih hlater).elim (fun h => ⟨_, h, .inl rfl⟩) fun h => ⟨_, h, .inr rfl⟩
        obtain ⟨phase, hphase⟩ := LeaseState.exists_step_calls (run.follows j) hcall
        rw [hphase]
        rcases LeaseState.step_calls (run.follows j) hphase with hsame | hmove
        · rw [hcall] at hsame
          cases hsame
          rcases hbefore with rfl | rfl
          · exact .inl rfl
          · exact .inr rfl
        · generalize run.event j = event at hmove
          cases hmove with
          | started hfree => exact nomatch hfree.symm.trans hcall
          | found _ hheld =>
              -- The first read would have to find a token that is gone.
              obtain ⟨entry, hentry, -, hvalue⟩ := Cache.get_eq_some.mp hheld
              exact absurd hvalue ((hsuperseded j hlater).2 entry hentry)
          | touched hfound =>
              rw [hcall] at hfound
              cases hfound
              exact hbefore.elim (fun h => nomatch h) fun h => nomatch h
          | confirmed htouched =>
              rw [hcall] at htouched
              cases htouched
              exact hbefore.elim (fun h => nomatch h) fun h => nomatch h
          | refused => exact .inr rfl
      · have hstep := run.follows i
        rw [hstart, LeaseState.step] at hstep
        split at hstep
        next =>
          rw [← Option.some.inj hstep]
          exact .inl (Function.update_self ..)
        next => cases hstep

end LeaseRun

/-- **Leases are safe.** In every run of the workers: a refresh that returns true has found its own
token at its first and at its last read; after another worker has acquired the lease, a refresh of
the earlier one that starts later never returns true; and a refresh of a superseded lease leaves
every token in the cache, with at least the time it had. -/
theorem realtime_leases_safe (run : LeaseRun) :
    (∀ j call lease, (run.state j).calls call = some ⟨lease, .returned true⟩ →
      ∃ i k, i < k ∧ k < j ∧ run.event i = .firstGet call ∧ run.ReadsOwn i lease ∧
        run.event k = .lastGet call ∧ run.ReadsOwn k lease) ∧
    ∀ i old new, old ∈ (run.state i).leases → run.Acquires i new → new.cacheKey = old.cacheKey →
      (∀ k call, i < k → run.event k = .startRefresh call old →
        ∀ j answer, k < j → (run.state j).calls call = some ⟨old, .returned answer⟩ → answer = false) ∧
      ∀ k call phase, i < k → (run.state k).calls call = some ⟨old, phase⟩ →
        (run.event k).refreshes = some call → ∀ key entry, (run.state k).cache key = some entry →
          ∃ after, (run.state (k + 1)).cache key = some after ∧ after.value = entry.value ∧
            entry.expires ≤ after.expires := by
  refine ⟨fun j call lease hcall => (LeaseRun.reads_of_call hcall).2 rfl,
    fun i old new hold hnew hkey => ⟨?_, ?_⟩⟩
  · intro k call hk hstart j answer hj hanswer
    have hsuperseded : ∀ later, k < later → LeaseRun.Superseded (run.state later) old :=
      fun later hlater => LeaseRun.superseded_of_acquires hold hnew hkey (hk.trans hlater)
    rcases LeaseRun.refused_of_superseded hstart hsuperseded hj with h | h
    · rw [h] at hanswer
      cases hanswer
    · rw [h] at hanswer
      cases hanswer
      rfl
  · intro k call phase _ _ hrefresh key entry hentry
    exact LeaseState.step_keeps (LeaseRun.timely k) (run.follows k) hrefresh hentry

def shureScope : SupervisorKey := ⟨"websocket", "shure"⟩

/-- A lease runs out and another worker takes it over; then both owners refresh. -/
def takeoverEvent (i : Nat) : LeaseEvent :=
  [.acquire shureScope, .tick 61, .acquire shureScope, .startRefresh 0 ⟨shureScope, 0⟩, .firstGet 0,
    .startRefresh 1 ⟨shureScope, 1⟩, .firstGet 1, .touch 1, .lastGet 1].getD i (.tick 1)

def takeoverState : Nat → LeaseState
  | 0 => {}
  | i + 1 => ((takeoverState i).step (takeoverEvent i)).getD (takeoverState i)

def takeoverRun : LeaseRun where
  state := takeoverState
  event := takeoverEvent
  start := rfl
  follows i := by
    have hlisted : ∀ i < 9, ((takeoverState i).step (takeoverEvent i)).isSome = true := by
      decide +kernel
    have hsome : ((takeoverState i).step (takeoverEvent i)).isSome = true := by
      rcases Nat.lt_or_ge i 9 with hearly | hlate
      · exact hlisted i hearly
      · rw [takeoverEvent, List.getD_eq_getElem?_getD, List.getElem?_eq_none (by simpa using hlate)]
        rfl
    obtain ⟨next, hnext⟩ := Option.isSome_iff_exists.mp hsome
    rw [takeoverState, hnext, Option.getD_some]

theorem realtime_leases_safe_takeover :
    (takeoverRun.state 9).calls 1 = some ⟨⟨shureScope, 1⟩, .returned true⟩ ∧
      (∃ i k, i < k ∧ k < 9 ∧ takeoverRun.event i = .firstGet 1 ∧
        takeoverRun.ReadsOwn i ⟨shureScope, 1⟩ ∧
        takeoverRun.event k = .lastGet 1 ∧ takeoverRun.ReadsOwn k ⟨shureScope, 1⟩) ∧
      ∀ j answer, 3 < j → (takeoverRun.state j).calls 0 = some ⟨⟨shureScope, 0⟩, .returned answer⟩ →
        answer = false := by
  have hanswer : (takeoverRun.state 9).calls 1 = some ⟨⟨shureScope, 1⟩, .returned true⟩ := by
    decide +kernel
  obtain ⟨hreads, hlater⟩ := realtime_leases_safe takeoverRun
  obtain ⟨hrefused, -⟩ := hlater 2 ⟨shureScope, 0⟩ ⟨shureScope, 1⟩ (by decide +kernel)
    ⟨by decide +kernel, by decide +kernel⟩ rfl
  exact ⟨hanswer, hreads 9 1 ⟨shureScope, 1⟩ hanswer, fun j answer hj =>
    hrefused 3 0 (by decide) (by decide +kernel) j answer hj⟩

end Micboard
