import Micboard.LibraryCache
import Micboard.LibraryRun
import Micboard.DiscoveryScheduling
import Micboard.ChassisModel

/-! The dispatch of discovery requests: a request claims a short cache window for its manufacturer and
scan flags before a task is queued, and a task that finds its manufacturer busy claims a second window
before it is scheduled again. A request or a task that finds the window taken is dropped. The machine
interleaves any number of requests and tasks; `outstanding` are the dropped requests that no run has
taken up since, and a cache entry also says for which run it was set. -/

namespace Micboard

open Library

def discoveryDispatchCoalesce : Time := 5000000

def busyRetryDelay : Time := 15000000

def busyRetryCoalesce : Time := 10000000

/-- How far a run has come: its dispatcher holds the claim, it is queued, it waits for a retry, its task
claims the manufacturer, the claim was refused, it reads the inventory, it has ended. -/
inductive RunPhase where
  | dispatching | queued | scheduled (eta : Time) | claiming | busy | reading | ended
deriving DecidableEq

/-- The run will still read the inventory. -/
def RunPhase.isPending : RunPhase → Bool
  | .dispatching | .queued | .scheduled _ | .claiming | .busy => true
  | .reading | .ended => false

structure DiscoveryRun where
  key : DiscoveryKey
  phase : RunPhase
deriving DecidableEq

structure DispatchState where
  now : Time
  dispatchKeys : Cache DiscoveryKey Nat
  retryKeys : Cache Nat Nat
  runs : Nat → Option DiscoveryRun
  nextRun : Nat
  /-- The requests between `cache.add` and `cache.get`. -/
  checking : List DiscoveryKey
  outstanding : List DiscoveryKey

inductive DispatchEvent where
  | wait (duration : Nat)
  | evictDispatch (key : DiscoveryKey)
  | evictRetry (manufacturerId : Nat)
  | request (key : DiscoveryKey)
  | requestUncached (key : DiscoveryKey)
  | check (key : DiscoveryKey)
  | enqueue (run : Nat)
  | enqueueFails (run : Nat)
  | begin (run : Nat)
  | claimFails (run : Nat)
  | claimBusy (run : Nat)
  | claimed (run : Nat)
  | retry (run : Nat) (eta : Time)
  | finish (run : Nat)

namespace DispatchState

def initial (now : Time) : DispatchState where
  now
  dispatchKeys _ := none
  retryKeys _ := none
  runs _ := none
  nextRun := 0
  checking := []
  outstanding := []

def setRun (state : DispatchState) (id : Nat) (run : DiscoveryRun) : DispatchState :=
  { state with runs := Function.update state.runs id (some run) }

/-- A new run whose dispatcher goes on to queue it. -/
def newRun (state : DispatchState) (key : DiscoveryKey) : DispatchState :=
  { state.setRun state.nextRun ⟨key, .dispatching⟩ with nextRun := state.nextRun + 1 }

/-- The first half of `claim_discovery_dispatch`: `cache.add`. -/
def claimDiscoveryDispatch (state : DispatchState) (key : DiscoveryKey) : DispatchState :=
  match Cache.add state.dispatchKeys state.now key state.nextRun discoveryDispatchCoalesce with
  | (dispatchKeys, true) => { state.newRun key with dispatchKeys }
  | (_, false) => { state with checking := state.checking ++ [key] }

/-- The second half of `claim_discovery_dispatch`: `cache.get`. -/
def checkDiscoveryDispatch (state : DispatchState) (key : DiscoveryKey) : DispatchState :=
  let state := { state with checking := state.checking.erase key }
  match Cache.get state.dispatchKeys state.now key with
  | none => state.newRun key
  | some _ => { state with outstanding := state.outstanding ++ [key] }

def releaseDiscoveryDispatch (state : DispatchState) (key : DiscoveryKey) : DispatchState :=
  { state with dispatchKeys := Cache.delete state.dispatchKeys key }

/-- The busy branch of `run_manufacturer_discovery_task`: the task is scheduled again, or dropped
where a retry is waiting already. -/
def retryBusyTask (state : DispatchState) (id : Nat) (key : DiscoveryKey) (eta : Time) :
    DispatchState :=
  match Cache.add state.retryKeys state.now key.manufacturerId id busyRetryCoalesce with
  | (retryKeys, true) => { state.setRun id ⟨key, .scheduled eta⟩ with retryKeys }
  | (_, false) =>
      { state.setRun id ⟨key, .ended⟩ with outstanding := state.outstanding ++ [key] }

/-- What an event does with the run it is about, given the run's phase. -/
def onRun (state : DispatchState) (id : Nat)
    (act : DiscoveryKey → RunPhase → Option DispatchState) : Option DispatchState :=
  match state.runs id with
  | some run => act run.key run.phase
  | none => none

/-- One step of the machine; an event that is not possible leads nowhere. -/
def apply (state : DispatchState) : DispatchEvent → Option DispatchState
  | .wait duration => some { state with now := state.now + duration }
  | .evictDispatch key => some (state.releaseDiscoveryDispatch key)
  | .evictRetry manufacturerId =>
      some { state with retryKeys := Cache.delete state.retryKeys manufacturerId }
  | .request key => some (state.claimDiscoveryDispatch key)
  | .requestUncached key => some (state.newRun key)
  | .check key => if key ∈ state.checking then some (state.checkDiscoveryDispatch key) else none
  | .enqueue id => state.onRun id fun key phase =>
      if phase = .dispatching then some (state.setRun id ⟨key, .queued⟩) else none
  | .enqueueFails id => state.onRun id fun key phase =>
      if phase = .dispatching then
        some ((state.setRun id ⟨key, .ended⟩).releaseDiscoveryDispatch key)
      else none
  | .begin id => state.onRun id fun key phase =>
      match phase with
      | .queued => some (state.setRun id ⟨key, .claiming⟩)
      | .scheduled eta => if eta ≤ state.now then some (state.setRun id ⟨key, .claiming⟩) else none
      | _ => none
  | .claimFails id => state.onRun id fun key phase =>
      if phase = .claiming then some (state.setRun id ⟨key, .ended⟩) else none
  | .claimBusy id => state.onRun id fun key phase =>
      if phase = .claiming then some (state.setRun id ⟨key, .busy⟩) else none
  | .claimed id => state.onRun id fun key phase =>
      if phase = .claiming then
        some { state.setRun id ⟨key, .reading⟩ with
          outstanding := state.outstanding.filter (· ≠ key) }
      else none
  | .retry id eta => state.onRun id fun key phase =>
      if phase = .busy ∧ state.now + busyRetryDelay ≤ eta then some (state.retryBusyTask id key eta)
      else none
  | .finish id => state.onRun id fun key phase =>
      if phase = .reading then some (state.setRun id ⟨key, .ended⟩) else none

/-- A run for the manufacturer and the scan flags that has not started reading the inventory. -/
def HasPending (state : DispatchState) (key : DiscoveryKey) : Prop :=
  ∃ id run, state.runs id = some run ∧ run.key = key ∧ run.phase.isPending = true

/-- The events that drop no request for good. A request is turned away by a dispatch window only
while the run that claimed it is still pending, a busy task by a retry window only if that was
claimed with its own scan flags, and no run fails, before or at its claim, for which requests are
outstanding. -/
def KeepsRequests (state : DispatchState) : DispatchEvent → Prop
  | .check key => ∀ owner, Cache.get state.dispatchKeys state.now key = some owner →
      ∀ run, state.runs owner = some run → run.phase.isPending = true
  | .enqueueFails id | .claimFails id => ∀ run, state.runs id = some run →
      run.key ∉ state.outstanding
  | .retry id _ => ∀ run owner other, state.runs id = some run →
      Cache.get state.retryKeys state.now run.key.manufacturerId = some owner →
      state.runs owner = some other → other.key = run.key
  | _ => True

def Step (allowed : DispatchState → DispatchEvent → Prop) (state state' : DispatchState) : Prop :=
  ∃ event, allowed state event ∧ state.apply event = some state'

/-- What holds at every time. A retry window stands for a scheduled run of its manufacturer that cannot
start before the window has expired. -/
structure Inv (state : DispatchState) : Prop where
  fresh : ∀ id, state.nextRun ≤ id → state.runs id = none
  dispatch : ∀ key entry, state.dispatchKeys key = some entry →
    ∃ run, state.runs entry.value = some run ∧ run.key = key
  retry : ∀ manufacturerId entry, state.retryKeys manufacturerId = some entry →
    state.now < entry.expires → ∃ run eta, state.runs entry.value = some run ∧
      run.key.manufacturerId = manufacturerId ∧ run.phase = .scheduled eta ∧ entry.expires ≤ eta
  outstanding : ∀ key ∈ state.outstanding, state.HasPending key

theorem ite_eq_some {p : Prop} [Decidable p] {state state' : DispatchState} :
    (if p then some state else none) = some state' ↔ p ∧ state = state' := by
  by_cases h : p <;> simp [h]

theorem onRun_eq_some {state state' : DispatchState} {id : Nat}
    {act : DiscoveryKey → RunPhase → Option DispatchState} :
    state.onRun id act = some state' ↔
      ∃ run, state.runs id = some run ∧ act run.key run.phase = some state' := by
  rw [onRun]
  cases state.runs id with
  | none => simp
  | some run => simp

section Inv

variable {state : DispatchState}

theorem Inv.setRun (h : state.Inv) {id : Nat} {run : DiscoveryRun} (hrun : state.runs id = some run)
    {phase : RunPhase} (hdue : ∀ eta, run.phase = .scheduled eta → eta ≤ state.now)
    (hpending : run.phase.isPending = true → run.key ∈ state.outstanding →
      (state.setRun id ⟨run.key, phase⟩).HasPending run.key) :
    (state.setRun id ⟨run.key, phase⟩).Inv where
  fresh other hother := by
    have hne : other ≠ id := by
      rintro rfl
      rw [h.fresh other hother] at hrun
      cases hrun
    exact (Function.update_of_ne hne _ _).trans (h.fresh other hother)
  dispatch key entry hentry := by
    obtain ⟨found, hfound, hkey⟩ := h.dispatch key entry hentry
    by_cases hid : entry.value = id
    · rw [hid, hrun] at hfound
      cases hfound
      exact ⟨⟨run.key, phase⟩, by rw [hid]; exact Function.update_self _ _ _, hkey⟩
    · exact ⟨found, (Function.update_of_ne hid _ _).trans hfound, hkey⟩
  retry manufacturerId entry hentry hlive := by
    obtain ⟨found, eta, hfound, hmanufacturer, hphase, heta⟩ :=
      h.retry manufacturerId entry hentry hlive
    have hne : entry.value ≠ id := by
      intro hid
      rw [hid, hrun] at hfound
      cases hfound
      exact absurd (lt_of_lt_of_le hlive heta) (not_lt.mpr (hdue eta hphase))
    exact ⟨found, eta, (Function.update_of_ne hne _ _).trans hfound, hmanufacturer, hphase, heta⟩
  outstanding key hkey := by
    obtain ⟨other, found, hfound, hsame, hpends⟩ := h.outstanding key hkey
    by_cases hid : other = id
    · rw [hid, hrun] at hfound
      cases hfound
      rw [← hsame] at hkey ⊢
      exact hpending hpends hkey
    · exact ⟨other, found, (Function.update_of_ne hid _ _).trans hfound, hsame, hpends⟩

theorem hasPending_setRun (state : DispatchState) (id : Nat) (key : DiscoveryKey) {phase : RunPhase}
    (hpending : phase.isPending = true) : (state.setRun id ⟨key, phase⟩).HasPending key :=
  ⟨id, _, Function.update_self _ _ _, rfl, hpending⟩

theorem Inv.newRun (h : state.Inv) (key : DiscoveryKey) : (state.newRun key).Inv := by
  have hne : ∀ {id run}, state.runs id = some run → id ≠ state.nextRun := by
    rintro id run hrun rfl
    rw [h.fresh _ le_rfl] at hrun
    cases hrun
  have hkept : ∀ {id run}, state.runs id = some run → (state.newRun key).runs id = some run :=
    fun hrun => (Function.update_of_ne (hne hrun) _ _).trans hrun
  constructor
  case fresh =>
    intro id hid
    have hid : state.nextRun + 1 ≤ id := hid
    have hother : id ≠ state.nextRun := by omega
    exact (Function.update_of_ne hother _ _).trans (h.fresh id (by omega))
  case dispatch =>
    intro other entry hentry
    obtain ⟨run, hrun, hkey⟩ := h.dispatch other entry hentry
    exact ⟨run, hkept hrun, hkey⟩
  case retry =>
    intro manufacturerId entry hentry hlive
    obtain ⟨run, eta, hrun, hrest⟩ := h.retry manufacturerId entry hentry hlive
    exact ⟨run, eta, hkept hrun, hrest⟩
  case outstanding =>
    intro other hother
    obtain ⟨id, run, hrun, hrest⟩ := h.outstanding other hother
    exact ⟨id, run, hkept hrun, hrest⟩

theorem Inv.outstanding_append (h : state.Inv) {key : DiscoveryKey} (hkey : state.HasPending key) :
    Inv { state with outstanding := state.outstanding ++ [key] } where
  fresh := h.fresh
  dispatch := h.dispatch
  retry := h.retry
  outstanding other hother := by
    rcases List.mem_append.mp hother with hother | hother
    · exact h.outstanding other hother
    · rw [List.mem_singleton.mp hother]
      exact hkey

theorem Inv.claimDiscoveryDispatch (h : state.Inv) (key : DiscoveryKey) :
    (state.claimDiscoveryDispatch key).Inv := by
  rw [DispatchState.claimDiscoveryDispatch, Cache.add]
  split
  next dispatchKeys hadd =>
    split at hadd
    next => cases hadd
    next =>
      cases hadd
      have hnew := h.newRun key
      refine ⟨hnew.fresh, fun other entry hentry => ?_, hnew.retry, hnew.outstanding⟩
      rcases Cache.set_eq_some hentry with ⟨rfl, rfl⟩ | hentry
      · exact ⟨⟨other, .dispatching⟩, Function.update_self _ _ _, rfl⟩
      · exact hnew.dispatch other entry hentry
  next => exact ⟨h.fresh, h.dispatch, h.retry, h.outstanding⟩

theorem Inv.checkDiscoveryDispatch (h : state.Inv) {key : DiscoveryKey}
    (hkeeps : state.KeepsRequests (.check key)) : (state.checkDiscoveryDispatch key).Inv := by
  have hchecked : Inv { state with checking := state.checking.erase key } :=
    ⟨h.fresh, h.dispatch, h.retry, h.outstanding⟩
  rw [DispatchState.checkDiscoveryDispatch]
  dsimp only
  split
  next => exact hchecked.newRun key
  next owner howner =>
    obtain ⟨entry, hentry, -, rfl⟩ := Cache.get_eq_some.mp howner
    obtain ⟨run, hrun, hkey⟩ := h.dispatch key entry hentry
    exact hchecked.outstanding_append ⟨_, run, hrun, hkey, hkeeps _ howner run hrun⟩

theorem Inv.releaseDiscoveryDispatch (h : state.Inv) (key : DiscoveryKey) :
    (state.releaseDiscoveryDispatch key).Inv :=
  ⟨h.fresh, fun other entry hentry => h.dispatch other entry (Cache.delete_eq_some hentry), h.retry,
    h.outstanding⟩

/-- A busy task that is scheduled again leaves its window behind, which expires before it can start; one
that is dropped leaves its request to the task whose window it met. -/
theorem Inv.retryBusyTask (h : state.Inv) {id : Nat} {run : DiscoveryRun} {eta : Time}
    (hrun : state.runs id = some run) (hbusy : run.phase = .busy)
    (heta : state.now + busyRetryDelay ≤ eta) (hkeeps : state.KeepsRequests (.retry id eta)) :
    (state.retryBusyTask id run.key eta).Inv := by
  have hdue : ∀ eta, run.phase = .scheduled eta → eta ≤ state.now := by
    intro eta hphase
    rw [hbusy] at hphase
    cases hphase
  rw [DispatchState.retryBusyTask, Cache.add]
  split
  next retryKeys hadd =>
    split at hadd
    next => cases hadd
    next =>
      cases hadd
      have hscheduled : (state.setRun id ⟨run.key, .scheduled eta⟩).HasPending run.key :=
        hasPending_setRun state id run.key rfl
      have hset := h.setRun hrun hdue fun _ _ => hscheduled
      refine ⟨hset.fresh, hset.dispatch, fun manufacturerId entry hentry hlive => ?_,
        hset.outstanding⟩
      rcases Cache.set_eq_some hentry with ⟨rfl, rfl⟩ | hentry
      · refine ⟨⟨run.key, .scheduled eta⟩, eta, Function.update_self _ _ _, rfl, rfl, ?_⟩
        exact le_trans (Int.add_le_add_left (by decide) _) heta
      · exact hset.retry manufacturerId entry hentry hlive
  next hadd =>
    split at hadd
    next hsome =>
      obtain ⟨owner, howner⟩ := Option.isSome_iff_exists.mp hsome
      obtain ⟨entry, hentry, hlive, rfl⟩ := Cache.get_eq_some.mp howner
      obtain ⟨other, due, hother, -, hphase, -⟩ := h.retry _ entry hentry hlive
      have hsame : other.key = run.key := hkeeps run _ other hrun howner hother
      have hne : entry.value ≠ id := by
        intro heq
        rw [heq, hrun] at hother
        cases hother
        rw [hbusy] at hphase
        cases hphase
      have hleft : (state.setRun id ⟨run.key, .ended⟩).HasPending run.key :=
        ⟨entry.value, other, (Function.update_of_ne hne _ _).trans hother, hsame, by rw [hphase]; rfl⟩
      exact (h.setRun hrun hdue fun _ _ => hleft).outstanding_append hleft
    next => cases hadd

/-- One step that drops no request for good keeps the invariant. -/
theorem Inv.apply (h : state.Inv) {event : DispatchEvent} {state' : DispatchState}
    (hkeeps : state.KeepsRequests event) (happly : state.apply event = some state') :
    state'.Inv := by
  cases event with
  | wait duration =>
      cases happly
      refine ⟨h.fresh, h.dispatch, fun manufacturerId entry hentry hlive => ?_, h.outstanding⟩
      refine h.retry manufacturerId entry hentry (lt_of_le_of_lt ?_ hlive)
      exact Int.le_add_of_nonneg_right (Int.natCast_nonneg duration)
  | evictDispatch key =>
      cases happly
      exact h.releaseDiscoveryDispatch key
  | evictRetry manufacturerId =>
      cases happly
      exact ⟨h.fresh, h.dispatch, fun other entry hentry =>
        h.retry other entry (Cache.delete_eq_some hentry), h.outstanding⟩
  | request key =>
      cases happly
      exact h.claimDiscoveryDispatch key
  | requestUncached key =>
      cases happly
      exact h.newRun key
  | check key =>
      rw [DispatchState.apply] at happly
      split at happly
      next =>
        cases happly
        exact h.checkDiscoveryDispatch hkeeps
      next => cases happly
  | enqueue id =>
      simp only [DispatchState.apply, onRun_eq_some, ite_eq_some] at happly
      obtain ⟨run, hrun, hphase, rfl⟩ := happly
      exact h.setRun hrun (hphase ▸ fun _ => RunPhase.noConfusion) fun _ _ =>
        hasPending_setRun state id run.key rfl
  | enqueueFails id =>
      simp only [DispatchState.apply, onRun_eq_some, ite_eq_some] at happly
      obtain ⟨run, hrun, hphase, rfl⟩ := happly
      exact (h.setRun hrun (hphase ▸ fun _ => RunPhase.noConfusion) fun _ hmem =>
        absurd hmem (hkeeps run hrun)).releaseDiscoveryDispatch run.key
  | begin id =>
      simp only [DispatchState.apply, onRun_eq_some] at happly
      obtain ⟨run, hrun, hact⟩ := happly
      have hclaiming : (state.setRun id ⟨run.key, .claiming⟩).HasPending run.key :=
        hasPending_setRun state id run.key rfl
      split at hact
      next hphase =>
        cases hact
        exact h.setRun hrun (hphase ▸ fun _ => RunPhase.noConfusion) fun _ _ => hclaiming
      next eta hphase =>
        obtain ⟨hdue, rfl⟩ := ite_eq_some.mp hact
        refine h.setRun hrun (fun other hother => ?_) fun _ _ => hclaiming
        cases hphase.symm.trans hother
        exact hdue
      next => cases hact
  | claimFails id =>
      simp only [DispatchState.apply, onRun_eq_some, ite_eq_some] at happly
      obtain ⟨run, hrun, hphase, rfl⟩ := happly
      exact h.setRun hrun (hphase ▸ fun _ => RunPhase.noConfusion) fun _ hmem =>
        absurd hmem (hkeeps run hrun)
  | claimBusy id =>
      simp only [DispatchState.apply, onRun_eq_some, ite_eq_some] at happly
      obtain ⟨run, hrun, hphase, rfl⟩ := happly
      exact h.setRun hrun (hphase ▸ fun _ => RunPhase.noConfusion) fun _ _ =>
        hasPending_setRun state id run.key rfl
  | claimed id =>
      simp only [DispatchState.apply, onRun_eq_some, ite_eq_some] at happly
      obtain ⟨run, hrun, hphase, rfl⟩ := happly
      have htaken : Inv { state with outstanding := state.outstanding.filter (· ≠ run.key) } :=
        ⟨h.fresh, h.dispatch, h.retry, fun key hkey => h.outstanding key (List.mem_filter.mp hkey).1⟩
      exact htaken.setRun hrun (hphase ▸ fun _ => RunPhase.noConfusion) fun _ hmem =>
        absurd rfl (of_decide_eq_true (List.mem_filter.mp hmem).2)
  | retry id eta =>
      simp only [DispatchState.apply, onRun_eq_some, ite_eq_some] at happly
      obtain ⟨run, hrun, ⟨hphase, heta⟩, rfl⟩ := happly
      exact h.retryBusyTask hrun hphase heta hkeeps
  | finish id =>
      simp only [DispatchState.apply, onRun_eq_some, ite_eq_some] at happly
      obtain ⟨run, hrun, hphase, rfl⟩ := happly
      refine h.setRun hrun (hphase ▸ fun _ => RunPhase.noConfusion) fun hpending => ?_
      rw [hphase] at hpending
      cases hpending

theorem inv_initial (now : Time) : (initial now).Inv where
  fresh _ _ := rfl
  dispatch _ _ h := by cases h
  retry _ _ h := by cases h
  outstanding _ h := by cases h

/-- In a run whose events drop no request for good, every dropped request that no run has taken up since
it was dropped still has a run for its manufacturer and scan flags that has not started reading. -/
theorem dropped_requests_pending {now : Time}
    (hrun : Relation.ReflTransGen (Step KeepsRequests) (initial now) state) :
    ∀ key ∈ state.outstanding, state.HasPending key := by
  have hinv : state.Inv := by
    induction hrun with
    | refl => exact inv_initial now
    | tail _ hstep ih =>
        obtain ⟨event, hkeeps, happly⟩ := hstep
        exact ih.apply hkeeps happly
  exact hinv.outstanding

end Inv

theorem steps_of_events {events : List DispatchEvent} {state state' : DispatchState}
    (h : events.foldlM apply state = some state') :
    Relation.ReflTransGen (Step fun _ _ => True) state state' := by
  induction events generalizing state with
  | nil =>
      cases h
      exact .refl
  | cons event rest ih =>
      rw [List.foldlM_cons] at h
      obtain ⟨middle, happly, hrest⟩ := Option.bind_eq_some_iff.mp h
      exact .head ⟨event, trivial, happly⟩ (ih hrest)

/-- A second request meets the window of a run that reads the inventory already. -/
def lateRequest : List DispatchEvent :=
  [.request ⟨1, false, false⟩, .enqueue 0, .begin 0, .claimed 0, .request ⟨1, false, false⟩,
    .check ⟨1, false, false⟩]

/-- A busy task that expands the scan registry meets the window of one that does not. -/
def otherRetry : List DispatchEvent :=
  [.request ⟨1, false, false⟩, .enqueue 0, .begin 0, .claimBusy 0, .retry 0 15000000,
    .request ⟨1, true, true⟩, .enqueue 1, .begin 1, .claimBusy 1, .retry 1 15000000]

/-- Both requests are dropped with no run left for them. -/
theorem requests_lost :
    (∃ state, Relation.ReflTransGen (Step fun _ _ => True) (initial 0) state ∧
      ⟨1, false, false⟩ ∈ state.outstanding ∧ ¬ state.HasPending ⟨1, false, false⟩) ∧
    ∃ state, Relation.ReflTransGen (Step fun _ _ => True) (initial 0) state ∧
      ⟨1, true, true⟩ ∈ state.outstanding ∧ ¬ state.HasPending ⟨1, true, true⟩ := by
  constructor
  · have hevents : lateRequest.foldlM apply (initial 0) = some _ := rfl
    refine ⟨_, steps_of_events hevents, List.mem_singleton_self _, ?_⟩
    rintro ⟨id, run, hrun, -, hpending⟩
    match id with
    | 0 =>
        cases hrun
        cases hpending
    | id + 1 => cases hrun
  · have hevents : otherRetry.foldlM apply (initial 0) = some _ := rfl
    refine ⟨_, steps_of_events hevents, List.mem_singleton_self _, ?_⟩
    rintro ⟨id, run, hrun, hkey, hpending⟩
    match id with
    | 0 =>
        cases hrun
        cases hkey
    | 1 =>
        cases hrun
        cases hpending
    | id + 2 => cases hrun

/-- A second request while the first one is queued is dropped, and the queued run stands for it. -/
theorem dropped_requests_pending_queued : ∃ state : DispatchState,
    ⟨1, false, false⟩ ∈ state.outstanding ∧ state.HasPending ⟨1, false, false⟩ := by
  have hrun : Relation.ReflTransGen (Step KeepsRequests) (initial 0)
      ((((initial 0).claimDiscoveryDispatch ⟨1, false, false⟩).claimDiscoveryDispatch
        ⟨1, false, false⟩).checkDiscoveryDispatch ⟨1, false, false⟩) := by
    refine .tail (.tail (.tail .refl ⟨.request ⟨1, false, false⟩, trivial, rfl⟩)
      ⟨.request ⟨1, false, false⟩, trivial, rfl⟩) ⟨.check ⟨1, false, false⟩, ?_, rfl⟩
    intro owner howner run hrun
    cases howner
    cases hrun
    rfl
  exact ⟨_, List.mem_singleton_self _, dropped_requests_pending hrun _ (List.mem_singleton_self _)⟩

end DispatchState

end Micboard
