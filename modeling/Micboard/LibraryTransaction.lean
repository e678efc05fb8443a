import Mathlib.Logic.Function.Basic
import Mathlib.Logic.Relation

/-! Concurrent database transactions under READ COMMITTED. A transaction takes exclusive locks that it
holds until it ends, reads the committed state with its own pending writes applied, and makes the
pending writes the committed state when it commits; sessions interleave at every statement, and a
transaction may be aborted anywhere. What all transactions keep is derived from what each of them
knows: a fact about the committed state that the locks it holds protect from every other session. -/

namespace Library.Transaction

variable {σ κ χ ι : Type*}

/-- The statements a transaction still has to run. -/
inductive Program (σ κ : Type*) where
  | lock (key : κ) (next : Program σ κ)
  | read (next : σ → Program σ κ)
  | write (change : σ → σ) (next : Program σ κ)
  | commit
  | rollback

/-- An open transaction: the call it runs, the states its reads returned (the latest first), its
pending writes and its remaining statements. -/
structure Session (σ κ χ : Type*) where
  call : χ
  seen : List σ
  pending : σ → σ
  rest : Program σ κ

/-- The committed state, the holder of each lock and the open transactions. -/
structure State (σ κ χ ι : Type*) where
  store : σ
  owner : κ → Option ι
  sessions : ι → Option (Session σ κ χ)

section Step

variable [DecidableEq ι]

/-- The locks after one session has released all of its own. -/
def release (owner : κ → Option ι) (i : ι) (key : κ) : Option ι :=
  if owner key = some i then none else owner key

/-- One session goes on: its transaction is replaced, nothing is committed. -/
def State.resume (state : State σ κ χ ι) (i : ι) (session : Session σ κ χ) : State σ κ χ ι :=
  { state with sessions := Function.update state.sessions i (some session) }

/-- The state after session `i` has ended its transaction and left `store` behind. -/
def State.finish (state : State σ κ χ ι) (i : ι) (store : σ) : State σ κ χ ι where
  store
  owner := release state.owner i
  sessions := Function.update state.sessions i none

structure Commits (state : State σ κ χ ι) (i : ι) (session : Session σ κ χ)
    (next : State σ κ χ ι) : Prop where
  opened : state.sessions i = some session
  ready : session.rest = .commit
  next_eq : next = state.finish i (session.pending state.store)

variable [DecidableEq κ]

/-- The steps of the system. `program` says which statements a call runs; `meets` is a condition under
which transactions may commit, for runs in which every commit satisfies it. -/
inductive Step (program : χ → Program σ κ) (meets : Session σ κ χ → σ → Prop)
    (state : State σ κ χ ι) : State σ κ χ ι → Prop where
  | begin (i : ι) (call : χ) (hidle : state.sessions i = none) :
      Step program meets state (state.resume i ⟨call, [], id, program call⟩)
  | lock (i : ι) (session : Session σ κ χ) (key : κ) (rest : Program σ κ)
      (hopen : state.sessions i = some session) (hrest : session.rest = .lock key rest)
      (hfree : state.owner key = none ∨ state.owner key = some i) :
      Step program meets state
        { state.resume i { session with rest } with
          owner := Function.update state.owner key (some i) }
  | read (i : ι) (session : Session σ κ χ) (next : σ → Program σ κ)
      (hopen : state.sessions i = some session) (hrest : session.rest = .read next) :
      Step program meets state (state.resume i { session with
        seen := session.pending state.store :: session.seen
        rest := next (session.pending state.store) })
  | write (i : ι) (session : Session σ κ χ) (change : σ → σ) (rest : Program σ κ)
      (hopen : state.sessions i = some session) (hrest : session.rest = .write change rest) :
      Step program meets state (state.resume i { session with
        pending := change ∘ session.pending
        rest })
  | commit (i : ι) (session : Session σ κ χ) (next : State σ κ χ ι)
      (hcommit : Commits state i session next) (hmeets : meets session state.store) :
      Step program meets state next
  | abort (i : ι) (session : Session σ κ χ) (hopen : state.sessions i = some session) :
      Step program meets state (state.finish i state.store)

end Step

/-- What a schedule names: a call that a session starts, or the next statement of a session. -/
inductive Event (χ ι : Type*) where
  | start (i : ι) (call : χ)
  | go (i : ι)

section Schedule

variable [DecidableEq ι] [DecidableEq κ] (program : χ → Program σ κ)
  (meets : Session σ κ χ → σ → Prop) [∀ session s, Decidable (meets session s)]

/-- The state after an event, if the event is possible. -/
def State.perform (state : State σ κ χ ι) : Event χ ι → Option (State σ κ χ ι)
  | .start i call =>
    match state.sessions i with
    | none => some (state.resume i ⟨call, [], id, program call⟩)
    | some _ => none
  | .go i =>
    match state.sessions i with
    | none => none
    | some session =>
      match session.rest with
      | .lock key rest =>
        if state.owner key = none ∨ state.owner key = some i then
          some { state.resume i { session with rest } with
            owner := Function.update state.owner key (some i) }
        else none
      | .read next => some (state.resume i { session with
          seen := session.pending state.store :: session.seen
          rest := next (session.pending state.store) })
      | .write change rest => some (state.resume i { session with
          pending := change ∘ session.pending
          rest })
      | .commit =>
        if meets session state.store then some (state.finish i (session.pending state.store)) else none
      | .rollback => some (state.finish i state.store)

variable {program meets}

theorem step_of_perform {state next : State σ κ χ ι} {event : Event χ ι}
    (h : state.perform program meets event = some next) : Step program meets state next := by
  cases event with
  | start i call =>
      simp only [State.perform] at h
      split at h
      next hidle =>
        cases h
        exact .begin i call hidle
      next => cases h
  | go i =>
      simp only [State.perform] at h
      split at h
      next => cases h
      next session hopen =>
        split at h
        next key rest hrest =>
          split at h
          next hfree =>
            cases h
            exact .lock i session key rest hopen hrest hfree
          next => cases h
        next next hrest =>
          cases h
          exact .read i session next hopen hrest
        next change rest hrest =>
          cases h
          exact .write i session change rest hopen hrest
        next hrest =>
          split at h
          next hmeets =>
            cases h
            exact .commit i session _ ⟨hopen, hrest, rfl⟩ hmeets
          next => cases h
        next hrest =>
          cases h
          exact .abort i session hopen

theorem run_of_schedule {state next : State σ κ χ ι} {events : List (Event χ ι)}
    (h : events.foldlM (State.perform program meets) state = some next) :
    Relation.ReflTransGen (Step program meets) state next := by
  induction events generalizing state with
  | nil =>
      cases h
      exact .refl
  | cons event rest ih =>
      obtain ⟨mid, hmid, hrest⟩ := Option.bind_eq_some_iff.mp h
      exact .head (step_of_perform hmid) (ih hrest)

end Schedule

/-! ### What every transaction keeps -/

/-- What all transactions agree on: the invariant of the committed state, and what the transaction of a
call may change when it holds the given locks. -/
structure Discipline (σ κ χ : Type*) where
  inv : σ → Prop
  change : χ → (κ → Prop) → σ → σ → Prop

/-- A fact that no transaction without the locks `held` can invalidate. -/
def Discipline.Stable (d : Discipline σ κ χ) (held : κ → Prop) (know : σ → Prop) : Prop :=
  ∀ call others s t, (∀ key, others key → ¬held key) → d.inv s → d.inv t →
    d.change call others s t → know s → know t

/-- A transaction that holds the locks `held`, knows `know` of the committed state and has `pending`
writes keeps to the discipline, whatever the other sessions do in between. -/
inductive Follows (d : Discipline σ κ χ) (meets : Session σ κ χ → σ → Prop) (call : χ) :
    (κ → Prop) → (σ → Prop) → List σ → (σ → σ) → Program σ κ → Prop where
  | lock {held : κ → Prop} {know : σ → Prop} {seen : List σ} {pending : σ → σ} {key : κ}
      {next : Program σ κ}
      (h : Follows d meets call (fun k => k = key ∨ held k) know seen pending next) :
      Follows d meets call held know seen pending (.lock key next)
  | read {held : κ → Prop} {know : σ → Prop} {seen : List σ} {pending : σ → σ}
      {next : σ → Program σ κ} (learn : σ → σ → Prop)
      (hlearn : ∀ s, d.inv s → know s → learn s s)
      (hstable : ∀ s, d.inv s → know s → d.Stable held (learn s))
      (h : ∀ s, d.inv s → know s →
        Follows d meets call held (learn s) (pending s :: seen) pending (next (pending s))) :
      Follows d meets call held know seen pending (.read next)
  | write {held : κ → Prop} {know : σ → Prop} {seen : List σ} {pending change : σ → σ}
      {next : Program σ κ} (h : Follows d meets call held know seen (change ∘ pending) next) :
      Follows d meets call held know seen pending (.write change next)
  | commit {held : κ → Prop} {know : σ → Prop} {seen : List σ} {pending : σ → σ}
      (h : ∀ s, d.inv s → know s → meets ⟨call, seen, pending, .commit⟩ s →
        d.inv (pending s) ∧ d.change call held s (pending s)) :
      Follows d meets call held know seen pending .commit
  | rollback {held : κ → Prop} {know : σ → Prop} {seen : List σ} {pending : σ → σ} :
      Follows d meets call held know seen pending .rollback

theorem Discipline.Stable.mono {d : Discipline σ κ χ} {held more : κ → Prop} {know : σ → Prop}
    (h : d.Stable held know) (hmore : ∀ key, held key → more key) : d.Stable more know := by
  intro call others s t hothers hs ht hchange hknow
  exact h call others s t (fun key hkey hheld => hothers key hkey (hmore key hheld)) hs ht hchange hknow

theorem Discipline.Stable.and {d : Discipline σ κ χ} {held : κ → Prop} {know know' : σ → Prop}
    (h : d.Stable held know) (h' : d.Stable held know') :
    d.Stable held fun s => know s ∧ know' s := by
  intro call others s t hothers hs ht hchange hknow
  exact ⟨h call others s t hothers hs ht hchange hknow.1,
    h' call others s t hothers hs ht hchange hknow.2⟩

theorem Discipline.stable_true (d : Discipline σ κ χ) (held : κ → Prop) :
    d.Stable held fun _ => True :=
  fun _ _ _ _ _ _ _ _ _ => trivial

/-- A call that never meets the condition of a commit may do anything. -/
theorem Follows.of_never {d : Discipline σ κ χ} {meets : Session σ κ χ → σ → Prop} {call : χ}
    (h : ∀ session s, session.call = call → ¬ meets session s) (program : Program σ κ) :
    ∀ {held : κ → Prop} {know : σ → Prop} {seen : List σ} {pending : σ → σ},
      Follows d meets call held know seen pending program := by
  induction program with
  | lock key next ih => exact .lock ih
  | read next ih =>
      intro held know seen pending
      exact .read (fun _ _ => True) (fun _ _ _ => trivial) (fun _ _ _ => d.stable_true held)
        fun s _ _ => ih (pending s)
  | write change next ih => exact .write ih
  | commit => exact .commit fun s _ _ hmeets => absurd hmeets (h _ s rfl)
  | rollback => exact .rollback

/-- The locks a session holds. -/
def State.held (state : State σ κ χ ι) (i : ι) (key : κ) : Prop := state.owner key = some i

/-- Every open transaction follows the discipline, and only open transactions hold locks. -/
structure Disciplined (d : Discipline σ κ χ) (meets : Session σ κ χ → σ → Prop)
    (state : State σ κ χ ι) : Prop where
  inv : d.inv state.store
  follows : ∀ i session, state.sessions i = some session →
    ∃ know, know state.store ∧ d.Stable (state.held i) know ∧
      Follows d meets session.call (state.held i) know session.seen session.pending session.rest
  idle : ∀ i, state.sessions i = none → ∀ key, ¬state.held i key

/-- A system in which no transaction is open. -/
def State.quiet (store : σ) : State σ κ χ ι := ⟨store, fun _ => none, fun _ => none⟩

theorem disciplined_quiet {d : Discipline σ κ χ} {meets : Session σ κ χ → σ → Prop} {store : σ}
    (h : d.inv store) : Disciplined d meets (State.quiet store : State σ κ χ ι) := by
  refine ⟨h, fun i session hi => ?_, fun i _ key hkey => ?_⟩
  · cases hi
  · cases hkey

section Run

variable [DecidableEq ι] {program : χ → Program σ κ} {meets : Session σ κ χ → σ → Prop}
  {d : Discipline σ κ χ} {state next : State σ κ χ ι}

theorem resume_self (i : ι) (session : Session σ κ χ) :
    (state.resume i session).sessions i = some session :=
  Function.update_self ..

theorem resume_of_ne {i j : ι} (h : j ≠ i) (session : Session σ κ χ) :
    (state.resume i session).sessions j = state.sessions j :=
  Function.update_of_ne h ..

theorem held_finish {i j : ι} {store : σ} {key : κ} :
    (state.finish i store).held j key ↔ state.held j key ∧ j ≠ i := by
  simp only [State.held, State.finish, release]
  split
  next h =>
    constructor
    · intro hj
      cases hj
    · rintro ⟨hj, hne⟩
      exact absurd (Option.some.inj (hj.symm.trans h)) hne
  next h =>
    refine ⟨fun hj => ⟨hj, ?_⟩, And.left⟩
    rintro rfl
    exact h hj

/-- A session that goes on without touching the committed state or the locks keeps the discipline if
its own transaction does. -/
theorem Disciplined.resume (h : Disciplined d meets state) {i : ι} {session : Session σ κ χ}
    (hfollows : ∃ know, know state.store ∧ d.Stable (state.held i) know ∧
      Follows d meets session.call (state.held i) know session.seen session.pending session.rest) :
    Disciplined d meets (state.resume i session) := by
  refine ⟨h.inv, fun j session' hj => ?_, fun j hj => ?_⟩
  · by_cases hji : j = i
    · subst hji
      rw [resume_self] at hj
      cases hj
      exact hfollows
    · rw [resume_of_ne hji] at hj
      exact h.follows j session' hj
  · by_cases hji : j = i
    · subst hji
      rw [resume_self] at hj
      cases hj
    · rw [resume_of_ne hji] at hj
      exact h.idle j hj

/-- The end of a transaction keeps the discipline if the change it leaves is one its locks allow. -/
theorem Disciplined.finish (h : Disciplined d meets state) {i : ι} {store : σ} (hinv : d.inv store)
    (hchange : store = state.store ∨ ∃ call, d.change call (state.held i) state.store store) :
    Disciplined d meets (state.finish i store) := by
  refine ⟨hinv, fun j session hj => ?_, fun j hj key hkey => ?_⟩
  · by_cases hji : j = i
    · subst hji
      rw [show (state.finish j store).sessions j = none from Function.update_self ..] at hj
      cases hj
    · rw [show (state.finish i store).sessions j = state.sessions j from
        Function.update_of_ne hji ..] at hj
      obtain ⟨know, hknow, hstable, hfollows⟩ := h.follows j session hj
      have hheld : (state.finish i store).held j = state.held j := by
        funext key
        exact propext (held_finish.trans (and_iff_left hji))
      rw [hheld]
      refine ⟨know, ?_, hstable, hfollows⟩
      rcases hchange with rfl | ⟨call, hchange⟩
      · exact hknow
      · refine hstable call (state.held i) state.store store (fun key hi hj => ?_) h.inv hinv hchange
          hknow
        exact hji (Option.some.inj (hj.symm.trans hi))
  · obtain ⟨hkey, hji⟩ := held_finish.mp hkey
    rw [show (state.finish i store).sessions j = state.sessions j from
      Function.update_of_ne hji ..] at hj
    exact h.idle j hj key hkey

theorem Disciplined.commit (h : Disciplined d meets state) {i : ι} {session : Session σ κ χ}
    (hcommit : Commits state i session next) (hmeets : meets session state.store) :
    d.inv next.store ∧ d.change session.call (state.held i) state.store next.store := by
  obtain ⟨know, hknow, -, hfollows⟩ := h.follows i session hcommit.opened
  obtain ⟨call, seen, pending, rest⟩ := session
  obtain rfl : rest = .commit := hcommit.ready
  cases hfollows with
  | commit hallowed =>
      rw [hcommit.next_eq]
      exact hallowed state.store h.inv hknow hmeets

/-- Every call follows the discipline from its first statement on. -/
def AllFollow (d : Discipline σ κ χ) (meets : Session σ κ χ → σ → Prop)
    (program : χ → Program σ κ) : Prop :=
  ∀ call, Follows d meets call (fun _ => False) (fun _ => True) [] id (program call)

variable [DecidableEq κ]

/-- Every step keeps the discipline, and what it changes is allowed by some session's locks. -/
theorem Disciplined.step (hcalls : AllFollow d meets program) (h : Disciplined d meets state)
    (hstep : Step program meets state next) :
    Disciplined d meets next ∧
      (next.store = state.store ∨
        ∃ call i, d.change call (state.held i) state.store next.store) := by
  cases hstep with
  | begin i call hidle =>
      refine ⟨h.resume ⟨fun _ => True, trivial, d.stable_true _, ?_⟩, .inl rfl⟩
      have hheld : state.held i = fun _ => False := by
        funext key
        exact propext ⟨h.idle i hidle key, False.elim⟩
      rw [hheld]
      exact hcalls call
  | lock i session key rest hopen hrest hfree =>
      have hother : ∀ j k, j ≠ i →
          (Function.update state.owner key (some i) k = some j ↔ state.owner k = some j) := by
        intro j k hji
        by_cases hk : k = key
        · subst hk
          rw [Function.update_self]
          constructor
          · intro heq
            exact absurd (Option.some.inj heq).symm hji
          · intro heq
            rcases hfree with hnone | hsome
            · rw [hnone] at heq
              cases heq
            · exact absurd (Option.some.inj (heq.symm.trans hsome)) hji
        · rw [Function.update_of_ne hk]
      obtain ⟨know, hknow, hstable, hfollows⟩ := h.follows i session hopen
      rw [hrest] at hfollows
      refine ⟨⟨h.inv, fun j session' hj => ?_, fun j hj k hk => ?_⟩, .inl rfl⟩
      · by_cases hji : j = i
        · subst hji
          rw [show _ = _ from resume_self j { session with rest }] at hj
          cases hj
          cases hfollows with
          | lock hnext =>
              have hheld : State.held { state.resume j { session with rest } with
                  owner := Function.update state.owner key (some j) } j =
                  fun k => k = key ∨ state.held j k := by
                funext k
                by_cases hk : k = key
                · subst hk
                  simp [State.held]
                · simp [State.held, hk]
              rw [hheld]
              exact ⟨know, hknow, hstable.mono fun k hk => .inr hk, hnext⟩
        · rw [show _ = _ from resume_of_ne hji { session with rest }] at hj
          obtain ⟨know', hknow', hstable', hfollows'⟩ := h.follows j session' hj
          have hheld : State.held { state.resume i { session with rest } with
              owner := Function.update state.owner key (some i) } j = state.held j := by
            funext k
            exact propext (hother j k hji)
          rw [hheld]
          exact ⟨know', hknow', hstable', hfollows'⟩
      · by_cases hji : j = i
        · subst hji
          rw [show _ = _ from resume_self j { session with rest }] at hj
          cases hj
        · rw [show _ = _ from resume_of_ne hji { session with rest }] at hj
          exact h.idle j hj k ((hother j k hji).mp hk)
  | read i session rest hopen hrest =>
      obtain ⟨know, hknow, hstable, hfollows⟩ := h.follows i session hopen
      rw [hrest] at hfollows
      cases hfollows with
      | read learn hlearn hstable hnext =>
          exact ⟨h.resume ⟨learn state.store, hlearn _ h.inv hknow, hstable _ h.inv hknow,
            hnext _ h.inv hknow⟩, .inl rfl⟩
  | write i session change rest hopen hrest =>
      obtain ⟨know, hknow, hstable, hfollows⟩ := h.follows i session hopen
      rw [hrest] at hfollows
      cases hfollows with
      | write hnext => exact ⟨h.resume ⟨know, hknow, hstable, hnext⟩, .inl rfl⟩
  | commit i session next hcommit hmeets =>
      obtain ⟨hinv, hchange⟩ := h.commit hcommit hmeets
      refine ⟨?_, .inr ⟨session.call, i, hchange⟩⟩
      rw [hcommit.next_eq] at hinv hchange ⊢
      exact h.finish hinv (.inr ⟨session.call, hchange⟩)
  | abort i session hopen => exact ⟨h.finish h.inv (.inl rfl), .inl rfl⟩

theorem Disciplined.run (hcalls : AllFollow d meets program) (h : Disciplined d meets state)
    (hrun : Relation.ReflTransGen (Step program meets) state next) : Disciplined d meets next := by
  induction hrun with
  | refl => exact h
  | tail _ hstep ih => exact (ih.step hcalls hstep).1

theorem Disciplined.run_rel (hcalls : AllFollow d meets program) {keeps : σ → σ → Prop}
    (hrefl : ∀ s, keeps s s) (htrans : ∀ s t u, keeps s t → keeps t u → keeps s u)
    (hchange : ∀ call held s t, d.inv s → d.change call held s t → keeps s t)
    (h : Disciplined d meets state) (hrun : Relation.ReflTransGen (Step program meets) state next) :
    keeps state.store next.store := by
  induction hrun with
  | refl => exact hrefl _
  | @tail mid next hmid hstep ih =>
      have hmid := h.run hcalls hmid
      rcases (hmid.step hcalls hstep).2 with heq | ⟨call, i, hallowed⟩
      · rw [heq]
        exact ih
      · exact htrans _ _ _ ih (hchange _ _ _ _ hmid.inv hallowed)

end Run

end Library.Transaction
