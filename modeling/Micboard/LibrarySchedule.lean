import Mathlib.Data.List.Perm.Basic

/-! Schedules of concurrent tasks. An event may not be possible in a state, and a schedule is a list
of events each of which is possible when it comes. What holds after every schedule, how long a
schedule can get, and that each one can be completed are derived from statements about one event. -/

namespace Library.Schedule

variable {σ ι α : Type*}

/-- The state after a schedule, where each of its events is possible. -/
def after (step : σ → ι → Option σ) (s : σ) : List ι → Option σ
  | [] => some s
  | event :: rest => (step s event).bind fun t => after step t rest

variable {step : σ → ι → Option σ} {s t : σ}

theorem after_cons {event : ι} {rest : List ι} :
    after step s (event :: rest) = some t ↔
      ∃ mid, step s event = some mid ∧ after step mid rest = some t :=
  Option.bind_eq_some_iff

/-- What every event preserves holds after every schedule. -/
theorem after_invariant {inv : σ → Prop} (hstep : ∀ s event t, inv s → step s event = some t → inv t)
    (hs : inv s) {events : List ι} (hrun : after step s events = some t) : inv t := by
  induction events generalizing s with
  | nil =>
      cases hrun
      exact hs
  | cons event rest ih =>
      obtain ⟨mid, hmid, hrest⟩ := after_cons.mp hrun
      exact ih (hstep s event mid hs hmid) hrest

variable {inv : σ → Prop} {work : σ → Nat}

/-- A schedule is no longer than the work at its start, where every event does some of it. -/
theorem length_add_work_le (hstep : ∀ s event t, inv s → step s event = some t → inv t)
    (hwork : ∀ s event t, inv s → step s event = some t → work t < work s) (hs : inv s)
    {events : List ι}
    (hrun : after step s events = some t) : events.length + work t ≤ work s := by
  induction events generalizing s with
  | nil =>
      cases hrun
      exact Nat.le_of_eq (Nat.zero_add _)
  | cons event rest ih =>
      obtain ⟨mid, hmid, hrest⟩ := after_cons.mp hrun
      have hless := hwork s event mid hs hmid
      have hbound := ih (hstep s event mid hs hmid) hrest
      rw [List.length_cons]
      omega

/-- Every state can be completed, where some event is possible in each incomplete one and does some
work. -/
theorem exists_completion {complete : σ → Prop}
    (hstep : ∀ s event t, inv s → step s event = some t → inv t)
    (hwork : ∀ s event t, inv s → step s event = some t → work t < work s)
    (hprogress : ∀ s, inv s → ¬complete s → ∃ event t, step s event = some t) (hs : inv s) :
    ∃ events t, after step s events = some t ∧ complete t := by
  induction hn : work s using Nat.strongRecOn generalizing s with
  | ind n ih =>
      by_cases hcomplete : complete s
      · exact ⟨[], s, rfl, hcomplete⟩
      · obtain ⟨event, mid, hmid⟩ := hprogress s hs hcomplete
        obtain ⟨events, t, hrun, ht⟩ :=
          ih (work mid) (hn ▸ hwork s event mid hs hmid) (hstep s event mid hs hmid) rfl
        exact ⟨event :: events, t, after_cons.mpr ⟨mid, hmid, hrun⟩, ht⟩

theorem exists_others {tasks : List α} {n : Nat} {task : α} (h : tasks[n]? = some task) :
    ∃ others, tasks.Perm (task :: others) ∧ ∀ task', (tasks.set n task').Perm (task' :: others) := by
  obtain ⟨hlt, rfl⟩ := List.getElem?_eq_some_iff.mp h
  exact ⟨tasks.eraseIdx n, (List.getElem_cons_eraseIdx_perm hlt).symm,
    fun task' => List.set_perm_cons_eraseIdx hlt task'⟩

end Library.Schedule
