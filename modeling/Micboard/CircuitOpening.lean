import Micboard.HttpClient
import Micboard.LibraryRun

/-! When repeated failures open the circuit. Every exit that records a failure makes the breaker
count one more, and so it counts at least the calls that have failed in a row, until it opens. A
body that does not parse breaks this: its call is recorded as a success first. -/

namespace Micboard

open Library

variable {α : Type}

/-- A call of `_make_request`: the clock when it starts, and the server from then on. -/
structure HttpCall (α : Type) where
  method : String
  now : ℚ
  server : Nat → Attempt α

def HttpCall.run (call : HttpCall α) (client : BaseHttpClient) : CallResult α × BaseHttpClient :=
  client.makeRequest call.method call.now call.server

def CallResult.isFailure (result : CallResult α) : Bool := ¬ result.result.toBool

structure CallHistory where
  client : BaseHttpClient
  failedInRow : Nat := 0

def CallHistory.next (history : CallHistory) (call : HttpCall α) : CallHistory :=
  let (result, client) := call.run history.client
  { client, failedInRow := if result.isFailure then history.failedInRow + 1 else 0 }

def CallHistory.run (history : CallHistory) (calls : List (HttpCall α)) : CallHistory :=
  calls.foldl CallHistory.next history

/-- The calls that have failed in a row open the circuit once they are as many as the threshold:
further calls end with `API_CIRCUIT_OPEN` and send nothing until the recovery timeout has passed. -/
def CallHistory.OpensInTime (history : CallHistory) (α : Type) : Prop :=
  0 < history.failedInRow → history.client.circuit.failureThreshold ≤ history.failedInRow →
    history.client.circuit.state = .opened ∧
    ∀ call : HttpCall α,
      call.now - history.client.circuit.lastFailure ≤ history.client.circuit.recoveryTimeout →
        call.run history.client =
          (⟨.error (.api history.client.circuitOpenError), 0⟩, history.client)

/-- The attempt that a call ends with. -/
def lastAttempt (retryStatusCodes : List Int) (server : Nat → Attempt α) : (retries attempt : Nat) → Nat
  | 0, attempt => attempt
  | retries + 1, attempt =>
    if (server attempt).outcome.retried retryStatusCodes then
      lastAttempt retryStatusCodes server retries (attempt + 1)
    else attempt

/-- The response, if it is one, is an error response or has a body that parses; a body that is no
JSON text does no harm while the breaker counts no failure or opens at the first. -/
def BaseHttpClient.Parses (client : BaseHttpClient) (outcome : SendOutcome α) : Prop :=
  ∀ response, outcome = .response response → response.statusCode < 400 →
    response.body ≠ .undecodable ∧
    (response.body = .malformed → client.circuit.failures = 0 ∨ client.circuit.failureThreshold ≤ 1)

/-- A call that is sent ends with an outcome that parses. -/
def CallHistory.Parses (history : CallHistory) (call : HttpCall α) : Prop :=
  (history.client.circuit.allowRequest call.now).1 = true →
    history.client.Parses (call.server (lastAttempt history.client.retryStatusCodes call.server
      history.client.maxRetries.toNat 0)).outcome

theorem CircuitBreaker.allowRequest_failureThreshold (breaker : CircuitBreaker) (now : ℚ) :
    (breaker.allowRequest now).2.failureThreshold = breaker.failureThreshold := by
  unfold CircuitBreaker.allowRequest
  split_ifs <;> rfl

/-- The breaker counts the failures in a row until it opens. -/
structure CircuitBreaker.Counts (breaker : CircuitBreaker) (failed : Nat) : Prop where
  closed : breaker.state = .closed →
    failed ≤ breaker.failures ∧
      (breaker.failures = 0 ∨ (breaker.failures : Int) < breaker.failureThreshold)
  reached : breaker.state ≠ .closed → breaker.failureThreshold ≤ breaker.failures

namespace CircuitBreaker.Counts

variable {breaker : CircuitBreaker} {failed : Nat}

theorem allowRequest (h : breaker.Counts failed)
    (now : ℚ) : (breaker.allowRequest now).2.Counts failed := by
  unfold CircuitBreaker.allowRequest
  split_ifs with hopened hrecovered
  · refine ⟨fun hclosed => ?_, fun _ => h.reached (by rw [hopened]; decide)⟩
    cases hclosed
  · exact h
  · exact h

/-- A failure more is counted, or the circuit is open. -/
theorem recordFailure (h : breaker.Counts failed) (now : ℚ) :
    (breaker.recordFailure now).Counts (failed + 1) := by
  by_cases hreached : breaker.failureThreshold ≤ (breaker.failures + 1 : Nat)
  · refine ⟨fun hclosed => ?_, fun _ => hreached⟩
    rw [CircuitBreaker.recordFailure, if_pos hreached] at hclosed
    cases hclosed
  · have hstate : (breaker.recordFailure now).state = breaker.state := if_neg hreached
    refine ⟨fun hclosed => ?_, fun hnot => ?_⟩
    · have hcounted := (h.closed (hstate ▸ hclosed)).1
      exact ⟨Nat.succ_le_succ hcounted, .inr (not_le.mp hreached)⟩
    · have hbefore := h.reached (hstate ▸ hnot)
      exact absurd (hbefore.trans (by exact_mod_cast Nat.le_succ _)) hreached

/-- A recorded failure ends a trial of the half-open circuit. -/
theorem recordFailure_state (h : breaker.Counts failed) (now : ℚ) :
    (breaker.recordFailure now).state ≠ .halfOpen := by
  by_cases hreached : breaker.failureThreshold ≤ (breaker.failures + 1 : Nat)
  · rw [CircuitBreaker.recordFailure, if_pos hreached]
    exact CircuitState.noConfusion
  · have hclosed : breaker.state = .closed := by
      by_contra hnot
      exact hreached ((h.reached hnot).trans (by exact_mod_cast Nat.le_succ _))
    rw [CircuitBreaker.recordFailure, if_neg hreached, hclosed]
    exact CircuitState.noConfusion

theorem mono {fewer : Nat} (h : breaker.Counts failed) (hle : fewer ≤ failed) : breaker.Counts fewer :=
  ⟨fun hclosed => ⟨hle.trans (h.closed hclosed).1, (h.closed hclosed).2⟩, h.reached⟩

theorem recordSuccess (breaker : CircuitBreaker) : breaker.recordSuccess.Counts 0 :=
  ⟨fun _ => ⟨Nat.zero_le _, .inl rfl⟩, fun hnot => absurd rfl hnot⟩

end CircuitBreaker.Counts

theorem CircuitBreaker.counts_failure_after_success (breaker : CircuitBreaker) {failed : Nat} (now : ℚ)
    (h : failed = 0 ∨ breaker.failureThreshold ≤ 1) :
    (breaker.recordSuccess.recordFailure now).Counts (failed + 1) := by
  rcases h with rfl | hone
  · exact (CircuitBreaker.Counts.recordSuccess breaker).recordFailure now
  · have hreached :
        breaker.recordSuccess.failureThreshold ≤ (breaker.recordSuccess.failures + 1 : Nat) := hone
    refine ⟨fun hclosed => ?_, fun _ => hreached⟩
    rw [CircuitBreaker.recordFailure, if_pos hreached] at hclosed
    cases hclosed

/-- After a failed call the breaker counts one failure more, after a successful one it counts none,
and it tries no call out any more. -/
structure Accounts (failed : Nat) (failure : Bool) (client : BaseHttpClient) : Prop where
  counts : client.circuit.Counts (if failure then failed + 1 else 0)
  settled : client.circuit.state ≠ .halfOpen

namespace BaseHttpClient

variable {client : BaseHttpClient} {failed : Nat}

theorem accounts_recordRequestFailure (h : client.circuit.Counts failed) (now : ℚ) :
    Accounts failed true (client.recordRequestFailure now) :=
  ⟨h.recordFailure now, h.recordFailure_state now⟩

theorem accounts_recordRequestSuccess (client : BaseHttpClient) (now : ℚ) :
    Accounts failed false (client.recordRequestSuccess now) :=
  ⟨CircuitBreaker.Counts.recordSuccess _, CircuitState.noConfusion⟩

/-- What the exit of a call asks of a body. -/
def ParsesAfter (failureThreshold : Int) (failed : Nat) (outcome : SendOutcome α) : Prop :=
  ∀ response, outcome = .response response → response.statusCode < 400 →
    response.body ≠ .undecodable ∧ (response.body = .malformed → failed = 0 ∨ failureThreshold ≤ 1)

/-- A breaker that counts no failure has seen no call fail, or opens at the first. -/
theorem Parses.after {outcome : SendOutcome α} (h : client.Parses outcome)
    (hcounts : client.circuit.Counts failed) :
    ParsesAfter client.circuit.failureThreshold failed outcome := by
  intro response hresponse hstatus
  obtain ⟨hdecodable, hmalformed⟩ := h response hresponse hstatus
  refine ⟨hdecodable, fun hbody => (hmalformed hbody).elim (fun hnone => ?_) .inr⟩
  by_cases hclosed : client.circuit.state = .closed
  · exact .inl (Nat.le_zero.mp (hnone ▸ (hcounts.closed hclosed).1))
  · have hreached := hcounts.reached hclosed
    rw [hnone] at hreached
    exact .inr (hreached.trans (by decide))

theorem handleResponse_accounts (hcounts : client.circuit.Counts failed) (method : String)
    (attempt : Attempt α) {response : HttpResponse α}
    (hparses : ParsesAfter client.circuit.failureThreshold failed (.response response)) :
    Accounts failed (¬ (client.handleResponse method attempt response).1.toBool)
      (client.handleResponse method attempt response).2 := by
  unfold handleResponse
  by_cases hstatus : response.statusCode ≥ 400
  · rw [if_pos hstatus]
    split_ifs <;> exact accounts_recordRequestFailure hcounts _
  · rw [if_neg hstatus]
    obtain ⟨hdecodable, hmalformed⟩ := hparses response rfl (not_le.mp hstatus)
    cases hbody : response.body with
    | empty => exact accounts_recordRequestSuccess client _
    | parsed value => exact accounts_recordRequestSuccess client _
    | malformed =>
        exact ⟨client.circuit.counts_failure_after_success _ (hmalformed hbody),
          (CircuitBreaker.Counts.recordSuccess _).recordFailure_state _⟩
    | undecodable => exact absurd hbody hdecodable
    | oversized => exact accounts_recordRequestFailure hcounts _

theorem finish_accounts (hcounts : client.circuit.Counts failed) (method : String) {attempt : Attempt α}
    (hparses : ParsesAfter client.circuit.failureThreshold failed attempt.outcome) :
    Accounts failed (¬ (client.finish method attempt).1.toBool) (client.finish method attempt).2 := by
  unfold finish
  cases houtcome : attempt.outcome with
  | requestError timeout => exact accounts_recordRequestFailure hcounts _
  | oversized => exact accounts_recordRequestFailure hcounts _
  | failed => exact accounts_recordRequestFailure hcounts _
  | response response => exact handleResponse_accounts hcounts method attempt (houtcome ▸ hparses)

/-- Every attempt that is repeated is a failure more, and does not change what is asked of the last. -/
theorem requestLoop_accounts (hcounts : client.circuit.Counts failed) (method : String)
    (server : Nat → Attempt α) (retries attempt : Nat)
    (hparses : ParsesAfter client.circuit.failureThreshold failed
      (server (lastAttempt client.retryStatusCodes server retries attempt)).outcome) :
    Accounts failed (requestLoop method server retries attempt client).1.isFailure
      (requestLoop method server retries attempt client).2 := by
  induction retries generalizing attempt client with
  | zero => exact finish_accounts hcounts method hparses
  | succ retries ih =>
      rw [lastAttempt] at hparses
      rw [requestLoop]
      by_cases hretried : (server attempt).outcome.retried client.retryStatusCodes = true
      · rw [if_pos hretried] at hparses ⊢
        have hrecorded := (hcounts.recordFailure (server attempt).failedAt).mono (Nat.le_succ failed)
        exact @ih (client.recordRequestFailure (server attempt).failedAt) hrecorded
          (attempt + 1) hparses
      · rw [if_neg hretried] at hparses ⊢
        exact finish_accounts hcounts method hparses

end BaseHttpClient

/-! ### Runs -/

namespace CallHistory

variable {history : CallHistory}

/-- The invariant between calls. -/
structure Sound (history : CallHistory) : Prop where
  counts : history.client.circuit.Counts history.failedInRow
  settled : history.client.circuit.state ≠ .halfOpen

theorem init_sound (configPrefix : String) (maxRetries : Int) (retryStatusCodes : List Int)
    (maxRetryDelay failureThreshold recoveryTimeout : Int) :
    Sound ⟨.init configPrefix maxRetries retryStatusCodes maxRetryDelay failureThreshold
      recoveryTimeout, 0⟩ :=
  ⟨⟨fun _ => ⟨le_rfl, .inl rfl⟩, fun hnot => absurd rfl hnot⟩, CircuitState.noConfusion⟩

/-- **A call that parses keeps the count**, whichever way it ends. -/
theorem Sound.next (h : history.Sound) (call : HttpCall α) (hparses : history.Parses call) :
    (history.next call).Sound := by
  cases hallowed : (history.client.circuit.allowRequest call.now).1 with
  | true =>
      have hafter := (hparses hallowed).after h.counts
      rw [← history.client.circuit.allowRequest_failureThreshold call.now] at hafter
      have hrun : call.run history.client = _ := BaseHttpClient.makeRequest_of_allowed hallowed
      obtain ⟨hcounts, hsettled⟩ := @BaseHttpClient.requestLoop_accounts _
        { history.client with circuit := (history.client.circuit.allowRequest call.now).2 } _
        (h.counts.allowRequest call.now) call.method call.server
          history.client.maxRetries.toNat 0 hafter
      rw [← hrun] at hcounts hsettled
      exact ⟨hcounts, hsettled⟩
  | false =>
      have hrun : call.run history.client = _ := BaseHttpClient.makeRequest_of_rejected hallowed
      have hopened : history.client.circuit.state = .opened := by
        by_contra hnot
        rw [CircuitBreaker.allowRequest, if_neg hnot] at hallowed
        cases hallowed
      rw [CallHistory.next, hrun]
      exact ⟨⟨fun hclosed => absurd (hopened.symm.trans hclosed) CircuitState.noConfusion,
        h.counts.reached⟩,
        h.settled⟩

/-- The count opens the circuit at the threshold. -/
theorem Sound.opensInTime (h : history.Sound) : history.OpensInTime α := by
  intro hfailed hthreshold
  have hopened : history.client.circuit.state = .opened := by
    cases hstate : history.client.circuit.state with
    | opened => rfl
    | halfOpen => exact absurd hstate h.settled
    | closed =>
        obtain ⟨hcounted, hfew⟩ := h.counts.closed hstate
        omega
  refine ⟨hopened, fun call hearly => ?_⟩
  have hrejected : history.client.circuit.allowRequest call.now = (false, history.client.circuit) := by
    rw [CircuitBreaker.allowRequest, if_pos hopened, if_neg (not_lt.mpr hearly)]
  exact BaseHttpClient.makeRequest_of_rejected (congrArg Prod.fst hrejected)

/-- **Failures in a row open the circuit in time** throughout a run whose calls all parse. -/
theorem opensInTime_of_parses (configPrefix : String) (maxRetries : Int) (retryStatusCodes : List Int)
    (maxRetryDelay failureThreshold recoveryTimeout : Int) (calls : List (HttpCall α))
    (hparses : ∀ seen call rest, calls = seen ++ call :: rest →
      (run ⟨.init configPrefix maxRetries retryStatusCodes maxRetryDelay failureThreshold
        recoveryTimeout, 0⟩
        seen).Parses call) :
    ∀ seen rest, calls = seen ++ rest →
      (run ⟨.init configPrefix maxRetries retryStatusCodes maxRetryDelay failureThreshold
        recoveryTimeout, 0⟩
        seen).OpensInTime α := by
  intro seen rest hsplit
  have hsound := foldl_always (fun history call (h : Sound history) hcall => h.next call hcall)
    (init_sound configPrefix maxRetries retryStatusCodes maxRetryDelay failureThreshold recoveryTimeout)
    hparses seen rest hsplit
  exact hsound.opensInTime

/-- A server that answers every request in the same way. -/
def answering (outcome : SendOutcome α) (now : ℚ) : HttpCall α :=
  ⟨"GET", now, fun _ => ⟨outcome, now, now⟩⟩

/-- A body that is no JSON text and then a refused connection open the circuit of a client that
allows one failure. -/
theorem opensInTime_of_two : (run ⟨.init "SHURE_API" 0 [] 30 2 60, 0⟩
    ([answering (.response ⟨200, none, .malformed⟩) 1,
      answering (.requestError false) 2] : List (HttpCall Nat))).OpensInTime Nat := by
  refine opensInTime_of_parses "SHURE_API" 0 [] 30 2 60 _ ?_ _ [] (List.append_nil _).symm
  refine forall_split_cons ?_ (forall_split_cons ?_ forall_split_nil)
  · intro _ response hresponse _
    cases hresponse
    exact ⟨by decide, fun _ => .inl rfl⟩
  · intro _ response hresponse _
    cases hresponse

/-- Two bodies that are no JSON text, one after the other, do not open it. -/
theorem malformed_not_opened : ¬ (run ⟨.init "SHURE_API" 0 [] 30 2 60, 0⟩
    ([answering (.response ⟨200, none, .malformed⟩) 1,
      answering (.response ⟨200, none, .malformed⟩) 2] : List (HttpCall Nat))).OpensInTime Nat := by
  intro h
  exact absurd (h (by decide) (by decide)).1 (by decide)

end CallHistory

end Micboard
