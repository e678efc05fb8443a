import Mathlib.Data.Rat.Defs
import Mathlib.Algebra.Order.Ring.Rat

/-! The shared client of the manufacturer APIs. A call passes the circuit breaker, sends its request
up to a number of times and handles the response it ends with; each of its exits records on the
breaker what it takes for a success or a failure. -/

namespace Micboard

inductive CircuitState where
  | closed | opened | halfOpen
  deriving DecidableEq, Repr

/-- `CircuitBreaker`; times are in seconds. -/
structure CircuitBreaker where
  failureThreshold : Int := 5
  recoveryTimeout : Int := 60
  failures : Nat := 0
  lastFailure : ℚ := 0
  state : CircuitState := .closed
  deriving DecidableEq

namespace CircuitBreaker

def allowRequest (breaker : CircuitBreaker) (now : ℚ) : Bool × CircuitBreaker :=
  if breaker.state = .opened then
    if now - breaker.lastFailure > breaker.recoveryTimeout then
      (true, { breaker with state := .halfOpen })
    else (false, breaker)
  else (true, breaker)

def recordSuccess (breaker : CircuitBreaker) : CircuitBreaker :=
  { breaker with failures := 0, state := .closed }

def recordFailure (breaker : CircuitBreaker) (now : ℚ) : CircuitBreaker :=
  { breaker with
    failures := breaker.failures + 1
    lastFailure := now
    state := if breaker.failureThreshold ≤
      (breaker.failures + 1 : Nat) then .opened else breaker.state }

end CircuitBreaker

/-- What `response.json()` makes of a body that is within the byte limit, and a body that is not. -/
inductive ResponseBody (α : Type) where
  | empty
  | parsed (value : α)
  /-- `JSONDecodeError`. -/
  | malformed
  /-- Any other exception of the parser: bytes that are no text, containers nested too deeply. -/
  | undecodable
  | oversized
  deriving DecidableEq

/-- A response with its `Retry-After` header as far as that is a whole number. -/
structure HttpResponse (α : Type) where
  statusCode : Int
  retryAfterHeader : Option Int := none
  body : ResponseBody α
  deriving DecidableEq

/-- How `_send_bounded_request` ends: an `httpx.RequestError`, a body that is cut off at the byte
limit, any other exception, or a response. -/
inductive SendOutcome (α : Type) where
  | requestError (timeout : Bool)
  | oversized
  | failed
  | response (response : HttpResponse α)
  deriving DecidableEq

/-- What is sent again while retries are left. -/
def SendOutcome.retried {α : Type} (retryStatusCodes : List Int) : SendOutcome α → Bool
  | .requestError _ => true
  | .response answer => answer.statusCode ∈ retryStatusCodes
  | .oversized | .failed => false

/-- One request, with what the clock shows when its success and when its failure is recorded. -/
structure Attempt (α : Type) where
  outcome : SendOutcome α
  succeededAt : ℚ
  failedAt : ℚ

/-- `APIError` and `APIRateLimitError`. -/
structure ApiError where
  message : String
  code : String := "API_ERROR"
  statusCode : Option Int := none
  retryAfter : Option Int := none
  deriving DecidableEq

inductive CallError where
  | api (error : ApiError)
  /-- The parser's own exception. -/
  | parser
  deriving DecidableEq

structure BaseHttpClient where
  configPrefix : String
  maxRetries : Int := 3
  retryStatusCodes : List Int := [429, 500, 502, 503, 504]
  /-- `math.ceil(max_retry_delay_seconds)`. -/
  maxRetryDelay : Int
  circuit : CircuitBreaker := {}
  consecutiveFailures : Nat := 0
  isHealthy : Bool := true
  lastSuccessfulRequest : Option ℚ := none

/-- `__init__` with the settings of a manufacturer. -/
def BaseHttpClient.init (configPrefix : String) (maxRetries : Int) (retryStatusCodes : List Int)
    (maxRetryDelay failureThreshold recoveryTimeout : Int) : BaseHttpClient :=
  { configPrefix, maxRetries, retryStatusCodes, maxRetryDelay
    circuit := { failureThreshold, recoveryTimeout } }

/-- What a call returns or raises, and how many requests it sent. -/
structure CallResult (α : Type) where
  result : Except CallError (Option α)
  sent : Nat
  deriving DecidableEq

namespace BaseHttpClient

variable {α : Type}

def recordRequestFailure (client : BaseHttpClient) (now : ℚ) : BaseHttpClient :=
  { client with
    consecutiveFailures := client.consecutiveFailures + 1
    isHealthy := false
    circuit := client.circuit.recordFailure now }

/-- What `_handle_response` records once the body is within the limit. -/
def recordRequestSuccess (client : BaseHttpClient) (now : ℚ) : BaseHttpClient :=
  { client with
    lastSuccessfulRequest := some now
    consecutiveFailures := 0
    isHealthy := true
    circuit := client.circuit.recordSuccess }

def extractRetryAfter (client : BaseHttpClient) (response : HttpResponse α) : Option Int :=
  response.retryAfterHeader.bind fun retryAfter =>
    if retryAfter ≤ 0 then none else some (min retryAfter client.maxRetryDelay)

/-- `APIRateLimitError`, which falls back to the header as it is. -/
def rateLimitError (client : BaseHttpClient) (method : String)
    (response : HttpResponse α) : ApiError where
  message := "Rate limit exceeded for " ++ method ++ " request"
  code := "API_RATE_LIMIT"
  statusCode := some 429
  retryAfter := (client.extractRetryAfter response).or response.retryAfterHeader

def oversizedError (method : String) : ApiError where
  message := "API response exceeded byte limit for " ++ method ++ " request; body redacted"

def handleResponse (client : BaseHttpClient) (method : String) (attempt : Attempt α)
    (response : HttpResponse α) : Except CallError (Option α) × BaseHttpClient :=
  if response.statusCode ≥ 400 then
    let client := client.recordRequestFailure attempt.failedAt
    if response.statusCode = 429 then (.error (.api (client.rateLimitError method response)), client)
    else
      (.error (.api
        { message := "HTTP error for " ++ method ++ " request; response body redacted"
          statusCode := some response.statusCode }), client)
  else
    match response.body with
    | .oversized =>
        (.error (.api (oversizedError method)), client.recordRequestFailure attempt.failedAt)
    | .empty => (.ok none, client.recordRequestSuccess attempt.succeededAt)
    | .parsed value => (.ok (some value), client.recordRequestSuccess attempt.succeededAt)
    -- the success is recorded before the body is parsed
    | .malformed =>
      (.error (.api { message := "Invalid JSON API response; body redacted" }),
        (client.recordRequestSuccess attempt.succeededAt).recordRequestFailure attempt.failedAt)
    | .undecodable => (.error .parser, client.recordRequestSuccess attempt.succeededAt)

/-- The exit of the request loop. -/
def finish (client : BaseHttpClient) (method : String) (attempt : Attempt α) :
    Except CallError (Option α) × BaseHttpClient :=
  match attempt.outcome with
  | .requestError timeout =>
    (.error (.api { message :=
      if timeout then "Timeout error; details redacted" else "Connection error; details redacted" }),
      client.recordRequestFailure attempt.failedAt)
  | .oversized => (.error (.api (oversizedError method)), client.recordRequestFailure attempt.failedAt)
  | .failed =>
    (.error (.api { message := "Unknown request error; details redacted" }),
      client.recordRequestFailure attempt.failedAt)
  | .response response => client.handleResponse method attempt response

/-- The request loop: the server answers attempt after attempt, and `retries` of them may still be
repeated. -/
def requestLoop (method : String) (server : Nat → Attempt α) :
    (retries attempt : Nat) → BaseHttpClient → CallResult α × BaseHttpClient
  | 0, attempt, client =>
    let (result, client) := client.finish method (server attempt)
    (⟨result, attempt + 1⟩, client)
  | retries + 1, attempt, client =>
    if (server attempt).outcome.retried client.retryStatusCodes then
      requestLoop method server retries (attempt + 1)
        (client.recordRequestFailure (server attempt).failedAt)
    else
      let (result, client) := client.finish method (server attempt)
      (⟨result, attempt + 1⟩, client)

def circuitOpenError (client : BaseHttpClient) : ApiError where
  message := "Circuit open for " ++ client.configPrefix
  code := "API_CIRCUIT_OPEN"

/-- `_make_request` when the clock shows `now`. -/
def makeRequest (client : BaseHttpClient) (method : String) (now : ℚ) (server : Nat → Attempt α) :
    CallResult α × BaseHttpClient :=
  let (allowed, circuit) := client.circuit.allowRequest now
  let client := { client with circuit }
  if allowed then requestLoop method server client.maxRetries.toNat 0 client
  else (⟨.error (.api client.circuitOpenError), 0⟩, client)

variable {client : BaseHttpClient} {method : String} {now : ℚ} {server : Nat → Attempt α}

theorem makeRequest_of_allowed (h : (client.circuit.allowRequest now).1 = true) :
    client.makeRequest method now server = requestLoop method server client.maxRetries.toNat 0
      { client with circuit := (client.circuit.allowRequest now).2 } :=
  if_pos h

/-- A rejected call changes nothing. -/
theorem makeRequest_of_rejected (h : (client.circuit.allowRequest now).1 = false) :
    client.makeRequest method now server = (⟨.error (.api client.circuitOpenError), 0⟩, client) := by
  have hcircuit : (client.circuit.allowRequest now).2 = client.circuit := by
    unfold CircuitBreaker.allowRequest at h ⊢
    split_ifs at h ⊢ with hopened hrecovered
    rfl
  rw [makeRequest,
    show client.circuit.allowRequest now = (false, client.circuit) from Prod.ext h hcircuit]
  rfl

end BaseHttpClient

end Micboard
