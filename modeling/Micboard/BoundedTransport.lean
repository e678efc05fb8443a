import Micboard.ManufacturerPolling

/-! The byte ceiling of vendor responses. A body is streamed chunk by chunk and given up as soon as
it has grown beyond the ceiling, so that a peer that sends without end costs a bounded amount of
work; a body that is accepted is what buffering it whole would have given. -/

namespace Micboard

open Library

def hardMaxHttpResponseBytes : Nat := 16 * 1024 * 1024

def defaultHttpMaxResponseBytes : BoundedLimit hardMaxHttpResponseBytes := ⟨2 * 1024 * 1024, by decide⟩

def httpResponseReadChunkBytes : Nat := 8 * 1024

theorem boundedLimit_toNat {hardLimit : Nat} (default : BoundedLimit hardLimit) {value : Int}
    (h : 0 < value) :
    1 ≤ min value.toNat hardLimit ∧ min value.toNat hardLimit ≤ hardLimit := by
  have hpositive := default.2
  omega

/-- Parse a positive integer setting and enforce a package hard ceiling; here a number that is not
positive gives the default. -/
def boundedPositiveIntSetting {hardLimit : Nat} (default : BoundedLimit hardLimit) :
    LimitSetting → Except String (BoundedLimit hardLimit)
  | .boolean | .unreadable => .ok default
  | .number value =>
    if hpositive : 0 < value then .ok ⟨min value.toNat hardLimit, boundedLimit_toNat default hpositive⟩
    else .ok default
  | .infinite => .error "OverflowError"

/-- `HTTPClientLimits` as far as the transport reads it. -/
structure HttpClientLimits where
  maxResponseBytes : BoundedLimit hardMaxHttpResponseBytes

def HttpClientLimits.fromSettings (maxResponseBytes : LimitSetting) : Except String HttpClientLimits :=
  (boundedPositiveIntSetting defaultHttpMaxResponseBytes maxResponseBytes).map HttpClientLimits.mk

namespace BoundedHttpTransport

/-- Why a response is not returned: it is too large, or the connection or a decoder raises. -/
inductive TransportError where
  | oversized
  | raised (typeName : String)
  deriving DecidableEq, Repr

/-- `response.iter_bytes` with the chunk size above, as far as its pulls return: no chunk is empty
or longer than that. -/
structure ByteStream where
  pull : Nat → Pull TransportError (List UInt8)
  chunked : ∀ i bytes, pull i = .item bytes → 0 < bytes.length ∧
    bytes.length ≤ httpResponseReadChunkBytes
  raises : ∀ i, pull i ≠ .raise .oversized

/-- A response whose body is not read yet. Of the `Content-Length` header counts what `int` makes of
it; `decoder` is what a `Content-Encoding` header names. A decoder that is fed without end and never
gives a byte makes a pull that does not return, which is the one numbered `starvedPull`; the bytes
of a plain body are pulled under a timeout. -/
structure StreamedResponse where
  statusCode : Int
  contentLength : Option (Option Int) := none
  decoder : Option (List UInt8 → Except String (List UInt8)) := none
  starvedPull : Option Nat := none
  body : ByteStream
  plain : decoder = none → starvedPull = none := by simp

/-- What the transport returns: a failure with its body unread, or a response with its content. -/
inductive Received where
  | unread (statusCode : Int)
  | buffered (statusCode : Int) (contentLength : Option (Option Int)) (content : List UInt8)
  deriving DecidableEq, Repr

variable (limits : HttpClientLimits)

/-- Delegate oversized failures to the typed error path of the client. -/
def enforceSize (size : Int) : Except TransportError Unit :=
  if limits.maxResponseBytes.1 < size then .error .oversized else .ok ()

/-- Reject a valid `Content-Length` that exceeds the configured ceiling. -/
def enforceDeclaredLength : Option (Option Int) → Except TransportError Unit
  | none => .ok ()
  | some declaredLength => enforceSize limits (declaredLength.getD 0)

/-- The chunks read so far, with the number of their bytes. -/
structure Reading where
  chunks : List (List UInt8) := []
  bytesRead : Nat := 0

/-- One turn of the loop over a body. -/
def readChunk (reading : Reading) (chunk : List UInt8) : Except TransportError Reading :=
  match enforceSize limits (reading.bytesRead + chunk.length : Nat) with
  | .error error => .error error
  | .ok _ => .ok { chunks := reading.chunks ++ [chunk], bytesRead := reading.bytesRead + chunk.length }

/-- The response with its content. Its constructor decodes the content by the headers, which are
those of the wire. -/
def rebuild (response : StreamedResponse) (content : List UInt8) : Except TransportError Received :=
  match response.decoder with
  | none => .ok (.buffered response.statusCode response.contentLength content)
  | some decode =>
    match decode content with
    | .error typeName => .error (.raised typeName)
    | .ok content => .ok (.buffered response.statusCode response.contentLength content)

/-- What the outcome of the loop over the body becomes. -/
def finished (response : StreamedResponse) : Except TransportError Reading →
    Except TransportError Received
  | .error error => .error error
  | .ok reading => rebuild response reading.chunks.flatten

/-- Return a decoded successful response without reading beyond the byte ceiling, with the number of
pulls on its body; nothing when the body goes on after `fuel` pulls, or when one of its pulls does
not return. -/
def send (response : StreamedResponse) (fuel : Nat) : Option (Except TransportError Received × Nat) :=
  if 400 ≤ response.statusCode then some (.ok (.unread response.statusCode), 0)
  else
    match enforceDeclaredLength limits response.contentLength with
    | .error error => some (.error error, 0)
    | .ok _ =>
      match consumeFrom (readChunk limits) response.body.pull fuel 0 {} with
      | none => none
      | some (read, pulls) =>
        if response.starvedPull.any (· < pulls) then none else some (finished response read, pulls)

/-- Enforce the same ceiling for an already-buffered successful response. -/
def responseContent (contentLength : Option (Option Int)) (content : List UInt8) :
    Except TransportError (List UInt8) :=
  match enforceDeclaredLength limits contentLength with
  | .error error => .error error
  | .ok _ =>
    match enforceSize limits content.length with
    | .error error => .error error
    | .ok _ => .ok content

section Chunks

variable {limits} {reading reading' : Reading} {chunk : List UInt8} {chunks : List (List UInt8)}

theorem enforceSize_nat (size : Nat) :
    enforceSize limits size = if limits.maxResponseBytes.1 <
      size then .error .oversized else .ok () := by
  simp [enforceSize]

theorem readChunk_eq_ok : readChunk limits reading chunk = .ok reading' ↔
    reading.bytesRead + chunk.length ≤ limits.maxResponseBytes.1 ∧
      reading' = ⟨reading.chunks ++ [chunk], reading.bytesRead + chunk.length⟩ := by
  unfold readChunk
  rw [enforceSize_nat]
  by_cases hover : limits.maxResponseBytes.1 < reading.bytesRead + chunk.length
  · simp [hover]
  · simp only [hover, if_false, Except.ok.injEq, Nat.not_lt.mp hover, true_and]
    exact eq_comm

theorem readChunk_error {error : TransportError} (h : readChunk limits reading chunk = .error error) :
    error = .oversized ∧ limits.maxResponseBytes.1 < reading.bytesRead + chunk.length := by
  unfold readChunk at h
  rw [enforceSize_nat] at h
  by_cases hover : limits.maxResponseBytes.1 < reading.bytesRead + chunk.length
  · exact ⟨by simpa [hover, eq_comm] using h, hover⟩
  · simp [hover] at h

theorem foldlM_readChunk (hread : reading.bytesRead = reading.chunks.flatten.length)
    (hwithin : reading.bytesRead ≤ limits.maxResponseBytes.1) :
    chunks.foldlM (readChunk limits) reading =
      if limits.maxResponseBytes.1 < reading.bytesRead + chunks.flatten.length then .error .oversized
      else .ok ⟨reading.chunks ++ chunks, reading.bytesRead + chunks.flatten.length⟩ := by
  induction chunks generalizing reading with
  | nil =>
      rw [if_neg (by simp; omega)]
      simp [pure, Except.pure]
  | cons chunk chunks ih =>
      rw [List.foldlM_cons]
      have hlength : (chunk :: chunks).flatten.length = chunk.length + chunks.flatten.length := by simp
      by_cases hover : limits.maxResponseBytes.1 < reading.bytesRead + chunk.length
      · have herror : readChunk limits reading chunk = .error .oversized := by
          unfold readChunk
          rw [enforceSize_nat, if_pos hover]
        rw [herror, if_pos (by omega)]
        rfl
      · rw [readChunk_eq_ok.mpr ⟨Nat.not_lt.mp hover, rfl⟩]
        refine (ih ?_ (Nat.not_lt.mp hover)).trans ?_
        · simp [hread]
        · simp only [hlength, Nat.add_assoc, List.append_assoc, List.singleton_append]

end Chunks

/-! ### A response -/

/-- A body that ends after some chunks. -/
structure IsBody (body : ByteStream) (chunks : List (List UInt8)) : Prop where
  item : ∀ i (hi : i < chunks.length), body.pull i = .item chunks[i]
  stop : body.pull chunks.length = .stop

/-- The number of bytes that a pull brings. -/
def ByteStream.size (body : ByteStream) (i : Nat) : Nat :=
  match body.pull i with
  | .item bytes => bytes.length
  | .stop | .raise _ => 0

/-- The number of bytes that the first pulls bring. -/
def ByteStream.received (body : ByteStream) (pulls : Nat) : Nat :=
  ((List.range pulls).map body.size).sum

theorem ByteStream.received_succ (body : ByteStream) {chunks : List (List UInt8)}
    (h : ∀ i (hi : i < chunks.length), body.pull i = .item chunks[i]) :
    body.received (chunks.length + 1) = chunks.flatten.length + body.size chunks.length := by
  have hsizes : (List.range chunks.length).map body.size = chunks.map List.length := by
    apply List.ext_getElem
    · simp
    · intro i hi hi'
      have hlt : i < chunks.length := by simpa using hi
      simp [ByteStream.size, h i hlt]
  calc body.received (chunks.length + 1)
      = ((List.range chunks.length).map body.size).sum + body.size chunks.length := by
        simp [ByteStream.received, List.range_succ]
    _ = chunks.flatten.length + body.size chunks.length := by rw [hsizes, List.length_flatten]

theorem ByteStream.size_le (body : ByteStream) (i : Nat) : body.size i ≤
    httpResponseReadChunkBytes := by
  unfold ByteStream.size
  cases hpull : body.pull i with
  | item bytes => exact (body.chunked i bytes hpull).2
  | stop => exact Nat.zero_le _
  | raise error => exact Nat.zero_le _

/-- What sending a request amounts to, whatever the peer answers without a content encoding. -/
structure SendSpec (limits : HttpClientLimits) (response : StreamedResponse)
    (outcome : Except TransportError Received)
    (pulls : Nat) : Prop where
  ends : ∀ fuel, limits.maxResponseBytes.1 + 2 ≤ fuel →
    send limits response fuel = some (outcome, pulls)
  received : response.body.received pulls ≤ limits.maxResponseBytes.1 + httpResponseReadChunkBytes
  accepted : ∀ statusCode contentLength content,
    outcome = .ok (.buffered statusCode contentLength content) →
    content.length ≤ limits.maxResponseBytes.1 ∧
      responseContent limits contentLength content = .ok content
  buffered : ∀ chunks, response.statusCode < 400 → IsBody response.body chunks →
    outcome = (responseContent limits response.contentLength chunks.flatten).map
      (.buffered response.statusCode response.contentLength)
  endless : response.statusCode < 400 → (∀ i, ∃ chunk, response.body.pull i = .item chunk) →
    outcome = .error .oversized
  rejected : outcome = .error .oversized →
    (∃ declaredLength, response.contentLength = some declaredLength ∧
      limits.maxResponseBytes.1 < declaredLength.getD 0) ∨
    limits.maxResponseBytes.1 < response.body.received pulls

theorem enforceDeclaredLength_error {limits : HttpClientLimits} {contentLength : Option (Option Int)}
    {error : TransportError} (h : enforceDeclaredLength limits contentLength = .error error) :
    error = .oversized ∧ ∃ declaredLength, contentLength = some declaredLength ∧
      limits.maxResponseBytes.1 < declaredLength.getD 0 := by
  cases contentLength with
  | none => cases h
  | some declaredLength =>
      simp only [enforceDeclaredLength, enforceSize] at h
      split at h
      next hover => exact ⟨(Except.error.inj h).symm, declaredLength, rfl, hover⟩
      next => cases h

/-- The loop over a body has read some chunks within the ceiling, and one pull more has ended it. -/
structure BodyRead (limits : HttpClientLimits) (body : ByteStream) (items : List (List UInt8))
    (read : Except TransportError Reading) : Prop where
  loop : consumeFrom (readChunk limits) body.pull (limits.maxResponseBytes.1 + 2) 0 {} =
    some (read, items.length + 1)
  pulls : ∀ i (hi : i < items.length), body.pull i = .item items[i]
  within : items.flatten.length ≤ limits.maxResponseBytes.1
  last : body.pull items.length = .stop ∧ read = .ok ⟨items, items.flatten.length⟩ ∨
    (∃ error, body.pull items.length = .raise error ∧ read = .error error) ∨
    ∃ chunk, body.pull items.length = .item chunk ∧
      limits.maxResponseBytes.1 < items.flatten.length + chunk.length ∧ read = .error .oversized

/-- Every chunk has a byte at least, so the loop ends for every body. -/
theorem exists_bodyRead (limits : HttpClientLimits) (body : ByteStream) :
    ∃ items read, BodyRead limits body items read := by
  have hgrows : ∀ i chunk (reading next : Reading), body.pull i = .item chunk →
      readChunk limits reading chunk = .ok next →
      reading.bytesRead < next.bytesRead ∧ next.bytesRead ≤ limits.maxResponseBytes.1 := by
    intro i chunk reading next hpull hnext
    obtain ⟨hwithin, rfl⟩ := readChunk_eq_ok.mp hnext
    exact ⟨Nat.lt_add_of_pos_right (body.chunked i chunk hpull).1, hwithin⟩
  obtain ⟨⟨read, pulls⟩, hloop⟩ := exists_consumeFrom Reading.bytesRead hgrows 0 {}
  obtain ⟨items, last, hfold, hpulls, hitems, hlast⟩ := consumeFrom_eq_some hloop
  simp only [Nat.zero_add] at hpulls hitems hlast
  rw [foldlM_readChunk rfl (Nat.zero_le _)] at hfold
  have hwithin : items.flatten.length ≤ limits.maxResponseBytes.1 := by
    by_contra hover
    rw [if_pos (by simpa using Nat.not_le.mp hover)] at hfold
    cases hfold
  rw [if_neg (by simpa using hwithin)] at hfold
  obtain rfl : ⟨items, items.flatten.length⟩ = last := by simpa using hfold
  subst hpulls
  refine ⟨items, read, hloop, hitems, hwithin, hlast.imp_right (Or.imp_right ?_)⟩
  rintro ⟨chunk, error, hchunk, hrefused, hread⟩
  obtain ⟨rfl, hover⟩ := readChunk_error hrefused
  exact ⟨chunk, hchunk, hover, hread⟩

section BodyRead

variable {limits : HttpClientLimits} {body : ByteStream} {items : List (List UInt8)}
  {read : Except TransportError Reading}

/-- The loop over a body that ends has read it whole, unless it is too long. -/
theorem BodyRead.whole (h : BodyRead limits body items read) {chunks : List (List UInt8)}
    (hbody : IsBody body chunks) :
    read = if limits.maxResponseBytes.1 < chunks.flatten.length then .error .oversized
      else .ok ⟨chunks, chunks.flatten.length⟩ := by
  have hfuel : chunks.length < max (limits.maxResponseBytes.1 + 2) (chunks.length + 1) := by omega
  obtain ⟨pulls, hwhole⟩ := @consumeFrom_items _ _ _ body.pull chunks (readChunk limits) _ 0 {}
    (by simpa using hbody.item) (by simpa using hbody.stop) hfuel
  rw [consumeFrom_mono h.loop (Nat.le_max_left _ _),
    foldlM_readChunk rfl (Nat.zero_le _)] at hwhole
  simpa using (Prod.mk.inj (Option.some.inj hwhole)).1

theorem BodyRead.endless (h : BodyRead limits body items read)
    (hendless : ∀ i, ∃ chunk, body.pull i = .item chunk) : read = .error .oversized := by
  obtain ⟨chunk, hchunk⟩ := hendless items.length
  rcases h.last with ⟨hstop, -⟩ | ⟨error, hraise, -⟩ | ⟨-, -, -, hread⟩
  · rw [hchunk] at hstop
    cases hstop
  · rw [hchunk] at hraise
    cases hraise
  · exact hread

end BodyRead

/-- **A response costs a bounded amount of reading, and is what buffering it would have given**:
without a content encoding the call ends for any peer, also one that sends without end; what it has
received exceeds the ceiling by one chunk at most; and a body that ends is accepted exactly when it
would be as a whole. -/
theorem send_spec (limits : HttpClientLimits) (response : StreamedResponse)
    (hdecoder : response.decoder = none) :
    ∃ outcome pulls, SendSpec limits response outcome pulls := by
  by_cases hfailure : 400 ≤ response.statusCode
  · refine ⟨.ok (.unread response.statusCode), 0,
      ⟨fun fuel _ => by rw [send, if_pos hfailure], Nat.zero_le _, ?_, ?_, ?_, nofun⟩⟩
    · intro _ _ _ h
      cases h
    · intro _ hstatus
      omega
    · intro hstatus
      omega
  cases hdeclared : enforceDeclaredLength limits response.contentLength with
  | error error =>
      obtain ⟨rfl, hlarge⟩ := enforceDeclaredLength_error hdeclared
      refine ⟨.error .oversized, 0,
        ⟨fun fuel _ => ?_, Nat.zero_le _, ?_, ?_, fun _ _ => rfl, fun _ => .inl hlarge⟩⟩
      · rw [send, if_neg hfailure, hdeclared]
      · intro _ _ _ h
        cases h
      · intro chunks _ _
        rw [responseContent, hdeclared]
        rfl
  | ok =>
      obtain ⟨items, read, hbodyRead⟩ := exists_bodyRead limits response.body
      have hcontent : responseContent limits response.contentLength items.flatten =
          .ok items.flatten := by
        rw [responseContent, hdeclared]
        simp only
        rw [enforceSize_nat, if_neg (Nat.not_lt.mpr hbodyRead.within)]
      refine ⟨finished response read, items.length + 1, ⟨fun fuel hfuel => ?_, ?_, ?_, ?_, ?_, ?_⟩⟩
      · rw [send, if_neg hfailure, hdeclared]
        simp only [consumeFrom_mono hbodyRead.loop hfuel, response.plain hdecoder, Option.any_none,
          Bool.false_eq_true, if_false]
      · rw [response.body.received_succ hbodyRead.pulls]
        exact Nat.add_le_add hbodyRead.within (response.body.size_le _)
      · intro statusCode contentLength content houtcome
        rcases hbodyRead.last with ⟨-, rfl⟩ | ⟨error, -, rfl⟩ | ⟨chunk, -, -, rfl⟩
        · simp only [finished, rebuild, hdecoder, Except.ok.injEq,
            Received.buffered.injEq] at houtcome
          obtain ⟨-, rfl, rfl⟩ := houtcome
          exact ⟨hbodyRead.within, hcontent⟩
        · cases houtcome
        · cases houtcome
      · intro chunks _ hbody
        rw [responseContent, hdeclared, hbodyRead.whole hbody]
        simp only [enforceSize_nat]
        by_cases hover : limits.maxResponseBytes.1 < chunks.flatten.length
        · simp only [if_pos hover]
          rfl
        · simp only [if_neg hover, finished, rebuild, hdecoder]
          rfl
      · intro _ hendless
        rw [hbodyRead.endless hendless]
        rfl
      · intro houtcome
        rcases hbodyRead.last with ⟨-, rfl⟩ | ⟨error, hraise, rfl⟩ | ⟨chunk, hchunk, hover, -⟩
        · simp only [finished, rebuild] at houtcome
          split at houtcome
          next => cases houtcome
          next => split at houtcome <;> cases houtcome
        · obtain rfl := Except.error.inj houtcome
          exact absurd hraise (response.body.raises _)
        · right
          have hsize : response.body.size items.length = chunk.length := by
            unfold ByteStream.size
            rw [hchunk]
          rw [response.body.received_succ hbodyRead.pulls, hsize]
          exact hover

/-- A body that never ends. -/
def endlessBody : ByteStream where
  pull _ := .item (List.replicate httpResponseReadChunkBytes 0)
  chunked i bytes h := by
    cases h
    rw [List.length_replicate]
    exact ⟨by decide, le_rfl⟩
  raises i h := by cases h

def emptyListBody : ByteStream where
  pull i := if i = 0 then .item [91, 93] else .stop
  chunked i bytes h := by
    split at h
    next => cases h; decide
    next => cases h
  raises i h := by
    split at h
    next => cases h
    next => cases h

theorem send_spec_bodies :
    (∃ pulls, send ⟨defaultHttpMaxResponseBytes⟩ { statusCode := 200, body := endlessBody }
      (2 * 1024 * 1024 + 2) = some (.error .oversized, pulls)) ∧
    ∃ pulls, send ⟨defaultHttpMaxResponseBytes⟩
      { statusCode := 200, contentLength := some (some 2), body := emptyListBody }
      (2 * 1024 * 1024 + 2) = some (.ok (.buffered 200 (some (some 2)) [91, 93]), pulls) := by
  constructor
  · obtain ⟨outcome, pulls, hspec⟩ :=
      send_spec ⟨defaultHttpMaxResponseBytes⟩ { statusCode := 200, body := endlessBody } rfl
    obtain rfl := hspec.endless (by decide) fun i => ⟨_, rfl⟩
    exact ⟨pulls, hspec.ends _ le_rfl⟩
  · obtain ⟨outcome, pulls, hspec⟩ := send_spec ⟨defaultHttpMaxResponseBytes⟩
      { statusCode := 200, contentLength := some (some 2), body := emptyListBody } rfl
    have hbody : IsBody emptyListBody [[91, 93]] := by
      constructor
      · intro i hi
        obtain rfl : i = 0 := by simpa using hi
        rfl
      · rfl
    obtain rfl := hspec.buffered [[91, 93]] (by decide) hbody
    exact ⟨pulls, hspec.ends _ le_rfl⟩

end BoundedHttpTransport

end Micboard
