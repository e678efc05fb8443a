import Micboard.ChargerPolling
import Mathlib.Data.List.Induction
import Mathlib.Data.List.ReduceOption

/-! The repeated bounded polls of an inventory that stays the same publish what one unbounded poll
publishes, and nothing is published before every page of one fingerprinted inventory is processed.
The fingerprint tells any two inventories apart that differ in their size, in what rows are
mappings, or in a bounded identity field; a change that the bounding of the fields hides does not
restart a cycle. -/

namespace Micboard.ChargerPollingService

open Library.Text Library.Sha256 Library.Framing

variable (isPrintable : Char → Bool)

/-- Text of the length that an identity field has at most. -/
abbrev IdentityText := { text : String // text.length ≤ 255 }

theorem length_stripBy_le (p : Char → Bool) (chars : List Char) : (stripBy p chars).length ≤
    chars.length := by
  unfold stripBy
  rw [List.length_reverse]
  refine (List.length_dropWhile_le _ _).trans ?_
  rw [List.length_reverse]
  exact List.length_dropWhile_le _ _

theorem length_boundedText_le (value : EventValue) (maximum : Nat) :
    (boundedText isPrintable value maximum).length ≤ maximum := by
  cases value with
  | text text =>
      have hstrip : (boundedText isPrintable (.text text) maximum).toList =
          stripChars ((text.toList.take maximum).filter isPrintable) := by
        simp [boundedText, strip]
      rw [← String.length_toList, hstrip]
      calc (stripChars ((text.toList.take maximum).filter isPrintable)).length
          ≤ ((text.toList.take maximum).filter isPrintable).length := length_stripBy_le _ _
        _ ≤ (text.toList.take maximum).length := List.length_filter_le _ _
        _ ≤ maximum := List.length_take_le _ _
  | none | bool _ | int _ | float _ | infinite | list _ | mapping _ | other => exact Nat.zero_le _

theorem prefixCode_identityText : PrefixCode fun text : IdentityText => framed 2 (encode text.val) := by
  refine prefixCode_framed (fun text text' heq => Subtype.ext (encode_injective heq)) fun text => ?_
  have hlength := length_encode_le text.val
  have hbound := text.property
  omega

theorem prefixCode_mark : PrefixCode fun mark : Nat => [0, mark] := by
  have hlength : ∀ mark : Nat, [0, mark].length = 2 := fun _ => rfl
  refine prefixCode_of_length hlength fun mark mark' heq => ?_
  simpa using heq

/-- The fields of a row with the bounds that they keep. -/
def boundedIdentity (item : Option ChargerDevice) : Nat × IdentityText × IdentityText × IdentityText :=
  let field (value : EventValue) : IdentityText :=
    ⟨boundedText isPrintable value 255, length_boundedText_le isPrintable value 255⟩
  match item with
  | some device => (77, field device.apiDeviceId, field device.model, field device.deviceType)
  | none => (88, field .none, field .none, field .none)

def unbound (identity : Nat × IdentityText × IdentityText × IdentityText) :
    Nat × String × String × String :=
  (identity.1, identity.2.1.val, identity.2.2.1.val, identity.2.2.2.val)

theorem unbound_boundedIdentity (item : Option ChargerDevice) :
    unbound (boundedIdentity isPrintable item) = identityOf isPrintable item := by
  cases item with
  | none => rfl
  | some device => rfl

theorem prefixCode_identity :
    PrefixCode fun identity : Nat × IdentityText × IdentityText × IdentityText =>
      identityBytes (unbound identity) :=
  prefixCode_mark.append
    (prefixCode_identityText.append (prefixCode_identityText.append prefixCode_identityText))

theorem pos_of_mem_encode_decimal {n byte : Nat}
    (h : byte ∈ encode (String.ofList (decimal n))) : 0 < byte := by
  unfold encode at h
  rw [String.toList_ofList] at h
  obtain ⟨c, hc, hbyte⟩ := List.mem_flatMap.mp h
  have hdigit : c.isDigit = true := Nat.isDigit_of_mem_toDigits (by omega) (by omega) hc
  have hrange : 48 ≤ c.val.toNat ∧ c.val.toNat ≤ 57 := by
    simpa [Char.isDigit, UInt32.le_iff_toNat_le] using hdigit
  have hcode : String.utf8EncodeChar c = [c.val.toUInt8] := by
    unfold String.utf8EncodeChar
    rw [if_pos (by omega)]
    rfl
  rw [hcode, List.map_singleton, List.mem_singleton] at hbyte
  rw [hbyte]
  simp only [UInt32.toNat_toUInt8]
  omega

/-- Inventories with the same bytes have the same identities, row by row. -/
theorem identities_eq_of_inventoryBytes_eq {items items' : List (Option ChargerDevice)}
    (h : inventoryBytes isPrintable items = inventoryBytes isPrintable items') :
    items.map (identityOf isPrintable) = items'.map (identityOf isPrintable) := by
  have hstart : ∀ items : List (Option ChargerDevice),
      ∀ byte ∈ (items.flatMap fun item => identityBytes (identityOf isPrintable item)).head?,
        decide (0 < byte) = false := by
    intro items byte hbyte
    cases items with
    | nil => cases hbyte
    | cons item items =>
        cases hbyte
        rfl
  have hdigits : ∀ (items : List (Option ChargerDevice)),
      ∀ byte ∈ encode (String.ofList (decimal items.length)), decide (0 < byte) = true := by
    intro items byte hbyte
    exact decide_eq_true (pos_of_mem_encode_decimal hbyte)
  have hrows := (eq_of_append_eq (hdigits items) (hdigits items') (hstart items) (hstart items') h).2
  have hbounded : ∀ items : List (Option ChargerDevice),
      (items.flatMap fun item => identityBytes (identityOf isPrintable item)) =
        (items.map (boundedIdentity isPrintable)).flatMap fun identity =>
          identityBytes (unbound identity) := by
    intro items
    rw [List.flatMap_map]
    simp only [unbound_boundedIdentity]
  rw [hbounded, hbounded] at hrows
  have hsame := (prefixCode_identity.flatMap_injective fun _ => by simp [identityBytes]) hrows
  have hunbound := congrArg (List.map unbound) hsame
  simpa only [List.map_map, Function.comp_def, unbound_boundedIdentity] using hunbound

section Cycle

variable {isPrintable} {call : ChargerPollCall} {progress : ChargerPollProgress}

/-- What a page keeps for the next one: the failures are counted for each poll alone. -/
def carried (progress : ChargerPollProgress) : ChargerPollProgress := { progress with failedCount := 0 }

def emptyProgress : ChargerPollProgress := ⟨[], false, 0, false, false⟩

/-- The stations of a cycle are unique, within the limit and under the current status, and no
channel failed. -/
structure Gathered (call : ChargerPollCall) (progress : ChargerPollProgress) : Prop where
  distinct : (progress.accumulated.map ChargerStationSnapshot.id).Nodup
  bounded : progress.accumulated.length ≤ call.limits.maxStations
  current : ∀ station ∈ progress.accumulated, station.status = currentStatus call.plugin
  succeeded : progress.cycleFailed = false

/-- The channels of the stations among some rows can be read. -/
def ChannelsRead (isPrintable : Char → Bool) (plugin : ChargerPlugin)
    (items : List ChargerDevice) : Prop :=
  ∀ device ∈ items, isStation isPrintable device = true →
    plugin.channels (boundedText isPrintable device.apiDeviceId 255) ≠ none

theorem carried_pollDevice (device : ChargerDevice) :
    carried (pollDevice isPrintable call progress device) =
      carried (pollDevice isPrintable call (carried progress) device) := by
  by_cases hstation : isStation isPrintable device
  · by_cases hid : boundedText isPrintable device.apiDeviceId 255 = ""
    · simp [pollDevice, carried, hstation, hid]
    · by_cases hknown : progress.accumulated.any
          fun station => station.id = boundedText isPrintable device.apiDeviceId 255
      · simp only [pollDevice, carried, hstation, hid, hknown, Bool.not_true, Bool.false_eq_true,
          if_true, if_false]
      · by_cases hfull : call.limits.maxStations ≤ progress.accumulated.length
        · simp only [pollDevice, carried, hstation, hid, hknown, hfull, Bool.not_true,
            Bool.false_eq_true, if_true, if_false]
        · simp only [pollDevice, carried, hstation, hid, hknown, hfull, Bool.not_true,
            Bool.false_eq_true, if_false]
          split
          · rfl
          · rfl
  · simp only [pollDevice, carried, hstation, Bool.not_false, if_true]

theorem carried_foldl (items : List ChargerDevice) (progress : ChargerPollProgress) :
    carried (items.foldl (pollDevice isPrintable call) progress) =
      carried (items.foldl (pollDevice isPrintable call) (carried progress)) := by
  induction items generalizing progress with
  | nil => rfl
  | cons device items ih =>
      rw [List.foldl_cons, List.foldl_cons, ih, carried_pollDevice, ← ih]

theorem Gathered.carried (h : Gathered call progress) : Gathered call (carried progress) :=
  ⟨h.distinct, h.bounded, h.current, h.succeeded⟩

theorem Gathered.pollDevice (h : Gathered call progress) {device : ChargerDevice}
    (hread : isStation isPrintable device = true →
      call.plugin.channels (boundedText isPrintable device.apiDeviceId 255) ≠ none) :
    Gathered call (pollDevice isPrintable call progress device) := by
  unfold ChargerPollingService.pollDevice
  split
  · exact h
  · next hstation =>
    have hread := hread (by simpa using hstation)
    dsimp only
    split
    · exact ⟨h.distinct, h.bounded, h.current, h.succeeded⟩
    · split
      · exact h
      · next hnew =>
          split
          · exact ⟨h.distinct, h.bounded, h.current, h.succeeded⟩
          · next hroom =>
              obtain ⟨channels, hchannels⟩ := Option.ne_none_iff_exists'.mp hread
              simp only [stationSlots, hchannels, Bool.false_eq_true, if_false]
              refine ⟨?_, ?_, ?_, h.succeeded⟩
              · rw [List.map_append, List.map_singleton]
                refine h.distinct.append (List.nodup_singleton _) fun id hid hlast => ?_
                obtain ⟨station, hstation, rfl⟩ := List.mem_map.mp hid
                rw [List.mem_singleton] at hlast
                exact hnew (List.any_eq_true.mpr ⟨station, hstation, decide_eq_true hlast⟩)
              · rw [List.length_append, List.length_singleton]
                omega
              · intro station hstation
                rcases List.mem_append.mp hstation with hold | hlast
                · exact h.current station hold
                · rw [List.mem_singleton.mp hlast]

theorem Gathered.foldl (h : Gathered call progress) {items : List ChargerDevice}
    (hread : ChannelsRead isPrintable call.plugin items) :
    Gathered call (items.foldl (ChargerPollingService.pollDevice isPrintable call) progress) := by
  induction items generalizing progress with
  | nil => exact h
  | cons device items ih =>
      refine ih (h.pollDevice (hread device (List.mem_cons_self ..))) fun other hother => ?_
      exact hread other (List.mem_cons_of_mem _ hother)

theorem gathered_empty (call : ChargerPollCall) : Gathered call emptyProgress :=
  ⟨List.nodup_nil, Nat.zero_le _, (fun _ h => nomatch h), rfl⟩

/-- Unique stations within the limit are restored as they are. -/
theorem stationAccumulator_eq {stations : List ChargerStationSnapshot} {limit : Nat}
    (hdistinct : (stations.map ChargerStationSnapshot.id).Nodup) (hbounded : stations.length ≤ limit) :
    stationAccumulator stations limit = (stations, false) := by
  unfold stationAccumulator
  induction stations using List.reverseRecOn with
  | nil => rfl
  | append_singleton stations station ih =>
      rw [List.map_append, List.map_singleton] at hdistinct
      rw [List.length_append, List.length_singleton] at hbounded
      have hstations := List.Nodup.of_append_left hdistinct
      have hnew : stations.any (fun other => other.id = station.id) = false := by
        rw [List.any_eq_false]
        intro other hother heq
        exact (List.disjoint_of_nodup_append hdistinct) (List.mem_map_of_mem hother)
          (by simpa using heq)
      have hroom : ¬ limit ≤ stations.length := by omega
      rw [List.foldl_append, ih hstations (by omega)]
      simp only [List.foldl_cons, List.foldl_nil, hnew, hroom, Bool.false_eq_true, if_false]

theorem Gathered.currentStations (h : Gathered call progress) :
    currentStations call progress = progress.accumulated := by
  unfold ChargerPollingService.currentStations
  conv_rhs => rw [← List.map_id progress.accumulated]
  refine List.map_congr_left fun station hstation => ?_
  rw [← h.current station hstation]
  rfl

end Cycle

/-- The page of a sequence behind an offset. -/
def pageFrom (rows : List (Option ChargerDevice)) (limit offset : Nat) : ChargerInventoryPage :=
  let next := min (offset + limit) rows.length
  { items := ((rows.take next).drop offset).reduceOption
    startOffset := offset
    nextOffset := if rows.length ≤ next then 0 else next
    inventorySize := some rows.length
    inventoryFingerprint := some (inventoryFingerprint isPrintable rows)
    inventoryTruncated := limit < rows.length
    cycleComplete := rows.length ≤ next }

variable {isPrintable} in
/-- A sequence within the ceiling is read behind the given offset if it is the expected one, else
from its start. -/
theorem inventoryPage_sequence {rows : List (Option ChargerDevice)}
    (hsize : rows.length ≤ hardMaxChargerInventorySize) (limit startOffset : Nat)
    (expectedSize : Option Nat)
    (expectedFingerprint : Option (List Nat)) :
    inventoryPage isPrintable (.sequence rows) limit startOffset expectedSize expectedFingerprint =
      pageFrom isPrintable rows limit
        (if (expectedSize.all (· = rows.length) &&
            expectedFingerprint.all (· = inventoryFingerprint isPrintable rows)) &&
            startOffset < rows.length then startOffset else 0) := by
  have htake : ∀ offset, ((rows.take (min (offset + limit) rows.length)).drop offset).take limit =
      (rows.take (min (offset + limit) rows.length)).drop offset := by
    intro offset
    refine List.take_of_length_le ?_
    rw [List.length_drop, List.length_take]
    omega
  simp only [inventoryPage, pageFrom, Nat.not_lt.mpr hsize, if_false, inventoryItems, htake]

/-! ### An inventory that stays the same -/

section Steady

variable {isPrintable} {call : ChargerPollCall} {rows : List (Option ChargerDevice)}

/-- The progress of a cycle after the first `offset` rows. -/
def progressAt (isPrintable : Char → Bool) (call : ChargerPollCall) (rows : List (Option ChargerDevice))
    (offset : Nat) : ChargerPollProgress :=
  carried ((rows.take offset).reduceOption.foldl (pollDevice isPrintable call) emptyProgress)

/-- The cursor in front of the row at `offset`; a cycle starts without one. -/
def cursorAt (isPrintable : Char → Bool) (call : ChargerPollCall) (rows : List (Option ChargerDevice))
    (offset : Nat) : Option ChargerPollingCursor :=
  if offset = 0 then none
  else
    let progress := progressAt isPrintable call rows offset
    some {
      nextOffset := offset
      inventorySize := rows.length
      inventoryFingerprint := some (inventoryFingerprint isPrintable rows)
      stations := progress.accumulated
      stationsTruncated := progress.stationsTruncated
      slotsTruncated := progress.slotsTruncated
      cycleFailed := progress.cycleFailed }

theorem mem_of_mem_reduceOption_take {offset : Nat} {device : ChargerDevice}
    (h : device ∈ (rows.take offset).reduceOption) : device ∈ rows.reduceOption := by
  rw [List.reduceOption_mem_iff] at h ⊢
  exact List.mem_of_mem_take h

theorem gathered_progressAt (hread : ChannelsRead isPrintable call.plugin rows.reduceOption)
    (offset : Nat) :
    Gathered call (progressAt isPrintable call rows offset) := by
  refine ((gathered_empty call).foldl fun device hdevice => ?_).carried
  exact hread device (mem_of_mem_reduceOption_take hdevice)

theorem progressAt_add (offset next : Nat) (h : offset ≤ next) :
    carried (((rows.take next).drop offset).reduceOption.foldl (pollDevice isPrintable call)
      (progressAt isPrintable call rows offset)) = progressAt isPrintable call rows next := by
  have hsplit : rows.take next = rows.take offset ++ (rows.take next).drop offset := by
    conv_lhs => rw [← List.take_append_drop offset (rows.take next)]
    rw [List.take_take, Nat.min_eq_left h]
  unfold progressAt
  rw [← carried_foldl]
  conv_rhs => rw [hsplit]
  rw [List.reduceOption_append, List.foldl_append]

theorem readCursor_cursorAt (hcache : call.cacheReads = true) (offset : Nat)
    (published : List (List ChargerStationSnapshot)) :
    readCursor call ⟨cursorAt isPrintable call rows offset, published⟩ =
      (cursorAt isPrintable call rows offset).getD {} := by
  unfold readCursor
  rw [if_pos hcache]

/-- The page of an unchanged inventory behind a stored offset. -/
theorem pollPage_cursorAt (hcache : call.cacheReads = true)
    (hsize : rows.length ≤ hardMaxChargerInventorySize) {offset : Nat} (hoffset : offset < rows.length)
    (published : List (List ChargerStationSnapshot)) :
    pollPage isPrintable call ⟨cursorAt isPrintable call rows offset, published⟩ (.sequence rows) =
      pageFrom isPrintable rows call.limits.maxDevices offset := by
  unfold pollPage
  rw [readCursor_cursorAt hcache]
  unfold cursorAt
  by_cases hzero : offset = 0
  · subst hzero
    rw [inventoryPage_sequence hsize]
    simp
  · simp only [hzero, if_false, Option.getD_some, ne_eq, not_false_eq_true, if_true]
    rw [inventoryPage_sequence hsize]
    simp [hoffset]

theorem startProgress_cursorAt (hcache : call.cacheReads = true)
    (hread : ChannelsRead isPrintable call.plugin rows.reduceOption) {page : ChargerInventoryPage}
    (published : List (List ChargerStationSnapshot)) :
    startProgress call ⟨cursorAt isPrintable call rows page.startOffset, published⟩ page =
      progressAt isPrintable call rows page.startOffset := by
  have hgathered := gathered_progressAt hread page.startOffset
  unfold startProgress
  rw [readCursor_cursorAt hcache]
  by_cases hzero : page.startOffset = 0
  · rw [hzero]
    rfl
  · have hstations := stationAccumulator_eq hgathered.distinct hgathered.bounded
    simp only [cursorAt, hzero, if_false, Option.getD_some, hstations, ne_eq,
      not_false_eq_true, decide_true,
      Bool.true_and, Bool.false_or]
    rfl

theorem pollProgress_cursorAt (hcache : call.cacheReads = true)
    (hread : ChannelsRead isPrintable call.plugin rows.reduceOption)
    {page : ChargerInventoryPage} {next : Nat}
    (hle : page.startOffset ≤ next)
    (hitems : page.items = ((rows.take next).drop page.startOffset).reduceOption)
    (published : List (List ChargerStationSnapshot)) :
    carried (pollProgress isPrintable call ⟨cursorAt isPrintable call rows page.startOffset,
      published⟩ page) =
      progressAt isPrintable call rows next := by
  unfold pollProgress
  rw [startProgress_cursorAt hcache hread, hitems]
  exact progressAt_add page.startOffset next hle

theorem storePage_complete {state : ChargerPollingState} {page : ChargerInventoryPage}
    {progress gathered : ChargerPollProgress} (hwrites : call.cacheWrites = true)
    (hcomplete : page.cycleComplete = true) (hprogress : carried progress = gathered)
    (hgathered : Gathered call gathered) :
    storePage call state page progress = ⟨none, state.published ++ [gathered.accumulated]⟩ := by
  subst hprogress
  have hsucceeded : progress.cycleFailed = false := hgathered.succeeded
  have hstations : currentStations call progress = progress.accumulated := hgathered.currentStations
  simp only [storePage, hwrites, hcomplete, finishCycle, hsucceeded, hstations, Bool.not_true,
    Bool.false_eq_true, if_false, if_true]
  rfl

theorem storePage_continue {state : ChargerPollingState} {page : ChargerInventoryPage}
    {progress : ChargerPollProgress} (hwrites : call.cacheWrites = true)
    (hcomplete : page.cycleComplete = false) (hnext : page.nextOffset ≠ 0)
    (hsize : page.inventorySize = some rows.length)
    (hfingerprint : page.inventoryFingerprint = some (inventoryFingerprint isPrintable rows))
    (hprogress : carried progress = progressAt isPrintable call rows page.nextOffset)
    (hgathered : Gathered call (progressAt isPrintable call rows page.nextOffset)) :
    storePage call state page progress =
      ⟨cursorAt isPrintable call rows page.nextOffset, state.published⟩ := by
  have hstations : currentStations call progress = progress.accumulated := by
    rw [← hprogress] at hgathered
    exact hgathered.currentStations
  simp only [storePage, hwrites, hcomplete, persistContinuation, hsize, hfingerprint, hnext, hstations,
    cursorAt, ← hprogress, Bool.not_true, Bool.false_eq_true, if_false, if_true, ne_eq,
      not_false_eq_true]
  rfl

/-- One poll of an unchanged inventory moves the cursor on or publishes the whole inventory. -/
theorem poll_cursorAt (hdevices : call.plugin.devices = some (.sequence rows))
    (hreads : call.cacheReads = true) (hwrites : call.cacheWrites = true)
    (hsize : rows.length ≤ hardMaxChargerInventorySize)
    (hread : ChannelsRead isPrintable call.plugin rows.reduceOption) {offset : Nat}
    (hoffset : offset < rows.length) (published : List (List ChargerStationSnapshot)) :
    (poll isPrintable call ⟨cursorAt isPrintable call rows offset, published⟩).1 =
      if rows.length ≤ offset + call.limits.maxDevices then
        ⟨none, published ++ [(progressAt isPrintable call rows rows.length).accumulated]⟩
      else ⟨cursorAt isPrintable call rows (offset + call.limits.maxDevices), published⟩ := by
  have hpositive := call.limits.positive.1
  have hpage := @pollPage_cursorAt isPrintable call rows hreads hsize offset hoffset published
  unfold poll
  rw [hdevices]
  dsimp only
  generalize pollPage isPrintable call _ (.sequence rows) = page at hpage ⊢
  by_cases hlast : rows.length ≤ offset + call.limits.maxDevices
  · rw [if_pos hlast]
    simp only [pageFrom, Nat.min_eq_right hlast, le_refl, if_true, decide_true] at hpage
    subst hpage
    refine storePage_complete hwrites rfl ?_ (gathered_progressAt hread rows.length)
    exact pollProgress_cursorAt hreads hread hoffset.le rfl published
  · rw [if_neg hlast]
    have hmin : min (offset + call.limits.maxDevices) rows.length =
        offset + call.limits.maxDevices := by
      omega
    simp only [pageFrom, hmin, hlast, if_false, decide_false] at hpage
    subst hpage
    refine storePage_continue hwrites rfl ?_ rfl rfl ?_ (gathered_progressAt hread _)
    · show offset + call.limits.maxDevices ≠ 0
      omega
    · exact pollProgress_cursorAt hreads hread (Nat.le_add_right _ _) rfl published

/-- The bounded polls that one cycle takes. -/
def pollsPerCycle (total limit : Nat) : Nat := (total + limit - 1) / limit

theorem succ_lt_pollsPerCycle_iff {total limit round : Nat} (hlimit : 0 < limit) :
    round + 1 < pollsPerCycle total limit ↔ (round + 1) * limit < total := by
  have hsucc : (round + 1 + 1) * limit = (round + 1) * limit + limit := Nat.succ_mul (round + 1) limit
  rw [pollsPerCycle, Nat.lt_iff_add_one_le, Nat.le_div_iff_mul_le hlimit]
  omega

/-- After any number of polls the cursor stands in front of the next page, and every complete cycle has
published the same stations. -/
theorem chargerStateAt_steady (hdevices : call.plugin.devices = some (.sequence rows))
    (hreads : call.cacheReads = true) (hwrites : call.cacheWrites = true) (hrows : rows ≠ [])
    (hsize : rows.length ≤ hardMaxChargerInventorySize)
    (hread : ChannelsRead isPrintable call.plugin rows.reduceOption) (n : Nat) :
    chargerStateAt isPrintable (fun _ => call) n =
      ⟨cursorAt isPrintable call rows
          (n % pollsPerCycle rows.length call.limits.maxDevices * call.limits.maxDevices),
        List.replicate (n / pollsPerCycle rows.length call.limits.maxDevices)
          (progressAt isPrintable call rows rows.length).accumulated⟩ := by
  have hlimit := call.limits.positive.1
  have hlength := List.length_pos_of_ne_nil hrows
  have hpolls : 0 < pollsPerCycle rows.length call.limits.maxDevices := by
    rw [pollsPerCycle, Nat.div_pos_iff]
    omega
  have hnext := fun round => @succ_lt_pollsPerCycle_iff rows.length call.limits.maxDevices round hlimit
  generalize pollsPerCycle rows.length call.limits.maxDevices = polls at hpolls hnext ⊢
  induction n with
  | zero =>
      rw [Nat.zero_mod, Nat.zero_div, Nat.zero_mul]
      rfl
  | succ n ih =>
      have hmod := Nat.mod_lt n hpolls
      have hoffset : n % polls * call.limits.maxDevices < rows.length := by
        cases hround : n % polls with
        | zero => omega
        | succ round => exact (hnext round).mp (by omega)
      have hmove : n % polls * call.limits.maxDevices + call.limits.maxDevices =
          (n % polls + 1) * call.limits.maxDevices := (Nat.succ_mul _ _).symm
      rw [chargerStateAt, ih, poll_cursorAt hdevices hreads hwrites hsize hread hoffset, hmove]
      by_cases hlast : n % polls + 1 < polls
      · have hmore : ¬ rows.length ≤ (n % polls + 1) * call.limits.maxDevices :=
          Nat.not_le.mpr ((hnext (n % polls)).mp hlast)
        have hstep := Nat.div_add_mod n polls
        have hdiv : (n + 1) / polls = n / polls := by
          apply Nat.div_eq_of_lt_le
          · rw [Nat.mul_comm]
            omega
          · rw [Nat.succ_mul, Nat.mul_comm]
            omega
        have hrem : (n + 1) % polls = n % polls + 1 := by
          have hstep' := Nat.div_add_mod (n + 1) polls
          rw [hdiv] at hstep'
          omega
        rw [if_neg hmore, hdiv, hrem]
      · have hwhole : rows.length ≤ (n % polls + 1) * call.limits.maxDevices :=
          Nat.not_lt.mp fun h => hlast ((hnext (n % polls)).mpr h)
        have heq : n % polls + 1 = polls := by omega
        have hsplit : n + 1 = polls * (n / polls + 1) := by
          have hstep := Nat.div_add_mod n polls
          rw [Nat.mul_succ]
          omega
        have hdiv : (n + 1) / polls = n / polls + 1 := by
          rw [hsplit, Nat.mul_div_cancel_left _ hpolls]
        have hrem : (n + 1) % polls = 0 := by
          rw [hsplit, Nat.mul_mod_right]
        rw [if_pos hwhole, hdiv, hrem, Nat.zero_mul, List.replicate_succ']
        rfl

end Steady

end Micboard.ChargerPollingService
