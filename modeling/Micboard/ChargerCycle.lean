import Micboard.ChargerRefinement

/-! Runs of charger polls in which everything may change from poll to poll: the inventory, the
channels, the health, the limits and the cache. What a cursor keeps was gathered by earlier polls of
one fingerprinted inventory, page after page from the first row on. -/

namespace Micboard.ChargerPollingService

open Library.Text

section Failures

variable (isPrintable : Char → Bool) (call : ChargerPollCall)

/-- The channels of a row are read, and reading them raises. -/
def ChannelsFail (progress : ChargerPollProgress) (device : ChargerDevice) : Prop :=
  isStation isPrintable device = true ∧ boundedText isPrintable device.apiDeviceId 255 ≠ "" ∧
    (∀ station ∈ progress.accumulated, station.id ≠ boundedText isPrintable device.apiDeviceId 255) ∧
    progress.accumulated.length < call.limits.maxStations ∧
    call.plugin.channels (boundedText isPrintable device.apiDeviceId 255) = none

/-- The channels of some row of a page fail. -/
def PageFails (progress : ChargerPollProgress) (items : List ChargerDevice) : Prop :=
  ∃ before device after, items = before ++ device :: after ∧
    ChannelsFail isPrintable call (before.foldl (pollDevice isPrintable call) progress) device

variable {isPrintable call} {progress : ChargerPollProgress}

theorem pollDevice_succeeded {device : ChargerDevice}
    (h : (pollDevice isPrintable call progress device).cycleFailed = false) :
    progress.cycleFailed = false ∧ ¬ ChannelsFail isPrintable call progress device := by
  constructor
  · unfold pollDevice at h
    split at h
    · exact h
    · dsimp only at h
      split at h
      · exact h
      · split at h
        · exact h
        · split at h
          · exact h
          · split at h
            · cases h
            · exact h
  · rintro ⟨hstation, hid, hnew, hroom, hfails⟩
    have hknown : progress.accumulated.any
        (fun station => station.id = boundedText isPrintable device.apiDeviceId 255) = false := by
      rw [List.any_eq_false]
      intro station hmem heq
      exact hnew station hmem (by simpa using heq)
    simp [pollDevice, hstation, hid, hknown, Nat.not_le.mpr hroom, stationSlots, hfails] at h

theorem foldl_succeeded {items : List ChargerDevice}
    (h : (items.foldl (pollDevice isPrintable call) progress).cycleFailed = false) :
    progress.cycleFailed = false ∧ ¬ PageFails isPrintable call progress items := by
  induction items generalizing progress with
  | nil =>
      refine ⟨h, ?_⟩
      rintro ⟨before, device, after, hsplit, -⟩
      cases before with
      | nil => cases hsplit
      | cons _ _ => cases hsplit
  | cons first items ih =>
      obtain ⟨hfirst, hitems⟩ := ih h
      obtain ⟨hprogress, hdevice⟩ := pollDevice_succeeded hfirst
      refine ⟨hprogress, ?_⟩
      rintro ⟨before, device, after, hsplit, hfails⟩
      cases before with
      | nil =>
          cases hsplit
          exact hdevice hfails
      | cons other before =>
          cases hsplit
          exact hitems ⟨before, device, after, rfl, hfails⟩

end Failures

section Poll

variable {isPrintable : Char → Bool} {call : ChargerPollCall} {state : ChargerPollingState}
  {rows : List (Option ChargerDevice)}

/-- A page starts over, or goes on behind the cursor of the same inventory. -/
def Follows (isPrintable : Char → Bool) (cursor : ChargerPollingCursor)
    (rows : List (Option ChargerDevice))
    (offset : Nat) : Prop :=
  offset = 0 ∨ offset ≠ 0 ∧ offset = cursor.nextOffset ∧ cursor.inventorySize = rows.length ∧
    ∀ fingerprint ∈ cursor.inventoryFingerprint, fingerprint = inventoryFingerprint isPrintable rows

theorem readCursor_eq_some (h : (readCursor call state).nextOffset ≠ 0) :
    ∃ cursor, state.cursor = some cursor ∧ readCursor call state = cursor := by
  unfold readCursor at h ⊢
  split at h
  · next hreads =>
      cases hstored : state.cursor with
      | none =>
          rw [hstored] at h
          exact absurd rfl h
      | some cursor => exact ⟨cursor, rfl, by rw [if_pos hreads]; rfl⟩
  · exact absurd rfl h

theorem pollPage_sequence (hsize : rows.length ≤ hardMaxChargerInventorySize) :
    ∃ offset, pollPage isPrintable call state (.sequence rows) =
        pageFrom isPrintable rows call.limits.maxDevices offset ∧
      Follows isPrintable (readCursor call state) rows offset := by
  unfold pollPage
  dsimp only
  rw [inventoryPage_sequence hsize]
  refine ⟨_, rfl, ?_⟩
  by_cases hzero : (readCursor call state).nextOffset = 0
  · left
    simp [hzero]
  · simp only [ne_eq, hzero, not_false_eq_true, if_true, Option.all_some]
    split
    · next hsame =>
        simp only [Bool.and_eq_true, decide_eq_true_eq] at hsame
        refine .inr ⟨hzero, rfl, hsame.1.1, fun fingerprint hfingerprint => ?_⟩
        have hall := hsame.1.2
        rw [Option.mem_def.mp hfingerprint] at hall
        simpa using hall
    · exact .inl rfl

theorem pollPage_oversized (hsize : ¬ rows.length ≤ hardMaxChargerInventorySize) :
    pollPage isPrintable call state (.sequence rows) =
      { items := [], startOffset := 0, nextOffset := 0, inventorySize := some rows.length,
        inventoryTruncated := true, cycleComplete := false } := by
  simp only [pollPage, inventoryPage, Nat.not_le.mp hsize, if_true]

/-- Only the unfinished page of a sequence leaves a new cursor. -/
theorem poll_cursor_cases {cursor : ChargerPollingCursor}
    (h : (poll isPrintable call state).1.cursor = some cursor) :
    state.cursor = some cursor ∨ ∃ rows offset, call.plugin.devices = some (.sequence rows) ∧
      pollPage isPrintable call state (.sequence rows) =
        pageFrom isPrintable rows call.limits.maxDevices offset ∧
      Follows isPrintable (readCursor call state) rows offset ∧
      cursor.nextOffset = min (offset + call.limits.maxDevices) rows.length ∧
      cursor.inventorySize = rows.length ∧
      cursor.inventoryFingerprint = some (inventoryFingerprint isPrintable rows) ∧
      cursor.cycleFailed = (pollProgress isPrintable call state
        (pollPage isPrintable call state (.sequence rows))).cycleFailed := by
  unfold poll at h
  cases hdevices : call.plugin.devices with
  | none =>
      rw [hdevices] at h
      exact .inl h
  | some devices =>
      rw [hdevices] at h
      dsimp only [storePage] at h
      split at h
      · exact .inl h
      · split at h
        · cases h
        · right
          cases devices with
          | iterable _ | other =>
              simp [persistContinuation, pollPage, inventoryPage] at h
          | sequence rows =>
              by_cases hsize : rows.length ≤ hardMaxChargerInventorySize
              · obtain ⟨offset, hpage, hfollows⟩ := @pollPage_sequence isPrintable call state rows hsize
                refine ⟨rows, offset, rfl, hpage, hfollows, ?_⟩
                by_cases hwhole : rows.length ≤ min (offset + call.limits.maxDevices) rows.length
                · simp [persistContinuation, hpage, pageFrom, hwhole] at h
                · simp only [persistContinuation, hpage, pageFrom, hwhole, if_false] at h
                  split at h
                  · cases h
                    rw [hpage]
                    simp only [pageFrom, hwhole, if_false, and_self]
                  · cases h
              · simp [persistContinuation, pollPage_oversized hsize] at h

theorem poll_published_sequence (hdevices : call.plugin.devices = some (.sequence rows))
    (h : (poll isPrintable call state).1.published ≠ state.published) :
    ∃ offset, pollPage isPrintable call state (.sequence rows) =
        pageFrom isPrintable rows call.limits.maxDevices offset ∧
      Follows isPrintable (readCursor call state) rows offset ∧
      rows.length ≤ offset + call.limits.maxDevices ∧
      (pollProgress isPrintable call state
        (pollPage isPrintable call state (.sequence rows))).cycleFailed = false := by
  unfold poll at h
  rw [hdevices] at h
  dsimp only [storePage] at h
  by_cases hsize : rows.length ≤ hardMaxChargerInventorySize
  · obtain ⟨offset, hpage, hfollows⟩ := @pollPage_sequence isPrintable call state rows hsize
    refine ⟨offset, hpage, hfollows, ?_⟩
    split at h
    · exact absurd rfl h
    · split at h
      · next hcomplete =>
          constructor
          · rw [hpage] at hcomplete
            have hwhole : rows.length ≤ min (offset + call.limits.maxDevices) rows.length :=
              of_decide_eq_true hcomplete
            exact hwhole.trans (min_le_left _ _)
          · dsimp only [finishCycle] at h
            split at h
            · exact absurd rfl h
            · next hfailed => exact Bool.eq_false_iff.mpr hfailed
      · exact absurd rfl h
  · rw [pollPage_oversized hsize] at h
    split at h
    · exact absurd rfl h
    · exact absurd rfl h

end Poll

/-! ### Pages of one inventory -/

section Runs

variable (isPrintable : Char → Bool) (calls : Nat → ChargerPollCall)

/-- The page that a poll of a run reads from a sequence. -/
def pageOf (n : Nat) (rows : List (Option ChargerDevice)) : ChargerInventoryPage :=
  pollPage isPrintable (calls n) (chargerStateAt isPrintable calls n) (.sequence rows)

/-- What a poll of a run has gathered before it reads its page. -/
def startOf (n : Nat) (rows : List (Option ChargerDevice)) : ChargerPollProgress :=
  startProgress (calls n) (chargerStateAt isPrintable calls n) (pageOf isPrintable calls n rows)

/-- A poll of a sequence with the fingerprint processes the rows from `start` to `next`, and no
channel fails. -/
def PageProcessed (fingerprint : List Nat) (n start next : Nat) : Prop :=
  ∃ rows, (calls n).plugin.devices = some (.sequence rows) ∧
    inventoryFingerprint isPrintable rows = fingerprint ∧
    (pageOf isPrintable calls n rows).items = ((rows.take next).drop start).reduceOption ∧
    (pageOf isPrintable calls n rows).startOffset = start ∧
    ¬ PageFails isPrintable (calls n) (startOf isPrintable calls n rows)
      (pageOf isPrintable calls n rows).items

/-- Polls of a run up to the `n`-th have processed the first rows of the inventory with the
fingerprint, each going on where an earlier one stopped. -/
inductive Processed (fingerprint : List Nat) : Nat → Nat → Prop
  | first {n next : Nat} : PageProcessed isPrintable calls fingerprint n 0 next →
      Processed fingerprint next n
  | following {m n start next : Nat} : Processed fingerprint start m → m < n →
      PageProcessed isPrintable calls fingerprint n start next → Processed fingerprint next n

/-- A stored cursor is that of an earlier poll of a sequence; the pages before it are processed
unless the cycle has failed. -/
structure Resumable (n : Nat) (cursor : ChargerPollingCursor) (m : Nat)
    (rows : List (Option ChargerDevice)) :
    Prop where
  earlier : m < n
  devices : (calls m).plugin.devices = some (.sequence rows)
  size : cursor.inventorySize = rows.length
  fingerprint : cursor.inventoryFingerprint = some (inventoryFingerprint isPrintable rows)
  stored : (chargerStateAt isPrintable calls (m + 1)).cursor = some cursor
  processed : cursor.cycleFailed = false →
    Processed isPrintable calls (inventoryFingerprint isPrintable rows) cursor.nextOffset m

variable {isPrintable calls} {n : Nat} {rows : List (Option ChargerDevice)}

/-- The pages before a resumed one are processed, unless the cycle has failed. -/
theorem processed_of_page {offset : Nat} (hdevices : (calls n).plugin.devices = some (.sequence rows))
    (hpage : pageOf isPrintable calls n rows = pageFrom isPrintable rows
      (calls n).limits.maxDevices offset)
    (hfollows : Follows isPrintable
      (readCursor (calls n) (chargerStateAt isPrintable calls n)) rows offset)
    (hsucceeded : (pollProgress isPrintable (calls n) (chargerStateAt isPrintable calls n)
      (pageOf isPrintable calls n rows)).cycleFailed = false)
    (hresumable : ∀ cursor, (chargerStateAt isPrintable calls n).cursor = some cursor →
      ∃ m rows, Resumable isPrintable calls n cursor m rows) :
    Processed isPrintable calls (inventoryFingerprint isPrintable rows)
      (min (offset + (calls n).limits.maxDevices) rows.length) n := by
  obtain ⟨hstart, hread⟩ := foldl_succeeded hsucceeded
  have hprocessed : PageProcessed isPrintable calls (inventoryFingerprint isPrintable rows) n offset
      (min (offset + (calls n).limits.maxDevices) rows.length) :=
    ⟨rows, hdevices, rfl, by rw [hpage]; rfl, by rw [hpage]; rfl, hread⟩
  rcases hfollows with rfl | ⟨hoffset, hnext, hsize, hfingerprint⟩
  · exact .first hprocessed
  · obtain ⟨cursor, hstored, hcursor⟩ := readCursor_eq_some (hnext ▸ hoffset)
    rw [hcursor] at hnext hfingerprint
    obtain ⟨m, previous, hprevious⟩ := hresumable cursor hstored
    have hsame := hfingerprint _ hprevious.fingerprint
    have hcycle : cursor.cycleFailed = false := by
      rw [startProgress, hpage, hcursor] at hstart
      simpa [pageFrom, hoffset] using hstart
    have hbefore := hprevious.processed hcycle
    rw [hsame, ← hnext] at hbefore
    exact .following hbefore hprevious.earlier hprocessed

theorem exists_resumable {cursor : ChargerPollingCursor}
    (hcursor : (chargerStateAt isPrintable calls n).cursor = some cursor) :
    ∃ m rows, Resumable isPrintable calls n cursor m rows := by
  induction n generalizing cursor with
  | zero => cases hcursor
  | succ n ih =>
      rcases poll_cursor_cases hcursor with hkept | ⟨rows, offset, hdevices, hpage, hfollows, hnew⟩
      · obtain ⟨m, rows, h⟩ := ih hkept
        exact ⟨m, rows, h.earlier.trans n.lt_succ_self, h.devices, h.size, h.fingerprint, h.stored,
          h.processed⟩
      · obtain ⟨hnext, hsize, hfingerprint, hfailed⟩ := hnew
        refine ⟨n, rows, n.lt_succ_self, hdevices, hsize, hfingerprint, hcursor, fun hsucceeded => ?_⟩
        rw [hnext]
        rw [hfailed] at hsucceeded
        exact processed_of_page hdevices hpage hfollows hsucceeded fun cursor h => ih h

theorem processed_of_published (hdevices : (calls n).plugin.devices = some (.sequence rows))
    (h : (chargerStateAt isPrintable calls (n + 1)).published ≠
      (chargerStateAt isPrintable calls n).published) :
    Processed isPrintable calls (inventoryFingerprint isPrintable rows) rows.length n := by
  obtain ⟨offset, hpage, hfollows, hwhole, hsucceeded⟩ := poll_published_sequence hdevices h
  have hprocessed := processed_of_page hdevices hpage hfollows hsucceeded fun _ => exists_resumable
  rwa [min_eq_right hwhole] at hprocessed

/-- A change of the identities between two pages starts the cycle over. -/
theorem restarts_of_changed {cursor : ChargerPollingCursor} {previous : List (Option ChargerDevice)}
    (hread : readCursor (calls n) (chargerStateAt isPrintable calls n) = cursor)
    (hfingerprint : cursor.inventoryFingerprint = some (inventoryFingerprint isPrintable previous))
    (hcollision : inventoryFingerprint isPrintable previous = inventoryFingerprint isPrintable rows →
      inventoryBytes isPrintable previous = inventoryBytes isPrintable rows)
    (hchanged : previous.map (identityOf isPrintable) ≠ rows.map (identityOf isPrintable)) :
    (pageOf isPrintable calls n rows).startOffset = 0 ∧
      startOf isPrintable calls n rows = emptyProgress := by
  have hstart : (pageOf isPrintable calls n rows).startOffset = 0 := by
    by_cases hsize : rows.length ≤ hardMaxChargerInventorySize
    · obtain ⟨offset, hpage, hfollows⟩ :=
        @pollPage_sequence isPrintable (calls n) (chargerStateAt isPrintable calls n) rows hsize
      rcases hfollows with hzero | ⟨-, -, -, hsame⟩
      · rw [pageOf, hpage]
        exact hzero
      · rw [hread] at hsame
        have hbytes := hcollision (hsame _ hfingerprint)
        exact absurd (identities_eq_of_inventoryBytes_eq isPrintable hbytes) hchanged
    · rw [pageOf, pollPage_oversized hsize]
  refine ⟨hstart, ?_⟩
  unfold startOf startProgress
  rw [hstart]
  rfl

end Runs

/-- The repeated bounded polls of an inventory that stays the same publish what one poll of the
whole inventory publishes, once for each cycle. In every run nothing is published from a sequence
before all pages of its fingerprinted inventory are processed without a channel failure, and a
stored cursor is that of an earlier poll, whose pages are discarded when the bounded identities
differ. -/
theorem charger_polls_refine (isPrintable : Char → Bool) :
    (∀ (plugin : ChargerPlugin) (limits unbounded : ChargerPollingLimits)
      (rows : List (Option ChargerDevice)), plugin.devices = some (.sequence rows) →
      rows.length ≤ hardMaxChargerInventorySize → ChannelsRead isPrintable plugin rows.reduceOption →
      limits.maxDevices ≤ rows.length → rows.length ≤ unbounded.maxDevices →
      limits.maxStations = unbounded.maxStations → limits.maxSlots = unbounded.maxSlots →
      ∃ stations,
        (poll isPrintable { plugin := plugin, limits := unbounded } {}).1.published = [stations] ∧
        ∀ n, (chargerStateAt isPrintable
          (fun _ => { plugin := plugin, limits := limits }) n).published =
          List.replicate (n / pollsPerCycle rows.length limits.maxDevices) stations) ∧
    (∀ (calls : Nat → ChargerPollCall) (n : Nat) (rows : List (Option ChargerDevice)),
      (calls n).plugin.devices = some (.sequence rows) →
      (chargerStateAt isPrintable calls (n + 1)).published ≠
        (chargerStateAt isPrintable calls n).published →
      Processed isPrintable calls (inventoryFingerprint isPrintable rows) rows.length n) ∧
    ∀ (calls : Nat → ChargerPollCall) (n : Nat) (rows : List (Option ChargerDevice)),
      (readCursor (calls n) (chargerStateAt isPrintable calls n)).nextOffset ≠ 0 →
      ∃ m < n, ∃ previous, (calls m).plugin.devices = some (.sequence previous) ∧
        (chargerStateAt isPrintable calls (m + 1)).cursor =
          (chargerStateAt isPrintable calls n).cursor ∧
        ((inventoryFingerprint isPrintable previous = inventoryFingerprint isPrintable rows →
            inventoryBytes isPrintable previous = inventoryBytes isPrintable rows) →
          previous.map (identityOf isPrintable) ≠ rows.map (identityOf isPrintable) →
          (pageOf isPrintable calls n rows).startOffset = 0 ∧
            startOf isPrintable calls n rows = emptyProgress) := by
  refine ⟨?_, fun _ _ _ => processed_of_published, ?_⟩
  · intro plugin limits unbounded rows hdevices hsize hread hlimit hunbounded hstations hslots
    have hnonempty : rows ≠ [] := by
      rintro rfl
      exact absurd limits.positive.1 (Nat.not_lt.mpr hlimit)
    have hsame : pollDevice isPrintable { plugin := plugin, limits := unbounded } =
        pollDevice isPrintable { plugin := plugin, limits := limits } := by
      funext progress device
      simp only [pollDevice, hstations, hslots]
    refine ⟨(progressAt isPrintable
      { plugin := plugin, limits := limits } rows rows.length).accumulated,
      ?_, fun n => ?_⟩
    · have hpoll :=
        @poll_cursorAt isPrintable { plugin := plugin, limits := unbounded } rows hdevices rfl rfl
        hsize hread 0 (List.length_pos_of_ne_nil hnonempty) []
      rw [if_pos (hunbounded.trans (Nat.le_add_left _ _))] at hpoll
      have hpublished := congrArg ChargerPollingState.published hpoll
      rw [progressAt, hsame] at hpublished
      exact hpublished
    · rw [chargerStateAt_steady hdevices rfl rfl hnonempty hsize hread n]
  · intro calls n rows hnext
    have hcursor : ∃ cursor, (chargerStateAt isPrintable calls n).cursor = some cursor ∧
        readCursor (calls n) (chargerStateAt isPrintable calls n) = cursor := readCursor_eq_some hnext
    obtain ⟨cursor, hstored, hread⟩ := hcursor
    obtain ⟨m, previous, hprevious⟩ := exists_resumable hstored
    refine ⟨m, hprevious.earlier, previous, hprevious.devices, by rw [hstored, hprevious.stored], ?_⟩
    exact restarts_of_changed hread hprevious.fingerprint

def asciiPrintable (c : Char) : Bool := 32 ≤ c.toNat && c.toNat < 127

/-- Two polls in pages of one row; the second meets a blank behind the first identifier. -/
def renamedCalls (n : Nat) : ChargerPollCall where
  plugin := {
    devices := some (.sequence
      [some { apiDeviceId := .text (if n = 0 then "A" else "A "), model := .text "SBC250" },
      some { apiDeviceId := .text "B", model := .text "SBC250" }])
    channels := fun _ => some (.sequence [])
    healthy := true }
  limits := { maxDevices := 1, maxStations := 64, maxSlots := 32 }

theorem charger_polls_refine_pair :
    ∃ stations, (poll asciiPrintable { renamedCalls 0 with limits :=
        { maxDevices := 2, maxStations := 64, maxSlots := 32 } } {}).1.published = [stations] ∧
      ∀ n, (chargerStateAt asciiPrintable (fun _ => renamedCalls 0) n).published =
        List.replicate (n / 2) stations :=
  (charger_polls_refine asciiPrintable).1 (renamedCalls 0).plugin (renamedCalls 0).limits
    { maxDevices := 2, maxStations := 64, maxSlots := 32 } _ rfl (by decide)
    (fun _ _ _ h => nomatch h) (by decide) (by decide) rfl rfl

theorem renamed_charger_continues :
    ¬ ∀ (calls : Nat → ChargerPollCall) (n : Nat) (previous rows : List (Option ChargerDevice)),
      (calls n).plugin.devices = some (.sequence previous) →
      (calls (n + 1)).plugin.devices = some (.sequence rows) →
      (readCursor (calls (n + 1)) (chargerStateAt asciiPrintable calls (n + 1))).nextOffset ≠ 0 →
      (inventoryFingerprint asciiPrintable previous = inventoryFingerprint asciiPrintable rows →
        inventoryBytes asciiPrintable previous = inventoryBytes asciiPrintable rows) →
      previous.map (Option.map ChargerDevice.apiDeviceId) ≠ rows.map
        (Option.map ChargerDevice.apiDeviceId) →
      (pageOf asciiPrintable calls (n + 1) rows).startOffset = 0 := by
  intro h
  have hstart := h renamedCalls 0 _ _ rfl rfl (by decide +kernel) (fun _ => by decide +kernel)
    (by simp)
  exact absurd hstart (by decide +kernel)

end Micboard.ChargerPollingService
