import Micboard.DiscoveryReconciliation
import Micboard.LibraryDictionary

/-! The discovery list of a Shure System API server. The server only replaces the whole list, so an
addition reads the list, merges the new addresses into it and writes it back; a removal has a
request of its own. -/

namespace Micboard

open Library Library.Address

/-- What a request raises: the error of this API or one of its subclasses, or anything else. -/
inductive RequestError where
  | shureApi
  | other
  deriving DecidableEq, Repr

/-- `data.get(key)` where a missing key is told from a null. -/
def EventData.get? (data : EventData) (key : String) : Option EventValue :=
  (data.find? fun item => item.1 = key).map Prod.snd

def EventValue.toIPv4 : EventValue → Option String
  | .text value => (parseIPv4 value.toList).map fun address => String.ofList (formatIPv4 address)
  | _ => Option.none

def validateIpv4List (ips : List EventValue) : List String := ips.filterMap EventValue.toIPv4

/-- `res.get("ips", [])` of a body that is an object with members. -/
def responseIps : EventValue → Option EventValue
  | .mapping (item :: rest) => some ((EventData.get? (item :: rest) "ips").getD (.list []))
  | _ => Option.none

namespace ShureDiscoveryClient

/-- The addresses to which new ones are added; nothing where the addition is refused. -/
def existingIps (read : Except RequestError EventValue) :
    Except RequestError (Option (List String)) :=
  match read with
  | .ok res =>
    match responseIps res with
    | some (.list remoteIps) =>
      if maxDiscoveryCandidates < remoteIps.length then .ok none
      else .ok (some (validateIpv4List remoteIps))
    | some _ => .ok none
    | none => .ok (some [])
  -- no existing discovery addresses returned; starting fresh
  | .error .shureApi => .ok (some [])
  | .error .other => .error .other

/-- The outcome of an addition and the list it sent, given the answers to its two requests. -/
def addDiscoveryIps (ips : List EventValue) (read : Except RequestError EventValue)
    (put : List String → Except RequestError Unit) :
    Except RequestError Bool × Option (List String) :=
  let boundedInputs := ips.take (maxDiscoveryCandidates + 1)
  if maxDiscoveryCandidates < boundedInputs.length then (.ok false, none)
  else
    let validIps := validateIpv4List boundedInputs
    if validIps.isEmpty then (.ok false, none)
    else
      match existingIps read with
      | .error error => (.error error, none)
      | .ok none => (.ok false, none)
      | .ok (some existing) =>
        let combined := (existing ++ validIps).eraseDups
        if maxDiscoveryCandidates < combined.length then (.ok false, none)
        else
          match put combined with
          | .ok () => (.ok true, some combined)
          | .error .shureApi => (.ok false, some combined)
          | .error .other => (.error .other, some combined)

def getDiscoveryIps (read : Except RequestError EventValue) :
    Except RequestError (List EventValue) :=
  match read with
  | .ok res =>
    match responseIps res with
    | some (.list ips) => if ips.all EventValue.isText then .ok ips else .ok []
    | _ => .ok []
  | .error .shureApi => .ok []
  | .error .other => .error .other

/-- The outcome of a removal and the addresses it named. The second request is the fallback for a
server that does not support the first one. -/
def removeDiscoveryIps (ips : List EventValue) (patch post : List String → Except RequestError Unit) :
    Except RequestError Bool × Option (List String) :=
  let boundedInputs := ips.take (maxDiscoveryCandidates + 1)
  if maxDiscoveryCandidates < boundedInputs.length then (.ok false, none)
  else
    let validIps := validateIpv4List boundedInputs
    if validIps.isEmpty then (.ok false, none)
    else
      match patch validIps with
      | .ok () => (.ok true, some validIps)
      | .error .other => (.error .other, some validIps)
      | .error .shureApi =>
        match post validIps with
        | .ok () => (.ok true, some validIps)
        | .error .shureApi => (.ok false, some validIps)
        | .error .other => (.error .other, some validIps)

end ShureDiscoveryClient

/-- What a server answers to the requests of one run. The list is read for the run and again for an
addition. -/
structure ShureServer where
  read : Except RequestError EventValue
  readForAddition : Except RequestError EventValue
  put : List String → Except RequestError Unit
  patch : List String → Except RequestError Unit
  post : List String → Except RequestError Unit

def returnsTrue (outcome : Except RequestError Bool) : Bool :=
  match outcome with
  | .ok accepted => accepted
  | .error _ => false

/-- The plugin of the manufacturer passes every call on to the client. -/
def ShureServer.plugin (server : ShureServer) : DiscoveryPlugin where
  getDiscoveryIps :=
    match ShureDiscoveryClient.getDiscoveryIps server.read with
    | .ok ips => some ips
    | .error _ => none
  addDiscoveryIps ips :=
    returnsTrue
      (ShureDiscoveryClient.addDiscoveryIps (ips.map .text) server.readForAddition server.put).1
  removeDiscoveryIps ips :=
    returnsTrue (ShureDiscoveryClient.removeDiscoveryIps (ips.map .text) server.patch server.post).1

theorem toIPv4_text {value ip : String} (h : EventValue.toIPv4 (.text value) = some ip) :
    ip = value := by
  obtain ⟨address, haddress, rfl⟩ := Option.map_eq_some_iff.mp h
  rw [formatIPv4_of_parseIPv4 haddress, String.ofList_toList]

theorem mem_validateIpv4List {ips : List EventValue} {ip : String} :
    ip ∈ validateIpv4List ips ↔
      EventValue.text ip ∈ ips ∧ EventValue.toIPv4 (.text ip) = some ip := by
  rw [validateIpv4List, List.mem_filterMap]
  constructor
  · rintro ⟨item, hitem, hip⟩
    cases item with
    | text value =>
        obtain rfl := toIPv4_text hip
        exact ⟨hitem, hip⟩
    | none | bool | int | float | infinite | list | mapping | other => cases hip
  · exact fun ⟨hitem, hip⟩ => ⟨.text ip, hitem, hip⟩

theorem length_validateIpv4List_le (ips : List EventValue) :
    (validateIpv4List ips).length ≤ ips.length := List.length_filterMap_le _ _

theorem boundedInputs_eq {ips : List EventValue}
    (h : ¬ maxDiscoveryCandidates < (ips.take (maxDiscoveryCandidates + 1)).length) :
    ips.take (maxDiscoveryCandidates + 1) = ips ∧ ips.length ≤ maxDiscoveryCandidates := by
  rw [List.length_take] at h
  have hlength : ips.length ≤ maxDiscoveryCandidates := by omega
  exact ⟨List.take_of_length_le (Nat.le_succ_of_le hlength), hlength⟩

/-- The list that a read answers with; nothing when it failed or its body is malformed. -/
def readList (read : Except RequestError EventValue) : Option (List EventValue) :=
  match read with
  | .ok (.mapping items) =>
    match EventData.get? items "ips" with
    | some (.list remoteIps) => some remoteIps
    | _ => none
  | _ => none

/-- The body of a read is an object with an entry for the list. -/
def HasIpsEntry (read : Except RequestError EventValue) : Prop :=
  ∃ items entry, read = .ok (.mapping items) ∧ EventData.get? items "ips" = some entry

theorem responseIps_of_entry {items : EventData} {entry : EventValue}
    (h : EventData.get? items "ips" = some entry) : responseIps (.mapping items) = some entry := by
  cases items with
  | nil => cases h
  | cons item rest => rw [responseIps, h, Option.getD_some]

/-- Without the entry an addition starts from an empty list. -/
theorem existingIps_of_not_hasIpsEntry {read : Except RequestError EventValue}
    (h : ¬ HasIpsEntry read) (hraised : read ≠ .error .other) :
    ShureDiscoveryClient.existingIps read = .ok (some []) := by
  cases read with
  | error error =>
      cases error with
      | shureApi => rfl
      | other => exact absurd rfl hraised
  | ok res =>
      have hres : responseIps res = none ∨ responseIps res = some (.list []) := by
        cases res with
        | mapping items =>
            cases items with
            | nil => exact .inl rfl
            | cons item rest =>
                have hnone : EventData.get? (item :: rest) "ips" = none := by
                  by_contra hsome
                  obtain ⟨entry, hentry⟩ := Option.ne_none_iff_exists'.mp hsome
                  exact h ⟨_, entry, rfl, hentry⟩
                exact .inr (by rw [responseIps, hnone, Option.getD_none])
        | none | bool | int | float | infinite | text | list | other => exact .inl rfl
      rcases hres with hres | hres
      · simp only [ShureDiscoveryClient.existingIps, hres]
      · simp only [ShureDiscoveryClient.existingIps, hres, List.length_nil, Nat.not_lt_zero, if_false]
        rfl

/-- With the entry an addition starts from the valid addresses of the list, or is refused. -/
theorem existingIps_of_hasIpsEntry {read : Except RequestError EventValue} (h : HasIpsEntry read)
    {existing : List String} (hexisting : ShureDiscoveryClient.existingIps read = .ok (some existing)) :
    ∃ remoteIps, readList read = some remoteIps ∧ existing = validateIpv4List remoteIps := by
  obtain ⟨items, entry, rfl, hentry⟩ := h
  simp only [ShureDiscoveryClient.existingIps, responseIps_of_entry hentry] at hexisting
  split at hexisting
  next remoteIps hlist =>
    obtain rfl := Option.some.inj hlist
    split at hexisting
    next => cases hexisting
    next =>
      cases hexisting
      exact ⟨remoteIps, by simp only [readList, hentry], rfl⟩
  next => cases hexisting
  next hnone => cases hnone

section Addition

open ShureDiscoveryClient

variable {ips remote : List EventValue} {read : Except RequestError EventValue}
  {put : List String → Except RequestError Unit}

variable (ips read put) in
/-- An addition that got past its checks sends the list it read with the new addresses; one that did not
sends nothing and does not return true. -/
theorem addDiscoveryIps_cases :
    ((addDiscoveryIps ips read put).2 = none ∧ (addDiscoveryIps ips read put).1 ≠ .ok true) ∨
    (ips.length ≤ maxDiscoveryCandidates ∧ validateIpv4List ips ≠ [] ∧
      ∃ existing, existingIps read = .ok (some existing) ∧
        (addDiscoveryIps ips read put).2 =
          some ((existing ++ validateIpv4List ips).eraseDups)) := by
  simp only [addDiscoveryIps]
  split
  next => exact .inl ⟨rfl, by simp⟩
  next hbound =>
    obtain ⟨hbounded, hlength⟩ := boundedInputs_eq hbound
    rw [hbounded]
    split
    next => exact .inl ⟨rfl, by simp⟩
    next hvalid =>
      cases hread : existingIps read with
      | error error => exact .inl ⟨rfl, by simp⟩
      | ok found =>
          cases found with
          | none => exact .inl ⟨rfl, by simp⟩
          | some existing =>
              simp only
              split
              next => exact .inl ⟨rfl, by simp⟩
              next =>
                refine .inr ⟨hlength, fun hnil => hvalid (List.isEmpty_iff.mpr hnil), existing, rfl, ?_⟩
                split <;> rfl

/-- An addition that starts from an empty list replaces the list by the new addresses. -/
theorem addDiscoveryIps_fresh (hbound : ips.length ≤ maxDiscoveryCandidates)
    (hvalid : validateIpv4List ips ≠ []) (hread : existingIps read = .ok (some [])) :
    (addDiscoveryIps ips read put).2 = some (validateIpv4List ips).eraseDups := by
  have hbounded : ips.take (maxDiscoveryCandidates + 1) = ips :=
    List.take_of_length_le (Nat.le_succ_of_le hbound)
  have hempty : ¬ (validateIpv4List ips).isEmpty = true := fun h => hvalid (List.isEmpty_iff.mp h)
  have hmerged : (validateIpv4List ips).eraseDups.length ≤ maxDiscoveryCandidates :=
    (length_eraseDups_le _).trans ((length_validateIpv4List_le ips).trans hbound)
  simp only [addDiscoveryIps, hbounded, if_neg (Nat.not_lt.mpr hbound), if_neg hempty, hread,
    List.nil_append, if_neg (Nat.not_lt.mpr hmerged)]
  split <;> rfl

/-- The remote list after a call: the list it sent, if that was accepted. -/
def remoteAfter (remote : List EventValue) (call : Except RequestError Bool × Option (List String)) :
    List EventValue :=
  match call with
  | (.ok true, some sent) => sent.map .text
  | _ => remote

/-- The read of an addition does not stand for an empty list: it is not reached, or its body has an
entry for the list, or it raises something that is not handled. -/
def ReadsBeforeAdding (ips : List EventValue) (read : Except RequestError EventValue) : Prop :=
  maxDiscoveryCandidates < ips.length ∨ validateIpv4List ips = [] ∨ HasIpsEntry read ∨
    read = .error .other

theorem hasIpsEntry_of_readList {listed : List EventValue} (h : readList read = some listed) :
    HasIpsEntry read := by
  simp only [readList] at h
  split at h
  next items =>
    split at h
    next remoteIps hentry => exact ⟨items, _, rfl, hentry⟩
    next => cases h
  next => cases h

/-- An addition sends nothing after a read without a list exactly if the read does not stand for an
empty one. -/
theorem sent_eq_none_iff : (readList read = none → (addDiscoveryIps ips read put).2 = none) ↔
    ReadsBeforeAdding ips read := by
  constructor
  · intro hunread
    by_contra hreads
    obtain ⟨hbound, hreads⟩ := not_or.mp hreads
    obtain ⟨hvalid, hreads⟩ := not_or.mp hreads
    obtain ⟨hentry, hraised⟩ := not_or.mp hreads
    have hsent := @addDiscoveryIps_fresh ips read put (Nat.not_lt.mp hbound) hvalid
      (existingIps_of_not_hasIpsEntry hentry hraised)
    have hlist : readList read = none := by
      by_contra hlist
      obtain ⟨listed, hlisted⟩ := Option.ne_none_iff_exists'.mp hlist
      exact hentry (hasIpsEntry_of_readList hlisted)
    rw [hunread hlist] at hsent
    cases hsent
  · intro hreads hlist
    rcases addDiscoveryIps_cases ips read put with ⟨hsent, -⟩ | ⟨hbound, hvalid, existing, hread, -⟩
    · exact hsent
    · exfalso
      rcases hreads with hlarge | hnone | hentry | hraised
      · exact absurd hbound (Nat.not_le.mpr hlarge)
      · exact hvalid hnone
      · obtain ⟨remoteIps, hfound, -⟩ := existingIps_of_hasIpsEntry hentry hread
        rw [hlist] at hfound
        cases hfound
      · rw [hraised] at hread
        cases hread

/-- After an addition that returned true the list has the valid addresses it had and those that were
requested. -/
theorem mem_remoteAfter (hreads : ReadsBeforeAdding ips read)
    (hanswers : ∀ listed, readList read = some listed → listed = remote)
    (htrue : (addDiscoveryIps ips read put).1 = .ok true) {ip : String}
    (hvalid : EventValue.toIPv4 (.text ip) = some ip)
    (hip : EventValue.text ip ∈ remote ∨ EventValue.text ip ∈ ips) :
    EventValue.text ip ∈ remoteAfter remote (addDiscoveryIps ips read put) := by
  rcases addDiscoveryIps_cases ips read put with ⟨-, hfalse⟩ | ⟨hbound, hsome, existing, hread, hsent⟩
  · exact absurd htrue hfalse
  · have hcall : addDiscoveryIps ips read put =
        (.ok true, some (existing ++ validateIpv4List ips).eraseDups) := Prod.ext htrue hsent
    rw [hcall]
    refine List.mem_map_of_mem (List.mem_eraseDups.mpr (List.mem_append.mpr ?_))
    rcases hip with hremote | hrequested
    · left
      rcases hreads with hlarge | hnone | hentry | hraised
      · exact absurd hbound (Nat.not_le.mpr hlarge)
      · exact absurd hnone hsome
      · obtain ⟨listed, hlisted, rfl⟩ := existingIps_of_hasIpsEntry hentry hread
        rw [hanswers listed hlisted]
        exact mem_validateIpv4List.mpr ⟨hremote, hvalid⟩
      · rw [hraised] at hread
        cases hread
    · exact .inr (mem_validateIpv4List.mpr ⟨hrequested, hvalid⟩)

end Addition

/-! ### The discovery list under all calls -/

/-- A removal names requested addresses only. -/
theorem mem_of_mem_removed {ips : List EventValue} {patch post : List String → Except RequestError Unit}
    {sent : List String}
    (h : (ShureDiscoveryClient.removeDiscoveryIps ips patch post).2 = some sent) {ip : String}
    (hip : ip ∈ sent) : EventValue.text ip ∈ ips := by
  have hsent : sent = validateIpv4List (ips.take (maxDiscoveryCandidates + 1)) := by
    simp only [ShureDiscoveryClient.removeDiscoveryIps] at h
    split at h
    next => cases h
    next =>
      split at h
      next => cases h
      next =>
        split at h
        next => exact (Option.some.inj h).symm
        next => exact (Option.some.inj h).symm
        next => split at h <;> exact (Option.some.inj h).symm
  rw [hsent] at hip
  exact List.mem_of_mem_take (mem_validateIpv4List.mp hip).1

/-- The read of a reconciliation does not stand for an empty list: it answers with a list of texts,
or it raises something that is not handled. -/
def ReadsTexts (read : Except RequestError EventValue) : Prop :=
  (∃ texts : List String, readList read = some (texts.map EventValue.text)) ∨ read = .error .other

/-- What a read without such a list comes to. -/
theorem getDiscoveryIps_eq_nil {read : Except RequestError EventValue} (h : ¬ ReadsTexts read) :
    ShureDiscoveryClient.getDiscoveryIps read = .ok [] := by
  obtain ⟨htexts, hraised⟩ := not_or.mp h
  cases read with
  | error error =>
      cases error with
      | shureApi => rfl
      | other => exact absurd rfl hraised
  | ok res =>
      simp only [ShureDiscoveryClient.getDiscoveryIps]
      split
      next ips hips =>
        split
        next hall =>
          obtain ⟨texts, rfl⟩ := DiscoveryService.exists_map_text (List.all_eq_true.mp hall)
          -- a missing entry stands for a list without items
          cases res with
          | mapping items =>
              cases hentry : EventData.get? items "ips" with
              | none =>
                  cases items with
                  | nil => cases hips
                  | cons item rest =>
                      rw [responseIps, hentry, Option.getD_none] at hips
                      rw [← EventValue.list.inj (Option.some.inj hips)]
              | some entry =>
                  rw [responseIps_of_entry hentry] at hips
                  cases hips
                  exact absurd ⟨texts, by simp only [readList, hentry]⟩ htexts
          | none | bool | int | float | infinite | text | list | other => cases hips
        next => rfl
      next => rfl

section Kept

variable (server : ShureServer) (remote ips : List EventValue)

/-- No call drops an address that it was not asked to drop, and no read that failed or is malformed is
taken for an empty list. -/
structure KeepsRemoteList : Prop where
  added : (ShureDiscoveryClient.addDiscoveryIps ips server.readForAddition server.put).1 = .ok true →
    ∀ ip, EventValue.toIPv4 (.text ip) = some ip →
      EventValue.text ip ∈ remote ∨ EventValue.text ip ∈ ips →
      EventValue.text ip ∈ remoteAfter remote
        (ShureDiscoveryClient.addDiscoveryIps ips server.readForAddition server.put)
  unread : readList server.readForAddition = none →
    (ShureDiscoveryClient.addDiscoveryIps ips server.readForAddition server.put).2 = none
  removed : ∀ sent,
    (ShureDiscoveryClient.removeDiscoveryIps ips server.patch server.post).2 = some sent →
      ∀ ip ∈ sent, EventValue.text ip ∈ ips
  reconciled : (¬ ∃ texts : List String, readList server.read = some (texts.map EventValue.text)) →
    ∀ tables manufacturer getaddrinfo cursors scanCidrs scanFqdns maxHosts,
      (DiscoveryService.runManufacturerDiscovery tables manufacturer getaddrinfo server.plugin cursors
        scanCidrs scanFqdns maxHosts).1.report.remoteSourceComplete = false

variable {server remote ips}

theorem remoteSourceComplete_eq (tables : DiscoveryTables) (manufacturer : Nat)
    (getaddrinfo : String → Resolution) (plugin : DiscoveryPlugin) (cursors : SourceCursors)
    (scanCidrs scanFqdns : Bool) (maxHosts : Int) :
    (DiscoveryService.runManufacturerDiscovery tables manufacturer getaddrinfo plugin cursors scanCidrs
      scanFqdns maxHosts).1.report.remoteSourceComplete =
      (DiscoveryService.existingDiscoveryIps plugin.getDiscoveryIps).2 := rfl

/-- The list is kept exactly when neither read stands for an empty list. -/
theorem shure_discovery_list_kept (hanswers : ∀ listed, readList server.readForAddition = some listed →
      listed = remote) :
    KeepsRemoteList server remote ips ↔
      ReadsBeforeAdding ips server.readForAddition ∧ ReadsTexts server.read := by
  constructor
  · intro hkeeps
    refine ⟨sent_eq_none_iff.mp hkeeps.unread, ?_⟩
    by_contra hread
    have hreported := hkeeps.reconciled (fun htexts => hread (.inl htexts)) ⟨.empty, [], []⟩ 0
      (fun _ => .failed) (fun _ => 0) false false 0
    have hplugin : server.plugin.getDiscoveryIps = some [] := by
      simp only [ShureServer.plugin, getDiscoveryIps_eq_nil hread]
    rw [remoteSourceComplete_eq, hplugin] at hreported
    cases hreported
  · rintro ⟨hadds, hread⟩
    constructor
    · exact fun htrue ip => mem_remoteAfter hadds hanswers htrue
    · exact sent_eq_none_iff.mpr hadds
    · exact fun sent hsent ip hip => mem_of_mem_removed hsent hip
    · intro htexts tables manufacturer getaddrinfo cursors scanCidrs scanFqdns maxHosts
      have hplugin : server.plugin.getDiscoveryIps = none := by
        simp only [ShureServer.plugin, hread.resolve_left htexts]
        rfl
      rw [remoteSourceComplete_eq, hplugin]
      rfl

end Kept

/-- A server that answers both reads with a list and accepts every request. -/
def listingServer : ShureServer where
  read := .ok (.mapping [("ips", .list [.text "192.0.2.1"])])
  readForAddition := .ok (.mapping [("ips", .list [.text "192.0.2.1"])])
  put _ := .ok ()
  patch _ := .ok ()
  post _ := .ok ()

theorem shure_discovery_list_kept_listing :
    KeepsRemoteList listingServer [.text "192.0.2.1"] [.text "192.0.2.2"] := by
  refine (shure_discovery_list_kept fun listed hlisted => ?_).mpr ⟨?_, ?_⟩
  · exact (Option.some.inj hlisted).symm
  · exact .inr (.inr (.inl ⟨_, _, rfl, rfl⟩))
  · exact .inl ⟨["192.0.2.1"], rfl⟩

/-- A server whose list cannot be read for a moment. -/
def unreadableServer : ShureServer where
  read := .error .shureApi
  readForAddition := .error .shureApi
  put _ := .ok ()
  patch _ := .ok ()
  post _ := .ok ()

/-- The addition reports success, and the address that was on the list is gone. -/
theorem unreadable_list_overwritten :
    ShureDiscoveryClient.addDiscoveryIps [.text "192.0.2.2"] unreadableServer.readForAddition
      unreadableServer.put = (.ok true, some ["192.0.2.2"]) ∧
    ¬ KeepsRemoteList unreadableServer [.text "192.0.2.1"] [.text "192.0.2.2"] := by
  have hcall : ShureDiscoveryClient.addDiscoveryIps [.text "192.0.2.2"]
      unreadableServer.readForAddition unreadableServer.put = (.ok true, some ["192.0.2.2"]) := by
    decide +kernel
  refine ⟨hcall, fun hkeeps => ?_⟩
  have hkept := hkeeps.added (by rw [hcall]) "192.0.2.1" (by decide +kernel)
    (.inl (List.mem_singleton_self _))
  rw [hcall] at hkept
  simp [remoteAfter] at hkept

end Micboard
