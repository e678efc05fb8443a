import Micboard.AlertEvaluation
import Micboard.DiscoverySources
import Micboard.RealtimeSupervisor

/-! The pagers that rotate through a table: the discovery source page, the alert fan-out page, the
realtime fair batch and the unit scan of the poll alerts. Each is written in its own way; all of
them read the rows that follow their stored cursor in circular order. -/

namespace Micboard

open Library.Budget Library.Text AlertFanoutService

/-- A pager over stored states: the rows that a call selects, what it reports about rows left over,
the calls that run to their end, and what a call stores. -/
structure Pager (σ α : Type) where
  pk : α → Nat
  rows : List α
  cursor : σ → Nat
  select : σ → List α
  truncated : σ → Option Bool
  completes : σ → Prop
  next : σ → σ → Prop

/-- The circular page law for the primary keys of a table and a limit. -/
structure Pager.Lawful {σ α : Type} (pager : Pager σ α) (keys : List Nat) (limit : Nat) : Prop where
  selects : ∀ s, pager.completes s → (∀ row ∈ pager.select s, row ∈ pager.rows) ∧
    (pager.select s).map pager.pk = (circular id (pager.cursor s) keys).take limit
  counts : ∀ s, pager.completes s → (pager.select s).length = min limit keys.length
  distinct : ∀ s, pager.completes s → ((pager.select s).map pager.pk).Nodup
  reports : ∀ s, pager.completes s → ∀ truncated, pager.truncated s = some truncated →
    (truncated = true ↔ limit < keys.length)
  covers : ∀ (stored : Nat → σ) (start : Nat),
    (∀ i < (keys.length + limit - 1) / limit, pager.completes (stored (start + i)) ∧
      pager.next (stored (start + i)) (stored (start + i + 1))) →
      ∀ row ∈ pager.rows,
        ∃ i < (keys.length + limit - 1) / limit, row ∈ pager.select (stored (start + i))

theorem Pager.lawful_of_turn {σ α : Type} {pager : Pager σ α} {keys : List Nat} {limit : Nat}
    (hkeys : (pager.rows.map pager.pk).Perm keys) (hnodup : keys.Nodup) (hlimit : 0 < limit)
    (hselect : ∀ s, pager.completes s →
      pager.select s = turn pager.pk pager.rows limit (pager.cursor s))
    (hreports : ∀ s, pager.completes s → ∀ truncated, pager.truncated s = some truncated →
      truncated = decide (limit < pager.rows.length))
    (hnext : ∀ s t, pager.completes s → pager.next s t →
      pager.cursor t = advance pager.pk (pager.cursor s) (pager.select s)) :
    pager.Lawful keys limit := by
  have hlength : pager.rows.length = keys.length := by
    rw [← hkeys.length_eq, List.length_map]
  have hunique : (pager.rows.map pager.pk).Nodup := hkeys.nodup_iff.mpr hnodup
  refine ⟨fun s hs => ⟨fun row hrow => ?_, ?_⟩, fun s hs => ?_, fun s hs => ?_, ?_, ?_⟩
  · rw [hselect s hs] at hrow
    exact (circular_perm _ _ _).mem_iff.mp (List.mem_of_mem_take hrow)
  · rw [hselect s hs]
    exact turn_keys hkeys hnodup limit (pager.cursor s)
  · rw [hselect s hs, length_turn, hlength]
  · rw [hselect s hs]
    exact nodup_turn hunique
  · intro s hs truncated htruncated
    rw [hreports s hs truncated htruncated, decide_eq_true_eq, hlength]
  · intro stored start hcalls row hrow
    have hcursors : ∀ i < (keys.length + limit - 1) / limit, pager.cursor (stored (start + i + 1)) =
        advance pager.pk (pager.cursor (stored (start + i)))
          (turn pager.pk pager.rows limit (pager.cursor (stored (start + i)))) := by
      intro i hi
      obtain ⟨hcompletes, hstored⟩ := hcalls i hi
      rw [hnext _ _ hcompletes hstored, hselect _ hcompletes]
    have hsize : pager.rows.length ≤ (keys.length + limit - 1) / limit * limit := by
      have hdivision := Nat.div_add_mod (keys.length + limit - 1) limit
      have hrest := Nat.mod_lt (keys.length + limit - 1) hlimit
      rw [Nat.mul_comm, hlength]
      omega
    obtain ⟨i, hi, hpage⟩ := @exists_mem_turn _ _ _ pager.pk pager.rows row limit
      (fun i => pager.cursor (stored i)) hlimit hunique start _ hcursors hsize hrow
    exact ⟨i, hi, by rwa [hselect _ (hcalls i hi).1]⟩

/-! ### The pagers -/

/-- The rows of one source; the page gives their stripped values. -/
def discoverySourcePager (group : CursorGroup) (source : DiscoverySource) (limit : Nat) :
    Pager SourceCursors (Nat × String) where
  pk := Prod.fst
  rows := source.rows
  cursor cursors := cursors (group, some source.name)
  select cursors := (circularPage Prod.fst (cursors (group, some source.name)) limit source.rows).1
  truncated cursors :=
    some (!(DiscoverySourceCursorService.rotatingPage cursors group source
      (clampCandidateLimit limit)).1.sourcesComplete)
  completes _ := True
  next cursors later :=
    later = (DiscoverySourceCursorService.rotatingPage cursors group source
      (clampCandidateLimit limit)).2

def alertFanoutPager {α : Type} (pk : α → Nat) (rows : List α) (limit : Nat) : Pager Nat α where
  pk := pk
  rows := rows
  cursor := id
  select cursor := (rotatingPage pk rows limit cursor).1
  truncated cursor := some (rotatingPage pk rows limit cursor).2.1
  completes _ := True
  next cursor later := later = (rotatingPage pk rows limit cursor).2.2

def fairBatchPager {α : Type} (pk : α → Nat) (rows : List α) (limit : Nat) : Pager Nat α where
  pk := pk
  rows := rows
  cursor := id
  select cursor := (RealtimeSubscriptionSupervisor.selectFairQuerysetBatch pk rows limit cursor).1
  truncated _ := none
  completes _ := True
  next cursor later :=
    later = (RealtimeSubscriptionSupervisor.selectFairQuerysetBatch pk rows limit cursor).2

/-- The unit scan; it completes when it does not stop early on its budget. -/
def pollAlertPager (settings : PollAlertSettings) (users : AlertUsers) (units : List WirelessUnit) :
    Pager (AlertEnvironment × AlertState) WirelessUnit where
  pk := WirelessUnit.pk
  rows := PollAlertService.candidates users units
  cursor s := s.2.unitCursor
  select s := (PollAlertService.evaluateManufacturer settings s.1 units s.2).scannedUnits
  truncated s :=
    some (PollAlertService.evaluateManufacturer settings s.1 units s.2).result.unitsTruncated
  completes s := s.1.users = users ∧
    (PollAlertService.evaluateManufacturer settings s.1 units s.2).scannedUnits.length =
      (PollAlertService.evaluateManufacturer settings s.1 units s.2).boundedUnits.length
  next s t := t.2 = (PollAlertService.evaluateManufacturer settings s.1 units s.2).state

section Pagers

variable {keys : List Nat} {limit : Nat}

theorem discoverySourcePager_lawful (group : CursorGroup) (source : DiscoverySource)
    (hkeys : (source.rows.map Prod.fst).Perm keys) (hnodup : keys.Nodup) (hlimit : 0 < limit)
    (hceiling : limit ≤ maxDiscoveryCandidates) :
    (discoverySourcePager group source limit).Lawful keys limit := by
  have hclamp : clampCandidateLimit limit = limit := Nat.min_eq_right hceiling
  have hselect : ∀ cursors, (discoverySourcePager group source limit).select cursors =
      turn Prod.fst source.rows limit (cursors (group, some source.name)) := by
    intro cursors
    exact (List.take_take ..).trans (by rw [Nat.min_eq_left (Nat.le_succ limit), turn])
  refine Pager.lawful_of_turn hkeys hnodup hlimit (fun s _ => hselect s) ?_ ?_
  · intro cursors _ truncated htruncated
    have hcomplete :=
      @circularPage_complete_iff _ _ _ Prod.fst (cursors (group, some source.name)) limit
      source.rows
    cases htruncated
    simp only [hclamp, DiscoverySourceCursorService.rotatingPage, if_neg hlimit.ne']
    rw [Bool.eq_iff_iff, Bool.not_eq_true', decide_eq_true_eq, ← Bool.not_eq_true,
      hcomplete, Nat.not_le]
    rfl
  · rintro cursors later - hlater
    have hpage : later = (DiscoverySourceCursorService.rotatingPage cursors group source limit).2 := by
      rw [← hclamp]
      exact hlater
    rw [hpage]
    simp only [DiscoverySourceCursorService.rotatingPage, if_neg hlimit.ne', advance]
    have hselected : (discoverySourcePager group source limit).select cursors =
        (circularPage Prod.fst (cursors (group, some source.name)) limit source.rows).1 := rfl
    rw [hselected]
    cases (circularPage Prod.fst (cursors (group, some source.name)) limit source.rows).1.getLast? with
    | none => rfl
    | some row => exact Function.update_self ..

theorem alertFanoutPager_lawful {α : Type} (pk : α → Nat) (rows : List α)
    (hkeys : (rows.map pk).Perm keys) (hnodup : keys.Nodup) (hlimit : 0 < limit) :
    (alertFanoutPager pk rows limit).Lawful keys limit := by
  refine Pager.lawful_of_turn hkeys hnodup hlimit (fun cursor _ => rotatingPage_selected) ?_ ?_
  · intro cursor _ truncated htruncated
    cases htruncated
    exact rotatingPage_truncated
  · rintro cursor _ - rfl
    rfl

theorem fairBatchPager_lawful {α : Type} (pk : α → Nat) (rows : List α)
    (hkeys : (rows.map pk).Perm keys) (hnodup : keys.Nodup) (hpositive : ∀ key ∈ keys, 0 < key)
    (hlimit : 0 < limit) (hceiling : limit ≤ hardMaxSubscriptionDevices) :
    (fairBatchPager pk rows limit).Lawful keys limit := by
  have hselect : ∀ cursor,
      (RealtimeSubscriptionSupervisor.selectFairQuerysetBatch pk rows limit cursor).1 =
      turn pk rows limit cursor := by
    intro cursor
    have hclamp : min (max (limit : Int).toNat 1) hardMaxSubscriptionDevices = limit := by
      rw [Int.toNat_natCast]
      omega
    simp only [RealtimeSubscriptionSupervisor.selectFairQuerysetBatch, hclamp]
    rw [turn_eq_append]
    split
    next => rfl
    next hnone =>
      have hrest : (byKey pk (rows.filter fun row => pk row ≤ cursor)).take
          (limit - ((byKey pk (rows.filter fun row => cursor < pk row)).take limit).length) = [] := by
        by_cases hfull : limit -
          ((byKey pk (rows.filter fun row => cursor < pk row)).take limit).length = 0
        · rw [hfull, List.take_zero]
        · have hzero : cursor = 0 := not_not.mp fun h => hnone ⟨hfull, h⟩
          have hrows : ∀ row ∈ rows, 0 < pk row :=
            fun row hrow => hpositive _ (hkeys.mem_iff.mp (List.mem_map_of_mem hrow))
          have hempty : byKey pk (rows.filter fun row => pk row ≤ cursor) = [] := by
            rw [hzero, filter_le_zero hrows]
            rfl
          rw [hempty, List.take_nil]
      rw [hrest, List.append_nil]
  refine Pager.lawful_of_turn hkeys hnodup hlimit (fun cursor _ => hselect cursor) ?_ ?_
  · intro cursor _ truncated htruncated
    cases htruncated
  · rintro cursor _ - rfl
    rfl

theorem pollAlertPager_lawful (settings : PollAlertSettings) (users : AlertUsers)
    (units : List WirelessUnit)
    (hkeys : ((PollAlertService.candidates users units).map WirelessUnit.pk).Perm keys)
    (hnodup : keys.Nodup) (hpositive : ∀ key ∈ keys, 0 < key) (hlimit : 0 < limit)
    (hceiling : limit ≤ hardPollAlertMaxUnits) (hsettings : settings.maxUnits = limit) :
    (pollAlertPager settings users units).Lawful keys limit := by
  have hclamp : PollAlertService.scanLimit settings = limit := by
    rw [PollAlertService.scanLimit, hsettings, Int.toNat_natCast]
    omega
  have hunits : ∀ unit ∈ PollAlertService.candidates users units, 0 < unit.pk :=
    fun unit hunit => hpositive _ (hkeys.mem_iff.mp (List.mem_map_of_mem hunit))
  have hselect := fun cursor => PollAlertService.selectUnits_eq hunits limit cursor
  have hscan : ∀ s, (pollAlertPager settings users units).completes s →
      (pollAlertPager settings users units).select s =
        turn WirelessUnit.pk (PollAlertService.candidates users units) limit s.2.unitCursor := by
    rintro ⟨env, state⟩ ⟨rfl, hall⟩
    simp only [pollAlertPager, PollAlertService.evaluateManufacturer, hclamp, hselect] at hall ⊢
    exact (PollAlertService.scanUnits_visit ..).1.eq_of_length hall
  refine Pager.lawful_of_turn hkeys hnodup hlimit hscan ?_ ?_
  · rintro ⟨env, state⟩ ⟨rfl, hall⟩ truncated htruncated
    cases htruncated
    simp only [PollAlertService.evaluateManufacturer, hclamp, hselect] at hall ⊢
    rw [hall, decide_eq_false (Nat.lt_irrefl _), Bool.or_false]
    rfl
  · rintro ⟨env, state⟩ ⟨later, next⟩ ⟨rfl, hall⟩ hnext
    simp only [pollAlertPager] at hnext ⊢
    subst hnext
    simp only [PollAlertService.evaluateManufacturer]
    rw [(PollAlertService.scanUnits_visit ..).2.1]
    split <;> rfl

end Pagers

/-- **The circular page law.** For primary keys that are positive and a positive limit within the
ceilings, the four pagers select the same rows at the same cursor, report truncation alike, and
reach every row in `⌈n / limit⌉` calls. -/
theorem circular_page_law (keys : List Nat) (hnodup : keys.Nodup) (hpositive : ∀ key ∈ keys, 0 < key)
    (limit : Nat) (hlimit : 0 < limit) :
    (∀ group source, limit ≤ maxDiscoveryCandidates → (source.rows.map Prod.fst).Perm keys →
      (discoverySourcePager group source limit).Lawful keys limit ∧
        ∀ cursors, (DiscoverySourceCursorService.rotatingPage cursors group source
            (clampCandidateLimit limit)).1.values =
          ((discoverySourcePager group source limit).select cursors).map fun row => trim row.2) ∧
    (∀ (α : Type) (pk : α → Nat) (rows : List α), (rows.map pk).Perm keys →
      (alertFanoutPager pk rows limit).Lawful keys limit ∧
        (limit ≤ hardMaxSubscriptionDevices → (fairBatchPager pk rows limit).Lawful keys limit)) ∧
    ∀ (settings : PollAlertSettings) users units, limit ≤ hardPollAlertMaxUnits →
      settings.maxUnits = limit →
      ((PollAlertService.candidates users units).map WirelessUnit.pk).Perm keys →
      (pollAlertPager settings users units).Lawful keys limit := by
  refine ⟨fun group source hceiling hkeys => ⟨?_, fun cursors => ?_⟩,
    fun α pk rows hkeys => ⟨?_, fun hceiling => ?_⟩, fun settings users units hceiling hmax hkeys => ?_⟩
  · exact discoverySourcePager_lawful group source hkeys hnodup hlimit hceiling
  · have hclamp : clampCandidateLimit limit = limit := Nat.min_eq_right hceiling
    rw [hclamp, DiscoverySourceCursorService.rotatingPage, if_neg hlimit.ne']
    rfl
  · exact alertFanoutPager_lawful pk rows hkeys hnodup hlimit
  · exact fairBatchPager_lawful pk rows hkeys hnodup hpositive hlimit hceiling
  · exact pollAlertPager_lawful settings users units hkeys hnodup hpositive hlimit hceiling hmax

theorem circular_page_law_three :
    (alertFanoutPager id [4, 2, 9] 2).Lawful [2, 4, 9] 2 ∧
      (alertFanoutPager id [4, 2, 9] 2).select 4 = [9, 2] :=
  ⟨((circular_page_law [2, 4, 9] (by decide) (by decide) 2 (by decide)).2.1 Nat id [4, 2, 9]
    (by decide)).1, by decide⟩

end Micboard
