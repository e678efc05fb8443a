import Micboard.DiscoverySources
import Micboard.LibraryFairShare
import Micboard.LibraryRotation

/-! Fairness of the discovery sources. A call shares its budget evenly among the sources, the source
with the priority first; the priority goes round, and so every source is read again and again and
gives all its rows. -/

namespace Micboard

open Library Library.Budget Library.Text DiscoverySourceCursorService

variable {cursors : SourceCursors} {group : CursorGroup} {sources : List DiscoverySource}
  {source : DiscoverySource} {limit share : Nat}

/-- The sources in the order of a call, the one with the priority first. -/
def orderedSources (cursors : SourceCursors) (group : CursorGroup) (sources : List DiscoverySource) :
    List DiscoverySource :=
  let startIndex := cursors (group, none) % sources.length
  sources.drop startIndex ++ sources.take startIndex

def sharedSources (cursors : SourceCursors) (group : CursorGroup) (sources : List DiscoverySource)
    (limit : Nat) : List (DiscoverySource × Nat) :=
  let ordered := orderedSources cursors group sources
  ordered.zip (allocate limit (ordered.map fun source => boundedSize source limit))

def selectedRows (cursors : SourceCursors) (group : CursorGroup) (source : DiscoverySource)
    (share : Nat) : List (Nat × String) :=
  if share = 0 then []
  else (circularPage Prod.fst (cursors (group, some source.name)) share source.rows).1

/-- The rows whose values a call returns for a source. -/
def returnedRows (cursors : SourceCursors) (group : CursorGroup) (sources : List DiscoverySource)
    (limit : Nat) (source : DiscoverySource) : List (Nat × String) :=
  selectedRows cursors group source
    (((sharedSources cursors group sources limit).find? fun entry =>
      entry.1.name = source.name).map Prod.snd |>.getD 0)

def cursorsAfter (cursors : SourceCursors) (group : CursorGroup) (sources : List DiscoverySource)
    (limits : Nat → Int) : Nat → SourceCursors
  | 0 => cursors
  | calls + 1 => (rotatingPages (cursorsAfter cursors group sources limits calls) group sources
      (clampCandidateLimit (limits calls))).2

/-- The page of a source for its share, as `rotating_pages` takes it. -/
def sharedPage (cursors : SourceCursors) (group : CursorGroup) (limit : Nat) (source : DiscoverySource)
    (share : Nat) : DiscoverySourcePage × SourceCursors :=
  if share = 0 then (⟨[], decide (boundedSize source limit = 0)⟩, cursors)
  else rotatingPage cursors group source share

/-- The values are those of the selected rows, and the cursor goes on to the last of them. -/
theorem sharedPage_spec : (sharedPage cursors group limit source share).1.values =
      (selectedRows cursors group source share).map (fun row => trim row.2) ∧
    ((sharedPage cursors group limit source share).1.sourcesComplete = true →
      (selectedRows cursors group source share).Perm source.rows) ∧
    (sharedPage cursors group limit source share).2 =
      Function.update cursors (group, some source.name)
        (advance Prod.fst (cursors (group, some source.name))
          (selectedRows cursors group source share)) := by
  rw [sharedPage, selectedRows]
  by_cases hshare : share = 0
  · rw [if_pos hshare, if_pos hshare]
    refine ⟨rfl, fun hcomplete => ?_, (Function.update_eq_self _ _).symm⟩
    rw [boundedSize_eq_zero.mp (of_decide_eq_true hcomplete)]
  · rw [if_neg hshare, if_neg hshare, rotatingPage, if_neg hshare]
    refine ⟨rfl, circularPage_perm, ?_⟩
    simp only [advance]
    cases hlast :
      (circularPage Prod.fst (cursors (group, some source.name)) share source.rows).1.getLast? with
    | none => exact (Function.update_eq_self _ _).symm
    | some row => rfl

theorem selectedRows_eq_turn (hshare : 0 < share) : selectedRows cursors group source share =
    turn Prod.fst source.rows share (cursors (group, some source.name)) := by
  rw [selectedRows, if_neg (Nat.ne_of_gt hshare), circularPage_fst]

theorem selectedRows_continues : Continues Prod.fst source.rows (cursors (group, some source.name))
    (selectedRows cursors group source share)
    (advance Prod.fst (cursors (group, some source.name))
      (selectedRows cursors group source share)) := by
  rcases Nat.eq_zero_or_pos share with rfl | hshare
  · exact .inl ⟨rfl, rfl⟩
  · rw [selectedRows_eq_turn hshare]
    rcases eq_or_ne source.rows [] with hrows | hrows
    · have hnone : turn Prod.fst source.rows share (cursors (group, some source.name)) = [] := by
        rw [← List.length_eq_zero_iff, length_turn, hrows, List.length_nil, Nat.min_zero]
      rw [hnone]
      exact .inl ⟨rfl, rfl⟩
    · exact .inr (visit_turn hshare hrows _)

variable (cursors group) in
theorem selectedRows_ne_nil (hshare : 0 < share) (hrows : source.rows ≠ []) :
    selectedRows cursors group source share ≠ [] := by
  rw [selectedRows_eq_turn hshare, ← List.length_pos_iff, length_turn]
  exact lt_min hshare (List.length_pos_iff.mpr hrows)

theorem selectedRows_congr {others : SourceCursors}
    (h : others (group, some source.name) = cursors (group, some source.name)) :
    selectedRows others group source share = selectedRows cursors group source share := by
  rw [selectedRows, selectedRows, h]

/-- What the pages of sources with different names are, and where the cursors are left. -/
structure SharedPages (cursors : SourceCursors) (group : CursorGroup)
    (shared : List (DiscoverySource × Nat))
    (pages : List (SourceName × DiscoverySourcePage)) (later : SourceCursors) : Prop where
  page : ∀ entry ∈ shared, ∃ page, (entry.1.name, page) ∈ pages ∧
    page.values = (selectedRows cursors group entry.1 entry.2).map (fun row => trim row.2) ∧
    (page.sourcesComplete = true → (selectedRows cursors group entry.1 entry.2).Perm entry.1.rows)
  cursor : ∀ entry ∈ shared, later (group, some entry.1.name) =
    advance Prod.fst (cursors (group, some entry.1.name)) (selectedRows cursors group entry.1 entry.2)
  others : ∀ key, (∀ entry ∈ shared, key ≠ (group, some entry.1.name)) → later key = cursors key

theorem sharedPages_spec {shared : List (DiscoverySource × Nat)}
    (hnames : (shared.map fun entry => entry.1.name).Nodup) :
    SharedPages cursors group shared (sharedPages group limit shared cursors).1
      (sharedPages group limit shared cursors).2 := by
  induction shared generalizing cursors with
  | nil => exact ⟨fun _ h => (nomatch h), fun _ h => (nomatch h), fun _ _ => rfl⟩
  | cons entry rest ih =>
      obtain ⟨source, share⟩ := entry
      obtain ⟨hfirst, hrest⟩ := List.nodup_cons.mp hnames
      obtain ⟨hvalues, hcomplete, hcursors⟩ := @sharedPage_spec cursors group source limit share
      have hpages : sharedPages group limit ((source, share) :: rest) cursors =
          ((source.name, (sharedPage cursors group limit source share).1) ::
              (sharedPages group limit rest (sharedPage cursors group limit source share).2).1,
            (sharedPages group limit rest (sharedPage cursors group limit source share).2).2) := rfl
      rw [hpages]
      generalize (sharedPage cursors group limit source share).2 = after at hcursors ⊢
      have hlater := @ih after hrest
      have hne : ∀ entry ∈ rest, (group, some entry.1.name) ≠ (group, some source.name) := by
        intro entry hentry heq
        injection heq with _ heq
        exact hfirst (List.mem_map.mpr ⟨entry, hentry, Option.some.inj heq⟩)
      have hsame : ∀ entry ∈ rest, after (group, some entry.1.name) = cursors
          (group, some entry.1.name) := by
        intro entry hentry
        rw [hcursors]
        exact Function.update_of_ne (hne entry hentry) ..
      refine ⟨?_, ?_, ?_⟩
      · refine List.forall_mem_cons.mpr ⟨⟨_, List.mem_cons_self, hvalues, hcomplete⟩,
          fun entry hentry => ?_⟩
        obtain ⟨page, hpage, hpageValues, hpageComplete⟩ := hlater.page entry hentry
        rw [selectedRows_congr (hsame entry hentry)] at hpageValues hpageComplete
        exact ⟨page, List.mem_cons_of_mem _ hpage, hpageValues, hpageComplete⟩
      · refine List.forall_mem_cons.mpr ⟨?_, fun entry hentry => ?_⟩
        · rw [hlater.others _ fun entry hentry heq => hne entry hentry heq.symm, hcursors]
          exact Function.update_self ..
        · rw [hlater.cursor entry hentry, selectedRows_congr (hsame entry hentry), hsame entry hentry]
      · intro key hkey
        obtain ⟨hhead, htail⟩ := List.forall_mem_cons.mp hkey
        rw [hlater.others key htail, hcursors]
        exact Function.update_of_ne hhead ..

variable (cursors group sources limit)

theorem orderedSources_perm : (orderedSources cursors group sources).Perm sources := by
  rw [orderedSources]
  exact List.perm_append_comm.trans (by rw [List.take_append_drop])

theorem sharedSources_fst : (sharedSources cursors group sources limit).map Prod.fst =
    orderedSources cursors group sources := by
  rw [sharedSources]
  exact List.map_fst_zip (by rw [length_allocate, List.length_map])

variable {sources}

theorem sharedSources_names (hnames : UniqueOn DiscoverySource.name sources) :
    ((sharedSources cursors group sources limit).map fun entry => entry.1.name).Nodup := by
  have hmap : (sharedSources cursors group sources limit).map (fun entry => entry.1.name) =
      (orderedSources cursors group sources).map DiscoverySource.name := by
    rw [← sharedSources_fst cursors group sources limit, List.map_map]
    rfl
  rw [hmap]
  exact ((orderedSources_perm cursors group sources).map _).nodup_iff.mpr hnames

theorem exists_share (hsource : source ∈ sources) :
    ∃ share, (source, share) ∈ sharedSources cursors group sources limit := by
  have hordered := (orderedSources_perm cursors group sources).mem_iff.mpr hsource
  rw [← sharedSources_fst cursors group sources limit] at hordered
  obtain ⟨⟨_, share⟩, hentry, rfl⟩ := List.mem_map.mp hordered
  exact ⟨share, hentry⟩

variable {cursors group limit}

theorem rotatingPages_eq (hsources : sources ≠ []) (hlimit : 0 < limit) :
    rotatingPages cursors group sources limit =
      ((sharedPages group limit (sharedSources cursors group sources limit) cursors).1,
        if (sharedPages group limit (sharedSources cursors group sources limit) cursors).1.any
            fun page => !page.2.values.isEmpty then
          Function.update (sharedPages group limit
            (sharedSources cursors group sources limit) cursors).2
            (group, none) ((cursors (group, none) % sources.length + 1) % sources.length)
        else (sharedPages group limit (sharedSources cursors group sources limit) cursors).2) := by
  rw [rotatingPages, if_neg (by simpa using hsources), if_neg (Nat.ne_of_gt hlimit)]
  rfl

theorem returnedRows_eq (hnames : UniqueOn DiscoverySource.name sources)
    (hentry : (source, share) ∈ sharedSources cursors group sources limit) :
    returnedRows cursors group sources limit source = selectedRows cursors group source share := by
  have hunique : UniqueOn (fun entry : DiscoverySource × Nat => entry.1.name)
      (sharedSources cursors group sources limit) := sharedSources_names cursors group limit hnames
  rw [returnedRows, hunique.find?_eq_some.mpr ⟨hentry, rfl⟩]
  rfl

theorem call_spec (hnames : UniqueOn DiscoverySource.name sources) (hlimit : 0 < limit)
    (hsource : source ∈ sources) :
    (∃ page, (source.name, page) ∈ (rotatingPages cursors group sources limit).1 ∧
      page.values = (returnedRows cursors group sources limit source).map (fun row => trim row.2) ∧
      (page.sourcesComplete = true →
        (returnedRows cursors group sources limit source).Perm source.rows)) ∧
    Continues Prod.fst source.rows (cursors (group, some source.name))
      (returnedRows cursors group sources limit source)
      ((rotatingPages cursors group sources limit).2 (group, some source.name)) := by
  obtain ⟨share, hentry⟩ := exists_share cursors group limit hsource
  have hshared :=
    @sharedPages_spec cursors group limit _ (sharedSources_names cursors group limit hnames)
  have hcursor : (rotatingPages cursors group sources limit).2 (group, some source.name) =
      (sharedPages group limit (sharedSources cursors group sources limit) cursors).2
        (group, some source.name) := by
    rw [rotatingPages_eq (List.ne_nil_of_mem hsource) hlimit]
    split
    · exact Function.update_of_ne (by simp) ..
    · rfl
  rw [returnedRows_eq hnames hentry, hcursor, hshared.cursor _ hentry,
    rotatingPages_eq (List.ne_nil_of_mem hsource) hlimit]
  exact ⟨hshared.page _ hentry, selectedRows_continues⟩

theorem boundedSize_pos (limit : Nat) (hrows : source.rows ≠ []) : 0 < boundedSize source limit :=
  Nat.pos_of_ne_zero fun hnone => hrows (boundedSize_eq_zero.mp hnone)

theorem rows_ne_nil_of_share (hentry : (source, share) ∈ sharedSources cursors group sources limit)
    (hshare : 0 < share) : source.rows ≠ [] := by
  have hwithin := (allocate_fair limit ((orderedSources cursors group sources).map fun source =>
    boundedSize source limit)).1.flip
  have hle := List.forall₂_zip (List.forall₂_map_left_iff.mp hwithin) hentry
  rw [Ne, ← @boundedSize_eq_zero source limit]
  exact Nat.ne_of_gt (hshare.trans_le hle)

variable (cursors group) in
/-- Someone gets a share when there is any row. -/
theorem exists_pos_share (hlimit : 0 < limit) (hsource : source ∈ sources) (hrows : source.rows ≠ []) :
    ∃ entry ∈ sharedSources cursors group sources limit, 0 < entry.2 := by
  have hsum := (allocate_fair limit ((orderedSources cursors group sources).map fun source =>
    boundedSize source limit)).2.1
  have hsize := boundedSize_pos limit hrows
  have hsizes := List.single_le_sum (l := (orderedSources cursors group sources).map fun source =>
    boundedSize source limit) (fun _ _ => Nat.zero_le _) (boundedSize source limit)
    (List.mem_map_of_mem ((orderedSources_perm cursors group sources).mem_iff.mpr hsource))
  have hsnd : (sharedSources cursors group sources limit).map Prod.snd =
      allocate limit ((orderedSources cursors group sources).map fun source =>
        boundedSize source limit) := by
    rw [sharedSources]
    exact List.map_snd_zip (by rw [length_allocate, List.length_map])
  by_contra hnone
  have hzero : ((sharedSources cursors group sources limit).map Prod.snd).sum = 0 := by
    refine List.sum_eq_zero fun share hshare => ?_
    obtain ⟨entry, hentry, rfl⟩ := List.mem_map.mp hshare
    exact Nat.eq_zero_of_not_pos fun hpos => hnone ⟨entry, hentry, hpos⟩
  rw [hsnd, hsum] at hzero
  omega

/-- The priority goes to the next source as soon as there is any row. -/
theorem call_priority (hnames : UniqueOn DiscoverySource.name sources) (hlimit : 0 < limit)
    (hsource : source ∈ sources) (hrows : source.rows ≠ []) :
    (rotatingPages cursors group sources limit).2 (group, none) =
      (cursors (group, none) % sources.length + 1) % sources.length := by
  have hany : (sharedPages group limit (sharedSources cursors group sources limit) cursors).1.any
      (fun page => !page.2.values.isEmpty) = true := by
    obtain ⟨entry, hentry, hshare⟩ := exists_pos_share cursors group hlimit hsource hrows
    have hshared :=
      @sharedPages_spec cursors group limit _ (sharedSources_names cursors group limit hnames)
    obtain ⟨page, hpage, hvalues, -⟩ := hshared.page entry hentry
    refine List.any_eq_true.mpr ⟨_, hpage, ?_⟩
    have hselected := selectedRows_ne_nil cursors group hshare (rows_ne_nil_of_share hentry hshare)
    simpa [hvalues] using hselected
  rw [rotatingPages_eq (List.ne_nil_of_mem hsource) hlimit, if_pos hany]
  exact Function.update_self ..

/-- The source with the priority is not passed over. -/
theorem call_first (hnames : UniqueOn DiscoverySource.name sources) (hlimit : 0 < limit)
    (hsource : sources[cursors (group, none) % sources.length]? = some source)
    (hrows : source.rows ≠ []) :
    returnedRows cursors group sources limit source ≠ [] := by
  have hsize := boundedSize_pos limit hrows
  obtain ⟨others, hordered⟩ : ∃ others, orderedSources cursors group sources = source :: others := by
    obtain ⟨hlt, rfl⟩ := List.getElem?_eq_some_iff.mp hsource
    rw [orderedSources, List.drop_eq_getElem_cons hlt]
    exact ⟨_, rfl⟩
  obtain ⟨share, shares, hallocate, hshare⟩ := @allocate_cons_pos limit
    (others.map fun source => boundedSize source limit) _ hlimit hsize
  have hentry : (source, share) ∈ sharedSources cursors group sources limit := by
    rw [sharedSources, hordered, List.map_cons, hallocate]
    exact List.mem_cons_self
  rw [returnedRows_eq hnames hentry]
  exact selectedRows_ne_nil cursors group hshare hrows

/-! ### Repeated calls -/

section Calls

variable {limits : Nat → Int}

theorem clampCandidateLimit_pos {limit : Int} (h : 0 < limit) : 0 < clampCandidateLimit limit := by
  rw [clampCandidateLimit]
  exact lt_min (by decide) (by omega)

variable (cursors) in
theorem priority_cursorsAfter (hnames : UniqueOn DiscoverySource.name sources)
    (hlimits : ∀ call, 0 < limits call) (hsource : source ∈ sources) (hrows : source.rows ≠ [])
    (start calls : Nat) :
    cursorsAfter cursors group sources limits (start + calls) (group, none) % sources.length =
      (cursorsAfter cursors group sources limits start (group, none) % sources.length + calls) %
        sources.length := by
  induction calls with
  | zero => rw [Nat.add_zero, Nat.add_zero, Nat.mod_mod]
  | succ calls ih =>
      rw [← Nat.add_assoc, cursorsAfter,
        call_priority hnames (clampCandidateLimit_pos (hlimits (start + calls))) hsource hrows, ih,
        Nat.mod_mod, Nat.mod_add_mod, Nat.add_assoc]

/-- Counting on from one position of a circle reaches every other within one round. -/
theorem exists_position {first last size : Nat} (hfirst : first < size) (hlast : last < size) :
    ∃ steps < size, (first + steps) % size = last := by
  rcases Nat.le_or_le first last with hle | hle
  · refine ⟨last - first, by omega, ?_⟩
    rw [Nat.add_sub_cancel' hle, Nat.mod_eq_of_lt hlast]
  · rcases Nat.eq_or_lt_of_le hle with rfl | hlt
    · exact ⟨0, by omega, by rw [Nat.add_zero, Nat.mod_eq_of_lt hlast]⟩
    · refine ⟨last + size - first, by omega, ?_⟩
      rw [show first + (last + size - first) = last + size by omega, Nat.add_mod_right,
        Nat.mod_eq_of_lt hlast]

variable (cursors) in
/-- **Repeated calls return every row**, after as many rounds of the sources as the source has rows. -/
theorem exists_call_of_mem_rows (hnames : UniqueOn DiscoverySource.name sources)
    (hkeys : ∀ source ∈ sources, UniqueOn Prod.fst source.rows) (hlimits : ∀ call, 0 < limits call)
    (hsource : source ∈ sources) {row : Nat × String} (hrow : row ∈ source.rows) (start : Nat) :
    ∃ call < source.rows.length * sources.length,
      row ∈ returnedRows (cursorsAfter cursors group sources limits (start + call)) group sources
        (clampCandidateLimit (limits (start + call))) source := by
  have hrows := List.ne_nil_of_mem hrow
  obtain ⟨position, hposition⟩ := List.mem_iff_getElem?.mp hsource
  have hlast := (List.getElem?_eq_some_iff.mp hposition).1
  refine @exists_mem_page_of_continues _ _ _ Prod.fst source.rows row
    (fun call => cursorsAfter cursors group sources limits call (group, some source.name))
    (fun call => returnedRows (cursorsAfter cursors group sources limits call) group sources
      (clampCandidateLimit (limits call)) source)
    sources.length (hkeys source hsource) (fun call => ?_) (fun start => ?_) start hrow
  · exact (call_spec hnames (clampCandidateLimit_pos (hlimits call)) hsource).2
  · obtain ⟨steps, hsteps, hturn⟩ := exists_position
      (Nat.mod_lt (cursorsAfter cursors group sources limits start (group, none))
        (Nat.zero_lt_of_lt hlast)) hlast
    refine ⟨steps, hsteps,
      call_first hnames (clampCandidateLimit_pos (hlimits (start + steps))) ?_ hrows⟩
    rw [priority_cursorsAfter cursors hnames hlimits hsource hrows, hturn]
    exact hposition

/-- **The budget is shared fairly and reaches every row.** -/
theorem discoveryBudget_fair {group : CursorGroup} {sources : List DiscoverySource}
    (hnames : UniqueOn DiscoverySource.name sources)
    (hkeys : ∀ source ∈ sources, UniqueOn Prod.fst source.rows) (cursors : SourceCursors)
    {limits : Nat → Int} (hlimits : ∀ call, 0 < limits call) :
    (∀ limit sizes, List.Forall₂ (· ≤ ·) (allocate limit sizes) sizes ∧
      (allocate limit sizes).sum = min limit sizes.sum ∧
      ∀ source ∈ (allocate limit sizes).zip sizes, ∀ other ∈ (allocate limit sizes).zip sizes,
        source.1 < source.2 → other.1 < other.2 → source.1 ≤ other.1 + 1) ∧
    (∀ call, ∀ source ∈ sources, ∃ page,
      (source.name, page) ∈ (rotatingPages
        (cursorsAfter cursors group sources limits call) group sources
        (clampCandidateLimit (limits call))).1 ∧
      page.values = (returnedRows (cursorsAfter cursors group sources limits call) group sources
        (clampCandidateLimit (limits call)) source).map (fun row => trim row.2) ∧
      (page.sourcesComplete = true →
        (returnedRows (cursorsAfter cursors group sources limits call) group sources
          (clampCandidateLimit (limits call)) source).Perm source.rows)) ∧
    ∃ calls, ∀ start, ∀ source ∈ sources, ∀ row ∈ source.rows, ∃ call < calls,
      row ∈ returnedRows (cursorsAfter cursors group sources limits (start + call)) group sources
        (clampCandidateLimit (limits (start + call))) source := by
  refine ⟨allocate_fair, fun call source hsource => ?_, ?_⟩
  · exact (call_spec hnames (clampCandidateLimit_pos (hlimits call)) hsource).1
  · refine ⟨(sources.map fun source => source.rows.length).sum * sources.length, ?_⟩
    intro start source hsource row hrow
    obtain ⟨call, hcall, hreturned⟩ :=
      exists_call_of_mem_rows cursors hnames hkeys hlimits hsource hrow start
    have hle := List.single_le_sum (l := sources.map fun source => source.rows.length)
      (fun _ _ => Nat.zero_le _) _ (List.mem_map_of_mem hsource)
    exact ⟨call, hcall.trans_le (Nat.mul_le_mul_right _ hle), hreturned⟩

/-- Two sources under a limit of one row. -/
def narrowSources : List DiscoverySource :=
  [⟨.cidrs, [(1, "10.0.0.0/30"), (2, "10.0.1.0/30")]⟩, ⟨.fqdns, [(1, "console.local")]⟩]

theorem discoveryBudget_fair_narrow :
    ∃ calls, ∀ start, ∀ source ∈ narrowSources, ∀ row ∈ source.rows, ∃ call < calls,
      row ∈ returnedRows (cursorsAfter (fun _ => 0) .fullSyncScanSources narrowSources (fun _ => 1)
        (start + call)) .fullSyncScanSources narrowSources (clampCandidateLimit 1) source :=
  (discoveryBudget_fair (by decide) (by decide) (fun _ => 0) (fun _ => by decide)).2.2

end Calls

end Micboard
