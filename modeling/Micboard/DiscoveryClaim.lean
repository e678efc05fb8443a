import Micboard.LibraryTransaction
import Micboard.ChassisModel

/-! Ownership of a manufacturer's discovery synchronization: a worker claims it by creating a running
job and ends it by finalizing that job; a claim whose lease has run out is failed by the next worker
that asks. Both calls are transactions that hold the row lock of the manufacturer, and any number of
workers run them concurrently. -/

namespace Micboard

open Library Library.Transaction

/-- `DiscoveryJob.STATUS_CHOICES`. -/
inductive JobStatus where
  | pending | running | success | failed
  deriving DecidableEq, Repr

/-- A `DiscoveryJob` row or instance; `manufacturer` is its `manufacturer_id`. -/
structure DiscoveryJob where
  pk : Nat
  manufacturer : Nat
  action : String
  status : JobStatus
  createdAt : Time
  startedAt : Option Time
  finishedAt : Option Time
  note : String
  itemsScanned : Option Int
  itemsSubmitted : Option Int
  deriving DecidableEq, Repr

/-- The tables the claim service reads and writes, with the next key of the job table. -/
structure JobStore where
  manufacturers : List Manufacturer
  jobs : List DiscoveryJob
  nextPk : Nat

/-- What `finalize` reads of a `DiscoverySyncSummary`. -/
structure DiscoverySyncSummary where
  errors : List String
  scannedIpsSubmitted : Int
  missingIpsSubmitted : Int

/-- `DISCOVERY_SYNC_LEASE_SECONDS`, in microseconds. -/
def discoverySyncLease : Time := 60 * 60 * 1000000

def staleDiscoveryNote : String := "Discovery synchronization lease expired"

def DiscoveryJob.isRunningSync (job : DiscoveryJob) : Bool :=
  job.action = "sync" && job.status = .running

/-- The lease of the job ended at or before `staleBefore`. -/
def DiscoveryJob.isStale (staleBefore : Time) (job : DiscoveryJob) : Bool :=
  job.startedAt.getD job.createdAt ≤ staleBefore

/-- The record of an expired claim. -/
def DiscoveryJob.expire (now : Time) (job : DiscoveryJob) : DiscoveryJob :=
  { job with status := .failed, finishedAt := some now, note := staleDiscoveryNote }

/-- The record of a finished synchronization. -/
def DiscoveryJob.finish (summary : DiscoverySyncSummary) (finishedAt : Time) (job : DiscoveryJob) :
    DiscoveryJob :=
  let submitted := summary.scannedIpsSubmitted + summary.missingIpsSubmitted
  { job with
    status := if summary.errors = [] then .success else .failed
    finishedAt := some finishedAt
    itemsScanned := some submitted
    itemsSubmitted := some submitted
    note := String.ofList (("; ".intercalate summary.errors).toList.take 1024) }

namespace JobStore

def jobsOf (db : JobStore) (manufacturer : Nat) : List DiscoveryJob :=
  db.jobs.filter fun job => job.manufacturer = manufacturer

/-- The running synchronizations of a manufacturer; rows stand in the order of their keys. -/
def runningJobs (db : JobStore) (manufacturer : Nat) : List DiscoveryJob :=
  (db.jobsOf manufacturer).filter DiscoveryJob.isRunningSync

/-- `filter(pk__in=staleJobIds, status="running").update(…)`. -/
def expireJobs (staleJobIds : List Nat) (now : Time) (db : JobStore) : JobStore :=
  { db with jobs := db.jobs.map fun job =>
      if job.pk ∈ staleJobIds ∧ job.status = .running then job.expire now else job }

/-- `DiscoveryJob.objects.create(manufacturer=…, action="sync", status="running", started_at=now)`. -/
def createJob (manufacturer : Nat) (now createdAt : Time) (db : JobStore) : JobStore :=
  { db with
    jobs := db.jobs ++ [{
      pk := db.nextPk
      manufacturer
      action := "sync"
      status := .running
      createdAt
      startedAt := some now
      finishedAt := none
      note := ""
      itemsScanned := none
      itemsSubmitted := none }]
    nextPk := db.nextPk + 1 }

/-- The update of one row by its key. -/
def finishJob (pk : Nat) (summary : DiscoverySyncSummary) (finishedAt : Time) (db : JobStore) :
    JobStore :=
  { db with jobs := db.jobs.map fun job =>
      if job.pk = pk then job.finish summary finishedAt else job }

end JobStore

/-- The two calls of a worker, with the clock readings they make. -/
inductive JobCall where
  | claim (manufacturerId : Nat) (now createdAt : Time)
  | finalize (job : DiscoveryJob) (summary : DiscoverySyncSummary) (finishedAt : Time)

namespace DiscoverySyncClaimService

/-- Create a running job unless a synchronization whose lease has not expired owns the claim. -/
def claim (manufacturerId : Nat) (now createdAt : Time) : Program JobStore Nat :=
  .lock manufacturerId <| .read fun db =>
    match db.manufacturers.find? fun m => m.pk = manufacturerId ∧ m.isActive with
    -- `Manufacturer.DoesNotExist`
    | none => .rollback
    | some manufacturer => .read fun db =>
      let runningJobs := db.runningJobs manufacturer.pk
      let staleJobIds :=
        (runningJobs.filter (DiscoveryJob.isStale (now - discoverySyncLease))).map DiscoveryJob.pk
      let start :=
        if staleJobIds.length ≠ runningJobs.length then .commit
        else .write (JobStore.createJob manufacturer.pk now createdAt) .commit
      if staleJobIds = [] then start else .write (JobStore.expireJobs staleJobIds now) start

/-- Record the outcome of a job that is still running. -/
def finalize (job : DiscoveryJob) (summary : DiscoverySyncSummary) (finishedAt : Time) :
    Program JobStore Nat :=
  .lock job.manufacturer <| .read fun db =>
    match db.manufacturers.find? fun m => m.pk = job.manufacturer with
    | none => .rollback
    | some _ => .read fun db =>
      match db.jobs.find? fun row => row.pk = job.pk ∧ row.manufacturer = job.manufacturer with
      | none => .rollback
      | some claimedJob =>
        if claimedJob.status ≠ .running then .commit
        else .write (JobStore.finishJob claimedJob.pk summary finishedAt) .commit

end DiscoverySyncClaimService

def JobCall.program : JobCall → Program JobStore Nat
  | .claim manufacturerId now createdAt =>
    DiscoverySyncClaimService.claim manufacturerId now createdAt
  | .finalize job summary finishedAt => DiscoverySyncClaimService.finalize job summary finishedAt

/-- Job keys are those of the sequence, and a manufacturer has at most one running synchronization. -/
structure JobStore.Consistent (db : JobStore) : Prop where
  unique : UniqueOn DiscoveryJob.pk db.jobs
  issued : ∀ job ∈ db.jobs, job.pk < db.nextPk
  exclusive : ∀ a ∈ db.jobs, ∀ b ∈ db.jobs, a.isRunningSync → b.isRunningSync →
    a.manufacturer = b.manufacturer → a = b

/-- What a claim or a finalization may change. -/
structure JobChange (call : JobCall) (held : Nat → Prop) (s t : JobStore) : Prop where
  others : ∀ manufacturer, ¬held manufacturer → t.jobsOf manufacturer = s.jobsOf manufacturer
  settled : ∀ job ∈ s.jobs, job.status ≠ .running → job ∈ t.jobs
  unfinalized : ∀ job summary finishedAt, call = .finalize job summary finishedAt →
    ∀ row, row.pk ≠ job.pk → (row ∈ t.jobs ↔ row ∈ s.jobs)
  superseded : ∀ job summary finishedAt, call = .finalize job summary finishedAt →
    (∀ row ∈ s.jobs, row.pk = job.pk → row.status ≠ .running) → t = s

theorem JobChange.refl (call : JobCall) (held : Nat → Prop) (s : JobStore) :
    JobChange call held s s :=
  ⟨fun _ _ => rfl, fun _ h _ => h, fun _ _ _ _ _ _ => Iff.rfl, fun _ _ _ _ _ => rfl⟩

def jobDiscipline : Discipline JobStore Nat JobCall := ⟨JobStore.Consistent, JobChange⟩

theorem stable_jobsOf {held : Nat → Prop} {manufacturer : Nat} (h : held manufacturer)
    (seen : JobStore) :
    jobDiscipline.Stable held fun s => s.jobsOf manufacturer = seen.jobsOf manufacturer := by
  intro call others s t hothers _ _ hchange hknow
  rw [← hknow]
  exact hchange.others manufacturer fun hmanufacturer => hothers manufacturer hmanufacturer h

theorem mem_jobsOf {db : JobStore} {manufacturer : Nat} {job : DiscoveryJob} :
    job ∈ db.jobsOf manufacturer ↔ job ∈ db.jobs ∧ job.manufacturer = manufacturer := by
  simp [JobStore.jobsOf]

theorem mem_runningJobs {db : JobStore} {manufacturer : Nat} {job : DiscoveryJob} :
    job ∈ db.runningJobs manufacturer ↔
      (job ∈ db.jobs ∧ job.manufacturer = manufacturer) ∧ job.isRunningSync := by
  simp [JobStore.runningJobs, mem_jobsOf]

section Settle

variable {db : JobStore} {f : DiscoveryJob → DiscoveryJob}

/-- Rewriting rows without starting a job keeps the table consistent. -/
theorem JobStore.Consistent.map (h : db.Consistent) (hpk : ∀ job, (f job).pk = job.pk)
    (hrunning : ∀ job, (f job).isRunningSync → f job = job) :
    ({ db with jobs := db.jobs.map f } : JobStore).Consistent where
  unique := by
    have hkeys : (db.jobs.map f).map DiscoveryJob.pk = db.jobs.map DiscoveryJob.pk := by
      rw [List.map_map]
      exact List.map_congr_left fun job _ => hpk job
    rw [UniqueOn, hkeys]
    exact h.unique
  issued := by
    intro job hjob
    obtain ⟨old, hold, rfl⟩ := List.mem_map.mp hjob
    rw [hpk]
    exact h.issued old hold
  exclusive := by
    intro a ha b hb harun hbrun heq
    obtain ⟨olda, holda, rfl⟩ := List.mem_map.mp ha
    obtain ⟨oldb, holdb, rfl⟩ := List.mem_map.mp hb
    have holda_eq := hrunning olda harun
    have holdb_eq := hrunning oldb hbrun
    rw [holda_eq] at harun heq ⊢
    rw [holdb_eq] at hbrun heq ⊢
    exact h.exclusive olda holda oldb holdb harun hbrun heq

/-- Rewriting only running jobs of one manufacturer touches no other manufacturer and no job that has
already ended. -/
theorem jobsOf_map {manufacturer : Nat} (hmanufacturer : ∀ job, (f job).manufacturer = job.manufacturer)
    (honly : ∀ job ∈ db.jobs, f job ≠ job → job.manufacturer = manufacturer) {other : Nat}
    (hother : other ≠ manufacturer) :
    ({ db with jobs := db.jobs.map f } : JobStore).jobsOf other = db.jobsOf other := by
  rw [JobStore.jobsOf, JobStore.jobsOf, List.filter_map]
  have hfilter : db.jobs.filter ((fun job => decide (job.manufacturer = other)) ∘ f) =
      db.jobs.filter fun job => decide (job.manufacturer = other) :=
    List.filter_congr fun job _ => by simp [hmanufacturer]
  rw [hfilter]
  calc (db.jobs.filter fun job => decide (job.manufacturer = other)).map f
      = (db.jobs.filter fun job => decide (job.manufacturer = other)).map id :=
        List.map_congr_left fun job hjob => by
          obtain ⟨hmem, hjob⟩ := List.mem_filter.mp hjob
          by_contra hne
          exact hother ((of_decide_eq_true hjob).symm.trans (honly job hmem hne))
    _ = _ := List.map_id _

theorem mem_map_of_settled (honly : ∀ job ∈ db.jobs, f job ≠ job → job.status = .running)
    {job : DiscoveryJob} (hjob : job ∈ db.jobs) (hstatus : job.status ≠ .running) :
    job ∈ db.jobs.map f := by
  have hkeep : f job = job := not_not.mp fun hne => hstatus (honly job hjob hne)
  exact List.mem_map.mpr ⟨job, hjob, hkeep⟩

end Settle

theorem expire_ne {staleJobIds : List Nat} {now : Time} {job : DiscoveryJob}
    (h : (if job.pk ∈ staleJobIds ∧ job.status = .running then job.expire now else job) ≠ job) :
    job.pk ∈ staleJobIds ∧ job.status = .running := by
  by_contra hnot
  rw [if_neg hnot] at h
  exact h rfl

theorem consistent_expireJobs {db : JobStore} (h : db.Consistent) (staleJobIds : List Nat)
    (now : Time) : (db.expireJobs staleJobIds now).Consistent := by
  refine h.map ?_ ?_
  · intro job
    split <;> rfl
  · intro job hrun
    split
    next hif =>
      rw [if_pos hif] at hrun
      simp [DiscoveryJob.isRunningSync, DiscoveryJob.expire] at hrun
    next => rfl

/-- The stale jobs a claim read are the current jobs with their keys. -/
theorem manufacturer_of_stale {db : JobStore} (h : db.Consistent) {manufacturer : Nat}
    {staleJobIds : List Nat}
    (hstale : ∀ pk ∈ staleJobIds, ∃ job ∈ db.runningJobs manufacturer, job.pk = pk)
    {job : DiscoveryJob} (hjob : job ∈ db.jobs) (hpk : job.pk ∈ staleJobIds) :
    job.manufacturer = manufacturer := by
  obtain ⟨stale, hmem, heq⟩ := hstale job.pk hpk
  obtain ⟨⟨hstale, hmanufacturer⟩, -⟩ := mem_runningJobs.mp hmem
  rw [← h.unique.eq hstale hjob heq]
  exact hmanufacturer

theorem jobChange_expireJobs {db : JobStore} (h : db.Consistent) {manufacturerId now createdAt}
    {manufacturer : Nat} {held : Nat → Prop} (hheld : held manufacturer) {staleJobIds : List Nat}
    {expiredAt : Time}
    (hstale : ∀ pk ∈ staleJobIds, ∃ job ∈ db.runningJobs manufacturer, job.pk = pk) :
    JobChange (.claim manufacturerId now createdAt) held db (db.expireJobs staleJobIds expiredAt)
    where
  others := by
    intro other hother
    refine jobsOf_map (fun job => ?_) (fun job hjob hne => ?_) fun heq => hother (heq ▸ hheld)
    · split <;> rfl
    · exact manufacturer_of_stale h hstale hjob (expire_ne hne).1
  settled := fun job hjob hstatus =>
    mem_map_of_settled (fun row _ hne => (expire_ne hne).2) hjob hstatus
  unfinalized := by
    intro job summary finishedAt hcall
    cases hcall
  superseded := by
    intro job summary finishedAt hcall
    cases hcall

theorem consistent_createJob {db : JobStore} (h : db.Consistent) {manufacturer : Nat}
    (hnone : ∀ job ∈ db.jobs, job.manufacturer = manufacturer → job.isRunningSync = false)
    (now createdAt : Time) : (db.createJob manufacturer now createdAt).Consistent where
  unique := by
    refine h.unique.append_row fun row hrow heq => ?_
    exact absurd heq (h.issued row hrow).ne
  issued := by
    intro job hjob
    rcases List.mem_append.mp hjob with hjob | hjob
    · exact (h.issued job hjob).trans (Nat.lt_succ_self _)
    · rw [List.mem_singleton.mp hjob]
      exact Nat.lt_succ_self _
  exclusive := by
    intro a ha b hb harun hbrun heq
    rcases List.mem_append.mp ha with ha | ha <;> rcases List.mem_append.mp hb with hb | hb
    · exact h.exclusive a ha b hb harun hbrun heq
    · rw [List.mem_singleton.mp hb] at heq
      rw [hnone a ha heq] at harun
      cases harun
    · rw [List.mem_singleton.mp ha] at heq
      rw [hnone b hb heq.symm] at hbrun
      cases hbrun
    · rw [List.mem_singleton.mp ha, List.mem_singleton.mp hb]

theorem jobChange_createJob {call : JobCall} {held : Nat → Prop} {s t : JobStore}
    {manufacturerId now createdAt} (hcall : call = .claim manufacturerId now createdAt)
    (h : JobChange call held s t) {manufacturer : Nat} (hheld : held manufacturer)
    (startedAt addedAt : Time) :
    JobChange call held s (t.createJob manufacturer startedAt addedAt) where
  others := by
    intro other hother
    have hne : manufacturer ≠ other := fun heq => hother (heq ▸ hheld)
    rw [← h.others other hother]
    simp [JobStore.jobsOf, JobStore.createJob, hne]
  settled := fun job hjob hstatus =>
    List.mem_append_left _ (h.settled job hjob hstatus)
  unfinalized := by
    intro job summary finishedAt heq
    cases hcall.symm.trans heq
  superseded := by
    intro job summary finishedAt heq
    cases hcall.symm.trans heq

/-- After all running jobs of a manufacturer have been expired none of them runs. -/
theorem expireJobs_none {db : JobStore} {manufacturer : Nat} {staleJobIds : List Nat} {now : Time}
    (hall : ∀ job ∈ db.runningJobs manufacturer, job.pk ∈ staleJobIds) :
    ∀ job ∈ (db.expireJobs staleJobIds now).jobs, job.manufacturer = manufacturer →
      job.isRunningSync = false := by
  intro job hjob hmanufacturer
  obtain ⟨old, hold, rfl⟩ := List.mem_map.mp hjob
  have hmanufacturer : old.manufacturer = manufacturer := by
    split at hmanufacturer <;> exact hmanufacturer
  split
  next => simp [DiscoveryJob.isRunningSync, DiscoveryJob.expire]
  next hnot =>
    by_contra hrun
    have hrun : old.isRunningSync = true := by simpa using hrun
    refine hnot ⟨hall old (mem_runningJobs.mpr ⟨⟨hold, hmanufacturer⟩, hrun⟩), ?_⟩
    simp [DiscoveryJob.isRunningSync] at hrun
    exact hrun.2

theorem runningJobs_congr {s t : JobStore} {manufacturer : Nat}
    (h : s.jobsOf manufacturer = t.jobsOf manufacturer) :
    s.runningJobs manufacturer = t.runningJobs manufacturer := by
  rw [JobStore.runningJobs, JobStore.runningJobs, h]

/-- A claim follows the discipline: the running jobs it read are those of its manufacturer until it
commits. -/
theorem follows_claim {meets : Session JobStore Nat JobCall → JobStore → Prop}
    (manufacturerId : Nat) (now createdAt : Time) :
    Follows jobDiscipline meets (.claim manufacturerId now createdAt) (fun _ => False)
      (fun _ => True) [] id (DiscoverySyncClaimService.claim manufacturerId now createdAt) := by
  refine .lock (.read (fun _ _ => True) (fun _ _ _ => trivial)
    (fun _ _ _ => jobDiscipline.stable_true _) fun db _ _ => ?_)
  dsimp only [id_eq]
  split
  next => exact .rollback
  next manufacturer hfind =>
    have hpk : manufacturer.pk = manufacturerId := by
      have := List.find?_some hfind
      simp at this
      exact this.1
    rw [hpk]
    refine .read (fun seen s => s.jobsOf manufacturerId = seen.jobsOf manufacturerId)
      (fun _ _ _ => rfl) (fun seen _ _ => stable_jobsOf (.inl rfl) seen) fun seen _ _ => ?_
    dsimp only [id_eq]
    generalize hstale : ((seen.runningJobs manufacturerId).filter
      (DiscoveryJob.isStale (now - discoverySyncLease))).map DiscoveryJob.pk = staleJobIds
    -- Every expired key is the key of a job the manufacturer still runs.
    have hmem : ∀ s : JobStore, s.jobsOf manufacturerId = seen.jobsOf manufacturerId →
        ∀ pk ∈ staleJobIds, ∃ job ∈ s.runningJobs manufacturerId, job.pk = pk := by
      intro s hs pk hpk
      rw [runningJobs_congr hs]
      rw [← hstale] at hpk
      obtain ⟨job, hjob, rfl⟩ := List.mem_map.mp hpk
      exact ⟨job, List.mem_of_mem_filter hjob, rfl⟩
    -- When all of them are stale, all of them are expired.
    have hall : staleJobIds.length = (seen.runningJobs manufacturerId).length →
        ∀ s : JobStore, s.jobsOf manufacturerId = seen.jobsOf manufacturerId →
          ∀ job ∈ s.runningJobs manufacturerId, job.pk ∈ staleJobIds := by
      intro hlength s hs job hjob
      rw [runningJobs_congr hs] at hjob
      rw [← hstale, List.length_map, List.length_filter_eq_length_iff] at hlength
      rw [← hstale]
      exact List.mem_map_of_mem (List.mem_filter.mpr ⟨hjob, hlength job hjob⟩)
    have hrefl := JobChange.refl (.claim manufacturerId now createdAt)
      fun k => k = manufacturerId ∨ False
    by_cases hempty : staleJobIds = []
    · rw [if_pos hempty]
      by_cases hlength : staleJobIds.length = (seen.runningJobs manufacturerId).length
      · rw [if_neg (not_not.mpr hlength)]
        refine .write (.commit fun s hs hknow _ => ⟨consistent_createJob hs ?_ _ _,
          jobChange_createJob rfl (hrefl s) (.inl rfl) _ _⟩)
        intro job hjob hmanufacturer
        by_contra hrun
        have := hall hlength s hknow job
          (mem_runningJobs.mpr ⟨⟨hjob, hmanufacturer⟩, by simpa using hrun⟩)
        rw [hempty] at this
        cases this
      · rw [if_pos hlength]
        exact .commit fun s hs _ _ => ⟨hs, hrefl s⟩
    · rw [if_neg hempty]
      by_cases hlength : staleJobIds.length = (seen.runningJobs manufacturerId).length
      · rw [if_neg (not_not.mpr hlength)]
        refine .write (.write (.commit fun s hs hknow _ => ⟨?_, ?_⟩))
        · exact consistent_createJob (consistent_expireJobs hs _ _)
            (expireJobs_none (hall hlength s hknow)) _ _
        · exact jobChange_createJob rfl (jobChange_expireJobs hs (.inl rfl) (hmem s hknow))
            (.inl rfl) _ _
      · rw [if_pos hlength]
        exact .write (.commit fun s hs hknow _ => ⟨consistent_expireJobs hs _ _,
          jobChange_expireJobs hs (.inl rfl) (hmem s hknow)⟩)

theorem finish_status (summary : DiscoverySyncSummary) (finishedAt : Time) (job : DiscoveryJob) :
    (job.finish summary finishedAt).status ≠ .running := by
  rw [DiscoveryJob.finish]
  dsimp only
  split <;> decide

theorem finish_ne {pk : Nat} {summary : DiscoverySyncSummary} {finishedAt : Time}
    {job : DiscoveryJob}
    (h : (if job.pk = pk then job.finish summary finishedAt else job) ≠ job) : job.pk = pk := by
  by_contra hnot
  rw [if_neg hnot] at h
  exact h rfl

theorem consistent_finishJob {db : JobStore} (h : db.Consistent) (pk : Nat)
    (summary : DiscoverySyncSummary) (finishedAt : Time) :
    (db.finishJob pk summary finishedAt).Consistent := by
  refine h.map ?_ ?_
  · intro job
    split <;> rfl
  · intro job hrun
    split
    next hif =>
      rw [if_pos hif] at hrun
      simp [DiscoveryJob.isRunningSync, finish_status] at hrun
    next => rfl

theorem jobChange_finishJob {db : JobStore} (h : db.Consistent) {job row : DiscoveryJob}
    {held : Nat → Prop} (hheld : held row.manufacturer) (hrow : row ∈ db.jobs) (hpk : row.pk = job.pk)
    (hrunning : row.status = .running) (summary : DiscoverySyncSummary) (finishedAt : Time) :
    JobChange (.finalize job summary finishedAt) held db
      (db.finishJob row.pk summary finishedAt) where
  others := by
    intro other hother
    refine jobsOf_map (fun job => ?_) (fun other hmem hne => ?_) fun heq => hother (heq ▸ hheld)
    · split <;> rfl
    · rw [h.unique.eq hmem hrow (finish_ne hne)]
  settled := by
    refine fun job hjob hstatus => mem_map_of_settled (fun other hmem hne => ?_) hjob hstatus
    rw [h.unique.eq hmem hrow (finish_ne hne)]
    exact hrunning
  unfinalized := by
    intro job' summary' finishedAt' hcall other hne
    cases hcall
    rw [← hpk] at hne
    constructor
    · intro hother
      obtain ⟨old, hold, rfl⟩ := List.mem_map.mp hother
      split at hne
      next hif => exact absurd hif hne
      next hif =>
        rw [if_neg hif]
        exact hold
    · intro hother
      exact List.mem_map.mpr ⟨other, hother, if_neg hne⟩
  superseded := by
    intro job' summary' finishedAt' hcall hsettled
    cases hcall
    exact absurd hrunning (hsettled row hrow hpk)

/-- A finalization follows the discipline: the job it found running is still running when it commits. -/
theorem follows_finalize {meets : Session JobStore Nat JobCall → JobStore → Prop}
    (job : DiscoveryJob) (summary : DiscoverySyncSummary) (finishedAt : Time) :
    Follows jobDiscipline meets (.finalize job summary finishedAt) (fun _ => False)
      (fun _ => True) [] id (DiscoverySyncClaimService.finalize job summary finishedAt) := by
  refine .lock (.read (fun _ _ => True) (fun _ _ _ => trivial)
    (fun _ _ _ => jobDiscipline.stable_true _) fun db _ _ => ?_)
  dsimp only [id_eq]
  split
  next => exact .rollback
  next =>
    refine .read (fun seen s => s.jobsOf job.manufacturer = seen.jobsOf job.manufacturer)
      (fun _ _ _ => rfl) (fun seen _ _ => stable_jobsOf (.inl rfl) seen) fun seen _ _ => ?_
    dsimp only [id_eq]
    split
    next => exact .rollback
    next row hfind =>
      obtain ⟨hpk, hmanufacturer⟩ : row.pk = job.pk ∧ row.manufacturer = job.manufacturer := by
        simpa using List.find?_some hfind
      have hseen : row ∈ seen.jobsOf job.manufacturer :=
        mem_jobsOf.mpr ⟨List.mem_of_find?_eq_some hfind, hmanufacturer⟩
      by_cases hstatus : row.status = .running
      · rw [if_neg (not_not.mpr hstatus)]
        refine .write (.commit fun s hs hknow _ => ⟨consistent_finishJob hs _ _ _, ?_⟩)
        rw [← hknow] at hseen
        exact jobChange_finishJob hs (.inl hmanufacturer) (mem_jobsOf.mp hseen).1 hpk hstatus _ _
      · rw [if_pos hstatus]
        exact .commit fun s hs _ _ => ⟨hs, .refl _ _ s⟩

theorem follows_jobCall {meets : Session JobStore Nat JobCall → JobStore → Prop} :
    AllFollow jobDiscipline meets JobCall.program := by
  intro call
  cases call with
  | claim manufacturerId now createdAt => exact follows_claim manufacturerId now createdAt
  | finalize job summary finishedAt => exact follows_finalize job summary finishedAt

/-! ### Any number of workers -/

section Workers

variable {ι : Type*} [DecidableEq ι]

/-- One statement of one worker's call, or a worker starting or losing a call. -/
def ClaimStep : State JobStore Nat JobCall ι → State JobStore Nat JobCall ι → Prop :=
  Step JobCall.program fun _ _ => True

/-- Another job of the manufacturer owns the claim that `job` once had. -/
def JobStore.Superseded (db : JobStore) (job : DiscoveryJob) : Prop :=
  ∃ owner ∈ db.jobs, owner.isRunningSync ∧ owner.manufacturer = job.manufacturer ∧
    owner.pk ≠ job.pk

variable {db : JobStore} {state later : State JobStore Nat JobCall ι}

theorem disciplined_jobs (hdb : db.Consistent)
    (hrun : Relation.ReflTransGen ClaimStep (State.quiet db) state) :
    Disciplined jobDiscipline (fun _ _ => True) state :=
  (disciplined_quiet hdb).run follows_jobCall hrun

/-- The jobs that have ended keep their records. -/
def KeepsSettled (s t : JobStore) : Prop := ∀ job ∈ s.jobs, job.status ≠ .running → job ∈ t.jobs

theorem settled_run (h : Disciplined jobDiscipline (fun _ _ => True) state)
    (hrun : Relation.ReflTransGen ClaimStep state later) {job : DiscoveryJob}
    (hjob : job ∈ state.store.jobs) (hstatus : job.status ≠ .running) : job ∈ later.store.jobs := by
  have hkeeps : KeepsSettled state.store later.store := h.run_rel follows_jobCall
    (fun _ _ hjob _ => hjob)
    (fun _ _ _ hst htu job hjob hstatus => htu job (hst job hjob hstatus) hstatus)
    (fun _ _ _ _ _ hchange => hchange.settled) hrun
  exact hkeeps job hjob hstatus

theorem status_of_superseded (h : db.Consistent) {job : DiscoveryJob} (hjob : job ∈ db.jobs)
    (haction : job.action = "sync") (hsuperseded : db.Superseded job) : job.status ≠ .running := by
  obtain ⟨owner, howner, hrunning, hmanufacturer, hpk⟩ := hsuperseded
  intro hstatus
  have hjobRunning : job.isRunningSync = true := by
    simp [DiscoveryJob.isRunningSync, haction, hstatus]
  exact hpk (congrArg DiscoveryJob.pk
    (h.exclusive owner howner job hjob hrunning hjobRunning hmanufacturer))

/-- Over every interleaving of claims and finalizations at every clock value: a manufacturer has at
most one running synchronization; a job that has ended stays as it ended; a superseded job keeps its
record for good, and the worker that still holds it changes nothing when it finalizes it; and no
finalization touches the job of another claim. -/
theorem discovery_claim_exclusive (hdb : db.Consistent)
    (hrun : Relation.ReflTransGen ClaimStep (State.quiet db) state) :
    (∀ a ∈ state.store.jobs, ∀ b ∈ state.store.jobs, a.isRunningSync → b.isRunningSync →
      a.manufacturer = b.manufacturer → a = b) ∧
    (∀ job ∈ state.store.jobs, job.status ≠ .running →
      ∀ later, Relation.ReflTransGen ClaimStep state later → job ∈ later.store.jobs) ∧
    (∀ job ∈ state.store.jobs, job.action = "sync" → state.store.Superseded job →
      ∀ later, Relation.ReflTransGen ClaimStep state later → job ∈ later.store.jobs ∧
        ∀ i session next held summary finishedAt, held.pk = job.pk →
          session.call = .finalize held summary finishedAt → Commits later i session next →
            next.store = later.store) ∧
    (∀ i session next held summary finishedAt, session.call = .finalize held summary finishedAt →
      Commits state i session next →
        ∀ row, row.pk ≠ held.pk → (row ∈ next.store.jobs ↔ row ∈ state.store.jobs)) := by
  have hstate := disciplined_jobs hdb hrun
  refine ⟨hstate.inv.exclusive, fun job hjob hstatus later hlater =>
    settled_run hstate hlater hjob hstatus, ?_, ?_⟩
  · intro job hjob haction hsuperseded later hlater
    have hstatus := status_of_superseded hstate.inv hjob haction hsuperseded
    have hkept := settled_run hstate hlater hjob hstatus
    refine ⟨hkept, ?_⟩
    intro i session next held summary finishedAt hpk hcall hcommit
    have hdisciplined := hstate.run follows_jobCall hlater
    have hchange := (hdisciplined.commit hcommit trivial).2
    refine hchange.superseded held summary finishedAt hcall fun row hrow heq => ?_
    rw [hdisciplined.inv.unique.eq hrow hkept (heq.trans hpk)]
    exact hstatus
  · intro i session next held summary finishedAt hcall hcommit
    exact (hstate.commit hcommit trivial).2.unfinalized held summary finishedAt hcall

end Workers

def unclaimed : JobStore where
  manufacturers := [⟨1, "shure", true⟩]
  jobs := []
  nextPk := 1

theorem unclaimed_consistent : unclaimed.Consistent where
  unique := by decide
  issued := by decide
  exclusive := by decide

/-- The first worker claims; an hour later the second one expires that claim and takes it over. -/
def takeover : List (Event JobCall Bool) :=
  .start false (.claim 1 0 0) :: List.replicate 5 (.go false) ++
    .start true (.claim 1 3600000000 3600000000) :: List.replicate 6 (.go true)

/-- The claim that the first worker still holds. -/
def lostJob : DiscoveryJob where
  pk := 1
  manufacturer := 1
  action := "sync"
  status := .running
  createdAt := 0
  startedAt := some 0
  finishedAt := none
  note := ""
  itemsScanned := none
  itemsSubmitted := none

/-- Both workers finalize, the second one first; the first one is about to commit. -/
def bothFinalize : List (Event JobCall Bool) :=
  .start false (.finalize lostJob ⟨[], 3, 0⟩ 3600000002) ::
    .start true (.finalize { lostJob with pk := 2 } ⟨[], 4, 1⟩ 3600000001) ::
    List.replicate 5 (.go true) ++ List.replicate 3 (.go false)

/-- A session is about to commit the finalization of a job. -/
def finalizing (state : State JobStore Nat JobCall Bool) (i : Bool) (pk : Nat) : Bool :=
  match state.sessions i with
  | some ⟨.finalize job _ _, _, _, .commit⟩ => job.pk = pk
  | _ => false

theorem exists_commits_of_finalizing {state : State JobStore Nat JobCall Bool} {i : Bool} {pk : Nat}
    (h : finalizing state i pk = true) : ∃ session next held summary finishedAt, held.pk = pk ∧
      session.call = .finalize held summary finishedAt ∧ Commits state i session next := by
  unfold finalizing at h
  split at h
  next held summary finishedAt seen pending hopen =>
    exact ⟨_, _, held, summary, finishedAt, of_decide_eq_true h, rfl, hopen, rfl, rfl⟩
  next => cases h

theorem discovery_claim_exclusive_takenOver :
    ∃ state later : State JobStore Nat JobCall Bool,
      (state.store.jobs.map fun job => (job.pk, job.status)) = [(1, .failed), (2, .running)] ∧
      (∀ a ∈ state.store.jobs, ∀ b ∈ state.store.jobs, a.isRunningSync → b.isRunningSync →
        a.manufacturer = b.manufacturer → a = b) ∧
      (later.store.jobs.map fun job => (job.pk, job.status)) = [(1, .failed), (2, .success)] ∧
      ∃ session next, Commits later false session next ∧ next.store = later.store := by
  have hruns : ((takeover.foldlM (State.perform JobCall.program fun _ _ => True)
      (State.quiet unclaimed)).any fun state =>
        (state.store.jobs.map fun job => (job.pk, job.status)) = [(1, .failed), (2, .running)] ∧
        (∃ job ∈ state.store.jobs, job.pk = 1 ∧ job.action = "sync" ∧
          ∃ owner ∈ state.store.jobs, owner.isRunningSync = true ∧
            owner.manufacturer = job.manufacturer ∧
            owner.pk ≠ job.pk) ∧
        ((bothFinalize.foldlM (State.perform JobCall.program fun _ _ => True) state).any fun later =>
          (later.store.jobs.map fun job => (job.pk, job.status)) = [(1, .failed), (2, .success)] ∧
          finalizing later false 1 = true) = true) = true := by
    decide +kernel
  obtain ⟨state, hstate, hfound⟩ := (Option.any_eq_true _ _).mp hruns
  obtain ⟨hjobs, ⟨job, hjob, hpk, haction, hsuperseded⟩, hmore⟩ := of_decide_eq_true hfound
  obtain ⟨later, hlater, hended⟩ := (Option.any_eq_true _ _).mp hmore
  obtain ⟨hfinished, hfinalizing⟩ := of_decide_eq_true hended
  obtain ⟨session, next, held, summary, finishedAt, hheld, hcall, hcommit⟩ :=
    exists_commits_of_finalizing hfinalizing
  obtain ⟨hexclusive, -, hlost, -⟩ :=
    discovery_claim_exclusive unclaimed_consistent (run_of_schedule hstate)
  refine ⟨state, later, hjobs, hexclusive, hfinished, session, next, hcommit, ?_⟩
  exact (hlost job hjob haction hsuperseded later (run_of_schedule hlater)).2 false session
    next held summary
    finishedAt (hheld.trans hpk.symm) hcall hcommit

end Micboard
