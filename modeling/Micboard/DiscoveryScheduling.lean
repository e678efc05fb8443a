import Mathlib.Data.List.Nodup
import Micboard.LibrarySavepoint

/-! Scheduling of discoveries and status broadcasts at the commit of a transaction. A request is
registered once on the connection, or collected first while schedules are coalesced; the requests of a
transaction are followed through its atomic blocks. -/

namespace Micboard

open Library.Savepoint

/-- A manufacturer with the scan flags of a requested discovery. -/
structure DiscoveryKey where
  manufacturerId : Nat
  scanCidrs : Bool
  scanFqdns : Bool
deriving DecidableEq

/-- A callback by the marker it carries. -/
inductive CommitCallback where
  | discovery (key : DiscoveryKey)
  | statusBroadcast (chassisId : Nat)
deriving DecidableEq

structure SchedulingContext where
  connection : Connection CommitCallback
  pending : Option (List DiscoveryKey)

namespace SchedulingContext

def registerDiscoveryOnCommit (key : DiscoveryKey) (context : SchedulingContext) :
    SchedulingContext :=
  { context with connection := context.connection.onCommitOnce (.discovery key) }

def scheduleDiscoveryOnCommit (key : DiscoveryKey) (context : SchedulingContext) :
    SchedulingContext :=
  match context.pending with
  | some pending =>
      { context with pending := some (if key ∈ pending then pending else pending ++ [key]) }
  | none => context.registerDiscoveryOnCommit key

def scheduleStatusBroadcast (chassisId : Nat) (context : SchedulingContext) : SchedulingContext :=
  { context with connection := context.connection.onCommitOnce (.statusBroadcast chassisId) }

/-- `coalesce_discovery_scheduling` around a body: an outer one collects for the inner ones, and what it
has collected is registered when its body ends, also by an exception. -/
def coalesceDiscoveryScheduling (body : SchedulingContext → SchedulingContext)
    (context : SchedulingContext) : SchedulingContext :=
  match context.pending with
  | some _ => body context
  | none =>
      let after := body { context with pending := some [] }
      (after.pending.getD []).foldl (fun context key => context.registerDiscoveryOnCommit key)
        { after with pending := none }

def enterAtomic (savepoint : Bool) (context : SchedulingContext) : SchedulingContext :=
  { context with connection := context.connection.enter savepoint }

def exitAtomic (failed : Bool) (context : SchedulingContext) : SchedulingContext :=
  { context with connection := context.connection.exit failed }

end SchedulingContext

/-- What the code of a transaction does to its callbacks, call after call. An atomic block may end by an
exception, which the code around the block catches. -/
inductive SchedulingProgram where
  | done
  | schedule (key : DiscoveryKey) (rest : SchedulingProgram)
  | statusChange (chassisId : Nat) (rest : SchedulingProgram)
  | atomic (savepoint : Bool) (body : SchedulingProgram) (failed : Bool) (rest : SchedulingProgram)
  | coalesce (body rest : SchedulingProgram)

namespace SchedulingProgram

def run : SchedulingProgram → SchedulingContext → SchedulingContext
  | .done, context => context
  | .schedule key rest, context => rest.run (context.scheduleDiscoveryOnCommit key)
  | .statusChange chassisId rest, context => rest.run (context.scheduleStatusBroadcast chassisId)
  | .atomic savepoint body failed rest, context =>
      rest.run ((body.run (context.enterAtomic savepoint)).exitAtomic failed)
  | .coalesce body rest, context =>
      rest.run (context.coalesceDiscoveryScheduling fun context => body.run context)

/-- Everything the code requests. -/
def requests : SchedulingProgram → List CommitCallback
  | .done => []
  | .schedule key rest => .discovery key :: rest.requests
  | .statusChange chassisId rest => .statusBroadcast chassisId :: rest.requests
  | .atomic _ body _ rest => body.requests ++ rest.requests
  | .coalesce body rest => body.requests ++ rest.requests

/-- The scope the code runs in has to be rolled back after it, given whether it had to before: an inner
block that failed without a savepoint of its own leaves that to the scope around it. -/
def marksRollback : SchedulingProgram → Bool → Bool
  | .done, marked => marked
  | .schedule _ rest, marked => rest.marksRollback marked
  | .statusChange _ rest, marked => rest.marksRollback marked
  | .atomic savepoint body failed rest, marked =>
      rest.marksRollback (!(savepoint && !marked) && (failed || body.marksRollback marked))
  | .coalesce body rest, marked => rest.marksRollback (body.marksRollback marked)

/-- What is requested in a scope that is not rolled back, as far as the blocks of the code decide
it: the requests of a block with a savepoint count unless it fails or has to be rolled back. -/
def standing : SchedulingProgram → Bool → List CommitCallback
  | .done, _ => []
  | .schedule key rest, marked => .discovery key :: rest.standing marked
  | .statusChange chassisId rest, marked => .statusBroadcast chassisId :: rest.standing marked
  | .atomic savepoint body failed rest, marked =>
      let lost := failed || body.marksRollback marked
      (if savepoint && !marked && lost then [] else body.standing marked) ++
        rest.standing (!(savepoint && !marked) && lost)
  | .coalesce body rest, marked =>
      body.standing marked ++ rest.standing (body.marksRollback marked)

end SchedulingProgram

namespace SchedulingContext

/-- A callback that waits for the commit, or for the end of the coalescing. -/
def Recorded (callback : CommitCallback) (context : SchedulingContext) : Prop :=
  callback ∈ context.connection.callbacks ∨
    ∃ key ∈ context.pending.getD [], callback = .discovery key

/-- A context inside of a transaction. -/
structure Open (context : SchedulingContext) : Prop where
  inAtomicBlock : context.connection.inAtomicBlock = true
  bounded : Bounded context.connection
  callbacks : context.connection.callbacks.Nodup
  pending : (context.pending.getD []).Nodup

/-- What a part of a transaction leaves of the context before it. -/
structure Extends (before after : SchedulingContext) : Prop where
  connection : Keeps before.connection after.connection
  coalescing : after.pending.isSome = before.pending.isSome
  pending : ∀ key ∈ before.pending.getD [], key ∈ after.pending.getD []

theorem Extends.refl (context : SchedulingContext) : Extends context context :=
  ⟨.refl _, rfl, fun _ h => h⟩

theorem Extends.trans {a b c : SchedulingContext} (h : Extends a b) (h' : Extends b c) :
    Extends a c :=
  ⟨h.connection.trans h'.connection, h'.coalescing.trans h.coalescing,
    fun key hkey => h'.pending key (h.pending key hkey)⟩

theorem Extends.recorded {before after : SchedulingContext} (h : Extends before after)
    {callback : CommitCallback} (hrecorded : before.Recorded callback) : after.Recorded callback := by
  rcases hrecorded with hwaits | ⟨key, hkey, rfl⟩
  · exact .inl (h.connection.callbacks hwaits)
  · exact .inr ⟨key, h.pending key hkey, rfl⟩

section Step

variable {context : SchedulingContext}

theorem nodup_onCommitOnce (h : context.Open) (callback : CommitCallback) :
    (context.connection.onCommitOnce callback).callbacks.Nodup := by
  rw [callbacks_onCommitOnce h.inAtomicBlock]
  split
  next => exact h.callbacks
  next hnew => exact h.callbacks.append (List.nodup_singleton _) (by simpa using hnew)

theorem open_register (h : context.Open) (callback : CommitCallback) :
    Open { context with connection := context.connection.onCommitOnce callback } where
  inAtomicBlock := (keeps_onCommitOnce h.inAtomicBlock callback).inAtomicBlock.trans h.inAtomicBlock
  bounded := bounded_onCommitOnce h.bounded h.inAtomicBlock callback
  callbacks := nodup_onCommitOnce h callback
  pending := h.pending

theorem extends_register (h : context.Open) (callback : CommitCallback) :
    Extends context { context with connection := context.connection.onCommitOnce callback } :=
  ⟨keeps_onCommitOnce h.inAtomicBlock callback, rfl, fun _ hkey => hkey⟩

theorem recorded_register (h : context.Open) (callback : CommitCallback) :
    Recorded callback { context with connection := context.connection.onCommitOnce callback } :=
  .inl (mem_onCommitOnce h.inAtomicBlock callback)

end Step

/-- What a part of a transaction does: nothing recorded is lost, `standing` is recorded, nothing but the
requests is, and no discovery is registered before the end of an enclosing coalescing. -/
structure Performs (before after : SchedulingContext) (standing requests : List CommitCallback)
    (marked : Bool) : Prop where
  opened : after.Open
  extended : Extends before after
  standing : ∀ callback ∈ standing, after.Recorded callback
  requested : ∀ callback, after.Recorded callback → before.Recorded callback ∨ callback ∈ requests
  collected : before.pending.isSome = true → ∀ key,
    .discovery key ∈ after.connection.callbacks → .discovery key ∈ before.connection.callbacks
  marked : after.connection.needsRollback = marked

theorem Performs.refl {context : SchedulingContext} (h : context.Open) :
    Performs context context [] [] context.connection.needsRollback :=
  ⟨h, .refl _, fun _ hmem => (by cases hmem), fun _ hrecorded => .inl hrecorded,
    fun _ _ hwaits => hwaits, rfl⟩

theorem Performs.trans {a b c : SchedulingContext} {standing standing' requests requests' marked
    marked'} (h : Performs a b standing requests marked)
    (h' : Performs b c standing' requests' marked') :
    Performs a c (standing ++ standing') (requests ++ requests') marked' where
  opened := h'.opened
  extended := h.extended.trans h'.extended
  standing callback hmem := by
    rcases List.mem_append.mp hmem with hmem | hmem
    · exact h'.extended.recorded (h.standing callback hmem)
    · exact h'.standing callback hmem
  requested callback hrecorded := by
    rcases h'.requested callback hrecorded with hrecorded | hmem
    · exact (h.requested callback hrecorded).imp_right (List.mem_append_left _)
    · exact .inr (List.mem_append_right _ hmem)
  collected hsome key hwaits :=
    h.collected hsome key (h'.collected (h.extended.coalescing.trans hsome) key hwaits)
  marked := h'.marked

section Run

variable {context : SchedulingContext}

theorem needsRollback_onCommitOnce (h : context.Open) (callback : CommitCallback) :
    (context.connection.onCommitOnce callback).needsRollback = context.connection.needsRollback := by
  rw [Connection.onCommitOnce, Connection.onCommit, if_pos h.inAtomicBlock]
  split
  next => rfl
  next => rfl

theorem recorded_of_register (h : context.Open) {callback other : CommitCallback}
    (hrecorded : Recorded other
      { context with connection := context.connection.onCommitOnce callback }) :
    context.Recorded other ∨ other ∈ [callback] := by
  rcases hrecorded with hwaits | hpending
  · rw [callbacks_onCommitOnce h.inAtomicBlock] at hwaits
    split at hwaits
    next => exact .inl (.inl hwaits)
    next => exact (List.mem_append.mp hwaits).imp_left .inl
  · exact .inl (.inr hpending)

theorem performs_register (h : context.Open) (callback : CommitCallback)
    (hallowed : context.pending.isSome = true → ∀ key, callback ≠ .discovery key) :
    Performs context { context with connection := context.connection.onCommitOnce callback }
      [callback] [callback] context.connection.needsRollback where
  opened := open_register h callback
  extended := extends_register h callback
  standing other hmem := by
    rw [List.mem_singleton.mp hmem]
    exact recorded_register h callback
  requested _ hrecorded := recorded_of_register h hrecorded
  collected hsome key hwaits := by
    rw [callbacks_onCommitOnce h.inAtomicBlock] at hwaits
    split at hwaits
    next => exact hwaits
    next =>
      rcases List.mem_append.mp hwaits with hwaits | heq
      · exact hwaits
      · exact absurd (List.mem_singleton.mp heq).symm (hallowed hsome key)
  marked := needsRollback_onCommitOnce h callback

theorem performs_collect (h : context.Open) {pending : List DiscoveryKey}
    (hpending : context.pending = some pending) (key : DiscoveryKey) :
    Performs context
      { context with pending := some (if key ∈ pending then pending else pending ++ [key]) }
      [.discovery key] [.discovery key] context.connection.needsRollback := by
  have hmem : ∀ other, (other ∈ if key ∈ pending then pending else pending ++ [key]) ↔
      other ∈ pending ∨ other = key := by
    intro other
    split
    next hkey => exact ⟨.inl, fun h => h.elim id fun heq => heq ▸ hkey⟩
    next => simp
  have hgetD : context.pending.getD [] = pending := by rw [hpending]; rfl
  constructor
  case opened =>
    refine ⟨h.inAtomicBlock, h.bounded, h.callbacks, ?_⟩
    show (if key ∈ pending then pending else pending ++ [key]).Nodup
    have hnodup := h.pending
    rw [hgetD] at hnodup
    split
    next => exact hnodup
    next hnew => exact hnodup.append (List.nodup_singleton _) (by simpa using hnew)
  case extended =>
    refine ⟨.refl _, by rw [hpending]; rfl, fun other hother => (hmem other).mpr (.inl ?_)⟩
    rwa [hgetD] at hother
  case standing =>
    intro callback hcallback
    rw [List.mem_singleton.mp hcallback]
    exact .inr ⟨key, (hmem key).mpr (.inr rfl), rfl⟩
  case requested =>
    intro callback hrecorded
    rcases hrecorded with hwaits | ⟨found, hfound, rfl⟩
    · exact .inl (.inl hwaits)
    · rcases (hmem found).mp hfound with hfound | rfl
      · exact .inl (.inr ⟨found, hgetD ▸ hfound, rfl⟩)
      · exact .inr (List.mem_singleton_self _)
  case collected => exact fun _ _ hwaits => hwaits
  case marked => rfl

theorem performs_schedule (h : context.Open) (key : DiscoveryKey) :
    Performs context (context.scheduleDiscoveryOnCommit key) [.discovery key] [.discovery key]
      context.connection.needsRollback := by
  rw [scheduleDiscoveryOnCommit]
  split
  next pending hpending => exact performs_collect h hpending key
  next hpending => exact performs_register h _ (by simp [hpending])

theorem performs_statusBroadcast (h : context.Open) (chassisId : Nat) :
    Performs context (context.scheduleStatusBroadcast chassisId) [.statusBroadcast chassisId]
      [.statusBroadcast chassisId] context.connection.needsRollback :=
  performs_register h _ fun _ _ => CommitCallback.noConfusion

/-- The end of the coalescing registers what was collected. -/
theorem performs_flush (keys : List DiscoveryKey) : ∀ {context : SchedulingContext}, context.Open →
    context.pending = none → Performs context
      (keys.foldl (fun context key => context.registerDiscoveryOnCommit key) context)
      (keys.map .discovery) (keys.map .discovery) context.connection.needsRollback := by
  induction keys with
  | nil => exact fun h _ => .refl h
  | cons key keys ih =>
      intro context h hpending
      have hhead := performs_register h (.discovery key) (by simp [hpending])
      have htail := ih hhead.opened hpending
      rw [hhead.marked] at htail
      exact hhead.trans htail

theorem open_enterAtomic (h : context.Open) (savepoint : Bool) :
    (context.enterAtomic savepoint).Open where
  inAtomicBlock := inAtomicBlock_enter _ _
  bounded := bounded_enter h.bounded savepoint
  callbacks := by
    rw [Connection.callbacks, enterAtomic, runOnCommit_enter]
    exact h.callbacks
  pending := h.pending

/-- An inner block: what its body recorded stands, unless a savepoint of the block is rolled back. -/
theorem performs_atomic (h : context.Open) {after : SchedulingContext} {savepoint : Bool}
    {standing requests : List CommitCallback} {bodyMarked : Bool}
    (hbody : Performs (context.enterAtomic savepoint) after standing requests bodyMarked)
    (failed : Bool) :
    Performs context (after.exitAtomic failed)
      (if savepoint && !context.connection.needsRollback && (failed || bodyMarked) then []
        else standing)
      requests
      (!(savepoint && !context.connection.needsRollback) && (failed || bodyMarked)) := by
  have hopen := hbody.extended.connection.savepointIds.trans
    (savepointIds_enter h.inAtomicBlock savepoint)
  have hown : ((if savepoint && !context.connection.needsRollback then
      some context.connection.nextSavepoint else none).isSome) =
        (savepoint && !context.connection.needsRollback) := by
    split <;> simp_all
  have hkeeps := keeps_block h.bounded h.inAtomicBlock hbody.extended.connection failed
  have hwaiting : ∀ callback ∈ (after.exitAtomic failed).connection.callbacks,
      callback ∈ after.connection.callbacks := fun callback hwaits =>
    ((runOnCommit_exit_sublist after.connection failed).map Prod.snd).subset hwaits
  have hrecorded : ∀ callback, (after.exitAtomic failed).Recorded callback →
      after.Recorded callback := fun callback hrecorded =>
    hrecorded.imp_left (hwaiting callback)
  have hentry : (context.enterAtomic savepoint).connection.callbacks =
      context.connection.callbacks := by
    rw [Connection.callbacks, enterAtomic, runOnCommit_enter]
    rfl
  constructor
  case opened =>
    exact ⟨hkeeps.inAtomicBlock.trans h.inAtomicBlock, bounded_exit hbody.opened.bounded failed,
      hbody.opened.callbacks.sublist ((runOnCommit_exit_sublist _ failed).map Prod.snd),
      hbody.opened.pending⟩
  case extended => exact ⟨hkeeps, hbody.extended.coalescing, hbody.extended.pending⟩
  case standing =>
    intro callback hmem
    split at hmem
    next => cases hmem
    next hlost =>
      refine (hbody.standing callback hmem).imp_left fun hwaits => ?_
      have hkept : (after.connection.exit failed).runOnCommit = after.connection.runOnCommit :=
        runOnCommit_exit hopen (by rw [hown, hbody.marked]; simpa using hlost)
      show callback ∈ (after.connection.exit failed).callbacks
      rw [Connection.callbacks, hkept]
      exact hwaits
  case requested =>
    intro callback hcallback
    rcases hbody.requested callback (hrecorded callback hcallback) with hbefore | hmem
    · exact .inl (hbefore.imp_left fun hwaits => hentry ▸ hwaits)
    · exact .inr hmem
  case collected =>
    intro hsome key hwaits
    exact hentry ▸ hbody.collected hsome key (hwaiting _ hwaits)
  case marked =>
    rw [exitAtomic]
    dsimp only
    rw [needsRollback_exit hopen, hown, hbody.marked]

theorem performs_coalesce (h : context.Open) {body : SchedulingContext → SchedulingContext}
    {standing requests : List CommitCallback} {marked : Bool}
    (hbody : ∀ start : SchedulingContext, start.Open → start.connection = context.connection →
      Performs start (body start) standing requests marked) :
    Performs context (context.coalesceDiscoveryScheduling body) standing requests marked := by
  rw [coalesceDiscoveryScheduling]
  split
  next => exact hbody context h rfl
  next hpending =>
    have hstart := hbody { context with pending := some [] }
      ⟨h.inAtomicBlock, h.bounded, h.callbacks, List.nodup_nil⟩ rfl
    generalize hafter : body { context with pending := some [] } = after at hstart
    have hclosed : Open { after with pending := none } :=
      ⟨hstart.opened.inAtomicBlock, hstart.opened.bounded, hstart.opened.callbacks, List.nodup_nil⟩
    have hflush := performs_flush (after.pending.getD []) hclosed rfl
    have hcollected : ∀ callback, after.Recorded callback →
        Recorded callback ((after.pending.getD []).foldl
          (fun context key => context.registerDiscoveryOnCommit key)
          { after with pending := none }) := by
      rintro callback (hwaits | ⟨key, hkey, rfl⟩)
      · exact hflush.extended.recorded (.inl hwaits)
      · exact hflush.standing _ (List.mem_map_of_mem hkey)
    constructor
    case opened => exact hflush.opened
    case extended =>
      refine ⟨hstart.extended.connection.trans hflush.extended.connection,
        hflush.extended.coalescing.trans (by rw [hpending]), fun key hkey => ?_⟩
      rw [hpending] at hkey
      cases hkey
    case standing => exact fun callback hmem => hcollected callback (hstart.standing callback hmem)
    case requested =>
      intro callback hrecorded
      have hbefore : after.Recorded callback := by
        rcases hflush.requested callback hrecorded with (hwaits | ⟨key, hkey, -⟩) | hmem
        · exact .inl hwaits
        · cases hkey
        · obtain ⟨key, hkey, rfl⟩ := List.mem_map.mp hmem
          exact .inr ⟨key, hkey, rfl⟩
      rcases hstart.requested callback hbefore with (hwaits | ⟨key, hkey, -⟩) | hmem
      · exact .inl (.inl hwaits)
      · cases hkey
      · exact .inr hmem
    case collected => exact fun hsome => by rw [hpending] at hsome; cases hsome
    case marked => exact hflush.marked.trans hstart.marked

/-- The code of a transaction: the induction follows its blocks. -/
theorem run_performs (program : SchedulingProgram) : ∀ {context : SchedulingContext}, context.Open →
    Performs context (program.run context)
      (program.standing context.connection.needsRollback) program.requests
      (program.marksRollback context.connection.needsRollback) := by
  induction program with
  | done => exact fun h => .refl h
  | schedule key rest ih =>
      intro context h
      have hhead := performs_schedule h key
      have hrest := ih hhead.opened
      rw [hhead.marked] at hrest
      exact hhead.trans hrest
  | statusChange chassisId rest ih =>
      intro context h
      have hhead := performs_statusBroadcast h chassisId
      have hrest := ih hhead.opened
      rw [hhead.marked] at hrest
      exact hhead.trans hrest
  | atomic savepoint body failed rest ihBody ihRest =>
      intro context h
      have hbody := ihBody (open_enterAtomic h savepoint)
      rw [enterAtomic, needsRollback_enter] at hbody
      have hhead := performs_atomic h hbody failed
      have hrest := ihRest hhead.opened
      rw [hhead.marked] at hrest
      exact hhead.trans hrest
  | coalesce body rest ihBody ihRest =>
      intro context h
      have hhead := performs_coalesce h fun start hstart heq => by
        have hbody := ihBody hstart
        rw [heq] at hbody
        exact hbody
      have hrest := ihRest hhead.opened
      rw [hhead.marked] at hrest
      exact hhead.trans hrest

end Run

/-- A thread outside of transactions that collects no schedules. -/
def idle (nextSavepoint : Nat) (executed : List CommitCallback) : SchedulingContext where
  connection := .autocommit nextSavepoint executed
  pending := none

/-- Registering outside of a transaction runs the callbacks at once. -/
theorem executed_flush (keys : List DiscoveryKey) : ∀ {context : SchedulingContext},
    context.connection.inAtomicBlock = false → context.connection.runOnCommit = [] →
    (keys.foldl (fun context key => context.registerDiscoveryOnCommit key)
        context).connection.executed =
      context.connection.executed ++ keys.map .discovery := by
  induction keys with
  | nil =>
      intro context _ _
      rw [List.map_nil, List.append_nil]
      rfl
  | cons key keys ih =>
      intro context hatomic hnone
      have hregister := onCommitOnce_autocommit hatomic hnone (.discovery key)
      rw [List.foldl_cons, ih, registerDiscoveryOnCommit, hregister, List.map_cons,
        List.append_assoc, List.singleton_append]
      · rw [registerDiscoveryOnCommit, hregister]
        exact hatomic
      · rw [registerDiscoveryOnCommit, hregister]
        exact hnone

end SchedulingContext

namespace SchedulingProgram

open SchedulingContext

/-- A transaction around the code, possibly inside of a coalescing. -/
def transaction (coalesced savepoint : Bool) (body : SchedulingProgram) (failed : Bool) :
    SchedulingProgram :=
  let block := atomic savepoint body failed .done
  if coalesced then coalesce block .done else block

/-- The transaction around the code commits. -/
def commits (body : SchedulingProgram) (failed : Bool) : Bool :=
  !failed && !body.marksRollback false

section Transaction

variable (body : SchedulingProgram) (savepoint failed : Bool) (nextSavepoint : Nat)
  (earlier : List CommitCallback) (pending : Option (List DiscoveryKey))

theorem open_transaction (hpending : (pending.getD []).Nodup) :
    Open (enterAtomic savepoint ⟨.autocommit nextSavepoint earlier, pending⟩) where
  inAtomicBlock := rfl
  bounded := ⟨fun _ hsid => (by cases hsid), fun _ hentry => by cases hentry⟩
  callbacks := List.nodup_nil
  pending := hpending

/-- The outermost block: what the body left waiting runs if the transaction commits. -/
theorem transaction_ends (hpending : (pending.getD []).Nodup) :
    let start : SchedulingContext := ⟨.autocommit nextSavepoint earlier, pending⟩
    let ended := body.run (start.enterAtomic savepoint)
    Performs (start.enterAtomic savepoint) ended (body.standing false) body.requests
        (body.marksRollback false) ∧
      (ended.exitAtomic failed).connection.inAtomicBlock = false ∧
      (ended.exitAtomic failed).connection.runOnCommit = [] ∧
      (ended.exitAtomic failed).connection.executed =
        earlier ++ if body.commits failed then ended.connection.callbacks else [] := by
  intro start ended
  have hbody : Performs (start.enterAtomic savepoint) ended (body.standing false) body.requests
      (body.marksRollback false) :=
    run_performs body (open_transaction savepoint nextSavepoint earlier pending hpending)
  have hopen : ended.connection.savepointIds = [] := hbody.extended.connection.savepointIds
  have hexecuted : ended.connection.executed = earlier := hbody.extended.connection.executed
  refine ⟨hbody, ?_⟩
  rw [exitAtomic, Connection.exit, hopen, commits, hbody.marked]
  dsimp only
  split
  next =>
    exact ⟨rfl, rfl, by rw [hexecuted]; rfl⟩
  next =>
    exact ⟨rfl, rfl, by rw [hexecuted, List.append_nil]⟩

end Transaction

theorem requested_start {nextSavepoint : Nat} {earlier : List CommitCallback} {savepoint : Bool}
    {pending : Option (List DiscoveryKey)} {ended : SchedulingContext}
    {standing requests : List CommitCallback} {marked : Bool}
    (hbody : Performs (enterAtomic savepoint ⟨.autocommit nextSavepoint earlier, pending⟩) ended
      standing requests marked)
    (hpending : pending.getD [] = []) {callback : CommitCallback}
    (hrecorded : ended.Recorded callback) :
    callback ∈ requests := by
  rcases hbody.requested callback hrecorded with (hwaits | ⟨key, hkey, -⟩) | hmem
  · cases hwaits
  · rw [enterAtomic, hpending] at hkey
    cases hkey
  · exact hmem

section Commit

variable (savepoint failed : Bool) (body : SchedulingProgram) (nextSavepoint : Nat)
  (earlier : List CommitCallback)

/-- What a run leaves executed behind `earlier`: each requested callback at most once, and after a
commit each one requested in a scope that was not rolled back. -/
def RunsOnCommit (after : SchedulingContext) : Prop :=
  ∃ ran, after.connection.executed = earlier ++ ran ∧ ran.Nodup ∧
    (∀ callback ∈ ran, callback ∈ body.requests) ∧
    (body.commits failed = true → ∀ callback ∈ body.standing false, callback ∈ ran)

theorem runsOnCommit_transaction : RunsOnCommit failed body earlier
    ((transaction false savepoint body failed).run (idle nextSavepoint earlier)) := by
  obtain ⟨hbody, -, -, hexecuted⟩ :=
    transaction_ends body savepoint failed nextSavepoint earlier none List.nodup_nil
  have hpending := Option.not_isSome_iff_eq_none.mp fun hsome =>
    Bool.false_ne_true (hbody.extended.coalescing.symm.trans hsome)
  refine ⟨_, hexecuted, ?_, fun callback hran => ?_, fun hcommits callback hmem => ?_⟩
  · split
    next => exact hbody.opened.callbacks
    next => exact List.nodup_nil
  · split at hran
    next => exact requested_start hbody rfl (.inl hran)
    next => cases hran
  · rw [if_pos hcommits]
    rcases hbody.standing callback hmem with hwaits | ⟨key, hkey, -⟩
    · exact hwaits
    · rw [hpending] at hkey
      cases hkey

theorem runsOnCommit_coalesced : RunsOnCommit failed body earlier
    ((transaction true savepoint body failed).run (idle nextSavepoint earlier)) := by
  obtain ⟨hbody, hatomic, hnone, hexecuted⟩ :=
    transaction_ends body savepoint failed nextSavepoint earlier (some []) List.nodup_nil
  generalize hended : body.run (enterAtomic savepoint
    ⟨.autocommit nextSavepoint earlier, some []⟩) = ended at hbody hatomic hnone hexecuted
  have hran : ((transaction true savepoint body failed).run
      (idle nextSavepoint earlier)).connection.executed =
        (ended.exitAtomic failed).connection.executed ++ (ended.pending.getD []).map .discovery := by
    rw [← hended] at hatomic hnone ⊢
    exact executed_flush _ hatomic hnone
  have hseparate : ∀ key, .discovery key ∉ ended.connection.callbacks := by
    intro key hwaits
    have hbefore := hbody.collected rfl key hwaits
    cases hbefore
  have hcollected : ((ended.pending.getD []).map CommitCallback.discovery).Nodup :=
    hbody.opened.pending.map fun _ _ => CommitCallback.discovery.inj
  rw [hexecuted, List.append_assoc] at hran
  refine ⟨_, hran, ?_, fun callback hran => ?_, fun hcommits callback hmem => ?_⟩
  · split
    next =>
      refine hbody.opened.callbacks.append hcollected fun callback hwaits hmem => ?_
      obtain ⟨key, -, rfl⟩ := List.mem_map.mp hmem
      exact hseparate key hwaits
    next => exact hcollected
  · rcases List.mem_append.mp hran with hwaits | hmem
    · split at hwaits
      next => exact requested_start hbody rfl (.inl hwaits)
      next => cases hwaits
    · obtain ⟨key, hkey, rfl⟩ := List.mem_map.mp hmem
      exact requested_start hbody rfl (.inr ⟨key, hkey, rfl⟩)
  · rw [if_pos hcommits]
    rcases hbody.standing callback hmem with hwaits | ⟨key, hkey, rfl⟩
    · exact List.mem_append_left _ hwaits
    · exact List.mem_append_right _ (List.mem_map_of_mem hkey)

/-- After the end of a transaction each callback it requested has run at most once, and if it commits,
each one requested in a scope that was not rolled back has. -/
theorem on_commit_scheduling (coalesced : Bool) :
    ∃ ran, ((transaction coalesced savepoint body failed).run
        (idle nextSavepoint earlier)).connection.executed = earlier ++ ran ∧
      ran.Nodup ∧ (∀ callback ∈ ran, callback ∈ body.requests) ∧
      (body.commits failed = true → ∀ callback ∈ body.standing false, callback ∈ ran) := by
  cases coalesced with
  | false => exact runsOnCommit_transaction savepoint failed body nextSavepoint earlier
  | true => exact runsOnCommit_coalesced savepoint failed body nextSavepoint earlier

end Commit

/-- A request made again after its savepoint was rolled back runs once. -/
example :
    ((transaction false true (atomic true (schedule ⟨1, true, false⟩ .done) true
      (schedule ⟨1, true, false⟩ .done)) false).run (idle 0 [])).connection.executed =
        [.discovery ⟨1, true, false⟩] := by
  decide

end SchedulingProgram

end Micboard
