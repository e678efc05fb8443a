import Micboard.AlertEvaluation

/-! Which deliveries a sequence of alert runs attempts. A delivery is claimed before the alert turns
out to be a repetition, and a page that takes all recipients always lists them in the same order:
what a unit asks for beyond the budget is the same tail in every run. While every unit that a run
reaches fits into what is left of the budget, the unit cursor brings all of them round. -/

namespace Micboard

open Library.Budget AlertFanoutService AlertDeliveryService AlertManager PollAlertService

/-- The recipient of a request is in scope, the unit has a channel and the assignment stands. -/
def isEligible (users : AlertUsers) (unit : WirelessUnit) (request : AlertRequest) : Bool :=
  recipientHasUnitScope users unit request.user && unit.assignedResource.isSome &&
    currentAuthorizedRecipient users unit request.assignment request.user

def attemptOf (unit : WirelessUnit) (request : AlertRequest) : DeliveryAttempt :=
  ⟨unit.pk, request.user, request.alertType⟩

/-- What deliveries do to a run: they add attempts, use up the delivery budget by as many, and mark
it as truncated only when it is used up. -/
structure Delivered (before after : AlertRun) (made : List DeliveryAttempt) : Prop where
  attempts : after.attempts = before.attempts ++ made
  fanout : after.state.fanout = before.state.fanout
  budget : ∃ truncated, after.budget =
    { before.budget with
      deliveryAttempts := before.budget.deliveryAttempts + made.length
      deliveriesTruncated := truncated } ∧
    (truncated = true → before.budget.deliveriesTruncated = true ∨
      after.budget.remainingDeliveries = 0)

section Deliveries

variable {env : AlertEnvironment} {unit : WirelessUnit}

theorem Delivered.refl (run : AlertRun) : Delivered run run [] := by
  refine ⟨(List.append_nil _).symm, rfl, _, rfl, .inl⟩

theorem Delivered.remaining {before after : AlertRun} {made : List DeliveryAttempt}
    (h : Delivered before after made) :
    after.budget.remainingDeliveries = before.budget.remainingDeliveries - made.length := by
  obtain ⟨truncated, hbudget, -⟩ := h.budget
  rw [hbudget]
  exact Nat.sub_add_eq ..

theorem Delivered.trans {first second third : AlertRun} {made more : List DeliveryAttempt}
    (h : Delivered first second made) (hmore : Delivered second third more) :
    Delivered first third (made ++ more) := by
  obtain ⟨truncated, hbudget, hflag⟩ := h.budget
  obtain ⟨truncated', hbudget', hflag'⟩ := hmore.budget
  refine ⟨?_, hmore.fanout.trans h.fanout, truncated', ?_, fun htruncated => ?_⟩
  · rw [hmore.attempts, h.attempts, List.append_assoc]
  · rw [hbudget', hbudget, List.length_append, ← Nat.add_assoc]
  · rcases hflag' htruncated with hbefore | hnone
    · rw [hbudget] at hbefore
      refine (hflag hbefore).imp id fun hnone => ?_
      rw [hmore.remaining, hnone, Nat.zero_sub]
    · exact .inr hnone

theorem createAlert_delivered (run : AlertRun) (request : AlertRequest) :
    Delivered run (createAlert env unit run request)
      (if isEligible env.users unit request ∧ 0 < run.budget.remainingDeliveries then
        [attemptOf unit request] else []) := by
  rw [createAlert]
  split
  next hscope =>
    split
    next hnone =>
      rw [if_neg fun h => absurd hnone h.2.ne']
      exact ⟨(List.append_nil _).symm, rfl, true, rfl, fun _ => .inr hnone⟩
    next hleft =>
      rw [createScopedAlert]
      split
      next hchannel =>
        rw [if_neg fun h => by simp [isEligible, hchannel] at h]
        exact .refl run
      next channel hchannel =>
        split
        next hauthorized =>
          have heligible : isEligible env.users unit request = true := by
            simp only [isEligible, hscope, hchannel, hauthorized, Option.isSome_some, Bool.and_self]
          rw [if_pos ⟨heligible, Nat.pos_of_ne_zero hleft⟩,
            AlertFanoutBudget.claimDelivery, if_neg hleft]
          exact ⟨rfl, rfl, _, rfl, .inl⟩
        next hauthorized =>
          rw [if_neg fun h => by simp [isEligible, hauthorized] at h]
          exact .refl run
  next hscope =>
    rw [if_neg fun h => by simp [isEligible, hscope] at h]
    exact .refl run

/-- Requests are delivered in their order, as far as the budget goes. -/
theorem foldl_createAlert_delivered (requests : List AlertRequest) (run : AlertRun) :
    Delivered run (requests.foldl (createAlert env unit) run)
      (((requests.filter (isEligible env.users unit)).take run.budget.remainingDeliveries).map
        (attemptOf unit)) := by
  induction requests generalizing run with
  | nil =>
      rw [List.filter_nil, List.take_nil]
      exact .refl run
  | cons request rest ih =>
      have hfirst := @createAlert_delivered env unit run request
      have hrest := ih (createAlert env unit run request)
      have hleft := hfirst.remaining
      rw [List.foldl_cons]
      cases heligible : isEligible env.users unit request with
      | false =>
          rw [List.filter_cons_of_neg (by simp [heligible])]
          rw [if_neg (by simp [heligible])] at hfirst hleft
          rw [hleft] at hrest
          exact hfirst.trans hrest
      | true =>
          rw [List.filter_cons_of_pos heligible]
          by_cases hnone : run.budget.remainingDeliveries = 0
          · rw [if_neg fun h => absurd hnone h.2.ne'] at hfirst hleft
            rw [hleft, List.length_nil, hnone, Nat.sub_zero, List.take_zero] at hrest
            rw [hnone, List.take_zero]
            exact hfirst.trans hrest
          · rw [if_pos ⟨heligible, Nat.pos_of_ne_zero hnone⟩] at hfirst hleft
            obtain ⟨left, hleft'⟩ := Nat.exists_eq_succ_of_ne_zero hnone
            rw [hleft, List.length_singleton, hleft', Nat.succ_sub_one] at hrest
            rw [hleft', List.take_succ_cons, List.map_cons]
            exact hfirst.trans hrest

end Deliveries

structure AlertCapacity where
  assignments : Nat
  recipients : Nat
  deliveries : Nat
  deriving DecidableEq, Repr

namespace AlertCapacity

def add (first second : AlertCapacity) : AlertCapacity where
  assignments := first.assignments + second.assignments
  recipients := first.recipients + second.recipients
  deliveries := first.deliveries + second.deliveries

def sub (left cost : AlertCapacity) : AlertCapacity where
  assignments := left.assignments - cost.assignments
  recipients := left.recipients - cost.recipients
  deliveries := left.deliveries - cost.deliveries

def Covers (left cost : AlertCapacity) : Prop :=
  cost.assignments ≤ left.assignments ∧ cost.recipients ≤ left.recipients ∧
    cost.deliveries ≤ left.deliveries

/-- One of the limits is used up. -/
def Exhausted (left : AlertCapacity) : Prop :=
  left.assignments = 0 ∨ left.recipients = 0 ∨ left.deliveries = 0

end AlertCapacity

def AlertFanoutBudget.left (budget : AlertFanoutBudget) : AlertCapacity where
  assignments := budget.remainingAssignments
  recipients := budget.remainingRecipients
  deliveries := budget.remainingDeliveries

theorem exhausted_iff {budget : AlertFanoutBudget} :
    budget.exhausted = true ↔ budget.left.Exhausted := by
  simp only [AlertFanoutBudget.exhausted, Bool.or_eq_true, decide_eq_true_eq, or_assoc,
    AlertCapacity.Exhausted, AlertFanoutBudget.left]

/-- The assignments that a scope has for a unit; none unless its conditions hold. -/
def scopeAssignments (unit : WirelessUnit) (scope : AlertScope) : List PerformerAssignment :=
  if isChecked unit scope then assignmentRows unit scope else []

/-- The eligible alerts of a unit in a scope: those of every recipient of every assignment. -/
def scopeRequests (users : AlertUsers) (unit : WirelessUnit) (scope : AlertScope) : List AlertRequest :=
  (requests users unit scope (scopeAssignments unit scope)
    (recipientRows users (scopeAssignments unit scope))).filter (isEligible users unit)

def scopeCost (users : AlertUsers) (unit : WirelessUnit) (scope : AlertScope) : AlertCapacity where
  assignments := (scopeAssignments unit scope).length
  recipients := (recipientRows users (scopeAssignments unit scope)).length
  deliveries := (scopeRequests users unit scope).length

def unitCost (users : AlertUsers) (unit : WirelessUnit) : AlertCapacity :=
  (scopeCost users unit .transmitter).add (scopeCost users unit .offline)

/-- What a step of a run does that evaluates everything it should: it adds attempts, uses up a cost,
and marks the budget as truncated only when it is used up. -/
structure Spends (before after : AlertRun) (cost : AlertCapacity)
    (made : List DeliveryAttempt) : Prop where
  attempts : after.attempts = before.attempts ++ made
  left : after.budget.left = before.budget.left.sub cost
  truncated : after.budget.truncated = true →
    before.budget.truncated = true ∨ after.budget.left.Exhausted

section Cost

variable {env : AlertEnvironment} {unit : WirelessUnit} {scope : AlertScope}

theorem Spends.trans {first second third : AlertRun} {cost more : AlertCapacity}
    {made later : List DeliveryAttempt} (h : Spends first second cost made)
    (hmore : Spends second third more later) :
    Spends first third (cost.add more) (made ++ later) := by
  refine ⟨?_, ?_, fun htruncated => ?_⟩
  · rw [hmore.attempts, h.attempts, List.append_assoc]
  · rw [hmore.left, h.left]
    simp only [AlertCapacity.sub, AlertCapacity.add, Nat.sub_sub]
  · rcases hmore.truncated htruncated with hbefore | hnone
    · refine (h.truncated hbefore).imp id fun hnone => ?_
      rw [hmore.left]
      simp only [AlertCapacity.Exhausted, AlertCapacity.sub] at hnone ⊢
      omega
    · exact .inr hnone

/-- Deliveries use up as much of the delivery budget as they are. -/
theorem Delivered.spends {before after : AlertRun} {made : List DeliveryAttempt}
    (h : Delivered before after made) : Spends before after ⟨0, 0, made.length⟩ made := by
  have hremaining := h.remaining
  obtain ⟨truncated, hbudget, hflag⟩ := h.budget
  refine ⟨h.attempts, ?_, fun htruncated => ?_⟩
  · rw [AlertFanoutBudget.left, hremaining, hbudget]
    rfl
  · simp only [hbudget, AlertFanoutBudget.truncated, Bool.or_eq_true] at htruncated
    rcases htruncated with hpages | hdeliveries
    · exact .inl (by simp only [AlertFanoutBudget.truncated, Bool.or_eq_true, hpages, true_or])
    · refine (hflag hdeliveries).imp (fun hbefore => ?_) fun hnone => .inr (.inr hnone)
      simp only [AlertFanoutBudget.truncated, hbefore, Bool.or_true]

/-- Pages that hold the same rows ask for the same alerts. -/
theorem requests_perm {users : AlertUsers} {assignments others : List PerformerAssignment}
    {recipients pairs : List RecipientPair} (hassignments : assignments.Perm others)
    (hrecipients : recipients.Perm pairs) :
    (requests users unit scope assignments recipients).Perm
      (requests users unit scope others pairs) := by
  refine (hassignments.flatMap_right _).trans (List.Perm.flatMap_left _ fun assignment _ => ?_)
  exact ((hrecipients.filter _).map _).flatMap_right _

theorem assignmentsForUnit_fits {run : AlertRun} {cursors : FanoutCursors}
    (hfits : (assignmentRows unit scope).length ≤ run.budget.remainingAssignments) :
    let page := assignmentsForUnit unit scope cursors run.budget
    page.1.Perm (assignmentRows unit scope) ∧ ∀ state,
      Spends run { run with state := state, budget := page.2.2 }
        ⟨(assignmentRows unit scope).length, 0, 0⟩ [] := by
  intro page
  have hperm : page.1.Perm (assignmentRows unit scope) := by
    have hcircular := circular_perm PerformerAssignment.pk (cursors.assignment (scope, unit.pk))
      (assignmentRows unit scope)
    rw [assignmentsForUnit_items, turn, List.take_of_length_le (hcircular.length_eq.trans_le hfits)]
    exact hcircular
  refine ⟨hperm, fun state => ?_⟩
  have hcount := hperm.length_eq
  simp only [page, assignmentsForUnit] at hcount ⊢
  split at hcount
  next hnone =>
    rw [if_pos hnone]
    refine ⟨(List.append_nil _).symm, ?_, fun _ => .inr (.inl hnone)⟩
    rw [← hcount]
    rfl
  next hleft =>
    rw [if_neg hleft]
    refine ⟨(List.append_nil _).symm, ?_, ?_⟩
    · rw [← hcount]
      simp only [AlertFanoutBudget.left, AlertFanoutBudget.recordAssignments, AlertCapacity.sub,
        AlertFanoutBudget.remainingAssignments, AlertFanoutBudget.remainingRecipients,
        AlertFanoutBudget.remainingDeliveries, Nat.sub_add_eq, Nat.sub_zero]
    · rw [rotatingPage_truncated, decide_eq_false (Nat.not_lt.mpr hfits)]
      intro htruncated
      exact .inl (by simpa only [AlertFanoutBudget.truncated, AlertFanoutBudget.recordAssignments,
        Bool.or_false] using htruncated)

theorem recipientsForAssignments_fits {users : AlertUsers} {assignments : List PerformerAssignment}
    {run : AlertRun} {cursors : FanoutCursors}
    (hfits : (recipientRows users assignments).length ≤ run.budget.remainingRecipients) :
    let page := recipientsForAssignments users unit assignments scope cursors run.budget
    page.1.Perm (recipientRows users assignments) ∧ ∀ state,
      Spends run { run with state := state, budget := page.2.2 }
        ⟨0, (recipientRows users assignments).length, 0⟩ [] := by
  intro page
  have hperm : page.1.Perm (recipientRows users assignments) := by
    have hcircular := circular_perm (fun pair : RecipientPair => toLex pair)
      (cursors.recipient (scope, unit.pk)) (recipientRows users assignments)
    rw [recipientsForAssignments_pairs, turn,
      List.take_of_length_le (hcircular.length_eq.trans_le hfits)]
    exact hcircular
  refine ⟨hperm, fun state => ?_⟩
  have hcount := hperm.length_eq
  simp only [page, recipientsForAssignments] at hcount ⊢
  split at hcount
  next hnone =>
    rw [if_pos hnone]
    refine ⟨(List.append_nil _).symm, ?_, fun _ => .inr (.inr (.inl hnone))⟩
    rw [← hcount]
    rfl
  next hleft =>
    rw [if_neg hleft]
    refine ⟨(List.append_nil _).symm, ?_, ?_⟩
    · rw [← hcount]
      split
      next => rfl
      next =>
        simp only [AlertFanoutBudget.left, AlertFanoutBudget.recordRecipients, AlertCapacity.sub,
          AlertFanoutBudget.remainingAssignments, AlertFanoutBudget.remainingRecipients,
          AlertFanoutBudget.remainingDeliveries, Nat.sub_add_eq, Nat.sub_zero]
    · split
      next => exact .inl
      next =>
        rw [rotatingPage_truncated, decide_eq_false (Nat.not_lt.mpr hfits)]
        intro htruncated
        exact .inl (by simpa only [AlertFanoutBudget.truncated, AlertFanoutBudget.recordRecipients,
          Bool.or_false] using htruncated)

/-- A scope whose pages and deliveries fit is evaluated completely. -/
theorem fanOut_spends (run : AlertRun) (hchecked : isChecked unit scope = true)
    (hfits : run.budget.left.Covers (scopeCost env.users unit scope)) :
    ∃ made, Spends run (fanOut env unit scope run) (scopeCost env.users unit scope) made ∧
      made.Perm ((scopeRequests env.users unit scope).map (attemptOf unit)) := by
  have hrows : scopeAssignments unit scope = assignmentRows unit scope := if_pos hchecked
  rw [scopeCost, scopeRequests, hrows] at hfits ⊢
  obtain ⟨hassignmentsFit, hrecipientsFit, hdeliveriesFit⟩ := hfits
  obtain ⟨hassignments, hfirst⟩ :=
    @assignmentsForUnit_fits unit scope run run.state.fanout hassignmentsFit
  rw [fanOut]
  generalize assignmentsForUnit unit scope run.state.fanout run.budget = page at hassignments hfirst ⊢
  obtain ⟨assignments, cursors, budget⟩ := page
  dsimp only at hassignments hfirst ⊢
  have hpairs : (recipientRows env.users assignments).Perm
      (recipientRows env.users (assignmentRows unit scope)) := (hassignments.filter _).flatMap_right _
  have hrecipientsLeft := congrArg AlertCapacity.recipients (hfirst run.state).left
  obtain ⟨hrecipients, hsecond⟩ :=
    @recipientsForAssignments_fits unit scope env.users assignments
      { run with budget := budget } cursors
      (by rw [hpairs.length_eq]; exact hrecipientsFit.trans_eq hrecipientsLeft.symm)
  dsimp only at hrecipients hsecond
  generalize recipientsForAssignments env.users unit assignments scope cursors budget = page
    at hrecipients hsecond ⊢
  obtain ⟨recipients, cursors', budget'⟩ := page
  dsimp only at hrecipients hsecond ⊢
  have hdelivered := @foldl_createAlert_delivered env unit
    (requests env.users unit scope assignments recipients)
    { run with state := { run.state with fanout := cursors' }, budget := budget' }
  have hall := (@requests_perm unit scope env.users assignments (assignmentRows unit scope) recipients
    (recipientRows env.users (assignmentRows unit scope)) hassignments
    (hrecipients.trans hpairs)).filter (isEligible env.users unit)
  have hpages := (hfirst run.state).trans (hsecond { run.state with fanout := cursors' })
  have hdeliveriesLeft := congrArg AlertCapacity.deliveries hpages.left
  rw [List.take_of_length_le (by
    rw [hall.length_eq]
    exact hdeliveriesFit.trans_eq hdeliveriesLeft.symm)] at hdelivered
  have hspends := hpages.trans hdelivered.spends
  refine ⟨_, ?_, hall.map _⟩
  rw [List.length_map, hall.length_eq, hpairs.length_eq] at hspends
  simpa only [AlertCapacity.add, Nat.add_zero, Nat.zero_add, List.nil_append] using hspends

theorem check_spends (run : AlertRun) (scope : AlertScope)
    (hfits : run.budget.left.Covers (scopeCost env.users unit scope)) :
    ∃ made, Spends run (if isChecked unit scope then fanOut env unit scope run else run)
        (scopeCost env.users unit scope) made ∧
      made.Perm ((scopeRequests env.users unit scope).map (attemptOf unit)) := by
  by_cases hchecked : isChecked unit scope = true
  · rw [if_pos hchecked]
    exact fanOut_spends run hchecked hfits
  · have hnone : scopeAssignments unit scope = [] := if_neg hchecked
    rw [if_neg hchecked, scopeCost, scopeRequests, hnone]
    exact ⟨[], ⟨(List.append_nil _).symm, rfl, .inl⟩, .refl _⟩

end Cost

def unitRequests (users : AlertUsers) (unit : WirelessUnit) : List AlertRequest :=
  scopeRequests users unit .transmitter ++ scopeRequests users unit .offline

/-- Units that fit one after the other into what is left, until one of the limits is used up. -/
def Fits (users : AlertUsers) : AlertCapacity → List WirelessUnit → Prop
  | _, [] => True
  | left, unit :: rest => left.Covers (unitCost users unit) ∧
      (¬ (left.sub (unitCost users unit)).Exhausted → Fits users (left.sub (unitCost users unit)) rest)

section Scan

variable {env : AlertEnvironment} {unit : WirelessUnit} {transmitterFirst : Bool}

theorem AlertCapacity.Covers.split {left first second : AlertCapacity}
    (h : left.Covers (first.add second)) : left.Covers first ∧ (left.sub first).Covers second := by
  simp only [Covers, add, sub] at h ⊢
  omega

theorem AlertCapacity.add_comm (first second : AlertCapacity) : first.add second =
    second.add first := by
  simp only [add, Nat.add_comm]

theorem evaluateUnit_spends (run : AlertRun)
    (hfits : run.budget.left.Covers (unitCost env.users unit)) :
    ∃ made, Spends run (evaluateUnit env transmitterFirst run unit) (unitCost env.users unit) made ∧
      ∀ request ∈ unitRequests env.users unit, attemptOf unit request ∈ made := by
  have hmade : ∀ {first second : List DeliveryAttempt},
      first.Perm ((scopeRequests env.users unit .transmitter).map (attemptOf unit)) →
      second.Perm ((scopeRequests env.users unit .offline).map (attemptOf unit)) →
      ∀ request ∈ unitRequests env.users unit,
        attemptOf unit request ∈ first ∨ attemptOf unit request ∈ second := by
    intro first second hfirst hsecond request hrequest
    exact (List.mem_append.mp hrequest).imp
      (fun h => hfirst.mem_iff.mpr (List.mem_map_of_mem h))
      fun h => hsecond.mem_iff.mpr (List.mem_map_of_mem h)
  cases transmitterFirst with
  | true =>
      obtain ⟨hfirst, hsecond⟩ := hfits.split
      obtain ⟨made, hspends, hperm⟩ := check_spends run .transmitter hfirst
      obtain ⟨more, hmore, hperm'⟩ := check_spends _ .offline (hspends.left ▸ hsecond)
      have hboth := hspends.trans hmore
      refine ⟨made ++ more, ⟨hboth.attempts, hboth.left, hboth.truncated⟩, fun request hrequest => ?_⟩
      exact List.mem_append.mpr (hmade hperm hperm' request hrequest)
  | false =>
      rw [unitCost, AlertCapacity.add_comm] at hfits ⊢
      obtain ⟨hfirst, hsecond⟩ := hfits.split
      obtain ⟨made, hspends, hperm⟩ := check_spends run .offline hfirst
      obtain ⟨more, hmore, hperm'⟩ := check_spends _ .transmitter (hspends.left ▸ hsecond)
      have hboth := hspends.trans hmore
      refine ⟨made ++ more, ⟨hboth.attempts, hboth.left, hboth.truncated⟩, fun request hrequest => ?_⟩
      exact List.mem_append.mpr (hmade hperm' hperm request hrequest).symm

/-- Every unit that a scan reaches is served completely while the units fit. -/
theorem scanUnits_attempts (units : List WirelessUnit) (run : AlertRun)
    (hbudget : run.budget.truncated = false) (hfits : Fits env.users run.budget.left units) :
    (∀ attempt ∈ run.attempts, attempt ∈ (scanUnits env transmitterFirst units run).2.attempts) ∧
      ∀ unit ∈ (scanUnits env transmitterFirst units run).1, ∀ request ∈ unitRequests env.users unit,
        attemptOf unit request ∈ (scanUnits env transmitterFirst units run).2.attempts := by
  induction units generalizing run with
  | nil => exact ⟨fun _ => id, fun unit hunit => nomatch hunit⟩
  | cons unit rest ih =>
      obtain ⟨hunit, hrest⟩ := hfits
      obtain ⟨made, hspends, hmade⟩ :=
        @evaluateUnit_spends env unit transmitterFirst run hunit
      have hkept : ∀ attempt ∈ run.attempts,
          attempt ∈ (evaluateUnit env transmitterFirst run unit).attempts := by
        intro attempt hattempt
        rw [hspends.attempts]
        exact List.mem_append_left _ hattempt
      have hserved : ∀ request ∈ unitRequests env.users unit,
          attemptOf unit request ∈ (evaluateUnit env transmitterFirst run unit).attempts := by
        intro request hrequest
        rw [hspends.attempts]
        exact List.mem_append_right _ (hmade request hrequest)
      rw [scanUnits]
      split
      next =>
        refine ⟨hkept, fun found hfound => ?_⟩
        rw [List.mem_singleton.mp hfound]
        exact hserved
      next hgoes =>
        rw [Bool.or_eq_true, not_or, Bool.not_eq_true, exhausted_iff] at hgoes
        obtain ⟨hkept', hserved'⟩ := ih (evaluateUnit env transmitterFirst run unit) hgoes.1
          (hspends.left ▸ hrest (hspends.left ▸ hgoes.2))
        generalize scanUnits env transmitterFirst rest (evaluateUnit env transmitterFirst run unit) =
          later at hkept' hserved' ⊢
        obtain ⟨scanned, run'⟩ := later
        refine ⟨fun attempt hattempt => hkept' _ (hkept attempt hattempt), fun found hfound => ?_⟩
        rcases List.mem_cons.mp hfound with rfl | hfound
        · exact fun request hrequest => hkept' _ (hserved request hrequest)
        · exact hserved' found hfound

end Scan

structure AlertInventory where
  users : AlertUsers
  units : List WirelessUnit
  distinct : (units.map WirelessUnit.pk).Nodup := by decide
  positive : ∀ unit ∈ units, 0 < unit.pk := by decide

section Runs

variable (settings : PollAlertSettings) (inventory : AlertInventory) (clock : Nat → Time)
  (emailFails : Nat → Nat → Bool) (start : AlertState)

/-- The environment of each of consecutive runs: only the clock and the fate of the e-mails change. -/
def environmentAt (i : Nat) : AlertEnvironment := ⟨inventory.users, clock i, emailFails i⟩

/-- The state before each of consecutive runs. -/
def stateBefore : Nat → AlertState
  | 0 => start
  | i + 1 => (evaluateManufacturer settings (environmentAt inventory clock emailFails i) inventory.units
      (stateBefore i)).state

def runAt (i : Nat) : PollAlertScan :=
  evaluateManufacturer settings (environmentAt inventory clock emailFails i) inventory.units
    (stateBefore settings inventory clock emailFails start i)

/-- The units behind the unit cursor, as many as the unit limit takes. -/
def nextUnits (state : AlertState) : List WirelessUnit :=
  (circular WirelessUnit.pk state.unitCursor (candidates inventory.users inventory.units)).take
    (scanLimit settings)

/-- The next units fit one after the other into a fresh budget, until one of its limits is used up. -/
def RunFits (state : AlertState) : Prop :=
  Fits inventory.users (AlertFanoutBudget.fromSettings settings).left
    (nextUnits settings inventory state)

variable {settings inventory clock emailFails start} {unit : WirelessUnit} {request : AlertRequest}

theorem scanLimit_pos (settings : PollAlertSettings) : 0 < scanLimit settings := by
  rw [scanLimit, hardPollAlertMaxUnits]
  omega

theorem candidates_keys : ((candidates inventory.users inventory.units).map WirelessUnit.pk).Nodup :=
  inventory.distinct.sublist (List.filter_sublist.map _)

/-- A unit with an eligible alert has an active recipient. -/
theorem mem_candidates (hunit : unit ∈ inventory.units)
    (h : request ∈ unitRequests inventory.users unit) :
    unit ∈ candidates inventory.users inventory.units := by
  have heligible : isEligible inventory.users unit request = true :=
    (List.mem_append.mp h).elim (fun h => (List.mem_filter.mp h).2) fun h => (List.mem_filter.mp h).2
  simp only [isEligible, currentAuthorizedRecipient, Bool.and_eq_true, List.any_eq_true,
    List.contains_iff_mem] at heligible
  obtain ⟨-, ⟨hactive, assignment, hassignment, ⟨⟨-, hcurrent⟩, hgroup⟩, huser⟩, -⟩ := heligible
  refine List.mem_filter.mpr ⟨hunit, List.any_eq_true.mpr ⟨assignment, hassignment, ?_⟩⟩
  rw [hcurrent, hgroup, Bool.true_and, Bool.true_and]
  exact List.any_eq_true.mpr ⟨request.user, huser, hactive⟩

theorem runAt_scan (i : Nat) :
    ∃ state transmitterFirst, state.unitCursor =
        (stateBefore settings inventory clock emailFails start i).unitCursor ∧
      let scan := scanUnits (environmentAt inventory clock emailFails i) transmitterFirst
        (nextUnits settings inventory (stateBefore settings inventory clock emailFails start i))
        ⟨state, .fromSettings settings, []⟩
      (runAt settings inventory clock emailFails start i).scannedUnits = scan.1 ∧
        (runAt settings inventory clock emailFails start i).attempts = scan.2.attempts ∧
        (stateBefore settings inventory clock emailFails start (i + 1)).unitCursor =
          scan.2.state.unitCursor := by
  have hpositive : ∀ unit ∈ candidates inventory.users inventory.units, 0 < unit.pk :=
    fun unit hunit => inventory.positive unit (List.mem_of_mem_filter hunit)
  have hselect := selectUnits_eq hpositive (scanLimit settings)
    (stateBefore settings inventory clock emailFails start i).unitCursor
  let before := stateBefore settings inventory clock emailFails start i
  refine ⟨if (nextUnits settings inventory before).isEmpty then before
    else { before with transmitterFirst := !before.transmitterFirst },
      before.transmitterFirst, ?_, ?_, ?_, ?_⟩
  · split <;> rfl
  · simp only [runAt, evaluateManufacturer, environmentAt, hselect]
    rfl
  · simp only [runAt, evaluateManufacturer, environmentAt, hselect]
    rfl
  · simp only [stateBefore, evaluateManufacturer, environmentAt, hselect]
    rfl

/-- **Alert runs reach everyone** while the units of every run fit: each eligible alert of each
recipient gets a delivery attempt within as many runs as there are units. -/
theorem alert_runs_reach_everyone
    (hfits : ∀ i, RunFits settings inventory (stateBefore settings inventory clock emailFails start i))
    (hunit : unit ∈ inventory.units) (hrequest : request ∈ unitRequests inventory.users unit) :
    ∃ i < (candidates inventory.users inventory.units).length,
      attemptOf unit request ∈ (runAt settings inventory clock emailFails start i).attempts := by
  have hcandidate := mem_candidates hunit hrequest
  have hvisit : ∀ i, Visit WirelessUnit.pk (candidates inventory.users inventory.units)
      (stateBefore settings inventory clock emailFails start i).unitCursor
      (runAt settings inventory clock emailFails start i).scannedUnits
      (stateBefore settings inventory clock emailFails start (i + 1)).unitCursor := by
    intro i
    obtain ⟨state, first, hstate, hscanned, -, hcursor⟩ :=
      @runAt_scan settings inventory clock emailFails start i
    obtain ⟨hstarts, hends, hsome⟩ := scanUnits_visit (environmentAt inventory clock emailFails i) first
      (nextUnits settings inventory (stateBefore settings inventory clock emailFails start i))
      ⟨state, .fromSettings settings, []⟩
    rw [← hscanned] at hstarts hends hsome
    have hnext : nextUnits settings inventory
        (stateBefore settings inventory clock emailFails start i) ≠ [] := by
      have hperm := circular_perm WirelessUnit.pk
        (stateBefore settings inventory clock emailFails start i).unitCursor
        (candidates inventory.users inventory.units)
      rw [nextUnits, Ne, List.take_eq_nil_iff, not_or]
      exact ⟨(scanLimit_pos settings).ne', List.ne_nil_of_mem (hperm.mem_iff.mpr hcandidate)⟩
    refine ⟨hstarts.trans (List.take_prefix _ _), ?_⟩
    rw [hcursor, hends, advance, List.getLast?_eq_some_getLast (hsome hnext)]
    rfl
  obtain ⟨i, hi, hscanned⟩ := exists_mem_page_of_visits candidates_keys 0 hvisit hcandidate
  rw [Nat.zero_add] at hscanned
  refine ⟨i, hi, ?_⟩
  obtain ⟨state, first, -, hunits, hattempts, -⟩ :=
    @runAt_scan settings inventory clock emailFails start i
  rw [hunits] at hscanned
  have hserved := (@scanUnits_attempts (environmentAt inventory clock emailFails i) first _
    ⟨state, .fromSettings settings, []⟩ rfl (hfits i)).2
  rw [hattempts]
  exact hserved unit hscanned request hrequest

end Runs

/-! ### An alert that is never delivered -/

/-- A unit with an empty battery and no signal, one assignment and one recipient. -/
def lowUnit : WirelessUnit where
  pk := 1
  name := "Handheld"
  status := .online
  battery := 10
  rfLevel := some (-90)
  audioLevel := none
  assignedResource := some 1
  assignments := [{ pk := 1, monitoringGroup := { users := [1] }, performer := "Ada" }]

def lowInventory : AlertInventory where
  users := ⟨fun _ => {}, fun _ _ => true⟩
  units := [lowUnit]

/-- Limits that take all units, assignments and recipients, and one delivery. -/
def oneDelivery : PollAlertSettings := ⟨10, 10, 10, 1⟩

/-- The alerts that the unit asks for. -/
def lowRequests : List AlertRequest :=
  requests lowInventory.users lowUnit .transmitter (assignmentRows lowUnit .transmitter) [(1, 1)]

/-- A fresh run attempts the first delivery and no other, whatever the cursors. -/
theorem lowUnit_attempts (now : Time) (emailFails : Nat → Bool) (state : AlertState) :
    (fanOut ⟨lowInventory.users, now, emailFails⟩ lowUnit .transmitter
      ⟨state, .fromSettings oneDelivery, []⟩).attempts = [⟨1, 1, .batteryCritical⟩] := by
  obtain ⟨hassignments, hfirst⟩ := @assignmentsForUnit_fits lowUnit .transmitter
    ⟨state, .fromSettings oneDelivery, []⟩ state.fanout (by
      show (1 : Nat) ≤ 10
      decide)
  rw [fanOut]
  dsimp only at hassignments hfirst ⊢
  generalize assignmentsForUnit lowUnit .transmitter state.fanout
    (.fromSettings oneDelivery) = page at hassignments hfirst ⊢
  obtain ⟨assignments, cursors, budget⟩ := page
  dsimp only at hassignments hfirst ⊢
  obtain rfl : assignments = assignmentRows lowUnit .transmitter := List.perm_singleton.mp hassignments
  have hleft := (hfirst state).left
  have hrecipientsLeft : budget.remainingRecipients = 10 := congrArg AlertCapacity.recipients hleft
  obtain ⟨hrecipients, hsecond⟩ := @recipientsForAssignments_fits lowUnit .transmitter
    lowInventory.users (assignmentRows lowUnit .transmitter) ⟨state, budget, []⟩ cursors (by
      rw [hrecipientsLeft]
      decide)
  dsimp only at hrecipients hsecond ⊢
  generalize recipientsForAssignments lowInventory.users lowUnit (assignmentRows lowUnit .transmitter)
    .transmitter cursors budget = page at hrecipients hsecond ⊢
  obtain ⟨recipients, cursors', budget'⟩ := page
  dsimp only at hrecipients hsecond ⊢
  obtain rfl : recipients = [(1, 1)] := List.perm_singleton.mp hrecipients
  have hdeliveries : budget'.remainingDeliveries = 1 :=
    (congrArg AlertCapacity.deliveries (hsecond state).left).trans
      (congrArg AlertCapacity.deliveries hleft)
  have hdelivered :=
    (@foldl_createAlert_delivered ⟨lowInventory.users, now, emailFails⟩ lowUnit lowRequests
    ⟨{ state with fanout := cursors' }, budget', []⟩).attempts
  rw [hdeliveries] at hdelivered
  refine hdelivered.trans ?_
  show ((lowRequests.filter (isEligible lowInventory.users lowUnit)).take 1).map (attemptOf lowUnit) = _
  decide +kernel

theorem lowUnit_next {settings : PollAlertSettings} (state : AlertState) :
    nextUnits settings lowInventory state = [lowUnit] := by
  have hperm := circular_perm WirelessUnit.pk state.unitCursor
    (candidates lowInventory.users lowInventory.units)
  have hcircular := List.perm_singleton.mp hperm
  rw [nextUnits, hcircular]
  exact List.take_of_length_le (scanLimit_pos settings)

/-- The second alert of the unit is eligible, and no run attempts it. -/
theorem alert_never_attempted :
    (∃ request ∈ unitRequests lowInventory.users lowUnit,
      attemptOf lowUnit request = ⟨1, 1, .signalLoss⟩) ∧
      ∀ clock emailFails start i, ⟨1, 1, .signalLoss⟩ ∉
        (runAt oneDelivery lowInventory clock emailFails start i).attempts := by
  refine ⟨by decide +kernel, fun clock emailFails start i => ?_⟩
  obtain ⟨state, first, -, -, hattempts, -⟩ :=
    @runAt_scan oneDelivery lowInventory clock emailFails start i
  have hscan : ∀ run,
      (scanUnits (environmentAt lowInventory clock emailFails i) first [lowUnit] run).2 =
      evaluateUnit (environmentAt lowInventory clock emailFails i) first run lowUnit := by
    intro run
    rw [scanUnits]
    split <;> rfl
  have hevaluate : (evaluateUnit (environmentAt lowInventory clock emailFails i) first
      ⟨state, .fromSettings oneDelivery, []⟩ lowUnit).attempts = [⟨1, 1, .batteryCritical⟩] := by
    cases first <;> exact lowUnit_attempts (clock i) (emailFails i) state
  rw [hattempts, lowUnit_next, hscan, hevaluate]
  decide

/-- A second unit, with two recipients. -/
def pairUnit : WirelessUnit where
  pk := 2
  name := "Bodypack"
  status := .online
  battery := 10
  rfLevel := some (-90)
  audioLevel := none
  assignedResource := some 2
  assignments := [{ pk := 2, monitoringGroup := { users := [2, 1] }, performer := "Ben" }]

def stagePair : AlertInventory where
  users := lowInventory.users
  units := [lowUnit, pairUnit]

def oneUnit : PollAlertSettings := ⟨1, 10, 10, 4⟩

theorem stagePair_fits (state : AlertState) : RunFits oneUnit stagePair state := by
  have hperm :=
    circular_perm WirelessUnit.pk state.unitCursor (candidates stagePair.users stagePair.units)
  have hsingle : ∀ unit ∈ candidates stagePair.users stagePair.units,
      Fits stagePair.users (AlertFanoutBudget.fromSettings oneUnit).left [unit] := by
    intro unit hunit
    have hcases : unit = lowUnit ∨ unit = pairUnit := by
      simpa [stagePair] using List.mem_of_mem_filter hunit
    rcases hcases with rfl | rfl
    · exact ⟨⟨by decide +kernel, by decide +kernel, by decide +kernel⟩, fun _ => trivial⟩
    · exact ⟨⟨by decide +kernel, by decide +kernel, by decide +kernel⟩, fun _ => trivial⟩
  rw [RunFits, nextUnits]
  generalize circular WirelessUnit.pk state.unitCursor
    (candidates stagePair.users stagePair.units) = order at hperm ⊢
  cases order with
  | nil => trivial
  | cons next rest => exact hsingle next (hperm.mem_iff.mp List.mem_cons_self)

/-- The second unit comes up in the second run, and both of its recipients get an alert of it. -/
theorem alert_runs_reach_everyone_turns :
    (∃ i < 2, ⟨2, 1, .batteryCritical⟩ ∈
      (runAt oneUnit stagePair (fun i => i * 60000000) (fun _ _ => false) {} i).attempts) ∧
    ∃ i < 2, ⟨2, 2, .signalLoss⟩ ∈
      (runAt oneUnit stagePair (fun i => i * 60000000) (fun _ _ => false) {} i).attempts := by
  have hlength : (candidates stagePair.users stagePair.units).length = 2 := by decide +kernel
  have hreached : ∀ request ∈ unitRequests stagePair.users pairUnit, ∃ i < 2,
      attemptOf pairUnit request ∈
        (runAt oneUnit stagePair (fun i => i * 60000000) (fun _ _ => false) {} i).attempts := by
    intro request hrequest
    rw [← hlength]
    exact alert_runs_reach_everyone (fun i => stagePair_fits _) (by simp [stagePair]) hrequest
  have hrequests : (∃ request ∈ unitRequests stagePair.users pairUnit,
      attemptOf pairUnit request = ⟨2, 1, .batteryCritical⟩) ∧
      ∃ request ∈ unitRequests stagePair.users pairUnit,
        attemptOf pairUnit request = ⟨2, 2, .signalLoss⟩ := by
    decide +kernel
  obtain ⟨⟨first, hfirst, hcritical⟩, second, hsecond, hloss⟩ := hrequests
  rw [← hcritical, ← hloss]
  exact ⟨hreached first hfirst, hreached second hsecond⟩

end Micboard
