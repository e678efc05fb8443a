import Micboard.AlertFanout

/-! Which pairs of an assignment and a recipient consecutive evaluations of a unit reach. The page
of the assignments and the page of their recipients rotate under separate cursors; a recipient page
that leaves pairs of its assignments over is not taken up again when the assignments come back. -/

namespace Micboard

open Library.Budget AlertFanoutService

/-- What one evaluation of a unit selects, and the cursors it leaves. -/
structure FanoutPage where
  assignments : List PerformerAssignment
  recipients : List RecipientPair
  cursors : FanoutCursors

/-- Select assignments and recipients for a unit with a fresh budget. -/
def evaluateFanout (users : AlertUsers) (settings : PollAlertSettings) (unit : WirelessUnit)
    (scope : AlertScope) (cursors : FanoutCursors) : FanoutPage :=
  let page := assignmentsForUnit unit scope cursors (.fromSettings settings)
  let recipients := recipientsForAssignments users unit page.1 scope page.2.1 page.2.2
  ⟨page.1, recipients.1, recipients.2.1⟩

/-- The cursors before each of consecutive evaluations. -/
def fanoutCursors (users : AlertUsers) (settings : PollAlertSettings) (unit : WirelessUnit)
    (scope : AlertScope) (start : FanoutCursors) : Nat → FanoutCursors
  | 0 => start
  | i + 1 =>
    (evaluateFanout users settings unit scope (fanoutCursors users settings unit scope start i)).cursors

def assignmentLimit (settings : PollAlertSettings) : Nat :=
  boundedSetting settings.maxAssignments hardAlertMaxAssignments

def recipientLimit (settings : PollAlertSettings) : Nat :=
  boundedSetting settings.maxRecipients hardAlertMaxRecipients

theorem boundedSetting_pos {value : Int} {hardLimit : Nat} (h : 0 < hardLimit) :
    0 < boundedSetting value hardLimit := by
  rw [boundedSetting]
  omega

/-- The next assignments in circular order, as many as their limit takes. -/
def nextAssignments (settings : PollAlertSettings) (unit : WirelessUnit) (scope : AlertScope)
    (cursors : FanoutCursors) : List PerformerAssignment :=
  (circular PerformerAssignment.pk (cursors.assignment (scope, unit.pk))
    (assignmentRows unit scope)).take
    (assignmentLimit settings)

/-- All assignments fit the assignment limit, or the recipients of the next ones fit the recipient
limit. -/
def PageFits (users : AlertUsers) (settings : PollAlertSettings) (unit : WirelessUnit)
    (scope : AlertScope) (cursors : FanoutCursors) : Prop :=
  (assignmentRows unit scope).length ≤ assignmentLimit settings ∨
    (recipientRows users (nextAssignments settings unit scope cursors)).length ≤ recipientLimit settings

section Evaluation

variable {users : AlertUsers} {settings : PollAlertSettings} {unit : WirelessUnit} {scope : AlertScope}
  {cursors : FanoutCursors}

theorem remainingRecipients_assignments {budget : AlertFanoutBudget} :
    (assignmentsForUnit unit scope cursors budget).2.2.remainingRecipients =
      budget.remainingRecipients := by
  simp only [assignmentsForUnit]
  split <;> rfl

theorem evaluateFanout_recipients :
    (evaluateFanout users settings unit scope cursors).recipients =
      turn (fun pair : RecipientPair => toLex pair)
        (recipientRows users (nextAssignments settings unit scope cursors)) (recipientLimit settings)
        (cursors.recipient (scope, unit.pk)) := by
  simp only [evaluateFanout]
  rw [recipientsForAssignments_pairs, remainingRecipients_assignments, assignmentsForUnit_cursors.1,
    assignmentsForUnit_items]
  rfl

theorem evaluateFanout_assignment_cursor :
    (evaluateFanout users settings unit scope cursors).cursors.assignment (scope, unit.pk) =
      advance PerformerAssignment.pk (cursors.assignment (scope, unit.pk))
        (nextAssignments settings unit scope cursors) := by
  simp only [evaluateFanout]
  rw [recipientsForAssignments_cursors.1, assignmentsForUnit_cursors.2, assignmentsForUnit_items]
  rfl

theorem evaluateFanout_recipient_cursor :
    (evaluateFanout users settings unit scope cursors).cursors.recipient (scope, unit.pk) =
      advance (fun pair : RecipientPair => toLex pair) (cursors.recipient (scope, unit.pk))
        (evaluateFanout users settings unit scope cursors).recipients := by
  simp only [evaluateFanout]
  rw [recipientsForAssignments_cursors.2, assignmentsForUnit_cursors.1]

end Evaluation

section Coverage

variable {users : AlertUsers} {settings : PollAlertSettings} {unit : WirelessUnit} {scope : AlertScope}
  {start : FanoutCursors} {pair : RecipientPair}

theorem assignmentLimit_pos (settings : PollAlertSettings) : 0 < assignmentLimit settings :=
  boundedSetting_pos (by decide)

theorem recipientLimit_pos (settings : PollAlertSettings) : 0 < recipientLimit settings :=
  boundedSetting_pos (by decide)

theorem exists_nextAssignments {assignment : PerformerAssignment}
    (h : assignment ∈ assignmentRows unit scope) :
    ∃ i, assignment ∈ nextAssignments settings unit scope
      (fanoutCursors users settings unit scope start i) := by
  have hpos := assignmentLimit_pos settings
  obtain ⟨i, -, hpage⟩ := @exists_mem_turn _ _ _ PerformerAssignment.pk (assignmentRows unit scope)
    assignment (assignmentLimit settings)
    (fun i => (fanoutCursors users settings unit scope start i).assignment (scope, unit.pk)) hpos
    (assignmentRows_keys unit scope) 0 (assignmentRows unit scope).length
    (fun i _ => evaluateFanout_assignment_cursor) (Nat.le_mul_of_pos_right _ hpos) h
  exact ⟨0 + i, hpage⟩

theorem recipientRows_perm (h : (assignmentRows unit scope).length ≤ assignmentLimit settings)
    (cursors : FanoutCursors) :
    (recipientRows users (nextAssignments settings unit scope cursors)).Perm
      (recipientRows users (assignmentRows unit scope)) := by
  have hperm := circular_perm PerformerAssignment.pk (cursors.assignment (scope, unit.pk))
    (assignmentRows unit scope)
  rw [nextAssignments, List.take_of_length_le (hperm.length_eq.trans_le h)]
  exact (hperm.filter _).flatMap_right _

theorem exists_recipients_of_assignments_fit
    (h : (assignmentRows unit scope).length ≤ assignmentLimit settings)
    (hpair : pair ∈ recipientRows users (assignmentRows unit scope)) :
    ∃ i, pair ∈ (evaluateFanout users settings unit scope
      (fanoutCursors users settings unit scope start i)).recipients := by
  have hkeys : ((recipientRows users (assignmentRows unit scope)).map fun pair => toLex pair).Nodup :=
    (nodup_recipientRows (assignmentRows_keys unit scope)).map toLex.injective
  have hselect : ∀ cursors, (evaluateFanout users settings unit scope cursors).recipients =
      turn (fun pair : RecipientPair => toLex pair) (recipientRows users (assignmentRows unit scope))
        (recipientLimit settings) (cursors.recipient (scope, unit.pk)) := by
    intro cursors
    rw [evaluateFanout_recipients, turn, turn, circular_congr hkeys (recipientRows_perm h cursors).symm]
  have hpos := recipientLimit_pos settings
  obtain ⟨i, -, hpage⟩ := @exists_mem_turn _ _ _ (fun pair : RecipientPair => toLex pair)
    (recipientRows users (assignmentRows unit scope)) pair (recipientLimit settings)
    (fun i => (fanoutCursors users settings unit scope start i).recipient (scope, unit.pk)) hpos hkeys 0
    (recipientRows users (assignmentRows unit scope)).length
    (fun i _ => evaluateFanout_recipient_cursor.trans (by rw [hselect]))
    (Nat.le_mul_of_pos_right _ hpos)
    hpair
  exact ⟨0 + i, by rwa [hselect]⟩

/-- **Fan-out reaches every pair** in a run of evaluations in which no page of recipients leaves a
pair over while assignments rotate. -/
theorem fanout_covers_pairs
    (hfits : ∀ i, PageFits users settings unit scope (fanoutCursors users settings unit scope start i))
    (hpair : pair ∈ recipientRows users (assignmentRows unit scope)) :
    ∃ i, pair ∈ (evaluateFanout users settings unit scope
      (fanoutCursors users settings unit scope start i)).recipients := by
  by_cases hall : (assignmentRows unit scope).length ≤ assignmentLimit settings
  · exact exists_recipients_of_assignments_fit hall hpair
  · obtain ⟨assignment, hassignment, hgroup, hpk, huser⟩ := mem_recipientRows.mp hpair
    obtain ⟨i, hpage⟩ := @exists_nextAssignments users settings unit scope start assignment hassignment
    refine ⟨i, ?_⟩
    have hrow : pair ∈ recipientRows users (nextAssignments settings unit scope
        (fanoutCursors users settings unit scope start i)) :=
      mem_recipientRows.mpr ⟨assignment, hpage, hgroup, hpk, huser⟩
    have hperm := circular_perm (fun pair : RecipientPair => toLex pair)
      ((fanoutCursors users settings unit scope start i).recipient (scope, unit.pk))
      (recipientRows users (nextAssignments settings unit scope
        (fanoutCursors users settings unit scope start i)))
    rw [evaluateFanout_recipients, turn,
      List.take_of_length_le (hperm.length_eq.trans_le ((hfits i).resolve_left hall))]
    exact hperm.mem_iff.mpr hrow

end Coverage

/-! ### A pair that is never reached -/

def duet : MonitoringGroup := { users := [1, 2] }

/-- Two assignments with two recipients each. -/
def sharedUnit : WirelessUnit where
  pk := 1
  name := "Handheld"
  status := .online
  battery := 10
  rfLevel := none
  audioLevel := none
  assignedResource := some 1
  assignments := [{ pk := 1, monitoringGroup := duet, performer := "Ada" },
    { pk := 2, monitoringGroup := duet, performer := "Ben" }]

def activeUsers : AlertUsers := ⟨fun _ => {}, fun _ _ => true⟩

def oneByOne : PollAlertSettings := ⟨1, 1, 1, 1⟩

/-- The cursors of the unit that come up, as an assignment and a pair. -/
def sharedPositions : List (Nat × RecipientPair) := [(0, 0, 0), (1, 1, 1), (2, 2, 1)]

/-- What an evaluation of the unit selects at a position. -/
def sharedAssignments (position : Nat × RecipientPair) : List PerformerAssignment :=
  (circular PerformerAssignment.pk position.1 (assignmentRows sharedUnit .transmitter)).take 1

def sharedRecipients (position : Nat × RecipientPair) : List RecipientPair :=
  turn (fun pair : RecipientPair => toLex pair)
    (recipientRows activeUsers (sharedAssignments position)) 1 (toLex position.2)

/-- From one of the positions an evaluation comes to one of them, past the second pair. -/
theorem sharedPositions_step : ∀ position ∈ sharedPositions,
    (advance PerformerAssignment.pk position.1 (sharedAssignments position),
        ofLex (advance (fun pair : RecipientPair => toLex pair) (toLex position.2)
          (sharedRecipients position))) ∈ sharedPositions ∧
      (1, 2) ∉ sharedRecipients position := by
  decide +kernel

def AtPosition (cursors : FanoutCursors) (position : Nat × RecipientPair) : Prop :=
  cursors.assignment (.transmitter, 1) = position.1 ∧
    cursors.recipient (.transmitter, 1) = toLex position.2

theorem AtPosition.assignments {cursors : FanoutCursors} {position : Nat × RecipientPair}
    (h : AtPosition cursors position) :
    nextAssignments oneByOne sharedUnit .transmitter cursors = sharedAssignments position := by
  rw [nextAssignments, sharedAssignments, ← h.1]
  rfl

theorem AtPosition.recipients {cursors : FanoutCursors} {position : Nat × RecipientPair}
    (h : AtPosition cursors position) :
    (evaluateFanout activeUsers oneByOne sharedUnit .transmitter cursors).recipients =
      sharedRecipients position := by
  rw [evaluateFanout_recipients, h.assignments, sharedRecipients, ← h.2]
  rfl

theorem exists_atPosition (i : Nat) : ∃ position ∈ sharedPositions,
    AtPosition (fanoutCursors activeUsers oneByOne sharedUnit .transmitter {} i) position := by
  induction i with
  | zero => exact ⟨(0, 0, 0), List.mem_cons_self, rfl, rfl⟩
  | succ i ih =>
      obtain ⟨position, hposition, hat⟩ := ih
      refine ⟨_, (sharedPositions_step position hposition).1, ?_, ?_⟩
      · refine evaluateFanout_assignment_cursor.trans ?_
        rw [hat.assignments, ← hat.1]
        rfl
      · refine evaluateFanout_recipient_cursor.trans ?_
        rw [hat.recipients, ← hat.2]
        rfl

/-- The second recipient of the first assignment is never selected. -/
theorem pair_never_selected :
    (1, 2) ∈ recipientRows activeUsers (assignmentRows sharedUnit .transmitter) ∧
      ∀ i, (1, 2) ∉ (evaluateFanout activeUsers oneByOne sharedUnit .transmitter
        (fanoutCursors activeUsers oneByOne sharedUnit .transmitter {} i)).recipients := by
  refine ⟨by decide, fun i => ?_⟩
  obtain ⟨position, hposition, hat⟩ := exists_atPosition i
  rw [hat.recipients]
  exact (sharedPositions_step position hposition).2

theorem fanout_covers_pairs_shared :
    ∃ i, (1, 2) ∈ (evaluateFanout activeUsers ⟨1, 2, 1, 1⟩ sharedUnit .transmitter
      (fanoutCursors activeUsers ⟨1, 2, 1, 1⟩ sharedUnit .transmitter {} i)).recipients :=
  fanout_covers_pairs (fun _ => .inl (by decide)) (by decide)

end Micboard
