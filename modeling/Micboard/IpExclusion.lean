import Micboard.IpOwnership
import Micboard.LibraryAddressFormat

/-! No address has owners in both hardware tables, whatever the interleaving of the transactions: the
lock of an address protects what a transaction has read of its owners until it commits. -/

namespace Micboard

open Library Library.Address Library.Transaction HardwareIPOwnershipService

/-- What a transaction may change: it gives an address to a row only under the lock of the address, and
deletes no row. -/
structure OwnershipChange (held : Int → Prop) (s t : Inventory) : Prop where
  locked : ∀ owner ip, t.Holds owner ip → s.Holds owner ip ∨ held (advisoryLockKey ip)
  present : ∀ owner, s.Present owner → t.Present owner

def ownershipDiscipline : Discipline Inventory Int HardwareTransaction where
  inv := Inventory.Apart
  change _ := OwnershipChange

/-- The addresses the transaction has assigned, after one more statement. -/
def assign (assigned : HardwareOwner → Option (Option String)) (owner : HardwareOwner)
    (given : Option (Option String)) : HardwareOwner → Option (Option String) :=
  match given with
  | none => assigned
  | some address => Function.update assigned owner (some address)

theorem assign_of_ne {assigned : HardwareOwner → Option (Option String)} {owner other : HardwareOwner}
    (h : other ≠ owner) (given : Option (Option String)) :
    assign assigned owner given other = assigned other := by
  cases given with
  | none => rfl
  | some address => exact Function.update_of_ne h ..

theorem assign_self (assigned : HardwareOwner → Option (Option String)) (owner : HardwareOwner)
    (address : Option String) : assign assigned owner (some address) owner = some address :=
  Function.update_self ..

/-- Since the state `s` nobody else was given an address whose lock is held, and no row was deleted. -/
structure Since (held : Int → Prop) (s t : Inventory) : Prop where
  holds : ∀ owner ip, held (advisoryLockKey ip) → t.Holds owner ip → s.Holds owner ip
  present : ∀ owner, s.Present owner → t.Present owner

theorem Since.refl (held : Int → Prop) (s : Inventory) : Since held s s :=
  ⟨fun _ _ _ h => h, fun _ h => h⟩

theorem stable_since (held : Int → Prop) (s : Inventory) :
    ownershipDiscipline.Stable held (Since held s) := by
  intro call others t u hothers _ _ hchange hsince
  constructor
  case holds =>
    intro owner ip hheld hu
    refine hsince.holds owner ip hheld ((hchange.locked owner ip hu).resolve_right fun hother => ?_)
    exact hothers _ hother hheld
  case present => exact fun owner h => hchange.present owner (hsince.present owner h)

/-- A transaction in the middle of its writes: what they assign, under which locks, and that they have
left the two tables apart. -/
structure Writing (held : Int → Prop) (know : Inventory → Prop) (pending : Inventory → Inventory)
    (assigned : HardwareOwner → Option (Option String)) : Prop where
  stable : ownershipDiscipline.Stable held know
  holds : ∀ s, know s → ∀ owner ip,
    (pending s).Holds owner ip ↔ HeldBy (assigned owner) (s.Holds owner ip) ip
  present : ∀ s, know s → ∀ owner,
    (pending s).Present owner ↔ s.Present owner ∨ (assigned owner).isSome = true
  given : ∀ owner ip, assigned owner = some (some ip) → held (advisoryLockKey ip) ∧ StoredAddress ip
  apart : ∀ s, s.Apart → know s → ∀ owner other ip, owner.Opposes other →
    (pending s).Holds owner ip → ¬ (pending s).Holds other ip

namespace Writing

variable {held : Int → Prop} {know : Inventory → Prop} {pending : Inventory → Inventory}
  {assigned : HardwareOwner → Option (Option String)}

theorem start : Writing (fun _ => False) (fun _ => True) id fun _ => none where
  stable := ownershipDiscipline.stable_true _
  holds _ _ _ _ := .rfl
  present s _ owner := by simp
  given := by
    intro owner ip h
    cases h
  apart s hs _ := hs.apart

theorem lock (h : Writing held know pending assigned) (key : Int) :
    Writing (fun k => k = key ∨ held k) know pending assigned where
  stable := h.stable.mono fun _ => .inr
  holds := h.holds
  present := h.present
  given owner ip heq := ⟨.inr (h.given owner ip heq).1, (h.given owner ip heq).2⟩
  apart := h.apart

theorem read (h : Writing held know pending assigned) (s : Inventory) :
    Writing held (fun t => know t ∧ Since held s t) pending assigned where
  stable := h.stable.and (stable_since held s)
  holds t ht := h.holds t ht.1
  present t ht := h.present t ht.1
  given := h.given
  apart t hapart ht := h.apart t hapart ht.1

/-- An address whose lock is held has no owner now that it did not have at an earlier read. -/
theorem holds_of_since (h : Writing held know pending assigned) {s t : Inventory} (hs : know s)
    (ht : know t) (hsince : Since held s t) {owner : HardwareOwner} {ip : String}
    (hheld : held (advisoryLockKey ip)) (hholds : (pending t).Holds owner ip) :
    (pending s).Holds owner ip := by
  rw [h.holds t ht] at hholds
  rw [h.holds s hs]
  cases hassigned : assigned owner with
  | none =>
      rw [hassigned] at hholds
      exact hsince.holds owner ip hheld hholds
  | some address =>
      rw [hassigned] at hholds
      exact hholds

theorem present_of_since (h : Writing held know pending assigned) {s t : Inventory} (hs : know s)
    (ht : know t) (hsince : Since held s t) {owner : HardwareOwner}
    (hpresent : (pending s).Present owner) : (pending t).Present owner := by
  rw [h.present s hs] at hpresent
  rw [h.present t ht]
  exact hpresent.imp_left (hsince.present owner)

/-- One more statement: it needs the row it updates, and the lock of the address it writes, which no
owner of the other kind has. -/
theorem write (h : Writing held know pending assigned) {change : Inventory → Inventory}
    {owner : HardwareOwner} {given : Option (Option String)} {creates : Bool}
    (hassigns : Assigns change owner given creates)
    (hcreates : creates = true → given.isSome = true)
    (hpresent : ∀ s, know s → (pending s).Present owner ∨ creates = true)
    (hgiven : ∀ ip, given = some (some ip) → held (advisoryLockKey ip) ∧ StoredAddress ip)
    (hfree : ∀ ip, given = some (some ip) → ∀ s, s.Apart → know s → ∀ other, owner.Opposes other →
      ¬ (pending s).Holds other ip) :
    Writing held know (change ∘ pending) (assign assigned owner given) where
  stable := h.stable
  holds := by
    intro s hs other ip
    by_cases heq : other = owner
    · subst heq
      refine (hassigns.holds (pending s) (hpresent s hs) ip).trans ?_
      cases given with
      | none => exact h.holds s hs other ip
      | some address =>
          rw [assign_self]
          exact .rfl
    · rw [assign_of_ne heq]
      exact (hassigns.others (pending s) other ip heq).trans (h.holds s hs other ip)
  present := by
    intro s hs other
    refine (hassigns.present (pending s) other).trans ?_
    by_cases heq : other = owner
    · subst heq
      cases given with
      | none =>
          have hold : creates = false := by
            by_contra hne
            exact absurd (hcreates (by simpa using hne)) (by simp)
          simpa [hold, assign] using h.present s hs other
      | some address =>
          rw [assign_self]
          have hnow : (pending s).Present other ∨ creates = true ∧ other = other :=
            (hpresent s hs).imp_right fun h => ⟨h, rfl⟩
          exact ⟨fun _ => .inr rfl, fun _ => hnow⟩
    · rw [assign_of_ne heq, or_iff_left fun h => heq h.2]
      exact h.present s hs other
  given := by
    intro other ip heq
    by_cases hother : other = owner
    · subst hother
      cases given with
      | none => exact h.given other ip heq
      | some address =>
          rw [assign_self] at heq
          cases heq
          exact hgiven ip rfl
    · rw [assign_of_ne hother] at heq
      exact h.given other ip heq
  apart := by
    have hcases : ∀ s, know s → ∀ other ip, (change (pending s)).Holds other ip →
        other = owner ∧ given = some (some ip) ∨ (pending s).Holds other ip := by
      intro s hs other ip hholds
      by_cases heq : other = owner
      · subst heq
        rw [hassigns.holds (pending s) (hpresent s hs)] at hholds
        cases given with
        | none => exact .inr hholds
        | some address => exact .inl ⟨rfl, congrArg some hholds⟩
      · exact .inr ((hassigns.others (pending s) other ip heq).mp hholds)
    intro s hs hknow left right ip hopposes hleft hright
    rcases hcases s hknow left ip hleft with ⟨rfl, hnew⟩ | hleft
    · rcases hcases s hknow right ip hright with ⟨rfl, -⟩ | hright
      · exact hopposes.ne rfl
      · exact hfree ip hnew s hs hknow right hopposes hright
    · rcases hcases s hknow right ip hright with ⟨rfl, hnew⟩ | hright
      · exact hfree ip hnew s hs hknow left hopposes.symm hleft
      · exact h.apart s hs hknow left right ip hopposes hleft hright

theorem commit (h : Writing held know pending assigned) {s : Inventory} (hs : s.Apart)
    (hknow : know s) : (pending s).Apart ∧ OwnershipChange held s (pending s) := by
  have hcases : ∀ owner ip, (pending s).Holds owner ip →
      assigned owner = some (some ip) ∨ s.Holds owner ip := by
    intro owner ip hholds
    rw [h.holds s hknow] at hholds
    cases hassigned : assigned owner with
    | none =>
        rw [hassigned] at hholds
        exact .inr hholds
    | some address =>
        rw [hassigned] at hholds
        exact .inl (congrArg some hholds)
  refine ⟨⟨fun owner ip hholds => ?_, h.apart s hs hknow⟩, ⟨fun owner ip hholds => ?_, ?_⟩⟩
  · rcases hcases owner ip hholds with hnew | hold
    · exact (h.given owner ip hnew).2
    · exact hs.stored owner ip hold
  · exact (hcases owner ip hholds).symm.imp_right fun hnew => (h.given owner ip hnew).1
  · exact fun owner hpresent => (h.present s hknow owner).mpr (.inl hpresent)

end Writing

/-- A transaction that goes on with `next` keeps to the discipline, whatever it has written so far. -/
def Continues (meets : Session Inventory Int HardwareTransaction → Inventory → Prop)
    (call : HardwareTransaction) (next : Program Inventory Int) : Prop :=
  ∀ ⦃held know seen pending assigned⦄, Writing held know pending assigned →
    Follows ownershipDiscipline meets call held know seen pending next

/-- The address is locked, and no hardware of the other kind has it. -/
structure Secured (held : Int → Prop) (know : Inventory → Prop) (pending : Inventory → Inventory)
    (owner : HardwareOwner) (ip : String) : Prop where
  held : held (advisoryLockKey ip)
  free : ∀ s, know s → ∀ other, owner.Opposes other → ¬ (pending s).Holds other ip

theorem chargerConflict_iff (db : Inventory) (pk : Nat) (ip : String) :
    chargerConflict db ip = true ↔
      ∃ other, (HardwareOwner.chassis pk).Opposes other ∧ db.Holds other ip := by
  constructor
  · intro h
    obtain ⟨charger, hcharger, hip⟩ := List.any_eq_true.mp h
    exact ⟨.charger charger.pk, trivial, charger, hcharger, rfl, of_decide_eq_true hip⟩
  · rintro ⟨other, hopposes, hholds⟩
    cases other with
    | chassis other => exact hopposes.elim
    | charger other =>
        obtain ⟨charger, hcharger, -, hip⟩ := hholds
        exact List.any_eq_true.mpr ⟨charger, hcharger, decide_eq_true hip⟩

theorem chassisConflict_iff (db : Inventory) (pk : Nat) (ip : String) :
    chassisConflict db ip = true ↔
      ∃ other, (HardwareOwner.charger pk).Opposes other ∧ db.Holds other ip := by
  constructor
  · intro h
    obtain ⟨chassis, hchassis, hip⟩ := List.any_eq_true.mp h
    exact ⟨.chassis chassis.pk, trivial, chassis, hchassis, rfl, congrArg some (of_decide_eq_true hip)⟩
  · rintro ⟨other, hopposes, hholds⟩
    cases other with
    | charger other => exact hopposes.elim
    | chassis other =>
        obtain ⟨chassis, hchassis, -, hip⟩ := hholds
        exact List.any_eq_true.mpr ⟨chassis, hchassis, decide_eq_true (Option.some.inj hip)⟩

/-- The canonical form of an address without a scope is the form in which the column stores it. -/
theorem canonicalIp_of_no_scope {value : String} {found : Option String} (hne : value ≠ "")
    (hscope : '%' ∉ value.toList) (h : canonicalIp (some value) = .ok found) :
    found = some (getPrepValue value) := by
  simp only [canonicalIp, if_neg hne] at h
  split at h
  next address haddress =>
    cases h
    have hcanonical := ipAddress_of_no_scope hscope haddress
    rw [getPrepValue]
    split
    next hcolon =>
      rw [if_pos hcolon] at hcanonical
      rw [hcanonical, Option.getD_some]
    next hcolon =>
      rw [if_neg hcolon] at hcanonical
      rw [hcanonical]
  next => cases h

section Saves

variable {meets : Session Inventory Int HardwareTransaction → Inventory → Prop}
  {call : HardwareTransaction} {next : Program Inventory Int} {held : Int → Prop}
  {know : Inventory → Prop} {seen : List Inventory} {pending : Inventory → Inventory}
  {assigned : HardwareOwner → Option (Option String)}

theorem Secured.read {owner : HardwareOwner} {ip : String}
    (h : Secured held know pending owner ip) (s : Inventory) :
    Secured held (fun t => know t ∧ Since held s t) pending owner ip :=
  ⟨h.held, fun t ht => h.free t ht.1⟩

/-- The check goes on with a locked address that nobody of the other kind has. -/
theorem follows_lockAndValidate {owner : HardwareOwner} {ip : Option String}
    {conflicts : Inventory → String → Bool}
    (hconflicts : ∀ db address, conflicts db address = true ↔
      ∃ other, owner.Opposes other ∧ db.Holds other address)
    (h : Writing held know pending assigned)
    (hnext : ∀ {held know seen found}, Writing held know pending assigned →
      canonicalIp ip = .ok found →
      (∀ address, found = some address → getPrepValue address = address →
        Secured held know pending owner address) →
      Follows ownershipDiscipline meets call held know seen pending next) :
    Follows ownershipDiscipline meets call held know seen pending
      (lockAndValidate ip conflicts next) := by
  rw [lockAndValidate]
  cases hfound : canonicalIp ip with
  | error error => exact .rollback
  | ok found =>
      cases found with
      | none => exact hnext h hfound fun address heq => by cases heq
      | some address =>
          have hlocked := h.lock (advisoryLockKey address)
          refine .lock (.read (fun s t => know t ∧ Since _ s t) (fun s _ hs => ⟨hs, .refl _ s⟩)
            (fun s _ _ => (hlocked.read s).stable) fun s hs hknow => ?_)
          cases hconflict : conflicts (pending s) (getPrepValue address) with
          | true => exact .rollback
          | false =>
              refine hnext (hlocked.read s) hfound fun other heq hstored => ?_
              cases heq
              refine ⟨.inl rfl, fun t ht rival hopposes hholds => ?_⟩
              have hbefore : (pending s).Holds rival address :=
                hlocked.holds_of_since hknow ht.1 ht.2 (.inl rfl) hholds
              rw [hstored] at hconflict
              rw [(hconflicts _ _).mpr ⟨rival, hopposes, hbefore⟩] at hconflict
              cases hconflict

theorem follows_lockAddresses (values : List (Option String)) (hnext : Continues meets call next)
    (h : Writing held know pending assigned) :
    Follows ownershipDiscipline meets call held know seen pending (lockAddresses values next) := by
  rw [lockAddresses]
  split
  next => exact .rollback
  next addresses _ =>
    generalize addresses.reduceOption.dedup.insertionSort (· ≤ ·) = keys
    induction keys generalizing held with
    | nil => exact hnext h
    | cons address rest ih => exact .lock (ih (h.lock _))

/-- What the save hook leaves alone, and the columns it derives. -/
theorem prepareLifecycleFields_kept {now : Time} {db : Inventory} {adding : Bool}
    {chassis saved : Chassis} {oldStatus : Option HardwareStatus} {derived : List Column}
    (h : prepareLifecycleFields now db adding chassis = .ok (saved, oldStatus, derived)) :
    saved.pk = chassis.pk ∧ saved.ip = chassis.ip ∧ .ip ∉ derived ∧
      (adding = false → db.Present (.chassis chassis.pk)) := by
  cases adding with
  | true =>
      rw [prepareLifecycleFields, if_pos rfl] at h
      split at h
      next => cases h; simp
      next => cases h; simp
  | false =>
      obtain ⟨previous, hfind, -, hstep⟩ := prepareLifecycleFields_eq_ok.mp h
      obtain ⟨isOnline, on, off, uptime, rfl⟩ := hstep.eq_withLifecycle
      refine ⟨rfl, rfl, fun hmem => ?_, fun _ => ?_⟩
      · exact absurd (hstep.columns _ hmem) (by decide)
      · have hpk : previous.pk = chassis.pk := by simpa using List.find?_some hfind
        exact ⟨previous, List.mem_of_find?_eq_some hfind, hpk⟩

theorem follows_read {program : Inventory → Program Inventory Int}
    (h : Writing held know pending assigned)
    (hnext : ∀ s, know s → Follows ownershipDiscipline meets call held
      (fun t => know t ∧ Since held s t) (pending s :: seen) pending (program (pending s))) :
    Follows ownershipDiscipline meets call held know seen pending (.read program) :=
  .read (fun s t => know t ∧ Since held s t) (fun s _ hs => ⟨hs, .refl _ s⟩)
    (fun s _ _ => (h.read s).stable) fun s _ hknow => hnext s hknow

/-- An address that the save secured may be written. -/
theorem Writing.write_secured (h : Writing held know pending assigned)
    {change : Inventory → Inventory} {owner : HardwareOwner} {given : Option (Option String)}
    {creates : Bool} (hassigns : Assigns change owner given creates)
    (hcreates : creates = true → given.isSome = true)
    (hpresent : ∀ s, know s → (pending s).Present owner ∨ creates = true)
    (hgiven : ∀ ip, given = some (some ip) → StoredAddress ip ∧ Secured held know pending owner ip) :
    Writing held know (change ∘ pending) (assign assigned owner given) := by
  refine h.write hassigns hcreates hpresent (fun ip heq => ?_) fun ip heq s _ hs => ?_
  · exact ⟨(hgiven ip heq).2.held, (hgiven ip heq).1⟩
  · exact (hgiven ip heq).2.free s hs

theorem follows_writeChassis {chassis : Chassis} {updateFields : Option (List Column)}
    {derived : List Column} (h : Writing held know pending assigned)
    (hrow : ∀ s, know s → (pending s).Present (.chassis chassis.pk))
    (hgiven : Column.ip ∈ updateFields.getD Column.all → StoredAddress (getPrepValue chassis.ip) ∧
      Secured held know pending (.chassis chassis.pk) (getPrepValue chassis.ip))
    (hderived : Column.ip ∉ derived) (hnext : Continues meets call next) :
    Follows ownershipDiscipline meets call held know seen pending
      (writeChassis chassis updateFields derived next) := by
  have hassigns := assigns_updateChassis (updateFields.getD Column.all) chassis
  have hfirst := h.write_secured hassigns (fun h => by cases h) (fun s hs => .inl (hrow s hs))
    fun ip heq => by
      split at heq
      next hmem =>
        cases heq
        exact hgiven hmem
      next => cases heq
  simp only [writeChassis]
  have homitted : Column.ip ∉ (updateFields.map fun fields => derived.filter (· ∉ fields)).getD [] := by
    cases updateFields with
    | none => simp
    | some fields => exact fun hmem => hderived (List.mem_of_mem_filter hmem)
  generalize (updateFields.map fun fields => derived.filter (· ∉ fields)).getD [] = omitted at homitted
  refine .write ?_
  split
  next => exact hnext hfirst
  next =>
    refine .write (hnext (hfirst.write_secured (assigns_updateChassis omitted chassis)
      (fun h => by cases h) (fun s hs => .inl ?_) fun ip heq => ?_))
    · exact (hassigns.present (pending s) _).mpr (.inl (hrow s hs))
    · rw [if_neg homitted] at heq
      cases heq

theorem continues_chassis {now : Time} {adding : Bool} {chassis : Chassis}
    {updateFields : Option (List Column)}
    (hscope : (HardwareSave.saveChassis now adding chassis updateFields).ScopeFree)
    (hnext : Continues meets call next) :
    Continues meets call (chassisProgram now adding chassis updateFields next) := by
  intro held know seen pending assigned h
  rw [chassisProgram]
  split
  next => exact hnext h
  refine follows_lockAndValidate (fun db ip => chargerConflict_iff db chassis.pk ip) h
    fun {held know seen found} h hfound hsecured => follows_read h fun s hs => ?_
  cases hprepare : prepareLifecycleFields now (pending s) adding chassis with
  | error error => exact .rollback
  | ok prepared =>
      obtain ⟨saved, oldStatus, derived⟩ := prepared
      obtain ⟨hpk, hip, hderived, hpresent⟩ := prepareLifecycleFields_kept hprepare
      simp only
      split
      next => exact .rollback
      next hnotNull =>
        have hgiven : Column.ip ∈ updateFields.getD Column.all → StoredAddress (getPrepValue saved.ip) ∧
            Secured held (fun t => know t ∧ Since held s t) pending (.chassis saved.pk)
              (getPrepValue saved.ip) := by
          intro hmem
          have hne : chassis.ip ≠ "" := fun hempty => hnotNull ⟨hmem, hip.trans hempty⟩
          have hplain : '%' ∉ chassis.ip.toList := hscope chassis.ip (if_pos hmem)
          rw [hip, hpk]
          refine ⟨storedAddress_getPrepValue hne, Secured.read (hsecured _ ?_ ?_) s⟩
          · exact canonicalIp_of_no_scope hne hplain hfound
          · exact getPrepValue_getPrepValue chassis.ip
        have hread := h.read s
        split
        next hadding =>
          split
          next hfields =>
            refine .write (hnext (hread.write_secured (assigns_insertChassis saved) (fun _ => rfl)
              (fun _ _ => .inr rfl) fun ip heq => ?_))
            cases heq
            refine hgiven ?_
            rw [hfields]
            exact Column.mem_all _
          next => exact .rollback
        next hstored =>
          have hrow : ∀ t, know t ∧ Since held s t → (pending t).Present (.chassis saved.pk) := by
            rintro t ⟨ht, hsince⟩
            rw [hpk]
            exact h.present_of_since hs ht hsince (hpresent (by simpa using hstored))
          exact follows_writeChassis hread hrow hgiven hderived hnext

theorem continues_charger {adding : Bool} {charger : Charger}
    {updateFields : Option (List ChargerColumn)}
    (hscope : (HardwareSave.saveCharger adding charger updateFields).ScopeFree)
    (hnext : Continues meets call next) :
    Continues meets call (chargerProgram adding charger updateFields next) := by
  intro held know seen pending assigned h
  rw [chargerProgram]
  split
  next => exact hnext h
  refine follows_lockAndValidate (fun db ip => chassisConflict_iff db charger.pk ip) h
    fun {held know seen found} h hfound hsecured => follows_read h fun s hs => ?_
  have hgiven : ChargerColumn.ip ∈ updateFields.getD ChargerColumn.all →
      ∀ ip, getDbPrepValue charger.ip = some ip → StoredAddress ip ∧
        Secured held (fun t => know t ∧ Since held s t) pending (.charger charger.pk) ip := by
    intro hmem ip heq
    cases hip : charger.ip with
    | none =>
        rw [hip] at heq
        cases heq
    | some value =>
        rw [hip, getDbPrepValue] at heq
        split at heq
        next => cases heq
        next hne =>
          cases heq
          have hplain : '%' ∉ value.toList := by
            refine hscope value ?_
            rw [HardwareSave.given, if_pos hmem, hip]
            rfl
          refine ⟨storedAddress_getPrepValue hne, Secured.read (hsecured _ ?_ ?_) s⟩
          · rw [hip] at hfound
            exact canonicalIp_of_no_scope hne hplain hfound
          · exact getPrepValue_getPrepValue value
  have hread := h.read s
  split
  next hstored =>
    obtain ⟨-, hany⟩ := Bool.and_eq_true_iff.mp hstored
    obtain ⟨row, hrow, hpk⟩ := List.any_eq_true.mp hany
    refine .write (hnext (hread.write_secured
      (assigns_updateCharger (updateFields.getD ChargerColumn.all) charger) (fun h => by cases h)
      (fun t ht => .inl ?_) fun ip heq => ?_))
    · exact h.present_of_since hs ht.1 ht.2 ⟨row, hrow, of_decide_eq_true hpk⟩
    · split at heq
      next hmem => exact hgiven hmem ip (Option.some.inj heq)
      next => cases heq
  next =>
    split
    next hfields =>
      refine .write (hnext (hread.write_secured (assigns_insertCharger charger) (fun _ => rfl)
        (fun _ _ => .inr rfl) fun ip heq => hgiven ?_ ip (Option.some.inj heq)))
      rw [hfields]
      decide
    next => exact .rollback

theorem continues_saves (saves : List HardwareSave) (hscope : ∀ save ∈ saves, save.ScopeFree)
    (hnext : Continues meets call next) :
    Continues meets call (saves.foldr HardwareSave.program next) := by
  induction saves with
  | nil => exact hnext
  | cons save rest ih =>
      have hrest : Continues meets call (rest.foldr HardwareSave.program next) :=
        ih fun later hlater => hscope later (List.mem_cons_of_mem _ hlater)
      have hsave := hscope save List.mem_cons_self
      cases save with
      | saveChassis now adding chassis updateFields => exact continues_chassis hsave hrest
      | saveCharger adding charger updateFields => exact continues_charger hsave hrest

theorem continues_commit : Continues meets call .commit := by
  intro held know seen pending assigned h
  exact .commit fun s hs hknow _ => h.commit hs hknow

end Saves

/-! ### Any number of transactions -/

/-- The transaction saves no address with a scope. -/
def ScopeFreeCommit (session : Session Inventory Int HardwareTransaction) (_ : Inventory) : Prop :=
  ∀ save ∈ session.call.saves, save.ScopeFree

instance (session : Session Inventory Int HardwareTransaction) (db : Inventory) :
    Decidable (ScopeFreeCommit session db) :=
  inferInstanceAs (Decidable (∀ save ∈ session.call.saves, save.ScopeFree))

theorem follows_hardwareTransaction :
    AllFollow ownershipDiscipline ScopeFreeCommit HardwareTransaction.program := by
  intro call
  by_cases hscope : ∀ save ∈ call.saves, save.ScopeFree
  · exact follows_lockAddresses call.lockFirst (continues_saves call.saves hscope continues_commit)
      .start
  · refine .of_never (fun session s heq hmeets => hscope ?_) _
    rw [← heq]
    exact hmeets

/-- A text that the column stores as it is has no other canonical form. -/
theorem ipAddress_of_stored {ip address : String} (hstored : StoredAddress ip)
    (h : ipAddress ip = some address) : address = ip := by
  by_cases hscope : '%' ∈ ip.toList
  · obtain ⟨hcolon, clean, hclean, hplain⟩ := cleanIPv6_of_scope hscope h
    have hself := hstored.2
    rw [getPrepValue, if_pos hcolon, hclean, Option.getD_some] at hself
    rw [hself] at hplain
    exact absurd hscope hplain
  · have hcanonical := ipAddress_of_no_scope hscope h
    split at hcanonical
    next hcolon =>
      have hself := hstored.2
      rw [getPrepValue, if_pos hcolon, hcanonical, Option.getD_some] at hself
      exact hself
    next => exact hcanonical

theorem canonicalIp_of_stored {ip address : String} (hstored : StoredAddress ip)
    (h : canonicalIp (some ip) = .ok (some address)) : address = ip := by
  simp only [canonicalIp, if_neg hstored.1] at h
  split at h
  next found hfound =>
    cases h
    exact ipAddress_of_stored hstored hfound
  next => cases h

def SameCanonicalIp (chassis : Chassis) (charger : Charger) : Prop :=
  ∃ address, canonicalIp (some chassis.ip) = .ok (some address) ∧
    canonicalIp charger.ip = .ok (some address)

/-- Whatever the interleaving of transactions, as long as none that commits saves an address with a
scope, no chassis and charger have the same canonical address in a committed state. -/
theorem hardware_ip_exclusive {ι : Type*} [DecidableEq ι] {store : Inventory}
    {state : State Inventory Int HardwareTransaction ι} (hstore : store.Apart)
    (hrun : Relation.ReflTransGen (Step HardwareTransaction.program ScopeFreeCommit)
      (State.quiet store) state) :
    ∀ chassis ∈ state.store.chassis, ∀ charger ∈ state.store.chargers,
      ¬ SameCanonicalIp chassis charger := by
  rintro chassis hchassis charger hcharger ⟨address, hleft, hright⟩
  have hapart := ((disciplined_quiet hstore).run follows_hardwareTransaction hrun).inv
  have hchassisHolds : state.store.Holds (.chassis chassis.pk) chassis.ip :=
    ⟨chassis, hchassis, rfl, rfl⟩
  have hchassisIp := canonicalIp_of_stored (hapart.stored _ _ hchassisHolds) hleft
  cases hip : charger.ip with
  | none =>
      rw [hip] at hright
      cases hright
  | some ip =>
      rw [hip] at hright
      have hchargerHolds : state.store.Holds (.charger charger.pk) ip :=
        ⟨charger, hcharger, rfl, hip⟩
      have hchargerIp := canonicalIp_of_stored (hapart.stored _ _ hchargerHolds) hright
      rw [← hchassisIp] at hchassisHolds
      rw [← hchargerIp] at hchargerHolds
      have hopposes : (HardwareOwner.chassis chassis.pk).Opposes (.charger charger.pk) := trivial
      exact hapart.apart _ _ address hopposes hchassisHolds hchargerHolds

def addChassis (ip : String) : HardwareTransaction where
  lockFirst := []
  saves := [.saveChassis 0 true { Chassis.unsaved ⟨1, "shure", true⟩ with pk := 1, ip } none]

def addCharger (ip : String) : HardwareTransaction where
  lockFirst := []
  saves := [.saveCharger true {
    pk := 1, manufacturer := none, serialNumber := "", ip := some ip, name := "", fqdn := "",
    model := "SBRC", firmwareVersion := "", status := .discovered, isActive := true } none]

/-- Both sessions check their address before either of them commits. -/
def racingSaves (chassisIp chargerIp : String) : List (Event HardwareTransaction Bool) := [
  .start true (addChassis chassisIp), .start false (addCharger chargerIp),
  .go true, .go true, .go false, .go false, .go true, .go true, .go true, .go false, .go false,
  .go false]

theorem apart_empty : Inventory.empty.Apart := by
  have hnone : ∀ owner ip, ¬ Inventory.empty.Holds owner ip := by
    rintro (pk | pk) ip ⟨row, hrow, -⟩
    · cases hrow
    · cases hrow
  exact ⟨fun owner ip h => absurd h (hnone owner ip), fun owner _ ip _ h => absurd h (hnone owner ip)⟩

/-- Two sessions that want one address; the first one takes `steps` statements. -/
def contendingSaves (steps : Nat) : List (Event HardwareTransaction Bool) :=
  .start true (addChassis "192.0.2.10") :: .start false (addCharger "192.0.2.10") ::
    List.replicate steps (.go true)

/-- The second session waits for the lock of the first one, then finds the address taken and rolls
back. -/
theorem hardware_ip_exclusive_contending :
    ((contendingSaves 1 ++ [Event.go false]).foldlM
        (State.perform HardwareTransaction.program ScopeFreeCommit)
        (State.quiet .empty)).isNone = true ∧
      ∃ state : State Inventory Int HardwareTransaction Bool,
        (contendingSaves 5 ++ List.replicate 3 (Event.go false)).foldlM
          (State.perform HardwareTransaction.program ScopeFreeCommit)
          (State.quiet .empty) = some state ∧
        (state.sessions false).isNone = true ∧
        (state.store.chassis.length, state.store.chargers.length) = (1, 0) ∧
        ∀ chassis ∈ state.store.chassis, ∀ charger ∈ state.store.chargers,
          ¬ SameCanonicalIp chassis charger := by
  have hruns : ((contendingSaves 5 ++ List.replicate 3 (Event.go false)).foldlM
      (State.perform HardwareTransaction.program ScopeFreeCommit) (State.quiet .empty)).any
      (fun state : State Inventory Int HardwareTransaction Bool =>
        (state.sessions false).isNone = true ∧
        (state.store.chassis.length, state.store.chargers.length) = (1, 0)) = true := by
    decide +kernel
  obtain ⟨state, hstate, hfound⟩ := (Option.any_eq_true _ _).mp hruns
  obtain ⟨hended, hrows⟩ := of_decide_eq_true hfound
  exact ⟨by decide +kernel, state, hstate, hended, hrows,
    hardware_ip_exclusive apart_empty (run_of_schedule hstate)⟩

/-- The lock of an address with a scope is not the lock of the address the column stores, so two saves
that are under way together give one address to a chassis and to a charger. -/
theorem scoped_ip_shared :
    ¬ ∀ (store : Inventory) (state : State Inventory Int HardwareTransaction Bool), store.Apart →
      Relation.ReflTransGen (Step HardwareTransaction.program fun _ _ => True)
        (State.quiet store) state →
      ∀ chassis ∈ state.store.chassis, ∀ charger ∈ state.store.chargers,
        ¬ SameCanonicalIp chassis charger := by
  intro h
  have hruns : ((racingSaves "fe80::1%eth0" "fe80::1").foldlM
      (State.perform HardwareTransaction.program fun _ _ => True) (State.quiet .empty)).any
      (fun state => chassisConflict state.store "fe80::1" && chargerConflict state.store "fe80::1") =
        true := by
    decide +kernel
  have hcanonical : canonicalIp (some "fe80::1") = .ok (some "fe80::1") := by
    have haddress : ipAddress "fe80::1" = some "fe80::1" := by decide +kernel
    simp only [canonicalIp, haddress]
    rfl
  obtain ⟨state, hstate, hshared⟩ := (Option.any_eq_true _ _).mp hruns
  obtain ⟨hchassis, hcharger⟩ := Bool.and_eq_true_iff.mp hshared
  obtain ⟨chassis, hchassis, hchassisIp⟩ := List.any_eq_true.mp hchassis
  obtain ⟨charger, hcharger, hchargerIp⟩ := List.any_eq_true.mp hcharger
  refine h .empty state apart_empty (run_of_schedule hstate) chassis hchassis charger hcharger
    ⟨"fe80::1", ?_, ?_⟩
  · rw [of_decide_eq_true hchassisIp]
    exact hcanonical
  · rw [of_decide_eq_true hchargerIp]
    exact hcanonical

end Micboard
