import Micboard.LibraryBudget
import Mathlib.Algebra.BigOperators.Group.Finset.Basic

/-! Fairness of dealing in rounds. A round brings everyone who still wants something to the next
level, and the budget breaks off the last round only; so those who did not get all they want have
got the same, up to one. -/

namespace Library.Budget

section Shares

/-- What shares look like before a round: no one is above the level, and who is below wants nothing. -/
def Level (level : Nat) (sources : List (Nat × Nat)) : Prop :=
  ∀ source ∈ sources, source.1 ≤ level ∧ (source.1 < source.2 → level ≤ source.1)

/-- What shares look like in the middle of a round. -/
def Fair (level : Nat) (sources : List (Nat × Nat)) : Prop :=
  ∀ source ∈ sources, source.1 ≤ level + 1 ∧ (source.1 < source.2 → level ≤ source.1)

variable {level remaining limit : Nat} {sources : List (Nat × Nat)} {sizes : List Nat}

theorem Level.fair (h : Level level sources) : Fair level sources :=
  fun source hsource => ⟨(h source hsource).1.trans (Nat.le_succ level), (h source hsource).2⟩

/-- A round that is not broken off raises the level. -/
theorem allocateRound_fair (h : Level level sources) (hremaining : 0 < remaining) :
    Fair level (allocateRound sources remaining).1 ∧
      (0 < (allocateRound sources remaining).2.1 →
        Level (level + 1) (allocateRound sources remaining).1) := by
  induction sources generalizing remaining with
  | nil => exact ⟨fun source hsource => (nomatch hsource), fun _ source hsource => (nomatch hsource)⟩
  | cons source rest ih =>
      obtain ⟨share, size⟩ := source
      obtain ⟨hhead, hrest⟩ := List.forall_mem_cons.mp h
      rw [allocateRound]
      split
      next hserved =>
        obtain ⟨hfair, hlevel⟩ := ih hrest hremaining
        have hsame : share ≤ level + 1 ∧ ∀ level', share < size → level' ≤ share :=
          ⟨hhead.1.trans (Nat.le_succ level), fun _ hlt => absurd hlt (Nat.not_lt.mpr hserved)⟩
        exact ⟨List.forall_mem_cons.mpr ⟨⟨hsame.1, hsame.2 level⟩, hfair⟩,
          fun hleft => List.forall_mem_cons.mpr ⟨⟨hsame.1, hsame.2 (level + 1)⟩, hlevel hleft⟩⟩
      next hserved =>
        have hshare := hhead.2 (Nat.not_le.mp hserved)
        split
        next hlast =>
          refine ⟨List.forall_mem_cons.mpr ⟨⟨Nat.succ_le_succ hhead.1, fun _ => ?_⟩, Level.fair hrest⟩,
            fun hleft => absurd hleft (Nat.lt_irrefl 0)⟩
          exact hshare.trans (Nat.le_succ share)
        next hlast =>
          obtain ⟨hfair, hlevel⟩ := ih hrest (show 0 < remaining - 1 by omega)
          exact ⟨List.forall_mem_cons.mpr
              ⟨⟨Nat.succ_le_succ hhead.1, fun _ => hshare.trans (Nat.le_succ share)⟩, hfair⟩,
            fun hleft => List.forall_mem_cons.mpr
              ⟨⟨Nat.succ_le_succ hhead.1, fun _ => Nat.succ_le_succ hshare⟩, hlevel hleft⟩⟩

theorem allocateRounds_fair (rounds : Nat) (h : Level level sources) (remaining : Nat) :
    ∃ level', Fair level' (allocateRounds rounds sources remaining) := by
  induction rounds generalizing level sources remaining with
  | zero => exact ⟨level, h.fair⟩
  | succ rounds ih =>
      rw [allocateRounds]
      split
      next => exact ⟨level, h.fair⟩
      next hspend =>
        obtain ⟨hfair, hlevel⟩ := allocateRound_fair h (Nat.pos_of_ne_zero hspend)
        simp only
        split
        next =>
          rcases Nat.eq_zero_or_pos (allocateRound sources remaining).2.1 with hspent | hleft
          · rw [hspent]
            refine ⟨level, ?_⟩
            cases rounds with
            | zero => exact hfair
            | succ rounds => exact hfair
          · exact ih (hlevel hleft) _
        next => exact ⟨level, hfair⟩

/-- **Dealing is fair**: no share is above its size, the shares add up to the budget or to all that is
wanted, and of two that want more neither is ahead by more than one. -/
theorem allocate_fair (limit : Nat) (sizes : List Nat) :
    List.Forall₂ (· ≤ ·) (allocate limit sizes) sizes ∧
      (allocate limit sizes).sum = min limit sizes.sum ∧
      ∀ source ∈ (allocate limit sizes).zip sizes, ∀ other ∈ (allocate limit sizes).zip sizes,
        source.1 < source.2 → other.1 < other.2 → source.1 ≤ other.1 + 1 := by
  obtain ⟨left, hzip, hwithin, hspent, hend⟩ := exists_dealt limit sizes
  refine ⟨hwithin, ?_, ?_⟩
  · have hle := hwithin.sum_le_sum
    rcases hend with hnone | hall
    · omega
    · rw [hall] at hspent ⊢
      omega
  · have hstart : Level 0 (sizes.map fun size => (0, size)) := by
      intro source hsource
      obtain ⟨size, -, rfl⟩ := List.mem_map.mp hsource
      exact ⟨Nat.le_refl 0, fun _ => Nat.le_refl 0⟩
    obtain ⟨level, hfair⟩ := allocateRounds_fair (limit + 1) hstart limit
    rw [hzip]
    intro source hsource other hother _ hwants
    exact (hfair source hsource).1.trans (Nat.succ_le_succ ((hfair other hother).2 hwants))

/-- Rounds take nothing back. -/
theorem allocateRounds_cons (rounds share size : Nat) (rest : List (Nat × Nat)) (remaining : Nat) :
    ∃ share' rest', allocateRounds rounds ((share, size) :: rest) remaining = (share', size) :: rest' ∧
      share ≤ share' := by
  induction rounds generalizing share rest remaining with
  | zero => exact ⟨share, rest, rfl, Nat.le_refl share⟩
  | succ rounds ih =>
      obtain ⟨share', rest', hround, hle⟩ : ∃ share' rest',
          (allocateRound ((share, size) :: rest) remaining).1 = (share', size) :: rest' ∧
            share ≤ share' := by
        rw [allocateRound]
        split
        next => exact ⟨share, _, rfl, Nat.le_refl share⟩
        next =>
          split
          next => exact ⟨share + 1, rest, rfl, Nat.le_succ share⟩
          next => exact ⟨share + 1, _, rfl, Nat.le_succ share⟩
      rw [allocateRounds]
      split
      next => exact ⟨share, rest, rfl, Nat.le_refl share⟩
      next =>
        simp only [hround]
        split
        next =>
          obtain ⟨share'', rest'', hrounds, hle'⟩ :=
            ih share' rest' (allocateRound ((share, size) :: rest) remaining).2.1
          exact ⟨share'', rest'', hrounds, hle.trans hle'⟩
        next => exact ⟨share', rest', rfl, hle⟩

/-- The first source is never passed over. -/
theorem allocate_cons_pos {size : Nat} (hlimit : 0 < limit) (hsize : 0 < size) :
    ∃ share shares, allocate limit (size :: sizes) = share :: shares ∧ 0 < share := by
  obtain ⟨rest, remaining, hround⟩ : ∃ rest remaining,
      allocateRound ((0, size) :: sizes.map fun size => (0, size)) limit =
        ((1, size) :: rest, remaining, true) := by
    rw [allocateRound, if_neg (Nat.not_le.mpr hsize)]
    split
    next => exact ⟨_, _, rfl⟩
    next => exact ⟨_, _, rfl⟩
  obtain ⟨share, rest', hrounds, hle⟩ := allocateRounds_cons limit 1 size rest remaining
  refine ⟨share, rest'.map Prod.fst, ?_, hle⟩
  rw [allocate, List.map_cons, allocateRounds, if_neg (Nat.ne_of_gt hlimit), hround]
  simp only [if_true]
  rw [hrounds, List.map_cons]

end Shares

/-! ### Iterators -/

section Iterators

variable {κ α : Type*} [DecidableEq κ]

/-- The items that were taken from an iterator. -/
def takenOf (key : κ) (taken : List (κ × α)) : List α :=
  (taken.filter fun item => item.1 = key).map Prod.snd

/-- The items that an iterator still has. -/
def leftOf (key : κ) (active : List (κ × List α)) : List α :=
  ((active.find? fun iterator => iterator.1 = key).map Prod.snd).getD []

@[simp] theorem takenOf_nil (key : κ) : takenOf key ([] : List (κ × α)) = [] := rfl

@[simp] theorem leftOf_nil (key : κ) : leftOf key ([] : List (κ × List α)) = [] := rfl

variable {key other : κ} {item : α} {items : List α} {taken : List (κ × α)} {active : List (κ × List α)}

@[simp] theorem takenOf_cons_self : takenOf key ((key, item) :: taken) = item :: takenOf key taken := by
  simp [takenOf]

theorem takenOf_cons_of_ne (h : other ≠ key) : takenOf key
    ((other, item) :: taken) = takenOf key taken := by
  simp [takenOf, h]

@[simp] theorem takenOf_append (first second : List (κ × α)) :
    takenOf key (first ++ second) = takenOf key first ++ takenOf key second := by
  simp [takenOf]

@[simp] theorem leftOf_cons_self : leftOf key ((key, items) :: active) = items := by
  simp [leftOf]

theorem leftOf_cons_of_ne (h : other ≠ key) : leftOf key
    ((other, items) :: active) = leftOf key active := by
  simp [leftOf, h]

theorem leftOf_of_notMem (h : key ∉ active.map Prod.fst) : leftOf key active = [] := by
  rw [leftOf, List.find?_eq_none.mpr]
  · rfl
  · intro iterator hiterator heq
    exact h (List.mem_map.mpr ⟨iterator, hiterator, of_decide_eq_true heq⟩)

theorem leftOf_of_mem (hkeys : (active.map Prod.fst).Nodup) (h : (key, items) ∈ active) :
    leftOf key active = items := by
  induction active with
  | nil => cases h
  | cons iterator rest ih =>
      obtain ⟨hfirst, hrest⟩ := List.nodup_cons.mp hkeys
      rcases List.mem_cons.mp h with rfl | h
      · exact leftOf_cons_self
      · have hne : iterator.1 ≠ key := by
          rintro rfl
          exact hfirst (List.mem_map.mpr ⟨_, h, rfl⟩)
        exact (leftOf_cons_of_ne hne).trans (ih hrest h)

variable (limit : Nat)

omit [DecidableEq κ] in
theorem consumeRound_keys (active : List (κ × List α)) (total : Nat) :
    ((consumeRound limit active total).2.1.map Prod.fst).Sublist (active.map Prod.fst) := by
  induction active generalizing total with
  | nil => exact .slnil
  | cons iterator rest ih =>
      obtain ⟨first, items⟩ := iterator
      cases items with
      | nil => exact .cons _ (ih total)
      | cons head later =>
          rw [consumeRound]
          split
          next => exact .refl _
          next => exact .cons_cons _ (ih (total + 1))

/-- A round takes one item at most of each iterator, and one of each that has any unless it is
broken off. -/
theorem consumeRound_takes (hkeys : (active.map Prod.fst).Nodup) (total : Nat) (key : κ) :
    takenOf key (consumeRound limit active total).1 ++ leftOf key
      (consumeRound limit active total).2.1 =
        leftOf key active ∧
      (takenOf key (consumeRound limit active total).1).length ≤ 1 ∧
      ((consumeRound limit active total).2.2 < limit → leftOf key active ≠ [] →
        (takenOf key (consumeRound limit active total).1).length = 1) := by
  induction active generalizing total with
  | nil => exact ⟨rfl, Nat.zero_le 1, fun _ hnone => absurd rfl hnone⟩
  | cons iterator rest ih =>
      obtain ⟨first, items⟩ := iterator
      obtain ⟨hfirst, hrest⟩ := List.nodup_cons.mp hkeys
      cases items with
      | nil =>
          have hround := ih hrest total
          have hsame : leftOf key ((first, []) :: rest) = leftOf key rest := by
            by_cases hkey : first = key
            · subst hkey
              rw [leftOf_cons_self, leftOf_of_notMem hfirst]
            · exact leftOf_cons_of_ne hkey
          rw [hsame]
          exact hround
      | cons head later =>
          rw [consumeRound]
          split
          next hlast =>
            by_cases hkey : first = key
            · subst hkey
              simp
            · rw [takenOf_cons_of_ne hkey, leftOf_cons_of_ne hkey, leftOf_cons_of_ne hkey, takenOf_nil]
              exact ⟨rfl, Nat.zero_le 1, fun hless => absurd hlast (Nat.ne_of_lt hless)⟩
          next hlast =>
            have hround := ih hrest (total + 1)
            simp only
            by_cases hkey : first = key
            · subst hkey
              rw [leftOf_of_notMem hfirst] at hround
              obtain ⟨hnone, -⟩ := List.append_eq_nil_iff.mp hround.1
              simp [hnone]
            · rw [takenOf_cons_of_ne hkey, leftOf_cons_of_ne hkey, leftOf_cons_of_ne hkey]
              exact hround

omit [DecidableEq κ] in
theorem consumeRounds_of_spent {total : Nat} (h : limit ≤ total) (rounds : Nat)
    (active : List (κ × List α)) :
    consumeRounds limit rounds active total = ([], active, total) := by
  cases rounds with
  | zero => rfl
  | succ rounds => rw [consumeRounds, if_pos (Bool.or_eq_true_iff.mpr (.inr (decide_eq_true h)))]

omit [DecidableEq κ] in
theorem consumeRounds_keys (rounds : Nat) (active : List (κ × List α)) (total : Nat) :
    ((consumeRounds limit rounds active total).2.1.map Prod.fst).Sublist (active.map Prod.fst) := by
  induction rounds generalizing active total with
  | zero => exact .refl _
  | succ rounds ih =>
      rw [consumeRounds]
      split
      next => exact .refl _
      next => exact (ih _ _).trans (consumeRound_keys limit active total)

/-- **Rounds are fair**: each iterator is taken from its front, and of two that still have items
neither is ahead by more than one. -/
theorem consumeRounds_fair (rounds : Nat) (hkeys : (active.map Prod.fst).Nodup) (total : Nat) :
    ∃ level, ∀ key,
      takenOf key (consumeRounds limit rounds active total).1 ++
          leftOf key (consumeRounds limit rounds active total).2.1 = leftOf key active ∧
        (takenOf key (consumeRounds limit rounds active total).1).length ≤ level + 1 ∧
        (leftOf key (consumeRounds limit rounds active total).2.1 ≠ [] →
          level ≤ (takenOf key (consumeRounds limit rounds active total).1).length) := by
  induction rounds generalizing active total with
  | zero => exact ⟨0, fun key => ⟨rfl, Nat.zero_le _, fun _ => Nat.zero_le _⟩⟩
  | succ rounds ih =>
      rw [consumeRounds]
      split
      next => exact ⟨0, fun key => ⟨rfl, Nat.zero_le _, fun _ => Nat.zero_le _⟩⟩
      next =>
        simp only [takenOf_append]
        have hround := consumeRound_takes limit hkeys total
        have hkeys' := hkeys.sublist (consumeRound_keys limit active total)
        rcases Nat.lt_or_ge (consumeRound limit active total).2.2 limit with hless | hspent
        · obtain ⟨level, hlater⟩ := ih hkeys' (consumeRound limit active total).2.2
          refine ⟨level + 1, fun key => ?_⟩
          obtain ⟨htakes, hone, hfull⟩ := hround key
          obtain ⟨hrest, hmost, hleast⟩ := hlater key
          refine ⟨?_, ?_, fun hmore => ?_⟩
          · rw [List.append_assoc, hrest, htakes]
          · rw [List.length_append]
            exact (Nat.add_le_add hone hmost).trans (Nat.le_of_eq (Nat.add_comm 1 (level + 1)))
          · have hwanted : leftOf key active ≠ [] := by
              intro hnone
              rw [hnone, ← hrest] at htakes
              exact hmore (List.append_eq_nil_iff.mp (List.append_eq_nil_iff.mp htakes).2).2
            rw [List.length_append, hfull hless hwanted, Nat.add_comm 1]
            exact Nat.succ_le_succ (hleast hmore)
        · refine ⟨0, fun key => ?_⟩
          obtain ⟨htakes, hone, -⟩ := hround key
          rw [consumeRounds_of_spent limit hspent, takenOf_nil, List.append_nil]
          exact ⟨htakes, hone, fun _ => Nat.zero_le _⟩

omit [DecidableEq κ] in
/-- A budget is spent as far as there is something to take. -/
theorem consume_total (active : List (κ × List α)) :
    (consume limit active).2.1 = min limit (remainder active) := by
  obtain ⟨hle, hcount⟩ := @consumeRounds_counts _ _ limit (limit + 1) active 0 (Nat.zero_le limit)
  have htotal : (consume limit active).2.1 = (consumeRounds limit (limit + 1) active 0).2.2 := rfl
  rw [htotal]
  rcases @consume_ends _ _ limit active with hend | hspent
  · rw [hend, remainder, List.map_nil, List.sum_nil] at hcount
    omega
  · rw [htotal] at hspent
    omega

/-- Every iterator ended exactly if everything was taken of each. -/
theorem consume_complete_iff_taken (hkeys : (active.map Prod.fst).Nodup) :
    (consume limit active).2.2 = true ↔
      ∀ key, takenOf key (consume limit active).1 = leftOf key active := by
  obtain ⟨level, hfair⟩ := consumeRounds_fair limit (limit + 1) hkeys 0
  have hkeys' := hkeys.sublist (consumeRounds_keys limit (limit + 1) active 0)
  have hcomplete : (consume limit active).2.2 = true ↔
      ∀ iterator ∈ (consumeRounds limit (limit + 1) active 0).2.1, iterator.2 = [] := by
    simp only [consume, List.all_eq_true, List.isEmpty_iff]
  rw [hcomplete]
  constructor
  · intro hnone key
    have hleft : leftOf key (consumeRounds limit (limit + 1) active 0).2.1 = [] := by
      cases hfind : (consumeRounds limit (limit + 1) active 0).2.1.find? fun iterator =>
        iterator.1 = key with
      | none => rw [leftOf, hfind]; rfl
      | some iterator =>
          rw [leftOf, hfind]
          exact hnone iterator (List.mem_of_find?_eq_some hfind)
    have htaken := (hfair key).1
    rw [hleft, List.append_nil] at htaken
    exact htaken
  · rintro hall ⟨key, items⟩ hiterator
    have htaken := (hfair key).1
    rw [leftOf_of_mem hkeys' hiterator, ← hall key] at htaken
    exact List.append_right_eq_self.mp htaken

/-- What a budget takes from iterators with different keys: a part from the front of each, and of
two that have more neither is ahead by more than one. -/
theorem consume_fair (hkeys : (active.map Prod.fst).Nodup) :
    (∀ key, takenOf key (consume limit active).1 <+: leftOf key active) ∧
      ∀ key other, (takenOf key (consume limit active).1).length < (leftOf key active).length →
        (takenOf other (consume limit active).1).length < (leftOf other active).length →
          (takenOf key (consume limit active).1).length ≤
            (takenOf other (consume limit active).1).length + 1 := by
  obtain ⟨level, hfair⟩ := consumeRounds_fair limit (limit + 1) hkeys 0
  refine ⟨fun key => ⟨_, (hfair key).1⟩, fun key other _ hother => ?_⟩
  obtain ⟨hparts, -, hleast⟩ := hfair other
  have hmore : leftOf other (consumeRounds limit (limit + 1) active 0).2.1 ≠ [] := by
    intro hnone
    rw [hnone, List.append_nil] at hparts
    exact absurd (congrArg List.length hparts) (Nat.ne_of_lt hother)
  exact (hfair key).2.1.trans (Nat.succ_le_succ (hleast hmore))

omit [DecidableEq κ] in
theorem consumeRound_length (active : List (κ × List α)) (total : Nat) :
    total + (consumeRound limit active total).1.length = (consumeRound limit active total).2.2 := by
  induction active generalizing total with
  | nil => rfl
  | cons iterator rest ih =>
      obtain ⟨first, items⟩ := iterator
      cases items with
      | nil => exact ih total
      | cons head later =>
          rw [consumeRound]
          split
          next => rfl
          next =>
            rw [← ih (total + 1), List.length_cons]
            exact (Nat.succ_add_eq_add_succ total _).symm

omit [DecidableEq κ] in
theorem consumeRounds_length (rounds : Nat) (active : List (κ × List α)) (total : Nat) :
    total + (consumeRounds limit rounds active total).1.length =
      (consumeRounds limit rounds active total).2.2 := by
  induction rounds generalizing active total with
  | zero => rfl
  | succ rounds ih =>
      rw [consumeRounds]
      split
      next => rfl
      next =>
        rw [← ih, List.length_append, ← Nat.add_assoc, consumeRound_length]

theorem sum_length_takenOf {keys : List κ} (hkeys : keys.Nodup)
    (htaken : ∀ item ∈ taken, item.1 ∈ keys) :
    (keys.map fun key => (takenOf key taken).length).sum = taken.length := by
  have hcount : ∀ key, (takenOf key taken).length = (taken.map Prod.fst : Multiset κ).count key := by
    intro key
    rw [takenOf, List.length_map, Multiset.coe_count, List.count_eq_length_filter, List.filter_map,
      List.length_map]
    exact congrArg List.length (List.filter_congr fun item _ => rfl)
  simp only [hcount]
  rw [← List.sum_toFinset _ hkeys, Multiset.sum_count_eq_card]
  · rw [Multiset.coe_card, List.length_map]
  · intro key hkey
    obtain ⟨item, hitem, rfl⟩ := List.mem_map.mp (Multiset.mem_coe.mp hkey)
    exact List.mem_toFinset.mpr (htaken item hitem)

end Iterators

end Library.Budget
