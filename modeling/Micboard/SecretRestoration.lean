import Micboard.SecretRedaction

/-! Restoring what was redacted. A redacted configuration whose lists were rearranged is restored to
the same rearrangement of the original, or refused: no secret ends up in another item. And what is
redacted tells nothing of the secrets. -/

namespace Micboard

open Library Library.Text

theorem any_congr_of_mem {α : Type} {items : List α} {p q : α → Bool}
    (h : ∀ item ∈ items, p item = q item) :
    items.any p = items.any q := by
  rw [Bool.eq_iff_iff, List.any_eq_true, List.any_eq_true]
  exact exists_congr fun item => and_congr_right fun hitem => by rw [h item hitem]

section Traversal

variable (python : PolicyText)

theorem placeholderInItems_eq (items : List Json) :
    placeholderInItems python items = items.any (containsSecretPlaceholder python) := by
  induction items with
  | nil => rfl
  | cons item rest ih => rw [placeholderInItems, List.any_cons, ih]

theorem placeholderInFields_eq (fields : List (String × Json)) : placeholderInFields python fields =
    fields.any fun field => (isSecret python field.1 && isRedacted field.2) ||
      containsSecretPlaceholder python field.2 := by
  induction fields with
  | nil => rfl
  | cons field rest ih => rw [placeholderInFields, List.any_cons, ih]

theorem secretKeyInItems_eq (items : List Json) :
    secretKeyInItems python items = items.any (containsSecretKey python) := by
  induction items with
  | nil => rfl
  | cons item rest ih => rw [secretKeyInItems, List.any_cons, ih]

theorem secretKeyInFields_eq (fields : List (String × Json)) : secretKeyInFields python fields =
    fields.any fun field => isSecret python field.1 || containsSecretKey python field.2 := by
  induction fields with
  | nil => rfl
  | cons field rest ih => rw [secretKeyInFields, List.any_cons, ih]

theorem redactItems_eq (items : List Json) :
    redactItems python items = items.map (redactSecrets python) := by
  induction items with
  | nil => rfl
  | cons item rest ih => rw [redactItems, List.map_cons, ih]

/-- The value that is shown of a field. -/
def redactedField (field : String × Json) : Json :=
  if isSecret python field.1 then .text redactedValue else redactSecrets python field.2

theorem redactFields_eq (fields : List (String × Json)) :
    redactFields python fields = fields.map fun field => (field.1, redactedField python field) := by
  induction fields with
  | nil => rfl
  | cons field rest ih =>
      rw [redactFields, List.map_cons, ih]
      rfl

end Traversal

namespace Rearrangement

variable {rearrangement : Rearrangement}

theorem apply_keep (value : Json) : keep.apply value = value := by
  cases value <;> rfl

theorem Permutes.array {items : List Json} (h : rearrangement.Permutes (.array items)) :
    ∃ (order : List Nat) (inner : Nat → Rearrangement), order.Perm (List.range items.length) ∧
      (∀ place value, items[place]? = some value → Permutes (inner place) value) ∧
      ∀ values : List Json, values.length = items.length → rearrangement.apply (.array values) =
        .array (order.map fun place => (inner place).apply (values[place]?.getD .null)) := by
  cases rearrangement with
  | keep =>
      refine ⟨List.range items.length, fun _ => keep, .rfl, fun _ _ _ => trivial,
        fun values hlength => ?_⟩
      rw [apply_keep, ← hlength]
      congr 1
      apply List.ext_getElem
      · simp
      · intro place hplace _
        simp [apply_keep, hplace]
  | items order inner => exact ⟨order, inner, h.1, h.2, fun _ _ => rfl⟩
  | fields inner => exact absurd h id

theorem Permutes.object {fields : List (String × Json)} (h : rearrangement.Permutes (.object fields)) :
    ∃ inner : String → Rearrangement, (∀ field ∈ fields, (inner field.1).Permutes field.2) ∧
      ∀ values : List (String × Json), rearrangement.apply (.object values) =
        .object (values.map fun field => (field.1, (inner field.1).apply field.2)) := by
  cases rearrangement with
  | keep =>
      refine ⟨fun _ => keep, fun _ _ => trivial, fun values => ?_⟩
      rw [apply_keep]
      simp [apply_keep]
  | items order inner => exact absurd h id
  | fields inner => exact ⟨inner, h, fun _ => rfl⟩

theorem Permutes.eq_keep {value : String} (h : rearrangement.Permutes (.text value)) :
    rearrangement = keep := by
  cases rearrangement with
  | keep => rfl
  | items order inner => exact absurd h id
  | fields inner => exact absurd h id

end Rearrangement

section Rearranged

variable {python : PolicyText}

structure RearrangedItems (python : PolicyText) (rearrangement : Rearrangement) (items : List Json)
    (order : List Nat) (inner : Nat → Rearrangement) : Prop where
  places : ∀ place, place ∈ order ↔ place < items.length
  length : order.length = items.length
  permutes : ∀ place item, items[place]? = some item →
    (inner place).Permutes (redactSecrets python item)
  redacted : rearrangement.apply (redactSecrets python (.array items)) =
    .array (order.map fun place =>
      (inner place).apply (redactSecrets python (items[place]?.getD .null)))
  original : rearrangement.apply (.array items) =
    .array (order.map fun place => (inner place).apply (items[place]?.getD .null))

theorem rearrangedItems {rearrangement : Rearrangement} {items : List Json}
    (h : rearrangement.Permutes (redactSecrets python (.array items))) :
    ∃ order inner, RearrangedItems python rearrangement items order inner := by
  rw [redactSecrets, redactItems_eq] at h
  obtain ⟨order, inner, hperm, hpermutes, happly⟩ := h.array
  rw [List.length_map] at hperm
  refine ⟨order, inner, fun place => ?_, ?_, fun place item hitem => ?_, ?_, ?_⟩
  · rw [hperm.mem_iff, List.mem_range]
  · rw [hperm.length_eq, List.length_range]
  · refine hpermutes place _ ?_
    rw [List.getElem?_map, hitem]
    rfl
  · rw [redactSecrets, redactItems_eq, happly _ rfl]
    congr 1
    refine List.map_congr_left fun place hplace => ?_
    rw [List.getElem?_map]
    cases items[place]? <;> rfl
  · exact happly items (List.length_map _).symm

structure RearrangedFields (python : PolicyText) (rearrangement : Rearrangement)
    (fields : List (String × Json)) (inner : String → Rearrangement) : Prop where
  secret : ∀ field ∈ fields, isSecret python field.1 = true → inner field.1 = .keep
  permutes : ∀ field ∈ fields, isSecret python field.1 = false →
    (inner field.1).Permutes (redactSecrets python field.2)
  redacted : rearrangement.apply (redactSecrets python (.object fields)) =
    .object (fields.map fun field => (field.1, (inner field.1).apply (redactedField python field)))
  original : rearrangement.apply (.object fields) =
    .object (fields.map fun field => (field.1, (inner field.1).apply field.2))

theorem rearrangedFields {rearrangement : Rearrangement} {fields : List (String × Json)}
    (h : rearrangement.Permutes (redactSecrets python (.object fields))) :
    ∃ inner, RearrangedFields python rearrangement fields inner := by
  rw [redactSecrets, redactFields_eq] at h
  obtain ⟨inner, hpermutes, happly⟩ := h.object
  have hfield : ∀ field ∈ fields, (inner field.1).Permutes (redactedField python field) :=
    fun field hmem => hpermutes _ (List.mem_map_of_mem hmem)
  refine ⟨inner, fun field hmem hsecret => ?_, fun field hmem hsecret => ?_, ?_, happly fields⟩
  · have hpermutes := hfield field hmem
    rw [redactedField, if_pos hsecret] at hpermutes
    exact hpermutes.eq_keep
  · have hpermutes := hfield field hmem
    rwa [redactedField, if_neg (by simp [hsecret])] at hpermutes
  · rw [redactSecrets, redactFields_eq, happly, List.map_map]
    rfl

theorem RearrangedItems.item {rearrangement : Rearrangement} {items : List Json} {order : List Nat}
    {inner : Nat → Rearrangement} (h : RearrangedItems python rearrangement items order inner)
    {place : Nat} (hplace : place ∈ order) : ∃ item ∈ items, items[place]? = some item ∧
      items[place]?.getD .null = item ∧ (inner place).Permutes (redactSecrets python item) := by
  have hlt := (h.places place).mp hplace
  have hitem : items[place]? = some items[place] := List.getElem?_eq_getElem hlt
  exact ⟨items[place], List.getElem_mem hlt, hitem, by rw [hitem]; rfl, h.permutes place _ hitem⟩

/-- A rearranged redacted value holds a mark exactly where the original has a secret key. -/
theorem containsSecretPlaceholder_redacted (value : Json) : ∀ rearrangement : Rearrangement,
    rearrangement.Permutes (redactSecrets python value) →
      containsSecretPlaceholder python (rearrangement.apply (redactSecrets python value)) =
        containsSecretKey python value := by
  induction value using Json.induct with
  | null | bool | int | float | text =>
      intro rearrangement h
      cases rearrangement <;> rfl
  | array items ih =>
      intro rearrangement h
      obtain ⟨order, inner, hitems⟩ := rearrangedItems h
      rw [hitems.redacted, containsSecretPlaceholder, containsSecretKey, placeholderInItems_eq,
        secretKeyInItems_eq, List.any_map, Bool.eq_iff_iff, List.any_eq_true, List.any_eq_true]
      constructor
      · rintro ⟨place, hplace, hmark⟩
        obtain ⟨item, hmem, -, hget, hpermutes⟩ := hitems.item hplace
        rw [Function.comp_apply, hget, ih item hmem _ hpermutes] at hmark
        exact ⟨item, hmem, hmark⟩
      · rintro ⟨item, hmem, hsecret⟩
        obtain ⟨place, hplace, rfl⟩ := List.mem_iff_getElem.mp hmem
        obtain ⟨item, hmem, hitem, hget, hpermutes⟩ := hitems.item ((hitems.places place).mpr hplace)
        rw [List.getElem?_eq_getElem hplace, Option.some.injEq] at hitem
        refine ⟨place, (hitems.places place).mpr hplace, ?_⟩
        rw [Function.comp_apply, hget, ih item hmem _ hpermutes, ← hitem]
        exact hsecret
  | object fields ih =>
      intro rearrangement h
      obtain ⟨inner, hfields⟩ := rearrangedFields h
      rw [hfields.redacted, containsSecretPlaceholder, containsSecretKey, placeholderInFields_eq,
        secretKeyInFields_eq, List.any_map]
      refine any_congr_of_mem fun field hmem => ?_
      rw [Function.comp_apply]
      cases hsecret : isSecret python field.1 with
      | true =>
          rw [hfields.secret field hmem hsecret, Rearrangement.apply_keep,
            redactedField, if_pos hsecret]
          simp [isRedacted]
      | false =>
          rw [redactedField, if_neg (by simp [hsecret]),
            ih field hmem _ (hfields.permutes field hmem hsecret)]
          simp

theorem redactSecrets_of_not_containsSecretKey (value : Json)
    (h : containsSecretKey python value = false) : redactSecrets python value = value := by
  induction value using Json.induct with
  | null | bool | int | float | text => rfl
  | array items ih =>
      rw [containsSecretKey, secretKeyInItems_eq, List.any_eq_false] at h
      rw [redactSecrets, redactItems_eq]
      congr 1
      conv_rhs => rw [← List.map_id items]
      exact List.map_congr_left fun item hitem => ih item hitem (by simpa using h item hitem)
  | object fields ih =>
      rw [containsSecretKey, secretKeyInFields_eq, List.any_eq_false] at h
      rw [redactSecrets, redactFields_eq]
      congr 1
      conv_rhs => rw [← List.map_id fields]
      refine List.map_congr_left fun field hfield => ?_
      obtain ⟨hkey, hvalue⟩ : isSecret python field.1 = false ∧
          containsSecretKey python field.2 = false := by
        simpa using h field hfield
      rw [redactedField, if_neg (by simp [hkey]), ih field hfield hvalue]
      rfl

/-- A value without a mark is kept as it is, whatever it is compared with. -/
theorem restore_of_not_placeholder (value : Json) (h : containsSecretPlaceholder python value = false) :
    ∀ original, restoreRedactedSecrets python value original = .ok value := by
  induction value using Json.induct with
  | null | bool | int | float | text => exact fun _ => rfl
  | array items ih =>
      rw [containsSecretPlaceholder, placeholderInItems_eq, List.any_eq_false] at h
      have hitems : ∀ original requireIdentity index,
          restoreItems python items original requireIdentity index = .ok items := by
        intro original requireIdentity index
        induction items generalizing index with
        | nil => rfl
        | cons item rest ihrest =>
            obtain ⟨hitem, hrest⟩ := List.forall_mem_cons.mp h
            obtain ⟨ihitem, ihothers⟩ := List.forall_mem_cons.mp ih
            have hmark : containsSecretPlaceholder python item = false := by simpa using hitem
            rw [restoreItems, originalItem, if_neg (by simp [hmark])]
            show (restoreRedactedSecrets python item _ >>= _) = _
            rw [ihitem hmark]
            show (restoreItems python rest _ _ _ >>= _) = _
            rw [ihrest ihothers hrest]
            rfl
      intro original
      rw [restoreRedactedSecrets, hitems]
      rfl
  | object fields ih =>
      rw [containsSecretPlaceholder, placeholderInFields_eq, List.any_eq_false] at h
      have hfields : ∀ original, restoreFields python fields original = .ok fields := by
        intro original
        induction fields with
        | nil => rfl
        | cons field rest ihrest =>
            obtain ⟨hfield, hrest⟩ := List.forall_mem_cons.mp h
            obtain ⟨ihfield, ihothers⟩ := List.forall_mem_cons.mp ih
            obtain ⟨hmark, hvalue⟩ : (isSecret python field.1 && isRedacted field.2) = false ∧
                containsSecretPlaceholder python field.2 = false := by
              rwa [Bool.not_eq_true, Bool.or_eq_false_iff] at hfield
            rw [restoreFields, hmark, if_neg Bool.false_ne_true, ihfield hvalue]
            show (restoreFields python rest _ >>= _) = _
            rw [ihrest ihothers hrest]
            rfl
      intro original
      rw [restoreRedactedSecrets, hfields]
      rfl

/-- The names of the conventional identities are no secrets. -/
theorem not_isSecret_of_identity {key identityKey : String} (hidentity : identityKey ∈ listIdentityKeys)
    (hkey : compactKey python.toPythonText key = identityKey.toList) : isSecret python key = false := by
  have hpolicy : listIdentityKeys.Forall fun identityKey => secretKeyParts.Forall fun part =>
      containsText identityKey.toList (part.toList.filter fun c =>
        ('a' ≤ c && c ≤ 'z') || ('0' ≤ c && c ≤ '9')) = false := by decide +kernel
  unfold isSecret isSecretKey
  rw [List.any_eq_false]
  intro part hpart
  have hfold := python.casefold_name part (List.mem_append_left _ hpart)
  have hforall := List.forall_iff_forall_mem.mp hpolicy identityKey hidentity
  rw [hkey, compactKey, hfold, Bool.not_eq_true]
  exact List.forall_iff_forall_mem.mp hforall part hpart

theorem identityValue_redacted (value : Json) (rearrangement : Rearrangement)
    (h : rearrangement.Permutes (redactSecrets python value)) :
    identityValue (rearrangement.apply (redactSecrets python value)) = identityValue value := by
  cases value <;> cases rearrangement <;> rfl

theorem compactItem_map (fields : List (String × Json)) (shown : String × Json → Json)
    (identityKey : String) :
    compactItem python (fields.map fun field => (field.1, shown field)) identityKey =
      (fields.reverse.find? fun field =>
        compactKey python.toPythonText field.1 = identityKey.toList).map shown := by
  rw [compactItem, ← List.map_reverse, List.find?_map, Option.map_map]
  rfl

theorem findSome?_congr_of_mem {α β : Type} {items : List α} {f g : α → Option β}
    (h : ∀ item ∈ items, f item = g item) : items.findSome? f = items.findSome? g := by
  induction items with
  | nil => rfl
  | cons item rest ih =>
      obtain ⟨hitem, hrest⟩ := List.forall_mem_cons.mp h
      rw [List.findSome?_cons, List.findSome?_cons, hitem, ih hrest]

theorem listItemIdentity_redacted (value : Json) (rearrangement : Rearrangement)
    (h : rearrangement.Permutes (redactSecrets python value)) :
    listItemIdentity python (rearrangement.apply (redactSecrets python value)) =
      listItemIdentity python value := by
  cases value with
  | null | bool | int | float | text | array => cases rearrangement <;> rfl
  | object fields =>
      obtain ⟨inner, hfields⟩ := rearrangedFields h
      rw [hfields.redacted]
      refine findSome?_congr_of_mem fun identityKey hidentity => ?_
      refine congrArg (Option.map _) ?_
      show (compactItem python (fields.map _) identityKey).bind identityValue =
        (compactItem python fields identityKey).bind identityValue
      rw [compactItem_map, compactItem]
      cases hfound : fields.reverse.find? fun field =>
          compactKey python.toPythonText field.1 = identityKey.toList with
      | none => rfl
      | some field =>
          have hkey := List.find?_some hfound
          rw [decide_eq_true_eq] at hkey
          have hmem := List.mem_reverse.mp (List.mem_of_find?_eq_some hfound)
          have hsecret := not_isSecret_of_identity hidentity hkey
          show identityValue ((inner field.1).apply (redactedField python field)) =
              identityValue field.2
          rw [redactedField, if_neg (by simp [hsecret])]
          exact identityValue_redacted field.2 _ (hfields.permutes field hmem hsecret)

theorem Json.uniqueInItems_iff {items : List Json} :
    Json.UniqueInItems items ↔ ∀ item ∈ items, item.UniqueKeys := by
  induction items with
  | nil => simp [Json.UniqueInItems]
  | cons item rest ih => rw [Json.UniqueInItems, ih, List.forall_mem_cons]

theorem Json.uniqueInFields_iff {fields : List (String × Json)} :
    Json.UniqueInFields fields ↔ ∀ field ∈ fields, field.2.UniqueKeys := by
  induction fields with
  | nil => simp [Json.UniqueInFields]
  | cons field rest ih => rw [Json.UniqueInFields, ih, List.forall_mem_cons]

/-- A field of a dictionary is found by its key. -/
theorem Json.lookup_of_mem {fields : List (String × Json)} (hunique : (fields.map Prod.fst).Nodup)
    {field : String × Json} (h : field ∈ fields) : Json.lookup fields field.1 = some field.2 := by
  induction fields with
  | nil => exact absurd h List.not_mem_nil
  | cons first rest ih =>
      rw [List.map_cons, List.nodup_cons] at hunique
      rw [Json.lookup, List.find?_cons]
      rcases List.mem_cons.mp h with rfl | h
      · simp
      · have hne : first.1 ≠ field.1 := by
          intro heq
          exact hunique.1 (heq ▸ List.mem_map_of_mem h)
        rw [decide_eq_false hne]
        exact ih hunique.2 h

/-- Restoring is refused, or gives the value. -/
def RestoresTo {α : Type} (result : Except RestoreError α) (value : α) : Prop :=
  (∃ e, result = .error e) ∨ result = .ok value

theorem RestoresTo.bind {α β : Type} {result : Except RestoreError α} {value : α}
    {next : α → Except RestoreError β} {final : β} (h : RestoresTo result value)
    (hnext : RestoresTo (next value) final) : RestoresTo (result >>= next) final := by
  rcases h with ⟨e, rfl⟩ | rfl
  · exact .inl ⟨e, rfl⟩
  · exact hnext

/-- Items that are each restored, wherever they stand, are restored together. -/
theorem restoreItems_restoresTo {items restored original : List Json} {requireIdentity : Bool}
    (h : List.Forall₂ (fun item value => ∀ index,
      RestoresTo (originalItem python item original requireIdentity index >>=
        restoreRedactedSecrets python item) value) items restored) :
    ∀ index, RestoresTo (restoreItems python items original requireIdentity index) restored := by
  induction h with
  | nil => exact fun _ => .inr rfl
  | @cons item value rest others hitem _ ih =>
      intro index
      rw [restoreItems, ← bind_assoc]
      refine (hitem index).bind ?_
      refine (ih (index + 1)).bind ?_
      exact .inr rfl

theorem restoreFields_restoresTo {fields restored original : List (String × Json)}
    (h : List.Forall₂ (fun field value => field.1 = value.1 ∧ RestoresTo
      (if isSecret python field.1 && isRedacted field.2 then
          match Json.lookup original field.1 with
          | none => .error .missingOriginal
          | some value => .ok value
        else restoreRedactedSecrets python field.2 ((Json.lookup original field.1).getD .null)) value.2)
      fields restored) :
    RestoresTo (restoreFields python fields original) restored := by
  induction h with
  | nil => exact .inr rfl
  | @cons field value rest others hfield _ ih =>
      obtain ⟨key, item⟩ := field
      obtain ⟨key', value⟩ := value
      obtain ⟨rfl, hfield⟩ := hfield
      rw [restoreFields]
      refine RestoresTo.bind hfield ?_
      refine RestoresTo.bind ih ?_
      exact .inr rfl

theorem originalListItem_restoresTo {items : List Json} {rearrangement : Rearrangement}
    {requireIdentity : Bool} {item : Json} (hmem : item ∈ items)
    (hpermutes : rearrangement.Permutes (redactSecrets python item))
    (hmark : containsSecretPlaceholder python
      (rearrangement.apply (redactSecrets python item)) = true) :
    RestoresTo (originalListItem python (rearrangement.apply (redactSecrets python item)) items
      requireIdentity) item := by
  have hsecret : containsSecretKey python item = true := by
    rwa [containsSecretPlaceholder_redacted item _ hpermutes] at hmark
  unfold originalListItem
  -- The item is one of those that match; if there is no other, it is the one that is taken.
  have hmatches : matchingItems python (rearrangement.apply (redactSecrets python item)) items
      requireIdentity = [] ∨ item ∈ matchingItems python
        (rearrangement.apply (redactSecrets python item)) items requireIdentity := by
    unfold matchingItems
    rw [listItemIdentity_redacted item _ hpermutes]
    cases hidentity : listItemIdentity python item with
    | some identity => exact .inr (List.mem_filter.mpr ⟨hmem, by simpa using hidentity⟩)
    | none =>
        dsimp only
        split
        next => exact .inl rfl
        next => exact .inr (List.mem_filter.mpr ⟨hmem, hsecret⟩)
  split
  next candidate hcandidate =>
    rw [hcandidate, List.mem_singleton] at hmatches
    rcases hmatches with hnone | rfl
    · cases hnone
    · exact .inr rfl
  next => exact .inl ⟨_, rfl⟩

/-- **A rearranged redacted value is restored to the rearranged original, or refused.** -/
theorem restore_rearranged (value : Json) : value.UniqueKeys → ∀ rearrangement : Rearrangement,
    rearrangement.Permutes (redactSecrets python value) →
      RestoresTo (restoreRedactedSecrets python
        (rearrangement.apply (redactSecrets python value)) value)
        (rearrangement.apply value) := by
  induction value using Json.induct with
  | null | bool | int | float | text =>
      intro _ rearrangement _
      cases rearrangement <;> exact .inr rfl
  | array items ih =>
      intro hunique rearrangement h
      have huniqueItems := Json.uniqueInItems_iff.mp hunique
      obtain ⟨order, inner, hitems⟩ := rearrangedItems h
      rw [hitems.redacted, hitems.original, restoreRedactedSecrets, List.length_map]
      refine RestoresTo.bind (restoreItems_restoresTo ?_ 0) (.inr rfl)
      rw [List.forall₂_map_left_iff, List.forall₂_map_right_iff, List.forall₂_same]
      intro place hplace index
      obtain ⟨item, hmem, -, hget, hpermutes⟩ := hitems.item hplace
      rw [hget]
      unfold originalItem
      split
      next hmark =>
        exact (originalListItem_restoresTo hmem hpermutes hmark).bind
          (ih item hmem (huniqueItems item hmem) _ hpermutes)
      next hmark =>
        have hnone : containsSecretPlaceholder python
            ((inner place).apply (redactSecrets python item)) = false := by simpa using hmark
        have hsecret := hnone
        rw [containsSecretPlaceholder_redacted item _ hpermutes] at hsecret
        rw [redactSecrets_of_not_containsSecretKey item hsecret] at hnone ⊢
        exact .inr (restore_of_not_placeholder _ hnone _)
  | object fields ih =>
      intro hunique rearrangement h
      have huniqueFields := Json.uniqueInFields_iff.mp hunique.2
      obtain ⟨inner, hfields⟩ := rearrangedFields h
      rw [hfields.redacted, hfields.original, restoreRedactedSecrets]
      refine RestoresTo.bind (restoreFields_restoresTo ?_) (.inr rfl)
      rw [List.forall₂_map_left_iff, List.forall₂_map_right_iff, List.forall₂_same]
      intro field hmem
      refine ⟨rfl, ?_⟩
      have hlookup := Json.lookup_of_mem hunique.1 hmem
      dsimp only [Json.asDict]
      rw [hlookup]
      cases hsecret : isSecret python field.1 with
      | true =>
          rw [hfields.secret field hmem hsecret, Rearrangement.apply_keep, Rearrangement.apply_keep,
            redactedField, if_pos hsecret]
          exact .inr rfl
      | false =>
          have hshown : redactedField python field = redactSecrets python field.2 :=
            if_neg (by simp [hsecret])
          rw [hshown, Bool.false_and, if_neg Bool.false_ne_true]
          exact ih field hmem (huniqueFields field hmem) _ (hfields.permutes field hmem hsecret)

end Rearranged

/-! ### What is shown -/

section Shown

variable (python : PolicyText)

mutual

/-- The values are the same but for what they hold under secret keys. -/
def Json.SameButSecrets : Json → Json → Prop
  | .null, .null => True
  | .bool value, .bool value' => value = value'
  | .int value, .int value' => value = value'
  | .float value, .float value' => value = value'
  | .text value, .text value' => value = value'
  | .array items, .array items' => Json.SameItemsButSecrets items items'
  | .object fields, .object fields' => Json.SameFieldsButSecrets fields fields'
  | _, _ => False

def Json.SameItemsButSecrets : List Json → List Json → Prop
  | [], [] => True
  | item :: rest, item' :: rest' => Json.SameButSecrets item item' ∧ Json.SameItemsButSecrets rest rest'
  | _, _ => False

def Json.SameFieldsButSecrets : List (String × Json) → List (String × Json) → Prop
  | [], [] => True
  | (key, item) :: rest, (key', item') :: rest' =>
    (key = key' ∧ (isSecret python key = false → Json.SameButSecrets item item')) ∧
      Json.SameFieldsButSecrets rest rest'
  | _, _ => False

end

variable {python}

/-- **What is shown of a value tells nothing of its secrets.** -/
theorem redactSecrets_sameButSecrets
    (value : Json) : ∀ value', Json.SameButSecrets python value value' →
    redactSecrets python value = redactSecrets python value' := by
  induction value using Json.induct with
  | null | bool | int | float | text =>
      intro value' h
      cases value' <;> first | exact absurd h id | rw [show _ = _ from h] | rfl
  | array items ih =>
      intro value' h
      cases value' <;> try exact absurd h id
      case array items' =>
        have hitems : ∀ items', Json.SameItemsButSecrets python items items' →
            items.map (redactSecrets python) = items'.map (redactSecrets python) := by
          clear h
          induction items with
          | nil =>
              intro items' h
              cases items' with
              | nil => rfl
              | cons => exact absurd h id
          | cons item rest ihrest =>
              intro items' h
              cases items' with
              | nil => exact absurd h id
              | cons item' rest' =>
                  obtain ⟨ihitem, ihothers⟩ := List.forall_mem_cons.mp ih
                  rw [List.map_cons, List.map_cons, ihitem item' h.1, ihrest ihothers rest' h.2]
        rw [redactSecrets, redactSecrets, redactItems_eq, redactItems_eq, hitems items' h]
  | object fields ih =>
      intro value' h
      cases value' <;> try exact absurd h id
      case object fields' =>
        have hfields : ∀ fields', Json.SameFieldsButSecrets python fields fields' →
            redactFields python fields = redactFields python fields' := by
          clear h
          induction fields with
          | nil =>
              intro fields' h
              cases fields' with
              | nil => rfl
              | cons => exact absurd h id
          | cons field rest ihrest =>
              intro fields' h
              cases fields' with
              | nil => exact absurd h id
              | cons field' rest' =>
                  obtain ⟨ihfield, ihothers⟩ := List.forall_mem_cons.mp ih
                  obtain ⟨key, item⟩ := field
                  obtain ⟨key', item'⟩ := field'
                  obtain ⟨⟨rfl, hitem⟩, hrest⟩ := h
                  rw [redactFields, redactFields, ihrest ihothers rest' hrest]
                  cases hsecret : isSecret python key with
                  | true => simp
                  | false => rw [ihfield item' (hitem hsecret)]
        rw [redactSecrets, redactSecrets, hfields fields' h]

end Shown

/-- **Redacted secrets** are restored in a rearranged configuration where they were, or the
configuration is refused; and what is shown of it does not depend on them. -/
theorem secret_redaction (python : PolicyText) :
    (∀ value : Json, value.UniqueKeys → ∀ rearrangement : Rearrangement,
      rearrangement.Permutes (redactSecrets python value) →
        RestoresTo (restoreRedactedSecrets python
          (rearrangement.apply (redactSecrets python value)) value)
          (rearrangement.apply value)) ∧
      ∀ value value', Json.SameButSecrets python value value' →
        redactSecrets python value = redactSecrets python value' :=
  ⟨restore_rearranged, redactSecrets_sameButSecrets⟩

def asciiPolicyText : PolicyText where
  toPythonText := asciiText
  casefold_name := by decide +kernel

def twoServers (first second : String) : Json :=
  .object [("servers", .array [
    .object [("id", .int 1), ("apiToken", .text first)], .object
      [("id", .int 2), ("apiToken", .text second)]])]

/-- The servers the other way round. -/
def swappedServers : Rearrangement := .fields fun _ => .items [1, 0] fun _ => .keep

theorem redactSecrets_twoServers (first second : String) :
    redactSecrets asciiPolicyText
      (twoServers first second) = twoServers redactedValue redactedValue := by
  rfl

theorem twoServers_uniqueKeys (first second : String) : (twoServers first second).UniqueKeys := by
  simp [twoServers, Json.UniqueKeys, Json.UniqueInFields, Json.UniqueInItems]

theorem swappedServers_permutes (first second : String) :
    swappedServers.Permutes (redactSecrets asciiPolicyText (twoServers first second)) := by
  rw [redactSecrets_twoServers]
  intro field hfield
  obtain rfl := List.mem_singleton.mp hfield
  exact ⟨List.Perm.swap 0 1 [], fun _ _ _ => trivial⟩

example : restoreRedactedSecrets asciiPolicyText
    (swappedServers.apply (redactSecrets asciiPolicyText (twoServers "a" "b"))) (twoServers "a" "b") =
      .ok (swappedServers.apply (twoServers "a" "b")) := by rfl

theorem secret_redaction_swapped :
    RestoresTo (restoreRedactedSecrets asciiPolicyText
        (swappedServers.apply (redactSecrets asciiPolicyText (twoServers "a" "b")))
        (twoServers "a" "b"))
        (swappedServers.apply (twoServers "a" "b")) ∧
      redactSecrets asciiPolicyText (twoServers "a" "b") =
        redactSecrets asciiPolicyText (twoServers "changed" "b") := by
  refine ⟨(secret_redaction asciiPolicyText).1 (twoServers "a" "b") (twoServers_uniqueKeys "a" "b")
    swappedServers (swappedServers_permutes "a" "b"), ?_⟩
  have hsecret : isSecret asciiPolicyText "apiToken" = true := by decide +kernel
  refine (secret_redaction asciiPolicyText).2 (twoServers "a" "b") _ ?_
  exact ⟨⟨rfl, fun _ =>
    ⟨⟨⟨rfl, fun _ => rfl⟩, ⟨rfl, fun h => absurd (hsecret.symm.trans h) (by decide)⟩,
    trivial⟩, ⟨⟨rfl, fun _ => rfl⟩, ⟨rfl, fun _ => rfl⟩, trivial⟩, trivial⟩⟩, trivial⟩

end Micboard
