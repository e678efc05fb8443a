import Micboard.QueueFixpoint

/-! The metadata that the discovery queue stores of a vendor payload. Truncation and redaction are
one recursion. Whatever the payload is, its copy is bounded in depth, width and the length of its
texts; and what the payload holds under a secret key, at any depth, has no part in it. -/

namespace Micboard

open Library Library.Text

/-- The copy of a list: few items, or as many as are kept and the marker. -/
def ItemsBounded (items : List JsonValue) : Prop :=
  items.length ≤ maxDiscoveryMetadataListItems ∨
    ∃ kept, items = kept ++ [.text "<truncated>"] ∧ kept.length = maxDiscoveryMetadataListItems

/-- The copy of a dictionary: few entries besides the marker, each key once and none too long. -/
structure FieldsBounded (items : List (String × JsonValue)) : Prop where
  unique : (items.map Prod.fst).Nodup
  count : (items.filter fun item => item.1 ≠ "_truncated").length ≤ maxDiscoveryMetadataFields
  keys : ∀ item ∈ items, item.1.length ≤ maxDiscoveryMetadataStringLength

/-- A value nests at most so many containers, and all of them and all texts are bounded. -/
def MetadataBounded : Nat → JsonValue → Prop
  | _, .text value => value.length ≤ maxDiscoveryMetadataStringLength
  | _, .null | _, .bool _ | _, .number _ _ => True
  | 0, .array _ _ | 0, .object _ _ => False
  | depth + 1, .array items _ => ItemsBounded items ∧ ∀ item ∈ items, MetadataBounded depth item
  | depth + 1, .object items _ => FieldsBounded items ∧ ∀ item ∈ items, MetadataBounded depth item.2

theorem length_takeText_le (n : Nat) (text : String) : (takeText n text).length ≤ n := by
  rw [takeText, String.length_ofList]
  exact List.length_take_le n _

section SetItem

variable {α : Type} {items : List (String × α)} {key : String} {value : α}

/-- An entry of a dictionary after an assignment. -/
theorem mem_setItem {item : String × α} (h : item ∈ setItem items key value) :
    item = (key, value) ∨ item ∈ items := by
  unfold setItem at h
  split at h
  next =>
    obtain ⟨old, hold, rfl⟩ := List.mem_map.mp h
    split
    next => exact .inl rfl
    next => exact .inr hold
  next =>
    rcases List.mem_append.mp h with h | h
    · exact .inr h
    · exact .inl (List.mem_singleton.mp h)

theorem setItem_keys : (setItem items key value).map Prod.fst =
    if key ∈ items.map Prod.fst then items.map Prod.fst else items.map Prod.fst ++ [key] := by
  have hany : (items.any fun item => item.1 = key) = true ↔ key ∈ items.map Prod.fst := by
    simp [List.any_eq_true, List.mem_map]
  unfold setItem
  by_cases hkey : key ∈ items.map Prod.fst
  · rw [if_pos (hany.mpr hkey), if_pos hkey, List.map_map]
    refine List.map_congr_left fun item _ => ?_
    show (if item.1 = key then (key, value) else item).1 = item.1
    split
    next h => exact h.symm
    next => rfl
  · rw [if_neg (mt hany.mp hkey), if_neg hkey, List.map_append]
    rfl

theorem nodup_setItem
    (h : (items.map Prod.fst).Nodup) : ((setItem items key value).map Prod.fst).Nodup := by
  rw [setItem_keys]
  split
  next => exact h
  next hkey => exact List.nodup_append.mpr ⟨h, List.nodup_singleton key, by
    intro other hother _ hmem
    rw [List.mem_singleton.mp hmem]
    rintro rfl
    exact hkey hother⟩

theorem length_setItem_le : (setItem items key value).length ≤ items.length + 1 := by
  have hkeys := congrArg List.length (@setItem_keys α items key value)
  rw [List.length_map] at hkeys
  rw [hkeys]
  split <;> simp

/-- A dictionary that is built from items has no more entries, and each of them is one of the items. -/
theorem toDictionary_spec (source : List (String × α)) :
    ((toDictionary source).map Prod.fst).Nodup ∧ (toDictionary source).length ≤ source.length ∧
      ∀ item ∈ toDictionary source, item ∈ source := by
  induction source using List.reverseRecOn with
  | nil => exact ⟨List.nodup_nil, le_rfl, fun _ h => h⟩
  | append_singleton front item ih =>
      obtain ⟨hnodup, hlength, hmem⟩ := ih
      have hstep : toDictionary (front ++ [item]) = setItem (toDictionary front) item.1 item.2 := by
        rw [toDictionary, List.foldl_append]
        rfl
      rw [hstep]
      refine ⟨nodup_setItem hnodup, ?_, fun other hother => ?_⟩
      · rw [List.length_append]
        exact length_setItem_le.trans (Nat.add_le_add_right hlength 1)
      · rcases mem_setItem hother with rfl | hother
        · simp
        · exact List.mem_append_left _ (hmem other hother)

theorem length_filter_setItem_le (keep : String × α → Bool) (hkeep : keep (key, value) = false) :
    ((setItem items key value).filter keep).length ≤ (items.filter keep).length := by
  unfold setItem
  split
  next =>
    rw [List.filter_map, List.length_map]
    refine (List.monotone_filter_right items ?_).length_le
    intro item hitem
    simp only [Function.comp_apply] at hitem
    split at hitem
    next =>
      rw [hkeep] at hitem
      cases hitem
    next => exact hitem
  next => simp [hkeep]

end SetItem

section Copy

variable {python : PythonText}

/-- The entries of a dictionary that are copied. -/
def copiedFields (python : PythonText) (depth : Nat) (items : List (String × JsonValue)) :
    List (String × JsonValue) :=
  (items.take maxDiscoveryMetadataFields).map fun item =>
    (takeText maxDiscoveryMetadataStringLength item.1,
      if isSecretKey python item.1 then .text "********" else boundMetadata python depth item.2)

theorem boundMetadata_object (depth : Nat) (items : List (String × JsonValue)) (rendering : String) :
    ∃ bounded, boundMetadata python (depth + 1) (.object items rendering) =
        .object bounded (python.reprObject bounded) ∧
      bounded = if items.length > maxDiscoveryMetadataFields then
          setItem (toDictionary (copiedFields python depth items)) "_truncated" (.bool true)
        else toDictionary (copiedFields python depth items) :=
  ⟨_, rfl, rfl⟩

theorem boundMetadata_array (depth : Nat) (items : List JsonValue) (rendering : String) :
    ∃ bounded, boundMetadata python (depth + 1) (.array items rendering) =
        .array bounded (python.reprArray bounded) ∧
      bounded = if items.length > maxDiscoveryMetadataListItems then
          (items.take maxDiscoveryMetadataListItems).map (boundMetadata python depth) ++
            [.text "<truncated>"]
        else (items.take maxDiscoveryMetadataListItems).map (boundMetadata python depth) :=
  ⟨_, rfl, rfl⟩

theorem mem_copiedFields {depth : Nat} {items : List (String × JsonValue)} {item : String × JsonValue}
    (h : item ∈ copiedFields python depth items) :
    item.1.length ≤ maxDiscoveryMetadataStringLength ∧
      (item.2 = .text "********" ∨ ∃ value, item.2 = boundMetadata python depth value) := by
  obtain ⟨original, -, rfl⟩ := List.mem_map.mp h
  refine ⟨length_takeText_le _ _, ?_⟩
  dsimp only
  split
  next => exact .inl rfl
  next => exact .inr ⟨original.2, rfl⟩

theorem fieldsBounded_copied (depth : Nat) (items : List (String × JsonValue)) :
    FieldsBounded (toDictionary (copiedFields python depth items)) := by
  obtain ⟨hnodup, hlength, hmem⟩ := toDictionary_spec (copiedFields python depth items)
  refine ⟨hnodup, ?_, fun item hitem => (mem_copiedFields (hmem item hitem)).1⟩
  have hcopied : (copiedFields python depth items).length ≤ maxDiscoveryMetadataFields := by
    rw [copiedFields, List.length_map]
    exact List.length_take_le _ _
  exact (List.length_filter_le _ _).trans (hlength.trans hcopied)

/-- **The copy is bounded** at every depth. -/
theorem boundMetadata_bounded (depth : Nat) (value : JsonValue) :
    MetadataBounded depth (boundMetadata python depth value) := by
  have hmarker : "<truncated>".length ≤ maxDiscoveryMetadataStringLength := by decide
  have hredacted : "********".length ≤ maxDiscoveryMetadataStringLength := by decide
  induction depth generalizing value with
  | zero => exact hmarker
  | succ depth ih =>
      cases value with
      | null | bool | number => trivial
      | text value => exact length_takeText_le _ value
      | array items rendering =>
          obtain ⟨bounded, heq, hbounded⟩ := @boundMetadata_array python depth items rendering
          rw [heq]
          have hcopied : ∀ item ∈ (items.take maxDiscoveryMetadataListItems).map
              (boundMetadata python depth),
              MetadataBounded depth item := by
            intro item hitem
            obtain ⟨original, -, rfl⟩ := List.mem_map.mp hitem
            exact ih original
          have hlength :
              ((items.take maxDiscoveryMetadataListItems).map (boundMetadata python depth)).length =
              min maxDiscoveryMetadataListItems items.length := by
            rw [List.length_map, List.length_take]
          split at hbounded
          next hlong =>
            subst hbounded
            refine ⟨.inr ⟨_, rfl, hlength.trans (min_eq_left hlong.le)⟩, fun item hitem => ?_⟩
            rcases List.mem_append.mp hitem with hitem | hitem
            · exact hcopied item hitem
            · rw [List.mem_singleton.mp hitem]
              cases depth <;> exact hmarker
          next =>
            subst hbounded
            exact ⟨.inl (hlength.le.trans (min_le_left _ _)), hcopied⟩
      | object items rendering =>
          obtain ⟨bounded, heq, hbounded⟩ := @boundMetadata_object python depth items rendering
          rw [heq]
          have hfields := @fieldsBounded_copied python depth items
          have hcopied : ∀ item ∈ toDictionary (copiedFields python depth items),
              MetadataBounded depth item.2 := by
            intro item hitem
            have hmem := (toDictionary_spec (copiedFields python depth items)).2.2 item hitem
            rcases (mem_copiedFields hmem).2 with hsecret | ⟨original, horiginal⟩
            · rw [hsecret]
              cases depth <;> exact hredacted
            · rw [horiginal]
              exact ih original
          split at hbounded
          next =>
            subst hbounded
            refine ⟨⟨nodup_setItem hfields.unique, ?_, fun item hitem => ?_⟩, fun item hitem => ?_⟩
            · exact (length_filter_setItem_le _ (by simp)).trans hfields.count
            · rcases mem_setItem hitem with rfl | hitem
              · decide
              · exact hfields.keys item hitem
            · rcases mem_setItem hitem with rfl | hitem
              · cases depth <;> trivial
              · exact hcopied item hitem
          next =>
            subst hbounded
            exact ⟨hfields, hcopied⟩

end Copy

/-! ### Secrets have no part in it -/

section Secrets

variable (python : PythonText)

mutual

/-- The values are the same but for what they hold under secret keys; the `str(…)` of a container
shows its secrets, and may differ. -/
def JsonValue.SameButSecrets : JsonValue → JsonValue → Prop
  | .null, .null => True
  | .bool value, .bool value' => value = value'
  | .number value rendering, .number value' rendering' => value = value' ∧ rendering = rendering'
  | .text value, .text value' => value = value'
  | .array items _, .array items' _ => JsonValue.SameItemsButSecrets items items'
  | .object items _, .object items' _ => JsonValue.SameFieldsButSecrets items items'
  | _, _ => False

def JsonValue.SameItemsButSecrets : List JsonValue → List JsonValue → Prop
  | [], [] => True
  | item :: rest, item' :: rest' =>
    JsonValue.SameButSecrets item item' ∧ JsonValue.SameItemsButSecrets rest rest'
  | _, _ => False

def JsonValue.SameFieldsButSecrets : List (String × JsonValue) → List (String × JsonValue) → Prop
  | [], [] => True
  | (key, value) :: rest, (key', value') :: rest' =>
    (key = key' ∧ (isSecretKey python key = false → JsonValue.SameButSecrets value value')) ∧
      JsonValue.SameFieldsButSecrets rest rest'
  | _, _ => False

end

variable {python}

theorem JsonValue.sameItems_iff {items items' : List JsonValue} :
    JsonValue.SameItemsButSecrets python items items' ↔
      List.Forall₂ (JsonValue.SameButSecrets python) items items' := by
  induction items generalizing items' with
  | nil => cases items' <;> simp [JsonValue.SameItemsButSecrets]
  | cons item rest ih => cases items' <;> simp [JsonValue.SameItemsButSecrets, ih]

/-- Two fields are the same, or hold a secret under the same key. -/
def SameField (python : PythonText) (item item' : String × JsonValue) : Prop :=
  item.1 = item'.1 ∧
    (isSecretKey python item.1 = false → JsonValue.SameButSecrets python item.2 item'.2)

theorem JsonValue.sameFields_iff {items items' : List (String × JsonValue)} :
    JsonValue.SameFieldsButSecrets python items items' ↔
      List.Forall₂ (SameField python) items items' := by
  induction items generalizing items' with
  | nil => cases items' <;> simp [JsonValue.SameFieldsButSecrets]
  | cons item rest ih => cases items' <;> simp [JsonValue.SameFieldsButSecrets, SameField, ih]

/-- Mapping values that agree in pairs gives the same values. -/
theorem map_eq_of_forall₂ {α β : Type} {R : α → α → Prop} {f : α → β} {items items' : List α}
    (h : List.Forall₂ R items items') (hf : ∀ item item', R item item' → f item = f item') :
    items.map f = items'.map f := by
  induction h with
  | nil => rfl
  | cons hitem _ ih => rw [List.map_cons, List.map_cons, hf _ _ hitem, ih]

/-- **What is under a secret key has no part in the copy.** -/
theorem boundMetadata_sameButSecrets (depth : Nat) {value value' : JsonValue}
    (h : JsonValue.SameButSecrets python value value') :
    boundMetadata python depth value = boundMetadata python depth value' := by
  induction depth generalizing value value' with
  | zero => rfl
  | succ depth ih =>
      cases value <;> cases value' <;> try exact absurd h id
      case null.null => rfl
      case bool.bool => rw [show _ = _ from h]
      case number.number =>
        obtain ⟨rfl, rfl⟩ := h
        rfl
      case text.text => rw [show _ = _ from h]
      case array.array items rendering items' rendering' =>
        have hitems : List.Forall₂ (JsonValue.SameButSecrets python) items items' :=
          JsonValue.sameItems_iff.mp h
        have hcopied := map_eq_of_forall₂ (List.forall₂_take maxDiscoveryMetadataListItems hitems)
          fun _ _ hitem => ih hitem
        obtain ⟨bounded, heq, hbounded⟩ := @boundMetadata_array python depth items rendering
        obtain ⟨bounded', heq', hbounded'⟩ := @boundMetadata_array python depth items' rendering'
        rw [hcopied, hitems.length_eq, ← hbounded'] at hbounded
        rw [heq, heq', hbounded]
      case object.object items rendering items' rendering' =>
        have hitems : List.Forall₂ (SameField python) items items' := JsonValue.sameFields_iff.mp h
        have hcopied : copiedFields python depth items = copiedFields python depth items' := by
          refine map_eq_of_forall₂ (List.forall₂_take maxDiscoveryMetadataFields hitems) ?_
          rintro ⟨key, item⟩ ⟨_, item'⟩ ⟨rfl, hitem⟩
          dsimp only at hitem ⊢
          cases hsecret : isSecretKey python key with
          | true => rfl
          | false => rw [ih (hitem hsecret)]
        obtain ⟨bounded, heq, hbounded⟩ := @boundMetadata_object python depth items rendering
        obtain ⟨bounded', heq', hbounded'⟩ := @boundMetadata_object python depth items' rendering'
        rw [hcopied, hitems.length_eq, ← hbounded'] at hbounded
        rw [heq, heq', hbounded]

/-- **The stored metadata** are bounded, and the same for payloads that differ in their secrets only. -/
theorem queue_metadata_bounded (python : PythonText) (value : JsonValue) :
    MetadataBounded maxDiscoveryMetadataDepth (boundMetadata python maxDiscoveryMetadataDepth value) ∧
      ∀ value', JsonValue.SameButSecrets python value value' →
        boundMetadata python maxDiscoveryMetadataDepth value =
          boundMetadata python maxDiscoveryMetadataDepth value' :=
  ⟨boundMetadata_bounded _ value, fun _ h => boundMetadata_sameButSecrets _ h⟩

end Secrets

def receiverWithPassword (password : String) : JsonValue :=
  .object [("serial", .text "SN-1"), ("auth", .object [("apiPassword", .text password)] "")] password

theorem queue_metadata_bounded_password :
    boundMetadata asciiText maxDiscoveryMetadataDepth (receiverWithPassword "hunter2") =
      boundMetadata asciiText maxDiscoveryMetadataDepth (receiverWithPassword "changed") := by
  have hsecret : isSecretKey asciiText "apiPassword" = true := by decide +kernel
  refine (queue_metadata_bounded asciiText (receiverWithPassword "hunter2")).2 _ ?_
  exact ⟨⟨rfl, fun _ => rfl⟩, ⟨rfl, fun _ => ⟨⟨rfl, fun h => absurd (hsecret.symm.trans h) (by decide)⟩,
    trivial⟩⟩, trivial⟩

end Micboard
