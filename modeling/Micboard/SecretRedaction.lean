import Micboard.QueueFixpoint

/-! Redacting and restoring the secrets of a configuration. A redacted value is edited and sent
back; where it still holds the mark of a secret, the secret is taken from the stored value. The
fields of a dictionary are found by their key. An item of a list is not found by its place, which
may have changed, but by a conventional identity, and without one only where it is alone. -/

namespace Micboard

open Library Library.Text

/-- A value of a configuration, as it is read from JSON. Numbers that are not finite are left out. -/
inductive Json where
  | null
  | bool (value : Bool)
  | int (value : ℤ)
  | float (value : ℚ)
  | text (value : String)
  | array (items : List Json)
  | object (fields : List (String × Json))

namespace Json

@[elab_as_elim]
theorem induct {motive : Json → Prop} (null : motive .null) (bool : ∀ value, motive (.bool value))
    (int : ∀ value, motive (.int value)) (float : ∀ value, motive (.float value))
    (text : ∀ value, motive (.text value))
    (array : ∀ items, (∀ item ∈ items, motive item) → motive (.array items))
    (object : ∀ fields, (∀ field ∈ fields, motive field.2) → motive (.object fields)) :
    ∀ value, motive value :=
  fun value => @Json.rec motive (fun items => ∀ item ∈ items, motive item)
    (fun fields => ∀ field ∈ fields, motive field.2) (fun field => motive field.2)
    null bool int float text array object (fun _ h => absurd h List.not_mem_nil)
    (fun _ _ hitem hrest => List.forall_mem_cons.mpr ⟨hitem, hrest⟩)
    (fun _ h => absurd h List.not_mem_nil)
    (fun _ _ hfield hrest => List.forall_mem_cons.mpr ⟨hfield, hrest⟩) (fun _ _ h => h) value

/-- The dictionary of a value, empty for anything else. -/
def asDict : Json → List (String × Json)
  | object fields => fields
  | _ => []

/-- The list of a value, empty for anything else. -/
def asList : Json → List Json
  | array items => items
  | _ => []

/-- `dictionary.get(key)`. -/
def lookup (fields : List (String × Json)) (key : String) : Option Json :=
  (fields.find? fun field => field.1 = key).map Prod.snd

mutual

/-- Every dictionary in the value has each key once. -/
def UniqueKeys : Json → Prop
  | .object fields => (fields.map Prod.fst).Nodup ∧ UniqueInFields fields
  | .array items => UniqueInItems items
  | .null | .bool _ | .int _ | .float _ | .text _ => True

def UniqueInItems : List Json → Prop
  | [] => True
  | item :: rest => UniqueKeys item ∧ UniqueInItems rest

def UniqueInFields : List (String × Json) → Prop
  | [] => True
  | (_, item) :: rest => UniqueKeys item ∧ UniqueInFields rest

end

end Json

/-- The methods of a text, of which `casefold` leaves the names of the policy as they are. -/
structure PolicyText extends PythonText where
  casefold_name : ∀ name ∈ secretKeyParts ++ ["id", "key", "code", "name"], casefold name = name

def redactedValue : String := "********"

def listIdentityKeys : List String := ["id", "key", "code", "name"]

/-- What is raised where a mark cannot be resolved. -/
inductive RestoreError where
  | ambiguousListItem
  | missingOriginal
  deriving DecidableEq, Repr

def RestoreError.message : RestoreError → String
  | ambiguousListItem =>
      "Masked secrets in configuration lists require one unique id, key, code, or name."
  | missingOriginal => "A masked configuration secret has no original value."

/-- `item == REDACTED_VALUE`. -/
def isRedacted : Json → Bool
  | .text value => value = redactedValue
  | .null | .bool _ | .int _ | .float _ | .array _ | .object _ => false

section Redaction

variable (python : PolicyText)

/-- Return whether a configuration key conventionally carries a secret. -/
def isSecret (key : String) : Bool := isSecretKey python.toPythonText key

mutual

/-- Return whether nested submitted data asks to retain an existing secret. -/
def containsSecretPlaceholder : Json → Bool
  | .object fields => placeholderInFields fields
  | .array items => placeholderInItems items
  | .null | .bool _ | .int _ | .float _ | .text _ => false

def placeholderInItems : List Json → Bool
  | [] => false
  | item :: rest => containsSecretPlaceholder item || placeholderInItems rest

def placeholderInFields : List (String × Json) → Bool
  | [] => false
  | (key, item) :: rest =>
    ((isSecret python key && isRedacted item) || containsSecretPlaceholder item) ||
      placeholderInFields rest

end

mutual

/-- Return whether nested original data contains any secret-bearing key. -/
def containsSecretKey : Json → Bool
  | .object fields => secretKeyInFields fields
  | .array items => secretKeyInItems items
  | .null | .bool _ | .int _ | .float _ | .text _ => false

def secretKeyInItems : List Json → Bool
  | [] => false
  | item :: rest => containsSecretKey item || secretKeyInItems rest

def secretKeyInFields : List (String × Json) → Bool
  | [] => false
  | (key, item) :: rest => (isSecret python key || containsSecretKey item) || secretKeyInFields rest

end

/-- A text or an integer, which may identify an item. -/
def identityValue : Json → Option (String ⊕ ℤ)
  | .text value => some (.inl value)
  | .int value => some (.inr value)
  | .null | .bool _ | .float _ | .array _ | .object _ => none

/-- `compact_items.get(identity_key)`: of keys that are compacted alike the last one stays. -/
def compactItem (fields : List (String × Json)) (identityKey : String) : Option Json :=
  (fields.reverse.find? fun field =>
    compactKey python.toPythonText field.1 = identityKey.toList).map Prod.snd

/-- Return the first conventional stable identity for a configuration list item. -/
def listItemIdentity (value : Json) : Option (String × (String ⊕ ℤ)) :=
  listIdentityKeys.findSome? fun identityKey =>
    ((compactItem python value.asDict identityKey).bind identityValue).map fun identity =>
      (identityKey, identity)

/-- The items that a masked item may stand for. -/
def matchingItems (item : Json) (original : List Json) (requireIdentity : Bool) : List Json :=
  match listItemIdentity python item with
  | some identity => original.filter fun candidate => listItemIdentity python candidate = some identity
  | none => if requireIdentity then [] else original.filter (containsSecretKey python)

/-- Resolve a masked list item without depending on mutable list position. -/
def originalListItem (item : Json) (original : List Json) (requireIdentity : Bool) :
    Except RestoreError Json :=
  match matchingItems python item original requireIdentity with
  | [candidate] => .ok candidate
  | _ => .error .ambiguousListItem

def originalItem (item : Json) (original : List Json) (requireIdentity : Bool) (index : Nat) :
    Except RestoreError Json :=
  if containsSecretPlaceholder python item then originalListItem python item original requireIdentity
  else .ok (original[index]?.getD .null)

mutual

/-- Return a copy of nested JSON data with secret values replaced. -/
def redactSecrets : Json → Json
  | .object fields => .object (redactFields fields)
  | .array items => .array (redactItems items)
  | .null => .null
  | .bool value => .bool value
  | .int value => .int value
  | .float value => .float value
  | .text value => .text value

def redactItems : List Json → List Json
  | [] => []
  | item :: rest => redactSecrets item :: redactItems rest

def redactFields : List (String × Json) → List (String × Json)
  | [] => []
  | (key, item) :: rest =>
    (key, if isSecret python key then .text redactedValue else redactSecrets item) :: redactFields rest

end

mutual

/-- Restore unchanged placeholders from the original nested JSON data. -/
def restoreRedactedSecrets : Json → Json → Except RestoreError Json
  | .object fields, original => do
    let restored ← restoreFields fields original.asDict
    .ok (.object restored)
  | .array items, original => do
    let restored ← restoreItems items original.asList (items.length > 1) 0
    .ok (.array restored)
  | .null, _ => .ok .null
  | .bool value, _ => .ok (.bool value)
  | .int value, _ => .ok (.int value)
  | .float value, _ => .ok (.float value)
  | .text value, _ => .ok (.text value)

def restoreItems : List Json → List Json → Bool → Nat → Except RestoreError (List Json)
  | [], _, _, _ => .ok []
  | item :: rest, original, requireIdentity, index => do
    let candidate ← originalItem python item original requireIdentity index
    let restored ← restoreRedactedSecrets item candidate
    let others ← restoreItems rest original requireIdentity (index + 1)
    .ok (restored :: others)

def restoreFields : List (String × Json) → List (String × Json) →
    Except RestoreError (List (String × Json))
  | [], _ => .ok []
  | (key, item) :: rest, original =>
    (if isSecret python key && isRedacted item then
        match Json.lookup original key with
        | none => .error .missingOriginal
        | some value => .ok value
      else restoreRedactedSecrets item ((Json.lookup original key).getD .null)) >>= fun restored => do
    let others ← restoreFields rest original
    .ok ((key, restored) :: others)

end

end Redaction

/-! ### Rearrangements -/

/-- A rearrangement of the lists in a value: the order in which the items of a list are taken from
their old places, and what is rearranged in the item of each old place and in the field of each key.
-/
inductive Rearrangement where
  | keep
  | items (order : List Nat) (inner : Nat → Rearrangement)
  | fields (inner : String → Rearrangement)

namespace Rearrangement

def apply : Rearrangement → Json → Json
  | items order inner, .array values =>
    .array (order.map fun place => (inner place).apply (values[place]?.getD .null))
  | fields inner, .object values =>
      .object (values.map fun field => (field.1, (inner field.1).apply field.2))
  | _, value => value

def Permutes : Rearrangement → Json → Prop
  | keep, _ => True
  | items order inner, .array values => order.Perm (List.range values.length) ∧
      ∀ place value, values[place]? = some value → (inner place).Permutes value
  | fields inner, .object values => ∀ field ∈ values, (inner field.1).Permutes field.2
  | _, _ => False

end Rearrangement

end Micboard
