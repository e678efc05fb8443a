import Micboard.LibraryText
import Micboard.LibraryTable

/-! Routes of realtime events: the values an event dictionary holds, the identifiers read from them, the
names of the groups of a tenant, and the ownership of a chassis through its building. -/

namespace Micboard

open Library Library.Text

/-- A value of an event dictionary. A finite float is given by the integer that `int(…)` makes of it;
`other` is any object that `int(…)` refuses as no number, a float that is no number among them. -/
inductive EventValue where
  | none
  | bool (value : Bool)
  | int (value : Int)
  | float (truncated : Int)
  | infinite
  | text (value : String)
  | list (items : List EventValue)
  | mapping (items : List (String × EventValue))
  | other

/-- A dictionary as its items. -/
abbrev EventData := List (String × EventValue)

/-- `data.get(key)`. -/
def EventData.get (data : EventData) (key : String) : EventValue :=
  ((data.find? fun item => item.1 = key).map Prod.snd).getD .none

/-- `data[key] = value`. -/
def EventData.set (data : EventData) (key : String) (value : EventValue) : EventData :=
  if data.any (fun item => item.1 = key) then
    data.map fun item => if item.1 = key then (key, value) else item
  else
    data ++ [(key, value)]

theorem get_set (data : EventData) (key : String) (value : EventValue) :
    (data.set key value).get key = value := by
  rw [EventData.set]
  split
  next hany =>
    induction data with
    | nil => simp at hany
    | cons item rest ih =>
        by_cases hitem : item.1 = key
        · simp [EventData.get, hitem]
        · simp only [List.any_cons, hitem, decide_false, Bool.false_or] at hany
          simpa [EventData.get, hitem] using ih hany
  next hany =>
    have hnone : data.find? (fun item => item.1 = key) = Option.none := by
      rw [List.find?_eq_none]
      intro item hitem heq
      exact hany (List.any_eq_true.mpr ⟨item, hitem, heq⟩)
    simp [EventData.get, List.find?_append, hnone]

/-- The longest literal that `int(…)` reads, in digits. -/
def maxLiteralDigits : Nat := 4300

/-- The digits of a decimal literal: single underscores may stand between them. -/
def literalDigits (digits : List Char) : Option Nat :=
  let groups := digits.splitOn '_'
  if (groups.all fun group => group ≠ [] && group.all isDigit) &&
      groups.flatten.length ≤ maxLiteralDigits then
    some (decimalValue groups.flatten)
  else
    none

/-- `int(text)`, or nothing where it raises: the decimal digits of every script count. -/
def parseInt (text : String) : Option Int :=
  match stripChars (text.toList.map asciiDecimal) with
  | '-' :: digits => (literalDigits digits).map fun value => -(value : Int)
  | '+' :: digits => (literalDigits digits).map Int.ofNat
  | digits => (literalDigits digits).map Int.ofNat

example : (parseInt "1_0", parseInt "\u0668", parseInt "1__0") = (some 10, some 8, none) := by
  decide +kernel

/-- What `int(…)` raises. -/
inductive IntError where
  | typeError
  | valueError
  | overflowError
  deriving DecidableEq, Repr

/-- `int(value)`. -/
def EventValue.toInt : EventValue → Except IntError Int
  | .bool value => .ok (if value then 1 else 0)
  | .int value => .ok value
  | .float truncated => .ok truncated
  | .infinite => .error .overflowError
  | .text value => (parseInt value).elim (.error .valueError) .ok
  | .none | .list _ | .mapping _ | .other => .error .typeError

/-- An organization with its campus, if one is known. -/
abbrev TenantScope := Nat × Option Nat

def globalUpdatesGroup : String := "micboard_updates"

def organizationUpdatesGroup (organizationId : Nat) : String :=
  globalUpdatesGroup ++ ".organization." ++ String.ofList (decimal organizationId)

def campusUpdatesGroup (organizationId campusId : Nat) : String :=
  organizationUpdatesGroup organizationId ++ ".campus." ++ String.ofList (decimal campusId)

def siteUpdatesGroup (siteId : Nat) : String :=
  globalUpdatesGroup ++ ".site." ++ String.ofList (decimal siteId)

/-- The settings that choose between the global, the site and the tenant routes. -/
structure RealtimeSettings where
  mspEnabled : Bool
  multiSiteMode : Bool
  siteId : Option Int
  deriving DecidableEq, Repr

/-- A chassis with the owner of the building it stands in. -/
structure ChassisPlacement where
  pk : Nat
  organizationId : Option Nat
  campusId : Option Nat
  siteId : Option Nat
  deriving DecidableEq, Repr

/-- The chassis table joined with its buildings. -/
structure PlacementTable where
  rows : List ChassisPlacement
  unique : UniqueOn ChassisPlacement.pk rows

namespace RealtimeRoutingService

/-- A positive integer identifier, or none. An overflow is not caught. -/
def normalizeIdentifier (value : EventValue) : Except IntError (Option Nat) :=
  match value.toInt with
  | .ok identifier => .ok (if 0 < identifier then some identifier.toNat else none)
  | .error .overflowError => .error .overflowError
  | .error .typeError | .error .valueError => .ok none

/-- The tenant a dictionary names. -/
def scopeFromMapping (data : EventData) : Except IntError (Option TenantScope) := do
  match ← normalizeIdentifier (data.get "organization_id") with
  | none => .ok none
  | some organizationId =>
    let campusId ← normalizeIdentifier (data.get "campus_id")
    .ok (some (organizationId, campusId))

/-- `normalize_identifier(getattr(settings, "SITE_ID", None))`. -/
def normalizeSiteId (siteId : Option Int) : Option Nat :=
  siteId.bind fun siteId => if 0 < siteId then some siteId.toNat else none

/-- A site setting is an integer, and reading it raises nothing. -/
theorem normalizeIdentifier_siteId (siteId : Option Int) :
    normalizeIdentifier ((siteId.map EventValue.int).getD .none) = .ok (normalizeSiteId siteId) := by
  cases siteId with
  | none => rfl
  | some siteId => rfl

/-- The groups of one event scope; a campus event also goes to the group of its organization. -/
def groupsForScope (settings : RealtimeSettings) (organizationId campusId siteId : Option Nat) :
    List String :=
  if !settings.mspEnabled then
    if !settings.multiSiteMode then [globalUpdatesGroup]
    else
      -- `site_id or …`: zero counts as absent.
      let resolvedSiteId :=
        match siteId with
        | some (siteId + 1) => some (siteId + 1)
        | _ => normalizeSiteId settings.siteId
      (resolvedSiteId.map siteUpdatesGroup).toList
  else
    match organizationId with
    | none => []
    | some organizationId =>
      organizationUpdatesGroup organizationId ::
        (campusId.map (campusUpdatesGroup organizationId)).toList

/-- `chassis_tenant_scopes(ids).get(id)` for an identifier among `ids`. -/
def chassisTenantScopes (table : PlacementTable) (chassisIds : List Nat) :
    List (Nat × TenantScope) :=
  (table.rows.filter fun row => row.pk ∈ chassisIds).filterMap fun row =>
    row.organizationId.map fun organizationId => (row.pk, organizationId, row.campusId)

def chassisSiteIds (table : PlacementTable) (chassisIds : List Nat) : List (Nat × Nat) :=
  (table.rows.filter fun row => row.pk ∈ chassisIds).filterMap fun row =>
    row.siteId.map fun siteId => (row.pk, siteId)

end RealtimeRoutingService

theorem decimal_injective {m n : Nat} (h : decimal m = decimal n) : m = n := by
  rw [← Nat.ofDigitChars_toDigits (b := 10) (n := m) (by decide) (by decide),
    ← Nat.ofDigitChars_toDigits (b := 10) (n := n) (by decide) (by decide)]
  exact congrArg (Nat.ofDigitChars 10 · 0) h

theorem dot_notMem_decimal (n : Nat) : '.' ∉ decimal n := by
  intro h
  have := Nat.isDigit_of_mem_toDigits (by decide) (by decide) h
  revert this
  decide

theorem append_dot_inj {a b x y : List Char} (ha : '.' ∉ a) (hb : '.' ∉ b)
    (h : a ++ '.' :: x = b ++ '.' :: y) : a = b ∧ x = y := by
  induction a generalizing b with
  | nil =>
      cases b with
      | nil => exact ⟨rfl, (List.cons.inj h).2⟩
      | cons c b => exact absurd (List.cons.inj h).1 fun heq => hb (heq ▸ List.mem_cons_self)
  | cons c a ih =>
      cases b with
      | nil => exact absurd (List.cons.inj h).1 fun heq => ha (heq ▸ List.mem_cons_self)
      | cons d b =>
          obtain ⟨rfl, hrest⟩ := List.cons.inj h
          obtain ⟨rfl, rfl⟩ := ih (fun hmem => ha (List.mem_cons_of_mem _ hmem))
            (fun hmem => hb (List.mem_cons_of_mem _ hmem)) hrest
          exact ⟨rfl, rfl⟩

theorem organizationUpdatesGroup_injective {m n : Nat}
    (h : organizationUpdatesGroup m = organizationUpdatesGroup n) : m = n := by
  have hlist := congrArg String.toList h
  simp only [organizationUpdatesGroup, String.toList_append, String.toList_ofList] at hlist
  exact decimal_injective (List.append_cancel_left hlist)

theorem campusUpdatesGroup_injective {m n a b : Nat}
    (h : campusUpdatesGroup m a = campusUpdatesGroup n b) : m = n ∧ a = b := by
  have hlist := congrArg String.toList h
  simp only [campusUpdatesGroup, organizationUpdatesGroup, String.toList_append,
    String.toList_ofList, List.append_assoc, List.append_cancel_left_eq] at hlist
  obtain ⟨horganization, hcampus⟩ :=
    append_dot_inj (dot_notMem_decimal m) (dot_notMem_decimal n) hlist
  exact ⟨decimal_injective horganization, decimal_injective
    (@List.append_cancel_left _ "campus.".toList _ _ hcampus)⟩

theorem campusUpdatesGroup_ne (m n a : Nat) :
    campusUpdatesGroup m a ≠ organizationUpdatesGroup n := by
  intro h
  have hlist := congrArg String.toList h
  simp only [campusUpdatesGroup, organizationUpdatesGroup, String.toList_append,
    String.toList_ofList, List.append_assoc, List.append_cancel_left_eq] at hlist
  refine dot_notMem_decimal n (hlist ▸ List.mem_append_right _ ?_)
  exact List.mem_cons_self

end Micboard
