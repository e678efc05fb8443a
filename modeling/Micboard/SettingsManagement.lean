import Micboard.LibraryQuery
import Micboard.SettingsRegistry

/-! Which stored settings a user may see and change. A list of settings is filtered by a query on
the three scope columns, and one setting is authorized by a case analysis on its scope. An
identifier set that is absent leaves its dimension unrestricted, and an empty one closes it. -/

namespace Micboard

open Library.Query

/-- Identifiers whose stored overrides a user may inspect. -/
structure SettingsVisibilityScope where
  organizationIds : Option (Finset Int) := none
  siteIds : Option (Finset Int) := none
  manufacturerIds : Option (Finset Int) := none
  deriving DecidableEq

/-- The columns that the filters read. -/
inductive SettingColumn where
  | pk | organizationId | siteId | manufacturerId
  deriving DecidableEq, Repr

abbrev SettingFilter := Filter SettingColumn Int

/-- A conjunction of one condition on each scope column. -/
def onScopes (organization site manufacturer : SettingColumn → SettingFilter) : SettingFilter :=
  .and (.and (organization .organizationId) (site .siteId)) (manufacturer .manufacturerId)

def isNull (column : SettingColumn) : SettingFilter := .isNull column true

def isNotNull (column : SettingColumn) : SettingFilter := .isNull column false

def isAmong (values : Finset Int) (column : SettingColumn) : SettingFilter := .isIn column values

/-- The check constraint `setting_exactly_one_scope`. -/
def settingExactlyOneScope : SettingFilter :=
  .or (.or (.or (onScopes isNull isNull isNull) (onScopes isNotNull isNull isNull))
    (onScopes isNull isNotNull isNull))
    (onScopes isNull isNull isNotNull)

def settingColumns (pk : Int) (organizationId siteId manufacturerId : Option Int) :
    SettingColumn → Option Int
  | .pk => some pk
  | .organizationId => organizationId
  | .siteId => siteId
  | .manufacturerId => manufacturerId

/-- A stored setting override, with its constraint. -/
structure StoredSetting where
  pk : Int
  organizationId : Option Int
  siteId : Option Int
  manufacturerId : Option Int
  exactlyOneScope :
    settingExactlyOneScope.Takes (settingColumns pk organizationId siteId manufacturerId) := by decide

def StoredSetting.columns (row : StoredSetting) : SettingColumn → Option Int :=
  settingColumns row.pk row.organizationId row.siteId row.manufacturerId

/-- Return the one exact settings scope, or `none` for mixed scopes. -/
def resolveScope (organizationId siteId manufacturerId : Option Int) : Option SettingScope :=
  let identifiers : List (SettingScope × Option Int) :=
    [(.organization, organizationId), (.site, siteId), (.manufacturer, manufacturerId)]
  match (identifiers.filter fun identifier => identifier.2.isSome).map Prod.fst with
  | [] => some .global
  | [name] => some name
  | _ => none

namespace SettingsVisibilityService

variable (scope : SettingsVisibilityScope)

/-- Return whether every stored setting scope is available. -/
def isUnrestricted : Bool :=
  scope.organizationIds.isNone && scope.siteIds.isNone && scope.manufacturerIds.isNone

/-- The filter of one dimension added to those before it; `filter` is on its own column. -/
def addScope (visibilityFilter : SettingFilter) (identifiers : Option (Finset Int))
    (filter : (SettingColumn → SettingFilter) → SettingFilter) : SettingFilter :=
  match identifiers with
  | none => .or visibilityFilter (filter isNotNull)
  | some identifiers => if identifiers = ∅ then visibilityFilter else .or visibilityFilter
    (filter (isAmong identifiers))

/-- Build an exact-scope filter for stored setting rows. -/
def buildFilter (includeGlobal : Bool) : SettingFilter :=
  let visibilityFilter : SettingFilter := .isNull .pk true
  let visibilityFilter :=
    if includeGlobal then .or visibilityFilter (onScopes isNull isNull isNull) else visibilityFilter
  let visibilityFilter := addScope visibilityFilter scope.organizationIds fun filter =>
    onScopes filter isNull isNull
  let visibilityFilter := addScope visibilityFilter scope.siteIds fun filter =>
    onScopes isNull filter isNull
  addScope visibilityFilter scope.manufacturerIds fun filter => onScopes isNull isNull filter

/-- Return rows a user may mutate, excluding global rows when restricted. -/
def buildManagementFilter : SettingFilter := buildFilter scope (isUnrestricted scope)

/-- An identifier is among those of its dimension. -/
def allows (identifiers : Option (Finset Int)) (identifier : Option Int) : Bool :=
  match identifiers with
  | none => true
  | some identifiers => identifier.any fun identifier => identifier ∈ identifiers

/-- Authorize one exact setting scope against a user's visibility. -/
def canManageScope (organizationId siteId manufacturerId : Option Int) : Bool :=
  match resolveScope organizationId siteId manufacturerId with
  | some .global => isUnrestricted scope
  | none => false
  | some .organization => allows scope.organizationIds organizationId
  | some .site => allows scope.siteIds siteId
  | some _ => allows scope.manufacturerIds manufacturerId

end SettingsVisibilityService

section Takes

variable {row : SettingColumn → Option Int}

@[simp] theorem takes_onScopes {organization site manufacturer : SettingColumn → SettingFilter} :
    (onScopes organization site manufacturer).Takes row ↔
      ((organization .organizationId).Takes row ∧ (site .siteId).Takes row) ∧
        (manufacturer .manufacturerId).Takes row := by
  rw [onScopes, Filter.takes_and, Filter.takes_and]

@[simp] theorem takes_isNull {column : SettingColumn} : (isNull column).Takes row ↔ row column = none :=
  Filter.takes_isNull

@[simp] theorem takes_isNotNull {column : SettingColumn} :
    (isNotNull column).Takes row ↔ row column ≠ none :=
  Filter.takes_isNotNull

@[simp] theorem takes_isAmong {values : Finset Int} {column : SettingColumn} :
    (isAmong values column).Takes row ↔ ∃ value ∈ values, row column = some value :=
  Filter.takes_isIn

/-- The identifier of a column is among those of its dimension. -/
def AllowedIn (identifiers : Option (Finset Int)) (identifier : Option Int) : Prop :=
  ∃ value, identifier = some value ∧ ∀ values, identifiers = some values → value ∈ values

theorem allows_some {identifiers : Option (Finset Int)} {value : Int} :
    SettingsVisibilityService.allows identifiers (some value) = true ↔
      AllowedIn identifiers (some value) := by
  cases identifiers with
  | none => simp [SettingsVisibilityService.allows, AllowedIn]
  | some values => simp [SettingsVisibilityService.allows, AllowedIn]

/-- **One dimension** adds the rows whose identifier it allows. -/
theorem takes_addScope {visibilityFilter : SettingFilter} {identifiers : Option (Finset Int)}
    {filter : (SettingColumn → SettingFilter) → SettingFilter} {column : SettingColumn} {others : Prop}
    (hfilter : ∀ own, (filter own).Takes row ↔ (own column).Takes row ∧ others) :
    (SettingsVisibilityService.addScope visibilityFilter identifiers filter).Takes row ↔
      visibilityFilter.Takes row ∨ (AllowedIn identifiers (row column) ∧ others) := by
  cases identifiers with
  | none =>
      rw [SettingsVisibilityService.addScope, Filter.takes_or, hfilter, takes_isNotNull,
        Option.ne_none_iff_exists']
      simp [AllowedIn]
  | some values =>
      rw [SettingsVisibilityService.addScope]
      by_cases hempty : values = ∅
      · subst hempty
        simp [AllowedIn]
      · rw [if_neg hempty, Filter.takes_or, hfilter, takes_isAmong]
        simp only [AllowedIn, Option.some.injEq, forall_eq', and_comm]

end Takes

@[simp] theorem columns_pk (row : StoredSetting) : row.columns .pk = some row.pk := rfl

@[simp] theorem columns_organizationId (row : StoredSetting) : row.columns .organizationId =
    row.organizationId := rfl

@[simp] theorem columns_siteId (row : StoredSetting) : row.columns .siteId = row.siteId := rfl

@[simp] theorem columns_manufacturerId (row : StoredSetting) : row.columns .manufacturerId =
    row.manufacturerId := rfl

/-- **What a filter takes**: global rows where they are included, and the rows of one dimension that
it allows. -/
theorem takes_buildFilter {scope : SettingsVisibilityScope} {includeGlobal : Bool}
    {row : StoredSetting} :
    (SettingsVisibilityService.buildFilter scope includeGlobal).Takes row.columns ↔
      (((includeGlobal = true ∧ row.organizationId = none ∧ row.siteId = none ∧
        row.manufacturerId = none) ∨
        (AllowedIn scope.organizationIds row.organizationId ∧ row.siteId = none ∧
          row.manufacturerId = none)) ∨
        (AllowedIn scope.siteIds row.siteId ∧ row.organizationId = none ∧ row.manufacturerId = none)) ∨
        (AllowedIn scope.manufacturerIds row.manufacturerId ∧ row.organizationId = none ∧
          row.siteId = none) := by
  have horganization : ∀ own, (onScopes own isNull isNull).Takes row.columns ↔
      (own .organizationId).Takes row.columns ∧ row.siteId = none ∧ row.manufacturerId = none := by
    intro own
    rw [takes_onScopes, takes_isNull, takes_isNull, and_assoc]
    rfl
  have hsite : ∀ own, (onScopes isNull own isNull).Takes row.columns ↔
      (own .siteId).Takes row.columns ∧ row.organizationId = none ∧ row.manufacturerId = none := by
    intro own
    rw [takes_onScopes, takes_isNull, takes_isNull, and_comm (a := _ = none), and_assoc]
    rfl
  have hmanufacturer : ∀ own, (onScopes isNull isNull own).Takes row.columns ↔
      (own .manufacturerId).Takes row.columns ∧ row.organizationId = none ∧ row.siteId = none := by
    intro own
    rw [takes_onScopes, takes_isNull, takes_isNull, and_comm]
    rfl
  have hglobal : (if includeGlobal then Filter.or (.isNull .pk true) (onScopes isNull isNull isNull)
      else Filter.isNull .pk true : SettingFilter).Takes row.columns ↔
        includeGlobal = true ∧ row.organizationId = none ∧ row.siteId = none ∧
          row.manufacturerId = none := by
    cases includeGlobal with
    | true => simp [and_assoc]
    | false => simp
  rw [SettingsVisibilityService.buildFilter, takes_addScope hmanufacturer, takes_addScope hsite,
    takes_addScope horganization, hglobal]
  rfl

/-! ### The filter and the authorization -/

theorem StoredSetting.scoped (row : StoredSetting) :
    (((row.organizationId = none ∧ row.siteId = none ∧ row.manufacturerId = none) ∨
      ((∃ id, row.organizationId = some id) ∧ row.siteId = none ∧ row.manufacturerId = none)) ∨
      (row.organizationId = none ∧ (∃ id, row.siteId = some id) ∧ row.manufacturerId = none)) ∨
      (row.organizationId = none ∧ row.siteId = none ∧ ∃ id, row.manufacturerId = some id) := by
  have hscoped : settingExactlyOneScope.Takes row.columns := row.exactlyOneScope
  rw [settingExactlyOneScope, Filter.takes_or, Filter.takes_or, Filter.takes_or] at hscoped
  simpa only [takes_onScopes, takes_isNull, takes_isNotNull, Option.ne_none_iff_exists', and_assoc,
    columns_organizationId, columns_siteId, columns_manufacturerId] using hscoped

/-- **A row passes the filter of the rows that may be changed exactly if its scope is authorized.** -/
theorem takes_management_iff (scope : SettingsVisibilityScope) (row : StoredSetting) :
    (SettingsVisibilityService.buildManagementFilter scope).Takes row.columns ↔
      SettingsVisibilityService.canManageScope scope row.organizationId row.siteId
        row.manufacturerId = true := by
  rw [SettingsVisibilityService.buildManagementFilter, takes_buildFilter]
  have hnone : ∀ identifiers, ¬AllowedIn identifiers none := by
    rintro identifiers ⟨value, hvalue, -⟩
    cases hvalue
  rcases row.scoped with ((⟨ho, hs, hm⟩ | ⟨⟨id, ho⟩, hs, hm⟩) | ⟨ho, ⟨id, hs⟩, hm⟩) | ⟨ho, hs, ⟨id, hm⟩⟩
  · rw [ho, hs, hm]
    simp [hnone, SettingsVisibilityService.canManageScope, resolveScope]
  · rw [ho, hs, hm]
    simp [hnone, SettingsVisibilityService.canManageScope, resolveScope, allows_some]
  · rw [ho, hs, hm]
    simp [hnone, SettingsVisibilityService.canManageScope, resolveScope, allows_some]
  · rw [ho, hs, hm]
    simp [hnone, SettingsVisibilityService.canManageScope, resolveScope, allows_some]

/-- **The filter for changes agrees with the authorization**, and what can be changed can be seen. -/
theorem settings_management_agrees (scope : SettingsVisibilityScope) (row : StoredSetting) :
    ((SettingsVisibilityService.buildManagementFilter scope).Takes row.columns ↔
      SettingsVisibilityService.canManageScope scope row.organizationId row.siteId
        row.manufacturerId = true) ∧
      (SettingsVisibilityService.canManageScope scope row.organizationId row.siteId
        row.manufacturerId = true →
        (SettingsVisibilityService.buildFilter scope true).Takes row.columns) := by
  refine ⟨takes_management_iff scope row, fun hmanage => ?_⟩
  have htaken := (takes_management_iff scope row).mpr hmanage
  rw [SettingsVisibilityService.buildManagementFilter, takes_buildFilter] at htaken
  rw [takes_buildFilter]
  exact htaken.imp_left (Or.imp_left (Or.imp_left fun hglobal => ⟨rfl, hglobal.2⟩))

def organizationSetting : StoredSetting where
  pk := 1
  organizationId := some 3
  siteId := none
  manufacturerId := none

theorem settings_management_agrees_organization :
    (SettingsVisibilityService.buildFilter
      { organizationIds := some {3}, siteIds := some ∅ } true).Takes
      organizationSetting.columns :=
  (settings_management_agrees
    { organizationIds := some {3}, siteIds := some ∅ } organizationSetting).2 (by decide)

end Micboard
