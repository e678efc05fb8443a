import Micboard.SettingsCoherence

/-! Runs of the settings: reads by any process, writes and edits of definitions that are committed
and then invalidated, and invalidations on their own. -/

namespace Micboard.SettingsRegistry

open Library Library.Text

section Writes

variable {json : JsonCodec} {used : String → Prop} {s : SettingsSystem}

/-- The generation that an invalidation of values renews. -/
def valueVersionName (key : Option String) : String :=
  match key.filter (· ≠ "") with
  | some key => versionCacheKey key
  | none => globalVersionCacheKey

/-- The generation that an invalidation of definitions renews. -/
def definitionVersionName : Option String → String
  | some key => definitionVersionCacheKey key
  | none => globalDefinitionVersionCacheKey

theorem clearLocal_forgets {process other : Nat} {key : String} {cached : String × SettingDefinition}
    (h : (clearLocal s process).localDefinitions other key = some cached) :
    s.localDefinitions other key = some cached := by
  by_cases hother : other = process
  · subst hother
    simp [clearLocal] at h
  · simpa [clearLocal, hother] using h

theorem setLocal_none_forgets {process other : Nat} {key otherKey : String}
    {cached : String × SettingDefinition}
    (h : (setLocal s process key none).localDefinitions other otherKey = some cached) :
    s.localDefinitions other otherKey = some cached := by
  by_cases hother : other = process
  · subst hother
    by_cases hkey : otherKey = key
    · subst hkey
      simp [setLocal] at h
    · simpa [setLocal, hkey] using h
  · simpa [setLocal, hother] using h

theorem invalidateCache_eq (s : SettingsSystem) (process : Nat) (key : Option String) (token : String) :
    ∃ locals, invalidateCache s process key token =
        { s with
          versions := Function.update s.versions (valueVersionName key) token
          localDefinitions := locals } ∧
      ∀ process key cached, locals process key = some cached →
        s.localDefinitions process key = some cached := by
  unfold invalidateCache valueVersionName
  cases key.filter (· ≠ "") with
  | some key => exact ⟨s.localDefinitions, rfl, fun _ _ _ h => h⟩
  | none => exact ⟨_, rfl, fun _ _ _ h => clearLocal_forgets h⟩

theorem invalidateDefinition_eq (s : SettingsSystem) (process : Nat) (key : Option String)
    (definitionToken token : String) :
    ∃ locals, invalidateDefinition s process key definitionToken token =
        { s with
          versions :=
            Function.update (Function.update s.versions (definitionVersionName key) definitionToken)
            (valueVersionName key) token
          localDefinitions := locals } ∧
      ∀ process key cached, locals process key = some cached →
        s.localDefinitions process key = some cached := by
  unfold invalidateDefinition
  cases key with
  | none =>
      obtain ⟨locals, heq, hlocals⟩ := invalidateCache_eq
        (clearLocal (setVersion s globalDefinitionVersionCacheKey definitionToken) process)
          process none token
      refine ⟨locals, heq, fun other otherKey cached hcached => ?_⟩
      exact clearLocal_forgets (hlocals other otherKey cached hcached)
  | some key =>
      obtain ⟨locals, heq, hlocals⟩ := invalidateCache_eq
        (setVersion (setLocal s process key none)
          (definitionVersionCacheKey key) definitionToken) process
        (some key) token
      refine ⟨locals, heq, fun other otherKey cached hcached => ?_⟩
      exact setLocal_none_forgets (hlocals other otherKey cached hcached)

/-- A query of an invalidated key has a new generation. -/
theorem valueVersionName_cases (key : String) :
    valueVersionName (some key) = globalVersionCacheKey ∨
      valueVersionName (some key) = versionCacheKey key := by
  unfold valueVersionName
  by_cases hkey : key = ""
  · subst hkey
    exact .inl rfl
  · right
    have hsome : (some key).filter (· ≠ "") = some key := by simp [Option.filter, hkey]
    rw [hsome]

/-- What a query resolves to depends on the definition and the rows of its key alone. -/
theorem resolution_eq_of_same {db db' : SettingsDatabase} {call : SettingsCall}
    (hdefinition : db'.definition call.key = db.definition call.key)
    (hsetting : ∀ organization site manufacturer, db'.setting call.key organization site manufacturer =
      db.setting call.key organization site manufacturer) :
    resolution json db' call = resolution json db call := by
  unfold resolution
  rw [hdefinition]
  cases hfound : db.definition call.key with
  | none => rfl
  | some definition =>
      have hkey : definition.key = call.key := by simpa using List.find?_some hfound
      have hstored : storedValue json db' definition call = storedValue json db definition call := by
        unfold storedValue
        cases scopeFilter definition call with
        | none => rfl
        | some scopes =>
            obtain ⟨organization, site, manufacturer⟩ := scopes
            rw [hkey]
            dsimp only
            rw [hsetting organization site manufacturer]
            cases hrow : db.setting call.key organization site manufacturer with
            | none => rfl
            | some row =>
                have hrowkey : row.definition = call.key := by
                  have hmatch := List.find?_some hrow
                  simp only [Bool.and_eq_true, decide_eq_true_eq] at hmatch
                  exact hmatch.1.1.1
                dsimp only
                rw [hrowkey, hdefinition]
      simp only [hstored]

/-- A search does not see a change of rows that do not match before or after it. -/
theorem find?_map_of_untouched {α : Type*} {p : α → Bool} {f : α → α}
    (h : ∀ a, f a ≠ a → p a = false ∧ p (f a) = false) (rows : List α) :
    (rows.map f).find? p = rows.find? p := by
  induction rows with
  | nil => rfl
  | cons row rest ih =>
      by_cases hsame : f row = row
      · rw [List.map_cons, hsame, List.find?_cons, List.find?_cons, ih]
      · obtain ⟨hbefore, hafter⟩ := h row hsame
        rw [List.map_cons, List.find?_cons, List.find?_cons, hbefore, hafter]
        exact ih

theorem setting_updateOrCreate {db : SettingsDatabase} {row : Setting} {key : String}
    (hkey : row.definition ≠ key) (organization site manufacturer : Option Nat) :
    ({ db with settings := SettingsPersistenceService.updateOrCreate db.settings row } :
        SettingsDatabase).setting key organization site manufacturer =
      db.setting key organization site manufacturer := by
  unfold SettingsDatabase.setting SettingsPersistenceService.updateOrCreate
  dsimp only
  split
  · refine find?_map_of_untouched (fun setting hchanged => ?_) db.settings
    split at hchanged
    · next hsame =>
        have hother : setting.definition ≠ key := by
          simp only [Bool.and_eq_true, decide_eq_true_eq] at hsame
          rw [hsame.1.1.1]
          exact hkey
        rw [if_pos hsame]
        simp [hother]
    · exact absurd rfl hchanged
  · rw [List.find?_append, List.find?_singleton]
    simp [hkey]

/-- The definitions after an administrator's edit. -/
def savedDefinitions (definitions : List SettingDefinition) (definition : SettingDefinition) :
    List SettingDefinition :=
  if definitions.any (fun other => other.key = definition.key) then
    definitions.map fun other => if other.key = definition.key then definition else other
  else definitions ++ [definition]

theorem find?_savedDefinitions {definitions : List SettingDefinition} {definition : SettingDefinition}
    {key : String} (hkey : definition.key ≠ key) :
    (savedDefinitions definitions definition).find? (fun other => other.key = key) =
      definitions.find? fun other => other.key = key := by
  unfold savedDefinitions
  split
  · refine find?_map_of_untouched (fun other hchanged => ?_) definitions
    split at hchanged
    · next hsame =>
        rw [if_pos hsame]
        simp [hsame, hkey]
    · exact absurd rfl hchanged
  · rw [List.find?_append, List.find?_singleton]
    simp [hkey]

theorem Coherent.update_ne (h : Coherent json used s) {name token : String} (hnew : ¬ used token) :
    token ≠ s.versions name := by
  rintro rfl
  exact hnew (h.versions name)

theorem versions_update_cases {versions : String → String} {name token : String} {fresh : List String}
    (hfresh : token ∈ fresh) (other : String) :
    Function.update versions name token other = versions other ∨
      Function.update versions name token other ∈ fresh := by
  by_cases hother : other = name
  · subst hother
    right
    rwa [Function.update_self]
  · left
    rw [Function.update_of_ne hother]

/-- No query of a key keeps both its generations when the key is invalidated. -/
theorem Coherent.query_renewed (h : Coherent json used s) {versions : String → String}
    {key token : String}
    (hnew : ¬ used token)
    (hglobal : Function.update versions (valueVersionName (some key)) token globalVersionCacheKey =
      s.versions globalVersionCacheKey)
    (hversion : Function.update versions (valueVersionName (some key)) token (versionCacheKey key) =
      s.versions (versionCacheKey key)) : False := by
  rcases valueVersionName_cases key with hname | hname
  · rw [hname, Function.update_self] at hglobal
    exact h.update_ne hnew hglobal
  · rw [hname, Function.update_self] at hversion
    exact h.update_ne hnew hversion

/-- Values of one key may change together with a new generation of that key. -/
theorem Coherent.write (h : Coherent json used s) {db : SettingsDatabase} {key token : String}
    (hfresh : ':' ∉ token.toList ∧ ¬ used token) (process : Nat)
    (hdefinition : ∀ other, db.definition other = s.database.definition other)
    (hsetting : ∀ other, key ≠ other → ∀ organization site manufacturer,
      db.setting other organization site manufacturer =
        s.database.setting other organization site manufacturer) :
    Coherent json (fun other => used other ∨ other ∈ [token])
      (invalidateCache { s with database := db } process (some key) token) := by
  obtain ⟨locals, heq, hlocals⟩ := invalidateCache_eq { s with database := db } process (some key) token
  rw [heq]
  have hnew : ∀ fresh ∈ [token], ':' ∉ fresh.toList ∧ ¬ used fresh := by
    intro fresh hmem
    rw [List.mem_singleton.mp hmem]
    exact hfresh
  refine h.renew hnew rfl rfl hlocals (versions_update_cases (List.mem_singleton_self token))
    (fun other _ _ => hdefinition other) fun call hglobal hversion => ?_
  have hkey : key ≠ call.key := by
    rintro rfl
    exact h.query_renewed hfresh.2 hglobal hversion
  exact resolution_eq_of_same (hdefinition call.key) (hsetting call.key hkey)

theorem Coherent.save (h : Coherent json used s) (write : SettingsWrite) {token : String}
    (hfresh : ':' ∉ token.toList ∧ ¬ used token) :
    Coherent json (fun other => used other ∨ other ∈ [token])
      (SettingsPersistenceService.save json s write token) := by
  have hsame : Coherent json (fun other => used other ∨ other ∈ [token]) s := by
    refine h.mono (fun _ => .inl) ?_
    rintro other (hused | hnew)
    · exact h.plain other hused
    · rw [List.mem_singleton.mp hnew]
      exact hfresh.1
  unfold SettingsPersistenceService.save
  split
  · exact hsame
  · cases SettingsPersistenceService.definitionFor s.database write with
    | none => exact hsame
    | some definition =>
        dsimp only
        cases definition.serializeValue json write.value with
        | none => exact hsame
        | some value =>
            refine h.write hfresh write.process (fun _ => rfl) fun other hother => ?_
            have hrow : (write.target.row definition.key value).definition = definition.key := by
              cases write.target with
              | global | organization _ | site _ | manufacturer _ => rfl
            exact setting_updateOrCreate (by rw [hrow]; exact hother)

theorem Coherent.invalidateCache (h : Coherent json used s) (process : Nat) (key : Option String)
    {token : String} (hfresh : ':' ∉ token.toList ∧ ¬ used token) :
    Coherent json (fun other => used other ∨ other ∈ [token])
      (invalidateCache s process key token) := by
  obtain ⟨locals, heq, hlocals⟩ := invalidateCache_eq s process key token
  rw [heq]
  have hnew : ∀ fresh ∈ [token], ':' ∉ fresh.toList ∧ ¬ used fresh := by
    intro fresh hmem
    rw [List.mem_singleton.mp hmem]
    exact hfresh
  exact h.renew hnew rfl rfl hlocals (versions_update_cases (List.mem_singleton_self token))
    (fun _ _ _ => rfl) (fun _ _ _ => rfl)

/-- Definitions may change together with a new generation of their key. -/
theorem Coherent.writeDefinition (h : Coherent json used s) {db : SettingsDatabase}
    {definitionToken token : String}
    (hdefinitionToken : ':' ∉ definitionToken.toList ∧ ¬ used definitionToken)
    (htoken : ':' ∉ token.toList ∧ ¬ used token) (process : Nat) (key : Option String)
    (hsettings : db.settings = s.database.settings)
    (hdefinitions : ∀ other, key ≠ some other → db.definition other = s.database.definition other) :
    Coherent json (fun other => used other ∨ other ∈ [definitionToken, token])
      (invalidateDefinition { s with database := db } process key definitionToken token) := by
  obtain ⟨locals, heq, hlocals⟩ :=
    invalidateDefinition_eq { s with database := db } process key definitionToken token
  rw [heq]
  have hnew : ∀ fresh ∈ [definitionToken, token], ':' ∉ fresh.toList ∧ ¬ used fresh := by
    intro fresh hmem
    rcases List.mem_cons.mp hmem with rfl | hmem
    · exact hdefinitionToken
    · rw [List.mem_singleton.mp hmem]
      exact htoken
  have hsetting : ∀ other organization site manufacturer,
      db.setting other organization site manufacturer =
        s.database.setting other organization site manufacturer := by
    intro other organization site manufacturer
    unfold SettingsDatabase.setting
    rw [hsettings]
  refine h.renew hnew rfl rfl hlocals (fun name => ?_) (fun other _ hversion => ?_)
    fun call hglobal hversion => ?_
  · rcases @versions_update_cases
      (Function.update s.versions (definitionVersionName key) definitionToken)
      (valueVersionName key) token [definitionToken, token] (by simp) name with hold | hnewest
    · rcases @versions_update_cases s.versions (definitionVersionName key) definitionToken
        [definitionToken, token] (by simp) name with hkept | hrenewed
      · exact .inl (hold.trans hkept)
      · right
        show Function.update (Function.update s.versions (definitionVersionName key) definitionToken)
          (valueVersionName key) token name ∈ [definitionToken, token]
        rw [hold]
        exact hrenewed
    · exact .inr hnewest
  · refine hdefinitions other ?_
    rintro rfl
    have hversion : Function.update (Function.update s.versions (definitionVersionCacheKey other)
        definitionToken) (valueVersionName (some other)) token (definitionVersionCacheKey other) =
          s.versions (definitionVersionCacheKey other) := hversion
    by_cases hname : definitionVersionCacheKey other = valueVersionName (some other)
    · rw [← hname, Function.update_self] at hversion
      exact h.update_ne htoken.2 hversion
    · rw [Function.update_of_ne hname, Function.update_self] at hversion
      exact h.update_ne hdefinitionToken.2 hversion
  · refine resolution_eq_of_same (hdefinitions call.key ?_) (hsetting call.key)
    rintro rfl
    exact h.query_renewed htoken.2 hglobal hversion

theorem Coherent.saveDefinition (h : Coherent json used s) (process : Nat)
    (definition : SettingDefinition)
    {definitionToken token : String}
    (hdefinitionToken : ':' ∉ definitionToken.toList ∧ ¬ used definitionToken)
    (htoken : ':' ∉ token.toList ∧ ¬ used token) :
    Coherent json (fun other => used other ∨ other ∈ [definitionToken, token])
      (saveDefinition s process definition definitionToken token) := by
  refine h.writeDefinition hdefinitionToken htoken process (some definition.key) rfl
    fun other hother => ?_
  exact find?_savedDefinitions fun heq => hother (congrArg some heq)

theorem Coherent.step (h : Coherent json used s) {event : SettingsEvent}
    (hfresh : ∀ token ∈ event.tokens, ':' ∉ token.toList ∧ ¬ used token) :
    Coherent json (fun token => used token ∨ token ∈ event.tokens) (s.step json event) := by
  have hsame : ∀ {t : SettingsSystem}, Coherent json used t →
      Coherent json (fun token => used token ∨ token ∈ event.tokens) t := by
    intro t ht
    refine ht.mono (fun _ => .inl) ?_
    rintro token (hused | hnew)
    · exact h.plain token hused
    · exact (hfresh token hnew).1
  cases event with
  | tick microseconds => exact hsame (h.tick microseconds)
  | get call => exact hsame (h.get call).2
  | save write token => exact h.save write (hfresh token (List.mem_singleton_self token))
  | saveDefinition process definition definitionToken token =>
      exact h.saveDefinition process definition
        (hfresh definitionToken (by simp [SettingsEvent.tokens]))
        (hfresh token (by simp [SettingsEvent.tokens]))
  | invalidateCache process key token =>
      exact h.invalidateCache process key (hfresh token (List.mem_singleton_self token))
  | invalidateDefinition process key definitionToken token =>
      exact h.writeDefinition (hfresh definitionToken (by simp [SettingsEvent.tokens]))
        (hfresh token (by simp [SettingsEvent.tokens])) process key rfl fun _ _ => rfl

end Writes

section Stored

variable {json : JsonCodec} {s t : SettingsSystem} {call : SettingsCall}

/-- A lookup of a definition changes neither the cache nor the clock. -/
theorem getDefinition_values (s : SettingsSystem) (process : Nat) (key : String) :
    (getDefinition s process key).1.values = s.values ∧
      (getDefinition s process key).1.now = s.now := by
  have hload : (loadDefinition s process key).1.values = s.values ∧
      (loadDefinition s process key).1.now = s.now := by
    unfold loadDefinition
    cases s.database.definition key <;> exact ⟨rfl, rfl⟩
  unfold getDefinition
  cases s.localDefinitions process key with
  | none => exact hload
  | some cached =>
      dsimp only
      split
      · exact ⟨rfl, rfl⟩
      · exact hload

/-- What a call adds to the cache: nothing, or what it returns under its own key. -/
inductive Stores (s : SettingsSystem) (call : SettingsCall) :
    SettingsSystem × Except SettingsError SettingValue → Prop
  | nothing {t : SettingsSystem} {result : Except SettingsError SettingValue}
    (h : t.values = s.values) :
      Stores s call (t, result)
  | returned {t : SettingsSystem} {value : SettingValue}
      (h : t.values = Cache.set s.values s.now (buildCacheKey s call) value cacheTtl) :
        Stores s call (t, .ok value)

theorem useDefault_stores (hvalues : t.values = s.values) (hnow : t.now = s.now) :
    Stores s call (useDefault t (buildCacheKey s call) call) := by
  unfold useDefault
  split
  · exact .returned (by rw [store, hvalues, hnow])
  · split <;> exact .nothing hvalues

theorem getDefinitionDefault_values (s : SettingsSystem) (call : SettingsCall) :
    (getDefinitionDefault json s call).1.values = s.values ∧
      (getDefinitionDefault json s call).1.now = s.now :=
  getDefinition_values s call.process call.key

theorem resolveScopedValue_values (s : SettingsSystem) (call : SettingsCall) :
    (resolveScopedValue json s call).1.values = s.values ∧
      (resolveScopedValue json s call).1.now = s.now := by
  obtain ⟨hvalues, hnow⟩ := getDefinition_values s call.process call.key
  unfold resolveScopedValue
  generalize getDefinition s call.process call.key = looked at hvalues hnow
  obtain ⟨t, definition⟩ := looked
  cases definition <;> exact ⟨hvalues, hnow⟩

theorem fetch_stores (s : SettingsSystem) (call : SettingsCall) :
    Stores s call (fetch json s (buildCacheKey s call) call) := by
  obtain ⟨hvalues, hnow⟩ := @resolveScopedValue_values json s call
  unfold fetch
  generalize resolveScopedValue json s call = looked at hvalues hnow
  obtain ⟨t, value⟩ := looked
  dsimp only at hvalues hnow ⊢
  cases value with
  | error error => exact .nothing hvalues
  | ok value =>
      dsimp only
      split
      · exact .returned (by rw [store, hvalues, hnow])
      · split
        · obtain ⟨hvalues', hnow'⟩ := @getDefinitionDefault_values json t call
          generalize getDefinitionDefault json t call = looked at hvalues' hnow'
          obtain ⟨u, parsed⟩ := looked
          dsimp only at hvalues' hnow' ⊢
          split
          · exact .nothing (hvalues'.trans hvalues)
          · exact .returned (by rw [store, hvalues', hnow', hvalues, hnow])
          · exact useDefault_stores (hvalues'.trans hvalues) (hnow'.trans hnow)
        · exact useDefault_stores hvalues hnow

theorem get_stores (s : SettingsSystem) (call : SettingsCall) : Stores s call (get json s call) := by
  unfold get
  dsimp only
  split
  · split
    · exact .nothing rfl
    · exact fetch_stores s call
  · exact fetch_stores s call

theorem invalidateCache_values (s : SettingsSystem) (process : Nat) (key : Option String)
    (token : String) :
    (invalidateCache s process key token).values = s.values := by
  obtain ⟨locals, heq, -⟩ := invalidateCache_eq s process key token
  rw [heq]

theorem invalidateDefinition_values (s : SettingsSystem) (process : Nat) (key : Option String)
    (definitionToken token : String) :
    (invalidateDefinition s process key definitionToken token).values = s.values := by
  obtain ⟨locals, heq, -⟩ := invalidateDefinition_eq s process key definitionToken token
  rw [heq]

/-- A step adds nothing to the cache but what a call returns. -/
theorem step_values (json : JsonCodec) (s : SettingsSystem) (event : SettingsEvent) {text : String}
    {entry : CacheEntry SettingValue} (h : (s.step json event).values text = some entry) :
    s.values text = some entry ∨ ∃ call, event = .get call ∧ text = buildCacheKey s call ∧
      (get json s call).2 = .ok entry.value ∧ entry.expires = s.now + cacheTtl := by
  cases event with
  | get call =>
      have hstores := @get_stores json s call
      have h : (get json s call).1.values text = some entry := h
      generalize hget : get json s call = result at hstores h
      cases hstores with
      | nothing hvalues =>
          left
          rw [← hvalues]
          exact h
      | returned hvalues =>
          rw [hvalues] at h
          rcases Cache.set_eq_some h with ⟨rfl, rfl⟩ | hold
          · exact .inr ⟨call, rfl, rfl, by rw [hget], rfl⟩
          · exact .inl hold
  | tick microseconds => exact .inl h
  | save write token =>
      left
      have h : (SettingsPersistenceService.save json s write token).values text = some entry := h
      unfold SettingsPersistenceService.save at h
      split at h
      · exact h
      · split at h
        · exact h
        · split at h
          · exact h
          · rwa [invalidateCache_values] at h
  | saveDefinition process definition definitionToken token =>
      left
      have h : (saveDefinition s process definition definitionToken token).values text = some entry := h
      rwa [saveDefinition, invalidateDefinition_values] at h
  | invalidateCache process key token =>
      left
      have h : (invalidateCache s process key token).values text = some entry := h
      rwa [invalidateCache_values] at h
  | invalidateDefinition process key definitionToken token =>
      left
      have h : (invalidateDefinition s process key definitionToken token).values text = some entry := h
      rwa [invalidateDefinition_values] at h

/-- A cached value is what an earlier call of the run has returned. -/
theorem settingsAt_values {database : SettingsDatabase} {events : Nat → SettingsEvent}
    {i : Nat} {text : String}
    {entry : CacheEntry SettingValue}
    (h : (settingsAt json database events i).values text = some entry) :
    ∃ j < i, ∃ call, events j = .get call ∧
      text = buildCacheKey (settingsAt json database events j) call ∧
      (get json (settingsAt json database events j) call).2 = .ok entry.value ∧
      entry.expires = (settingsAt json database events j).now + cacheTtl := by
  induction i with
  | zero => cases h
  | succ i ih =>
      rcases step_values json _ _ h with hold | ⟨call, hevent, htext, hreturned, hexpires⟩
      · obtain ⟨j, hj, hcall⟩ := ih hold
        exact ⟨j, hj.trans i.lt_succ_self, hcall⟩
      · exact ⟨i, i.lt_succ_self, call, hevent, htext, hreturned, hexpires⟩

end Stored

/-! ### Runs -/

section Runs

variable {json : JsonCodec} {database : SettingsDatabase} {events : Nat → SettingsEvent}

/-- The generations that a run has used before an event. -/
def UsedBefore (events : Nat → SettingsEvent) (i : Nat) (token : String) : Prop :=
  token = "0" ∨ ∃ j < i, token ∈ (events j).tokens

theorem plain_of_hexadecimal {token : String} (h : ∀ c ∈ token.toList, isHexDigit c = true) :
    ':' ∉ token.toList := by
  intro hmem
  exact absurd (h _ hmem) (by decide)

theorem coherent_settingsAt (hfresh : FreshTokens events) (i : Nat) :
    Coherent json (UsedBefore events i) (settingsAt json database events i) := by
  induction i with
  | zero =>
      refine (coherent_empty database).mono (fun _ => .inl) ?_
      rintro token (rfl | ⟨j, hj, -⟩)
      · decide
      · exact absurd hj (Nat.not_lt_zero j)
  | succ i ih =>
      have htokens : ∀ token ∈ (events i).tokens, ':' ∉ token.toList ∧ ¬ UsedBefore events i token := by
        intro token htoken
        obtain ⟨hhex, hlength, hnew⟩ := hfresh i token htoken
        refine ⟨plain_of_hexadecimal hhex, ?_⟩
        rintro (rfl | ⟨j, hj, hused⟩)
        · exact absurd hlength (by decide)
        · exact hnew j hj hused
      refine (ih.step htokens).mono ?_ ?_
      · rintro token ((rfl | ⟨j, hj, hused⟩) | hnew)
        · exact .inl rfl
        · exact .inr ⟨j, hj.trans i.lt_succ_self, hused⟩
        · exact .inr ⟨i, i.lt_succ_self, hnew⟩
      · rintro token (rfl | ⟨j, -, hused⟩)
        · decide
        · exact plain_of_hexadecimal (hfresh j token hused).1

/-- In every run the cached calls give the uncached resolutions exactly if no call meets the cached
default of another one that differs from its own, where the database resolves nothing; and what a
call meets in the cache is what an earlier call of the same query has returned, less than the
timeout ago. -/
theorem settings_cache_coherent (json : JsonCodec) (database : SettingsDatabase)
    (events : Nat → SettingsEvent) (hfresh : FreshTokens events) :
    ((∀ i call, events i = .get call → (get json (settingsAt json database events i) call).2 =
        uncached json (settingsAt json database events i) call) ↔
      ∀ i call, events i = .get call → DefaultsAgree json (settingsAt json database events i) call) ∧
    ∀ i call value, Cache.get (settingsAt json database events i).values
      (settingsAt json database events i).now
        (buildCacheKey (settingsAt json database events i) call) = some value →
      ∃ j < i, ∃ earlier, events j = .get earlier ∧ SameQuery earlier call ∧
        (get json (settingsAt json database events j) earlier).2 = .ok value ∧
        (settingsAt json database events i).now <
          (settingsAt json database events j).now + cacheTtl := by
  refine ⟨⟨?_, ?_⟩, ?_⟩
  · intro h i call hevent
    exact ((coherent_settingsAt hfresh i).get call).1.mp (h i call hevent)
  · intro h i call hevent
    exact ((coherent_settingsAt hfresh i).get call).1.mpr (h i call hevent)
  · intro i call value hvalue
    obtain ⟨entry, hentry, hlive, rfl⟩ := Cache.get_eq_some.mp hvalue
    obtain ⟨j, hj, earlier, hevent, htext, hreturned, hexpires⟩ := settingsAt_values hentry
    have hplain : ∀ k name, ':' ∉ ((settingsAt json database events k).versions name).toList := by
      intro k name
      have hcoherent := @coherent_settingsAt json database events hfresh k
      exact hcoherent.plain _ (hcoherent.versions name)
    obtain ⟨-, -, hquery⟩ :=
      cacheKeyText_inj (hplain j _) (hplain i _) (hplain j _) (hplain i _) htext.symm
    exact ⟨j, hj, earlier, hevent, hquery, hreturned, hexpires ▸ hlive⟩

end Runs

def noJson : JsonCodec where
  loads := fun _ => none
  dumps := fun _ => none

/-- A setting is defined and read, written and read again. -/
def levelEvents : Nat → SettingsEvent
  | 0 => .saveDefinition 0 { key := "level", settingType := .integer, defaultValue := "5" }
      "00000000000000a1" "00000000000000a2"
  | 1 => .get { key := "level", default := .int 1 }
  | 2 => .save { target := .global, key := "level", value := .int 7 } "00000000000000a3"
  | 3 => .get { key := "level", default := .int 2, process := 1 }
  | _ => .tick 1000000

theorem freshTokens_levelEvents : FreshTokens levelEvents := by
  intro i token htoken
  match i with
  | 0 =>
      rcases List.mem_cons.mp htoken with rfl | hrest
      · exact ⟨List.all_eq_true.mp (by decide), by decide, fun j hj => absurd hj (Nat.not_lt_zero j)⟩
      · obtain rfl := List.mem_singleton.mp hrest
        exact ⟨List.all_eq_true.mp (by decide), by decide, fun j hj => absurd hj (Nat.not_lt_zero j)⟩
  | 2 =>
      obtain rfl := List.mem_singleton.mp htoken
      refine ⟨List.all_eq_true.mp (by decide), by decide, fun j hj => ?_⟩
      match j with
      | 0 | 1 => decide
  | 1 | 3 => cases htoken
  | _ + 4 => cases htoken

/-- The second read sees what was written after the first. -/
theorem settings_cache_coherent_level :
    (get noJson (settingsAt noJson {} levelEvents 3)
      { key := "level", default := .int 2, process := 1 }).2 =
      uncached noJson (settingsAt noJson {} levelEvents 3)
        { key := "level", default := .int 2, process := 1 } := by
  refine (settings_cache_coherent noJson {} levelEvents freshTokens_levelEvents).1.mpr
    (fun i call hevent => ?_)
    3 _ rfl
  intro value _ _ hnothing
  obtain _ | _ | _ | _ | i := i
  · cases hevent
  · cases hevent
    exact absurd (congrArg Option.isSome hnothing) (by decide +kernel)
  · cases hevent
  · cases hevent
    exact absurd (congrArg Option.isSome hnothing) (by decide +kernel)
  · cases hevent

/-- Two calls for a setting that does not exist, each with a default of its own. -/
def missingEvents : Nat → SettingsEvent
  | 0 => .get { key := "missing", default := .int 1 }
  | 1 => .get { key := "missing", default := .int 2 }
  | _ => .tick 1000000

theorem cached_default_returned :
    ¬ ∀ i call, missingEvents i = .get call →
      (get noJson (settingsAt noJson {} missingEvents i) call).2 =
      uncached noJson (settingsAt noJson {} missingEvents i) call := by
  intro h
  have hsecond := h 1 { key := "missing", default := .int 2 } rfl
  have hcached : (get noJson (settingsAt noJson {} missingEvents 1)
      { key := "missing", default := .int 2 }).2 = .ok (.int 1) := by
    rfl
  have huncached : uncached noJson (settingsAt noJson {} missingEvents 1)
      { key := "missing", default := .int 2 } = .ok (.int 2) := by
    rfl
  rw [hcached, huncached] at hsecond
  cases hsecond

end Micboard.SettingsRegistry
