import Micboard.SettingsRegistry

/-! Cached settings agree with the database. Every cached entry lies under generations that some
invalidation has drawn, a write draws a new one, and what lies under the current generations is what
the database resolves. The one exception is a caller's default: it is cached under a key that does
not name it. -/

namespace Micboard.SettingsRegistry

open Library Library.Text Library.Framing

theorem isDigit_of_mem_decimal {n : Nat} {c : Char} (hc : c ∈ decimal n) : c.isDigit = true :=
  Nat.isDigit_of_mem_toDigits (by omega) (by omega) hc

theorem decimal_injective : Function.Injective decimal := by
  intro n n' h
  have hvalue := congrArg (fun digits => Nat.ofDigitChars 10 digits 0) h
  simpa [decimal, Nat.ofDigitChars_toDigits] using hvalue

theorem colon_not_mem_scopeText (scope : Option Nat) : ':' ∉ (scopeText scope).toList := by
  cases scope with
  | none => decide
  | some pk =>
      intro hmem
      rw [scopeText, String.toList_ofList] at hmem
      exact absurd (isDigit_of_mem_decimal hmem) (by decide)

theorem scopeText_injective : Function.Injective scopeText := by
  have hnumber : ∀ pk, scopeText (some pk) ≠ scopeText none := by
    intro pk heq
    have hchars : decimal pk = ['g'] := by
      have h := congrArg String.toList heq
      rwa [scopeText, String.toList_ofList] at h
    have hg : 'g' ∈ decimal pk := by
      rw [hchars]
      exact List.mem_singleton_self _
    exact absurd (isDigit_of_mem_decimal hg) (by decide)
  intro scope scope' heq
  cases scope with
  | none =>
      cases scope' with
      | none => rfl
      | some pk => exact absurd heq.symm (hnumber pk)
  | some pk =>
      cases scope' with
      | none => exact absurd heq (hnumber pk)
      | some pk' =>
          rw [decimal_injective (String.ofList_injective heq)]

/-- Two calls that ask for the same setting, with whatever defaults. -/
structure SameQuery (call call' : SettingsCall) : Prop where
  key : call.key = call'.key
  organization : call.organization = call'.organization
  site : call.site = call'.site
  manufacturer : call.manufacturer = call'.manufacturer
  mode : call.includeDefinitionDefault = call'.includeDefinitionDefault

theorem append_colon_inj {front front' last last' : String} (hlast : ':' ∉ last.toList)
    (hlast' : ':' ∉ last'.toList) (heq : front ++ ":" ++ last = front' ++ ":" ++ last') :
    front = front' ∧ last = last' := by
  have hchars : ∀ front last : String,
      (front ++ ":" ++ last).toList = front.toList ++ ':' :: last.toList := by
    intro front last
    simp [String.toList_append]
  have hlists := congrArg String.toList heq
  rw [hchars, hchars] at hlists
  obtain ⟨hfront, hlast⟩ := append_separator_inj hlast hlast' hlists
  exact ⟨String.toList_inj.mp hfront, String.toList_inj.mp hlast⟩

/-- The first field of a key, behind a fixed text. -/
theorem colon_append_inj {start first first' back back' : String} (hfirst : ':' ∉ first.toList)
    (hfirst' : ':' ∉ first'.toList)
    (heq : start ++ first ++ ":" ++ back = start ++ first' ++ ":" ++ back') :
    first = first' ∧ back = back' := by
  have hchars : ∀ first back : String,
      (start ++ first ++ ":" ++ back).toList = start.toList ++
        (first.toList ++ ':' :: back.toList) := by
    intro first back
    simp [String.toList_append]
  have hlists := congrArg String.toList heq
  rw [hchars, hchars] at hlists
  obtain ⟨hfirst, hback⟩ := separator_append_inj hfirst hfirst' (List.append_cancel_left hlists)
  exact ⟨String.toList_inj.mp hfirst, String.toList_inj.mp hback⟩

/-- A cache key names its generations and its query, whatever characters the setting's key has. -/
theorem cacheKeyText_inj {globalVersion globalVersion' version version' : String}
    {call call' : SettingsCall}
    (hglobal : ':' ∉ globalVersion.toList) (hglobal' : ':' ∉ globalVersion'.toList)
    (hversion : ':' ∉ version.toList) (hversion' : ':' ∉ version'.toList)
    (heq : cacheKeyText globalVersion version call = cacheKeyText globalVersion' version' call') :
    globalVersion = globalVersion' ∧ version = version' ∧ SameQuery call call' := by
  have hmode : ∀ call : SettingsCall,
      ':' ∉ (if call.includeDefinitionDefault then "definition" else "stored").toList := by
    intro call
    cases call.includeDefinitionDefault with
    | false => decide
    | true => decide
  obtain ⟨hsites, hmanufacturer⟩ :=
    append_colon_inj (colon_not_mem_scopeText _) (colon_not_mem_scopeText _) heq
  obtain ⟨horganizations, hsite⟩ :=
    append_colon_inj (colon_not_mem_scopeText _) (colon_not_mem_scopeText _) hsites
  obtain ⟨hmodes, horganization⟩ :=
    append_colon_inj (colon_not_mem_scopeText _) (colon_not_mem_scopeText _) horganizations
  obtain ⟨hversions, hsamemode⟩ := append_colon_inj (hmode call) (hmode call') hmodes
  obtain ⟨hkeys, hsameversion⟩ := append_colon_inj hversion hversion' hversions
  obtain ⟨hsameglobal, hkey⟩ := colon_append_inj hglobal hglobal' hkeys
  refine ⟨hsameglobal, hsameversion, hkey, scopeText_injective horganization, scopeText_injective hsite,
    scopeText_injective hmanufacturer, ?_⟩
  cases hinclude : call.includeDefinitionDefault with
  | false =>
      cases hinclude' : call'.includeDefinitionDefault with
      | false => rfl
      | true =>
          rw [hinclude, hinclude'] at hsamemode
          exact absurd hsamemode (by decide)
  | true =>
      cases hinclude' : call'.includeDefinitionDefault with
      | false =>
          rw [hinclude, hinclude'] at hsamemode
          exact absurd hsamemode (by decide)
      | true => rfl

section Resolution

variable (json : JsonCodec) (db : SettingsDatabase)

/-- What a query resolves to before the caller's default: a value, an error, or nothing. -/
def resolution (call : SettingsCall) : Option (Except SettingsError SettingValue) :=
  match db.definition call.key with
  | none => none
  | some definition =>
    match storedValue json db definition call with
    | .error error => some (.error error)
    | .ok value =>
      if value ≠ .none then some (.ok value)
      else if call.includeDefinitionDefault then definitionDefault json (some definition)
      else none

/-- The caller's default, or what its absence means. -/
def defaulted (call : SettingsCall) : Except SettingsError SettingValue :=
  if call.default ≠ .none then .ok call.default
  else if call.required then .error (.settingNotFound call.key)
  else .ok .none

theorem storedValue_congr {call call' : SettingsCall} (h : SameQuery call call')
    (definition : SettingDefinition) :
    storedValue json db definition call = storedValue json db definition call' := by
  unfold storedValue scopeFilter
  rw [h.organization, h.site, h.manufacturer]

theorem resolution_congr {call call' : SettingsCall} (h : SameQuery call call') :
    resolution json db call = resolution json db call' := by
  unfold resolution
  rw [h.key, h.mode]
  simp only [storedValue_congr json db h]

end Resolution

/-! ### Coherent systems -/

/-- The generations in use are plain; every cached value and definition lies under used ones, and
what lies under the current ones is what the database resolves. -/
structure Coherent (json : JsonCodec) (used : String → Prop) (s : SettingsSystem) : Prop where
  plain : ∀ token, used token → ':' ∉ token.toList
  versions : ∀ name, used (s.versions name)
  keys : ∀ text entry, s.values text = some entry →
    ∃ globalVersion version call, text = cacheKeyText globalVersion version call ∧ used globalVersion ∧
      used version
  values : ∀ call value, Cache.get s.values s.now (buildCacheKey s call) = some value → value ≠ .none →
    ∀ found, resolution json s.database call = some found → found = .ok value
  definitions : ∀ process key text definition, s.localDefinitions process key = some
    (text, definition) →
    ∃ globalVersion version, text = globalVersion ++ ":" ++ version ∧
      used globalVersion ∧ used version ∧
      (globalVersion = s.versions globalDefinitionVersionCacheKey →
        version = s.versions (definitionVersionCacheKey key) →
          s.database.definition key = some definition)

section Coherence

variable {json : JsonCodec} {used : String → Prop} {s : SettingsSystem}

theorem coherent_empty (database : SettingsDatabase) :
    Coherent json (fun token => token = "0") { database := database } := by
  refine ⟨?_, (fun _ => rfl), (fun _ _ h => nomatch h), ?_, (fun _ _ _ _ h => nomatch h)⟩
  · rintro token rfl
    decide
  · intro call value hvalue
    cases hvalue

/-- Later a cached value may be gone, but none has come. -/
theorem Coherent.tick (h : Coherent json used s) (microseconds : Nat) :
    Coherent json used { s with now := s.now + microseconds } := by
  refine ⟨h.plain, h.versions, h.keys, fun call value hvalue => h.values call value ?_, h.definitions⟩
  obtain ⟨entry, hentry, hlive, hsame⟩ := Cache.get_eq_some.mp hvalue
  refine Cache.get_eq_some.mpr ⟨entry, hentry, ?_, hsame⟩
  exact lt_of_le_of_lt (Int.le_add_of_nonneg_right (Int.natCast_nonneg _)) hlive

/-- A definition is the stored one, and only the process's own cache may change. -/
theorem Coherent.getDefinition (h : Coherent json used s) (process : Nat) (key : String) :
    (getDefinition s process key).2 = s.database.definition key ∧
      ∃ locals, (getDefinition s process key).1 = { s with localDefinitions := locals } ∧
        Coherent json used { s with localDefinitions := locals } := by
  have hload : (loadDefinition s process key).2 = s.database.definition key ∧
      ∃ locals, (loadDefinition s process key).1 = { s with localDefinitions := locals } ∧
        Coherent json used { s with localDefinitions := locals } := by
    unfold loadDefinition
    cases hfound : s.database.definition key with
    | none => exact ⟨rfl, s.localDefinitions, rfl, h⟩
    | some definition =>
        refine ⟨rfl, _, rfl, h.plain, h.versions, h.keys, h.values, ?_⟩
        intro other otherKey text cached hcached
        by_cases hprocess : other = process
        · subst hprocess
          by_cases hkey : otherKey = key
          · subst hkey
            simp only [Function.update_self, Option.some.injEq, Prod.mk.injEq] at hcached
            obtain ⟨rfl, rfl⟩ := hcached
            exact ⟨_, _, rfl, h.versions _, h.versions _, fun _ _ => hfound⟩
          · simp only [Function.update_self, Function.update_of_ne hkey] at hcached
            exact h.definitions other otherKey text cached hcached
        · simp only [Function.update_of_ne hprocess] at hcached
          exact h.definitions other otherKey text cached hcached
  unfold SettingsRegistry.getDefinition
  cases hcached : s.localDefinitions process key with
  | none => exact hload
  | some cached =>
      obtain ⟨text, definition⟩ := cached
      dsimp only
      split
      · next hcurrent =>
          obtain ⟨globalVersion, version, rfl, hglobal, hversion, hstored⟩ :=
            h.definitions process key text definition hcached
          obtain ⟨hsameglobal, hsame⟩ :=
            append_colon_inj (h.plain _ hversion) (h.plain _ (h.versions _)) hcurrent
          exact ⟨(hstored hsameglobal hsame).symm, s.localDefinitions, rfl, h⟩
      · exact hload

/-- A value may be cached if it is what the query resolves to, or if the query resolves to nothing. -/
theorem Coherent.store (h : Coherent json used s) {call : SettingsCall} {value : SettingValue}
    (hvalue : value ≠ .none → ∀ found, resolution json s.database call = some found →
      found = .ok value) :
    Coherent json used (store s (buildCacheKey s call) value) := by
  refine ⟨h.plain, h.versions, fun text entry hentry => ?_,
    fun other cached hcached hne => ?_, h.definitions⟩
  · rcases Cache.set_eq_some hentry with ⟨htext, -⟩ | hold
    · exact ⟨_, _, call, htext, h.versions _, h.versions _⟩
    · exact h.keys text entry hold
  · have hkey : buildCacheKey (SettingsRegistry.store s (buildCacheKey s call) value) other =
        buildCacheKey s other := rfl
    rw [hkey] at hcached
    have hget := @Cache.get_set String SettingValue _ s.values s.now (buildCacheKey s call) value
      (buildCacheKey s other) cacheTtl (by decide)
    rw [SettingsRegistry.store, hget] at hcached
    split at hcached
    · next hsame =>
        obtain rfl := Option.some.inj hcached
        obtain ⟨-, -, hquery⟩ := cacheKeyText_inj (h.plain _ (h.versions _)) (h.plain _ (h.versions _))
          (h.plain _ (h.versions _)) (h.plain _ (h.versions _)) hsame
        intro found hfound
        exact hvalue hne found ((resolution_congr json s.database hquery).symm.trans hfound)
    · exact h.values other cached hcached hne

theorem Coherent.useDefault (h : Coherent json used s) {call : SettingsCall}
    (hnothing : resolution json s.database call = none) :
    (useDefault s (buildCacheKey s call) call).2 = defaulted call ∧
      Coherent json used (useDefault s (buildCacheKey s call) call).1 := by
  unfold SettingsRegistry.useDefault defaulted
  split
  · refine ⟨rfl, h.store fun _ found hfound => ?_⟩
    rw [hnothing] at hfound
    cases hfound
  · split
    · exact ⟨rfl, h⟩
    · exact ⟨rfl, h⟩

/-- A fetch gives what the database resolves, else the caller's default. -/
theorem Coherent.fetch (h : Coherent json used s) (call : SettingsCall) :
    (fetch json s (buildCacheKey s call) call).2 =
        (resolution json s.database call).getD (defaulted call) ∧
      Coherent json used (fetch json s (buildCacheKey s call) call).1 := by
  obtain ⟨hdefinition, locals, hlocals, hcoherent⟩ := h.getDefinition call.process call.key
  generalize hs : ({ s with localDefinitions := locals } : SettingsSystem) = t at hlocals hcoherent
  have hdatabase : t.database = s.database := by rw [← hs]
  have hkey : buildCacheKey t call = buildCacheKey s call := by rw [← hs]; rfl
  obtain ⟨hdefinition', locals', hlocals', hcoherent'⟩ := hcoherent.getDefinition call.process call.key
  generalize ht : ({ t with localDefinitions := locals' } : SettingsSystem) = u at hlocals' hcoherent'
  have hdatabase' : u.database = s.database := by rw [← hdatabase, ← ht]
  have hkey' : buildCacheKey u call = buildCacheKey s call := by rw [← hkey, ← ht]; rfl
  rw [hdatabase] at hdefinition'
  -- The caller's default is used in the system after one look at the definition or after two.
  have hlast : resolution json s.database call = none →
      (SettingsRegistry.useDefault t (buildCacheKey s call) call).2 = defaulted call ∧
        Coherent json used (SettingsRegistry.useDefault t (buildCacheKey s call) call).1 := by
    intro hnothing
    rw [← hkey]
    exact hcoherent.useDefault (by rw [hdatabase, hnothing])
  have hlast' : resolution json s.database call = none →
      (SettingsRegistry.useDefault u (buildCacheKey s call) call).2 = defaulted call ∧
        Coherent json used (SettingsRegistry.useDefault u (buildCacheKey s call) call).1 := by
    intro hnothing
    rw [← hkey']
    exact hcoherent'.useDefault (by rw [hdatabase', hnothing])
  unfold SettingsRegistry.fetch resolveScopedValue
  simp only [hlocals, hdefinition]
  cases hfound : s.database.definition call.key with
  | none =>
      have hnothing : resolution json s.database call = none := by
        unfold resolution
        rw [hfound]
      rw [hnothing, Option.getD_none]
      simp only [ne_eq, not_true_eq_false, if_false]
      split
      · simp only [getDefinitionDefault, hlocals', hdefinition', hfound, definitionDefault]
        exact hlast' hnothing
      · exact hlast hnothing
  | some definition =>
      have hresolution : resolution json s.database call =
          match storedValue json s.database definition call with
          | .error error => some (.error error)
          | .ok value =>
            if value ≠ .none then some (.ok value)
            else if call.includeDefinitionDefault then definitionDefault json (some definition)
            else none := by
        unfold resolution
        rw [hfound]
      simp only [hdatabase]
      cases hstored : storedValue json s.database definition call with
      | error error =>
          rw [hstored] at hresolution
          rw [hresolution]
          exact ⟨rfl, hcoherent⟩
      | ok value =>
          rw [hstored] at hresolution
          by_cases hnone : value = .none
          · simp only [hnone, ne_eq, not_true_eq_false, if_false] at hresolution ⊢
            split
            · next hmode =>
                rw [if_pos hmode] at hresolution
                simp only [getDefinitionDefault, hlocals', hdefinition', hfound]
                cases hparsed : definitionDefault json (some definition) with
                | none =>
                    rw [hparsed] at hresolution
                    rw [hresolution]
                    exact hlast' hresolution
                | some parsed =>
                    rw [hparsed] at hresolution
                    rw [hresolution]
                    cases parsed with
                    | error error => exact ⟨rfl, hcoherent'⟩
                    | ok parsed =>
                        refine ⟨rfl, ?_⟩
                        dsimp only
                        rw [← hkey']
                        refine hcoherent'.store fun _ found hresolved => ?_
                        rw [hdatabase', hresolution] at hresolved
                        exact (Option.some.inj hresolved).symm
            · next hmode =>
                rw [if_neg hmode] at hresolution
                rw [hresolution]
                exact hlast hresolution
          · simp only [hnone, ne_eq, not_false_eq_true, if_true] at hresolution ⊢
            rw [hresolution]
            refine ⟨rfl, ?_⟩
            rw [← hkey]
            refine hcoherent.store fun _ found hresolved => ?_
            rw [hdatabase, hresolution] at hresolved
            exact (Option.some.inj hresolved).symm

/-- No earlier call's default lies under the key of a query that resolves to nothing, unless it is
this call's default too. -/
def DefaultsAgree (json : JsonCodec) (s : SettingsSystem) (call : SettingsCall) : Prop :=
  ∀ value, Cache.get s.values s.now (buildCacheKey s call) = some value → value ≠ .none →
    resolution json s.database call = none → value = call.default

theorem Coherent.uncached (h : Coherent json used s) (call : SettingsCall) :
    uncached json s call = (resolution json s.database call).getD (defaulted call) := by
  have hempty : Coherent json used
      { s with values := fun _ => none, localDefinitions := fun _ _ => none } := by
    refine ⟨h.plain, h.versions, (fun _ _ h => nomatch h), ?_, (fun _ _ _ _ h => nomatch h)⟩
    intro call value hvalue
    cases hvalue
  exact (hempty.fetch call).1

/-- A call gives the uncached resolution exactly if the cached default is its own, and the system stays
coherent. -/
theorem Coherent.get (h : Coherent json used s) (call : SettingsCall) :
    ((get json s call).2 = SettingsRegistry.uncached json s call ↔ DefaultsAgree json s call) ∧
      Coherent json used (get json s call).1 := by
  obtain ⟨hfetch, hcoherent⟩ := h.fetch call
  rw [h.uncached call]
  unfold SettingsRegistry.get DefaultsAgree
  dsimp only
  cases hcached : Cache.get s.values s.now (buildCacheKey s call) with
  | none =>
      refine ⟨iff_of_true hfetch ?_, hcoherent⟩
      intro value hvalue
      cases hvalue
  | some value =>
      by_cases hnone : value = .none
      · simp only [hnone, ne_eq, not_true_eq_false, if_false]
        refine ⟨iff_of_true hfetch ?_, hcoherent⟩
        intro value' hvalue' hne
        exact absurd (Option.some.inj hvalue').symm hne
      · simp only [hnone, ne_eq, not_false_eq_true, if_true]
        refine ⟨?_, h⟩
        cases hresolution : resolution json s.database call with
        | some found =>
            refine iff_of_true ?_ (fun _ _ _ hnothing => nomatch hnothing)
            exact (h.values call value hcached hnone found hresolution).symm
        | none =>
            rw [Option.getD_none]
            constructor
            · intro hsame value' hvalue' _ _
              obtain rfl := Option.some.inj hvalue'
              unfold defaulted at hsame
              split at hsame
              · exact Except.ok.inj hsame
              · split at hsame
                · cases hsame
                · exact absurd (Except.ok.inj hsame) hnone
            · intro hagree
              have hsame := hagree value rfl hnone rfl
              unfold defaulted
              rw [← hsame, if_pos hnone]

/-- More generations may be counted as used. -/
theorem Coherent.mono (h : Coherent json used s) {used' : String → Prop}
    (hused : ∀ token, used token → used' token) (hplain : ∀ token, used' token → ':' ∉ token.toList) :
    Coherent json used' s := by
  refine ⟨hplain, fun name => hused _ (h.versions name), fun text entry hentry => ?_, h.values,
    fun process key text definition hcached => ?_⟩
  · obtain ⟨globalVersion, version, call, htext, hglobal, hversion⟩ := h.keys text entry hentry
    exact ⟨globalVersion, version, call, htext, hused _ hglobal, hused _ hversion⟩
  · obtain ⟨globalVersion, version, htext, hglobal, hversion, hstored⟩ :=
      h.definitions process key text definition hcached
    exact ⟨globalVersion, version, htext, hused _ hglobal, hused _ hversion, hstored⟩

/-- The database may change for the queries and definitions that get a new generation: nothing is
cached under it. -/
theorem Coherent.renew (h : Coherent json used s) {fresh : List String}
    (hfresh : ∀ token ∈ fresh, ':' ∉ token.toList ∧ ¬ used token) {t : SettingsSystem}
    (hnow : t.now = s.now) (hvalues : t.values = s.values)
    (hlocals : ∀ process key cached, t.localDefinitions process key = some cached →
      s.localDefinitions process key = some cached)
    (hversions : ∀ name, t.versions name = s.versions name ∨ t.versions name ∈ fresh)
    (hdefinitions : ∀ key, t.versions globalDefinitionVersionCacheKey =
        s.versions globalDefinitionVersionCacheKey →
      t.versions (definitionVersionCacheKey key) = s.versions (definitionVersionCacheKey key) →
      t.database.definition key = s.database.definition key)
    (hresolution : ∀ call, t.versions globalVersionCacheKey = s.versions globalVersionCacheKey →
      t.versions (versionCacheKey call.key) = s.versions (versionCacheKey call.key) →
      resolution json t.database call = resolution json s.database call) :
    Coherent json (fun token => used token ∨ token ∈ fresh) t := by
  have hplain : ∀ token, used token ∨ token ∈ fresh → ':' ∉ token.toList := by
    rintro token (hused | hnew)
    · exact h.plain token hused
    · exact (hfresh token hnew).1
  have hcurrent : ∀ name, used (t.versions name) ∨ t.versions name ∈ fresh := by
    intro name
    rcases hversions name with hold | hnew
    · left
      rw [hold]
      exact h.versions name
    · exact .inr hnew
  have hold : ∀ name, used (t.versions name) → t.versions name = s.versions name := by
    intro name hused
    rcases hversions name with hold | hnew
    · exact hold
    · exact absurd hused (hfresh _ hnew).2
  refine ⟨hplain, hcurrent, fun text entry hentry => ?_, fun call value hvalue hne => ?_,
    fun process key text definition hcached => ?_⟩
  · rw [hvalues] at hentry
    obtain ⟨globalVersion, version, call, htext, hglobal, hversion⟩ := h.keys text entry hentry
    exact ⟨globalVersion, version, call, htext, .inl hglobal, .inl hversion⟩
  · rw [hvalues, hnow] at hvalue
    obtain ⟨entry, hentry, -, -⟩ := Cache.get_eq_some.mp hvalue
    obtain ⟨globalVersion, version, cached, htext, hglobal, hversion⟩ := h.keys _ entry hentry
    obtain ⟨hsameglobal, hsame, -⟩ := cacheKeyText_inj (hplain _ (hcurrent _)) (h.plain _ hglobal)
      (hplain _ (hcurrent _)) (h.plain _ hversion) htext
    have hglobal' := hold globalVersionCacheKey (by rw [hsameglobal]; exact hglobal)
    have hversion' := hold (versionCacheKey call.key) (by rw [hsame]; exact hversion)
    have hkey : buildCacheKey t call = buildCacheKey s call := by
      unfold buildCacheKey
      rw [hglobal', hversion']
    rw [hkey] at hvalue
    intro found hfound
    rw [hresolution call hglobal' hversion'] at hfound
    exact h.values call value hvalue hne found hfound
  · obtain ⟨globalVersion, version, htext, hglobal, hversion, hstored⟩ :=
      h.definitions process key text definition (hlocals process key _ hcached)
    refine ⟨globalVersion, version, htext, .inl hglobal, .inl hversion, fun hsameglobal hsame => ?_⟩
    have hglobal' := hold globalDefinitionVersionCacheKey (by rw [← hsameglobal]; exact hglobal)
    have hversion' := hold (definitionVersionCacheKey key) (by rw [← hsame]; exact hversion)
    rw [hdefinitions key hglobal' hversion']
    exact hstored (hsameglobal.trans hglobal') (hsame.trans hversion')

end Coherence

end Micboard.SettingsRegistry
