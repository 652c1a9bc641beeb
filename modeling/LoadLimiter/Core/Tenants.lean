import LoadLimiter.Core.Limiter

/-! # Tenants and the single-tenant proxies

`loadLimiterDefaultImpl` keeps its tenants' data in a map from tenant keys; `getTenant` reads a
key's data, creating fresh data on first reference, and `Probe` and `Submit` work on the data of
their own key alone (here with no sync adapter). The proxies that `ForTenant` and
`AsSingleTenant` return forward every call under one fixed key: `ForTenant` panics on a key that
`strings.TrimSpace` empties and on `"$"`, the key `AsSingleTenant` reserves; the composite's
`ForTenant` checks the same.

Key by key, a run of the instance is the single-tenant run of the calls under that key, with the
same results. So the data behind the `AsSingleTenant` proxy is the run of that proxy's calls
alone, however the calls of `ForTenant` proxies interleave with them.
-/

namespace LoadLimiter

/-! ## Keys -/

/-- `unicode.IsSpace`: in Latin-1 the characters `\t`, `\n`, `\v`, `\f`, `\r`, space, U+0085 and
U+00A0; beyond it the `White_Space` characters. -/
def isSpace (c : Char) : Bool :=
  if c.toNat ≤ 0xFF then [0x09, 0x0A, 0x0B, 0x0C, 0x0D, 0x20, 0x85, 0xA0].contains c.toNat
  else [0x1680, 0x2028, 0x2029, 0x202F, 0x205F, 0x3000].contains c.toNat ||
    (decide (0x2000 ≤ c.toNat) && decide (c.toNat ≤ 0x200A))

/-- `strings.TrimSpace`: the string without its leading and trailing white space. -/
def trimSpace (s : String) : String :=
  ⟨((s.toList.dropWhile isSpace).reverse.dropWhile isSpace).reverse⟩

def singleTenantDefaultKey : String := "$"

/-- `ForTenant`, standalone or composite: the key its proxy serves, or the panic of a blank or
reserved key. -/
def forTenant (tenantKey : String) : Except Panic String :=
  if trimSpace tenantKey = "" then .error (.message "tenant key must not be blank")
  else if tenantKey = singleTenantDefaultKey then
    .error (.message ("tenant key must not be the reserved identifier: " ++ singleTenantDefaultKey))
  else .ok tenantKey

/-- The key behind a proxy: `AsSingleTenant`'s (`none`), or the key `ForTenant` returned
(`some key`). -/
def proxyKey : Option String → String
  | none => singleTenantDefaultKey
  | some key => key

theorem trimSpace_eq_empty_iff (s : String) :
    trimSpace s = "" ↔ ∀ c ∈ s.toList, isSpace c = true := by
  have hdrop : (∀ c ∈ s.toList.dropWhile isSpace, isSpace c = true) ↔
      ∀ c ∈ s.toList, isSpace c = true := by
    refine ⟨fun h => List.dropWhile_eq_nil_iff.mp ?_,
      fun h c hc => h c ((List.dropWhile_sublist _).subset hc)⟩
    by_contra hne
    have hhead := List.head_dropWhile_not isSpace s.toList hne
    rw [h _ (List.head_mem hne)] at hhead
    cases hhead
  have hmk : ∀ l : List Char, String.mk l = "" ↔ l = [] :=
    fun l => ⟨congrArg String.data, fun h => h ▸ rfl⟩
  rw [trimSpace, hmk, List.reverse_eq_nil_iff, List.dropWhile_eq_nil_iff, ← hdrop]
  simp only [List.mem_reverse]

theorem forTenant_eq_ok_iff {tenantKey key : String} :
    forTenant tenantKey = .ok key ↔ key = tenantKey ∧
      (∃ c ∈ tenantKey.toList, isSpace c = false) ∧ tenantKey ≠ singleTenantDefaultKey := by
  have hblank : trimSpace tenantKey ≠ "" ↔ ∃ c ∈ tenantKey.toList, isSpace c = false := by
    simp only [ne_eq, trimSpace_eq_empty_iff, not_forall, Bool.not_eq_true, exists_prop]
  unfold forTenant
  split_ifs with h1 h2
  · exact iff_of_false (by simp) fun h => hblank.mpr h.2.1 h1
  · exact iff_of_false (by simp) fun h => h.2.2 h2
  · constructor
    · intro h
      cases h
      exact ⟨rfl, hblank.mp h1, h2⟩
    · rintro ⟨rfl, -⟩
      rfl

example : forTenant "   " = .error (.message "tenant key must not be blank") := by rfl

example : forTenant singleTenantDefaultKey =
    .error (.message "tenant key must not be the reserved identifier: $") := by rfl

/-! ## The tenant map -/

/-- `instance.TenantData`: the data of every tenant key referenced so far. -/
def TenantMap : Type := String → Option TenantData

def TenantMap.empty : TenantMap := fun _ => none

/-- What a key holds: its data, or the fresh data of a key never referenced. -/
def TenantMap.read (tenants : TenantMap) (key : String) : TenantData :=
  (tenants key).getD newTenantData

/-- `getTenant`: the data of `key`, created fresh on first reference and kept in the map. -/
def getTenant (tenants : TenantMap) (key : String) : TenantMap × TenantData :=
  match tenants key with
  | some existing => (tenants, existing)
  | none => (Function.update tenants key (some newTenantData), newTenantData)

variable (cfg : EffectiveConfig)

/-- `Probe` or `Submit` under `key`: the task on the key's data, which the map then holds. -/
def instanceStep (key : String) (c : Call) (tenants : TenantMap) :
    Except Panic (TenantMap × CallResult) := do
  let (tenants, tenant) := getTenant tenants key
  let (tenant, result) ← step cfg c tenant
  pure (Function.update tenants key (some tenant), result)

def runInstance : List (String × Call) → TenantMap → Except Panic (TenantMap × List CallResult)
  | [], tenants => .ok (tenants, [])
  | (key, c) :: calls, tenants => do
      let (tenants, result) ← instanceStep cfg key c tenants
      let (tenants, results) ← runInstance calls tenants
      pure (tenants, result :: results)

variable {cfg}

theorem TenantMap.read_update (tenants : TenantMap) (key k : String) (tenant : TenantData) :
    TenantMap.read (Function.update tenants key (some tenant)) k =
      if k = key then tenant else tenants.read k := by
  unfold TenantMap.read
  split_ifs with h
  · rw [h, Function.update_same]
    rfl
  · rw [Function.update_noteq h]

/-- One call under `key` is the single-tenant step on what the key holds. -/
theorem instanceStep_eq (key : String) (c : Call) (tenants : TenantMap) :
    instanceStep cfg key c tenants =
      (step cfg c (tenants.read key)).map fun p => (Function.update tenants key (some p.1), p.2) := by
  unfold instanceStep getTenant TenantMap.read
  cases h : tenants key with
  | some existing => rfl
  | none =>
      simp only [Option.getD_none, Function.update_idem]
      rfl

/-- A run of the instance is, key by key, the single-tenant run of the calls under that key, with
the same results. -/
theorem runInstance_read :
    ∀ {schedule : List (String × Call)} {tenants tenants' : TenantMap}
      {results : List CallResult}, runInstance cfg schedule tenants = .ok (tenants', results) →
      ∀ key, runCalls cfg ((schedule.filter (·.1 == key)).map (·.2)) (tenants.read key) =
        .ok (tenants'.read key, ((schedule.zip results).filter (·.1.1 == key)).map (·.2))
  | [], _, _, _, h, key => by
      cases h
      rfl
  | (k, c) :: schedule, tenants, tenants', results, h, key => by
      rw [runInstance, instanceStep_eq] at h
      cases hs : step cfg c (tenants.read k) with
      | error => rw [hs] at h; cases h
      | ok p =>
          obtain ⟨tenant1, r⟩ := p
          cases hr : runInstance cfg schedule (Function.update tenants k (some tenant1)) with
          | error => simp [hs, hr, Except.map, bind, Except.bind] at h
          | ok q =>
              simp only [hs, hr, Except.map, bind, Except.bind, pure, Except.pure,
                Except.ok.injEq, Prod.mk.injEq] at h
              obtain ⟨rfl, rfl⟩ := h
              have ih := runInstance_read hr key
              rw [TenantMap.read_update] at ih
              by_cases hk : k = key
              · subst hk
                rw [if_pos rfl] at ih
                simp only [List.filter_cons, List.zip_cons_cons, beq_self_eq_true, if_true,
                  List.map_cons, runCalls, hs, ih, bind, Except.bind, pure, Except.pure]
              · rw [if_neg (Ne.symm hk)] at ih
                have hkb : (k == key) = false := beq_false_of_ne hk
                simp only [List.filter_cons, List.zip_cons_cons, hkb, Bool.false_eq_true, if_false,
                  ih]

/-! ## The proxies -/

/-- Calls through the `AsSingleTenant` proxy and through proxies that `ForTenant` returned, in any
interleaving: the data behind `AsSingleTenant` is the standalone run of that proxy's calls alone,
with the same results. -/
theorem runInstance_asSingleTenant {schedule : List (Option String × Call)}
    {tenants tenants' : TenantMap} {results : List CallResult}
    (hkeys : ∀ p ∈ schedule, ∀ key, p.1 = some key → ∃ tenantKey, forTenant tenantKey = .ok key)
    (hrun : runInstance cfg (schedule.map fun p => (proxyKey p.1, p.2)) tenants =
      .ok (tenants', results)) :
    runCalls cfg ((schedule.filter (·.1.isNone)).map (·.2))
        (tenants.read singleTenantDefaultKey) =
      .ok (tenants'.read singleTenantDefaultKey,
        ((schedule.zip results).filter (·.1.1.isNone)).map (·.2)) := by
  -- a proxy serves the reserved key exactly when it is `AsSingleTenant`'s
  have hsame : ∀ p ∈ schedule, (proxyKey p.1 == singleTenantDefaultKey) = p.1.isNone := by
    rintro ⟨_ | key, c⟩ hp
    · rfl
    · obtain ⟨tenantKey, hk⟩ := hkeys _ hp key rfl
      obtain ⟨rfl, -, hne⟩ := forTenant_eq_ok_iff.mp hk
      exact beq_false_of_ne hne
  have h := runInstance_read hrun singleTenantDefaultKey
  rw [List.filter_map, List.map_map, List.zip_map_left, List.filter_map, List.map_map] at h
  rw [← List.filter_congr fun p hp => hsame p hp]
  rw [← List.filter_congr fun p hp => hsame p.1 (List.of_mem_zip hp).1]
  exact h

/-- A new instance: the `AsSingleTenant` proxy submits 50 and probes 60 while a proxy for
`"tenant1"` submits 60 in between; the reserved tenant sees only its own two calls. -/
theorem runInstance_asSingleTenant_interleaved :
    ∃ tenants' results, runInstance defaultInstanceConfig
        [(singleTenantDefaultKey, .submit 10000 50), ("tenant1", .submit 10500 60),
          (singleTenantDefaultKey, .probe 11000 60)] TenantMap.empty = .ok (tenants', results) ∧
      runCalls defaultInstanceConfig [.submit 10000 50, .probe 11000 60]
          (TenantMap.empty.read singleTenantDefaultKey) =
        .ok (tenants'.read singleTenantDefaultKey,
          ((([(none, .submit 10000 50), (some "tenant1", .submit 10500 60),
            (none, .probe 11000 60)] : List (Option String × Call)).zip results).filter
              (·.1.1.isNone)).map (·.2)) :=
  ⟨_, _, rfl, @runInstance_asSingleTenant defaultInstanceConfig
    [(none, .submit 10000 50), (some "tenant1", .submit 10500 60), (none, .probe 11000 60)]
    TenantMap.empty _ _ (fun p hp key hkey => ⟨"tenant1", by
      simp only [List.mem_cons, List.mem_singleton, List.not_mem_nil, or_false] at hp
      rcases hp with rfl | rfl | rfl <;> cases hkey
      rfl⟩) rfl⟩

end LoadLimiter
