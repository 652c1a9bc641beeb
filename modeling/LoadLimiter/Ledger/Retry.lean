import LoadLimiter.Ledger.Capped

/-! # Retry hints

What `RetryIn` promises: the shortest wait after which the rejected load would be admitted.

* `computeRetryIn` scans the queue oldest first until the freed load covers the excess
  `toFree`; the segment it stops at, `m`, is characterised for every instant `τ` at once: the
  segments starting at or before `τ` hold `toFree` exactly when `m` does
  (`retryInScan_spec`);
* a later `Probe` at `t'` sees the window of `t'`, which has lost exactly the segments starting
  at or before `t' - WindowSize`; so it admits the load exactly when `m + WindowSize ≤ t'`, that
  is at `t + RetryIn` and after, and never before.

A load that wraps the `uint64` sum of `probe` breaks both the hint and the cap.
-/

namespace LoadLimiter

/-! ## The scan of `computeRetryIn` -/

/-- The load of the segments that start at or before `τ`. -/
def loadUpTo (τ : Nat) (queue : List WindowSegment) : Nat :=
  ((queue.filter fun x => x.startTime.toNat ≤ τ).map (·.value.toNat)).sum

theorem retryInScan_of_nonpos {toFree : Int} (h : toFree ≤ 0) (queue : List WindowSegment)
    (r : UInt64) : retryInScan queue toFree r = (toFree, r) := by
  cases queue <;> simp [retryInScan, not_lt.mpr h]

theorem loadUpTo_cons_of_le {τ : Nat} {x : WindowSegment} (rest : List WindowSegment)
    (h : x.startTime.toNat ≤ τ) : loadUpTo τ (x :: rest) = x.value.toNat + loadUpTo τ rest := by
  simp [loadUpTo, List.filter_cons, h]

theorem loadUpTo_of_lt {τ : Nat} {queue : List WindowSegment}
    (h : ∀ x ∈ queue, τ < x.startTime.toNat) : loadUpTo τ queue = 0 := by
  rw [loadUpTo, List.filter_eq_nil_iff.mpr fun x hx => by simpa using h x hx]
  rfl

theorem retryInScan_spec : ∀ {oldestFirst : List WindowSegment} {toFree : Int} {r : UInt64},
    oldestFirst.Pairwise (fun a b => a.startTime.toNat < b.startTime.toNat) →
    (∀ x ∈ oldestFirst, x.value.toNat < 2 ^ 63) → 0 < toFree → toFree < 2 ^ 63 →
    toFree ≤ ((oldestFirst.map (·.value.toNat)).sum : Nat) →
    (retryInScan oldestFirst toFree r).1 ≤ 0 ∧ ∃ x ∈ oldestFirst,
      (retryInScan oldestFirst toFree r).2 = x.startTime ∧
      ∀ τ, (toFree ≤ (loadUpTo τ oldestFirst : Int) ↔ x.startTime.toNat ≤ τ)
  | [], _, _, _, _, h0, _, hsum => by simp at hsum; omega
  | x :: rest, toFree, r, hs, hv, h0, hlt, hsum => by
      obtain ⟨hxr, hs⟩ := List.pairwise_cons.mp hs
      have hvx := hv x (List.mem_cons_self _ _)
      have hstep : (if 0 < x.value then wrapInt64 (toFree - x.value.toNat) else toFree) =
          toFree - x.value.toNat := by
        split_ifs with hp
        · exact wrapInt64_of_mem (by omega) (by omega)
        · rw [u64_pos_iff] at hp
          omega
      have hlow : ∀ τ, τ < x.startTime.toNat → loadUpTo τ (x :: rest) = 0 := fun τ hτ =>
        loadUpTo_of_lt fun y hy => by
          rcases List.mem_cons.mp hy with rfl | hy
          · exact hτ
          · exact Nat.lt_trans hτ (hxr y hy)
      rw [List.map_cons, List.sum_cons] at hsum
      rw [retryInScan, if_pos h0, hstep]
      by_cases hfree : toFree - x.value.toNat ≤ 0
      · rw [retryInScan_of_nonpos hfree]
        refine ⟨hfree, x, List.mem_cons_self _ _, rfl, fun τ => ?_⟩
        by_cases hτ : x.startTime.toNat ≤ τ
        · rw [loadUpTo_cons_of_le rest hτ]
          simp only [hτ, iff_true]
          push_cast
          omega
        · rw [hlow τ (by omega)]
          simp only [hτ, iff_false]
          omega
      · obtain ⟨h1, y, hy, h2, h3⟩ := @retryInScan_spec rest (toFree - x.value.toNat) x.startTime
          hs (fun y hy => hv y (List.mem_cons_of_mem _ hy)) (by omega) (by omega)
          (by omega)
        refine ⟨h1, y, List.mem_cons_of_mem _ hy, h2, fun τ => ?_⟩
        by_cases hτ : x.startTime.toNat ≤ τ
        · rw [loadUpTo_cons_of_le rest hτ, ← h3 τ]
          push_cast
          omega
        · have := hxr y hy
          rw [hlow τ (by omega)]
          constructor <;> intro <;> omega

theorem loadUpTo_reverse (τ : Nat) (queue : List WindowSegment) :
    loadUpTo τ queue.reverse = loadUpTo τ queue := by
  simp only [loadUpTo, List.filter_reverse, List.map_reverse, List.sum_reverse]

/-! ## The queue against the ledger -/

section Window

variable {cfg : EffectiveConfig} {t : UInt64} {tenant : TenantData} {st : LedgerState}

theorem loadUpTo_eq_natSum (h : Refines cfg t tenant st) (ht : cfg.windowSize.toNat ≤ t.toNat)
    (τ : Nat) :
    loadUpTo τ tenant.windowQueue =
      natSum ((windowStarts cfg t).filter fun s => s ≤ τ) st.ledger := by
  have hshape := h.settled.shape
  refine (sum_values_eq_sum_valueAt UInt64.toNat rfl ((windowStarts_pairwise cfg ht).filter _)
    (hshape.decreasing.sublist (List.filter_sublist _)) fun x hx => ?_).trans
      (congrArg List.sum (List.map_congr_left fun s hs => ?_))
  · obtain ⟨hx, hxτ⟩ := List.mem_filter.mp hx
    exact List.mem_filter.mpr ⟨(mem_windowStarts_iff cfg).mpr
      ⟨hshape.aligned x hx, hshape.inWindow x hx⟩, hxτ⟩
  · obtain ⟨hsW, hsτ⟩ := List.mem_filter.mp hs
    rw [valueAt_filter tenant.windowQueue (fun s => decide (s ≤ τ)), if_pos hsτ,
      h.valueAt_eq s hsW]

theorem natSum_window_split {t' : UInt64} {ledger : Nat → UInt64}
    (ht : cfg.windowSize.toNat ≤ t.toNat) (htt : t.toNat ≤ t'.toNat)
    (hz : ∀ s, (locateSegmentStartTime cfg t).toNat < s → ledger s = 0) :
    natSum (windowStarts cfg t') ledger +
        natSum ((windowStarts cfg t).filter fun s => s + cfg.windowSize.toNat ≤ t'.toNat)
          ledger =
      natSum (windowStarts cfg t) ledger := by
  have hS := window_le_locate cfg ht
  have hWS := cfg.window_eq_mul
  have hpos := cfg.segment_pos
  obtain ⟨hSt', ht', hSa'⟩ := locate_toNat_bounds cfg t'
  have hle := locate_mono cfg htt
  obtain ⟨d, hd⟩ : ∃ d, (locateSegmentStartTime cfg t').toNat =
      (locateSegmentStartTime cfg t).toNat + d * cfg.windowSegmentSize.toNat := by
    have h := Nat.div_add_mod ((locateSegmentStartTime cfg t').toNat -
      (locateSegmentStartTime cfg t).toNat) cfg.windowSegmentSize.toNat
    rw [Nat.sub_mod_eq_zero_of_mod_eq (hSa'.trans (locate_toNat_bounds cfg t).2.2.symm),
      Nat.add_zero, Nat.mul_comm] at h
    exact ⟨((locateSegmentStartTime cfg t').toNat - (locateSegmentStartTime cfg t).toNat) /
      cfg.windowSegmentSize.toNat, by omega⟩
  have h1 : natSum (windowStarts cfg t') ledger =
      recentSum cfg (locateSegmentStartTime cfg t).toNat (cfg.numSegments.toNat - d) ledger := by
    show recentSum cfg (locateSegmentStartTime cfg t').toNat cfg.numSegments.toNat ledger = _
    rw [hd]
    exact recentSum_shift cfg hz d _
  have hsplit : windowStarts cfg t =
      latestStarts cfg.windowSegmentSize.toNat (locateSegmentStartTime cfg t).toNat
          (cfg.numSegments.toNat - d) ++
        latestStarts cfg.windowSegmentSize.toNat ((locateSegmentStartTime cfg t).toNat -
          (cfg.numSegments.toNat - d) * cfg.windowSegmentSize.toNat)
          (cfg.numSegments.toNat - (cfg.numSegments.toNat - d)) := by
    rw [windowStarts, ← latestStarts_add, Nat.add_sub_cancel' (Nat.sub_le _ _)]
  rw [hsplit, List.filter_append, natSum_append, natSum_append, h1,
    List.filter_eq_nil_iff.mpr ?_, List.filter_eq_self.mpr ?_, natSum_nil, Nat.zero_add]
  · rfl
  · intro s hs
    obtain ⟨j, hj, rfl⟩ := List.mem_map.mp hs
    rw [List.mem_range] at hj
    have e1 : (cfg.numSegments.toNat - d + j + (cfg.numSegments.toNat -
        (cfg.numSegments.toNat - d) - j)) * cfg.windowSegmentSize.toNat =
          cfg.numSegments.toNat * cfg.windowSegmentSize.toNat := by
      congr 1
      omega
    have e2 : (cfg.numSegments.toNat - (cfg.numSegments.toNat - d) - j) *
        cfg.windowSegmentSize.toNat ≤ d * cfg.windowSegmentSize.toNat :=
      Nat.mul_le_mul_right _ (by omega)
    rw [Nat.add_mul, Nat.add_mul] at e1
    simp only [decide_eq_true_eq]
    omega
  · intro s hs
    obtain ⟨i, hi, rfl⟩ := List.mem_map.mp hs
    rw [List.mem_range] at hi
    have e : (i + d + 1) * cfg.windowSegmentSize.toNat ≤
        cfg.numSegments.toNat * cfg.windowSegmentSize.toNat :=
      Nat.mul_le_mul_right _ (by omega)
    rw [Nat.add_mul, Nat.add_mul, Nat.one_mul] at e
    simp only [decide_eq_true_eq]
    omega

/-- On a refined tenant whose window fits the cap, with no `int64` conversion wrapping, a
load of at most `MaxLoad` that does not fit gets the hint `D` milliseconds, `1 ≤ D ≤
WindowSize`, and from then on the ledger's window admits the load at `t'` exactly when
`t + D ≤ t'`. -/
theorem computeRetryIn_exact {L : UInt64} (ht : cfg.windowSize.toNat ≤ t.toNat)
    (htop : t.toNat + cfg.windowSize.toNat < 2 ^ 64) (h : Refines cfg t tenant st)
    (hcapW : natSum (windowStarts cfg t) st.ledger ≤ cfg.absoluteMaxPenaltyCap.toNat)
    (hint : cfg.absoluteMaxPenaltyCap.toNat + cfg.maxLoad.toNat < 2 ^ 63)
    (hL : L.toNat ≤ cfg.maxLoad.toNat)
    (hover : cfg.maxLoad.toNat < L.toNat + tenant.windowTotal.toNat) :
    ∃ D : Nat, computeRetryIn cfg (buildLoadRequest cfg t L) tenant = .ok (.ok (1000000 * D)) ∧
      1 ≤ D ∧ D ≤ cfg.windowSize.toNat ∧
      ∀ t' : UInt64, t.toNat ≤ t'.toNat →
        (natSum (windowStarts cfg t') st.ledger + L.toNat ≤ cfg.maxLoad.toNat ↔
          t.toNat + D ≤ t'.toNat) := by
  have hshape := h.settled.shape
  have hsum := sum_values_eq_natSum h ht
  have hT : tenant.windowTotal.toNat = natSum (windowStarts cfg t) st.ledger := by
    rw [h.windowTotal_eq ht, windowSum_toNat cfg (by omega)]
  unfold computeRetryIn
  rw [if_neg (by rw [u64_lt_iff, buildLoadRequest_requestedLoad]; omega)]
  simp only [buildLoadRequest_requestedLoad, buildLoadRequest_requestedTimestamp]
  have hz : wrapInt64 ((L.toNat : Int) + tenant.windowTotal.toNat - cfg.maxLoad.toNat) =
      (L.toNat : Int) + tenant.windowTotal.toNat - cfg.maxLoad.toNat :=
    wrapInt64_of_mem (by omega) (by omega)
  rw [hz, if_neg (by omega)]
  obtain ⟨hf, x, hx, hm, hτ⟩ := @retryInScan_spec tenant.windowQueue.reverse
    ((L.toNat : Int) + tenant.windowTotal.toNat - cfg.maxLoad.toNat) 0
    (List.pairwise_reverse.mpr hshape.decreasing)
    (fun y hy => by
      have : y.value.toNat ≤ (tenant.windowQueue.map (·.value.toNat)).sum :=
        List.le_sum_of_mem (List.mem_map_of_mem _ (List.mem_reverse.mp hy))
      omega)
    (by omega) (by omega) (by rw [List.map_reverse, List.sum_reverse, hsum]; omega)
  generalize retryInScan tenant.windowQueue.reverse
    ((L.toNat : Int) + tenant.windowTotal.toNat - cfg.maxLoad.toNat) 0 = scan at hf hm ⊢
  obtain ⟨f, m⟩ := scan
  dsimp only at hf hm ⊢
  subst hm
  obtain ⟨hxt, hxS⟩ := hshape.inWindow x (List.mem_reverse.mp hx)
  have hS := (locate_toNat_bounds cfg t).1
  have hav : (x.startTime + cfg.windowSize).toNat = x.startTime.toNat + cfg.windowSize.toNat :=
    u64_toNat_add_of_lt (by omega)
  rw [if_neg (by rw [u64_eq_zero_iff]; omega), if_neg (by rw [u64_lt_iff, hav]; omega)]
  have hD : (x.startTime + cfg.windowSize - t).toNat =
      x.startTime.toNat + cfg.windowSize.toNat - t.toNat := by
    rw [u64_toNat_sub_of_le (by rw [hav]; omega), hav]
  refine ⟨x.startTime.toNat + cfg.windowSize.toNat - t.toNat, ?_, by omega, by omega,
    fun t' htt => ?_⟩
  · rw [millisecondsDuration_of_le (by have := cfg.window_le; omega), hD]
  · have hsplit := natSum_window_split ht htt h.future
    have hload := loadUpTo_eq_natSum h ht (t'.toNat - cfg.windowSize.toNat)
    have hfilter : ((windowStarts cfg t).filter fun s => s ≤ t'.toNat - cfg.windowSize.toNat) =
        (windowStarts cfg t).filter fun s => s + cfg.windowSize.toNat ≤ t'.toNat :=
      List.filter_congr fun s _ => by simp only [decide_eq_decide]; omega
    rw [hfilter] at hload
    have key := hτ (t'.toNat - cfg.windowSize.toNat)
    rw [loadUpTo_reverse, hload] at key
    constructor
    · intro h'
      have := key.mp (by omega)
      omega
    · intro h'
      have := key.mpr (by omega)
      omega

end Window

/-! ## Runs that end in a rejection -/

section Runs

variable {cfg : EffectiveConfig}

theorem rejectLoad_result {req : SubmitRequest} {tenant tenant' : TenantData}
    {result : SubmitResult} (h : rejectLoad cfg req tenant = .ok (tenant', result)) :
    rejectResult cfg req tenant' = .ok result := by
  unfold rejectLoad at h
  cases hp : rejectPenalty cfg req tenant with
  | error => simp [hp, bind, Except.bind] at h
  | ok p =>
      obtain ⟨t2, sa, d⟩ := p
      simp only [hp, bind, Except.bind] at h
      generalize (if d = true then markDirty (if sa = true then applyCapping cfg req t2 else t2)
        else if sa = true then applyCapping cfg req t2 else t2) = t3 at h
      cases hr : rejectResult cfg req t3 with
      | error => simp [hr] at h
      | ok r =>
          simp only [hr, pure, Except.pure, Except.ok.injEq, Prod.mk.injEq] at h
          obtain ⟨rfl, rfl⟩ := h
          exact hr

theorem Submit_rejected_result {t load : UInt64} {tenant tenant' : TenantData}
    {result : SubmitResult} (h : Submit cfg t load tenant = .ok (tenant', result))
    (hrej : result.accepted = false) :
    rejectResult cfg (buildLoadRequest cfg t load) tenant' = .ok result := by
  unfold Submit at h
  cases hp : probe cfg (buildLoadRequest cfg t load) tenant with
  | error => simp [hp, bind, Except.bind] at h
  | ok p =>
      obtain ⟨tenant1, admissible⟩ := p
      simp only [hp, bind, Except.bind] at h
      cases admissible with
      | false => exact rejectLoad_result h
      | true =>
          cases ha : acceptLoad cfg (buildLoadRequest cfg t load) tenant1 with
          | error => simp [ha] at h
          | ok a =>
              simp only [ha, if_true, pure, Except.pure, Except.ok.injEq, Prod.mk.injEq] at h
              rw [← h.2] at hrej
              cases hrej

theorem ledgerRun_probes (load : UInt64) :
    ∀ (times : List UInt64) (st : LedgerState),
      ledgerRun cfg (times.map fun t' => .probe t' load) st =
        (st, times.map fun t' => decide (windowSum cfg t' st.ledger + load ≤ cfg.maxLoad))
  | [], _ => rfl
  | t' :: times, st => by
      rw [List.map_cons, ledgerRun_cons, List.map_cons]
      exact congrArg (fun r => (r.1, _ :: r.2)) (ledgerRun_probes load times st)

theorem runCalls_probes_probed (load : UInt64) :
    ∀ {times : List UInt64} {tenant tenant' : TenantData} {results : List CallResult},
      runCalls cfg (times.map fun t' => .probe t' load) tenant = .ok (tenant', results) →
        results = (results.map CallResult.decision).map .probed
  | [], _, _, _, h => by
      simp only [List.map_nil, runCalls, Except.ok.injEq, Prod.mk.injEq] at h
      rw [← h.2]
      rfl
  | t' :: times, tenant, tenant', results, h => by
      rw [List.map_cons, runCalls] at h
      cases hp : Probe cfg t' load tenant with
      | error => simp [step, hp, bind, Except.bind] at h
      | ok p =>
          cases hr : runCalls cfg (times.map fun t' => .probe t' load) p.1 with
          | error => simp [step, hp, hr, bind, Except.bind, pure, Except.pure] at h
          | ok q =>
              simp only [step, hp, hr, bind, Except.bind, pure, Except.pure, Except.ok.injEq,
                Prod.mk.injEq] at h
              rw [← h.2, List.map_cons, List.map_cons, ← runCalls_probes_probed load hr]
              rfl

theorem runCalls_before {calls : List Call} {tenant : TenantData} {results : List CallResult}
    {t : UInt64} (hts : ∀ c ∈ calls, cfg.windowSize.toNat ≤ c.timestamp.toNat)
    (hmono : (calls.map fun c => c.timestamp.toNat).Sorted (· ≤ ·))
    (hle : ∀ c ∈ calls, c.timestamp.toNat ≤ t.toNat)
    (hrun : runCalls cfg calls newTenantData = .ok (tenant, results)) :
    Before cfg t tenant (ledgerRun cfg calls LedgerState.fresh).1 := by
  obtain ⟨-, hlast⟩ := @runCalls_refines_from cfg calls newTenantData tenant LedgerState.fresh 0
    results (fun t' _ => before_fresh t') hmono (fun c hc => ⟨Nat.zero_le _, hts c hc⟩) hrun
  cases hc : calls.getLast? with
  | none =>
      rw [List.getLast?_eq_none_iff] at hc
      subst hc
      simp only [runCalls, Except.ok.injEq, Prod.mk.injEq] at hrun
      rw [← hrun.1]
      exact before_fresh t
  | some c => exact (hlast c hc).before (hle c (List.mem_of_mem_getLast? hc))

theorem Safe.admits_iff {t t' load : UInt64} {ledger : Nat → UInt64}
    {accepted : List (Nat × Nat)}
    (h : Safe cfg (locateSegmentStartTime cfg t).toNat ledger accepted)
    (ht : cfg.windowSize.toNat ≤ t.toNat) (htt : t.toNat ≤ t'.toNat)
    (hL : load.toNat ≤ cfg.maxLoad.toNat)
    (hfit : cfg.absoluteMaxPenaltyCap.toNat + cfg.maxLoad.toNat < 2 ^ 64) :
    windowSum cfg t' ledger + load ≤ cfg.maxLoad ↔
      natSum (windowStarts cfg t') ledger + load.toNat ≤ cfg.maxLoad.toNat := by
  have hsplit := natSum_window_split ht htt h.future
  have hsum : natSum (windowStarts cfg t) ledger ≤ cfg.absoluteMaxPenaltyCap.toNat := h.sum_le
  have hW : (windowSum cfg t' ledger).toNat = natSum (windowStarts cfg t') ledger :=
    windowSum_toNat cfg (by omega)
  rw [u64_le_iff, u64_toNat_add_of_lt (by omega), hW]

/-- A configuration whose hints are computed and whose conversions do not wrap. -/
structure HintConfig (cfg : EffectiveConfig) : Prop where
  skip : cfg.skipRetryInComputing = false
  cap : cfg.maxLoad.toNat ≤ cfg.absoluteMaxPenaltyCap.toNat
  room : Headroom cfg
  fits : cfg.absoluteMaxPenaltyCap.toNat + cfg.maxLoad.toNat < 2 ^ 63

/-- Data on which a call at `t` for `load` gets an exact hint: it refines, seen from `t`, a
ledger state that the safety invariant holds of. -/
structure HintReady (cfg : EffectiveConfig) (t load : UInt64) (tenant : TenantData)
    (st : LedgerState) : Prop where
  config : HintConfig cfg
  before : Before cfg t tenant st
  safe : ∃ accepted, Safe cfg (locateSegmentStartTime cfg t).toNat st.ledger accepted
  ts : cfg.windowSize.toNat ≤ t.toNat
  top : t.toNat + cfg.windowSize.toNat < 2 ^ 64
  load_le : load.toNat ≤ cfg.maxLoad.toNat

/-- A tenant left by standalone calls in timestamp order, none after `t`, each of a load of at
most `MaxLoad`. -/
def ReachedBy (cfg : EffectiveConfig) (t : UInt64) (tenant : TenantData) : Prop :=
  ∃ calls results, runCalls cfg calls newTenantData = .ok (tenant, results) ∧
    (calls.map fun c => c.timestamp.toNat).Sorted (· ≤ ·) ∧
    ∀ c ∈ calls, cfg.windowSize.toNat ≤ c.timestamp.toNat ∧ c.timestamp.toNat ≤ t.toNat ∧
      c.load.toNat ≤ cfg.maxLoad.toNat

theorem ReachedBy.hintReady {t load : UInt64} {tenant : TenantData} (h : ReachedBy cfg t tenant)
    (hcfg : HintConfig cfg) (ht : cfg.windowSize.toNat ≤ t.toNat)
    (htop : t.toNat + cfg.windowSize.toNat < 2 ^ 64) (hL : load.toNat ≤ cfg.maxLoad.toNat) :
    ∃ st, HintReady cfg t load tenant st := by
  obtain ⟨calls, results, hrun, hmono, hcalls⟩ := h
  exact ⟨_, hcfg, runCalls_before (fun c hc => (hcalls c hc).1) hmono
    (fun c hc => (hcalls c hc).2.1) hrun,
    ⟨_, ledgerRun_safe hcfg.room hcfg.cap (safe_fresh 0) (Nat.zero_mod _)
      (locate_toNat_bounds cfg t).2.2 (Nat.zero_le _)
      (fun c hc => ⟨Nat.zero_le _, locate_mono cfg (hcalls c hc).2.1, (hcalls c hc).1,
        fun _ _ h => by subst h; exact (hcalls _ hc).2.2⟩) hmono⟩, ht, htop, hL⟩

theorem Capped.hintReady {t load : UInt64} {tenant : TenantData} (h : Capped cfg tenant)
    (hcfg : HintConfig cfg) (ht : cfg.windowSize.toNat ≤ t.toNat)
    (htop : t.toNat + cfg.windowSize.toNat < 2 ^ 64) (hL : load.toNat ≤ cfg.maxLoad.toNat) :
    ∃ tenant1, rotateWindow cfg (buildLoadRequest cfg t load) tenant = .ok tenant1 ∧
      Settled cfg t tenant1 ∧ HintReady cfg t load tenant1 (selfLedger tenant1) := by
  obtain ⟨tenant1, hrot, hcap1, hset⟩ := @Capped.rotateWindow_settled cfg t load _ h ht
  exact ⟨tenant1, hrot, hset, hcfg, hset.refines_self.before le_rfl,
    ⟨[], hset.safe_self ht hcap1.sum_le⟩, ht, htop, hL⟩

/-- A rejected `Submit` on ready data gets a hint of `D` milliseconds, `1 ≤ D ≤ WindowSize`,
and leaves data refining a ledger that admits the load at `t' ≥ t` exactly when
`t + D ≤ t'`. -/
theorem HintReady.Submit_rejected {t load : UInt64} {tenant tenant' : TenantData}
    {st : LedgerState} {result : SubmitResult} (h : HintReady cfg t load tenant st)
    (hsub : Submit cfg t load tenant = .ok (tenant', result)) (hrej : result.accepted = false) :
    ∃ D : Nat, result = ⟨false, true, 1000000 * D⟩ ∧ 1 ≤ D ∧ D ≤ cfg.windowSize.toNat ∧
      Refines cfg t tenant' (ledgerStep cfg (.submit t load) st).1 ∧
      ∀ t' : UInt64, t.toNat ≤ t'.toNat →
        (ledgerStep cfg (.probe t' load) (ledgerStep cfg (.submit t load) st).1).2 =
          decide (t.toNat + D ≤ t'.toNat) := by
  obtain ⟨⟨hskip, hcap, hroom, hint⟩, hb, ⟨accepted, hsafe⟩, ht, htop, hL⟩ := h
  -- the rejected `Submit` is the ledger's rejecting step
  have ht' : cfg.windowSize.toNat ≤ (Call.submit t load).timestamp.toNat := ht
  have hstep : step cfg (.submit t load) tenant = .ok (tenant', .submitted result) := by
    rw [step, hsub]
    rfl
  obtain ⟨href, hdec⟩ := step_refines ht' hb hstep
  have hadm : ¬windowSum cfg t st.ledger + load ≤ cfg.maxLoad := fun hadm => by
    rw [ledgerStep, if_pos hadm] at hdec
    simp [CallResult.decision, hrej] at hdec
  have hsafe1 := ledgerStep_safe hroom hcap ht' (fun _ _ h => by cases h; exact hL) hsafe
  dsimp only [Call.timestamp] at href hsafe1
  -- the window is over `MaxLoad` before the step, and capping keeps it so
  have hwin : min (natSum (windowStarts cfg t) st.ledger) cfg.absoluteMaxPenaltyCap.toNat ≤
      natSum (windowStarts cfg t) (ledgerStep cfg (.submit t load) st).1.ledger :=
    ledgerStep_reject_window hroom ht hL hsafe hadm
  have hsum0 : natSum (windowStarts cfg t) st.ledger ≤ cfg.absoluteMaxPenaltyCap.toNat :=
    hsafe.sum_le
  have hsum1 : natSum (windowStarts cfg t) (ledgerStep cfg (.submit t load) st).1.ledger ≤
      cfg.absoluteMaxPenaltyCap.toNat := hsafe1.sum_le
  have hover0 : cfg.maxLoad.toNat < natSum (windowStarts cfg t) st.ledger + load.toNat :=
    Nat.lt_of_not_le fun hle => hadm ((hsafe.admits_iff ht (Nat.le_refl _) hL (by omega)).mpr hle)
  have hT1 : tenant'.windowTotal.toNat =
      natSum (windowStarts cfg t) (ledgerStep cfg (.submit t load) st).1.ledger := by
    rw [href.windowTotal_eq ht, windowSum_toNat cfg hsafe1.fits]
  obtain ⟨D, hcomp, hD1, hD2, hexact⟩ :=
    computeRetryIn_exact ht htop href hsum1 hint hL (by omega)
  -- the result carries that hint
  have hres := Submit_rejected_result hsub hrej
  rw [rejectResult, hskip] at hres
  simp only [Bool.false_eq_true, ↓reduceIte, hcomp, bind, Except.bind, pure, Except.pure,
    Except.ok.injEq] at hres
  exact ⟨D, hres.symm, hD1, hD2, href, fun t' htt =>
    decide_eq_decide.mpr ((hsafe1.admits_iff ht htt hL (by omega)).trans (hexact t' htt))⟩

theorem Refines.runCalls_probes {t load : UInt64} {times : List UInt64}
    {tenant tenant' : TenantData} {st : LedgerState} {results : List CallResult}
    (h : Refines cfg t tenant st) (ht : cfg.windowSize.toNat ≤ t.toNat)
    (htimes : ((t :: times).map UInt64.toNat).Sorted (· ≤ ·))
    (hprobes : runCalls cfg (times.map fun t' => .probe t' load) tenant = .ok (tenant', results)) :
    results = times.map fun t' => .probed (ledgerStep cfg (.probe t' load) st).2 := by
  rw [List.map_cons, List.sorted_cons] at htimes
  have htt : ∀ t' ∈ times, t.toNat ≤ t'.toNat := fun t' h => htimes.1 _ (List.mem_map_of_mem _ h)
  obtain ⟨hdecs, -⟩ := runCalls_refines_from (fun t' h' => h.before h')
    (by rw [List.map_map]; exact htimes.2)
    (fun c hc => by
      obtain ⟨t', ht'm, rfl⟩ := List.mem_map.mp hc
      exact ⟨htt t' ht'm, Nat.le_trans ht (htt t' ht'm)⟩) hprobes
  rw [runCalls_probes_probed load hprobes, hdecs, ledgerRun_probes, List.map_map]
  rfl

/-- A `Submit` of a load of at most `MaxLoad` at `t`, after calls in timestamp order on a fresh
tenant, that is rejected gets a hint of `D` milliseconds with `1 ≤ D ≤ WindowSize`; every
later run of `Probe`s of the same load at non-decreasing times `t' ≥ t`, with no `Submit` in
between, answers `false` before `t + D` and `true` from `t + D` on. No `uint64` or `int64`
conversion wraps: the cap and `MaxLoad` stay below `2^63`, each penalty fits under the cap,
and `t + WindowSize < 2^64`. -/
theorem runCalls_Submit_retryIn_exact {cfg : EffectiveConfig} {calls : List Call}
    {t load : UInt64} {times : List UInt64} {tenant tenant' tenant'' : TenantData}
    {results probeResults : List CallResult} {result : SubmitResult}
    (hskip : cfg.skipRetryInComputing = false)
    (hts : ∀ c ∈ calls, cfg.windowSize.toNat ≤ c.timestamp.toNat)
    (hmono : (calls.map fun c => c.timestamp.toNat).Sorted (· ≤ ·))
    (hload : ∀ c ∈ calls, c.load.toNat ≤ cfg.maxLoad.toNat)
    (hle : ∀ c ∈ calls, c.timestamp.toNat ≤ t.toNat) (ht : cfg.windowSize.toNat ≤ t.toNat)
    (htop : t.toNat + cfg.windowSize.toNat < 2 ^ 64) (hL : load.toNat ≤ cfg.maxLoad.toNat)
    (hcap : cfg.maxLoad.toNat ≤ cfg.absoluteMaxPenaltyCap.toNat) (hroom : Headroom cfg)
    (hint : cfg.absoluteMaxPenaltyCap.toNat + cfg.maxLoad.toNat < 2 ^ 63)
    (hrun : runCalls cfg calls newTenantData = .ok (tenant, results))
    (hsub : Submit cfg t load tenant = .ok (tenant', result)) (hrej : result.accepted = false)
    (htimes : ((t :: times).map UInt64.toNat).Sorted (· ≤ ·))
    (hprobes : runCalls cfg (times.map fun t' => .probe t' load) tenant' =
      .ok (tenant'', probeResults)) :
    result.retryInAvailable = true ∧ ∃ D : Nat, result.retryIn = 1000000 * D ∧ 1 ≤ D ∧
      D ≤ cfg.windowSize.toNat ∧
      probeResults = times.map fun t' => .probed (decide (t.toNat + D ≤ t'.toNat)) := by
  obtain ⟨st, hready⟩ := ReachedBy.hintReady
    ⟨calls, results, hrun, hmono, fun c hc => ⟨hts c hc, hle c hc, hload c hc⟩⟩
    ⟨hskip, hcap, hroom, hint⟩ ht htop hL
  obtain ⟨D, rfl, hD1, hD2, href, hdec⟩ := hready.Submit_rejected hsub hrej
  refine ⟨rfl, D, rfl, hD1, hD2, ?_⟩
  rw [href.runCalls_probes ht htimes hprobes]
  exact List.map_congr_left fun t' ht'm => congrArg CallResult.probed
    (hdec t' ((List.sorted_cons.mp htimes).1 _ (List.mem_map_of_mem _ ht'm)))

/-- A submit of 60 at 1000000, then a submit of 50 at 1003500: the hint is 6500 ms, when the
first load leaves the window, and probes at 1005000 and 1010000 answer no and yes. -/
theorem runCalls_Submit_retryIn_exact_default :
    (SubmitResult.mk false true 6500000000).retryInAvailable = true ∧
      ∃ D : Nat, (SubmitResult.mk false true 6500000000).retryIn = 1000000 * D ∧ 1 ≤ D ∧
        D ≤ defaultInstanceConfig.windowSize.toNat ∧
        [CallResult.probed false, .probed true] = ([1005000, 1010000] : List UInt64).map
          fun t' => .probed (decide ((1003500 : UInt64).toNat + D ≤ t'.toNat)) :=
  @runCalls_Submit_retryIn_exact defaultInstanceConfig [.submit 1000000 60] 1003500 50
    [1005000, 1010000] _ _ _ _ _ _ rfl (by decide) (by decide) (by decide) (by decide)
    (by decide) (by decide) (by decide) (by decide)
    ⟨by decide, fun h => absurd h (by decide), fun h => absurd h (by decide)⟩ (by decide)
    (by rfl) (by rfl) rfl (by decide) (by rfl)

/-- A total that wrapped past `2^64` makes the hint useless: the third call, a `Submit` of 1
at 20000, is rejected with a hint of 0 ms, and a `Probe` of 1 at 20000 still answers no. -/
theorem runCalls_wrappingCalls_retryIn :
    (runCalls defaultInstanceConfig wrappingCalls newTenantData).map Prod.snd =
      .ok [.submitted ⟨true, false, 0⟩, .submitted ⟨true, false, 0⟩,
        .submitted ⟨false, true, 0⟩, .probed false] := rfl

end Runs

end LoadLimiter
