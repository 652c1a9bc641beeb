import LoadLimiter.Ledger.Safety

/-! # The window invariant in any order

`Submit` reads the clock before taking the limiter's mutex, so calls can reach the critical
section in any order of their timestamps. Whatever the order, as long as no `uint64` sum
wraps, a tenant's total is the plain sum of its segment values and stays within
`AbsoluteMaxPenaltyCap` (`Capped`).

A rotation only drops segments and moves the load ahead of `S` into `S`, so it never raises
the values' sum (`Rotated.natSum_le`). After it the tenant is settled at `t`, and a settled
tenant refines the ledger made of its own values (`selfLedger`), on which the ledger's safety
invariant holds. So the ledger's step lemmas serve one call from any capped state, and the
invariant holds along every run, in order or not.
-/

namespace LoadLimiter

variable {cfg : EffectiveConfig}

/-! ## Rotations never raise the load -/

theorem u64_toNat_add_le (a b : UInt64) : (a + b).toNat ≤ a.toNat + b.toNat := by
  rw [u64_toNat_add]
  exact Nat.mod_le _ _

theorem sum_map_ite_eq_of_mem {l : List Nat} (hl : l.Nodup) {a : Nat} (ha : a ∈ l) (c : Nat) :
    (l.map fun s => if s = a then c else 0).sum = c := by
  rw [List.sum_map_eq_nsmul_single a _ fun s hs _ => if_neg hs, List.count_eq_one_of_mem hl ha,
    if_pos rfl, one_nsmul]

theorem Rotated.natSum_le {t : UInt64} {tenant tenant' : TenantData}
    (h : Rotated cfg t tenant tenant') (ht : cfg.windowSize.toNat ≤ t.toNat)
    (hd : StartsDecreasing tenant.windowQueue) :
    (tenant'.windowQueue.map (·.value.toNat)).sum ≤
      (tenant.windowQueue.map (·.value.toNat)).sum := by
  have hW := windowStarts_pairwise cfg ht
  obtain ⟨S, hSdef⟩ : ∃ S, locateSegmentStartTime cfg t = S := ⟨_, rfl⟩
  have hup : ∀ a b, a ≤ b → decide (S.toNat < a) = true → decide (S.toNat < b) = true :=
    fun a b hab ha => by simp only [decide_eq_true_eq] at ha ⊢; omega
  -- the segments at or before `S` that lie in the window, and those ahead of `S`
  obtain ⟨kept, hkept⟩ : ∃ kept, kept = ((tenant.windowQueue.dropWhile fun x =>
      decide (S.toNat < x.startTime.toNat)).filter fun x =>
        decide (x.startTime.toNat ∈ windowStarts cfg t)) := ⟨_, rfl⟩
  obtain ⟨moved, hmoved⟩ : ∃ moved, moved = futureLoad S tenant.windowQueue := ⟨_, rfl⟩
  -- each start of the window holds what the kept segments hold there, and the moved load at `S`
  have hstart : ∀ s ∈ windowStarts cfg t, (valueAt tenant'.windowQueue s).toNat ≤
      (valueAt kept s).toNat + if s = S.toNat then moved.toNat else 0 := by
    intro s hs
    obtain ⟨-, hlo, hhi⟩ := (mem_windowStarts_iff cfg).mp hs
    rw [hSdef] at hhi
    rw [h.valueAt_eq, hSdef, if_pos ⟨hlo, hhi⟩, hkept, hmoved,
      valueAt_filter _ (fun n => decide (n ∈ windowStarts cfg t)), if_pos (decide_eq_true hs),
      hd.valueAt_dropWhile hup, if_neg (show ¬decide (S.toNat < s) = true by simpa using hhi)]
    refine (u64_toNat_add_le _ _).trans ?_
    split <;> simp
  -- the moved load is at most what was ahead of `S`
  have hahead : moved.toNat ≤ ((tenant.windowQueue.takeWhile
      fun x => decide (S.toNat < x.startTime.toNat)).map (·.value.toNat)).sum := by
    rw [hmoved, futureLoad, u64_toNat_sum, List.map_map]
    exact Nat.mod_le _ _
  have hsub : kept.Sublist (tenant.windowQueue.dropWhile fun x =>
      decide (S.toNat < x.startTime.toNat)) := hkept ▸ List.filter_sublist _
  have hview : (kept.map (·.value.toNat)).sum =
      ((windowStarts cfg t).map fun s => (valueAt kept s).toNat).sum :=
    sum_values_eq_sum_valueAt UInt64.toNat rfl hW
      ((hd.sublist (List.dropWhile_sublist _)).sublist hsub)
      fun x hx => by
        rw [hkept] at hx
        exact of_decide_eq_true (List.mem_filter.mp hx).2
  have hS : S.toNat ∈ windowStarts cfg t := by
    obtain ⟨-, htS, hSa⟩ := locate_toNat_bounds cfg t
    have := cfg.segment_le_window
    rw [← hSdef]
    exact (mem_windowStarts_iff cfg).mpr ⟨hSa, by omega, le_rfl⟩
  calc (tenant'.windowQueue.map (·.value.toNat)).sum
      = ((windowStarts cfg t).map fun s => (valueAt tenant'.windowQueue s).toNat).sum :=
        sum_values_eq_sum_valueAt UInt64.toNat rfl hW h.shape.decreasing fun x hx =>
          (mem_windowStarts_iff cfg).mpr ⟨h.shape.aligned x hx, h.shape.inWindow x hx⟩
    _ ≤ ((windowStarts cfg t).map fun s =>
          (valueAt kept s).toNat + if s = S.toNat then moved.toNat else 0).sum :=
        List.sum_le_sum hstart
    _ = (kept.map (·.value.toNat)).sum + moved.toNat := by
        rw [List.sum_map_add, hview, sum_map_ite_eq_of_mem (hW.imp Nat.ne_of_gt) hS]
    _ ≤ ((tenant.windowQueue.dropWhile fun x => decide (S.toNat < x.startTime.toNat)).map
          (·.value.toNat)).sum + ((tenant.windowQueue.takeWhile
            fun x => decide (S.toNat < x.startTime.toNat)).map (·.value.toNat)).sum :=
        Nat.add_le_add ((hsub.map _).sum_le_sum fun _ _ => Nat.zero_le _) hahead
    _ = (tenant.windowQueue.map (·.value.toNat)).sum := by
        rw [Nat.add_comm, ← List.sum_append, ← List.map_append, List.takeWhile_append_dropWhile]

theorem sum_values_eq_natSum {t : UInt64} {tenant : TenantData} {st : LedgerState}
    (h : Refines cfg t tenant st) (ht : cfg.windowSize.toNat ≤ t.toNat) :
    (tenant.windowQueue.map (·.value.toNat)).sum = natSum (windowStarts cfg t) st.ledger := by
  have hshape := h.settled.shape
  exact (sum_values_eq_sum_valueAt UInt64.toNat rfl (windowStarts_pairwise cfg ht)
    hshape.decreasing fun x hx => (mem_windowStarts_iff cfg).mpr
      ⟨hshape.aligned x hx, hshape.inWindow x hx⟩).trans
    (congrArg List.sum (List.map_congr_left fun s hs => by rw [h.valueAt_eq s hs]))

/-! ## The invariant -/

/-- Between calls: the shape of `Consistent`, and values whose sum as naturals, which is then
the total, stays within the cap. -/
structure Capped (cfg : EffectiveConfig) (tenant : TenantData) extends Consistent cfg tenant :
    Prop where
  sum_le : (tenant.windowQueue.map (·.value.toNat)).sum ≤ cfg.absoluteMaxPenaltyCap.toNat

theorem Capped.windowTotal_toNat {tenant : TenantData} (h : Capped cfg tenant) :
    tenant.windowTotal.toNat = (tenant.windowQueue.map (·.value.toNat)).sum := by
  have := u64_toNat_lt cfg.absoluteMaxPenaltyCap
  rw [h.total_eq, u64_toNat_sum_of_lt (by rw [List.map_map]; exact h.sum_le.trans_lt this),
    List.map_map]
  rfl

theorem newTenantData_capped : Capped cfg newTenantData :=
  ⟨newTenantData_consistent, Nat.zero_le _⟩

def selfLedger (tenant : TenantData) : LedgerState := ⟨valueAt tenant.windowQueue, tenant.wasOver⟩

section Settled

variable {t : UInt64} {tenant : TenantData}

theorem Settled.refines_self (h : Settled cfg t tenant) : Refines cfg t tenant (selfLedger tenant) :=
  ⟨h, fun _ _ => rfl, fun s hs => valueAt_of_not_mem fun x hx he => by
    have := (h.shape.inWindow x hx).2
    omega, rfl⟩

theorem Settled.safe_self (ht : cfg.windowSize.toNat ≤ t.toNat) (h : Settled cfg t tenant)
    (hle : (tenant.windowQueue.map (·.value.toNat)).sum ≤ cfg.absoluteMaxPenaltyCap.toNat) :
    Safe cfg (locateSegmentStartTime cfg t).toNat (selfLedger tenant).ledger [] := by
  have hsum : recentSum cfg (locateSegmentStartTime cfg t).toNat cfg.numSegments.toNat
      (selfLedger tenant).ledger = (tenant.windowQueue.map (·.value.toNat)).sum :=
    (sum_values_eq_natSum h.refines_self ht).symm
  have := u64_toNat_lt cfg.absoluteMaxPenaltyCap
  exact ⟨⟨fun _ _ => Nat.zero_le _, fun _ _ => Nat.zero_le _,
    h.refines_self.future, fun _ h => absurd h (List.not_mem_nil _), by omega⟩, by omega⟩

end Settled

theorem Capped.rotateWindow_settled {t load : UInt64} {tenant : TenantData}
    (h : Capped cfg tenant) (ht : cfg.windowSize.toNat ≤ t.toNat) :
    ∃ tenant1, rotateWindow cfg (buildLoadRequest cfg t load) tenant = .ok tenant1 ∧
      Capped cfg tenant1 ∧ Settled cfg t tenant1 := by
  obtain ⟨tenant1, hrot, hset, hrotated⟩ := @LoadLimiter.rotateWindow_settled cfg t load _ ht h.toConsistent
  exact ⟨tenant1, hrot, ⟨hset.consistent, (hrotated.natSum_le ht h.decreasing).trans h.sum_le⟩,
    hset⟩

/-! ## One call, any order -/

/-- One call at `t ≥ WindowSize` on a capped tenant, a submitted load of at most `MaxLoad`:
the tenant stays capped and is settled at `t`. The call sees the tenant rotated to `t`, which
refines its own values, so the ledger's step keeps the safety invariant there. -/
theorem step_capped (hroom : Headroom cfg)
    (hcap : cfg.maxLoad.toNat ≤ cfg.absoluteMaxPenaltyCap.toNat) {c : Call} {tenant : TenantData}
    (ht : cfg.windowSize.toNat ≤ c.timestamp.toNat)
    (hL : ∀ t load, c = .submit t load → load.toNat ≤ cfg.maxLoad.toNat)
    (h : Capped cfg tenant) {tenant' : TenantData} {r : CallResult}
    (hs : step cfg c tenant = .ok (tenant', r)) :
    Capped cfg tenant' ∧ Settled cfg c.timestamp tenant' := by
  obtain ⟨tenant1, hrot, hcap1, hset⟩ := @Capped.rotateWindow_settled cfg c.timestamp c.load _ h ht
  -- the call finds the rotated tenant as it finds the tenant itself
  have hsame : step cfg c tenant = step cfg c tenant1 := by
    have hself := @rotateWindow_of_shape cfg c.timestamp c.load _ ht hset.shape
    cases c with
    | probe t load =>
        simp only [Call.timestamp, Call.load] at hrot hself
        simp only [step, Probe, probe_eq hrot, probe_eq hself]
    | submit t load =>
        simp only [Call.timestamp, Call.load] at hrot hself
        simp only [step, Submit_eq hrot, Submit_eq hself]
  rw [hsame] at hs
  have href := hset.refines_self
  obtain ⟨h2, -⟩ := step_refines ht (href.before le_rfl) hs
  have hsafe := ledgerStep_safe hroom hcap ht hL (hset.safe_self ht hcap1.sum_le)
  have hsum : (tenant'.windowQueue.map (·.value.toNat)).sum =
      recentSum cfg (locateSegmentStartTime cfg c.timestamp).toNat cfg.numSegments.toNat
        (ledgerStep cfg c (selfLedger tenant1)).1.ledger :=
    sum_values_eq_natSum h2 ht
  exact ⟨⟨h2.settled.consistent, hsum ▸ hsafe.sum_le⟩, h2.settled⟩

/-- Calls in any order, each at a timestamp of at least `WindowSize` and each submitting at most
`MaxLoad`, keep a capped tenant capped, and leave it settled at the last call's timestamp. -/
theorem runCalls_capped (hroom : Headroom cfg)
    (hcap : cfg.maxLoad.toNat ≤ cfg.absoluteMaxPenaltyCap.toNat) :
    ∀ {calls : List Call} {tenant tenant' : TenantData} {results : List CallResult},
      (∀ c ∈ calls, cfg.windowSize.toNat ≤ c.timestamp.toNat) →
      (∀ t load, Call.submit t load ∈ calls → load.toNat ≤ cfg.maxLoad.toNat) →
      Capped cfg tenant → runCalls cfg calls tenant = .ok (tenant', results) →
      Capped cfg tenant' ∧ ∀ c ∈ calls.getLast?, Settled cfg c.timestamp tenant'
  | [], _, _, _, _, _, h, hrun => by
      cases hrun
      exact ⟨h, fun _ hc => absurd hc (by simp)⟩
  | c :: calls, tenant, tenant', results, hts, hload, h, hrun => by
      cases hstep : step cfg c tenant with
      | error => simp [runCalls, hstep, bind, Except.bind] at hrun
      | ok p =>
          cases hrest : runCalls cfg calls p.1 with
          | error => simp [runCalls, hstep, hrest, bind, Except.bind] at hrun
          | ok q =>
              simp only [runCalls, hstep, hrest, bind, Except.bind, pure, Except.pure,
                Except.ok.injEq, Prod.mk.injEq] at hrun
              obtain ⟨rfl, rfl⟩ := hrun
              obtain ⟨h1, hset1⟩ := step_capped hroom hcap (hts c (List.mem_cons_self _ _))
                (fun t load he => hload t load (he ▸ List.mem_cons_self _ _)) h hstep
              obtain ⟨ih1, ih2⟩ := runCalls_capped hroom hcap
                (fun c' hc' => hts c' (List.mem_cons_of_mem _ hc'))
                (fun t load hm => hload t load (List.mem_cons_of_mem _ hm)) h1 hrest
              refine ⟨ih1, fun c' hc' => ?_⟩
              cases calls with
              | nil =>
                  cases hrest
                  rw [List.getLast?_singleton, Option.mem_def, Option.some.injEq] at hc'
                  exact hc' ▸ hset1
              | cons c'' calls =>
                  rw [List.getLast?_cons_cons] at hc'
                  exact ih2 c' hc'

/-- The window invariant of every run, in any order: for calls at timestamps of at least
`WindowSize` served in any order on a fresh tenant, with every submitted load at most `MaxLoad`,
`MaxLoad` at most the cap and no `uint64` sum wrapping, the total is the sum of the segment
values as naturals and stays within the cap; start times are strictly decreasing multiples of
`WindowSegmentSize`; and after the last call, at `t`, the queue starts at `S` and holds only
starts in `(t - WindowSize, S]`, so at most `NumSegments` segments. -/
theorem runCalls_windowTotal_eq_sum {calls : List Call} {tenant : TenantData}
    {results : List CallResult} (hts : ∀ c ∈ calls, cfg.windowSize.toNat ≤ c.timestamp.toNat)
    (hload : ∀ t load, Call.submit t load ∈ calls → load.toNat ≤ cfg.maxLoad.toNat)
    (hcap : cfg.maxLoad.toNat ≤ cfg.absoluteMaxPenaltyCap.toNat) (hroom : Headroom cfg)
    (hrun : runCalls cfg calls newTenantData = .ok (tenant, results)) :
    tenant.windowTotal.toNat = (tenant.windowQueue.map (·.value.toNat)).sum ∧
      tenant.windowTotal.toNat ≤ cfg.absoluteMaxPenaltyCap.toNat ∧
      StartsDecreasing tenant.windowQueue ∧ StartsAligned cfg tenant.windowQueue ∧
      ∀ c ∈ calls.getLast?, WindowShape cfg c.timestamp tenant.windowQueue ∧
        tenant.windowQueue.length ≤ cfg.numSegments.toNat := by
  obtain ⟨h, hlast⟩ := runCalls_capped hroom hcap hts hload newTenantData_capped hrun
  exact ⟨h.windowTotal_toNat, h.windowTotal_toNat ▸ h.sum_le, h.decreasing, h.aligned,
    fun c hc => ⟨(hlast c hc).shape, (hlast c hc).shape.length_le⟩⟩

/-- The run whose late `Submit` moves the `100` accepted at `20000` into the segment `15000`:
the invariant holds after it all the same. -/
theorem runCalls_windowTotal_eq_sum_outOfOrder :
    (100 : UInt64).toNat = (([⟨25000, 100⟩] : List WindowSegment).map (·.value.toNat)).sum ∧
      (100 : UInt64).toNat ≤ defaultInstanceConfig.absoluteMaxPenaltyCap.toNat ∧
      StartsDecreasing [⟨25000, 100⟩] ∧ StartsAligned defaultInstanceConfig [⟨25000, 100⟩] ∧
      ∀ c ∈ outOfOrderCalls.getLast?, WindowShape defaultInstanceConfig c.timestamp
        [⟨25000, 100⟩] ∧
        [(⟨25000, 100⟩ : WindowSegment)].length ≤ defaultInstanceConfig.numSegments.toNat :=
  @runCalls_windowTotal_eq_sum defaultInstanceConfig outOfOrderCalls ⟨[⟨25000, 100⟩], false, 100, 7⟩
    _ (by decide)
    (fun t load h => by
      simp only [outOfOrderCalls, List.mem_cons, Call.submit.injEq, List.mem_singleton,
        List.not_mem_nil, or_false] at h
      rcases h with ⟨-, rfl⟩ | ⟨-, rfl⟩ | ⟨-, rfl⟩ <;> decide)
    (by decide) ⟨by decide, fun h => absurd h (by decide), fun h => absurd h (by decide)⟩ rfl

end LoadLimiter
