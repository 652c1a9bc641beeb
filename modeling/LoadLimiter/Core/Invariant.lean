import LoadLimiter.Core.Limiter
import LoadLimiter.Window.RotateSpec

/-! # The window invariant over runs

Between calls a tenant's start times are strictly decreasing multiples of
`WindowSegmentSize` and its total is the `uint64` sum of its values; a call at `t` leaves
the queue in shape for `t`. Each function of a call keeps the difference between the total
and the sum of the values, which is how the total stays the sum.

That sum wraps: a load that wraps `probe`'s sum is accepted, and the total is then the sum of
the values only modulo `2^64`. Where no sum wraps, the total is the plain sum
(`Ledger.Capped`).
-/

namespace LoadLimiter

variable {cfg : EffectiveConfig}

/-- What holds between calls. -/
structure Consistent (cfg : EffectiveConfig) (tenant : TenantData) : Prop where
  decreasing : StartsDecreasing tenant.windowQueue
  aligned : StartsAligned cfg tenant.windowQueue
  total_eq : tenant.windowTotal = (tenant.windowQueue.map (·.value)).sum

/-- What a call at `t` leaves. -/
structure Settled (cfg : EffectiveConfig) (t : UInt64) (tenant : TenantData) : Prop where
  shape : WindowShape cfg t tenant.windowQueue
  total_eq : tenant.windowTotal = (tenant.windowQueue.map (·.value)).sum

theorem Settled.consistent {t : UInt64} {tenant : TenantData} (h : Settled cfg t tenant) :
    Consistent cfg tenant :=
  ⟨h.shape.decreasing, h.shape.aligned, h.total_eq⟩

theorem newTenantData_consistent : Consistent cfg newTenantData :=
  ⟨List.Pairwise.nil, fun _ h => absurd h (List.not_mem_nil _), rfl⟩

theorem Settled.of_drift {t : UInt64} {tenant tenant' : TenantData} (h : Settled cfg t tenant)
    (hs : WindowShape cfg t tenant'.windowQueue)
    (hd : tenant'.windowTotal - (tenant'.windowQueue.map (·.value)).sum =
      tenant.windowTotal - (tenant.windowQueue.map (·.value)).sum) :
    Settled cfg t tenant' :=
  ⟨hs, sub_eq_zero.mp (hd.trans (sub_eq_zero.mpr h.total_eq))⟩

/-! ## One call -/

section Call

variable {t load : UInt64} {tenant : TenantData}

theorem rotateWindow_settled (ht : cfg.windowSize.toNat ≤ t.toNat) (h : Consistent cfg tenant) :
    ∃ tenant', rotateWindow cfg (buildLoadRequest cfg t load) tenant = .ok tenant' ∧
      Settled cfg t tenant' ∧ Rotated cfg t tenant tenant' := by
  obtain ⟨tenant', hrot, hspec⟩ := @rotateWindow_spec cfg t load tenant ht h.decreasing h.aligned
  exact ⟨tenant', hrot, ⟨hspec.shape, sub_eq_zero.mp (hspec.drift.trans
    (sub_eq_zero.mpr h.total_eq))⟩, hspec⟩

theorem probe_eq {req : SubmitRequest} {tenant' : TenantData}
    (h : rotateWindow cfg req tenant = .ok tenant') :
    probe cfg req tenant =
      .ok (tenant', decide (tenant'.windowTotal + req.requestedLoad ≤ cfg.maxLoad)) := by
  simp only [probe, h]
  rfl

theorem Submit_eq {tenant' : TenantData}
    (h : rotateWindow cfg (buildLoadRequest cfg t load) tenant = .ok tenant') :
    Submit cfg t load tenant =
      if tenant'.windowTotal + load ≤ cfg.maxLoad then do
        let tenant ← acceptLoad cfg (buildLoadRequest cfg t load) tenant'
        pure (tenant, { accepted := true, retryInAvailable := false, retryIn := 0 })
      else rejectLoad cfg (buildLoadRequest cfg t load) tenant' := by
  simp only [Submit, probe_eq h, bind, Except.bind, buildLoadRequest_requestedLoad,
    decide_eq_true_eq]

theorem acceptLoad_eq {value : UInt64} {rest : List WindowSegment}
    (hq : tenant.windowQueue = ⟨locateSegmentStartTime cfg t, value⟩ :: rest) :
    acceptLoad cfg (buildLoadRequest cfg t load) tenant =
      .ok (markDirty (applyCapping cfg (buildLoadRequest cfg t load) { tenant with
        wasOver := false
        windowTotal := tenant.windowTotal + load
        windowQueue := ⟨locateSegmentStartTime cfg t, value + load⟩ :: rest })) := by
  simp only [acceptLoad, hq]
  rfl

/-- `acceptLoad` on a queue in shape at `t` returns, keeps the shape, and keeps the
difference between total and values. -/
theorem acceptLoad_spec (hq : WindowShape cfg t tenant.windowQueue) :
    ∃ tenant', acceptLoad cfg (buildLoadRequest cfg t load) tenant = .ok tenant' ∧
      WindowShape cfg t tenant'.windowQueue ∧
      tenant'.windowTotal - (tenant'.windowQueue.map (·.value)).sum =
        tenant.windowTotal - (tenant.windowQueue.map (·.value)).sum := by
  obtain ⟨value, rest, hfront⟩ := hq.front
  refine ⟨_, acceptLoad_eq hfront, ?_⟩
  obtain ⟨hs, hd⟩ := @applyCapping_spec cfg t load { tenant with
      wasOver := false
      windowTotal := tenant.windowTotal + load
      windowQueue := ⟨locateSegmentStartTime cfg t, value + load⟩ :: rest }
    (hq.of_starts_eq (by rw [hfront]; rfl))
  refine ⟨hs, hd.trans ?_⟩
  rw [hfront]
  simp only [List.map_cons, List.sum_cons]
  abel

theorem acceptLoad_settled (h : Settled cfg t tenant) :
    ∃ tenant', acceptLoad cfg (buildLoadRequest cfg t load) tenant = .ok tenant' ∧
      Settled cfg t tenant' := by
  obtain ⟨tenant', hacc, hs, hd⟩ := @acceptLoad_spec cfg t load _ h.shape
  exact ⟨tenant', hacc, h.of_drift hs hd⟩

theorem rejectPenalty_spec (ht : cfg.windowSize.toNat ≤ t.toNat)
    (hq : WindowShape cfg t tenant.windowQueue) :
    ∃ tenant' someAdded dirty,
      rejectPenalty cfg (buildLoadRequest cfg t load) tenant = .ok (tenant', someAdded, dirty) ∧
      WindowShape cfg t tenant'.windowQueue ∧
      tenant'.windowTotal - (tenant'.windowQueue.map (·.value)).sum =
        tenant.windowTotal - (tenant.windowQueue.map (·.value)).sum := by
  unfold rejectPenalty
  split_ifs with hw ho hr
  · obtain ⟨tenant', hd, hs, hdr, -⟩ := @distributePenalty_spec cfg t load
      cfg.absoluteOverstepPenalty _ _ ht hq (cfg.overstepSpan ho).1 (cfg.overstepSpan ho).2
    rw [hd]
    exact ⟨_, true, true, rfl, hs, hdr⟩
  · exact ⟨_, false, true, rfl, hq, rfl⟩
  · split
    · rename_i penalty _
      obtain ⟨tenant', hd, hs, hdr, -⟩ := @distributePenalty_spec cfg t load penalty _ _ ht hq
        (cfg.overheadSpan hr).1 (cfg.overheadSpan hr).2
      rw [hd]
      exact ⟨_, true, true, rfl, hs, hdr⟩
    · exact ⟨_, false, false, rfl, hq, rfl⟩
  · exact ⟨_, false, false, rfl, hq, rfl⟩

theorem rejectLoad_eq {req : SubmitRequest} {tenant' : TenantData} {someAdded dirty : Bool}
    (hp : rejectPenalty cfg req tenant = .ok (tenant', someAdded, dirty)) :
    rejectLoad cfg req tenant =
      let tenant'' := if dirty then
        markDirty (if someAdded then applyCapping cfg req tenant' else tenant')
      else if someAdded then applyCapping cfg req tenant' else tenant'
      rejectResult cfg req tenant'' >>= fun result => pure (tenant'', result) := by
  simp only [rejectLoad, hp]
  rfl

/-- `rejectLoad` at `t` settles the tenant, keeping the shape and the difference between
total and values, and computes its result on the settled tenant. -/
theorem rejectLoad_spec (ht : cfg.windowSize.toNat ≤ t.toNat)
    (hq : WindowShape cfg t tenant.windowQueue) :
    ∃ tenant', WindowShape cfg t tenant'.windowQueue ∧
      tenant'.windowTotal - (tenant'.windowQueue.map (·.value)).sum =
        tenant.windowTotal - (tenant.windowQueue.map (·.value)).sum ∧
      rejectLoad cfg (buildLoadRequest cfg t load) tenant =
        rejectResult cfg (buildLoadRequest cfg t load) tenant' >>=
          fun result => pure (tenant', result) := by
  obtain ⟨tenant1, someAdded, dirty, hp, hs1, hd1⟩ := @rejectPenalty_spec cfg t load _ ht hq
  have hcap : WindowShape cfg t
        (if someAdded then applyCapping cfg (buildLoadRequest cfg t load) tenant1
          else tenant1).windowQueue ∧
      (if someAdded then applyCapping cfg (buildLoadRequest cfg t load) tenant1
          else tenant1).windowTotal -
        ((if someAdded then applyCapping cfg (buildLoadRequest cfg t load) tenant1
          else tenant1).windowQueue.map (·.value)).sum =
        tenant.windowTotal - (tenant.windowQueue.map (·.value)).sum := by
    split
    · obtain ⟨hs2, hd2⟩ := @applyCapping_spec cfg t load _ hs1
      exact ⟨hs2, hd2.trans hd1⟩
    · exact ⟨hs1, hd1⟩
  refine ⟨_, ?_, ?_, rejectLoad_eq hp⟩ <;> split
  all_goals first | exact hcap.1 | exact hcap.2

theorem rejectLoad_settled (ht : cfg.windowSize.toNat ≤ t.toNat) (h : Settled cfg t tenant)
    {tenant' : TenantData} {result : SubmitResult}
    (hr : rejectLoad cfg (buildLoadRequest cfg t load) tenant = .ok (tenant', result)) :
    Settled cfg t tenant' := by
  obtain ⟨tenant'', hs, hd, heq⟩ := @rejectLoad_spec cfg t load _ ht h.shape
  rw [heq] at hr
  cases hres : rejectResult cfg (buildLoadRequest cfg t load) tenant'' with
  | error => rw [hres] at hr; cases hr
  | ok r =>
      rw [hres] at hr
      cases hr
      exact h.of_drift hs hd

theorem Submit_settled (ht : cfg.windowSize.toNat ≤ t.toNat) (h : Consistent cfg tenant)
    {tenant' : TenantData} {result : SubmitResult}
    (hs : Submit cfg t load tenant = .ok (tenant', result)) : Settled cfg t tenant' := by
  obtain ⟨tenant1, hrot, hset, -⟩ := @rotateWindow_settled cfg t load _ ht h
  rw [Submit_eq hrot] at hs
  split at hs
  · obtain ⟨tenant2, hacc, hset2⟩ := @acceptLoad_settled cfg t load _ hset
    rw [hacc] at hs
    obtain ⟨rfl, -⟩ := Prod.mk.inj (Except.ok.inj hs)
    exact hset2
  · exact rejectLoad_settled ht hset hs

theorem Probe_settled (ht : cfg.windowSize.toNat ≤ t.toNat) (h : Consistent cfg tenant)
    {tenant' : TenantData} {admissible : Bool}
    (hp : Probe cfg t load tenant = .ok (tenant', admissible)) : Settled cfg t tenant' := by
  obtain ⟨tenant1, hrot, hset, -⟩ := @rotateWindow_settled cfg t load _ ht h
  rw [Probe, probe_eq hrot] at hp
  obtain ⟨rfl, -⟩ := Prod.mk.inj (Except.ok.inj hp)
  exact hset

theorem step_settled {c : Call} (ht : cfg.windowSize.toNat ≤ c.timestamp.toNat)
    (h : Consistent cfg tenant) {tenant' : TenantData} {result : CallResult}
    (hs : step cfg c tenant = .ok (tenant', result)) : Settled cfg c.timestamp tenant' := by
  cases c with
  | probe t load =>
      simp only [step] at hs
      generalize hp : Probe cfg t load tenant = r at hs
      cases r with
      | error => cases hs
      | ok r =>
          obtain ⟨rfl, -⟩ := Prod.mk.inj (Except.ok.inj hs)
          exact Probe_settled ht h hp
  | submit t load =>
      simp only [step] at hs
      generalize hp : Submit cfg t load tenant = r at hs
      cases r with
      | error => cases hs
      | ok r =>
          obtain ⟨rfl, -⟩ := Prod.mk.inj (Except.ok.inj hs)
          exact Submit_settled ht h hp

end Call

/-! ## Runs -/

/-- Tenant states reachable from a fresh tenant by calls at timestamps of at least
`WindowSize`, in any order; `last` is the timestamp of the last call. -/
inductive Reachable (cfg : EffectiveConfig) : Option UInt64 → TenantData → Prop
  | fresh : Reachable cfg none newTenantData
  | call {last : Option UInt64} {tenant tenant' : TenantData} {c : Call} {result : CallResult} :
      Reachable cfg last tenant → cfg.windowSize.toNat ≤ c.timestamp.toNat →
      step cfg c tenant = .ok (tenant', result) → Reachable cfg (some c.timestamp) tenant'

theorem Reachable.consistent {last : Option UInt64} {tenant : TenantData}
    (h : Reachable cfg last tenant) : Consistent cfg tenant := by
  induction h with
  | fresh => exact newTenantData_consistent
  | call _ ht hs ih => exact (step_settled ht ih hs).consistent

theorem Reachable.settled {t : UInt64} {tenant : TenantData}
    (h : Reachable cfg (some t) tenant) : Settled cfg t tenant := by
  cases h with
  | call hr ht hs => exact step_settled ht hr.consistent hs

theorem WindowShape.length_le {t : UInt64} {queue : List WindowSegment}
    (h : WindowShape cfg t queue) :
    queue.length ≤ cfg.numSegments.toNat := by
  have hpw : (queue.map (·.startTime.toNat)).Pairwise (· > ·) :=
    List.pairwise_map.mpr h.decreasing
  have hnodup : (queue.map (·.startTime.toNat)).Nodup := hpw.imp fun hlt => Nat.ne_of_gt hlt
  have hsub : queue.map (·.startTime.toNat) ⊆ windowStarts cfg t := fun s hs => by
    obtain ⟨x, hx, rfl⟩ := List.mem_map.mp hs
    exact (mem_windowStarts_iff cfg).mpr ⟨h.aligned x hx, h.inWindow x hx⟩
  have := (List.subperm_of_subset hnodup hsub).length_le
  simpa [windowStarts, latestStarts] using this

/-- `Submit`s of 50 at 10000 and of `2^64 - 10` at 11000 on a fresh tenant of the default test
instance: `probe`'s sum wraps to 40, so the second load is accepted, and the total, 40, is the
sum of the segment values only modulo `2^64`. -/
theorem runCalls_wrappingSubmits_total_ne_sum :
    runCalls defaultInstanceConfig [.submit 10000 50, .submit 11000 18446744073709551606]
        newTenantData =
      .ok (⟨[⟨11000, 18446744073709551606⟩, ⟨10000, 50⟩], false, 40, 5⟩,
        [.submitted ⟨true, false, 0⟩, .submitted ⟨true, false, 0⟩]) ∧
      (40 : UInt64).toNat + 2 ^ 64 =
        (([⟨11000, 18446744073709551606⟩, ⟨10000, 50⟩] : List WindowSegment).map
          (·.value.toNat)).sum :=
  ⟨rfl, rfl⟩

end LoadLimiter
