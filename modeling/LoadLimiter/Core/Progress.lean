import LoadLimiter.Core.Invariant

/-! # No call panics

From a tenant whose start times are strictly decreasing multiples of `WindowSegmentSize`, a
`Probe` or `Submit` at `t ≥ WindowSize` returns, and leaves the queue in shape for `t`. The
one panic a call can reach from such a state is the assertion of `computeRetryIn`; it needs
the last segment the scan removes to leave the window before `t`, which a queue in shape at
`t` rules out, as long as `t + WindowSize` does not wrap a `uint64`.

The total plays no part here: the restored total of a peer's payload may be anything.
-/

namespace LoadLimiter

theorem retryInScan_snd_mem {queue : List WindowSegment} {toFree : Int}
    {removalTime : UInt64} {scan : Int × UInt64}
    (h : retryInScan queue toFree removalTime = scan) :
    scan.2 = removalTime ∨ ∃ x ∈ queue, scan.2 = x.startTime := by
  subst h
  induction queue generalizing toFree removalTime with
  | nil => exact .inl rfl
  | cons x rest ih =>
      unfold retryInScan
      split
      · rcases ih with h | ⟨y, hy, h⟩
        · exact .inr ⟨x, List.mem_cons_self _ _, h⟩
        · exact .inr ⟨y, List.mem_cons_of_mem _ hy, h⟩
      · exact .inl rfl

variable {cfg : EffectiveConfig} {t load : UInt64} {tenant : TenantData}

theorem computeRetryIn_ok (hq : WindowShape cfg t tenant.windowQueue)
    (hwrap : t.toNat + cfg.windowSize.toNat < 2 ^ 64) :
    ∃ r, computeRetryIn cfg (buildLoadRequest cfg t load) tenant = .ok r := by
  unfold computeRetryIn
  split
  · exact ⟨_, rfl⟩
  dsimp only
  split
  · exact ⟨_, rfl⟩
  split
  · exact ⟨_, rfl⟩
  rename_i hcond
  obtain ⟨x, hx, hm⟩ := (retryInScan_snd_mem rfl).resolve_left fun h => hcond (.inl h)
  rw [hm]
  obtain ⟨hlow, hhigh⟩ := hq.inWindow x (List.mem_reverse.mp hx)
  have hS := (locate_toNat_bounds cfg t).1
  have havail : (x.startTime + cfg.windowSize).toNat = x.startTime.toNat + cfg.windowSize.toNat :=
    u64_toNat_add_of_lt (by omega)
  split
  · rename_i hlt
    rw [buildLoadRequest_requestedTimestamp, u64_lt_iff, havail] at hlt
    omega
  · exact ⟨_, rfl⟩

theorem rejectResult_ok (hq : WindowShape cfg t tenant.windowQueue)
    (hwrap : t.toNat + cfg.windowSize.toNat < 2 ^ 64) :
    ∃ r, rejectResult cfg (buildLoadRequest cfg t load) tenant = .ok r := by
  unfold rejectResult
  split
  · exact ⟨_, rfl⟩
  · obtain ⟨r, hr⟩ := @computeRetryIn_ok cfg t load tenant hq hwrap
    rw [hr]
    cases r <;> exact ⟨_, rfl⟩

/-- A `Submit` at `t` from a decreasing, aligned queue returns and leaves the queue in shape
at `t`. -/
theorem Submit_ok (ht : cfg.windowSize.toNat ≤ t.toNat)
    (hwrap : t.toNat + cfg.windowSize.toNat < 2 ^ 64) (hd : StartsDecreasing tenant.windowQueue)
    (ha : StartsAligned cfg tenant.windowQueue) :
    ∃ tenant' result, Submit cfg t load tenant = .ok (tenant', result) ∧
      WindowShape cfg t tenant'.windowQueue := by
  obtain ⟨tenant1, hrot, hrotated⟩ := @rotateWindow_spec cfg t load tenant ht hd ha
  rw [Submit_eq hrot]
  split
  · obtain ⟨tenant2, hacc, hs, -⟩ := @acceptLoad_spec cfg t load _ hrotated.shape
    rw [hacc]
    exact ⟨_, _, rfl, hs⟩
  · obtain ⟨tenant2, hs, -, heq⟩ := @rejectLoad_spec cfg t load _ ht hrotated.shape
    obtain ⟨r, hr⟩ := @rejectResult_ok cfg t load _ hs hwrap
    rw [heq, hr]
    exact ⟨_, _, rfl, hs⟩

theorem Probe_ok (ht : cfg.windowSize.toNat ≤ t.toNat) (hd : StartsDecreasing tenant.windowQueue)
    (ha : StartsAligned cfg tenant.windowQueue) :
    ∃ tenant' admissible, Probe cfg t load tenant = .ok (tenant', admissible) ∧
      WindowShape cfg t tenant'.windowQueue := by
  obtain ⟨tenant1, hrot, hrotated⟩ := @rotateWindow_spec cfg t load tenant ht hd ha
  exact ⟨_, _, by rw [Probe, probe_eq hrot], hrotated.shape⟩

theorem step_ok {c : Call} (ht : cfg.windowSize.toNat ≤ c.timestamp.toNat)
    (hwrap : c.timestamp.toNat + cfg.windowSize.toNat < 2 ^ 64)
    (hd : StartsDecreasing tenant.windowQueue) (ha : StartsAligned cfg tenant.windowQueue) :
    ∃ tenant' result, step cfg c tenant = .ok (tenant', result) ∧
      WindowShape cfg c.timestamp tenant'.windowQueue := by
  cases c with
  | probe t load =>
      obtain ⟨tenant', admissible, hp, hs⟩ := @Probe_ok cfg t load tenant ht hd ha
      exact ⟨tenant', .probed admissible, by rw [step, hp]; rfl, hs⟩
  | submit t load =>
      obtain ⟨tenant', result, hp, hs⟩ := @Submit_ok cfg t load tenant ht hwrap hd ha
      exact ⟨tenant', .submitted result, by rw [step, hp]; rfl, hs⟩

/-- From a tenant whose start times are strictly decreasing multiples of `WindowSegmentSize`
(a reachable tenant, or one restored from a payload that has such start times), no run of
calls at timestamps in `[WindowSize, 2^64 - WindowSize)` panics. -/
theorem runCalls_ok {calls : List Call}
    (hts : ∀ c ∈ calls, cfg.windowSize.toNat ≤ c.timestamp.toNat ∧
      c.timestamp.toNat + cfg.windowSize.toNat < 2 ^ 64)
    (hd : StartsDecreasing tenant.windowQueue) (ha : StartsAligned cfg tenant.windowQueue) :
    ∃ r, runCalls cfg calls tenant = .ok r := by
  induction calls generalizing tenant with
  | nil => exact ⟨_, rfl⟩
  | cons c calls ih =>
      obtain ⟨ht, hwrap⟩ := hts c (List.mem_cons_self _ _)
      obtain ⟨tenant', result, hs, hshape⟩ := step_ok ht hwrap hd ha
      obtain ⟨r, hr⟩ := ih (fun c hc => hts c (List.mem_cons_of_mem _ hc)) hshape.decreasing
        hshape.aligned
      exact ⟨_, by rw [runCalls, hs]; simp only [bind, Except.bind, hr]; rfl⟩

/-- A tenant restored from a payload with aligned start times serves a `Submit` and a
`Probe`. -/
theorem runCalls_ok_aligned_restore :
    ∃ r, runCalls defaultInstanceConfig [.submit 1000500 1, .probe 1001000 1]
      ⟨[⟨1000000, 0⟩, ⟨990000, 100⟩], true, 100, 5⟩ = .ok r :=
  runCalls_ok (by decide) (by decide) (by decide)

/-! ## Timestamps below the window

Below `WindowSize` the eviction bound `t - WindowSize` wraps to a large word: once the queue
holds two segments, the eviction loop pops all of them, the front just pushed at `S`
included, and `acceptLoad` finds an empty deque. -/

theorem runCalls_smallTimestamps_panics :
    rotateWindow defaultInstanceConfig (buildLoadRequest defaultInstanceConfig 1500 1)
        ⟨[⟨0, 1⟩], false, 1, 3⟩ = .ok ⟨[], false, 0, 4⟩ ∧
      runCalls defaultInstanceConfig [.submit 500 1] newTenantData =
        .ok (⟨[⟨0, 1⟩], false, 1, 3⟩, [.submitted ⟨true, false, 0⟩]) ∧
      runCalls defaultInstanceConfig [.submit 500 1, .submit 1500 1] newTenantData =
        .error .emptyDeque :=
  ⟨rfl, rfl, rfl⟩

end LoadLimiter
