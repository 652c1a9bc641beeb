import LoadLimiter.SubmitUntil.Driver
import LoadLimiter.Ledger.Retry
import LoadLimiter.Core.Progress
import LoadLimiter.Sync.Codec

/-! # The retry driver on a standalone limiter

`loadLimiterDefaultImpl.submitUntil` reads the clock through `TimeFunc`, sleeps through
`SleepFunc` and calls the instance's own `Submit`, which reads the clock again and serves the
request at `uint64(timestamp.UnixMilli())`. `limiterEnv` is that instance, serving one tenant
with one load: its state is the clock reading with the tenant's data, `Submit` is the task of
the model at the clock's milliseconds, and the injected sleep advances the clock by exactly the
time asked for, with no other call touching the tenant in between.

On it the driver's promises meet the limiter's: a rejection's hint is the exact wait, so an
isolated call makes at most two attempts. This rests on `probe`'s sum
`WindowTotal + RequestedLoad` not wrapping a `uint64`; a load that wraps it is accepted into the
window.
-/

namespace LoadLimiter

/-- `uint64(timestamp.UnixMilli())` of `buildLoadRequest`, from a clock in nanoseconds. -/
def unixMilli (clock : Int) : UInt64 := intToUint64 (clock / 1000000)

theorem intToUint64_toNat_eq (z : Int) : (intToUint64 z).toNat = (z % 2 ^ 64).toNat :=
  u64_toNat_ofNat_of_lt (by omega)

theorem unixMilli_add_toNat (clock : Int) (D : Nat)
    (h : (unixMilli clock).toNat + D < 2 ^ 64) :
    (unixMilli (clock + 1000000 * D)).toNat = (unixMilli clock).toNat + D := by
  simp only [unixMilli, intToUint64_toNat_eq] at h ⊢
  rw [Int.add_mul_ediv_left _ _ (by decide)]
  omega

/-- A standalone limiter serving `load` to one tenant: `Submit` at the clock's milliseconds, and
a sleep that advances the clock by exactly the time asked for. Its `Submit` returns no error. -/
def limiterEnv (cfg : EffectiveConfig) (load : UInt64) : RetryEnv (Int × TenantData) Empty where
  now s := s.1
  submit s := (Submit cfg (unixMilli s.1) load s.2).map fun r => ((s.1, r.1), .ok r.2)
  sleep d s := (s.1 + d, s.2)

@[simp] theorem limiterEnv_now (cfg : EffectiveConfig) (load : UInt64) (s : Int × TenantData) :
    (limiterEnv cfg load).now s = s.1 := rfl

@[simp] theorem limiterEnv_sleep (cfg : EffectiveConfig) (load : UInt64) (d : Duration)
    (s : Int × TenantData) : (limiterEnv cfg load).sleep d s = (s.1 + d, s.2) := rfl

theorem limiterEnv_submit_eq {cfg : EffectiveConfig} {load : UInt64} {clock : Int}
    {tenant tenant' : TenantData} {result : SubmitResult}
    (h : Submit cfg (unixMilli clock) load tenant = .ok (tenant', result)) :
    (limiterEnv cfg load).submit (clock, tenant) = .ok ((clock, tenant'), .ok result) := by
  simp only [limiterEnv, h]
  rfl

variable {cfg : EffectiveConfig}

/-! ## A wrapping admission -/

/-- A load `2^64 - 10` against a window holding 50 at `t = 11000` ms: `probe`'s sum wraps to
40, so `Submit` accepts it into the window, whose total wraps to 40, and `submitUntil` returns
after one attempt with no error. -/
theorem submitUntil_wrappingLoad_accepted :
    runCalls defaultInstanceConfig [.submit 10000 50] newTenantData =
        .ok (⟨[⟨10000, 50⟩], false, 50, 3⟩, [.submitted ⟨true, false, 0⟩]) ∧
      Submit defaultInstanceConfig 11000 18446744073709551606 ⟨[⟨10000, 50⟩], false, 50, 3⟩ =
        .ok (⟨[⟨11000, 18446744073709551606⟩, ⟨10000, 50⟩], false, 40, 5⟩, ⟨true, false, 0⟩) ∧
      submitUntil (limiterEnv defaultInstanceConfig 18446744073709551606) defaultInstanceConfig
          1000000000 1 (11000000000, ⟨[⟨10000, 50⟩], false, 50, 3⟩) =
        some (.ok (⟨1, 0, none⟩, 11000000000,
          ⟨[⟨11000, 18446744073709551606⟩, ⟨10000, 50⟩], false, 40, 5⟩)) :=
  ⟨rfl, rfl, rfl⟩

/-! ## Two attempts -/

theorem ledgerStep_submit_decision (t load : UInt64) (st : LedgerState) :
    (ledgerStep cfg (.submit t load) st).2 = (ledgerStep cfg (.probe t load) st).2 := by
  simp only [ledgerStep]
  split <;> simp_all

/-- An isolated call from a state reached by calls in time order, for a load within `MaxLoad`:
`submitUntil` returns after one attempt, with no wait, or after two, having slept exactly the
first rejection's hint, and the second attempt is accepted. It needs the hint of a rejection
(`HintConfig`) and `t + 2 * WindowSize` not to wrap a `uint64`. -/
theorem submitUntil_isolated_retry {clock timeout : Int} {t load : UInt64} {tenant : TenantData}
    (hcfg : HintConfig cfg) (hr : ReachedBy cfg t tenant) (hclock : unixMilli clock = t)
    (ht : cfg.windowSize.toNat ≤ t.toNat) (htop : t.toNat + 2 * cfg.windowSize.toNat < 2 ^ 64)
    (hL : load.toNat ≤ cfg.maxLoad.toNat) (htimeout : 0 ≤ timeout) (fuel : Nat) :
    ∃ out s', submitUntil (limiterEnv cfg load) cfg timeout (fuel + 2) (clock, tenant) =
        some (.ok (out, s')) ∧
      ((out.attemptsNumber = 1 ∧ out.waitedFor = 0 ∧ s'.1 = clock) ∨
        (out.attemptsNumber = 2 ∧ out.error = none ∧
          ∃ tenant1 first, Submit cfg t load tenant = .ok (tenant1, first) ∧
            first.accepted = false ∧ out.waitedFor = first.retryIn ∧
            s'.1 = clock + first.retryIn)) := by
  subst hclock
  obtain ⟨st, hready⟩ := hr.hintReady hcfg ht (by omega) hL
  obtain ⟨tenant1, first, hsub, -⟩ := @Submit_ok cfg (unixMilli clock) load tenant ht (by omega)
    hready.before.consistent.decreasing hready.before.consistent.aligned
  simp only [submitUntil, limiterEnv_now, if_neg (not_lt.mpr htimeout)]
  rw [show fuel + 2 = fuel + 1 + 1 from rfl]
  rcases @submitUntilLoop_succ_cases _ _ (limiterEnv cfg load) cfg.skipRetryInComputing
      (clock + timeout) (fuel + 1) ⟨0, 0, none⟩ rfl (clock, tenant) with
    ⟨r, hr1, ⟨p, hp, -⟩ | ⟨x, o, out, hs, rfl, hatt, hwait, -⟩⟩ | ⟨x, sr, hs, hrej, -, -, -, -, heq⟩
  · rw [limiterEnv_submit_eq hsub] at hp
    cases hp
  · rw [limiterEnv_submit_eq hsub] at hs
    cases hs
    exact ⟨out, _, hr1, .inl ⟨hatt, hwait, rfl⟩⟩
  rw [limiterEnv_submit_eq hsub] at hs
  cases hs
  -- the first attempt is rejected with a hint of `D` ms, exact on the ledger
  obtain ⟨D, rfl, -, hD, href, hdec⟩ := hready.Submit_rejected hsub hrej
  have hmilli := unixMilli_add_toNat clock D (by omega)
  obtain ⟨tenant2, second, hsub2, -⟩ := @Submit_ok cfg (unixMilli (clock + 1000000 * D)) load
    tenant1 (by omega) (by omega) href.settled.consistent.decreasing
    href.settled.consistent.aligned
  -- so the second, `D` ms later, is accepted
  have hacc : second.accepted = true := by
    have hstep : step cfg (.submit (unixMilli (clock + 1000000 * D)) load) tenant1 =
        .ok (tenant2, .submitted second) := by
      rw [step, hsub2]
      rfl
    have ht2 : cfg.windowSize.toNat ≤
        (Call.submit (unixMilli (clock + 1000000 * D)) load).timestamp.toNat := by
      show _ ≤ (unixMilli _).toNat
      omega
    obtain ⟨-, hd⟩ := step_refines ht2 (href.before
      (show (unixMilli clock).toNat ≤ (unixMilli (clock + 1000000 * D)).toNat by omega)) hstep
    rw [ledgerStep_submit_decision, hdec _ (by omega)] at hd
    simpa [CallResult.decision, hmilli] using hd
  rw [heq]
  rcases @submitUntilLoop_succ_cases _ _ (limiterEnv cfg load) cfg.skipRetryInComputing
      (clock + timeout) fuel ⟨0 + 1, 0 + 1000000 * D, none⟩ rfl (clock + 1000000 * D, tenant1) with
    ⟨r, hr2, ⟨p, hp, -⟩ | ⟨x, o, out, hs, rfl, hatt, hwait, herr⟩⟩ | ⟨x, sr, hs, hrej2, -⟩
  · rw [limiterEnv_submit_eq hsub2] at hp
    cases hp
  · rw [limiterEnv_submit_eq hsub2] at hs
    cases hs
    exact ⟨out, _, hr2, .inr ⟨hatt, herr.mpr ⟨_, rfl, hacc⟩, tenant1, _, hsub, rfl,
      by simpa using hwait, rfl⟩⟩
  · rw [limiterEnv_submit_eq hsub2] at hs
    cases hs
    simp [hacc] at hrej2

/-- 50 at 1003500 ms against a window holding 60 from 1000000: rejected with a hint of 6.5 s,
then accepted. -/
theorem submitUntil_isolated_retry_window :
    ∃ out s', submitUntil (limiterEnv defaultInstanceConfig 50) defaultInstanceConfig 10000000000 2
        (1003500000000, ⟨[⟨1000000, 60⟩], false, 60, 3⟩) = some (.ok (out, s')) ∧
      ((out.attemptsNumber = 1 ∧ out.waitedFor = 0 ∧ s'.1 = 1003500000000) ∨
        (out.attemptsNumber = 2 ∧ out.error = none ∧
          ∃ tenant1 first,
            Submit defaultInstanceConfig 1003500 50 ⟨[⟨1000000, 60⟩], false, 60, 3⟩ =
              .ok (tenant1, first) ∧
            first.accepted = false ∧ out.waitedFor = first.retryIn ∧
            s'.1 = 1003500000000 + first.retryIn)) :=
  @submitUntil_isolated_retry defaultInstanceConfig 1003500000000 10000000000 1003500 50
    ⟨[⟨1000000, 60⟩], false, 60, 3⟩
    ⟨rfl, by decide, ⟨by decide, fun h => absurd h (by decide), fun h => absurd h (by decide)⟩,
      by decide⟩
    ⟨[.submit 1000000 60], _, rfl, by decide, by decide⟩ rfl (by decide) (by decide) (by decide)
    (by decide) 0

/-! ## A window whose total wrapped -/

/-- The effective configuration of `MaxLoad` 100 over a 10 s window of 1 s segments, with
`OverstepPenaltyFactor` 0.3 and `OverstepPenaltyDistributionFactor` 0.3 and the default cap
factor 0.5: a penalty of `uint64(100 * 0.3) = 30` over `round(0.3 * 10) = 3` segments, and a
cap of 150. -/
def overstepConfig : EffectiveConfig where
  maxLoad := 100
  windowSize := 10000
  windowSegmentSize := 1000
  numSegments := 10
  skipRetryInComputing := false
  applyOverstepPenalty := true
  absoluteOverstepPenalty := 30
  overstepPenaltySegmentSpan := 3
  applyRequestOverheadPenalty := false
  requestOverheadPenalty := fun _ => none
  requestOverheadPenaltySegmentSpan := 0
  applyPenaltyCapping := true
  absoluteMaxPenaltyCap := 150
  maxLoad_pos := by decide
  segment_pos := by decide
  segment_le_window := by decide
  window_dvd := by decide
  numSegments_eq := by decide
  window_le := by decide
  capping := rfl
  overstepSpan := fun _ => by decide
  overheadSpan := by decide

/-- `Submit`s of 100 at 24000, of 90 at 24500 (rejected, with a penalty of 30 over three
segments) and of `2^64 - 50` at 25500 (accepted: the sum wraps to 80) leave a window whose
total is 80 but whose segments sum past `2^64`. An isolated `submitUntil` of 21 at 26000 ms is
rejected with a hint of 8 s, sleeps for it, and is rejected again, now with no hint. -/
theorem submitUntil_wrappedWindow_retryRejected :
    runCalls overstepConfig [.submit 24000 100, .submit 24500 90,
        .submit 25500 18446744073709551566] newTenantData =
      .ok (⟨[⟨25000, 18446744073709551566⟩, ⟨24000, 110⟩, ⟨23000, 10⟩, ⟨22000, 10⟩], false, 80,
          6⟩,
        [.submitted ⟨true, false, 0⟩, .submitted ⟨false, true, 9500000000⟩,
          .submitted ⟨true, false, 0⟩]) ∧
      submitUntil (limiterEnv overstepConfig 21) overstepConfig 60000000000 3
          (26000000000,
            ⟨[⟨25000, 18446744073709551566⟩, ⟨24000, 110⟩, ⟨23000, 10⟩, ⟨22000, 10⟩], false, 80, 6⟩) =
        some (.ok (⟨2, 8000000000, some (.rejected "excessive requested load")⟩, 34000000000,
          ⟨[⟨34000, 0⟩, ⟨26000, 10⟩, ⟨25000, 18446744073709551576⟩], true, 18446744073709551586,
            9⟩)) :=
  ⟨rfl, rfl⟩

end LoadLimiter
