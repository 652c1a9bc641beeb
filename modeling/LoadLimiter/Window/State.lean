import LoadLimiter.Basic.Word

/-! # Tenant state, effective configuration and requests

The per-tenant data of `loadLimiterDefaultImpl` and the validated configuration it runs
with. The window queue is a `github.com/gammazero/deque` of `*windowSegment`; it is a list
here, front (newest) first, so `PushFront` is `cons` and `At i` is indexing. Segments are
held by value: within one queue no segment pointer occurs twice, so an in-place update
through a pointer is an update of one list entry.

A Go panic is a `Panic` in `Except`.
-/

namespace LoadLimiter

/-- `windowSegment`: one bucket of the sliding window. -/
structure WindowSegment where
  startTime : UInt64
  value : UInt64
deriving DecidableEq, Repr

structure TenantData where
  windowQueue : List WindowSegment
  wasOver : Bool
  windowTotal : UInt64
  version : UInt64
deriving DecidableEq, Repr

/-- The tenant `getTenant` creates on first reference. -/
def newTenantData : TenantData :=
  { windowQueue := [], wasOver := false, windowTotal := 0, version := 1 }

/-- Run-time failures: a deque accessed out of its bounds, an integer division by zero, or
an explicit `panic` of the source with its message. -/
inductive Panic where
  | emptyDeque
  | indexOutOfRange
  | divideByZero
  | message (text : String)
deriving DecidableEq, Repr

/--
`loadLimiterEffectiveConfig`, as `validateConfiguration` builds it; the proof fields are
what that function checks or computes, so an effective configuration that
`validateConfiguration` could not return cannot be built.

`RequestOverheadPenaltyFactor` is a `float64`; `rejectLoad` only uses it through
`math.Round(factor * float64(load))`, which is `requestOverheadPenalty load`: `none` when
the rounded product is below `1.0`, else its `uint64` conversion. `AbsoluteOverstepPenalty`
and `AbsoluteMaxPenaltyCap` are `uint64` conversions of floating-point products and may be
any word. A span is `uint64(math.Round(distribution * float64(numSegments)))` with the
distribution factor in `(0, 1]`, raised to `1`, so it lies between `1` and `NumSegments`;
`WindowSize` is `Duration.Milliseconds()` of an `int64` nanosecond count.
-/
structure EffectiveConfig where
  maxLoad : UInt64
  windowSize : UInt64
  windowSegmentSize : UInt64
  numSegments : UInt64
  skipRetryInComputing : Bool
  applyOverstepPenalty : Bool
  absoluteOverstepPenalty : UInt64
  overstepPenaltySegmentSpan : UInt64
  applyRequestOverheadPenalty : Bool
  requestOverheadPenalty : UInt64 → Option UInt64
  requestOverheadPenaltySegmentSpan : UInt64
  applyPenaltyCapping : Bool
  absoluteMaxPenaltyCap : UInt64
  maxLoad_pos : 0 < maxLoad.toNat
  segment_pos : 0 < windowSegmentSize.toNat
  segment_le_window : windowSegmentSize.toNat ≤ windowSize.toNat
  window_dvd : windowSize.toNat % windowSegmentSize.toNat = 0
  numSegments_eq : numSegments.toNat = windowSize.toNat / windowSegmentSize.toNat
  window_le : windowSize.toNat ≤ 9223372036854
  capping : applyPenaltyCapping = true
  overstepSpan : applyOverstepPenalty = true →
    1 ≤ overstepPenaltySegmentSpan.toNat ∧ overstepPenaltySegmentSpan.toNat ≤ numSegments.toNat
  overheadSpan : applyRequestOverheadPenalty = true →
    1 ≤ requestOverheadPenaltySegmentSpan.toNat ∧
      requestOverheadPenaltySegmentSpan.toNat ≤ numSegments.toNat

/-- The effective configuration of the test suite's `buildDefaultInstance`: `MaxLoad` 100,
a 10 s window of 1 s segments, no penalties, and the default cap factor `0.5`. -/
def defaultInstanceConfig : EffectiveConfig where
  maxLoad := 100
  windowSize := 10000
  windowSegmentSize := 1000
  numSegments := 10
  skipRetryInComputing := false
  applyOverstepPenalty := false
  absoluteOverstepPenalty := 0
  overstepPenaltySegmentSpan := 0
  applyRequestOverheadPenalty := false
  requestOverheadPenalty := fun _ => none
  requestOverheadPenaltySegmentSpan := 0
  applyPenaltyCapping := true
  absoluteMaxPenaltyCap := 150
  maxLoad_pos := by decide
  segment_pos := by decide
  segment_le_window := by decide
  window_dvd := by decide
  numSegments_eq := by decide
  window_le := by decide
  capping := rfl
  overstepSpan := by decide
  overheadSpan := by decide

/-- `submitRequest`, less the tenant key and tenant pointer: the tenant travels as state. -/
structure SubmitRequest where
  requestedLoad : UInt64
  requestedTimestamp : UInt64
  requestSegmentStartTime : UInt64
deriving DecidableEq, Repr

/-- `SubmitResult`; `RetryIn` is a `time.Duration`. -/
structure SubmitResult where
  accepted : Bool
  retryInAvailable : Bool
  retryIn : Duration
deriving DecidableEq, Repr

section Requests

variable (cfg : EffectiveConfig)

def locateSegmentStartTime (t : UInt64) : UInt64 :=
  (t / cfg.windowSegmentSize) * cfg.windowSegmentSize

/-- `buildLoadRequest`, with `t` the `uint64` of the clock's `UnixMilli`. -/
def buildLoadRequest (t load : UInt64) : SubmitRequest :=
  { requestedLoad := load, requestedTimestamp := t,
    requestSegmentStartTime := locateSegmentStartTime cfg t }

end Requests

/-- `markDirty`: bump the tenant version. -/
def markDirty (tenant : TenantData) : TenantData :=
  { tenant with version := tenant.version + 1 }

@[simp] theorem markDirty_windowQueue (tenant : TenantData) :
    (markDirty tenant).windowQueue = tenant.windowQueue := rfl

@[simp] theorem markDirty_windowTotal (tenant : TenantData) :
    (markDirty tenant).windowTotal = tenant.windowTotal := rfl

@[simp] theorem markDirty_wasOver (tenant : TenantData) :
    (markDirty tenant).wasOver = tenant.wasOver := rfl

@[simp] theorem markDirty_version (tenant : TenantData) :
    (markDirty tenant).version = tenant.version + 1 := rfl

@[simp] theorem buildLoadRequest_requestedLoad (cfg : EffectiveConfig) (t load : UInt64) :
    (buildLoadRequest cfg t load).requestedLoad = load := rfl

@[simp] theorem buildLoadRequest_requestedTimestamp (cfg : EffectiveConfig) (t load : UInt64) :
    (buildLoadRequest cfg t load).requestedTimestamp = t := rfl

@[simp] theorem buildLoadRequest_requestSegmentStartTime (cfg : EffectiveConfig)
    (t load : UInt64) :
    (buildLoadRequest cfg t load).requestSegmentStartTime = locateSegmentStartTime cfg t := rfl

/-! ## Segment addressing -/

namespace EffectiveConfig

variable (cfg : EffectiveConfig)

theorem window_eq_mul :
    cfg.windowSize.toNat = cfg.numSegments.toNat * cfg.windowSegmentSize.toNat := by
  have h := Nat.div_add_mod cfg.windowSize.toNat cfg.windowSegmentSize.toNat
  rw [cfg.window_dvd, Nat.add_zero] at h
  rw [cfg.numSegments_eq, Nat.mul_comm]
  exact h.symm

theorem numSegments_pos : 0 < cfg.numSegments.toNat := by
  have h := cfg.window_eq_mul
  have := cfg.segment_pos
  have := cfg.segment_le_window
  rcases Nat.eq_zero_or_pos cfg.numSegments.toNat with h0 | h0
  · rw [h0, Nat.zero_mul] at h
    omega
  · exact h0

end EffectiveConfig

theorem locateSegmentStartTime_toNat (cfg : EffectiveConfig) (t : UInt64) :
    (locateSegmentStartTime cfg t).toNat =
      t.toNat / cfg.windowSegmentSize.toNat * cfg.windowSegmentSize.toNat := by
  unfold locateSegmentStartTime
  have hle : t.toNat / cfg.windowSegmentSize.toNat * cfg.windowSegmentSize.toNat ≤ t.toNat :=
    Nat.div_mul_le_self _ _
  rw [u64_toNat_mul_of_lt (by rw [UInt64.toNat_div]; have := u64_toNat_lt t; omega),
    UInt64.toNat_div]

end LoadLimiter
