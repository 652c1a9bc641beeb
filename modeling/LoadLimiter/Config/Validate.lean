import Mathlib.Data.Rat.Floor
import LoadLimiter.Sync.Codec

/-! # Configuration validation

`validateConfiguration` and `pickSegmentSize` of `factory.go`: how a user `Config` becomes
the `loadLimiterEffectiveConfig` a limiter runs with.

Three `float64` computations happen here: the cap `MaxLoad * (1.0 + MaxPenaltyCapFactor)`,
the overstep penalty `MaxLoad * OverstepPenaltyFactor`, and each penalty span
`math.Round(distribution * float64(NumSegments))`. The float arithmetic is the parameter
record `Float64Arith`, so what is proved holds for every arithmetic; the one fact about
IEEE-754 rounding the spans need is the hypothesis `Float64Arith.SpanRounding`. The
comparisons are Boolean, so a NaN factor passes the range checks exactly as it does in Go.

`validateConfiguration_valid` connects this to the model: every configuration it accepts
meets every proof field of `EffectiveConfig`, and `LoadLimiterEffectiveConfig.toEffectiveConfig`
is the configuration the rest of the development runs with.
-/

namespace LoadLimiter

/-- The `float64` operations of `validateConfiguration` and `rejectLoad` on a carrier `F`:
`float64(n)` of a `uint64`, `uint64(x)` (truncation toward zero, implementation-defined out
of range), `*`, `+`, `math.Round` (half away from zero), `<` and `>=` (false on a NaN), and
the literals `0`, `1.0` and `0.5`. -/
structure Float64Arith (F : Type) where
  ofUInt64 : UInt64 → F
  toUInt64 : F → UInt64
  mul : F → F → F
  add : F → F → F
  round : F → F
  lt : F → F → Bool
  ge : F → F → Bool
  zero : F
  one : F
  half : F

/-- `Config`, as `validateConfiguration` reads it; a `time.Duration` is `int64` nanoseconds.
The sync adapter, clock, sleep function and logger are not read there. -/
structure Config (F : Type) where
  maxLoad : UInt64
  windowSize : Duration
  windowSegmentSize : Duration
  overstepPenaltyFactor : F
  overstepPenaltyDistributionFactor : F
  requestOverheadPenaltyFactor : F
  requestOverheadPenaltyDistributionFactor : F
  maxPenaltyCapFactor : F
  skipRetryInComputing : Bool

structure LoadLimiterEffectiveConfig (F : Type) where
  maxLoad : UInt64
  windowSize : UInt64
  windowSegmentSize : UInt64
  numSegments : UInt64
  skipRetryInComputing : Bool
  applyOverstepPenalty : Bool
  absoluteOverstepPenalty : UInt64
  overstepPenaltySegmentSpan : UInt64
  applyRequestOverheadPenalty : Bool
  requestOverheadPenaltyFactor : F
  requestOverheadPenaltySegmentSpan : UInt64
  applyPenaltyCapping : Bool
  absoluteMaxPenaltyCap : UInt64

/-- The errors of `validateConfiguration` and `pickSegmentSize`, with the values their texts
print; `negativeFactor` and `distributionOutOfRange` carry the name of the field checked. -/
inductive ConfigError (F : Type) where
  | maxLoad (given : UInt64)
  | windowSize (given : Duration)
  | negativeFactor (field : String) (given : F)
  | negativeDuration
  | notDivisibleInSegments
  | windowTooSmall
  | segmentTooSmall (given : Duration)
  | segmentOverWindow (segment window : Duration)
  | windowNotMultiple (window segment : Duration)
  | distributionOutOfRange (field : String) (given : F)

/-- The `Error()` text of each error, given fmt's `%v` of a `time.Duration` and of a
`float64`. -/
def ConfigError.error {F : Type} (durationString : Duration → String) (floatString : F → String) :
    ConfigError F → String
  | .maxLoad given =>
      "MaxLoad should be greater than 0 (given: " ++ (formatUint given).asString ++ ")"
  | .windowSize given =>
      "WindowSize should be at least 1ms (given: " ++ durationString given ++ ")"
  | .negativeFactor field given =>
      field ++ " should be zero or positive (given: " ++ floatString given ++ ")"
  | .negativeDuration => "negative duration is not allowed"
  | .notDivisibleInSegments =>
      "the provided windowSize is not exactly divisible in segments. " ++
        "Please provide a valid WindowSizeSegment parameter"
  | .windowTooSmall =>
      "the given WindowSize is too small to allow automatically picking a WindowSegmentSize. " ++
        "Please give an explicit WindowSegmentSize or pick a larger WindowSize"
  | .segmentTooSmall given =>
      "WindowSegmentSize is too small, it should never be less than a millisecond (given: " ++
        durationString given ++ ")"
  | .segmentOverWindow segment window =>
      "WindowSegmentSize should not be greater than WindowSize (given: " ++
        durationString segment ++ " over " ++ durationString window ++ ")"
  | .windowNotMultiple window segment =>
      "WindowSize should be an exact multiple of WindowSegmentSize (given: " ++
        durationString window ++ " over " ++ durationString segment ++ ")"
  | .distributionOutOfRange field given =>
      field ++ " should be valued in the range from 0.0 to 1.0 (given: " ++ floatString given ++ ")"

/-- `Duration.Milliseconds`: `int64(d) / 1e6`, truncated toward zero. -/
def durationMilliseconds (d : Duration) : Int := d.tdiv 1000000

section Validate

variable {F : Type} (ops : Float64Arith F)

/-- `pickSegmentSize`: a twentieth of the window, as a `time.Duration`. -/
def pickSegmentSize (windowSizeMillis : Int) : Except (ConfigError F) Duration :=
  if windowSizeMillis ≤ 0 then .error .negativeDuration
  else if windowSizeMillis.tmod 20 ≠ 0 then .error .notDivisibleInSegments
  else
    let res := windowSizeMillis.tdiv 20
    if res < 1 then .error .windowTooSmall
    else .ok (wrapInt64 (res * 1000000))

/-- The `windowSegmentSizeMillis` block of `validateConfiguration`: picked from the window
when `WindowSegmentSize` is zero, else the given size in whole milliseconds. -/
def windowSegmentSizeMillis (config : Config F) (windowSizeMillis : Int) :
    Except (ConfigError F) Int :=
  if config.windowSegmentSize = 0 then
    (pickSegmentSize windowSizeMillis).map durationMilliseconds
  else
    let millis := durationMilliseconds config.windowSegmentSize
    if millis ≤ 0 then .error (.segmentTooSmall config.windowSegmentSize) else .ok millis

/-- The two checks each penalty block of `validateConfiguration` makes on its factor and its
distribution factor. -/
def checkPenaltyFactors (factorName distributionFactorName : String)
    (factor distributionFactor : F) : Except (ConfigError F) Unit :=
  if ops.lt factor ops.zero then .error (.negativeFactor factorName factor)
  else if ops.lt distributionFactor ops.zero || ops.lt ops.one distributionFactor then
    .error (.distributionOutOfRange distributionFactorName distributionFactor)
  else .ok ()

/-- The segment span each penalty block computes: `uint64(math.Round(distribution *
float64(numSegments)))`, raised to `1`, or `1` when the distribution factor is not
positive. -/
def penaltySegmentSpan (distributionFactor : F) (numSegments : UInt64) : UInt64 :=
  if ops.lt ops.zero distributionFactor then
    let span := ops.toUInt64 (ops.round (ops.mul distributionFactor (ops.ofUInt64 numSegments)))
    if span ≤ 0 then 1 else span
  else 1

/-- `validateConfiguration`, its early returns in order. The logger only receives the
warnings of the two span blocks. -/
def validateConfiguration (config : Config F) :
    Except (ConfigError F) (LoadLimiterEffectiveConfig F) :=
  if config.maxLoad ≤ 0 then .error (.maxLoad config.maxLoad) else
  let windowSizeMillis := durationMilliseconds config.windowSize
  if windowSizeMillis ≤ 0 then .error (.windowSize config.windowSize) else
  if ops.lt config.maxPenaltyCapFactor ops.zero then
    .error (.negativeFactor "MaxPenaltyCapFactor" config.maxPenaltyCapFactor) else
  let absoluteMaxPenaltyCap :=
    if ops.lt ops.zero config.maxPenaltyCapFactor then
      ops.toUInt64 (ops.mul (ops.ofUInt64 config.maxLoad) (ops.add ops.one config.maxPenaltyCapFactor))
    else
      ops.toUInt64 (ops.mul (ops.ofUInt64 config.maxLoad) (ops.add ops.one ops.half))
  (windowSegmentSizeMillis config windowSizeMillis).bind fun windowSegmentSizeMillis =>
  if windowSegmentSizeMillis > windowSizeMillis then
    .error (.segmentOverWindow config.windowSegmentSize config.windowSize) else
  if windowSizeMillis.tmod windowSegmentSizeMillis > 0 then
    .error (.windowNotMultiple config.windowSize config.windowSegmentSize) else
  let numSegments := intToUint64 (windowSizeMillis.tdiv windowSegmentSizeMillis)
  (checkPenaltyFactors ops "OverstepPenaltyFactor" "OverstepPenaltyDistributionFactor"
    config.overstepPenaltyFactor config.overstepPenaltyDistributionFactor).bind fun _ =>
  let applyOverstepPenalty := ops.lt ops.zero config.overstepPenaltyFactor
  (checkPenaltyFactors ops "RequestOverheadPenaltyFactor" "RequestOverheadPenaltyDistributionFactor"
    config.requestOverheadPenaltyFactor config.requestOverheadPenaltyDistributionFactor).bind fun _ =>
  let applyRequestOverheadPenalty := ops.lt ops.zero config.requestOverheadPenaltyFactor
  .ok {
    maxLoad := config.maxLoad
    windowSize := intToUint64 windowSizeMillis
    windowSegmentSize := intToUint64 windowSegmentSizeMillis
    numSegments := numSegments
    skipRetryInComputing := config.skipRetryInComputing
    applyOverstepPenalty := applyOverstepPenalty
    absoluteOverstepPenalty := if applyOverstepPenalty then
      ops.toUInt64 (ops.mul (ops.ofUInt64 config.maxLoad) config.overstepPenaltyFactor) else 0
    overstepPenaltySegmentSpan := if applyOverstepPenalty then
      penaltySegmentSpan ops config.overstepPenaltyDistributionFactor numSegments else 0
    applyRequestOverheadPenalty := applyRequestOverheadPenalty
    requestOverheadPenaltyFactor := if applyRequestOverheadPenalty then
      config.requestOverheadPenaltyFactor else ops.zero
    requestOverheadPenaltySegmentSpan := if applyRequestOverheadPenalty then
      penaltySegmentSpan ops config.requestOverheadPenaltyDistributionFactor numSegments else 0
    applyPenaltyCapping := true
    absoluteMaxPenaltyCap := absoluteMaxPenaltyCap }

/-- `rejectLoad`'s overhead penalty for a load: `math.Round(factor * float64(load))`, kept as
a `uint64` when it is at least `1.0`. -/
def requestOverheadPenaltyOf (factor : F) (load : UInt64) : Option UInt64 :=
  let penalty := ops.round (ops.mul factor (ops.ofUInt64 load))
  if ops.ge penalty ops.one then some (ops.toUInt64 penalty) else none

end Validate

/-! ## Accepted configurations are effective configurations -/

section Valid

variable {F : Type} (ops : Float64Arith F)

/-- What IEEE-754 rounding gives a span: for a distribution factor `d` with `0 < d` and not
`1.0 < d`, and a count `n` below `2^53` (so `float64(n)` is exact),
`uint64(math.Round(d * float64(n)))` is at most `n`. -/
def Float64Arith.SpanRounding : Prop :=
  ∀ d (n : UInt64), ops.lt ops.zero d = true → ops.lt ops.one d = false → n.toNat < 2 ^ 53 →
    (ops.toUInt64 (ops.round (ops.mul d (ops.ofUInt64 n)))).toNat ≤ n.toNat

structure LoadLimiterEffectiveConfig.Valid (out : LoadLimiterEffectiveConfig F) : Prop where
  maxLoad_pos : 0 < out.maxLoad.toNat
  segment_pos : 0 < out.windowSegmentSize.toNat
  segment_le_window : out.windowSegmentSize.toNat ≤ out.windowSize.toNat
  window_dvd : out.windowSize.toNat % out.windowSegmentSize.toNat = 0
  numSegments_eq : out.numSegments.toNat = out.windowSize.toNat / out.windowSegmentSize.toNat
  window_le : out.windowSize.toNat ≤ 9223372036854
  capping : out.applyPenaltyCapping = true
  overstepSpan : out.applyOverstepPenalty = true →
    1 ≤ out.overstepPenaltySegmentSpan.toNat ∧
      out.overstepPenaltySegmentSpan.toNat ≤ out.numSegments.toNat
  overheadSpan : out.applyRequestOverheadPenalty = true →
    1 ≤ out.requestOverheadPenaltySegmentSpan.toNat ∧
      out.requestOverheadPenaltySegmentSpan.toNat ≤ out.numSegments.toNat

/-- The `EffectiveConfig` a valid record stands for; `rejectLoad` reads the overhead factor
through `requestOverheadPenaltyOf`. -/
def LoadLimiterEffectiveConfig.toEffectiveConfig (out : LoadLimiterEffectiveConfig F)
    (h : out.Valid) : EffectiveConfig where
  maxLoad := out.maxLoad
  windowSize := out.windowSize
  windowSegmentSize := out.windowSegmentSize
  numSegments := out.numSegments
  skipRetryInComputing := out.skipRetryInComputing
  applyOverstepPenalty := out.applyOverstepPenalty
  absoluteOverstepPenalty := out.absoluteOverstepPenalty
  overstepPenaltySegmentSpan := out.overstepPenaltySegmentSpan
  applyRequestOverheadPenalty := out.applyRequestOverheadPenalty
  requestOverheadPenalty := requestOverheadPenaltyOf ops out.requestOverheadPenaltyFactor
  requestOverheadPenaltySegmentSpan := out.requestOverheadPenaltySegmentSpan
  applyPenaltyCapping := out.applyPenaltyCapping
  absoluteMaxPenaltyCap := out.absoluteMaxPenaltyCap
  maxLoad_pos := h.maxLoad_pos
  segment_pos := h.segment_pos
  segment_le_window := h.segment_le_window
  window_dvd := h.window_dvd
  numSegments_eq := h.numSegments_eq
  window_le := h.window_le
  capping := h.capping
  overstepSpan := h.overstepSpan
  overheadSpan := h.overheadSpan

/-- Exact rational arithmetic with Go's rules for `math.Round` (half away from zero) and for
`uint64(x)` (truncation, `0` below zero): a `float64` without rounding error. -/
def ratArith : Float64Arith ℚ where
  ofUInt64 n := n.toNat
  toUInt64 x := UInt64.ofNat ⌊x⌋.toNat
  mul x y := x * y
  add x y := x + y
  round x := if x < 0 then -⌊-x + 1 / 2⌋ else ⌊x + 1 / 2⌋
  lt x y := decide (x < y)
  ge x y := decide (y ≤ x)
  zero := 0
  one := 1
  half := 1 / 2

theorem ratArith_spanRounding : ratArith.SpanRounding := by
  intro d n hpos hle hn
  simp only [ratArith, decide_eq_true_eq, decide_eq_false_iff_not, not_lt] at hpos hle ⊢
  have hx : 0 ≤ d * (n.toNat : ℚ) := by positivity
  have hxn : d * (n.toNat : ℚ) ≤ n.toNat := mul_le_of_le_one_left (by positivity) hle
  rw [if_neg (not_lt.mpr hx), Int.floor_intCast]
  have hfl : ⌊d * (n.toNat : ℚ) + 1 / 2⌋ ≤ n.toNat := Int.floor_le_iff.mpr (by push_cast; linarith)
  have hm : ⌊d * (n.toNat : ℚ) + 1 / 2⌋.toNat ≤ n.toNat := Int.toNat_le.mpr hfl
  rw [u64_toNat_ofNat_of_lt (by omega)]
  exact hm

theorem ratArith_defaultCap : ratArith.toUInt64 (ratArith.mul (ratArith.ofUInt64 100)
    (ratArith.add ratArith.one ratArith.half)) = 150 := by
  show UInt64.ofNat ⌊((100 : Nat) : ℚ) * (1 + 1 / 2)⌋.toNat = 150
  norm_num
  rfl

/-! ## Helper lemmas: inverting early returns -/

theorem except_bind_eq_ok {ε α β : Type} {x : Except ε α} {f : α → Except ε β} {b : β} :
    x.bind f = .ok b ↔ ∃ a, x = .ok a ∧ f a = .ok b := by
  cases x <;> simp [Except.bind]

theorem ite_error_eq_ok {ε α : Type} {c : Prop} [Decidable c] {e : ε} {x : Except ε α} {b : α}
    (h : (if c then Except.error e else x) = .ok b) : ¬c ∧ x = .ok b := by
  by_cases hc : c
  · rw [if_pos hc] at h
    cases h
  · rw [if_neg hc] at h
    exact ⟨hc, h⟩

theorem except_bind_eq_error {ε α β : Type} {x : Except ε α} {f : α → Except ε β} {e : ε} :
    x.bind f = .error e ↔ x = .error e ∨ ∃ a, x = .ok a ∧ f a = .error e := by
  cases x <;> simp [Except.bind]

theorem except_map_eq_ok {ε α β : Type} {x : Except ε α} {f : α → β} {b : β} :
    x.map f = .ok b ↔ ∃ a, x = .ok a ∧ f a = b := by
  cases x <;> simp [Except.map]

theorem ite_error_eq_error {ε α : Type} {c : Prop} [Decidable c] {e' e : ε} {x : Except ε α}
    (h : (if c then Except.error e' else x) = .error e) : e = e' ∨ ¬c ∧ x = .error e := by
  by_cases hc : c
  · rw [if_pos hc] at h
    cases h
    exact .inl rfl
  · rw [if_neg hc] at h
    exact .inr ⟨hc, h⟩

theorem intToUint64_natCast_toNat {n : Nat} (h : n < 2 ^ 64) : (intToUint64 n).toNat = n := by
  unfold intToUint64
  rw [Int.emod_eq_of_lt (by omega) (by omega), Int.toNat_ofNat]
  exact u64_toNat_ofNat_of_lt h

theorem durationMilliseconds_of_pos {d : Int} (h : 0 < durationMilliseconds d) :
    0 ≤ d ∧ durationMilliseconds d = d / 1000000 := by
  have hd : 0 ≤ d := by
    by_contra hd
    have hneg : 0 ≤ (-d).tdiv 1000000 := Int.tdiv_nonneg (by omega) (by decide)
    rw [Int.neg_tdiv] at hneg
    unfold durationMilliseconds at h
    omega
  exact ⟨hd, Int.tdiv_eq_ediv hd (by decide)⟩

/-- Within the `int64` range, the picked segment is a twentieth of the window, in whole
milliseconds, and the window is a positive multiple of `20`. -/
theorem pickSegmentSize_eq_ok {w : Int} {d : Duration} (hw : w ≤ 9223372036854)
    (h : pickSegmentSize (F := F) w = .ok d) :
    0 < w ∧ w % 20 = 0 ∧ durationMilliseconds d = w / 20 := by
  dsimp only [pickSegmentSize] at h
  split_ifs at h with h0 h20 h1
  cases h
  have hw0 : 0 ≤ w := by omega
  rw [Int.tmod_eq_emod hw0 (by decide)] at h20
  rw [Int.tdiv_eq_ediv hw0 (by decide)] at h1 ⊢
  rw [wrapInt64_of_mem (by omega) (by omega), durationMilliseconds,
    Int.tdiv_eq_ediv (by omega) (by decide)]
  omega

theorem windowSegmentSizeMillis_pos {config : Config F} {w millis : Int}
    (hw : w ≤ 9223372036854) (h : windowSegmentSizeMillis config w = .ok millis) :
    0 < millis := by
  dsimp only [windowSegmentSizeMillis] at h
  split_ifs at h with hzero hneg
  · cases hp : pickSegmentSize (F := F) w with
    | error e => rw [hp] at h; cases h
    | ok d =>
        rw [hp] at h
        cases h
        obtain ⟨hw0, hw20, hd⟩ := pickSegmentSize_eq_ok hw hp
        show 0 < durationMilliseconds d
        omega
  · cases h
    omega

theorem checkPenaltyFactors_eq_ok {factorName distributionFactorName : String}
    {factor distributionFactor : F} {u : Unit}
    (h : checkPenaltyFactors ops factorName distributionFactorName factor distributionFactor =
      .ok u) :
    ops.lt ops.one distributionFactor = false := by
  unfold checkPenaltyFactors at h
  split_ifs at h with h1 h2
  simp only [Bool.or_eq_true, not_or, Bool.not_eq_true] at h2
  exact h2.2

theorem penaltySegmentSpan_bounds {d : F} {n : UInt64} (hround : ops.SpanRounding)
    (hd : ops.lt ops.one d = false) (hn : 1 ≤ n.toNat) (hn' : n.toNat < 2 ^ 53) :
    1 ≤ (penaltySegmentSpan ops d n).toNat ∧ (penaltySegmentSpan ops d n).toNat ≤ n.toNat := by
  dsimp only [penaltySegmentSpan]
  by_cases hpos : ops.lt ops.zero d = true
  · rw [if_pos hpos]
    have hle := hround d n hpos hd hn'
    split_ifs with hspan
    · simp only [u64_toNat_one]
      omega
    · rw [u64_le_iff, u64_toNat_zero] at hspan
      omega
  · rw [if_neg hpos, u64_toNat_one]
    omega

/-- An accepted configuration, read back: its window and segment sizes are `a` and `b` whole
milliseconds with `0 < b ≤ a ≤ 9223372036854` and `a % b = 0`, both distribution factors
passed their range check, and the record holds the sizes, `a / b` segments, capping, and the
spans of the enabled penalties. -/
theorem validateConfiguration_ok_spec {config : Config F} {out : LoadLimiterEffectiveConfig F}
    (hwindow : config.windowSize < 2 ^ 63) (h : validateConfiguration ops config = .ok out) :
    ∃ a b : Nat, windowSegmentSizeMillis config a = .ok b ∧
      0 < config.maxLoad.toNat ∧ 0 < b ∧ b ≤ a ∧ a % b = 0 ∧ a ≤ 9223372036854 ∧
      ops.lt ops.one config.overstepPenaltyDistributionFactor = false ∧
      ops.lt ops.one config.requestOverheadPenaltyDistributionFactor = false ∧
      out.maxLoad = config.maxLoad ∧ out.windowSize = intToUint64 a ∧
      out.windowSegmentSize = intToUint64 b ∧ out.numSegments = intToUint64 ↑(a / b) ∧
      out.applyPenaltyCapping = true ∧
      (out.applyOverstepPenalty = true → out.overstepPenaltySegmentSpan =
        penaltySegmentSpan ops config.overstepPenaltyDistributionFactor out.numSegments) ∧
      (out.applyRequestOverheadPenalty = true → out.requestOverheadPenaltySegmentSpan =
        penaltySegmentSpan ops config.requestOverheadPenaltyDistributionFactor out.numSegments) := by
  dsimp only [validateConfiguration] at h
  obtain ⟨hmax, h⟩ := ite_error_eq_ok h
  obtain ⟨hw, h⟩ := ite_error_eq_ok h
  obtain ⟨-, h⟩ := ite_error_eq_ok h
  obtain ⟨millis, hmillis, h⟩ := except_bind_eq_ok.mp h
  obtain ⟨hover, h⟩ := ite_error_eq_ok h
  obtain ⟨hmul, h⟩ := ite_error_eq_ok h
  obtain ⟨_, hoverstep, h⟩ := except_bind_eq_ok.mp h
  obtain ⟨_, hoverhead, h⟩ := except_bind_eq_ok.mp h
  cases h
  have ⟨hw0, hwms⟩ := durationMilliseconds_of_pos (not_le.mp hw)
  have hwindow' : @LT.lt Int _ config.windowSize (2 ^ 63) := hwindow
  have hwle : durationMilliseconds config.windowSize ≤ 9223372036854 := by omega
  have hm0 := windowSegmentSizeMillis_pos hwle hmillis
  generalize durationMilliseconds config.windowSize = w at *
  obtain ⟨a, rfl⟩ := Int.eq_ofNat_of_zero_le (by omega : 0 ≤ w)
  obtain ⟨b, rfl⟩ := Int.eq_ofNat_of_zero_le hm0.le
  rw [← Int.ofNat_tmod] at hmul
  rw [u64_le_iff, u64_toNat_zero] at hmax
  exact ⟨a, b, hmillis, by omega, by omega, by omega, by omega, by omega,
    checkPenaltyFactors_eq_ok ops hoverstep, checkPenaltyFactors_eq_ok ops hoverhead,
    rfl, rfl, rfl, rfl, rfl, fun happly => if_pos happly, fun happly => if_pos happly⟩

/-- Every configuration `validateConfiguration` accepts meets every invariant of
`EffectiveConfig`: a positive `MaxLoad`, a window of at most `2^63 / 10^6` milliseconds cut
into a whole number `NumSegments` of positive segments, capping on, and every enabled
penalty span between `1` and `NumSegments`. -/
theorem validateConfiguration_valid {config : Config F} {out : LoadLimiterEffectiveConfig F}
    (hround : ops.SpanRounding) (hwindow : config.windowSize < 2 ^ 63)
    (h : validateConfiguration ops config = .ok out) : out.Valid := by
  obtain ⟨a, b, -, hmax, hb, hab, hdvd, hale, hover, hhead, hL, hW, hS, hN, hcap, hos, hrs⟩ :=
    validateConfiguration_ok_spec ops hwindow h
  have hquot : a / b ≤ a := Nat.div_le_self a b
  have hW' : out.windowSize.toNat = a := by rw [hW, intToUint64_natCast_toNat (by omega)]
  have hS' : out.windowSegmentSize.toNat = b := by rw [hS, intToUint64_natCast_toNat (by omega)]
  have hN' : out.numSegments.toNat = a / b := by rw [hN, intToUint64_natCast_toNat (by omega)]
  have hspan : ∀ {d}, ops.lt ops.one d = false →
      1 ≤ (penaltySegmentSpan ops d out.numSegments).toNat ∧
        (penaltySegmentSpan ops d out.numSegments).toNat ≤ out.numSegments.toNat := fun hd =>
    penaltySegmentSpan_bounds ops hround hd (by rw [hN']; exact Nat.div_pos hab hb) (by omega)
  exact ⟨hL ▸ hmax, by omega, by omega, by rw [hW', hS']; exact hdvd, by rw [hN', hW', hS'],
    by omega, hcap, fun happly => hos happly ▸ hspan hover, fun happly => hrs happly ▸ hspan hhead⟩

/-- The test suite's `buildInstance` configuration (`MaxLoad` 100, a 10 s window of 1 s
segments, no penalty factors) is accepted with the default cap of 150. -/
theorem validateConfiguration_valid_buildInstance :
    ratArith.SpanRounding ∧ (10000000000 : Duration) < 2 ^ 63 ∧
      validateConfiguration ratArith ⟨100, 10000000000, 1000000000, 0, 0, 0, 0, 0, false⟩ =
        .ok ⟨100, 10000, 1000, 10, false, false, 0, 0, false, 0, 0, true, 150⟩ ∧
      LoadLimiterEffectiveConfig.Valid
        (⟨100, 10000, 1000, 10, false, false, 0, 0, false, 0, 0, true, 150⟩ :
          LoadLimiterEffectiveConfig ℚ) :=
  have hok : validateConfiguration ratArith ⟨100, 10000000000, 1000000000, 0, 0, 0, 0, 0, false⟩ =
      .ok ⟨100, 10000, 1000, 10, false, false, 0, 0, false, 0, 0, true, 150⟩ := by
    simp only [validateConfiguration, ratArith_defaultCap]
    rfl
  ⟨ratArith_spanRounding, by decide, hok,
    validateConfiguration_valid ratArith ratArith_spanRounding (by decide) hok⟩

/-! ## Segments picked from the window -/

/-- Left at zero, the segment size cuts every accepted window into exactly `20` segments, as
`Config` documents. -/
theorem validateConfiguration_default_segments {config : Config F}
    {out : LoadLimiterEffectiveConfig F} (hwindow : config.windowSize < 2 ^ 63)
    (hzero : config.windowSegmentSize = 0) (h : validateConfiguration ops config = .ok out) :
    out.numSegments = 20 ∧ out.windowSegmentSize.toNat * 20 = out.windowSize.toNat := by
  obtain ⟨a, b, hmillis, -, -, -, -, hale, -, -, -, hW, hS, hN, -⟩ :=
    validateConfiguration_ok_spec ops hwindow h
  rw [windowSegmentSizeMillis, if_pos hzero] at hmillis
  obtain ⟨d, hd, hdb⟩ := except_map_eq_ok.mp hmillis
  obtain ⟨hpos, h20, hms⟩ := pickSegmentSize_eq_ok (by omega) hd
  have hb : b = a / 20 := by omega
  have hquot : a / b = 20 := Nat.div_eq_of_eq_mul_left (by omega) (by omega)
  refine ⟨by rw [hN, hquot]; rfl, ?_⟩
  rw [hS, hW, intToUint64_natCast_toNat (by omega), intToUint64_natCast_toNat (by omega)]
  omega

/-- A 10 s window with no segment size is cut into twenty 500 ms segments. -/
theorem validateConfiguration_default_segments_tenSeconds :
    (10000000000 : Duration) < 2 ^ 63 ∧
      validateConfiguration ratArith ⟨100, 10000000000, 0, 0, 0, 0, 0, 0, false⟩ =
        .ok ⟨100, 10000, 500, 20, false, false, 0, 0, false, 0, 0, true, 150⟩ ∧
      (20 : UInt64) = 20 ∧ (500 : UInt64).toNat * 20 = (10000 : UInt64).toNat :=
  have hok : validateConfiguration ratArith ⟨100, 10000000000, 0, 0, 0, 0, 0, 0, false⟩ =
      .ok ⟨100, 10000, 500, 20, false, false, 0, 0, false, 0, 0, true, 150⟩ := by
    simp only [validateConfiguration, ratArith_defaultCap]
    rfl
  ⟨by decide, hok, validateConfiguration_default_segments ratArith (by decide) rfl hok⟩

theorem pickSegmentSize_eq_error {w : Int} {e : ConfigError F} (hw : 0 < w)
    (h : pickSegmentSize w = .error e) : e = .notDivisibleInSegments := by
  dsimp only [pickSegmentSize] at h
  split_ifs at h with h0 h20 h1
  · omega
  · cases h
    rfl
  · rw [Int.tmod_eq_emod hw.le (by decide)] at h20
    rw [Int.tdiv_eq_ediv hw.le (by decide)] at h1
    omega

theorem windowSegmentSizeMillis_eq_error {config : Config F} {w : Int} {e : ConfigError F}
    (hw : 0 < w) (h : windowSegmentSizeMillis config w = .error e) :
    e = .notDivisibleInSegments ∨ ∃ given, e = .segmentTooSmall given := by
  dsimp only [windowSegmentSizeMillis] at h
  split_ifs at h
  · cases hp : pickSegmentSize (F := F) w with
    | error e' =>
        rw [hp] at h
        cases h
        exact .inl (pickSegmentSize_eq_error hw hp)
    | ok d =>
        rw [hp] at h
        cases h
  · cases h
    exact .inr ⟨_, rfl⟩

theorem checkPenaltyFactors_eq_error {factorName distributionFactorName : String}
    {factor distributionFactor : F} {e : ConfigError F}
    (h : checkPenaltyFactors ops factorName distributionFactorName factor distributionFactor =
      .error e) :
    e = .negativeFactor factorName factor ∨
      e = .distributionOutOfRange distributionFactorName distributionFactor := by
  unfold checkPenaltyFactors at h
  split_ifs at h <;> cases h
  · exact .inl rfl
  · exact .inr rfl

/-- `pickSegmentSize`'s first and third checks are dead code: `validateConfiguration` calls it
only on a positive window, and a positive multiple of `20` has a positive twentieth, so
neither error ever reaches a caller. -/
theorem validateConfiguration_ne_pickSegmentSize_guards {config : Config F} {e : ConfigError F}
    (h : validateConfiguration ops config = .error e) :
    e ≠ .negativeDuration ∧ e ≠ .windowTooSmall := by
  dsimp only [validateConfiguration] at h
  rcases ite_error_eq_error h with rfl | ⟨-, h⟩
  · simp
  rcases ite_error_eq_error h with rfl | ⟨hw, h⟩
  · simp
  rcases ite_error_eq_error h with rfl | ⟨-, h⟩
  · simp
  rcases except_bind_eq_error.mp h with h | ⟨millis, -, h⟩
  · rcases windowSegmentSizeMillis_eq_error (not_le.mp hw) h with rfl | ⟨given, rfl⟩ <;> simp
  rcases ite_error_eq_error h with rfl | ⟨-, h⟩
  · simp
  rcases ite_error_eq_error h with rfl | ⟨-, h⟩
  · simp
  rcases except_bind_eq_error.mp h with h | ⟨_, -, h⟩
  · rcases checkPenaltyFactors_eq_error ops h with rfl | rfl <;> simp
  rcases except_bind_eq_error.mp h with h | ⟨_, -, h⟩
  · rcases checkPenaltyFactors_eq_error ops h with rfl | rfl <;> simp
  · cases h

/-- A 1010 ms window with no segment size fails the divisibility check. -/
theorem validateConfiguration_ne_pickSegmentSize_guards_oddWindow :
    validateConfiguration ratArith ⟨100, 1010000000, 0, 0, 0, 0, 0, 0, false⟩ =
        .error .notDivisibleInSegments ∧
      ConfigError.notDivisibleInSegments (F := ℚ) ≠ .negativeDuration ∧
      ConfigError.notDivisibleInSegments (F := ℚ) ≠ .windowTooSmall :=
  have herr : validateConfiguration ratArith ⟨100, 1010000000, 0, 0, 0, 0, 0, 0, false⟩ =
      .error .notDivisibleInSegments := rfl
  ⟨herr, validateConfiguration_ne_pickSegmentSize_guards ratArith herr⟩

end Valid

end LoadLimiter
