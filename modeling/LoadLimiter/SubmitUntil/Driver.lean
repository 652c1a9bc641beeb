import LoadLimiter.Window.State

/-! # The retry driver

`submitUntil` of `loadLimiterDefaultImpl` and of `compositeLoadLimiterDefaultImpl`: submit the
load, and while it is rejected with a positive hint that fits before the deadline, sleep for
the hint and submit again. The driver reads its instance only through the injected clock, the
instance's `Submit` and the injected sleep, given as a `RetryEnv` over whatever state they act
on; the clock reads a `time.Time` as integer nanoseconds.

Go's `for {}` has no bound. The loop here takes a fuel of attempts and answers `none` when it
runs out; on an instance whose clock never goes backwards, whose sleep advances the clock by at
least its duration, and whose positive hints are at least a millisecond, the time left before
`timeoutAt` bounds the attempts, and `timeout / 1ms + 1` attempts of fuel always suffice.
-/

namespace LoadLimiter

/-- The `Error` of a `SubmitUntilResult`: the wrapped `Submit` error, `LoadRequestRejected`
with its reason, or `LoadRequestTimeout`. -/
inductive SubmitUntilError (ε : Type) where
  | submitting (err : ε)
  | rejected (reason : String)
  | timeout (waitedFor : Duration) (attemptsNumber : Nat)
deriving DecidableEq, Repr

structure SubmitUntilResult (ε : Type) where
  attemptsNumber : Nat
  waitedFor : Duration
  error : Option (SubmitUntilError ε)
deriving DecidableEq, Repr

/-- What `submitUntil` reads from its instance: `currentTime()` in nanoseconds,
`Submit(tenantKey, load)` (a panic, or the new state with the result or the error), and
`sleep(d)`. -/
structure RetryEnv (σ ε : Type) where
  now : σ → Int
  submit : σ → Except Panic (σ × Except ε SubmitResult)
  sleep : Duration → σ → σ

variable {σ ε : Type} (env : RetryEnv σ ε)

/-- The `for` loop of `loadLimiterDefaultImpl.submitUntil`, with `fuel` attempts left. -/
def submitUntilLoop (skipRetryInComputing : Bool) (timeoutAt : Int) :
    Nat → SubmitUntilResult ε → σ → Option (Except Panic (SubmitUntilResult ε × σ))
  | 0, _, _ => none
  | fuel + 1, out, s =>
      let out := { out with attemptsNumber := out.attemptsNumber + 1 }
      match env.submit s with
      | .error p => some (.error p)
      | .ok (s, .error err) => some (.ok ({ out with error := some (.submitting err) }, s))
      | .ok (s, .ok submitResult) =>
          if submitResult.accepted then some (.ok (out, s))
          else if skipRetryInComputing then
            some (.ok ({ out with error := some (.rejected "retry not supported") }, s))
          else if !submitResult.retryInAvailable || decide (submitResult.retryIn ≤ 0) then
            some (.ok ({ out with error := some (.rejected "excessive requested load") }, s))
          else if timeoutAt < env.now s + submitResult.retryIn then
            some (.ok ({ out with error := some (.timeout out.waitedFor out.attemptsNumber) }, s))
          else
            submitUntilLoop skipRetryInComputing timeoutAt fuel
              { out with waitedFor := out.waitedFor + submitResult.retryIn }
              (env.sleep submitResult.retryIn s)

/-- `loadLimiterDefaultImpl.submitUntil`, from the state `s` the call starts in. -/
def submitUntil (cfg : EffectiveConfig) (timeout : Duration) (fuel : Nat) (s : σ) :
    Option (Except Panic (SubmitUntilResult ε × σ)) :=
  let t := env.now s
  let out : SubmitUntilResult ε := { attemptsNumber := 0, waitedFor := 0, error := none }
  if timeout < 0 then some (.ok ({ out with error := some (.rejected "invalid timeout") }, s))
  else submitUntilLoop env cfg.skipRetryInComputing (t + timeout) fuel out s

/-- The `for` loop of `compositeLoadLimiterDefaultImpl.submitUntil`, which has no
`SkipRetryInComputing` check. -/
def compositeSubmitUntilLoop (timeoutAt : Int) :
    Nat → SubmitUntilResult ε → σ → Option (Except Panic (SubmitUntilResult ε × σ))
  | 0, _, _ => none
  | fuel + 1, out, s =>
      let out := { out with attemptsNumber := out.attemptsNumber + 1 }
      match env.submit s with
      | .error p => some (.error p)
      | .ok (s, .error err) => some (.ok ({ out with error := some (.submitting err) }, s))
      | .ok (s, .ok submitResult) =>
          if submitResult.accepted then some (.ok (out, s))
          else if !submitResult.retryInAvailable || decide (submitResult.retryIn ≤ 0) then
            some (.ok ({ out with error := some (.rejected "excessive requested load") }, s))
          else if timeoutAt < env.now s + submitResult.retryIn then
            some (.ok ({ out with error := some (.timeout out.waitedFor out.attemptsNumber) }, s))
          else
            compositeSubmitUntilLoop timeoutAt fuel
              { out with waitedFor := out.waitedFor + submitResult.retryIn }
              (env.sleep submitResult.retryIn s)

def compositeSubmitUntil (timeout : Duration) (fuel : Nat) (s : σ) :
    Option (Except Panic (SubmitUntilResult ε × σ)) :=
  let t := env.now s
  let out : SubmitUntilResult ε := { attemptsNumber := 0, waitedFor := 0, error := none }
  if timeout < 0 then some (.ok ({ out with error := some (.rejected "invalid timeout") }, s))
  else compositeSubmitUntilLoop env (t + timeout) fuel out s

theorem compositeSubmitUntilLoop_eq (timeoutAt : Int) (fuel : Nat) (out : SubmitUntilResult ε)
    (s : σ) :
    compositeSubmitUntilLoop env timeoutAt fuel out s =
      submitUntilLoop env false timeoutAt fuel out s := by
  induction fuel generalizing out s with
  | zero => rfl
  | succ fuel ih =>
      simp only [compositeSubmitUntilLoop, submitUntilLoop, ih, Bool.false_eq_true, if_false]


/-! ## One attempt -/

/-- One attempt of the loop: it ends the call, with a panic or with a result counting the
attempt, whose `Error` is nil exactly when the attempt was accepted; or it was rejected with a
positive hint that fits before `timeoutAt`, and the loop goes on after sleeping for it. -/
theorem submitUntilLoop_succ_cases (skip : Bool) (timeoutAt : Int) (fuel : Nat)
    {out : SubmitUntilResult ε} (he : out.error = none) (s : σ) :
    (∃ r, submitUntilLoop env skip timeoutAt (fuel + 1) out s = some r ∧
      ((∃ p, env.submit s = .error p ∧ r = .error p) ∨
        ∃ s' o out', env.submit s = .ok (s', o) ∧ r = .ok (out', s') ∧
          out'.attemptsNumber = out.attemptsNumber + 1 ∧ out'.waitedFor = out.waitedFor ∧
          (out'.error = none ↔ ∃ sr, o = .ok sr ∧ sr.accepted = true))) ∨
    ∃ s' sr, env.submit s = .ok (s', .ok sr) ∧ sr.accepted = false ∧ skip = false ∧
      sr.retryInAvailable = true ∧ 0 < sr.retryIn ∧ env.now s' + sr.retryIn ≤ timeoutAt ∧
      submitUntilLoop env skip timeoutAt (fuel + 1) out s =
        submitUntilLoop env skip timeoutAt fuel
          { out with attemptsNumber := out.attemptsNumber + 1,
                     waitedFor := out.waitedFor + sr.retryIn }
          (env.sleep sr.retryIn s') := by
  rw [submitUntilLoop]
  rcases hs : env.submit s with p | ⟨s', o⟩
  · exact .inl ⟨_, rfl, .inl ⟨p, rfl, rfl⟩⟩
  rcases o with err | sr
  · exact .inl ⟨_, rfl, .inr ⟨s', _, _, rfl, rfl, rfl, rfl, by simp⟩⟩
  dsimp only
  by_cases ha : sr.accepted = true
  · rw [if_pos ha]
    exact .inl ⟨_, rfl, .inr ⟨s', _, _, rfl, rfl, rfl, rfl, by simp [ha, he]⟩⟩
  rw [if_neg ha]
  by_cases hk : skip = true
  · rw [if_pos hk]
    exact .inl ⟨_, rfl, .inr ⟨s', _, _, rfl, rfl, rfl, rfl, by simp [ha]⟩⟩
  rw [if_neg hk]
  by_cases hn : (!sr.retryInAvailable || decide (sr.retryIn ≤ 0)) = true
  · rw [if_pos hn]
    exact .inl ⟨_, rfl, .inr ⟨s', _, _, rfl, rfl, rfl, rfl, by simp [ha]⟩⟩
  rw [if_neg hn]
  by_cases ht : timeoutAt < env.now s' + sr.retryIn
  · rw [if_pos ht]
    exact .inl ⟨_, rfl, .inr ⟨s', _, _, rfl, rfl, rfl, rfl, by simp [ha]⟩⟩
  rw [if_neg ht]
  simp only [Bool.or_eq_true, Bool.not_eq_true', decide_eq_true_eq, not_or, not_le,
    Bool.not_eq_false] at hn
  exact .inr ⟨s', sr, rfl, by simpa using ha, by simpa using hk, hn.1, hn.2, by omega, rfl⟩

variable {env}
variable {skip : Bool} {timeoutAt : Int}

/-! ## Fuel -/

theorem submitUntilLoop_succ_of_eq_some {fuel : Nat} {out : SubmitUntilResult ε} {s : σ}
    {r : Except Panic (SubmitUntilResult ε × σ)}
    (h : submitUntilLoop env skip timeoutAt fuel out s = some r) :
    submitUntilLoop env skip timeoutAt (fuel + 1) out s = some r := by
  induction fuel generalizing out s with
  | zero => cases h
  | succ fuel ih =>
      rw [submitUntilLoop] at h ⊢
      rcases hs : env.submit s with p | ⟨s', err | sr⟩ <;> rw [hs] at h
      · exact h
      · exact h
      dsimp only at h ⊢
      by_cases ha : sr.accepted = true
      · rwa [if_pos ha] at h ⊢
      rw [if_neg ha] at h ⊢
      by_cases hk : skip = true
      · rwa [if_pos hk] at h ⊢
      rw [if_neg hk] at h ⊢
      by_cases hn : (!sr.retryInAvailable || decide (sr.retryIn ≤ 0)) = true
      · rwa [if_pos hn] at h ⊢
      rw [if_neg hn] at h ⊢
      by_cases ht : timeoutAt < env.now s' + sr.retryIn
      · rwa [if_pos ht] at h ⊢
      rw [if_neg ht] at h ⊢
      exact ih h

theorem submitUntilLoop_of_le {fuel fuel' : Nat} {out : SubmitUntilResult ε} {s : σ}
    {r : Except Panic (SubmitUntilResult ε × σ)} (hle : fuel ≤ fuel')
    (h : submitUntilLoop env skip timeoutAt fuel out s = some r) :
    submitUntilLoop env skip timeoutAt fuel' out s = some r := by
  induction hle with
  | refl => exact h
  | step _ ih => exact submitUntilLoop_succ_of_eq_some ih

/-- The assumptions on an instance: `Submit` does not move the clock backwards, `sleep(d)`
moves it forward by at least `d`, and a positive hint is at least a millisecond. -/
structure RetryEnv.Lawful (env : RetryEnv σ ε) : Prop where
  submit_now : ∀ s s' o, env.submit s = .ok (s', o) → env.now s ≤ env.now s'
  sleep_now : ∀ d s, env.now s + d ≤ env.now (env.sleep d s)
  hint : ∀ s s' sr, env.submit s = .ok (s', .ok sr) → sr.retryInAvailable = true →
    0 < sr.retryIn → 1000000 ≤ sr.retryIn

/-- Each sleep moves the clock a millisecond closer to `timeoutAt`, so one attempt per
millisecond left, and one more, is fuel enough. -/
theorem submitUntilLoop_isSome (hl : env.Lawful) :
    ∀ (fuel : Nat) {out : SubmitUntilResult ε} (s : σ), out.error = none →
      timeoutAt - env.now s < (fuel + 1) * 1000000 →
      ∃ r, submitUntilLoop env skip timeoutAt (fuel + 1) out s = some r := by
  intro fuel
  induction fuel with
  | zero =>
      intro out s he hlt
      rcases submitUntilLoop_succ_cases env skip timeoutAt 0 he s with ⟨r, hr, -⟩ |
        ⟨s', sr, hs, -, -, hav, hpos, hfit, -⟩
      · exact ⟨r, hr⟩
      · have := hl.submit_now _ _ _ hs
        have := hl.hint _ _ _ hs hav hpos
        dsimp only [Duration] at *
        omega
  | succ fuel ih =>
      intro out s he hlt
      rcases submitUntilLoop_succ_cases env skip timeoutAt (fuel + 1) he s with ⟨r, hr, -⟩ |
        ⟨s', sr, hs, -, -, hav, hpos, hfit, heq⟩
      · exact ⟨r, hr⟩
      · rw [heq]
        have := hl.submit_now _ _ _ hs
        have := hl.hint _ _ _ hs hav hpos
        have := hl.sleep_now sr.retryIn s'
        dsimp only [Duration] at *
        exact ih _ he (by push_cast at hlt ⊢; omega)

theorem submitUntilLoop_panic :
    ∀ (fuel : Nat) {out : SubmitUntilResult ε} {s : σ} {p : Panic},
      submitUntilLoop env skip timeoutAt fuel out s = some (.error p) → out.error = none →
      ∃ s', env.submit s' = .error p
  | 0, _, _, _, h, _ => by cases h
  | fuel + 1, out, s, p, h, he => by
      rcases submitUntilLoop_succ_cases env skip timeoutAt fuel he s with
        ⟨r, hr, ⟨p', hs, rfl⟩ | ⟨s', o, out', -, rfl, -⟩⟩ | ⟨s', sr, -, -, -, -, -, -, heq⟩
      · rw [hr] at h
        cases h
        exact ⟨s, hs⟩
      · rw [hr] at h
        cases h
      · rw [heq] at h
        exact submitUntilLoop_panic fuel h he

/-! ## What a call has done -/

/-- One interaction of a call with its instance: a `Submit` with what it returned, or a sleep. -/
inductive RetryEvent (ε : Type) where
  | submitted (outcome : Except ε SubmitResult)
  | slept (d : Duration)

namespace RetryEvent

def isAttempt : RetryEvent ε → Bool
  | submitted _ => true
  | slept _ => false

def sleptFor : RetryEvent ε → Duration
  | submitted _ => 0
  | slept d => d

def Retried : RetryEvent ε → Prop
  | submitted (.ok r) => r.accepted = false
  | submitted (.error _) => False
  | slept _ => True

end RetryEvent

def RetryEnv.traced (env : RetryEnv σ ε) : RetryEnv (σ × List (RetryEvent ε)) ε where
  now s := env.now s.1
  submit s := (env.submit s.1).map fun r => ((r.1, s.2 ++ [.submitted r.2]), r.2)
  sleep d s := (env.sleep d s.1, s.2 ++ [.slept d])

theorem RetryEnv.traced_submit_eq_ok {s : σ} {log : List (RetryEvent ε)}
    {x : σ × List (RetryEvent ε)} {o : Except ε SubmitResult} :
    env.traced.submit (s, log) = .ok (x, o) ↔
      ∃ s', env.submit s = .ok (s', o) ∧ x = (s', log ++ [.submitted o]) := by
  simp only [RetryEnv.traced]
  cases env.submit s with
  | error => simp [Except.map]
  | ok r =>
      simp only [Except.map, Except.ok.injEq, Prod.mk.injEq]
      constructor
      · rintro ⟨rfl, rfl⟩; exact ⟨r.1, rfl, rfl⟩
      · rintro ⟨s', rfl, rfl⟩; exact ⟨rfl, rfl⟩

theorem RetryEnv.traced_submit_eq_error {s : σ} {log : List (RetryEvent ε)} {p : Panic}
    (h : env.traced.submit (s, log) = .error p) : env.submit s = .error p := by
  simp only [RetryEnv.traced] at h
  cases hs : env.submit s with
  | error =>
      rw [hs] at h
      cases h
      rfl
  | ok => rw [hs] at h; cases h

theorem RetryEnv.Lawful.traced (hl : env.Lawful) : env.traced.Lawful where
  submit_now := fun ⟨s, log⟩ _ _ h => by
    obtain ⟨s', hs, rfl⟩ := RetryEnv.traced_submit_eq_ok.mp h
    exact hl.submit_now _ _ _ hs
  sleep_now := fun d ⟨s, _⟩ => hl.sleep_now d s
  hint := fun ⟨s, log⟩ _ _ h => by
    obtain ⟨s', hs, rfl⟩ := RetryEnv.traced_submit_eq_ok.mp h
    exact hl.hint _ _ _ hs

/-- What holds at each turn of the loop of a call started at clock `t₀`. -/
structure TurnInv (t₀ timeout : Int) (out : SubmitUntilResult ε) (now : Int)
    (log : List (RetryEvent ε)) : Prop where
  error : out.error = none
  attempts : out.attemptsNumber = log.countP RetryEvent.isAttempt
  waited : out.waitedFor = (log.map RetryEvent.sleptFor).sum
  retried : ∀ e ∈ log, e.Retried
  waited_nonneg : 0 ≤ out.waitedFor
  waited_le_clock : out.waitedFor ≤ now - t₀
  waited_le : out.waitedFor ≤ timeout
  attempts_le : out.attemptsNumber * 1000000 ≤ out.waitedFor

/-- What a call with `timeout ≥ 0` has done when it returns, read from its log: one `Submit`
per attempt, at most one per millisecond of `timeout` and one more; the sleeps sum to
`WaitedFor`, which stays within `timeout`; every `Submit` but the last was rejected, and
`Error` is nil exactly when the last was accepted. -/
structure WithinBudget (timeout : Int) (out : SubmitUntilResult ε)
    (log : List (RetryEvent ε)) : Prop where
  attempts : out.attemptsNumber = log.countP RetryEvent.isAttempt
  attempts_le : out.attemptsNumber ≤ (timeout / 1000000).toNat + 1
  waited : out.waitedFor = (log.map RetryEvent.sleptFor).sum
  waited_nonneg : 0 ≤ out.waitedFor
  waited_le : out.waitedFor ≤ timeout
  last : ∃ earlier o, log = earlier ++ [.submitted o] ∧ (∀ e ∈ earlier, e.Retried) ∧
    (out.error = none ↔ ∃ sr, o = .ok sr ∧ sr.accepted = true)

theorem submitUntilLoop_withinBudget (hl : env.Lawful) {t₀ timeout : Int} :
    ∀ (fuel : Nat) {out out' : SubmitUntilResult ε} {s s' : σ} {log log' : List (RetryEvent ε)},
      TurnInv t₀ timeout out (env.now s) log →
      submitUntilLoop env.traced skip (t₀ + timeout) fuel out (s, log) = some (.ok (out', s', log')) →
      WithinBudget timeout out' log'
  | 0, _, _, _, _, _, _, _, h => by cases h
  | fuel + 1, out, out', s, s', log, log', hi, h => by
      rcases submitUntilLoop_succ_cases env.traced skip (t₀ + timeout) fuel hi.error (s, log) with
        ⟨r, hr, ⟨p, -, rfl⟩ | ⟨x, o, out'', hs, rfl, hatt, hwait, herr⟩⟩ |
        ⟨x, sr, hs, hrej, -, hav, hpos, hfit, heq⟩
      · rw [hr] at h; cases h
      · rw [hr] at h
        obtain ⟨s1, -, rfl⟩ := RetryEnv.traced_submit_eq_ok.mp hs
        cases h
        have := hi.attempts_le
        have := hi.waited_le
        dsimp only [Duration] at *
        refine ⟨by rw [hatt, hi.attempts, List.countP_append]; rfl, by omega,
          by rw [hwait, hi.waited, List.map_append, List.sum_append]; simp [RetryEvent.sleptFor],
          hwait ▸ hi.waited_nonneg, hwait ▸ hi.waited_le, log, o, rfl, hi.retried, herr⟩
      · rw [heq] at h
        obtain ⟨s1, hs1, rfl⟩ := RetryEnv.traced_submit_eq_ok.mp hs
        refine submitUntilLoop_withinBudget hl fuel ?_ h
        have := hl.submit_now _ _ _ hs1
        have := hl.hint _ _ _ hs1 hav hpos
        have := hl.sleep_now sr.retryIn s1
        have := hi.waited_le_clock
        have := hi.attempts_le
        have := hi.waited_nonneg
        simp only [RetryEnv.traced] at hfit ⊢
        dsimp only [Duration] at *
        refine ⟨hi.error, ?_, ?_, ?_, by dsimp only [Duration]; omega,
          by dsimp only [Duration]; omega, by dsimp only [Duration]; omega,
          by dsimp only [Duration]; push_cast; omega⟩
        · simp [hi.attempts, List.countP_append, RetryEvent.isAttempt]
        · simp [hi.waited, RetryEvent.sleptFor]
        · intro e he
          simp only [List.mem_append, List.mem_singleton] at he
          rcases he with (he | rfl) | rfl
          · exact hi.retried e he
          · exact hrej
          · trivial

theorem submitUntilLoop_traced (fuel : Nat) (out : SubmitUntilResult ε) (s : σ)
    (log : List (RetryEvent ε)) :
    (submitUntilLoop env.traced skip timeoutAt fuel out (s, log)).map
        (Except.map fun r => (r.1, r.2.1)) =
      submitUntilLoop env skip timeoutAt fuel out s := by
  induction fuel generalizing out s log with
  | zero => rfl
  | succ fuel ih =>
      rw [submitUntilLoop, submitUntilLoop]
      simp only [RetryEnv.traced]
      rcases env.submit s with p | ⟨s', err | sr⟩
      · rfl
      · rfl
      dsimp only [Except.map]
      by_cases ha : sr.accepted = true
      · rw [if_pos ha, if_pos ha]; rfl
      rw [if_neg ha, if_neg ha]
      by_cases hk : skip = true
      · rw [if_pos hk, if_pos hk]; rfl
      rw [if_neg hk, if_neg hk]
      by_cases hn : (!sr.retryInAvailable || decide (sr.retryIn ≤ 0)) = true
      · rw [if_pos hn, if_pos hn]; rfl
      rw [if_neg hn, if_neg hn]
      by_cases ht : timeoutAt < env.now s' + sr.retryIn
      · rw [if_pos ht, if_pos ht]; rfl
      rw [if_neg ht, if_neg ht]
      exact ih _ _ _

theorem submitUntil_traced (cfg : EffectiveConfig) (timeout : Duration) (fuel : Nat) (s : σ)
    (log : List (RetryEvent ε)) :
    (submitUntil env.traced cfg timeout fuel (s, log)).map (Except.map fun r => (r.1, r.2.1)) =
      submitUntil env cfg timeout fuel s := by
  unfold submitUntil
  split
  · rfl
  · exact submitUntilLoop_traced _ _ _ _

/-- A loop started at `s` with `timeout ≥ 0` returns with `timeout / 1ms + 1` attempts of fuel,
the same at any larger fuel, and within budget. -/
theorem submitUntilLoop_budget (hl : env.Lawful) (skip : Bool) {timeout : Int}
    (ht : 0 ≤ timeout) (s : σ) :
    (∃ r, (∀ fuel, (timeout / 1000000).toNat + 1 ≤ fuel →
      submitUntilLoop env.traced skip (env.now s + timeout) fuel ⟨0, 0, none⟩ (s, []) = some r) ∧
      ∀ p, r = .error p → ∃ s', env.submit s' = .error p) ∧
    ∀ fuel out s' log,
      submitUntilLoop env.traced skip (env.now s + timeout) fuel ⟨0, 0, none⟩ (s, []) =
        some (.ok (out, s', log)) → WithinBudget timeout out log := by
  have hinv : TurnInv (env.now s) timeout (⟨0, 0, none⟩ : SubmitUntilResult ε) (env.now s) [] :=
    ⟨rfl, rfl, rfl, fun _ h => absurd h (List.not_mem_nil _), le_refl _, by simp, ht, by simp⟩
  refine ⟨?_, fun fuel out s' log h => submitUntilLoop_withinBudget hl fuel hinv h⟩
  obtain ⟨r, hr⟩ := @submitUntilLoop_isSome _ _ env.traced skip (env.now s + timeout) hl.traced
    (timeout / 1000000).toNat ⟨0, 0, none⟩ (s, []) rfl (by simp only [RetryEnv.traced]; omega)
  refine ⟨r, fun fuel hf => submitUntilLoop_of_le hf hr, fun p hp => ?_⟩
  obtain ⟨⟨s', log⟩, hs'⟩ := submitUntilLoop_panic _ (hp ▸ hr) rfl
  exact ⟨s', RetryEnv.traced_submit_eq_error hs'⟩

/-- What the retry driver promises for one call on `env`, run with each fuel: it returns with
`timeout / 1ms + 1` attempts of fuel and the same at any larger fuel, and panics only where a
`Submit` panics; a negative timeout is rejected at once, and any other call returns within
budget. -/
structure Budgeted (env : RetryEnv σ ε) (timeout : Int)
    (run : Nat → Option (Except Panic (SubmitUntilResult ε × σ × List (RetryEvent ε)))) :
    Prop where
  terminates : ∃ r, (∀ fuel, (timeout / 1000000).toNat + 1 ≤ fuel → run fuel = some r) ∧
    ∀ p, r = .error p → ∃ s, env.submit s = .error p
  invalid : timeout < 0 → ∀ fuel out s log, run fuel = some (.ok (out, s, log)) →
    out = ⟨0, 0, some (.rejected "invalid timeout")⟩ ∧ log = []
  within : 0 ≤ timeout → ∀ fuel out s log, run fuel = some (.ok (out, s, log)) →
    WithinBudget timeout out log

theorem Budgeted.returns_ok {timeout : Int}
    {run : Nat → Option (Except Panic (SubmitUntilResult ε × σ × List (RetryEvent ε)))}
    (h : Budgeted env timeout run) (hok : ∀ s, ∃ s' o, env.submit s = .ok (s', o))
    (ht : 0 ≤ timeout) :
    ∃ out s log, (∀ fuel, (timeout / 1000000).toNat + 1 ≤ fuel →
      run fuel = some (.ok (out, s, log))) ∧ WithinBudget timeout out log := by
  obtain ⟨r, hrun, hpanic⟩ := h.terminates
  rcases r with p | ⟨out, s, log⟩
  · obtain ⟨s, hs⟩ := hpanic p rfl
    obtain ⟨s', o, hs'⟩ := hok s
    rw [hs] at hs'
    cases hs'
  · exact ⟨out, s, log, hrun, h.within ht _ out s log (hrun _ le_rfl)⟩

theorem budgeted_of_loop {timeout : Duration} {s : σ}
    {run : Nat → Option (Except Panic (SubmitUntilResult ε × σ × List (RetryEvent ε)))}
    (hl : env.Lawful) (skip : Bool)
    (hrun : ∀ fuel, run fuel = if timeout < 0 then
      some (.ok (⟨0, 0, some (.rejected "invalid timeout")⟩, s, []))
      else submitUntilLoop env.traced skip (env.now s + timeout) fuel ⟨0, 0, none⟩ (s, [])) :
    Budgeted env timeout run := by
  by_cases ht : timeout < 0
  · have hr : ∀ fuel, run fuel = some (.ok (⟨0, 0, some (.rejected "invalid timeout")⟩, s, [])) :=
      fun fuel => by rw [hrun, if_pos ht]
    refine ⟨⟨_, fun fuel _ => hr fuel, fun _ h => by cases h⟩, fun _ fuel _ _ _ h => ?_,
      fun h => absurd h (not_le.mpr ht)⟩
    rw [hr] at h
    cases h
    exact ⟨rfl, rfl⟩
  · have hr : ∀ fuel, run fuel =
        submitUntilLoop env.traced skip (env.now s + timeout) fuel ⟨0, 0, none⟩ (s, []) :=
      fun fuel => by rw [hrun, if_neg ht]
    obtain ⟨⟨r, hterm, hpanic⟩, hwithin⟩ := submitUntilLoop_budget hl skip (le_of_not_lt ht) s
    exact ⟨⟨r, fun fuel hf => (hr fuel).trans (hterm fuel hf), hpanic⟩, fun h => absurd h ht,
      fun _ fuel out s' log h => hwithin fuel out s' log ((hr fuel).symm.trans h)⟩

/-- The retry driver, standalone or composite, on an instance whose clock `Submit` never moves
backwards, whose sleep advances the clock by at least the time asked, and whose positive hints
are at least a millisecond. -/
theorem submitUntil_terminates_within_budget (env : RetryEnv σ ε) (hl : env.Lawful)
    (timeout : Duration) (s : σ) :
    (∀ cfg : EffectiveConfig,
        Budgeted env timeout fun fuel => submitUntil env.traced cfg timeout fuel (s, [])) ∧
      Budgeted env timeout fun fuel => compositeSubmitUntil env.traced timeout fuel (s, []) :=
  ⟨fun cfg => @budgeted_of_loop _ _ env timeout s _ hl cfg.skipRetryInComputing fun _ => rfl,
    @budgeted_of_loop _ _ env timeout s _ hl false fun fuel => by
      simp only [compositeSubmitUntil, compositeSubmitUntilLoop_eq]
      rfl⟩

def rejectingEnv : RetryEnv Int Empty where
  now c := c
  submit c := .ok (c, .ok ⟨false, true, 1000000000⟩)
  sleep d c := c + d

theorem rejectingEnv_lawful : rejectingEnv.Lawful where
  submit_now _ _ _ h := by cases h; exact le_refl _
  sleep_now _ _ := le_refl _
  hint _ _ _ h _ _ := by cases h; decide

/-- A call with a timeout of `2.5 s` on that instance returns a result at every fuel from
`2.5 s / 1ms + 1` attempts on, within budget. -/
theorem submitUntil_terminates_within_budget_rejecting :
    ∃ out s log, (∀ fuel, (2500000000 / 1000000 : Int).toNat + 1 ≤ fuel →
      submitUntil rejectingEnv.traced defaultInstanceConfig 2500000000 fuel (0, []) =
        some (.ok (out, s, log))) ∧ WithinBudget 2500000000 out log :=
  ((submitUntil_terminates_within_budget rejectingEnv rejectingEnv_lawful 2500000000
    0).1 defaultInstanceConfig).returns_ok (fun c => ⟨c, _, rfl⟩) (by decide)

/-- Two sleeps of a second fit in `2.5 s`; the third hint would not, so the third attempt
times out without sleeping. -/
example : submitUntil rejectingEnv defaultInstanceConfig 2500000000 3 0 =
    some (.ok (⟨3, 2000000000, some (.timeout 2000000000 3)⟩, 2000000000)) := by
  rfl

end LoadLimiter
