import LoadLimiter.Window.Rotate
import LoadLimiter.Window.Capping
import LoadLimiter.Window.RetryIn

/-! # The standalone limiter

`probe`, `acceptLoad`, `rejectLoad` and the tasks that `Probe` and `Submit` run for one
tenant (without a sync adapter `withSyncTransaction` only runs the task). A sequence of
calls on one tenant is a `Call` list run by `runCalls`.
-/

namespace LoadLimiter

variable (cfg : EffectiveConfig)

/-- `probe`: rotate, then compare `WindowTotal + RequestedLoad` (a wrapping `uint64` sum)
with `MaxLoad`. -/
def probe (req : SubmitRequest) (tenant : TenantData) : Except Panic (TenantData × Bool) := do
  let tenant ← rotateWindow cfg req tenant
  pure (tenant, decide (tenant.windowTotal + req.requestedLoad ≤ cfg.maxLoad))

/-- `acceptLoad`; `Front()` panics on an empty queue. -/
def acceptLoad (req : SubmitRequest) (tenant : TenantData) : Except Panic TenantData :=
  match tenant.windowQueue with
  | [] => .error .emptyDeque
  | currentSegment :: rest =>
      .ok (markDirty (applyCapping cfg req { tenant with
        wasOver := false
        windowTotal := tenant.windowTotal + req.requestedLoad
        windowQueue := { currentSegment with value := currentSegment.value + req.requestedLoad } ::
          rest }))

/-- The penalty step of `rejectLoad`: the new state and the `someAdded` and `dirty` flags. -/
def rejectPenalty (req : SubmitRequest) (tenant : TenantData) :
    Except Panic (TenantData × Bool × Bool) :=
  if !tenant.wasOver then
    if cfg.applyOverstepPenalty then do
      let tenant ← distributePenalty cfg req cfg.absoluteOverstepPenalty
        cfg.overstepPenaltySegmentSpan tenant
      pure ({ tenant with wasOver := true }, true, true)
    else pure ({ tenant with wasOver := true }, false, true)
  else if cfg.applyRequestOverheadPenalty then
    match cfg.requestOverheadPenalty req.requestedLoad with
    | some penalty => do
        let tenant ← distributePenalty cfg req penalty cfg.requestOverheadPenaltySegmentSpan tenant
        pure (tenant, true, true)
    | none => pure (tenant, false, false)
  else pure (tenant, false, false)

/-- The result of `rejectLoad` once the state is settled. -/
def rejectResult (req : SubmitRequest) (tenant : TenantData) : Except Panic SubmitResult :=
  if cfg.skipRetryInComputing then
    pure { accepted := false, retryInAvailable := false, retryIn := 0 }
  else do
    match ← computeRetryIn cfg req tenant with
    | .ok retryIn => pure { accepted := false, retryInAvailable := true, retryIn := retryIn }
    | .error _ => pure { accepted := false, retryInAvailable := false, retryIn := 0 }

def rejectLoad (req : SubmitRequest) (tenant : TenantData) :
    Except Panic (TenantData × SubmitResult) := do
  let (tenant, someAdded, dirty) ← rejectPenalty cfg req tenant
  let tenant := if someAdded then applyCapping cfg req tenant else tenant
  let tenant := if dirty then markDirty tenant else tenant
  let result ← rejectResult cfg req tenant
  pure (tenant, result)

/-- The task of `Probe` at clock `t`. -/
def Probe (t load : UInt64) (tenant : TenantData) : Except Panic (TenantData × Bool) :=
  probe cfg (buildLoadRequest cfg t load) tenant

/-- The task of `Submit` at clock `t`. -/
def Submit (t load : UInt64) (tenant : TenantData) :
    Except Panic (TenantData × SubmitResult) := do
  let req := buildLoadRequest cfg t load
  let (tenant, admissible) ← probe cfg req tenant
  if admissible then
    let tenant ← acceptLoad cfg req tenant
    pure (tenant, { accepted := true, retryInAvailable := false, retryIn := 0 })
  else rejectLoad cfg req tenant

/-! ## Runs of calls on one tenant -/

/-- A call on one tenant, with the clock reading it is served at. -/
inductive Call where
  | probe (timestamp load : UInt64)
  | submit (timestamp load : UInt64)
deriving DecidableEq, Repr

def Call.timestamp : Call → UInt64
  | .probe t _ => t
  | .submit t _ => t

def Call.load : Call → UInt64
  | .probe _ load => load
  | .submit _ load => load

/-- What a call answers: `Probe`'s flag or `Submit`'s result. -/
inductive CallResult where
  | probed (admissible : Bool)
  | submitted (result : SubmitResult)
deriving DecidableEq, Repr

def step : Call → TenantData → Except Panic (TenantData × CallResult)
  | .probe t load, tenant => do
      let (tenant, admissible) ← Probe cfg t load tenant
      pure (tenant, .probed admissible)
  | .submit t load, tenant => do
      let (tenant, result) ← Submit cfg t load tenant
      pure (tenant, .submitted result)

def runCalls : List Call → TenantData → Except Panic (TenantData × List CallResult)
  | [], tenant => .ok (tenant, [])
  | call :: calls, tenant => do
      let (tenant, result) ← step cfg call tenant
      let (tenant, results) ← runCalls calls tenant
      pure (tenant, result :: results)

end LoadLimiter
