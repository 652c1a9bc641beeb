import LoadLimiter.Window.State

/-! # Retry-in computation

`computeRetryIn` of `window.go`: how long until enough of the oldest load leaves the window
for the request to fit. `toFree` is an `int64` in the source and is kept in the `int64`
range after every operation.
-/

namespace LoadLimiter

/-- The two errors `computeRetryIn` returns (their texts are only logged). -/
inductive RetryInError where
  | excessiveLoad
  | inconsistentQueueData
deriving DecidableEq, Repr

/-- The loop of `computeRetryIn`, over the queue read from its back (oldest first): while
`toFree > 0`, subtract each positive value and remember the start time of the segment. -/
def retryInScan : List WindowSegment → Int → UInt64 → Int × UInt64
  | [], toFree, mostRecentSegmentRemovalTime => (toFree, mostRecentSegmentRemovalTime)
  | segment :: rest, toFree, mostRecentSegmentRemovalTime =>
      if 0 < toFree then
        retryInScan rest
          (if 0 < segment.value then wrapInt64 (toFree - segment.value.toNat) else toFree)
          segment.startTime
      else (toFree, mostRecentSegmentRemovalTime)

/-- The panic message of `computeRetryIn`. -/
def inconsistentMinSegmentAvailTime : String :=
  "inconsistent minSegmentAvailTime result from computing RetryIn (< load request time)"

/-- `computeRetryIn`: a panic, or the `(time.Duration, error)` pair as an `Except`. -/
def computeRetryIn (cfg : EffectiveConfig) (req : SubmitRequest) (tenant : TenantData) :
    Except Panic (Except RetryInError Duration) :=
  if cfg.maxLoad < req.requestedLoad then .ok (.error .excessiveLoad)
  else
    let toFree := wrapInt64 (req.requestedLoad.toNat + tenant.windowTotal.toNat - cfg.maxLoad.toNat)
    if toFree ≤ 0 then .ok (.ok 0)
    else
      let (toFree, mostRecentSegmentRemovalTime) := retryInScan tenant.windowQueue.reverse toFree 0
      if mostRecentSegmentRemovalTime = 0 ∨ 0 < toFree then .ok (.error .inconsistentQueueData)
      else
        let minSegmentAvailTime := mostRecentSegmentRemovalTime + cfg.windowSize
        if minSegmentAvailTime < req.requestedTimestamp then
          .error (.message inconsistentMinSegmentAvailTime)
        else .ok (.ok (millisecondsDuration (minSegmentAvailTime - req.requestedTimestamp)))

end LoadLimiter
