import LoadLimiter.Window.Distribute

/-! # Window rotation

`rotateWindow` of `window.go`. Run before every probe: it leaves the queue with a front
segment at the request's segment start `S` and without segments starting at or before
`t - WindowSize`. Segments ahead of `S` (a peer's clock running ahead) are popped and
their load is put back into the segment at `S`.
-/

namespace LoadLimiter

/-- The early return of `rotateWindow`: the queue is non-empty, its front starts at `S` and
its back after `removeBefore`. -/
def rotationNotNeeded (latestSegmentTime removeBefore : UInt64) :
    List WindowSegment → Bool
  | [] => false
  | front :: rest =>
      front.startTime == latestSegmentTime &&
        decide (removeBefore < ((front :: rest).getLast (List.cons_ne_nil _ _)).startTime)

/-- The future-segment loop of `rotateWindow`: pops front segments starting after `S`,
adding their load to `removedLoadToRestore` and taking it off `WindowTotal`. On a queue
whose front does not start after `S` it changes nothing, which is the loop's guard. -/
def popFutureSegments (latestSegmentTime : UInt64) :
    List WindowSegment → UInt64 → UInt64 → List WindowSegment × UInt64 × UInt64
  | [], removedLoadToRestore, total => ([], removedLoadToRestore, total)
  | frontBucket :: rest, removedLoadToRestore, total =>
      if frontBucket.startTime ≤ latestSegmentTime then
        (frontBucket :: rest, removedLoadToRestore, total)
      else
        popFutureSegments latestSegmentTime rest (removedLoadToRestore + frontBucket.value)
          (total - frontBucket.value)

/-- The eviction loop of `rotateWindow`, on the queue read from its back (oldest first):
pops while the oldest segment starts at or before `removeBefore`. -/
def evictOldSegments (removeBefore : UInt64) :
    List WindowSegment → UInt64 → List WindowSegment × UInt64
  | [], total => ([], total)
  | oldest :: rest, total =>
      if oldest.startTime ≤ removeBefore then evictOldSegments removeBefore rest (total - oldest.value)
      else (oldest :: rest, total)

/-- The front-segment step of `rotateWindow`: push an empty segment at `S` unless the front
already starts there; the flag records the push. -/
def ensureFrontSegment (latestSegmentTime : UInt64) :
    List WindowSegment → List WindowSegment × Bool
  | [] => ([⟨latestSegmentTime, 0⟩], true)
  | front :: rest =>
      if front.startTime = latestSegmentTime then (front :: rest, false)
      else (⟨latestSegmentTime, 0⟩ :: front :: rest, true)

/-- The eviction step of `rotateWindow`, run only when the queue holds more than one
segment; the flag records a pop. -/
def evictStep (removeBefore : UInt64) (queue : List WindowSegment) (total : UInt64) :
    List WindowSegment × UInt64 × Bool :=
  if 1 < queue.length then
    let (oldestFirst, total) := evictOldSegments removeBefore queue.reverse total
    (oldestFirst.reverse, total, decide (oldestFirst.length < queue.length))
  else (queue, total, false)

variable (cfg : EffectiveConfig)

def rotateWindow (req : SubmitRequest) (tenant : TenantData) : Except Panic TenantData :=
  let latestSegmentTime := req.requestSegmentStartTime
  if rotationNotNeeded latestSegmentTime (latestSegmentTime - cfg.windowSize)
      tenant.windowQueue then .ok tenant
  else
    let (queue, removedLoadToRestore, total) :=
      popFutureSegments latestSegmentTime tenant.windowQueue 0 tenant.windowTotal
    let (queue, pushed) := ensureFrontSegment latestSegmentTime queue
    let (queue, total, evicted) :=
      evictStep (req.requestedTimestamp - cfg.windowSize) queue total
    let tenant := { tenant with windowQueue := queue, windowTotal := total }
    do
      let tenant ← if 0 < removedLoadToRestore then
          distributePenalty cfg req removedLoadToRestore 1 tenant
        else pure tenant
      pure (if pushed || evicted || decide (0 < removedLoadToRestore) then markDirty tenant
        else tenant)

/-- The path of `rotateWindow` past its early return. -/
def rotateWindowFull (req : SubmitRequest) (tenant : TenantData) : Except Panic TenantData :=
  let latestSegmentTime := req.requestSegmentStartTime
  let (queue, removedLoadToRestore, total) :=
    popFutureSegments latestSegmentTime tenant.windowQueue 0 tenant.windowTotal
  let (queue, pushed) := ensureFrontSegment latestSegmentTime queue
  let (queue, total, evicted) :=
    evictStep (req.requestedTimestamp - cfg.windowSize) queue total
  let tenant := { tenant with windowQueue := queue, windowTotal := total }
  do
    let tenant ← if 0 < removedLoadToRestore then
        distributePenalty cfg req removedLoadToRestore 1 tenant
      else pure tenant
    pure (if pushed || evicted || decide (0 < removedLoadToRestore) then markDirty tenant
      else tenant)

theorem rotateWindow_eq_full (req : SubmitRequest) (tenant : TenantData) :
    rotateWindow cfg req tenant =
      if rotationNotNeeded req.requestSegmentStartTime
          (req.requestSegmentStartTime - cfg.windowSize) tenant.windowQueue then .ok tenant
      else rotateWindowFull cfg req tenant :=
  rfl

end LoadLimiter
