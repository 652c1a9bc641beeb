import LoadLimiter.Window.State

/-! # Latest segments and penalty distribution

`ensureLatestNSegments` and `distributePenalty` of `window.go`. The first makes the `N`
newest aligned segments `S, S - seg, ..., S - (N-1)·seg` the first `N` entries of the
queue, rebuilding it when they are not; the second spreads a penalty over them.
-/

namespace LoadLimiter

variable (cfg : EffectiveConfig)

/-- `latestSegmentTime - (i * WindowSegmentSize)`, the start of the `i`-th newest segment. -/
def latestSegmentStart (latestSegmentTime : UInt64) (i : Nat) : UInt64 :=
  latestSegmentTime - UInt64.ofNat i * cfg.windowSegmentSize

/-- The `validSegments` map of `ensureLatestNSegments` read at `startTime`. The map is
filled from index `0` up, so for a repeated start time the segment nearest the back of
the scanned prefix wins; a miss is the fresh empty segment the rebuild pushes. -/
def cachedSegment (validSegments : List WindowSegment) (startTime : UInt64) : WindowSegment :=
  (validSegments.reverse.find? fun segment => segment.startTime == startTime).getD
    ⟨startTime, 0⟩

/-- The first loop of `ensureLatestNSegments`: some of the `N` newest positions is missing
or holds a segment with another start time. -/
def needsRebuild (latestSegmentTime : UInt64) (numSegments : Nat)
    (queue : List WindowSegment) : Bool :=
  (List.range numSegments).any fun i =>
    match queue[i]? with
    | none => true
    | some segment => segment.startTime != latestSegmentStart cfg latestSegmentTime i

/-- `ensureLatestNSegments`, on the queue. The rebuild keeps, from the back, the segments
strictly older than the rebuild range, then pushes the `N` range segments, each the cached
one when the scanned prefix held it and a fresh empty one otherwise. -/
def ensureLatestNSegments (req : SubmitRequest) (numSegments : UInt64)
    (queue : List WindowSegment) : List WindowSegment :=
  let latestSegmentTime := req.requestSegmentStartTime
  if !needsRebuild cfg latestSegmentTime numSegments.toNat queue then queue
  else
    let rebuildSegmentsStartingAt :=
      latestSegmentTime - (numSegments - 1) * cfg.windowSegmentSize
    let validSegments := queue.take numSegments.toNat
    let olderSegments := (queue.reverse.takeWhile fun segment =>
      decide (segment.startTime < rebuildSegmentsStartingAt)).reverse
    (List.range numSegments.toNat).map
        (fun i => cachedSegment validSegments (latestSegmentStart cfg latestSegmentTime i)) ++
      olderSegments

/-- The closing loop of `distributePenalty`: `At(i).Value += segmentDistribution[i]`;
`At` panics past the end of the queue. -/
def addShares : List UInt64 → List WindowSegment → Except Panic (List WindowSegment)
  | [], queue => .ok queue
  | _ :: _, [] => .error .indexOutOfRange
  | share :: shares, segment :: queue => do
      let queue ← addShares shares queue
      pure ({ segment with value := segment.value + share } :: queue)

/-- The shares of `distributePenalty`: `amountPerSegment` each, one more for the first
`amount % numSegmentsMax`. -/
def segmentDistribution (numSegmentsMax amountPerSegment rem : UInt64) : List UInt64 :=
  (List.range numSegmentsMax.toNat).map fun i =>
    if i < rem.toNat then amountPerSegment + 1 else amountPerSegment

/-- `distributePenalty`. When fewer units than segments are to be spread, the span
shrinks to the amount, one unit each. -/
def distributePenalty (req : SubmitRequest) (amount numSegmentsMax : UInt64)
    (tenant : TenantData) : Except Panic TenantData :=
  if amount = 0 then .ok tenant
  else if numSegmentsMax = 0 then .error .divideByZero
  else
    let (numSegmentsMax, amountPerSegment) :=
      if amount / numSegmentsMax < 1 then (amount, 1) else (numSegmentsMax, amount / numSegmentsMax)
    let shares := segmentDistribution numSegmentsMax amountPerSegment (amount % numSegmentsMax)
    let queue := ensureLatestNSegments cfg req numSegmentsMax tenant.windowQueue
    do
      let queue ← addShares shares queue
      pure { tenant with
        windowQueue := queue
        windowTotal := shares.foldl (· + ·) tenant.windowTotal }

end LoadLimiter
