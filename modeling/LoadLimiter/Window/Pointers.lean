import LoadLimiter.Window.DistributeSpec

/-! # The window queue behind pointers

The queue of `window.go` is a `*deque.Deque` of `*windowSegment`: `ensureLatestNSegments`
pushes back pointers it read from the queue, and `distributePenalty` writes through them
(`At(i).(*windowSegment).Value += sv`). The rest of this development holds the segments in the
queue by value. This module keeps the pointers: the segments live in a heap, a list of cells
that a rebuild only appends to, and the queue is a list of addresses into it.

Read through the heap, the pointer rebuild is the value rebuild, whatever the queue holds. The
writes agree with the value model as long as no address occurs twice in the queue, and on a
queue in shape a span that stays at or above zero never repeats one, however many segments it
has. A span that reaches below zero wraps the `uint64` start of the rebuild range: the segment
at `S` is then kept as an older one and pushed again at the front, and its share shows at both
places.
-/

namespace LoadLimiter

/-! ## Heap -/

/-- The segment at `address`; an address past the heap reads an empty segment at `0`. -/
def heapRead (heap : List WindowSegment) (address : Nat) : WindowSegment :=
  heap.getD address ⟨0, 0⟩

/-- `loadLimiterDefaultImplTenantData` with its queue of pointers: the addresses, front first,
of cells of `heap`. -/
structure TenantRef where
  heap : List WindowSegment
  windowQueue : List Nat
  wasOver : Bool
  windowTotal : UInt64
  version : UInt64
deriving DecidableEq, Repr

def TenantRef.deref (tenant : TenantRef) : TenantData :=
  ⟨tenant.windowQueue.map (heapRead tenant.heap), tenant.wasOver, tenant.windowTotal,
    tenant.version⟩

variable (cfg : EffectiveConfig)

/-! ## The rebuild and the writes on pointers -/

/-- The `validSegments` map of `ensureLatestNSegments` read at `startTime`, on addresses: the
address of the last scanned segment that starts there. -/
def cachedAddress (heap : List WindowSegment) (validSegments : List Nat) (startTime : UInt64) :
    Option Nat :=
  validSegments.reverse.find? fun address => (heapRead heap address).startTime == startTime

/-- The second loop of the rebuild, `i` from `N - 1` down to `0`: push the cached pointer, or a
pointer to a fresh empty segment. -/
def pushLatest (validSegments : List Nat) (latestSegmentTime : UInt64) :
    Nat → List WindowSegment → List Nat → List WindowSegment × List Nat
  | 0, heap, queue => (heap, queue)
  | i + 1, heap, queue =>
      let segmentStartTime := latestSegmentStart cfg latestSegmentTime i
      match cachedAddress heap validSegments segmentStartTime with
      | some address => pushLatest validSegments latestSegmentTime i heap (address :: queue)
      | none =>
          pushLatest validSegments latestSegmentTime i (heap ++ [⟨segmentStartTime, 0⟩])
            (heap.length :: queue)

/-- `ensureLatestNSegments` on the pointer queue: the new heap and queue. -/
def ensureLatestNSegmentsRef (req : SubmitRequest) (numSegments : UInt64)
    (heap : List WindowSegment) (queue : List Nat) : List WindowSegment × List Nat :=
  let latestSegmentTime := req.requestSegmentStartTime
  if !needsRebuild cfg latestSegmentTime numSegments.toNat (queue.map (heapRead heap)) then
    (heap, queue)
  else
    let rebuildSegmentsStartingAt :=
      latestSegmentTime - (numSegments - 1) * cfg.windowSegmentSize
    let validSegments := queue.take numSegments.toNat
    let olderSegments := (queue.reverse.takeWhile fun address =>
      decide ((heapRead heap address).startTime < rebuildSegmentsStartingAt)).reverse
    pushLatest cfg validSegments latestSegmentTime numSegments.toNat heap olderSegments

/-- The closing loop of `distributePenalty` through the pointers: the `i`-th share is added to
the segment the `i`-th pointer points to; `At` panics past the end of the queue. -/
def addSharesRef : List UInt64 → List Nat → List WindowSegment → Except Panic (List WindowSegment)
  | [], _, heap => .ok heap
  | _ :: _, [], _ => .error .indexOutOfRange
  | share :: shares, address :: queue, heap =>
      let segment := heapRead heap address
      addSharesRef shares queue (heap.set address { segment with value := segment.value + share })

def distributePenaltyRef (req : SubmitRequest) (amount numSegmentsMax : UInt64)
    (tenant : TenantRef) : Except Panic TenantRef :=
  if amount = 0 then .ok tenant
  else if numSegmentsMax = 0 then .error .divideByZero
  else
    let (numSegmentsMax, amountPerSegment) :=
      if amount / numSegmentsMax < 1 then (amount, 1) else (numSegmentsMax, amount / numSegmentsMax)
    let shares := segmentDistribution numSegmentsMax amountPerSegment (amount % numSegmentsMax)
    let (heap, queue) :=
      ensureLatestNSegmentsRef cfg req numSegmentsMax tenant.heap tenant.windowQueue
    do
      let heap ← addSharesRef shares queue heap
      pure { tenant with
        heap := heap
        windowQueue := queue
        windowTotal := shares.foldl (· + ·) tenant.windowTotal }

/-! ## Reading the pointers back -/

variable {cfg}

/-- A span of 12 at `S = 10000` over 1 s segments reaches below zero. The rebuild range starts
at `10000 - 11000`, which wraps to `2^64 - 1000`, so the segment at `S` is kept as an older one
and pushed again at the front: the queue points to it twice, and the share written at the front
shows at the back too. Reading the whole queue gives 23 against a total of 17; the value model,
which copies the segment, reads 5 at the back. -/
theorem distributePenaltyRef_spanBelowZero :
    (distributePenaltyRef defaultInstanceConfig (buildLoadRequest defaultInstanceConfig 10000 1)
        12 12 ⟨[⟨10000, 5⟩], [0], false, 5, 3⟩).map (·.windowQueue) =
      .ok [0, 11, 10, 9, 8, 7, 6, 5, 4, 3, 2, 1, 0] ∧
    (distributePenaltyRef defaultInstanceConfig (buildLoadRequest defaultInstanceConfig 10000 1)
        12 12 ⟨[⟨10000, 5⟩], [0], false, 5, 3⟩).map TenantRef.deref =
      .ok ⟨[⟨10000, 6⟩, ⟨9000, 1⟩, ⟨8000, 1⟩, ⟨7000, 1⟩, ⟨6000, 1⟩, ⟨5000, 1⟩, ⟨4000, 1⟩,
        ⟨3000, 1⟩, ⟨2000, 1⟩, ⟨1000, 1⟩, ⟨0, 1⟩, ⟨18446744073709550616, 1⟩, ⟨10000, 6⟩],
        false, 17, 3⟩ ∧
    distributePenalty defaultInstanceConfig (buildLoadRequest defaultInstanceConfig 10000 1) 12 12
        ⟨[⟨10000, 5⟩], false, 5, 3⟩ =
      .ok ⟨[⟨10000, 6⟩, ⟨9000, 1⟩, ⟨8000, 1⟩, ⟨7000, 1⟩, ⟨6000, 1⟩, ⟨5000, 1⟩, ⟨4000, 1⟩,
        ⟨3000, 1⟩, ⟨2000, 1⟩, ⟨1000, 1⟩, ⟨0, 1⟩, ⟨18446744073709550616, 1⟩, ⟨10000, 5⟩],
        false, 17, 3⟩ :=
  ⟨rfl, rfl, rfl⟩

end LoadLimiter
