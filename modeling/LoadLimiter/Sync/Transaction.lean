import LoadLimiter.Core.Limiter
import LoadLimiter.Sync.Codec

/-! # Sync transactions and peers

`withSyncTransaction` of `synchronization.go` for a standalone limiter whose sync adapter's
`Lock`, `Fetch`, `Write` and `Unlock` succeed. The adapter's store holds one status text per
tenant, empty until the first write. A transaction restores a non-empty status into the local
tenant (a failed restore is only logged), records the version, runs the task, and writes the
serialized tenant back when the version grew, unless the transaction is read-only (`Probe`).

Peers are limiters with the same configuration sharing one store; the distributed lock makes
their transactions on a tenant run one at a time, so a run of the peers is a list of
`(peer, call)` pairs served in lock order.
-/

namespace LoadLimiter

variable (cfg : EffectiveConfig)

/-- `withSyncTransaction`: the new store status, the tenant and the task's result. -/
def withSyncTransaction {α : Type} (task : TenantData → Except Panic (TenantData × α))
    (readOnly : Bool) (status : List Char) (tenant : TenantData) :
    Except Panic (List Char × TenantData × α) := do
  let tenant := if status = [] then tenant else (restoreSerializedStatus status tenant).1
  let versionBefore := tenant.version
  let (tenant, result) ← task tenant
  let changed := decide (versionBefore < tenant.version)
  let status := if readOnly then status else if changed then serializeStatus tenant else status
  pure (status, tenant, result)

/-- A call served through a sync transaction: `Probe` read-only, `Submit` writable. -/
def syncStep : Call → List Char → TenantData → Except Panic (List Char × TenantData × CallResult)
  | .probe t load, status, tenant =>
      withSyncTransaction (fun tenant => do
        let (tenant, admissible) ← Probe cfg t load tenant
        pure (tenant, .probed admissible)) true status tenant
  | .submit t load, status, tenant =>
      withSyncTransaction (fun tenant => do
        let (tenant, result) ← Submit cfg t load tenant
        pure (tenant, .submitted result)) false status tenant

/-- The shared store's status for the tenant and each peer's local tenant. -/
structure Cluster where
  status : List Char
  peers : Nat → TenantData

def Cluster.fresh : Cluster := ⟨[], fun _ => newTenantData⟩

def clusterStep (peer : Nat) (c : Call) (cluster : Cluster) :
    Except Panic (Cluster × CallResult) := do
  let (status, tenant, result) ← syncStep cfg c cluster.status (cluster.peers peer)
  pure (⟨status, Function.update cluster.peers peer tenant⟩, result)

def runCluster : List (Nat × Call) → Cluster → Except Panic (Cluster × List CallResult)
  | [], cluster => .ok (cluster, [])
  | (peer, c) :: calls, cluster => do
      let (cluster, result) ← clusterStep cfg peer c cluster
      let (cluster, results) ← runCluster calls cluster
      pure (cluster, result :: results)

/-! ## A lost update

A read-only `Probe` that rotates the window bumps the local version without writing it back.
Peer 1 reads the store (version 3) and probes twice in later segments, reaching version 5 on
its own; peer 0 then accepts 30 and writes version 5. Peer 1's next `Submit` finds the remote
version equal to its own, keeps its stale window, and accepts a load that a single limiter
serving the same calls in the same order rejects. -/

def lostUpdateSchedule : List (Nat × Call) :=
  [(0, .submit 1000000 60), (1, .probe 1001000 0), (1, .probe 1002000 0),
    (0, .submit 1003000 30), (1, .submit 1003000 20)]

theorem runCluster_lostUpdateSchedule :
    (runCluster defaultInstanceConfig lostUpdateSchedule Cluster.fresh).map (·.2) =
        .ok [.submitted ⟨true, false, 0⟩, .probed true, .probed true,
          .submitted ⟨true, false, 0⟩, .submitted ⟨true, false, 0⟩] ∧
      (runCalls defaultInstanceConfig (lostUpdateSchedule.map (·.2)) newTenantData).map (·.2) =
        .ok [.submitted ⟨true, false, 0⟩, .probed true, .probed true,
          .submitted ⟨true, false, 0⟩, .submitted ⟨false, true, 7000000000⟩] :=
  ⟨rfl, rfl⟩

/-! ## A payload that crashes the hot path

`restoreSerializedStatus` accepts any start times. With a segment start that is not a multiple
of `WindowSegmentSize`, `rotateWindow`'s early return keeps a segment that a full rotation
would evict, and `computeRetryIn` then finds an availability time before the request. -/

def unalignedPayload : List Char := "v1/5/100/1/1000000:0,990400:100".toList

theorem syncStep_unalignedPayload_panics :
    (restoreSerializedStatus unalignedPayload newTenantData).2 = none ∧
      syncStep defaultInstanceConfig (.submit 1000500 1) unalignedPayload newTenantData =
        .error (.message inconsistentMinSegmentAvailTime) :=
  ⟨rfl, rfl⟩

/-! ## A mutation that is not written back

`rotateWindow` pops the segments ahead of `S` (a clock that ran ahead) and marks the tenant
dirty only when it pushes a front, evicts, or has load to put back. A zero-valued segment
ahead of `S` in front of a segment at `S` is popped with none of the three, so the queue
changes and the version does not; the transaction that follows finds no newer version and
leaves the store's text as it was. -/

def futureSegmentCalls : List Call := [.submit 20000 100, .submit 20000 1, .probe 21000 1]

def futureSegmentTenant : TenantData :=
  { windowQueue := [⟨21000, 0⟩, ⟨20000, 100⟩], wasOver := true, windowTotal := 100,
    version := 5 }

theorem syncStep_futureSegment_unwritten :
    (runCalls defaultInstanceConfig futureSegmentCalls newTenantData).map (·.1) =
        .ok futureSegmentTenant ∧
      rotateWindow defaultInstanceConfig (buildLoadRequest defaultInstanceConfig 20000 1)
          futureSegmentTenant =
        .ok { futureSegmentTenant with windowQueue := [⟨20000, 100⟩] } ∧
      syncStep defaultInstanceConfig (.submit 20000 1) (serializeStatus futureSegmentTenant)
          futureSegmentTenant =
        .ok (serializeStatus futureSegmentTenant,
          { futureSegmentTenant with windowQueue := [⟨20000, 100⟩] },
          .submitted ⟨false, true, 10000000000⟩) :=
  ⟨rfl, rfl, rfl⟩

/-! ## A failed restore that clears the queue

`restoreSerializedStatus` clears the queue before it parses the segments, so an error in the
segment loop returns with the local queue emptied while the total is kept
(`restoreSerializedStatus_error_eq`). The transaction logs the error, runs its task on that
state and writes the result back: a total that counts a load no segment holds. -/

def badValuePayload : List Char := "v1/5/100/1/1000:x".toList

theorem syncStep_badValuePayload :
    (runCalls defaultInstanceConfig [.submit 10000 50] newTenantData).map (·.1) =
        .ok ⟨[⟨10000, 50⟩], false, 50, 3⟩ ∧
      restoreSerializedStatus badValuePayload ⟨[⟨10000, 50⟩], false, 50, 3⟩ =
        (⟨[], false, 50, 3⟩, some (.parseValue 0 .errSyntax)) ∧
      syncStep defaultInstanceConfig (.submit 10000 50) badValuePayload
          ⟨[⟨10000, 50⟩], false, 50, 3⟩ =
        .ok ("v1/5/100/0/10000:50".toList, ⟨[⟨10000, 50⟩], false, 100, 5⟩,
          .submitted ⟨true, false, 0⟩) :=
  ⟨rfl, rfl, rfl⟩

end LoadLimiter
