import LoadLimiter.Sync.Composite

/-! # Runtime statistics on peers

`Stats` and `stats` of `loadLimiterDefaultImpl`, and `Stats` and `compositeStats` of
`compositeLoadLimiterDefaultImpl`: a tenant's window total and segment values, read in a
read-only sync transaction. The transaction restores the store's status before the task reads
the tenant, so on peers that agree with one limiter a `Stats` reports that limiter's
statistics, whether or not the peer itself served a call; being read-only, it writes nothing
and the peers still agree afterwards.
-/

namespace LoadLimiter

structure RuntimeStatistics where
  windowTotal : UInt64
  windowSegments : List UInt64
deriving DecidableEq, Repr

/-- `stats`: the total and every segment's value, front first. -/
def stats (tenant : TenantData) : RuntimeStatistics :=
  { windowTotal := tenant.windowTotal, windowSegments := tenant.windowQueue.map (·.value) }

/-- `Stats` on peer `peer`: `stats` in a read-only transaction. -/
def clusterStats (peer : Nat) (cluster : Cluster) : Except Panic (Cluster × RuntimeStatistics) := do
  let (status, tenant, out) ← withSyncTransaction (fun tenant => pure (tenant, stats tenant))
    true cluster.status (cluster.peers peer)
  pure (⟨status, Function.update cluster.peers peer tenant⟩, out)

structure CompositeRuntimeStatistics where
  limitersStats : List RuntimeStatistics
deriving DecidableEq, Repr

def compositeStats (limiters : List Member) : List RuntimeStatistics :=
  limiters.map fun limiter => stats limiter.tenant

/-- The composite `Stats` on peer `peer`: `compositeStats` in a read-only transaction. -/
def compositeClusterStats (peer : Nat) (cluster : CompositeCluster) :
    Except Panic (CompositeCluster × CompositeRuntimeStatistics) := do
  let (status, limiters, out) ← compositeWithSyncTransaction
    (fun limiters => pure (limiters, ⟨compositeStats limiters⟩)) true cluster.status
    (cluster.peers peer)
  pure (⟨status, Function.update cluster.peers peer limiters⟩, out)

/-! ## One read -/

theorem Agrees.update_self {cluster : Cluster} {tenant : TenantData} (h : Agrees cluster tenant)
    (peer : Nat) : Agrees ⟨cluster.status, Function.update cluster.peers peer tenant⟩ tenant := by
  have hpeer := update_eq_or_eq cluster.peers peer tenant
  rcases h with ⟨hs, hp⟩ | ⟨hs, hq, hfit, hp⟩
  · exact .inl ⟨hs, fun q => (hpeer q).elim id fun he => he.trans (hp q)⟩
  · refine .inr ⟨hs, hq, hfit, fun q => (hpeer q).elim .inl fun he => ?_⟩
    dsimp only
    rw [he]
    exact hp q

theorem Agrees.clusterStats {cluster : Cluster} {tenant : TenantData} (h : Agrees cluster tenant)
    (peer : Nat) :
    clusterStats peer cluster =
      .ok (⟨cluster.status, Function.update cluster.peers peer tenant⟩, stats tenant) := by
  simp only [LoadLimiter.clusterStats, withSyncTransaction, h.restored peer]
  rfl

theorem CompositeAgrees.update_self {cluster : CompositeCluster} {limiters : List Member}
    (h : CompositeAgrees cluster limiters) (peer : Nat) :
    CompositeAgrees ⟨cluster.status, Function.update cluster.peers peer limiters⟩ limiters := by
  have hpeer := update_eq_or_eq cluster.peers peer limiters
  rcases h with ⟨hs, hp⟩ | ⟨hs, hfit, hp⟩
  · exact .inl ⟨hs, fun q => (hpeer q).elim id fun he => he.trans (hp q)⟩
  · refine .inr ⟨hs, hfit, fun q => ?_⟩
    dsimp only
    rcases hpeer q with he | he <;> rw [he]
    · exact MembersBehind.refl _
    · exact hp q

theorem CompositeAgrees.compositeClusterStats {cluster : CompositeCluster}
    {limiters : List Member} (h : CompositeAgrees cluster limiters) (peer : Nat) :
    compositeClusterStats peer cluster =
      .ok (⟨cluster.status, Function.update cluster.peers peer limiters⟩,
        ⟨compositeStats limiters⟩) := by
  simp only [LoadLimiter.compositeClusterStats, compositeWithSyncTransaction, h.restored peer]
  rfl

/-! ## Reads after a run -/

section Runs

variable {cfg : EffectiveConfig}

/-- After peers over an empty store serve only `Submit`s (in timestamp order, each at least
`WindowSize`, every state of the single run within the codec's range), `Stats` on any peer,
whether or not it served a call, reports the single limiter's total and segment values,
writes nothing, and leaves the cluster agreeing with that limiter. -/
theorem runCluster_submits_clusterStats {schedule : List (Nat × Call)}
    (hsub : ∀ pc ∈ schedule, ∃ t load, pc.2 = .submit t load)
    (hts : ∀ pc ∈ schedule, cfg.windowSize.toNat ≤ pc.2.timestamp.toNat)
    (hsorted : (schedule.map fun pc => pc.2.timestamp.toNat).Sorted (· ≤ ·))
    (hfit : FitsAlong cfg (schedule.map (·.2)) newTenantData) :
    ∀ cluster results, runCluster cfg schedule Cluster.fresh = .ok (cluster, results) →
      ∃ tenant, runCalls cfg (schedule.map (·.2)) newTenantData = .ok (tenant, results) ∧
        ∀ peer, ∃ cluster', clusterStats peer cluster = .ok (cluster', stats tenant) ∧
          cluster'.status = cluster.status ∧ Agrees cluster' tenant := by
  intro cluster results hrun
  obtain ⟨tenant, hcalls, hag⟩ := (runCluster_submits .fresh agrees_fresh hsub
    (fun pc hpc => ⟨hts pc hpc, fun _ h => by cases h⟩) hsorted hfit).2 _ _ hrun
  exact ⟨tenant, hcalls, fun peer => ⟨_, hag.clusterStats peer, rfl, hag.update_self peer⟩⟩

theorem runCluster_submits_clusterStats_twoPeers :
    ∃ cluster results,
      runCluster defaultInstanceConfig twoPeerSubmits Cluster.fresh = .ok (cluster, results) ∧
      ∃ tenant,
        runCalls defaultInstanceConfig (twoPeerSubmits.map (·.2)) newTenantData =
          .ok (tenant, results) ∧
        ∀ peer, ∃ cluster', clusterStats peer cluster = .ok (cluster', stats tenant) ∧
          cluster'.status = cluster.status ∧ Agrees cluster' tenant :=
  ⟨_, _, rfl, runCluster_submits_clusterStats twoPeerSubmits_submit (by decide) (by decide)
    fitsAlong_twoPeerSubmits _ _ rfl⟩

/-- The composite counterpart: after composite peers over an empty store serve only `Submit`s
(in timestamp order, each at least every member's `WindowSize`, every member of the single
run within the codec's range), `Stats` on any peer reports every member's statistics in the
single composite, writes nothing, and leaves the cluster agreeing with that composite. -/
theorem runCompositeCluster_submits_compositeClusterStats {cfgs : List EffectiveConfig}
    {schedule : List (Nat × Call)}
    (hsub : ∀ pc ∈ schedule, ∃ t load, pc.2 = .submit t load)
    (hts : ∀ pc ∈ schedule, ∀ cfg ∈ cfgs, cfg.windowSize.toNat ≤ pc.2.timestamp.toNat)
    (hsorted : (schedule.map fun pc => pc.2.timestamp.toNat).Sorted (· ≤ ·))
    (hfit : CompositeFitsAlong (schedule.map (·.2)) (freshMembers cfgs)) :
    ∀ cluster results,
      runCompositeCluster schedule (CompositeCluster.fresh (freshMembers cfgs)) =
        .ok (cluster, results) →
      ∃ limiters, runComposite (schedule.map (·.2)) (freshMembers cfgs) = .ok (limiters, results) ∧
        ∀ peer, ∃ cluster', compositeClusterStats peer cluster =
            .ok (cluster', ⟨compositeStats limiters⟩) ∧
          cluster'.status = cluster.status ∧ CompositeAgrees cluster' limiters := by
  intro cluster results hrun
  have hcfgs : (freshMembers cfgs).map (·.cfg) = cfgs := by
    rw [freshMembers, List.map_map]
    exact List.map_id _
  obtain ⟨limiters, hcalls, hag⟩ := (@runCompositeCluster_submits schedule _ _ (fun _ => none) 0
    (fun m hm => by
      obtain ⟨cfg, -, rfl⟩ := List.mem_map.mp hm
      exact ⟨.fresh, fun _ h => by cases h⟩)
    (.inl ⟨rfl, fun _ => rfl⟩) hsub
    (fun pc hpc => ⟨Nat.zero_le _, by rw [hcfgs]; exact hts pc hpc⟩) hsorted hfit).2 _ _ hrun
  exact ⟨limiters, hcalls, fun peer =>
    ⟨_, hag.compositeClusterStats peer, rfl, hag.update_self peer⟩⟩

theorem runCompositeCluster_submits_compositeClusterStats_twoPeers :
    ∃ cluster results,
      runCompositeCluster twoPeerCompositeSubmits
          (CompositeCluster.fresh (freshMembers [defaultInstanceConfig, shortWindowConfig])) =
        .ok (cluster, results) ∧
      ∃ limiters, runComposite (twoPeerCompositeSubmits.map (·.2))
          (freshMembers [defaultInstanceConfig, shortWindowConfig]) = .ok (limiters, results) ∧
        ∀ peer, ∃ cluster', compositeClusterStats peer cluster =
            .ok (cluster', ⟨compositeStats limiters⟩) ∧
          cluster'.status = cluster.status ∧ CompositeAgrees cluster' limiters :=
  ⟨_, _, rfl, runCompositeCluster_submits_compositeClusterStats twoPeerCompositeSubmits_submit
    (by decide) (by decide) compositeFitsAlong_twoPeerCompositeSubmits _ _ rfl⟩

end Runs

end LoadLimiter
