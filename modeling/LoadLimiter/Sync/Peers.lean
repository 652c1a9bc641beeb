import LoadLimiter.Core.Version
import LoadLimiter.Sync.Transaction

/-! # Peers that only submit

Peers sharing a store through `withSyncTransaction` serve a tenant as one limiter would, as
long as every call is a `Submit`, the calls come in timestamp order, and every state the
one limiter passes through is within the codec's range. Whatever peer serves each call, the
cluster answers the single limiter's answers and its store ends holding the single limiter's
state.

The argument is a simulation. The store holds the text of the single limiter's state and
every peer holds that state or one of an older version (`Agrees`); a transaction's restore
then hands the task the single limiter's state, and the write-back, which happens exactly
when the version grew, carries every change because in timestamp order a `Submit` changes
the tenant only by marking it (`Submit_eq_or_version_lt`).

A read-only `Probe` that rotates breaks the first half (`runCluster_lostUpdateSchedule`), and a
call earlier than the last one breaks the second (`syncStep_futureSegment_unwritten`).
-/

namespace LoadLimiter

variable {cfg : EffectiveConfig}

theorem serializeStatus_ne_nil (tenant : TenantData) : serializeStatus tenant ≠ [] := by
  simp [serializeStatus]

/-- The cluster agrees with one limiter at `tenant`: nothing is written yet and every peer is
at `tenant`, or the store holds `tenant`'s text and every peer is at `tenant` or at an older
version, which its next transaction replaces by the store's. -/
def Agrees (cluster : Cluster) (tenant : TenantData) : Prop :=
  (cluster.status = [] ∧ ∀ peer, cluster.peers peer = tenant) ∨
    (cluster.status = serializeStatus tenant ∧ tenant.windowQueue ≠ [] ∧ FitsInt tenant ∧
      ∀ peer, cluster.peers peer = tenant ∨ (cluster.peers peer).version < tenant.version)

theorem agrees_fresh : Agrees Cluster.fresh newTenantData :=
  .inl ⟨rfl, fun _ => rfl⟩

theorem restoreSerializedStatus_serializeStatus_of_behind {tenant tenant₀ : TenantData}
    (hq : tenant.windowQueue ≠ []) (hfit : FitsInt tenant)
    (h : tenant₀ = tenant ∨ tenant₀.version < tenant.version) :
    (restoreSerializedStatus (serializeStatus tenant) tenant₀).1 = tenant := by
  rcases h with rfl | hlt
  · rw [restoreSerializedStatus_serializeStatus_of_version_eq rfl hfit.1]
  · rw [restoreSerializedStatus_serializeStatus hq hfit hlt]

theorem Agrees.restored {cluster : Cluster} {tenant : TenantData} (h : Agrees cluster tenant)
    (peer : Nat) :
    (if cluster.status = [] then cluster.peers peer
      else (restoreSerializedStatus cluster.status (cluster.peers peer)).1) = tenant := by
  rcases h with ⟨hs, hp⟩ | ⟨hs, hq, hfit, hp⟩
  · rw [if_pos hs, hp]
  · rw [if_neg (hs ▸ serializeStatus_ne_nil tenant), hs]
    exact restoreSerializedStatus_serializeStatus_of_behind hq hfit (hp peer)

/-- A peer's `Submit` on an agreeing cluster is the single limiter's `Submit`, written back
when the version grew. -/
theorem Agrees.clusterStep_submit {cluster : Cluster} {tenant : TenantData} {peer : Nat}
    {t load : UInt64} (h : Agrees cluster tenant) :
    clusterStep cfg peer (.submit t load) cluster =
      (Submit cfg t load tenant).map fun r =>
        (⟨if tenant.version < r.1.version then serializeStatus r.1 else cluster.status,
          Function.update cluster.peers peer r.1⟩, .submitted r.2) := by
  simp only [clusterStep, syncStep, withSyncTransaction, h.restored peer]
  cases Submit cfg t load tenant with
  | error => rfl
  | ok r =>
      by_cases hlt : tenant.version < r.1.version <;>
        simp [hlt, bind, Except.bind, pure, Except.pure, Except.map]

theorem update_eq_or_eq {α : Type} (f : Nat → α) (peer : Nat) (x : α) (q : Nat) :
    Function.update f peer x q = x ∨ Function.update f peer x q = f q := by
  by_cases hq : q = peer
  · subst hq
    exact .inl (Function.update_same _ _ _)
  · exact .inr (Function.update_noteq hq _ _)

theorem Agrees.submit {cluster : Cluster} {tenant tenant' : TenantData} {peer : Nat}
    (h : Agrees cluster tenant) (hver : tenant' = tenant ∨ tenant.version < tenant'.version)
    (hq : tenant'.windowQueue ≠ []) (hfit : FitsInt tenant') :
    Agrees ⟨if tenant.version < tenant'.version then serializeStatus tenant' else cluster.status,
      Function.update cluster.peers peer tenant'⟩ tenant' := by
  have hpeer := update_eq_or_eq cluster.peers peer tenant'
  by_cases hlt : tenant.version < tenant'.version
  · rw [if_pos hlt]
    refine .inr ⟨rfl, hq, hfit, fun q => (hpeer q).imp_right fun he => ?_⟩
    dsimp only
    rw [he, u64_lt_iff]
    rw [u64_lt_iff] at hlt
    rcases h with ⟨-, hp⟩ | ⟨-, -, -, hp⟩
    · rw [hp q]
      exact hlt
    · rcases hp q with he' | hold
      · rw [he']
        exact hlt
      · exact Nat.lt_trans (u64_lt_iff.mp hold) hlt
  · rw [if_neg hlt]
    obtain rfl := (hver.resolve_right hlt).symm
    rcases h with ⟨hs, hp⟩ | ⟨hs, hq, hfit, hp⟩
    · exact .inl ⟨hs, fun q => (hpeer q).elim id fun he => he.trans (hp q)⟩
    · refine .inr ⟨hs, hq, hfit, fun q => (hpeer q).elim .inl fun he => ?_⟩
      dsimp only
      rw [he]
      exact hp q

/-! ## Runs -/

theorem runCalls_cons_ok {c : Call} {calls : List Call} {tenant tenant' : TenantData}
    {result : CallResult} (h : step cfg c tenant = .ok (tenant', result)) :
    runCalls cfg (c :: calls) tenant =
      (runCalls cfg calls tenant').map fun r => (r.1, result :: r.2) := by
  simp only [runCalls, h, bind, Except.bind]
  cases runCalls cfg calls tenant' <;> rfl

def FitsAlong (cfg : EffectiveConfig) (calls : List Call) (tenant : TenantData) : Prop :=
  ∀ pre, pre <+: calls → ∀ tenant' results,
    runCalls cfg pre tenant = .ok (tenant', results) → FitsInt tenant'

theorem FitsAlong.head {c : Call} {calls : List Call} {tenant tenant' : TenantData}
    {result : CallResult} (h : FitsAlong cfg (c :: calls) tenant)
    (hs : step cfg c tenant = .ok (tenant', result)) : FitsInt tenant' :=
  h [c] (List.prefix_cons_inj c |>.mpr List.nil_prefix) tenant' [result] (by
    rw [runCalls_cons_ok hs]
    rfl)

theorem FitsAlong.tail {c : Call} {calls : List Call} {tenant tenant' : TenantData}
    {result : CallResult} (h : FitsAlong cfg (c :: calls) tenant)
    (hs : step cfg c tenant = .ok (tenant', result)) : FitsAlong cfg calls tenant' := by
  intro pre hpre T rs hrun
  exact h (c :: pre) (List.prefix_cons_inj c |>.mpr hpre) T (result :: rs) (by
    rw [runCalls_cons_ok hs, hrun]
    rfl)

theorem FitsAlong.start {calls : List Call} {tenant : TenantData}
    (h : FitsAlong cfg calls tenant) : FitsInt tenant :=
  h [] List.nil_prefix tenant [] rfl

theorem runCluster_cons_ok {peer : Nat} {c : Call} {calls : List (Nat × Call)}
    {cluster cluster' : Cluster} {result : CallResult}
    (h : clusterStep cfg peer c cluster = .ok (cluster', result)) :
    runCluster cfg ((peer, c) :: calls) cluster =
      (runCluster cfg calls cluster').map fun r => (r.1, result :: r.2) := by
  simp only [runCluster, h, bind, Except.bind]
  cases runCluster cfg calls cluster' <;> rfl

theorem map_snd_cons_eq {α β : Type} {x : Except Panic (α × List CallResult)}
    {y : Except Panic (β × List CallResult)} (result : CallResult)
    (h : x.map (·.2) = y.map (·.2)) :
    (x.map fun r => (r.1, result :: r.2)).map (·.2) =
      (y.map fun r => (r.1, result :: r.2)).map (·.2) := by
  cases x <;> cases y <;> simp_all [Except.map]

/-- Submits in timestamp order from a state reached in timestamp order, on a cluster that
agrees with it: the cluster's run answers as the single run, and each peer ends agreeing with
the single run's last state. -/
theorem runCluster_submits {schedule : List (Nat × Call)} :
    ∀ {cluster : Cluster} {tenant : TenantData} {last : Option UInt64},
      Reachable cfg last tenant → Agrees cluster tenant →
      (∀ pc ∈ schedule, ∃ t load, pc.2 = .submit t load) →
      (∀ pc ∈ schedule, cfg.windowSize.toNat ≤ pc.2.timestamp.toNat ∧
        ∀ l, last = some l → l.toNat ≤ pc.2.timestamp.toNat) →
      (schedule.map fun pc => pc.2.timestamp.toNat).Sorted (· ≤ ·) →
      FitsAlong cfg (schedule.map (·.2)) tenant →
      (runCluster cfg schedule cluster).map (·.2) =
          (runCalls cfg (schedule.map (·.2)) tenant).map (·.2) ∧
        ∀ cluster' results, runCluster cfg schedule cluster = .ok (cluster', results) →
          ∃ tenant', runCalls cfg (schedule.map (·.2)) tenant = .ok (tenant', results) ∧
            Agrees cluster' tenant' := by
  induction schedule with
  | nil =>
      intro cluster tenant last _ hag _ _ _ _
      refine ⟨rfl, fun cluster' results h => ?_⟩
      cases h
      exact ⟨tenant, rfl, hag⟩
  | cons pc schedule ih =>
      intro cluster tenant last hr hag hsub hts hsorted hfit
      obtain ⟨peer, c⟩ := pc
      obtain ⟨t, load, rfl⟩ := hsub _ (List.mem_cons_self _ _)
      obtain ⟨hws, hlast⟩ := hts _ (List.mem_cons_self _ _)
      rw [List.map_cons, List.sorted_cons] at hsorted
      have hv : tenant.version.toNat + 2 < 2 ^ 64 := by
        have := hfit.start.1
        omega
      rw [List.map_cons]
      cases hs : Submit cfg t load tenant with
      | error e =>
          have hcl : clusterStep cfg peer (.submit t load) cluster = .error e := by
            rw [hag.clusterStep_submit, hs]
            rfl
          have hstep : step cfg (.submit t load) tenant = .error e := by
            simp only [step, hs]
            rfl
          simp only [runCluster, runCalls, hcl, hstep]
          exact ⟨rfl, fun _ _ h => by cases h⟩
      | ok r =>
          obtain ⟨tenant', result⟩ := r
          have hstep : step cfg (.submit t load) tenant = .ok (tenant', .submitted result) := by
            simp only [step, hs]
            rfl
          have hcl := @Agrees.clusterStep_submit cfg cluster tenant peer t load hag
          rw [hs] at hcl
          have hset := Submit_settled hws hr.consistent hs
          obtain ⟨value, rest, hq⟩ := hset.shape.front
          have hag' := @Agrees.submit cluster tenant tenant' peer hag
            (Submit_eq_or_version_lt (hr.head_le hlast) hv hs)
            (by rw [hq]; exact List.cons_ne_nil _ _) (hfit.head hstep)
          obtain ⟨ih1, ih2⟩ := ih (.call hr hws hstep) hag'
            (fun pc hpc => hsub pc (List.mem_cons_of_mem _ hpc))
            (fun pc hpc => ⟨(hts pc (List.mem_cons_of_mem _ hpc)).1, fun l hl => by
              cases hl
              exact hsorted.1 _ (List.mem_map_of_mem _ hpc)⟩)
            hsorted.2 (hfit.tail hstep)
          rw [runCluster_cons_ok hcl, runCalls_cons_ok hstep]
          refine ⟨map_snd_cons_eq _ ih1, fun cluster' results h => ?_⟩
          cases hc : runCluster cfg schedule _ with
          | error => rw [hc] at h; cases h
          | ok res =>
              rw [hc] at h
              cases h
              obtain ⟨tenant'', hrun, hag''⟩ := ih2 _ _ hc
              exact ⟨tenant'', by rw [hrun]; rfl, hag''⟩

/-- Peers over an empty store serving only `Submit`s, in timestamp order and each at least
`WindowSize`, while every state of the single run stays within the codec's range: whatever
peer serves each call, the cluster gives the answers one limiter serving the same calls gives,
and ends with its store and every peer agreeing with that limiter's state. -/
theorem runCluster_submits_eq_runCalls {schedule : List (Nat × Call)}
    (hsub : ∀ pc ∈ schedule, ∃ t load, pc.2 = .submit t load)
    (hts : ∀ pc ∈ schedule, cfg.windowSize.toNat ≤ pc.2.timestamp.toNat)
    (hsorted : (schedule.map fun pc => pc.2.timestamp.toNat).Sorted (· ≤ ·))
    (hfit : FitsAlong cfg (schedule.map (·.2)) newTenantData) :
    (runCluster cfg schedule Cluster.fresh).map (·.2) =
        (runCalls cfg (schedule.map (·.2)) newTenantData).map (·.2) ∧
      ∀ cluster results, runCluster cfg schedule Cluster.fresh = .ok (cluster, results) →
        ∃ tenant, runCalls cfg (schedule.map (·.2)) newTenantData = .ok (tenant, results) ∧
          Agrees cluster tenant :=
  runCluster_submits .fresh agrees_fresh hsub
    (fun pc hpc => ⟨hts pc hpc, fun _ h => by cases h⟩) hsorted hfit

def twoPeerSubmits : List (Nat × Call) :=
  [(0, .submit 1000000 60), (1, .submit 1001000 30), (0, .submit 1003000 20)]

theorem twoPeerSubmits_submit : ∀ pc ∈ twoPeerSubmits, ∃ t load, pc.2 = .submit t load := by
  intro pc hpc
  simp only [twoPeerSubmits, List.mem_cons, List.mem_singleton, List.not_mem_nil,
    or_false] at hpc
  rcases hpc with rfl | rfl | rfl <;> exact ⟨_, _, rfl⟩

theorem fitsAlong_twoPeerSubmits :
    FitsAlong defaultInstanceConfig (twoPeerSubmits.map (·.2)) newTenantData := by
  intro pre hpre tenant results hrun
  rw [← List.mem_inits] at hpre
  simp only [twoPeerSubmits, List.map_cons, List.map_nil, List.inits, List.mem_cons,
    List.mem_singleton, List.not_mem_nil, or_false, List.cons.injEq] at hpre
  rcases hpre with rfl | rfl | rfl | rfl
  · cases hrun
    decide
  · rw [show runCalls defaultInstanceConfig [.submit 1000000 60] newTenantData =
      .ok (⟨[⟨1000000, 60⟩], false, 60, 3⟩, [.submitted ⟨true, false, 0⟩]) from rfl] at hrun
    cases hrun
    decide
  · rw [show runCalls defaultInstanceConfig [.submit 1000000 60, .submit 1001000 30]
        newTenantData = .ok (⟨[⟨1001000, 30⟩, ⟨1000000, 60⟩], false, 90, 5⟩,
          [.submitted ⟨true, false, 0⟩, .submitted ⟨true, false, 0⟩]) from rfl] at hrun
    cases hrun
    decide
  · rw [show runCalls defaultInstanceConfig
        [.submit 1000000 60, .submit 1001000 30, .submit 1003000 20] newTenantData =
        .ok (⟨[⟨1003000, 0⟩, ⟨1001000, 30⟩, ⟨1000000, 60⟩], true, 90, 7⟩,
          [.submitted ⟨true, false, 0⟩, .submitted ⟨true, false, 0⟩,
            .submitted ⟨false, true, 7000000000⟩]) from rfl] at hrun
    cases hrun
    decide

theorem runCluster_submits_eq_runCalls_twoPeers :
    (runCluster defaultInstanceConfig twoPeerSubmits Cluster.fresh).map (·.2) =
        (runCalls defaultInstanceConfig (twoPeerSubmits.map (·.2)) newTenantData).map (·.2) ∧
      ∀ cluster results,
        runCluster defaultInstanceConfig twoPeerSubmits Cluster.fresh = .ok (cluster, results) →
        ∃ tenant,
          runCalls defaultInstanceConfig (twoPeerSubmits.map (·.2)) newTenantData =
            .ok (tenant, results) ∧ Agrees cluster tenant :=
  runCluster_submits_eq_runCalls twoPeerSubmits_submit (by decide) (by decide)
    fitsAlong_twoPeerSubmits

end LoadLimiter
