import LoadLimiter.Composite.Limiter
import LoadLimiter.Sync.Peers

/-! # The composite's sync transaction

`compositeLoadLimiterDefaultImpl.withSyncTransaction` keeps one status text per tenant for all
the members: each member's `serializeStatus` followed by `;`, the trailing `;`s trimmed. A
transaction splits a non-empty status on `;` and, when it has one piece per member, restores
each piece into its member (a failed restore is only logged); it records every member's
version, runs the task, and writes all the members back when some member's version changed,
unless it is read-only (`Probe`, `Stats`).

A member's text holds no `;`, so the status splits back into the members' texts. Peers of a
composite that only submit, in timestamp order, serve a tenant as one composite would: each
member of a composite `submit` takes a standalone step, which changes it only by raising its
version, so the transaction's version test sees every change and the store always holds the
single composite's members.
-/

namespace LoadLimiter

/-! ## The transaction -/

/-- The writing loop of the composite transaction: each member's text followed by `;`. -/
def compositeStatusLoop : List Member → List Char
  | [] => []
  | limiter :: limiters => serializeStatus limiter.tenant ++ ';' :: compositeStatusLoop limiters

/-- `limitersStatus`: the loop's text, its trailing `;`s trimmed when there is a member. -/
def compositeSerializeStatus (limiters : List Member) : List Char :=
  let limitersStatus := compositeStatusLoop limiters
  if 0 < limiters.length then trimRight ';' limitersStatus else limitersStatus

/-- The restore phase: a non-empty status is split on `;` and, when it has one piece per
member, each piece is restored into its member. -/
def restoreMembers (status : List Char) (limiters : List Member) : List Member :=
  if status = [] then limiters
  else
    let statusSplit := stringsSplit ';' status
    if statusSplit.length ≠ limiters.length then limiters
    else List.zipWith (fun limiter piece =>
      ⟨limiter.cfg, (restoreSerializedStatus piece limiter.tenant).1⟩) limiters statusSplit

/-- The `changed` loop: some member's version differs from the one recorded before the task. -/
def membersChanged (limiters : List Member) (versionsBefore : List UInt64) : Bool :=
  (limiters.zip versionsBefore).any fun (limiter, versionBefore) =>
    limiter.tenant.version != versionBefore

/-- `compositeLoadLimiterDefaultImpl.withSyncTransaction` with a sync adapter whose calls
succeed: the new store status, the members and the task's result. -/
def compositeWithSyncTransaction {α : Type} (task : List Member → Except Panic (List Member × α))
    (readOnly : Bool) (status : List Char) (limiters : List Member) :
    Except Panic (List Char × List Member × α) := do
  let limiters := restoreMembers status limiters
  let versionsBefore := limiters.map (·.tenant.version)
  let (limiters, result) ← task limiters
  let changed := membersChanged limiters versionsBefore
  let status := if readOnly then status
    else if changed then compositeSerializeStatus limiters else status
  pure (status, limiters, result)

def compositeSyncStep : Call → List Char → List Member →
    Except Panic (List Char × List Member × CallResult)
  | .probe t load, status, limiters =>
      compositeWithSyncTransaction (fun limiters => do
        let (limiters, admissible) ← compositeProbe t load limiters
        pure (limiters, .probed admissible)) true status limiters
  | .submit t load, status, limiters =>
      compositeWithSyncTransaction (fun limiters => do
        let (limiters, result) ← compositeSubmit t load limiters
        pure (limiters, .submitted result)) false status limiters

structure CompositeCluster where
  status : List Char
  peers : Nat → List Member

def compositeClusterStep (peer : Nat) (c : Call) (cluster : CompositeCluster) :
    Except Panic (CompositeCluster × CallResult) := do
  let (status, limiters, result) ← compositeSyncStep c cluster.status (cluster.peers peer)
  pure (⟨status, Function.update cluster.peers peer limiters⟩, result)

def runCompositeCluster :
    List (Nat × Call) → CompositeCluster → Except Panic (CompositeCluster × List CallResult)
  | [], cluster => .ok (cluster, [])
  | (peer, c) :: calls, cluster => do
      let (cluster, result) ← compositeClusterStep peer c cluster
      let (cluster, results) ← runCompositeCluster calls cluster
      pure (cluster, result :: results)

/-! ## The composite status -/

theorem semicolon_not_mem_serializeStatus (tenant : TenantData) : ';' ∉ serializeStatus tenant := by
  have hflag : ';' ∉ (if tenant.wasOver then ['1'] else ['0']) := by split <;> decide
  simp only [serializeStatus, List.mem_append, not_or]
  exact ⟨⟨⟨⟨⟨⟨⟨by decide, not_mem_formatUint ';' rfl _⟩, by decide⟩, not_mem_formatUint ';' rfl _⟩,
    by decide⟩, hflag⟩, by decide⟩, not_mem_serializeSegments ';' rfl (by decide) (by decide) _⟩

theorem trimRight_append_single {cut : Char} {a : List Char} (h : cut ∉ a) :
    trimRight cut (a ++ [cut]) = a := by
  unfold trimRight
  rw [List.reverse_append, List.reverse_singleton, List.singleton_append, List.dropWhile_cons,
    if_pos (decide_eq_true rfl)]
  cases hr : a.reverse with
  | nil => exact (List.reverse_eq_nil_iff.mp hr).symm
  | cons x xs =>
      have hx : x ≠ cut := fun he => h (List.mem_reverse.mp (by rw [hr, he]; exact List.mem_cons_self _ _))
      rw [List.dropWhile_cons, if_neg (by simpa using hx), ← hr, List.reverse_reverse]

theorem stringsSplit_compositeSerializeStatus :
    ∀ {limiters : List Member}, limiters ≠ [] →
      stringsSplit ';' (compositeSerializeStatus limiters) =
        limiters.map fun limiter => serializeStatus limiter.tenant
  | [], h => absurd rfl h
  | [m], _ => by
      simp only [compositeSerializeStatus, compositeStatusLoop, List.length_singleton,
        Nat.zero_lt_one, if_true, List.map_cons, List.map_nil]
      rw [trimRight_append_single (semicolon_not_mem_serializeStatus _),
        stringsSplit_of_not_mem (semicolon_not_mem_serializeStatus _)]
  | m :: m' :: rest, _ => by
      have ih := @stringsSplit_compositeSerializeStatus (m' :: rest) (List.cons_ne_nil _ _)
      have hne : ∃ x ∈ compositeStatusLoop (m' :: rest), x ≠ ';' := by
        obtain ⟨x, hx⟩ := List.exists_mem_of_ne_nil _ (serializeStatus_ne_nil m'.tenant)
        exact ⟨x, by simp [compositeStatusLoop, hx],
          fun he => semicolon_not_mem_serializeStatus m'.tenant (he ▸ hx)⟩
      simp only [compositeSerializeStatus, List.length_cons, Nat.zero_lt_succ, if_true,
        List.map_cons] at ih ⊢
      rw [compositeStatusLoop, ← List.singleton_append, ← List.append_assoc,
        trimRight_append hne, List.append_assoc, List.singleton_append,
        stringsSplit_append_cons (semicolon_not_mem_serializeStatus _), ih]

/-- A peer's members are behind the single composite's, member by member: the same
configuration, and the same tenant or one of an older version. -/
def MembersBehind (peer limiters : List Member) : Prop :=
  List.Forall₂ (fun p m => p.cfg = m.cfg ∧ (p.tenant = m.tenant ∨ p.tenant.version < m.tenant.version))
    peer limiters

theorem MembersBehind.refl (limiters : List Member) : MembersBehind limiters limiters :=
  List.forall₂_same.mpr fun _ _ => ⟨rfl, .inl rfl⟩

/-- Members whose texts the codec can carry: a non-empty queue and every number below
`2^63`. -/
def MembersFit (limiters : List Member) : Prop :=
  ∀ m ∈ limiters, m.tenant.windowQueue ≠ [] ∧ FitsInt m.tenant

theorem restoreMembers_compositeSerializeStatus {peer limiters : List Member}
    (hfit : MembersFit limiters) (h : MembersBehind peer limiters) :
    restoreMembers (compositeSerializeStatus limiters) peer = limiters := by
  by_cases hnil : limiters = []
  · subst hnil
    cases h
    rfl
  have hsplit := stringsSplit_compositeSerializeStatus hnil
  have hs : compositeSerializeStatus limiters ≠ [] := fun he => by
    obtain ⟨m, rest, rfl⟩ := List.exists_cons_of_ne_nil hnil
    rw [he] at hsplit
    exact serializeStatus_ne_nil m.tenant (List.cons.inj hsplit).1.symm
  rw [restoreMembers, if_neg hs]
  dsimp only
  rw [hsplit, if_neg (by rw [List.length_map, h.length_eq]; exact fun hne => hne rfl)]
  clear hsplit hs hnil
  induction h with
  | nil => rfl
  | @cons p m ps ms hpm _ ih =>
      rw [List.map_cons, List.zipWith_cons_cons,
        ih fun x hx => hfit x (List.mem_cons_of_mem _ hx)]
      obtain ⟨hq, hfit'⟩ := hfit m (List.mem_cons_self _ _)
      rw [hpm.1, restoreSerializedStatus_serializeStatus_of_behind hq hfit' hpm.2]

theorem MembersBehind.trans {a b c : List Member} (hab : MembersBehind a b)
    (hbc : MembersBehind b c) : MembersBehind a c := by
  induction hab generalizing c with
  | nil => exact hbc
  | cons hxy _ ih =>
      cases hbc with
      | cons hyz hrest =>
          refine .cons ⟨hxy.1.trans hyz.1, ?_⟩ (ih hrest)
          rcases hxy.2 with hxy' | hxy' <;> rcases hyz.2 with hyz' | hyz'
          · exact .inl (hxy'.trans hyz')
          · exact .inr (hxy' ▸ hyz')
          · exact .inr (hyz' ▸ hxy')
          · exact .inr (u64_lt_iff.mpr (Nat.lt_trans (u64_lt_iff.mp hxy') (u64_lt_iff.mp hyz')))

theorem MembersBehind.map_cfg {a b : List Member} (h : MembersBehind a b) :
    a.map (·.cfg) = b.map (·.cfg) := by
  induction h with
  | nil => rfl
  | cons hxy _ ih => rw [List.map_cons, List.map_cons, hxy.1, ih]

theorem membersChanged_eq_false {limiters limiters' : List Member}
    (h : MembersBehind limiters limiters')
    (hc : membersChanged limiters' (limiters.map (·.tenant.version)) = false) :
    limiters' = limiters := by
  induction h with
  | nil => rfl
  | @cons m m' ms ms' hmm _ ih =>
      have hc' : (m'.tenant.version != m.tenant.version || membersChanged ms'
          (ms.map (·.tenant.version))) = false := hc
      rw [Bool.or_eq_false_iff, bne_eq_false_iff_eq] at hc'
      obtain ⟨hv, hrest⟩ := hc'
      have ht : m.tenant = m'.tenant := hmm.2.resolve_right fun hlt => by
        rw [u64_lt_iff, hv] at hlt
        exact Nat.lt_irrefl _ hlt
      obtain ⟨cfg, tenant⟩ := m
      obtain ⟨cfg', tenant'⟩ := m'
      obtain ⟨rfl, -⟩ := hmm
      dsimp only at ht
      rw [ht, ih hrest]

/-! ## Peers of a composite that only submit -/

/-- The members a composite holds for a tenant it has not seen: `getTenant`'s fresh data in
each member. -/
def freshMembers (cfgs : List EffectiveConfig) : List Member :=
  cfgs.map fun cfg => ⟨cfg, newTenantData⟩

def CompositeCluster.fresh (limiters : List Member) : CompositeCluster := ⟨[], fun _ => limiters⟩

/-- The composite cluster agrees with one composite at `limiters`: nothing is written yet and
every peer is at `limiters`, or the store holds their status and every peer's members are
behind them. -/
def CompositeAgrees (cluster : CompositeCluster) (limiters : List Member) : Prop :=
  (cluster.status = [] ∧ ∀ peer, cluster.peers peer = limiters) ∨
    (cluster.status = compositeSerializeStatus limiters ∧ MembersFit limiters ∧
      ∀ peer, MembersBehind (cluster.peers peer) limiters)

theorem CompositeAgrees.restored {cluster : CompositeCluster} {limiters : List Member}
    (h : CompositeAgrees cluster limiters) (peer : Nat) :
    restoreMembers cluster.status (cluster.peers peer) = limiters := by
  rcases h with ⟨hs, hp⟩ | ⟨hs, hfit, hp⟩
  · rw [hs, restoreMembers, if_pos rfl, hp]
  · rw [hs]
    exact restoreMembers_compositeSerializeStatus hfit (hp peer)

theorem CompositeAgrees.compositeClusterStep_submit {cluster : CompositeCluster}
    {limiters : List Member} {peer : Nat} {t load : UInt64} (h : CompositeAgrees cluster limiters) :
    compositeClusterStep peer (.submit t load) cluster =
      (compositeSubmit t load limiters).map fun r =>
        (⟨if membersChanged r.1 (limiters.map (·.tenant.version)) then compositeSerializeStatus r.1
            else cluster.status,
          Function.update cluster.peers peer r.1⟩, .submitted r.2) := by
  simp only [compositeClusterStep, compositeSyncStep, compositeWithSyncTransaction, h.restored peer]
  cases compositeSubmit t load limiters with
  | error => rfl
  | ok r =>
      by_cases hc : membersChanged r.1 (limiters.map (·.tenant.version)) = true <;>
        simp [hc, bind, Except.bind, pure, Except.pure, Except.map]

theorem CompositeAgrees.submit {cluster : CompositeCluster} {limiters limiters' : List Member}
    {peer : Nat} (h : CompositeAgrees cluster limiters) (hadv : MembersBehind limiters limiters')
    (hfit : MembersFit limiters') :
    CompositeAgrees ⟨if membersChanged limiters' (limiters.map (·.tenant.version)) then
        compositeSerializeStatus limiters' else cluster.status,
      Function.update cluster.peers peer limiters'⟩ limiters' := by
  have hpeer := update_eq_or_eq cluster.peers peer limiters'
  by_cases hc : membersChanged limiters' (limiters.map (·.tenant.version)) = true
  · rw [if_pos hc]
    refine .inr ⟨rfl, hfit, fun q => ?_⟩
    dsimp only
    rcases hpeer q with he | he <;> rw [he]
    · exact MembersBehind.refl _
    · rcases h with ⟨-, hp⟩ | ⟨-, -, hp⟩
      · rw [hp q]
        exact hadv
      · exact (hp q).trans hadv
  · rw [if_neg hc]
    obtain rfl := membersChanged_eq_false hadv (Bool.eq_false_iff.mpr hc)
    rcases h with ⟨hs, hp⟩ | ⟨hs, -, hp⟩
    · exact .inl ⟨hs, fun q => (hpeer q).elim id fun he => he.trans (hp q)⟩
    · refine .inr ⟨hs, hfit, fun q => ?_⟩
      dsimp only
      rcases hpeer q with he | he <;> rw [he]
      · exact MembersBehind.refl _
      · exact hp q

theorem MemberStep.behind {t load : UInt64} {m m' : Member} {last : Option UInt64}
    (hr : Reachable m.cfg last m.tenant) (ht : ∀ l, last = some l → l.toNat ≤ t.toNat)
    (hws : m.cfg.windowSize.toNat ≤ t.toNat) (hv : m.tenant.version.toNat + 2 < 2 ^ 64)
    (h : MemberStep t load m m') :
    (m.cfg = m'.cfg ∧ (m.tenant = m'.tenant ∨ m.tenant.version < m'.tenant.version)) ∧
      m'.tenant.windowQueue ≠ [] ∧ Reachable m'.cfg (some t) m'.tenant := by
  obtain ⟨hcfg, c, r, rfl, -, hstep⟩ := h
  obtain ⟨value, rest, hq⟩ := (step_settled hws hr.consistent hstep).shape.front
  refine ⟨⟨hcfg.symm, (eq_or_version_lt hv (step_version (hr.head_le ht) hstep)).imp_left
    Eq.symm⟩, by rw [hq]; exact List.cons_ne_nil _ _, hcfg ▸ .call hr hws hstep⟩

theorem forall₂_imp_of_mem {α β : Type} {R S : α → β → Prop} {l : List α} {l' : List β}
    (h : List.Forall₂ R l l') (hS : ∀ a ∈ l, ∀ b, R a b → S a b) : List.Forall₂ S l l' := by
  induction h with
  | nil => exact .nil
  | cons hab _ ih =>
      exact .cons (hS _ (List.mem_cons_self _ _) _ hab)
        (ih fun a ha => hS a (List.mem_cons_of_mem _ ha))

theorem runComposite_cons_ok {c : Call} {calls : List Call} {limiters limiters' : List Member}
    {result : CallResult} (h : compositeStep c limiters = .ok (limiters', result)) :
    runComposite (c :: calls) limiters =
      (runComposite calls limiters').map fun r => (r.1, result :: r.2) := by
  simp only [runComposite, h, bind, Except.bind]
  cases runComposite calls limiters' <;> rfl

theorem runCompositeCluster_cons_ok {peer : Nat} {c : Call} {calls : List (Nat × Call)}
    {cluster cluster' : CompositeCluster} {result : CallResult}
    (h : compositeClusterStep peer c cluster = .ok (cluster', result)) :
    runCompositeCluster ((peer, c) :: calls) cluster =
      (runCompositeCluster calls cluster').map fun r => (r.1, result :: r.2) := by
  simp only [runCompositeCluster, h, bind, Except.bind]
  cases runCompositeCluster calls cluster' <;> rfl

def CompositeFitsAlong (calls : List Call) (limiters : List Member) : Prop :=
  ∀ pre, pre <+: calls → ∀ limiters' results,
    runComposite pre limiters = .ok (limiters', results) → ∀ m ∈ limiters', FitsInt m.tenant

theorem CompositeFitsAlong.head {c : Call} {calls : List Call} {limiters limiters' : List Member}
    {result : CallResult} (h : CompositeFitsAlong (c :: calls) limiters)
    (hs : compositeStep c limiters = .ok (limiters', result)) : ∀ m ∈ limiters', FitsInt m.tenant :=
  h [c] (List.prefix_cons_inj c |>.mpr List.nil_prefix) limiters' [result] (by
    rw [runComposite_cons_ok hs]
    rfl)

theorem CompositeFitsAlong.tail {c : Call} {calls : List Call} {limiters limiters' : List Member}
    {result : CallResult} (h : CompositeFitsAlong (c :: calls) limiters)
    (hs : compositeStep c limiters = .ok (limiters', result)) :
    CompositeFitsAlong calls limiters' := by
  intro pre hpre ms rs hrun
  exact h (c :: pre) (List.prefix_cons_inj c |>.mpr hpre) ms (result :: rs) (by
    rw [runComposite_cons_ok hs, hrun]
    rfl)

theorem CompositeFitsAlong.start {calls : List Call} {limiters : List Member}
    (h : CompositeFitsAlong calls limiters) : ∀ m ∈ limiters, FitsInt m.tenant :=
  h [] List.nil_prefix limiters [] rfl

/-- Composite submits in timestamp order from members reached by calls up to `τ`, on a cluster
that agrees with them: the cluster's run answers as the single composite's, and each peer ends
agreeing with the single composite's last members. -/
theorem runCompositeCluster_submits {schedule : List (Nat × Call)} :
    ∀ {cluster : CompositeCluster} {limiters : List Member} {lasts : Member → Option UInt64}
      {τ : Nat},
      (∀ m ∈ limiters, Reachable m.cfg (lasts m) m.tenant ∧ ∀ l, lasts m = some l → l.toNat ≤ τ) →
      CompositeAgrees cluster limiters →
      (∀ pc ∈ schedule, ∃ t load, pc.2 = .submit t load) →
      (∀ pc ∈ schedule, τ ≤ pc.2.timestamp.toNat ∧
        ∀ cfg ∈ limiters.map (·.cfg), cfg.windowSize.toNat ≤ pc.2.timestamp.toNat) →
      (schedule.map fun pc => pc.2.timestamp.toNat).Sorted (· ≤ ·) →
      CompositeFitsAlong (schedule.map (·.2)) limiters →
      (runCompositeCluster schedule cluster).map (·.2) =
          (runComposite (schedule.map (·.2)) limiters).map (·.2) ∧
        ∀ cluster' results, runCompositeCluster schedule cluster = .ok (cluster', results) →
          ∃ limiters', runComposite (schedule.map (·.2)) limiters = .ok (limiters', results) ∧
            CompositeAgrees cluster' limiters' := by
  induction schedule with
  | nil =>
      intro cluster limiters lasts τ _ hag _ _ _ _
      refine ⟨rfl, fun cluster' results h => ?_⟩
      cases h
      exact ⟨limiters, rfl, hag⟩
  | cons pc schedule ih =>
      intro cluster limiters lasts τ hr hag hsub hts hsorted hfit
      obtain ⟨peer, c⟩ := pc
      obtain ⟨t, load, rfl⟩ := hsub _ (List.mem_cons_self _ _)
      obtain ⟨hτ, hws⟩ := hts _ (List.mem_cons_self _ _)
      rw [List.map_cons, List.sorted_cons] at hsorted
      have hws' : ∀ m ∈ limiters, m.cfg.windowSize.toNat ≤ t.toNat := fun m hm =>
        hws m.cfg (List.mem_map_of_mem _ hm)
      have hcl := @CompositeAgrees.compositeClusterStep_submit cluster limiters peer t load hag
      rw [List.map_cons]
      cases hs : compositeSubmit t load limiters with
      | error e =>
          have hstep : compositeStep (.submit t load) limiters = .error e := by
            simp only [compositeStep, hs]
            rfl
          rw [hs] at hcl
          simp only [runCompositeCluster, runComposite, hcl, hstep]
          exact ⟨rfl, fun _ _ h => by cases h⟩
      | ok r =>
          obtain ⟨limiters', result⟩ := r
          have hstep : compositeStep (.submit t load) limiters =
              .ok (limiters', .submitted result) := by
            simp only [compositeStep, hs]
            rfl
          rw [hs] at hcl
          have hmembers := forall₂_imp_of_mem
            (compositeSubmit_member_step (fun m hm => ⟨(hr m hm).1.consistent, hws' m hm⟩) hs)
            fun m hm m' hstep' => MemberStep.behind (hr m hm).1
              (fun l hl => Nat.le_trans ((hr m hm).2 l hl) hτ) (hws' m hm)
              (by have := (hfit.start m hm).1; omega) hstep'
          have hadv : MembersBehind limiters limiters' := hmembers.imp fun _ _ h => h.1
          have hfit' := hfit.head hstep
          have hag' := @CompositeAgrees.submit cluster limiters limiters' peer hag hadv
            fun m' hm' => by
              obtain ⟨m, -, -, hq, -⟩ := exists_of_forall₂_of_mem hmembers m' hm'
              exact ⟨hq, hfit' m' hm'⟩
          obtain ⟨ih1, ih2⟩ := @ih _ _ (fun _ => some t) t.toNat
            (fun m' hm' => by
              obtain ⟨m, -, -, -, hreach⟩ := exists_of_forall₂_of_mem hmembers m' hm'
              exact ⟨hreach, fun l hl => by cases hl; exact Nat.le_refl _⟩)
            hag' (fun pc hpc => hsub pc (List.mem_cons_of_mem _ hpc))
            (fun pc hpc => ⟨hsorted.1 _ (List.mem_map_of_mem _ hpc), by
              rw [← hadv.map_cfg]
              exact (hts pc (List.mem_cons_of_mem _ hpc)).2⟩)
            hsorted.2 (hfit.tail hstep)
          rw [runCompositeCluster_cons_ok hcl, runComposite_cons_ok hstep]
          refine ⟨map_snd_cons_eq _ ih1, fun cluster' results h => ?_⟩
          cases hc : runCompositeCluster schedule _ with
          | error => rw [hc] at h; cases h
          | ok res =>
              rw [hc] at h
              cases h
              obtain ⟨limiters'', hrun, hag''⟩ := ih2 _ _ hc
              exact ⟨limiters'', by rw [hrun]; rfl, hag''⟩

/-- Composite peers over an empty store, each holding fresh members of the same configurations
and serving only `Submit`s, in timestamp order and each at least every member's `WindowSize`,
while every member of the single composite's run stays within the codec's range: whatever peer
serves each call, the cluster gives the answers one composite serving the same calls gives, and
ends with its store and every peer agreeing with that composite's members. -/
theorem runCompositeCluster_submits_eq_runComposite {cfgs : List EffectiveConfig}
    {schedule : List (Nat × Call)}
    (hsub : ∀ pc ∈ schedule, ∃ t load, pc.2 = .submit t load)
    (hts : ∀ pc ∈ schedule, ∀ cfg ∈ cfgs, cfg.windowSize.toNat ≤ pc.2.timestamp.toNat)
    (hsorted : (schedule.map fun pc => pc.2.timestamp.toNat).Sorted (· ≤ ·))
    (hfit : CompositeFitsAlong (schedule.map (·.2)) (freshMembers cfgs)) :
    (runCompositeCluster schedule (CompositeCluster.fresh (freshMembers cfgs))).map (·.2) =
        (runComposite (schedule.map (·.2)) (freshMembers cfgs)).map (·.2) ∧
      ∀ cluster results,
        runCompositeCluster schedule (CompositeCluster.fresh (freshMembers cfgs)) =
          .ok (cluster, results) →
        ∃ limiters, runComposite (schedule.map (·.2)) (freshMembers cfgs) = .ok (limiters, results) ∧
          CompositeAgrees cluster limiters := by
  have hcfgs : (freshMembers cfgs).map (·.cfg) = cfgs := by
    rw [freshMembers, List.map_map]
    exact List.map_id _
  refine @runCompositeCluster_submits schedule _ _ (fun _ => none) 0 (fun m hm => ?_)
    (.inl ⟨rfl, fun _ => rfl⟩) hsub (fun pc hpc => ⟨Nat.zero_le _, by rw [hcfgs]; exact hts pc hpc⟩)
    hsorted hfit
  obtain ⟨cfg, -, rfl⟩ := List.mem_map.mp hm
  exact ⟨.fresh, fun _ h => by cases h⟩

def twoPeerCompositeSubmits : List (Nat × Call) :=
  [(0, .submit 10000 20), (1, .submit 10500 5), (0, .submit 11000 20)]

theorem twoPeerCompositeSubmits_submit :
    ∀ pc ∈ twoPeerCompositeSubmits, ∃ t load, pc.2 = .submit t load := by
  intro pc hpc
  simp only [twoPeerCompositeSubmits, List.mem_cons, List.mem_singleton, List.not_mem_nil,
    or_false] at hpc
  rcases hpc with rfl | rfl | rfl <;> exact ⟨_, _, rfl⟩

theorem compositeFitsAlong_twoPeerCompositeSubmits :
    CompositeFitsAlong (twoPeerCompositeSubmits.map (·.2))
      (freshMembers [defaultInstanceConfig, shortWindowConfig]) := by
  intro pre hpre limiters results hrun
  rw [← List.mem_inits] at hpre
  simp only [twoPeerCompositeSubmits, List.map_cons, List.map_nil, List.inits, List.mem_cons,
    List.mem_singleton, List.not_mem_nil, or_false, List.cons.injEq] at hpre
  rcases hpre with rfl | rfl | rfl | rfl
  · cases hrun
    decide
  · rw [show runComposite [.submit 10000 20] (freshMembers [defaultInstanceConfig, shortWindowConfig]) =
      .ok ([⟨defaultInstanceConfig, ⟨[⟨10000, 20⟩], false, 20, 3⟩⟩,
        ⟨shortWindowConfig, ⟨[⟨10000, 20⟩], false, 20, 3⟩⟩], [.submitted ⟨true, false, 0⟩])
      from rfl] at hrun
    cases hrun
    decide
  · rw [show runComposite [.submit 10000 20, .submit 10500 5]
        (freshMembers [defaultInstanceConfig, shortWindowConfig]) =
      .ok ([⟨defaultInstanceConfig, ⟨[⟨10000, 20⟩], false, 20, 3⟩⟩,
        ⟨shortWindowConfig, ⟨[⟨10500, 0⟩, ⟨10000, 20⟩], true, 20, 5⟩⟩],
        [.submitted ⟨true, false, 0⟩, .submitted ⟨false, true, 500000000⟩]) from rfl] at hrun
    cases hrun
    decide
  · rw [show runComposite [.submit 10000 20, .submit 10500 5, .submit 11000 20]
        (freshMembers [defaultInstanceConfig, shortWindowConfig]) =
      .ok ([⟨defaultInstanceConfig, ⟨[⟨11000, 20⟩, ⟨10000, 20⟩], false, 40, 5⟩⟩,
        ⟨shortWindowConfig, ⟨[⟨11000, 20⟩, ⟨10500, 0⟩], false, 20, 7⟩⟩],
        [.submitted ⟨true, false, 0⟩, .submitted ⟨false, true, 500000000⟩,
          .submitted ⟨true, false, 0⟩]) from rfl] at hrun
    cases hrun
    decide

theorem runCompositeCluster_submits_eq_runComposite_twoPeers :
    (runCompositeCluster twoPeerCompositeSubmits
        (CompositeCluster.fresh (freshMembers [defaultInstanceConfig, shortWindowConfig]))).map
          (·.2) =
        (runComposite (twoPeerCompositeSubmits.map (·.2))
          (freshMembers [defaultInstanceConfig, shortWindowConfig])).map (·.2) ∧
      ∀ cluster results,
        runCompositeCluster twoPeerCompositeSubmits
            (CompositeCluster.fresh (freshMembers [defaultInstanceConfig, shortWindowConfig])) =
          .ok (cluster, results) →
        ∃ limiters, runComposite (twoPeerCompositeSubmits.map (·.2))
            (freshMembers [defaultInstanceConfig, shortWindowConfig]) = .ok (limiters, results) ∧
          CompositeAgrees cluster limiters :=
  runCompositeCluster_submits_eq_runComposite twoPeerCompositeSubmits_submit (by decide)
    (by decide) compositeFitsAlong_twoPeerCompositeSubmits

end LoadLimiter
