import LoadLimiter.Core.Progress
import LoadLimiter.Composite.Limiter
import LoadLimiter.Ledger.Refinement

/-! # The rotation fast path, and a probe followed by a submit

`rotateWindow` returns early when the front starts at `S` and the back after
`S - WindowSize`; on a decreasing, aligned queue that is exactly when its full path would
change nothing (`rotationNotNeeded_iff`). A rotation leaves the queue in shape at `t`, where
the next rotation at `t` is the early return, so rotating twice is rotating once.

Without a sync adapter nothing runs between a `Probe` and a `Submit` of the same load at the
same clock reading: the submit's rotation is the early return, it compares the total the
probe compared, and it decides as the probe did. A composite `Probe` rotates its members up
to the first one that refuses; the composite `submit` rotates all of them, and gets the same
rotated members either way.

The submit must also return. A rejection computes a retry hint, and once `t + WindowSize`
wraps a `uint64` the hint's availability time falls before `t` and `computeRetryIn` panics,
where the probe had answered `false`.
-/

namespace LoadLimiter

variable {cfg : EffectiveConfig} {t load : UInt64} {tenant : TenantData}

/-! ## One tenant -/

theorem Submit_of_shape (ht : cfg.windowSize.toNat ≤ t.toNat)
    (hwrap : t.toNat + cfg.windowSize.toNat < 2 ^ 64) (hq : WindowShape cfg t tenant.windowQueue) :
    ∃ tenant' result, Submit cfg t load tenant = .ok (tenant', result) ∧
      result.accepted = decide (tenant.windowTotal + load ≤ cfg.maxLoad) := by
  rw [Submit_eq (rotateWindow_of_shape ht hq)]
  split
  · rename_i hadm
    obtain ⟨tenant', hacc, -⟩ := @acceptLoad_spec cfg t load _ hq
    rw [hacc]
    exact ⟨_, _, rfl, (decide_eq_true hadm).symm⟩
  · rename_i hadm
    obtain ⟨tenant', hs, -, heq⟩ := @rejectLoad_spec cfg t load _ ht hq
    obtain ⟨r, hr⟩ := @rejectResult_ok cfg t load _ hs hwrap
    rw [heq, hr]
    exact ⟨_, _, rfl, (rejectResult_accepted hr).trans (decide_eq_false hadm).symm⟩

theorem Submit_after_Probe {tenant' : TenantData} {admissible : Bool}
    (ht : cfg.windowSize.toNat ≤ t.toNat) (hwrap : t.toNat + cfg.windowSize.toNat < 2 ^ 64)
    (hd : StartsDecreasing tenant.windowQueue) (ha : StartsAligned cfg tenant.windowQueue)
    (hp : Probe cfg t load tenant = .ok (tenant', admissible)) :
    ∃ tenant'' result, Submit cfg t load tenant' = .ok (tenant'', result) ∧
      result.accepted = admissible := by
  obtain ⟨tenant1, hrot, hrotated⟩ := @rotateWindow_spec cfg t load tenant ht hd ha
  rw [Probe, probe_eq hrot] at hp
  cases hp
  exact Submit_of_shape ht hwrap hrotated.shape

/-! ## Composites -/

theorem mapM_ok_of_forall {α β ε : Type} {f : α → Except ε β} :
    ∀ {l : List α}, (∀ a ∈ l, ∃ b, f a = .ok b) → ∃ l', l.mapM f = .ok l'
  | [], _ => ⟨[], rfl⟩
  | a :: l, h => by
      obtain ⟨b, hb⟩ := h a (List.mem_cons_self _ _)
      obtain ⟨l', hl⟩ := mapM_ok_of_forall fun x hx => h x (List.mem_cons_of_mem _ hx)
      exact ⟨b :: l', by rw [List.mapM_cons, hb, hl]; rfl⟩

/-- A member rotated at `t`: the same configuration, the data `rotateWindow` returns, and a
queue in shape at `t`. -/
def RotatedAt (t load : UInt64) (m r : Member) : Prop :=
  r.cfg = m.cfg ∧ rotateWindow m.cfg (buildLoadRequest m.cfg t load) m.tenant = .ok r.tenant ∧
    WindowShape r.cfg t r.tenant.windowQueue

def AlignedAt (t : UInt64) (limiters : List Member) : Prop :=
  ∀ m ∈ limiters, m.cfg.windowSize.toNat ≤ t.toNat ∧ StartsDecreasing m.tenant.windowQueue ∧
    StartsAligned m.cfg m.tenant.windowQueue

theorem AlignedAt.tail {m : Member} {ms : List Member} (h : AlignedAt t (m :: ms)) :
    AlignedAt t ms :=
  fun x hx => h x (List.mem_cons_of_mem _ hx)

theorem rotatedAt_of_aligned {m : Member} (h : AlignedAt t [m]) :
    ∃ r, RotatedAt t load m r := by
  obtain ⟨ht, hd, ha⟩ := h m (List.mem_singleton_self _)
  obtain ⟨tenant', hrot, hrotated⟩ := @rotateWindow_spec m.cfg t load _ ht hd ha
  exact ⟨⟨m.cfg, tenant'⟩, rfl, hrot, hrotated.shape⟩

theorem exists_rotatedAt {limiters : List Member} (h : AlignedAt t limiters) :
    ∃ rotated, List.Forall₂ (RotatedAt t load) limiters rotated := by
  induction limiters with
  | nil => exact ⟨[], .nil⟩
  | cons m ms ih =>
      obtain ⟨r, hr⟩ := @rotatedAt_of_aligned t load m fun x hx =>
        h x (List.mem_cons.mpr (.inl (List.mem_singleton.mp hx)))
      obtain ⟨rs, hrs⟩ := ih h.tail
      exact ⟨r :: rs, .cons hr hrs⟩

theorem compositeProbe_rotatedAt {limiters limiters' : List Member} {admissible : Bool}
    (h : AlignedAt t limiters)
    (hp : compositeProbe t load limiters = .ok (limiters', admissible)) :
    ∃ rotated, List.Forall₂ (RotatedAt t load) limiters' rotated ∧
      List.Forall₂ (fun m r => r.cfg = m.cfg) limiters rotated ∧
      rotated.all (admits load) = admissible := by
  induction limiters generalizing limiters' admissible with
  | nil => cases hp; exact ⟨[], .nil, .nil, rfl⟩
  | cons m ms ih =>
      obtain ⟨r, hcfg, hrot, hshape⟩ := @rotatedAt_of_aligned t load m fun x hx =>
        h x (List.mem_cons.mpr (.inl (List.mem_singleton.mp hx)))
      obtain ⟨cfg', tenant'⟩ := r
      dsimp only at hcfg hrot hshape
      subst hcfg
      have hfix : RotatedAt t load ⟨m.cfg, tenant'⟩ ⟨m.cfg, tenant'⟩ :=
        ⟨rfl, rotateWindow_of_shape (h m (List.mem_cons_self _ _)).1 hshape, hshape⟩
      simp only [compositeProbe, probe_eq hrot, bind, Except.bind] at hp
      split at hp
      · rename_i hno
        cases hp
        obtain ⟨rs, hrs⟩ := @exists_rotatedAt t load _ h.tail
        refine ⟨⟨m.cfg, tenant'⟩ :: rs, .cons hfix hrs, .cons rfl (hrs.imp fun _ _ h => h.1), ?_⟩
        simp only [buildLoadRequest_requestedLoad, Bool.not_eq_true'] at hno
        simp only [List.all_cons, admits, hno, Bool.false_and]
      · rename_i hyes
        cases hrest : compositeProbe t load ms with
        | error => rw [hrest] at hp; cases hp
        | ok res =>
            rw [hrest] at hp
            cases hp
            obtain ⟨rs, hrs, hcfgs, hall⟩ := ih h.tail hrest
            refine ⟨⟨m.cfg, tenant'⟩ :: rs, .cons hfix hrs, .cons rfl hcfgs, ?_⟩
            simp only [buildLoadRequest_requestedLoad, Bool.not_eq_true', Bool.not_eq_false] at hyes
            simp only [List.all_cons, admits, hyes, Bool.true_and, ← hall]

theorem settleMember_ok {r : Member} (ht : r.cfg.windowSize.toNat ≤ t.toNat)
    (hwrap : t.toNat + r.cfg.windowSize.toNat < 2 ^ 64)
    (hq : WindowShape r.cfg t r.tenant.windowQueue) : ∃ m, settleMember t load r = .ok m := by
  unfold settleMember
  split
  · exact ⟨r, rfl⟩
  · obtain ⟨tenant', hs, -, heq⟩ := @rejectLoad_spec r.cfg t load _ ht hq
    obtain ⟨res, hres⟩ := @rejectResult_ok r.cfg t load _ hs hwrap
    rw [heq, hres]
    exact ⟨_, rfl⟩

theorem compositeSubmit_of_rotatedAt {limiters rotated : List Member}
    (hrot : List.Forall₂ (RotatedAt t load) limiters rotated)
    (hw : ∀ r ∈ rotated, r.cfg.windowSize.toNat ≤ t.toNat ∧
      t.toNat + r.cfg.windowSize.toNat < 2 ^ 64) :
    ∃ limiters' result, compositeSubmit t load limiters = .ok (limiters', result) ∧
      result.accepted = rotated.all (admits load) := by
  have hshape : ∀ r ∈ rotated, WindowShape r.cfg t r.tenant.windowQueue := fun r hr => by
    obtain ⟨m, -, -, -, hs⟩ := exists_of_forall₂_of_mem hrot r hr
    exact hs
  have hloop := submitProbeLoop_eq (hrot.imp fun _ _ h => ⟨h.1, h.2.1⟩) true 0
  obtain ⟨settled, hset⟩ := @mapM_ok_of_forall _ _ _ (settleMember t load) rotated fun r hr =>
    settleMember_ok (hw r hr).1 (hw r hr).2 (hshape r hr)
  rw [hset, Bool.true_and] at hloop
  cases hL : submitProbeLoop t load limiters true 0 with
  | error => rw [hL] at hloop; cases hloop
  | ok x =>
      obtain ⟨probed, allAccepted, highestWaitTime⟩ := x
      simp only [hL, Except.map, Except.ok.injEq, Prod.mk.injEq] at hloop
      obtain ⟨rfl, rfl⟩ := hloop
      unfold compositeSubmit
      rw [hL]
      dsimp only [bind, Except.bind]
      split
      · rename_i hall
        rw [mapM_settleMember_of_all hall] at hset
        cases hset
        obtain ⟨accepted, hacc⟩ := @mapM_ok_of_forall _ _ _ (acceptMember t load) rotated
          fun r hr => by
            obtain ⟨tenant', hacc, -⟩ := @acceptLoad_spec r.cfg t load _ (hshape r hr)
            exact ⟨_, by rw [acceptMember, hacc]; rfl⟩
        rw [acceptMembers_eq, hacc]
        exact ⟨_, _, rfl, rfl⟩
      · exact ⟨_, _, rfl, rfl⟩

theorem compositeSubmit_after_compositeProbe {limiters limiters' : List Member}
    {admissible : Bool} (h : AlignedAt t limiters)
    (hwrap : ∀ m ∈ limiters, t.toNat + m.cfg.windowSize.toNat < 2 ^ 64)
    (hp : compositeProbe t load limiters = .ok (limiters', admissible)) :
    ∃ limiters'' result, compositeSubmit t load limiters' = .ok (limiters'', result) ∧
      result.accepted = admissible := by
  obtain ⟨rotated, hrot, hcfg, hall⟩ := compositeProbe_rotatedAt h hp
  obtain ⟨limiters'', result, hs, hacc⟩ := compositeSubmit_of_rotatedAt hrot fun r hr => by
    obtain ⟨m, hm, hc⟩ := exists_of_forall₂_of_mem hcfg r hr
    rw [hc]
    exact ⟨(h m hm).1, hwrap m hm⟩
  exact ⟨limiters'', result, hs, hacc.trans hall⟩

/-! ## The fast path, assembled -/

/-- On decreasing, aligned queues at `t ≥ WindowSize`: the early return is taken exactly when
the full path would change nothing, rotating twice is rotating once, and a `Submit` right
after a `Probe` of the same load decides as the probe did, standalone or composite, as long as
`t + WindowSize` does not wrap. -/
theorem rotationFastPath_exact :
    (∀ (cfg : EffectiveConfig) (t load : UInt64) (tenant : TenantData),
        cfg.windowSize.toNat ≤ t.toNat → StartsDecreasing tenant.windowQueue →
        StartsAligned cfg tenant.windowQueue →
        (rotationNotNeeded (locateSegmentStartTime cfg t)
            (locateSegmentStartTime cfg t - cfg.windowSize) tenant.windowQueue = true ↔
          ∃ tenant', rotateWindowFull cfg (buildLoadRequest cfg t load) tenant = .ok tenant' ∧
            tenant'.windowQueue = tenant.windowQueue ∧ tenant'.windowTotal = tenant.windowTotal ∧
            tenant'.version = tenant.version)) ∧
      (∀ (cfg : EffectiveConfig) (t load : UInt64) (tenant : TenantData),
        cfg.windowSize.toNat ≤ t.toNat → StartsDecreasing tenant.windowQueue →
        StartsAligned cfg tenant.windowQueue →
        (rotateWindow cfg (buildLoadRequest cfg t load) tenant >>=
            rotateWindow cfg (buildLoadRequest cfg t load)) =
          rotateWindow cfg (buildLoadRequest cfg t load) tenant) ∧
      (∀ (cfg : EffectiveConfig) (t load : UInt64) (tenant tenant' : TenantData)
          (admissible : Bool),
        cfg.windowSize.toNat ≤ t.toNat → t.toNat + cfg.windowSize.toNat < 2 ^ 64 →
        StartsDecreasing tenant.windowQueue → StartsAligned cfg tenant.windowQueue →
        Probe cfg t load tenant = .ok (tenant', admissible) →
        ∃ tenant'' result, Submit cfg t load tenant' = .ok (tenant'', result) ∧
          result.accepted = admissible) ∧
      (∀ (t load : UInt64) (limiters limiters' : List Member) (admissible : Bool),
        AlignedAt t limiters → (∀ m ∈ limiters, t.toNat + m.cfg.windowSize.toNat < 2 ^ 64) →
        compositeProbe t load limiters = .ok (limiters', admissible) →
        ∃ limiters'' result, compositeSubmit t load limiters' = .ok (limiters'', result) ∧
          result.accepted = admissible) :=
  ⟨fun _ _ _ _ ht hd ha => rotationNotNeeded_iff ht hd ha,
    fun _ _ load _ ht hd ha => rotateWindow_bind_rotateWindow ht hd ha load load,
    fun _ _ _ _ _ _ ht hw hd ha hp => Submit_after_Probe ht hw hd ha hp,
    fun _ _ _ _ _ h hw hp => compositeSubmit_after_compositeProbe h hw hp⟩

/-- Each part at a tenant holding `5` in its segment at `1000000`, served at `1000500`. -/
theorem rotationFastPath_exact_default :
    (∃ tenant', rotateWindowFull defaultInstanceConfig
        (buildLoadRequest defaultInstanceConfig 1000500 1) ⟨[⟨1000000, 5⟩], false, 5, 3⟩ =
          .ok tenant' ∧
        tenant'.windowQueue = [⟨1000000, 5⟩] ∧ tenant'.windowTotal = 5 ∧ tenant'.version = 3) ∧
      (rotateWindow defaultInstanceConfig (buildLoadRequest defaultInstanceConfig 1000500 1)
          newTenantData >>=
          rotateWindow defaultInstanceConfig (buildLoadRequest defaultInstanceConfig 1000500 1)) =
        rotateWindow defaultInstanceConfig (buildLoadRequest defaultInstanceConfig 1000500 1)
          newTenantData ∧
      (∃ tenant'' result, Submit defaultInstanceConfig 1000500 1 ⟨[⟨1000000, 5⟩], false, 5, 3⟩ =
        .ok (tenant'', result) ∧ result.accepted = true) ∧
      (∃ limiters'' result, compositeSubmit 1000500 1
          [⟨defaultInstanceConfig, ⟨[⟨1000000, 5⟩], false, 5, 3⟩⟩] = .ok (limiters'', result) ∧
        result.accepted = true) :=
  ⟨(rotationFastPath_exact.1 _ _ _ _ (by decide) (by decide) (by decide)).mp (by decide),
    rotationFastPath_exact.2.1 _ _ _ _ (by decide) (by decide) (by decide),
    rotationFastPath_exact.2.2.1 _ _ _ ⟨[⟨1000000, 5⟩], false, 5, 3⟩ _ _ (by decide) (by decide)
      (by decide) (by decide) rfl,
    rotationFastPath_exact.2.2.2 _ _ [⟨defaultInstanceConfig, ⟨[⟨1000000, 5⟩], false, 5, 3⟩⟩] _ _
      (fun m hm => by rw [List.mem_singleton.mp hm]; decide)
      (fun m hm => by rw [List.mem_singleton.mp hm]; decide) rfl⟩

/-- At the top of the clock's range a tenant in shape probes `false`, and the `Submit` that
follows panics in `computeRetryIn`: the hint's availability time `S + WindowSize` wraps below
`t`. -/
theorem Submit_after_Probe_wraps :
    Probe defaultInstanceConfig 18446744073709545500 1
        ⟨[⟨18446744073709545000, 100⟩], false, 100, 3⟩ =
      .ok (⟨[⟨18446744073709545000, 100⟩], false, 100, 3⟩, false) ∧
    Submit defaultInstanceConfig 18446744073709545500 1
        ⟨[⟨18446744073709545000, 100⟩], false, 100, 3⟩ =
      .error (.message inconsistentMinSegmentAvailTime) :=
  ⟨rfl, rfl⟩

end LoadLimiter
