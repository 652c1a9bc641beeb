import LoadLimiter.Core.Invariant

/-! # The composite limiter

`compositeLoadLimiterDefaultImpl` of the source: a list of standalone limiters, each with its
own configuration and its own data for the tenant. `submit` probes every member, calls
`rejectLoad` on each member whose probe fails and keeps the highest retry hint among the
rejections, and only when every probe passed calls `acceptLoad` on every member, with the
requests saved by the first loop. `Probe` stops at the first member whose probe fails.

The documentation describes `submit` as a conjunction applied atomically to all members or
to none; `conjunctionSubmit` states that description, and `compositeSubmit` refines it.
-/

namespace LoadLimiter

/-- A member limiter of a composite, with its data for the tenant. -/
structure Member where
  cfg : EffectiveConfig
  tenant : TenantData

/-- The second member of the test suite's composite: `MaxLoad` 20 over a 1 s window of
100 ms segments, no penalties, the default cap factor. -/
def shortWindowConfig : EffectiveConfig where
  maxLoad := 20
  windowSize := 1000
  windowSegmentSize := 100
  numSegments := 10
  skipRetryInComputing := false
  applyOverstepPenalty := false
  absoluteOverstepPenalty := 0
  overstepPenaltySegmentSpan := 0
  applyRequestOverheadPenalty := false
  requestOverheadPenalty := fun _ => none
  requestOverheadPenaltySegmentSpan := 0
  applyPenaltyCapping := true
  absoluteMaxPenaltyCap := 30
  maxLoad_pos := by decide
  segment_pos := by decide
  segment_le_window := by decide
  window_dvd := by decide
  numSegments_eq := by decide
  window_le := by decide
  capping := rfl
  overstepSpan := by decide
  overheadSpan := by decide

/-- How a rejection updates `highestWaitTime` in `submit`: an available hint replaces it when
none was set yet or when the hint is longer. -/
def raiseWaitTime (highestWaitTime : Duration) (rejectionResult : SubmitResult) : Duration :=
  if rejectionResult.retryInAvailable &&
      (highestWaitTime == 0 || decide (rejectionResult.retryIn > highestWaitTime)) then
    rejectionResult.retryIn
  else highestWaitTime

/-- The first loop of `compositeLoadLimiterDefaultImpl.submit`: every member is probed, and a
member whose probe fails gets `rejectLoad`, whose hint may raise `highestWaitTime`. -/
def submitProbeLoop (t load : UInt64) :
    List Member → Bool → Duration → Except Panic (List Member × Bool × Duration)
  | [], allAccepted, highestWaitTime => pure ([], allAccepted, highestWaitTime)
  | limiter :: limiters, allAccepted, highestWaitTime => do
      let sr := buildLoadRequest limiter.cfg t load
      let (tenant, probeResult) ← probe limiter.cfg sr limiter.tenant
      if !probeResult then
        let (tenant, rejectionResult) ← rejectLoad limiter.cfg sr tenant
        let (rest, allAccepted, highestWaitTime) ←
          submitProbeLoop t load limiters false (raiseWaitTime highestWaitTime rejectionResult)
        pure (⟨limiter.cfg, tenant⟩ :: rest, allAccepted, highestWaitTime)
      else
        let (rest, allAccepted, highestWaitTime) ←
          submitProbeLoop t load limiters allAccepted highestWaitTime
        pure (⟨limiter.cfg, tenant⟩ :: rest, allAccepted, highestWaitTime)

/-- The second loop of `submit`: `acceptLoad` on every member with its saved request. -/
def acceptMembers (t load : UInt64) : List Member → Except Panic (List Member)
  | [] => pure []
  | limiter :: limiters => do
      let tenant ← acceptLoad limiter.cfg (buildLoadRequest limiter.cfg t load) limiter.tenant
      let rest ← acceptMembers t load limiters
      pure (⟨limiter.cfg, tenant⟩ :: rest)

/-- `compositeLoadLimiterDefaultImpl.submit` at clock `t`. -/
def compositeSubmit (t load : UInt64) (limiters : List Member) :
    Except Panic (List Member × SubmitResult) := do
  let (limiters, allAccepted, highestWaitTime) ← submitProbeLoop t load limiters true 0
  let limiters ← if allAccepted then acceptMembers t load limiters else pure limiters
  pure (limiters, { accepted := allAccepted
                    retryInAvailable := !allAccepted && decide (highestWaitTime > 0)
                    retryIn := highestWaitTime })

/-- The loop of the composite `Probe`, which breaks at the first member whose probe fails. -/
def compositeProbe (t load : UInt64) : List Member → Except Panic (List Member × Bool)
  | [] => pure ([], true)
  | limiter :: limiters => do
      let (tenant, r) ← probe limiter.cfg (buildLoadRequest limiter.cfg t load) limiter.tenant
      if !r then pure (⟨limiter.cfg, tenant⟩ :: limiters, false)
      else
        let (limiters, outResult) ← compositeProbe t load limiters
        pure (⟨limiter.cfg, tenant⟩ :: limiters, outResult)

def compositeStep : Call → List Member → Except Panic (List Member × CallResult)
  | .probe t load, limiters => do
      let (limiters, admissible) ← compositeProbe t load limiters
      pure (limiters, .probed admissible)
  | .submit t load, limiters => do
      let (limiters, result) ← compositeSubmit t load limiters
      pure (limiters, .submitted result)

def runComposite : List Call → List Member → Except Panic (List Member × List CallResult)
  | [], limiters => .ok (limiters, [])
  | c :: calls, limiters => do
      let (limiters, result) ← compositeStep c limiters
      let (limiters, results) ← runComposite calls limiters
      pure (limiters, result :: results)

/-! ## The conjunction -/

def rotateMember (t load : UInt64) (m : Member) : Except Panic Member := do
  let tenant ← rotateWindow m.cfg (buildLoadRequest m.cfg t load) m.tenant
  pure ⟨m.cfg, tenant⟩

def admits (load : UInt64) (m : Member) : Bool :=
  decide (m.tenant.windowTotal + load ≤ m.cfg.maxLoad)

def acceptMember (t load : UInt64) (m : Member) : Except Panic Member := do
  let tenant ← acceptLoad m.cfg (buildLoadRequest m.cfg t load) m.tenant
  pure ⟨m.cfg, tenant⟩

/-- A rotated member of a rejecting composite: it rejects the load when it does not admit it,
and is left as it is otherwise. -/
def settleMember (t load : UInt64) (m : Member) : Except Panic Member :=
  if admits load m then pure m
  else do
    let (tenant, _) ← rejectLoad m.cfg (buildLoadRequest m.cfg t load) m.tenant
    pure ⟨m.cfg, tenant⟩

/-- The composite submit as its documentation describes it: every member is rotated at `t`;
when every rotated member admits the load every member accepts it, and otherwise every member
that does not admit it rejects it while the others keep their rotated state. -/
def conjunctionSubmit (t load : UInt64) (limiters : List Member) :
    Except Panic (List Member × Bool) := do
  let rotated ← limiters.mapM (rotateMember t load)
  if rotated.all (admits load) then
    let accepted ← rotated.mapM (acceptMember t load)
    pure (accepted, true)
  else
    let settled ← rotated.mapM (settleMember t load)
    pure (settled, false)

section Refinement

variable {t load : UInt64}

def Rotatable (t : UInt64) (limiters : List Member) : Prop :=
  ∀ m ∈ limiters, Consistent m.cfg m.tenant ∧ m.cfg.windowSize.toNat ≤ t.toNat

theorem rotateMember_ok {m : Member} (hc : Consistent m.cfg m.tenant)
    (ht : m.cfg.windowSize.toNat ≤ t.toNat) :
    ∃ r, rotateMember t load m = .ok r ∧ r.cfg = m.cfg ∧
      rotateWindow m.cfg (buildLoadRequest m.cfg t load) m.tenant = .ok r.tenant := by
  obtain ⟨tenant', hrot, -⟩ := @rotateWindow_settled m.cfg t load _ ht hc
  exact ⟨⟨m.cfg, tenant'⟩, by simp only [rotateMember, hrot]; rfl, rfl, hrot⟩

theorem mapM_rotateMember {limiters : List Member} (h : Rotatable t limiters) :
    ∃ rotated, limiters.mapM (rotateMember t load) = .ok rotated ∧
      List.Forall₂ (fun m r => r.cfg = m.cfg ∧
        rotateWindow m.cfg (buildLoadRequest m.cfg t load) m.tenant = .ok r.tenant)
        limiters rotated := by
  induction limiters with
  | nil => exact ⟨[], rfl, .nil⟩
  | cons m ms ih =>
      obtain ⟨r, hr, hcfg, hrot⟩ := @rotateMember_ok t load m (h m (List.mem_cons_self _ _)).1
        (h m (List.mem_cons_self _ _)).2
      obtain ⟨rs, hrs, hall⟩ := ih fun x hx => h x (List.mem_cons_of_mem _ hx)
      refine ⟨r :: rs, ?_, .cons ⟨hcfg, hrot⟩ hall⟩
      rw [List.mapM_cons, hr, hrs]
      rfl

theorem acceptMembers_eq (limiters : List Member) :
    acceptMembers t load limiters = limiters.mapM (acceptMember t load) := by
  induction limiters with
  | nil => rfl
  | cons m ms ih =>
      rw [List.mapM_cons, acceptMembers, ih, acceptMember]
      cases acceptLoad m.cfg (buildLoadRequest m.cfg t load) m.tenant <;> rfl

theorem submitProbeLoop_cons_of_admits {m : Member} {ms : List Member} {tenant' : TenantData}
    (hrot : rotateWindow m.cfg (buildLoadRequest m.cfg t load) m.tenant = .ok tenant')
    (hp : admits load ⟨m.cfg, tenant'⟩ = true) (allAccepted : Bool) (highestWaitTime : Duration) :
    submitProbeLoop t load (m :: ms) allAccepted highestWaitTime =
      (submitProbeLoop t load ms allAccepted highestWaitTime).map
        fun x => (⟨m.cfg, tenant'⟩ :: x.1, x.2) := by
  unfold admits at hp
  dsimp only at hp
  simp only [submitProbeLoop, probe_eq hrot, buildLoadRequest_requestedLoad, hp, bind,
    Except.bind, Bool.not_true]
  cases submitProbeLoop t load ms allAccepted highestWaitTime <;> rfl

theorem submitProbeLoop_cons_of_not_admits {m : Member} {ms : List Member}
    {tenant' : TenantData}
    (hrot : rotateWindow m.cfg (buildLoadRequest m.cfg t load) m.tenant = .ok tenant')
    (hp : admits load ⟨m.cfg, tenant'⟩ = false) (allAccepted : Bool) (highestWaitTime : Duration) :
    submitProbeLoop t load (m :: ms) allAccepted highestWaitTime =
      rejectLoad m.cfg (buildLoadRequest m.cfg t load) tenant' >>= fun (tenant, rejection) =>
        (submitProbeLoop t load ms false (raiseWaitTime highestWaitTime rejection)).map
          fun x => (⟨m.cfg, tenant⟩ :: x.1, x.2) := by
  unfold admits at hp
  dsimp only at hp
  simp only [submitProbeLoop, probe_eq hrot, buildLoadRequest_requestedLoad, hp, bind,
    Except.bind, Bool.not_false]
  cases rejectLoad m.cfg (buildLoadRequest m.cfg t load) tenant' with
  | error => rfl
  | ok res =>
      obtain ⟨tenant'', rejection⟩ := res
      cases submitProbeLoop t load ms false (raiseWaitTime highestWaitTime rejection) <;> rfl

theorem submitProbeLoop_eq {limiters rotated : List Member}
    (hrot : List.Forall₂ (fun m r => r.cfg = m.cfg ∧
      rotateWindow m.cfg (buildLoadRequest m.cfg t load) m.tenant = .ok r.tenant)
      limiters rotated) (allAccepted : Bool) (highestWaitTime : Duration) :
    (submitProbeLoop t load limiters allAccepted highestWaitTime).map (fun r => (r.1, r.2.1)) =
      (rotated.mapM (settleMember t load)).map
        (·, allAccepted && rotated.all (admits load)) := by
  induction hrot generalizing allAccepted highestWaitTime with
  | nil => cases allAccepted <;> rfl
  | @cons m r ms rs hmr _ ih =>
      obtain ⟨hcfg, hrotm⟩ := hmr
      obtain ⟨cfg', tenant'⟩ := r
      dsimp only at hcfg hrotm
      subst hcfg
      rw [List.mapM_cons, List.all_cons]
      cases hp : admits load ⟨m.cfg, tenant'⟩
      · rw [submitProbeLoop_cons_of_not_admits hrotm hp, settleMember, if_neg (by simp [hp])]
        cases rejectLoad m.cfg (buildLoadRequest m.cfg t load) tenant' with
        | error => rfl
        | ok res =>
            obtain ⟨tenant'', rejection⟩ := res
            have := ih false (raiseWaitTime highestWaitTime rejection)
            revert this
            dsimp only [bind, Except.bind]
            cases submitProbeLoop t load ms false (raiseWaitTime highestWaitTime rejection) <;>
              cases List.mapM (settleMember t load) rs <;>
              simp [Except.map, bind, Except.bind, pure, Except.pure]
      · rw [submitProbeLoop_cons_of_admits hrotm hp, settleMember, if_pos hp]
        have := ih allAccepted highestWaitTime
        revert this
        cases submitProbeLoop t load ms allAccepted highestWaitTime <;>
          cases List.mapM (settleMember t load) rs <;>
          simp [Except.map, bind, Except.bind, pure, Except.pure]

theorem mapM_settleMember_of_all {rotated : List Member}
    (ha : rotated.all (admits load) = true) : rotated.mapM (settleMember t load) = .ok rotated := by
  induction rotated with
  | nil => rfl
  | cons m ms ih =>
      rw [List.all_cons, Bool.and_eq_true] at ha
      rw [List.mapM_cons, settleMember, if_pos ha.1, ih ha.2]
      rfl

theorem compositeSubmit_eq_conjunctionSubmit {limiters : List Member} (h : Rotatable t limiters) :
    (compositeSubmit t load limiters).map (fun r => (r.1, r.2.accepted)) =
      conjunctionSubmit t load limiters := by
  obtain ⟨rotated, hmap, hrot⟩ := @mapM_rotateMember t load _ h
  have hloop := submitProbeLoop_eq hrot true 0
  rw [Bool.true_and] at hloop
  unfold conjunctionSubmit compositeSubmit
  rw [hmap]
  cases hL : submitProbeLoop t load limiters true 0 with
  | error e =>
      rw [hL] at hloop
      by_cases ha : rotated.all (admits load) = true
      · rw [mapM_settleMember_of_all ha] at hloop
        cases hloop
      · cases hS : rotated.mapM (settleMember t load) with
        | ok => rw [hS] at hloop; cases hloop
        | error e' =>
            rw [hS] at hloop
            cases hloop
            simp only [bind, Except.bind, if_neg ha, hS]
            rfl
  | ok x =>
      rw [hL] at hloop
      obtain ⟨probed, allAccepted, highestWaitTime⟩ := x
      dsimp only [Except.map] at hloop
      by_cases ha : rotated.all (admits load) = true
      · rw [mapM_settleMember_of_all ha, ha] at hloop
        obtain ⟨hp, rfl⟩ := Prod.mk.inj (Except.ok.inj hloop)
        rw [hp]
        simp only [bind, Except.bind, ha, if_true, acceptMembers_eq]
        cases rotated.mapM (acceptMember t load) <;> rfl
      · rw [Bool.not_eq_true] at ha
        rw [ha] at hloop
        cases hS : rotated.mapM (settleMember t load) with
        | error => rw [hS] at hloop; cases hloop
        | ok settled =>
            rw [hS] at hloop
            obtain ⟨hp, rfl⟩ := Prod.mk.inj (Except.ok.inj hloop)
            rw [hp]
            simp only [bind, Except.bind, ha, hS, Bool.false_eq_true, if_false]
            rfl

/-- The composite `submit` at `t`, on members whose data is consistent and whose windows fit
below `t`, is the conjunction of its members: the same member states and the same decision. -/
theorem compositeSubmit_refines_conjunction {limiters : List Member} (h : Rotatable t limiters) :
    (compositeSubmit t load limiters).map (fun r => (r.1, r.2.accepted)) =
      conjunctionSubmit t load limiters :=
  compositeSubmit_eq_conjunctionSubmit h

/-- The refinement on the test suite's composite with load in both windows: at 1000500 the
default member, holding 90, rejects a load of 15 that the short one, holding 5, has room for,
so the conjunction rejects it. -/
theorem compositeSubmit_refines_conjunction_loaded :
    (compositeSubmit 1000500 15 [⟨defaultInstanceConfig, ⟨[⟨1000000, 90⟩], false, 90, 3⟩⟩,
        ⟨shortWindowConfig, ⟨[⟨1000000, 5⟩], false, 5, 3⟩⟩]).map (fun r => (r.1, r.2.accepted)) =
      conjunctionSubmit 1000500 15 [⟨defaultInstanceConfig, ⟨[⟨1000000, 90⟩], false, 90, 3⟩⟩,
        ⟨shortWindowConfig, ⟨[⟨1000000, 5⟩], false, 5, 3⟩⟩] ∧
    ∃ limiters', conjunctionSubmit 1000500 15
        [⟨defaultInstanceConfig, ⟨[⟨1000000, 90⟩], false, 90, 3⟩⟩,
          ⟨shortWindowConfig, ⟨[⟨1000000, 5⟩], false, 5, 3⟩⟩] = .ok (limiters', false) :=
  ⟨compositeSubmit_refines_conjunction fun m hm => by
    simp only [List.mem_cons, List.mem_singleton, List.not_mem_nil, or_false] at hm
    rcases hm with rfl | rfl <;> exact ⟨⟨by decide, by decide, by decide⟩, by decide⟩,
    _, rfl⟩

end Refinement

/-! ## Members take standalone steps -/

theorem forall₂_of_mapM_ok {α β ε : Type} {f : α → Except ε β} :
    ∀ {l : List α} {l' : List β}, l.mapM f = .ok l' → List.Forall₂ (fun a b => f a = .ok b) l l'
  | [], l', h => by cases h; exact .nil
  | a :: l, l', h => by
      rw [List.mapM_cons] at h
      cases ha : f a with
      | error => rw [ha] at h; cases h
      | ok b =>
          rw [ha] at h
          cases hl : l.mapM f with
          | error => rw [hl] at h; cases h
          | ok bs =>
              rw [hl] at h
              cases h
              exact .cons ha (forall₂_of_mapM_ok hl)

theorem forall₂_comp {α β γ : Type} {R : α → β → Prop} {S : β → γ → Prop}
    {T : α → γ → Prop} {P : β → Prop} (h : ∀ a b c, R a b → S b c → P b → T a c) :
    ∀ {l₁ : List α} {l₂ : List β} {l₃ : List γ}, List.Forall₂ R l₁ l₂ → List.Forall₂ S l₂ l₃ →
      (∀ b ∈ l₂, P b) → List.Forall₂ T l₁ l₃
  | _, _, _, .nil, .nil, _ => .nil
  | _, _, _, .cons hab h₁, .cons hbc h₂, hp =>
      .cons (h _ _ _ hab hbc (hp _ (List.mem_cons_self _ _)))
        (forall₂_comp h h₁ h₂ fun b hb => hp b (List.mem_cons_of_mem _ hb))

/-- What a standalone call of `load` at `t` on a member does to it. -/
def MemberStep (t load : UInt64) (m m' : Member) : Prop :=
  m'.cfg = m.cfg ∧
    ∃ c r, c.timestamp = t ∧ c.load = load ∧ step m.cfg c m.tenant = .ok (m'.tenant, r)

theorem acceptMember_step {m r m' : Member} (hr : r.cfg = m.cfg ∧
      rotateWindow m.cfg (buildLoadRequest m.cfg t load) m.tenant = .ok r.tenant)
    (ha : admits load r = true) (hm : acceptMember t load r = .ok m') :
    MemberStep t load m m' := by
  obtain ⟨cfg, tenant⟩ := r
  obtain ⟨rfl, hrot⟩ := hr
  unfold acceptMember at hm
  cases hacc : acceptLoad m.cfg (buildLoadRequest m.cfg t load) tenant with
  | error => rw [hacc] at hm; cases hm
  | ok tenant' =>
      rw [hacc] at hm
      cases hm
      refine ⟨rfl, .submit t load, .submitted ⟨true, false, 0⟩, rfl, rfl, ?_⟩
      unfold admits at ha
      simp only [step, Submit_eq hrot, decide_eq_true_eq.mp ha, if_true, hacc]
      rfl

theorem settleMember_step {m r m' : Member} (hr : r.cfg = m.cfg ∧
      rotateWindow m.cfg (buildLoadRequest m.cfg t load) m.tenant = .ok r.tenant)
    (hm : settleMember t load r = .ok m') : MemberStep t load m m' := by
  obtain ⟨cfg, tenant⟩ := r
  obtain ⟨rfl, hrot⟩ := hr
  unfold settleMember admits at hm
  split at hm
  · rename_i ha
    cases hm
    refine ⟨rfl, .probe t load, .probed true, rfl, rfl, ?_⟩
    simp only [step, Probe, probe_eq hrot, buildLoadRequest_requestedLoad]
    simp only [ha]
    rfl
  · rename_i ha
    cases hrej : rejectLoad m.cfg (buildLoadRequest m.cfg t load) tenant with
    | error => rw [hrej] at hm; cases hm
    | ok res =>
        rw [hrej] at hm
        cases hm
        refine ⟨rfl, .submit t load, .submitted res.2, rfl, rfl, ?_⟩
        have hn : ¬tenant.windowTotal + load ≤ m.cfg.maxLoad := fun h => ha (decide_eq_true h)
        simp only [step, Submit_eq hrot, if_neg hn, hrej]
        rfl

/-- Every member of a composite `submit` at `t` that returns ends where a standalone `Probe` or
`Submit` of the load at `t` leaves it. -/
theorem compositeSubmit_member_step {limiters limiters' : List Member} {result : SubmitResult}
    (h : Rotatable t limiters) (hs : compositeSubmit t load limiters = .ok (limiters', result)) :
    List.Forall₂ (MemberStep t load) limiters limiters' := by
  have href := @compositeSubmit_eq_conjunctionSubmit t load _ h
  rw [hs] at href
  obtain ⟨rotated, hmap, hrot⟩ := @mapM_rotateMember t load _ h
  unfold conjunctionSubmit at href
  rw [hmap] at href
  dsimp only [bind, Except.bind] at href
  split at href
  · rename_i ha
    cases hacc : rotated.mapM (acceptMember t load) with
    | error => rw [hacc] at href; cases href
    | ok accepted =>
        rw [hacc] at href
        obtain ⟨rfl, -⟩ := Prod.mk.inj (Except.ok.inj href)
        exact @forall₂_comp Member Member Member _ _ (MemberStep t load)
          (fun r => admits load r = true) (fun m r m' hr hm ha => acceptMember_step hr ha hm)
          _ _ _ hrot (forall₂_of_mapM_ok hacc) (List.all_eq_true.mp ha)
  · cases hset : rotated.mapM (settleMember t load) with
    | error => rw [hset] at href; cases href
    | ok settled =>
        rw [hset] at href
        obtain ⟨rfl, -⟩ := Prod.mk.inj (Except.ok.inj href)
        exact @forall₂_comp Member Member Member
          (fun m r => r.cfg = m.cfg ∧
            rotateWindow m.cfg (buildLoadRequest m.cfg t load) m.tenant = .ok r.tenant)
          (fun r m' => settleMember t load r = .ok m') (MemberStep t load) (fun _ => True)
          (fun m r m' hr hm _ => settleMember_step hr hm) _ _ _ hrot (forall₂_of_mapM_ok hset)
          fun _ _ => trivial

/-- Every member of a composite `Probe` at `t` that returns is left as it was or where a
standalone `Probe` of the load at `t` leaves it. -/
theorem compositeProbe_member_step {limiters limiters' : List Member} {admissible : Bool}
    (h : Rotatable t limiters)
    (hp : compositeProbe t load limiters = .ok (limiters', admissible)) :
    List.Forall₂ (fun m m' => m' = m ∨
      m'.cfg = m.cfg ∧ ∃ r, step m.cfg (.probe t load) m.tenant = .ok (m'.tenant, r))
      limiters limiters' := by
  induction limiters generalizing limiters' admissible with
  | nil => cases hp; exact .nil
  | cons m ms ih =>
      obtain ⟨⟨cfg, tenant'⟩, -, hcfg, hrot⟩ := @rotateMember_ok t load m
        (h m (List.mem_cons_self _ _)).1 (h m (List.mem_cons_self _ _)).2
      dsimp only at hcfg hrot
      subst hcfg
      have hstep : step m.cfg (.probe t load) m.tenant =
          .ok (tenant', .probed (admits load ⟨m.cfg, tenant'⟩)) := by
        simp only [step, Probe, probe_eq hrot]
        rfl
      simp only [compositeProbe, probe_eq hrot, bind, Except.bind] at hp
      split at hp
      · cases hp
        exact .cons (.inr ⟨rfl, _, hstep⟩) (List.forall₂_same.mpr fun _ _ => .inl rfl)
      · cases hrest : compositeProbe t load ms with
        | error => rw [hrest] at hp; cases hp
        | ok res =>
            rw [hrest] at hp
            cases hp
            exact .cons (.inr ⟨rfl, _, hstep⟩)
              (ih (fun x hx => h x (List.mem_cons_of_mem _ hx)) hrest)

theorem exists_of_forall₂_of_mem {α β : Type} {R : α → β → Prop} :
    ∀ {l : List α} {l' : List β}, List.Forall₂ R l l' → ∀ b ∈ l', ∃ a ∈ l, R a b
  | _, _, .nil, _, hb => absurd hb (List.not_mem_nil _)
  | _, _, .cons hab h, b, hb => by
      rcases List.mem_cons.mp hb with rfl | hb
      · exact ⟨_, List.mem_cons_self _ _, hab⟩
      · obtain ⟨a, ha, hr⟩ := exists_of_forall₂_of_mem h b hb
        exact ⟨a, List.mem_cons_of_mem _ ha, hr⟩

theorem compositeSubmit_reachable {limiters limiters' : List Member} {result : SubmitResult}
    {lasts : Member → Option UInt64}
    (hr : ∀ m ∈ limiters, Reachable m.cfg (lasts m) m.tenant)
    (ht : ∀ m ∈ limiters, m.cfg.windowSize.toNat ≤ t.toNat)
    (hs : compositeSubmit t load limiters = .ok (limiters', result)) :
    ∀ m' ∈ limiters', Reachable m'.cfg (some t) m'.tenant := by
  intro m' hm'
  obtain ⟨m, hm, hcfg, c, r, rfl, -, hstep⟩ := exists_of_forall₂_of_mem
    (compositeSubmit_member_step (fun m hm => ⟨(hr m hm).consistent, ht m hm⟩) hs) m' hm'
  rw [hcfg]
  exact .call (hr m hm) (ht m hm) hstep

theorem compositeProbe_reachable {limiters limiters' : List Member} {admissible : Bool}
    {lasts : Member → Option UInt64}
    (hr : ∀ m ∈ limiters, Reachable m.cfg (lasts m) m.tenant)
    (ht : ∀ m ∈ limiters, m.cfg.windowSize.toNat ≤ t.toNat)
    (hp : compositeProbe t load limiters = .ok (limiters', admissible)) :
    ∀ m' ∈ limiters', ∃ last, Reachable m'.cfg last m'.tenant := by
  intro m' hm'
  obtain ⟨m, hm, hstep⟩ := exists_of_forall₂_of_mem
    (compositeProbe_member_step (fun m hm => ⟨(hr m hm).consistent, ht m hm⟩) hp) m' hm'
  rcases hstep with rfl | ⟨hcfg, r, hstep⟩
  · exact ⟨_, hr m' hm⟩
  · rw [hcfg]
    exact ⟨_, .call (c := .probe t load) (hr m hm) (ht m hm) hstep⟩

end LoadLimiter
