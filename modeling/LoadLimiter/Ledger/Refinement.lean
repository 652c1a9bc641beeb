import LoadLimiter.Ledger.Model
import LoadLimiter.Core.Invariant

/-! # The segment queue refines the ledger

With timestamps that do not go backwards, the queue after a call at `t` reads, at each start
of the window `(t - WindowSize, S]`, what the ledger records there; the ledger records
nothing after `S`; and the total is the ledger's sum over the window. Each function of a call
is matched with the ledger operation the documentation names for it: rotation with nothing
(the ledger never evicts), `acceptLoad` with `credit`, `distributePenalty` with
`creditShares`, `applyCapping` with `capLedger`.
-/

namespace LoadLimiter

/-! ## Capping -/

theorem valueAt_reverse {queue : List WindowSegment}
    (hn : (queue.map (·.startTime.toNat)).Nodup) (s : Nat) :
    valueAt queue.reverse s = valueAt queue s := by
  by_cases h : ∃ x ∈ queue, x.startTime.toNat = s
  · obtain ⟨x, hx, rfl⟩ := h
    rw [valueAt_of_mem (by rw [List.map_reverse]; exact List.nodup_reverse.mpr hn)
      (List.mem_reverse.mpr hx), valueAt_of_mem hn hx]
  · push_neg at h
    rw [valueAt_of_not_mem h, valueAt_of_not_mem fun x hx => h x (List.mem_reverse.mp hx)]

theorem removeOldest_zero (oldestFirst : List WindowSegment) (total : UInt64) :
    removeOldest oldestFirst 0 total = (oldestFirst, 0, total) := by
  cases oldestFirst <;> simp [removeOldest]

theorem mem_removeOldest {oldestFirst : List WindowSegment} {amount total : UInt64}
    {y : WindowSegment} (hy : y ∈ (removeOldest oldestFirst amount total).1) :
    ∃ x ∈ oldestFirst, x.startTime = y.startTime :=
  List.mem_map.mp ((removeOldest_spec oldestFirst amount total).1.subset
    (List.mem_map_of_mem (·.startTime) hy))

theorem valueAt_removeOldest :
    ∀ {points : List Nat} {oldestFirst : List WindowSegment} {ledger : Nat → UInt64},
      points.Pairwise (· < ·) →
      oldestFirst.Pairwise (fun a b => a.startTime.toNat < b.startTime.toNat) →
      (∀ x ∈ oldestFirst, x.startTime.toNat ∈ points) →
      (∀ s ∈ points, valueAt oldestFirst s = ledger s) →
      ∀ (amount total : UInt64), ∀ s ∈ points,
        valueAt (removeOldest oldestFirst amount total).1 s = debitOldest points amount ledger s
  | [], _, _, _, _, _, _, _, _, s, hs => absurd hs (List.not_mem_nil s)
  | p :: ps, oldestFirst, ledger, hp, ho, hsub, hl, amount, total, s, hs => by
      rw [List.pairwise_cons] at hp
      have hpps : p ∉ ps := fun h => Nat.lt_irrefl p (hp.1 p h)
      -- no segment left from the loop starts at a point absent from the queue
      have hgone : ∀ (l : List WindowSegment) (a tot : UInt64),
          (∀ x ∈ l, x.startTime.toNat ≠ p) → valueAt (removeOldest l a tot).1 p = 0 :=
        fun l a tot hl' => valueAt_of_not_mem fun y hy he => by
          obtain ⟨x, hx, hxy⟩ := mem_removeOldest hy
          exact hl' x hx (hxy ▸ he)
      by_cases hhead : ∃ x rest, oldestFirst = x :: rest ∧ x.startTime.toNat = p
      · obtain ⟨x, rest, rfl, hxp⟩ := hhead
        have hrest := List.pairwise_cons.mp ho
        have hrp : ∀ y ∈ rest, y.startTime.toNat ≠ p := fun y hy he =>
          Nat.lt_irrefl p (by have := hrest.1 y hy; omega)
        have hlp : ledger p = x.value := by
          rw [← hl p (List.mem_cons_self _ _), valueAt_cons, if_pos hxp]
        have hne : ∀ s ∈ ps, s ≠ p := fun s hs' (he : s = p) => hpps (he ▸ hs')
        have hlrest : ∀ s ∈ ps, valueAt rest s = ledger s := fun s hs' => by
          have := hne s hs'
          rw [← hl s (List.mem_cons_of_mem _ hs'), valueAt_cons, if_neg (by omega)]
        have hsubrest : ∀ y ∈ rest, y.startTime.toNat ∈ ps := fun y hy =>
          (List.mem_cons.mp (hsub y (List.mem_cons_of_mem _ hy))).resolve_left (hrp y hy)
        unfold removeOldest debitOldest
        rw [hlp]
        split_ifs with h0 hle hz
        · exact hl s hs
        · -- the oldest segment is emptied and popped
          rcases List.mem_cons.mp hs with rfl | hs'
          · rw [Function.update_same, valueAt_of_not_mem hrp, hz]
          · rw [Function.update_noteq (hne s hs'), hlrest s hs']
        · rcases List.mem_cons.mp hs with rfl | hs'
          · rw [Function.update_same, valueAt_cons, if_pos hxp]
          · have := hne s hs'
            rw [Function.update_noteq (hne s hs'), valueAt_cons,
              if_neg (show ¬x.startTime.toNat = s by omega), hlrest s hs']
        · rcases List.mem_cons.mp hs with rfl | hs'
          · rw [hgone rest _ _ hrp, debitOldest_of_not_mem hpps, Function.update_same]
          · refine valueAt_removeOldest hp.2 hrest.2 hsubrest (fun s' hs'' => ?_) _ _ s hs'
            rw [Function.update_noteq (hne s' hs''), hlrest s' hs'']
      · -- no segment starts at `p`, which the ledger holds at `0`
        have hnp : ∀ x ∈ oldestFirst, x.startTime.toNat ≠ p := by
          intro x hx hxp
          cases oldestFirst with
          | nil => cases hx
          | cons y rest =>
              rcases List.mem_cons.mp hx with rfl | hx'
              · exact hhead ⟨x, rest, rfl, hxp⟩
              · have hy := (List.pairwise_cons.mp ho).1 x hx'
                rcases List.mem_cons.mp (hsub y (List.mem_cons_self _ _)) with hyp | hyp
                · exact hhead ⟨y, rest, rfl, hyp⟩
                · have := hp.1 _ hyp
                  omega
        have hl0 : ledger p = 0 := by
          rw [← hl p (List.mem_cons_self _ _), valueAt_of_not_mem hnp]
        have hsubps : ∀ x ∈ oldestFirst, x.startTime.toNat ∈ ps := fun x hx =>
          (List.mem_cons.mp (hsub x hx)).resolve_left (hnp x hx)
        unfold debitOldest
        split_ifs with h0 hle
        · rw [h0, removeOldest_zero]
          exact hl s hs
        · exact absurd (u64_eq_iff.mpr (by rw [hl0] at hle; exact Nat.le_zero.mp hle)) h0
        · rw [hl0, sub_zero, ← hl0, Function.update_eq_self]
          rcases List.mem_cons.mp hs with rfl | hs'
          · rw [hgone _ _ _ hnp, debitOldest_of_not_mem hpps, hl0]
          · exact valueAt_removeOldest hp.2 ho hsubps
              (fun s' hs'' => hl s' (List.mem_cons_of_mem _ hs'')) _ _ s hs'

section Call

variable {cfg : EffectiveConfig} {t load : UInt64} {tenant : TenantData} {ledger : Nat → UInt64}

theorem valueAt_removeFromOldestSegments (ht : cfg.windowSize.toNat ≤ t.toNat)
    (hq : WindowShape cfg t tenant.windowQueue)
    (hl : ∀ s ∈ windowStarts cfg t, valueAt tenant.windowQueue s = ledger s) (amount : UInt64) :
    ∀ s ∈ windowStarts cfg t,
      valueAt (removeFromOldestSegments (buildLoadRequest cfg t load) amount tenant).windowQueue s =
        debitOldest (windowStarts cfg t).reverse amount ledger s := by
  intro s hs
  have hinc := hq.decreasing.reverse_pairwise
  have hn : (tenant.windowQueue.map (·.startTime.toNat)).Nodup := by
    have hpw : (tenant.windowQueue.map (·.startTime.toNat)).Pairwise (· > ·) :=
      List.pairwise_map.mpr hq.decreasing
    exact hpw.imp fun h => Nat.ne_of_gt h
  have hcore := @valueAt_removeOldest (windowStarts cfg t).reverse tenant.windowQueue.reverse
    ledger (List.pairwise_reverse.mpr (windowStarts_pairwise cfg ht)) hinc
    (fun x hx => List.mem_reverse.mpr ((mem_windowStarts_iff cfg).mpr
      ⟨hq.aligned x (List.mem_reverse.mp hx), hq.inWindow x (List.mem_reverse.mp hx)⟩))
    (fun s' hs' => (valueAt_reverse hn s').trans (hl s' (List.mem_reverse.mp hs')))
    amount tenant.windowTotal s (List.mem_reverse.mpr hs)
  have hsuf := (removeOldest_spec tenant.windowQueue.reverse amount tenant.windowTotal).1
  unfold removeFromOldestSegments
  generalize removeOldest tenant.windowQueue.reverse amount tenant.windowTotal = r at hcore hsuf
  obtain ⟨oldestFirst, rest, total⟩ := r
  dsimp only at hcore hsuf ⊢
  rw [← hcore]
  split
  · rename_i he
    subst he
    simp [valueAt_cons]
  · have h1 : (tenant.windowQueue.reverse.map (·.startTime)).Pairwise
        (fun a b : UInt64 => a.toNat < b.toNat) := List.pairwise_map.mpr hinc
    have h2 := h1.sublist hsuf.sublist
    rw [List.pairwise_map] at h2
    have h3 : oldestFirst.Pairwise fun a b => a.startTime.toNat < b.startTime.toNat := h2
    have hpw : (oldestFirst.map (·.startTime.toNat)).Pairwise (· < ·) := List.pairwise_map.mpr h3
    exact valueAt_reverse (hpw.imp fun h => Nat.ne_of_lt h) s

theorem valueAt_applyCapping (ht : cfg.windowSize.toNat ≤ t.toNat) (hs : Settled cfg t tenant)
    (hl : ∀ s ∈ windowStarts cfg t, valueAt tenant.windowQueue s = ledger s) :
    ∀ s ∈ windowStarts cfg t,
      valueAt (applyCapping cfg (buildLoadRequest cfg t load) tenant).windowQueue s =
        capLedger cfg t ledger s := by
  have htot : tenant.windowTotal = windowSum cfg t ledger := by
    rw [hs.total_eq, sum_values_eq_window ht hs.shape.decreasing hs.shape.aligned
      hs.shape.inWindow, windowSum]
    exact congrArg List.sum (List.map_congr_left hl)
  unfold applyCapping capLedger
  rw [cfg.capping, htot]
  simp only [Bool.not_true, Bool.false_eq_true, if_false]
  split
  · exact valueAt_removeFromOldestSegments ht hs.shape hl _
  · exact hl

theorem futureLoad_eq_zero {S : UInt64} {queue : List WindowSegment}
    (h : ∀ x ∈ queue, x.startTime.toNat ≤ S.toNat) : futureLoad S queue = 0 := by
  cases queue with
  | nil => rfl
  | cons x rest =>
      have hx : ¬S.toNat < x.startTime.toNat := Nat.not_lt.mpr (h x (List.mem_cons_self _ _))
      simp [futureLoad, List.takeWhile_cons, hx]

theorem shareAt_of_lt {seg : Nat} :
    ∀ {S s : Nat} {shares : List UInt64}, S < s → shareAt seg S shares s = 0
  | _, _, [], _ => rfl
  | S, s, _ :: shares, h => by
      rw [shareAt, if_neg (Nat.ne_of_gt h), shareAt_of_lt (by omega)]

theorem locate_mono (cfg : EffectiveConfig) {t t' : UInt64} (h : t.toNat ≤ t'.toNat) :
    (locateSegmentStartTime cfg t).toNat ≤ (locateSegmentStartTime cfg t').toNat := by
  rw [locateSegmentStartTime_toNat, locateSegmentStartTime_toNat]
  exact Nat.mul_le_mul_right _ (Nat.div_le_div_right h)

end Call

/-! ## One call -/

/-- After a call at `t`: the tenant is settled at `t`, its queue reads the ledger on the
window's starts, the ledger records nothing after `S`, and the flags agree. -/
structure Refines (cfg : EffectiveConfig) (t : UInt64) (tenant : TenantData) (st : LedgerState) :
    Prop where
  settled : Settled cfg t tenant
  valueAt_eq : ∀ s ∈ windowStarts cfg t, valueAt tenant.windowQueue s = st.ledger s
  future : ∀ s, (locateSegmentStartTime cfg t).toNat < s → st.ledger s = 0
  wasOver : tenant.wasOver = st.wasOver

/-- Before a call at `t`: what a call at an earlier time leaves, seen from `t`. -/
structure Before (cfg : EffectiveConfig) (t : UInt64) (tenant : TenantData) (st : LedgerState) :
    Prop where
  consistent : Consistent cfg tenant
  le : ∀ x ∈ tenant.windowQueue, x.startTime.toNat ≤ (locateSegmentStartTime cfg t).toNat
  valueAt_eq : ∀ s ∈ windowStarts cfg t, valueAt tenant.windowQueue s = st.ledger s
  future : ∀ s, (locateSegmentStartTime cfg t).toNat < s → st.ledger s = 0
  wasOver : tenant.wasOver = st.wasOver

section Step

variable {cfg : EffectiveConfig} {t load : UInt64} {tenant : TenantData} {st : LedgerState}

theorem Refines.windowTotal_eq (ht : cfg.windowSize.toNat ≤ t.toNat)
    (h : Refines cfg t tenant st) : tenant.windowTotal = windowSum cfg t st.ledger := by
  rw [h.settled.total_eq, sum_values_eq_window ht h.settled.shape.decreasing
    h.settled.shape.aligned h.settled.shape.inWindow, windowSum]
  exact congrArg List.sum (List.map_congr_left h.valueAt_eq)

theorem before_fresh (t : UInt64) : Before cfg t newTenantData LedgerState.fresh :=
  ⟨newTenantData_consistent, fun _ h => absurd h (List.not_mem_nil _), fun _ _ => rfl,
    fun _ _ => rfl, rfl⟩

theorem Refines.before {t' : UInt64} (h : Refines cfg t tenant st) (htt : t.toNat ≤ t'.toNat) :
    Before cfg t' tenant st := by
  have hS := locate_mono cfg htt
  refine ⟨h.settled.consistent, fun x hx => Nat.le_trans (h.settled.shape.inWindow x hx).2 hS,
    fun s hs => ?_, fun s hs => h.future s (by omega), h.wasOver⟩
  obtain ⟨ha, hlow, hhigh⟩ := (mem_windowStarts_iff cfg).mp hs
  by_cases hsS : s ≤ (locateSegmentStartTime cfg t).toNat
  · exact h.valueAt_eq s ((mem_windowStarts_iff cfg).mpr ⟨ha, by omega, hsS⟩)
  · rw [h.future s (by omega), valueAt_of_not_mem fun x hx he => hsS
      (by rw [← he]; exact (h.settled.shape.inWindow x hx).2)]

theorem rotateWindow_refines (ht : cfg.windowSize.toNat ≤ t.toNat) (h : Before cfg t tenant st) :
    ∃ tenant', rotateWindow cfg (buildLoadRequest cfg t load) tenant = .ok tenant' ∧
      Refines cfg t tenant' st := by
  obtain ⟨tenant', hrot, hset, hrotated⟩ := @rotateWindow_settled cfg t load tenant ht h.consistent
  refine ⟨tenant', hrot, hset, fun s hs => ?_, h.future, hrotated.wasOver.trans h.wasOver⟩
  obtain ⟨-, hlow, hhigh⟩ := (mem_windowStarts_iff cfg).mp hs
  rw [hrotated.valueAt_eq, if_pos ⟨hlow, hhigh⟩, futureLoad_eq_zero h.le, ite_self, add_zero,
    h.valueAt_eq s hs]

theorem Refines.markDirty (h : Refines cfg t tenant st) : Refines cfg t (markDirty tenant) st :=
  ⟨⟨h.settled.shape, h.settled.total_eq⟩, h.valueAt_eq, h.future, h.wasOver⟩

theorem Refines.applyCapping (ht : cfg.windowSize.toNat ≤ t.toNat) (h : Refines cfg t tenant st) :
    Refines cfg t (applyCapping cfg (buildLoadRequest cfg t load) tenant)
      ⟨capLedger cfg t st.ledger, st.wasOver⟩ := by
  obtain ⟨hs2, hd2⟩ := @applyCapping_spec cfg t load tenant h.settled.shape
  refine ⟨h.settled.of_drift hs2 hd2, valueAt_applyCapping ht h.settled h.valueAt_eq,
    fun s hs => ?_, by rw [applyCapping_wasOver, h.wasOver]⟩
  show capLedger cfg t _ s = 0
  rw [capLedger_of_not_mem cfg fun hw => Nat.not_le.mpr hs ((mem_windowStarts_iff cfg).mp hw).2.2,
    h.future s hs]

theorem acceptLoad_refines (ht : cfg.windowSize.toNat ≤ t.toNat) (h : Refines cfg t tenant st) :
    ∃ tenant', acceptLoad cfg (buildLoadRequest cfg t load) tenant = .ok tenant' ∧
      Refines cfg t tenant'
        ⟨capLedger cfg t (credit st.ledger (locateSegmentStartTime cfg t).toNat load), false⟩ := by
  obtain ⟨value, rest, hq⟩ := h.settled.shape.front
  refine ⟨_, acceptLoad_eq hq, Refines.markDirty (@Refines.applyCapping cfg t load _
    ⟨credit st.ledger (locateSegmentStartTime cfg t).toNat load, false⟩ ht ⟨⟨?_, ?_⟩, ?_, ?_, rfl⟩)⟩
  · exact h.settled.shape.of_starts_eq (by rw [hq]; rfl)
  · simp only [List.map_cons, List.sum_cons, h.settled.total_eq, hq]
    abel
  · intro s hs
    show _ = credit st.ledger _ load s
    rw [valueAt_add_front, ← hq, h.valueAt_eq s hs]
    simp only [credit]
    split <;> simp_all
  · intro s hs
    show credit st.ledger _ load s = 0
    simp only [credit, if_neg (Nat.ne_of_gt hs), h.future s hs]

theorem distributePenalty_refines (ht : cfg.windowSize.toNat ≤ t.toNat)
    (h : Refines cfg t tenant st) {amount N : UInt64} (hN : 1 ≤ N.toNat)
    (hNn : N.toNat ≤ cfg.numSegments.toNat) :
    ∃ tenant', distributePenalty cfg (buildLoadRequest cfg t load) amount N tenant = .ok tenant' ∧
      Refines cfg t tenant' ⟨creditShares cfg st.ledger (locateSegmentStartTime cfg t).toNat
        (penaltyShares amount N), st.wasOver⟩ := by
  obtain ⟨tenant', hd, hs, hdr, hwo, -, hval⟩ := @distributePenalty_spec cfg t load amount N tenant
    ht h.settled.shape hN hNn
  refine ⟨tenant', hd, h.settled.of_drift hs hdr, fun s hs' => ?_, fun s hs' => ?_,
    hwo.trans h.wasOver⟩
  · show _ = creditShares cfg _ _ _ s
    simp only [creditShares, hval, h.valueAt_eq s hs']
  · show creditShares cfg _ _ _ s = 0
    simp only [creditShares, h.future s hs', shareAt_of_lt hs', zero_add]

theorem rejectPenalty_refines (ht : cfg.windowSize.toNat ≤ t.toNat) (h : Refines cfg t tenant st)
    {tenant' : TenantData} {someAdded dirty : Bool}
    (hp : rejectPenalty cfg (buildLoadRequest cfg t load) tenant = .ok (tenant', someAdded, dirty)) :
    Refines cfg t tenant' (ledgerPenalty cfg t load st).1 ∧
      (ledgerPenalty cfg t load st).2 = someAdded := by
  unfold rejectPenalty at hp
  unfold ledgerPenalty
  rw [← h.wasOver]
  split_ifs at hp ⊢ with hw ho hr
  · obtain ⟨tenant1, hd, h1⟩ := @distributePenalty_refines cfg t load tenant st ht h
      cfg.absoluteOverstepPenalty _ (cfg.overstepSpan ho).1 (cfg.overstepSpan ho).2
    rw [hd] at hp
    cases hp
    exact ⟨⟨⟨h1.settled.shape, h1.settled.total_eq⟩, h1.valueAt_eq, h1.future, rfl⟩, rfl⟩
  · cases hp
    exact ⟨⟨⟨h.settled.shape, h.settled.total_eq⟩, h.valueAt_eq, h.future, rfl⟩, rfl⟩
  · simp only [buildLoadRequest_requestedLoad] at hp
    cases hpen : cfg.requestOverheadPenalty load with
    | some penalty =>
        rw [hpen] at hp
        dsimp only at hp
        obtain ⟨tenant1, hd, h1⟩ := @distributePenalty_refines cfg t load tenant st ht h
          penalty _ (cfg.overheadSpan hr).1 (cfg.overheadSpan hr).2
        rw [hd] at hp
        cases hp
        simp only [Bool.not_eq_true', Bool.not_eq_false] at hw
        exact ⟨⟨h1.settled, h1.valueAt_eq, h1.future, by rw [h1.wasOver, ← h.wasOver, hw]⟩, rfl⟩
    | none =>
        rw [hpen] at hp
        dsimp only at hp
        cases hp
        exact ⟨h, rfl⟩
  · cases hp
    exact ⟨h, rfl⟩

theorem rejectResult_accepted {req : SubmitRequest} {r : SubmitResult}
    (h : rejectResult cfg req tenant = .ok r) : r.accepted = false := by
  unfold rejectResult at h
  split at h
  · cases h
    rfl
  · cases hc : computeRetryIn cfg req tenant with
    | error => rw [hc] at h; cases h
    | ok v => rw [hc] at h; cases v <;> cases h <;> rfl

theorem rejectLoad_refines (ht : cfg.windowSize.toNat ≤ t.toNat) (h : Refines cfg t tenant st)
    {tenant' : TenantData} {result : SubmitResult}
    (hr : rejectLoad cfg (buildLoadRequest cfg t load) tenant = .ok (tenant', result)) :
    Refines cfg t tenant' (if (ledgerPenalty cfg t load st).2 then
        ⟨capLedger cfg t (ledgerPenalty cfg t load st).1.ledger,
          (ledgerPenalty cfg t load st).1.wasOver⟩
      else (ledgerPenalty cfg t load st).1) ∧ result.accepted = false := by
  obtain ⟨tenant1, someAdded, dirty, hp, -, -⟩ := @rejectPenalty_spec cfg t load tenant ht
    h.settled.shape
  obtain ⟨h1, hadded⟩ := rejectPenalty_refines ht h hp
  rw [rejectLoad_eq hp] at hr
  dsimp only at hr
  rw [hadded]
  have hX : Refines cfg t
      (if someAdded then LoadLimiter.applyCapping cfg (buildLoadRequest cfg t load) tenant1
        else tenant1)
      (if someAdded then ⟨capLedger cfg t (ledgerPenalty cfg t load st).1.ledger,
          (ledgerPenalty cfg t load st).1.wasOver⟩
        else (ledgerPenalty cfg t load st).1) := by
    cases someAdded
    · exact h1
    · exact h1.applyCapping ht
  cases hres : rejectResult cfg (buildLoadRequest cfg t load)
      (if dirty then LoadLimiter.markDirty (if someAdded then
        LoadLimiter.applyCapping cfg (buildLoadRequest cfg t load) tenant1 else tenant1)
      else if someAdded then LoadLimiter.applyCapping cfg (buildLoadRequest cfg t load) tenant1
        else tenant1) with
  | error => rw [hres] at hr; cases hr
  | ok r =>
      rw [hres] at hr
      cases hr
      refine ⟨?_, rejectResult_accepted hres⟩
      cases dirty
      · exact hX
      · exact hX.markDirty

/-- One call at `t` on what an earlier call left: the queue still refines the ledger, and the
call decides as the ledger does. -/
theorem step_refines {c : Call} (ht : cfg.windowSize.toNat ≤ c.timestamp.toNat)
    (h : Before cfg c.timestamp tenant st) {tenant' : TenantData} {r : CallResult}
    (hs : step cfg c tenant = .ok (tenant', r)) :
    Refines cfg c.timestamp tenant' (ledgerStep cfg c st).1 ∧
      r.decision = (ledgerStep cfg c st).2 := by
  cases c with
  | probe t load =>
      simp only [Call.timestamp] at ht h ⊢
      obtain ⟨tenant1, hrot, h1⟩ := @rotateWindow_refines cfg t load tenant st ht h
      simp only [step, Probe, probe_eq hrot, bind, Except.bind, pure, Except.pure] at hs
      cases hs
      exact ⟨h1, by simp only [CallResult.decision, ledgerStep, buildLoadRequest_requestedLoad,
        h1.windowTotal_eq ht]⟩
  | submit t load =>
      simp only [Call.timestamp] at ht h ⊢
      obtain ⟨tenant1, hrot, h1⟩ := @rotateWindow_refines cfg t load tenant st ht h
      simp only [step, Submit_eq hrot, bind, Except.bind] at hs
      rw [ledgerStep, ← h1.windowTotal_eq ht]
      by_cases hadm : tenant1.windowTotal + load ≤ cfg.maxLoad
      · obtain ⟨tenant2, hacc, h2⟩ := @acceptLoad_refines cfg t load tenant1 st ht h1
        rw [if_pos hadm, hacc] at hs
        cases hs
        rw [if_pos hadm]
        exact ⟨h2, rfl⟩
      · rw [if_neg hadm] at hs
        rw [if_neg hadm]
        cases hrej : rejectLoad cfg (buildLoadRequest cfg t load) tenant1 with
        | error => rw [hrej] at hs; cases hs
        | ok res =>
            rw [hrej] at hs
            cases hs
            obtain ⟨h2, hacc⟩ := rejectLoad_refines ht h1 hrej
            exact ⟨h2, by rw [CallResult.decision, hacc]⟩

end Step


/-! ## Runs -/

theorem runCalls_refines_from {cfg : EffectiveConfig} :
    ∀ {calls : List Call} {tenant tenant' : TenantData} {st : LedgerState} {bound : Nat}
      {results : List CallResult},
      (∀ t', bound ≤ t'.toNat → Before cfg t' tenant st) →
      (calls.map fun c => c.timestamp.toNat).Sorted (· ≤ ·) →
      (∀ c ∈ calls, bound ≤ c.timestamp.toNat ∧ cfg.windowSize.toNat ≤ c.timestamp.toNat) →
      runCalls cfg calls tenant = .ok (tenant', results) →
      results.map CallResult.decision = (ledgerRun cfg calls st).2 ∧
        ∀ c ∈ calls.getLast?, Refines cfg c.timestamp tenant' (ledgerRun cfg calls st).1
  | [], _, _, _, _, _, _, _, _, hrun => by
      cases hrun
      exact ⟨rfl, fun _ h => absurd h (by simp)⟩
  | c :: calls, tenant, tenant', st, bound, results, hb, hsort, hts, hrun => by
      rw [List.map_cons, List.sorted_cons] at hsort
      cases hstep : step cfg c tenant with
      | error => simp [runCalls, hstep, bind, Except.bind] at hrun
      | ok p =>
          obtain ⟨tenant1, r⟩ := p
          cases hrest : runCalls cfg calls tenant1 with
          | error => simp [runCalls, hstep, hrest, bind, Except.bind] at hrun
          | ok q =>
              obtain ⟨tenant2, rs⟩ := q
              simp only [runCalls, hstep, hrest, bind, Except.bind, pure, Except.pure,
                Except.ok.injEq, Prod.mk.injEq] at hrun
              obtain ⟨rfl, rfl⟩ := hrun
              obtain ⟨hbound, ht⟩ := hts c (List.mem_cons_self _ _)
              obtain ⟨h1, hd⟩ := step_refines ht (hb _ hbound) hstep
              obtain ⟨ih1, ih2⟩ := runCalls_refines_from (fun t' ht' => h1.before ht') hsort.2
                (fun c' hc' => ⟨hsort.1 _ (List.mem_map_of_mem _ hc'),
                  (hts c' (List.mem_cons_of_mem _ hc')).2⟩) hrest
              refine ⟨by simp only [List.map_cons, ledgerRun, hd, ih1], fun c' hc' => ?_⟩
              cases calls with
              | nil =>
                  cases hrest
                  simp only [List.getLast?_singleton, Option.mem_def, Option.some.injEq] at hc'
                  subst hc'
                  exact h1
              | cons c'' calls =>
                  rw [List.getLast?_cons_cons] at hc'
                  exact ih2 c' hc'

/-- The segment queue refines the never-evicting ledger. For every run of calls on a fresh
tenant whose timestamps are at least `WindowSize` and do not go backwards, the calls decide as
the ledger does, and after the last call, at `t`: each aligned start of `(t - WindowSize, S]`
reads in the queue what the ledger records there, no segment starts elsewhere, and the total
is the ledger's sum over the window. -/
theorem runCalls_refines_ledger {cfg : EffectiveConfig} {calls : List Call}
    {tenant : TenantData} {results : List CallResult}
    (hts : ∀ c ∈ calls, cfg.windowSize.toNat ≤ c.timestamp.toNat)
    (hmono : (calls.map fun c => c.timestamp.toNat).Sorted (· ≤ ·))
    (hrun : runCalls cfg calls newTenantData = .ok (tenant, results)) :
    results.map CallResult.decision = (ledgerRun cfg calls LedgerState.fresh).2 ∧
      ∀ c ∈ calls.getLast?,
        (∀ s ∈ windowStarts cfg c.timestamp,
          valueAt tenant.windowQueue s = (ledgerRun cfg calls LedgerState.fresh).1.ledger s) ∧
        StartsAligned cfg tenant.windowQueue ∧ InWindow cfg c.timestamp tenant.windowQueue ∧
        tenant.windowTotal = windowSum cfg c.timestamp (ledgerRun cfg calls LedgerState.fresh).1.ledger := by
  obtain ⟨hdec, hlast⟩ := @runCalls_refines_from cfg calls newTenantData tenant LedgerState.fresh 0
    results (fun t' _ => before_fresh t') hmono (fun c hc => ⟨Nat.zero_le _, hts c hc⟩) hrun
  refine ⟨hdec, fun c hc => ?_⟩
  have h := hlast c hc
  have ht : cfg.windowSize.toNat ≤ c.timestamp.toNat :=
    hts c (List.mem_of_mem_getLast? hc)
  exact ⟨h.valueAt_eq, h.settled.shape.aligned, h.settled.shape.inWindow, h.windowTotal_eq ht⟩

/-- The refinement after an accepted `Submit` and a `Probe` one segment later. -/
theorem runCalls_refines_ledger_two_calls :
    let calls : List Call := [.submit 1000000 10, .probe 1001000 5]
    let tenant : TenantData := ⟨[⟨1001000, 0⟩, ⟨1000000, 10⟩], false, 10, 4⟩
    [CallResult.submitted ⟨true, false, 0⟩, .probed true].map CallResult.decision =
        (ledgerRun defaultInstanceConfig calls LedgerState.fresh).2 ∧
      ∀ c ∈ calls.getLast?,
        (∀ s ∈ windowStarts defaultInstanceConfig c.timestamp, valueAt tenant.windowQueue s =
          (ledgerRun defaultInstanceConfig calls LedgerState.fresh).1.ledger s) ∧
        StartsAligned defaultInstanceConfig tenant.windowQueue ∧
        InWindow defaultInstanceConfig c.timestamp tenant.windowQueue ∧
        tenant.windowTotal = windowSum defaultInstanceConfig c.timestamp
          (ledgerRun defaultInstanceConfig calls LedgerState.fresh).1.ledger :=
  runCalls_refines_ledger (by decide) (by decide) rfl

end LoadLimiter
