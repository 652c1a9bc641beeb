import LoadLimiter.Window.Rotate
import LoadLimiter.Window.DistributeSpec

/-! # What a rotation does

On a queue with decreasing, aligned start times and a clock reading `t ≥ WindowSize`,
`rotateWindow` never panics and leaves the window shape at `t`. Read as a ledger, it keeps
every segment of `(t - WindowSize, S]`, drops every other one, and moves the load of the
segments ahead of `S` into `S`. It keeps `WindowTotal - Σ values` unchanged.
-/

namespace LoadLimiter

variable {cfg : EffectiveConfig}

/-! ## The loops -/

/-- Load of the segments ahead of `S`, which a rotation puts back into `S`. -/
def futureLoad (latestSegmentTime : UInt64) (queue : List WindowSegment) : UInt64 :=
  ((queue.takeWhile fun s => decide (latestSegmentTime.toNat < s.startTime.toNat)).map
    (·.value)).sum

theorem popFutureSegments_eq (S : UInt64) (queue : List WindowSegment) (restore total : UInt64) :
    popFutureSegments S queue restore total =
      (queue.dropWhile fun s => decide (S.toNat < s.startTime.toNat),
        restore + futureLoad S queue, total - futureLoad S queue) := by
  induction queue generalizing restore total with
  | nil => simp [popFutureSegments, futureLoad]
  | cons x rest ih =>
      by_cases h : x.startTime ≤ S
      · have h' : ¬ S.toNat < x.startTime.toNat := Nat.not_lt.mpr (u64_le_iff.mp h)
        simp [popFutureSegments, futureLoad, h, h']
      · have h' : S.toNat < x.startTime.toNat := Nat.lt_of_not_le (mt u64_le_iff.mpr h)
        simp only [popFutureSegments, if_neg h, ih, futureLoad, List.dropWhile_cons,
          List.takeWhile_cons, h', decide_True, if_true, List.map_cons, List.sum_cons]
        refine Prod.ext rfl (Prod.ext (add_assoc _ _ _) (sub_add_eq_sub_sub _ _ _).symm)

theorem evictOldSegments_eq (removeBefore : UInt64) (oldestFirst : List WindowSegment)
    (total : UInt64) :
    evictOldSegments removeBefore oldestFirst total =
      (oldestFirst.dropWhile fun s => decide (s.startTime.toNat ≤ removeBefore.toNat),
        total - ((oldestFirst.takeWhile fun s =>
          decide (s.startTime.toNat ≤ removeBefore.toNat)).map (·.value)).sum) := by
  induction oldestFirst generalizing total with
  | nil => simp [evictOldSegments]
  | cons x rest ih =>
      by_cases h : x.startTime ≤ removeBefore
      · have h' : x.startTime.toNat ≤ removeBefore.toNat := u64_le_iff.mp h
        simp only [evictOldSegments, if_pos h, ih, List.dropWhile_cons, List.takeWhile_cons, h',
          decide_True, if_true, List.map_cons, List.sum_cons, sub_add_eq_sub_sub]
      · have h' : ¬ x.startTime.toNat ≤ removeBefore.toNat := mt u64_le_iff.mpr h
        simp [evictOldSegments, h, h']

theorem dropWhile_le_eq_filter {oldestFirst : List WindowSegment}
    (h : oldestFirst.Pairwise fun older newer => older.startTime.toNat < newer.startTime.toNat)
    (c : Nat) :
    oldestFirst.dropWhile (fun s => decide (s.startTime.toNat ≤ c)) =
      oldestFirst.filter fun s => decide (c < s.startTime.toNat) := by
  induction oldestFirst with
  | nil => rfl
  | cons x rest ih =>
      rw [List.pairwise_cons] at h
      by_cases hx : x.startTime.toNat ≤ c
      · simp only [List.dropWhile_cons, List.filter_cons, hx, decide_True, if_true,
          ih h.2, Nat.not_lt.mpr hx, decide_False]
        rfl
      · have hall : rest.filter (fun s => decide (c < s.startTime.toNat)) = rest :=
          List.filter_eq_self.mpr fun y hy => by
            have := h.1 y hy
            simp only [decide_eq_true_eq]
            omega
        simp only [List.dropWhile_cons, List.filter_cons, hx, decide_False,
          Nat.lt_of_not_le hx, decide_True, if_true, hall]
        rfl

theorem StartsDecreasing.reverse_pairwise {queue : List WindowSegment}
    (h : StartsDecreasing queue) :
    queue.reverse.Pairwise fun older newer => older.startTime.toNat < newer.startTime.toNat :=
  List.pairwise_reverse.mpr h

theorem evictStep_spec {removeBefore total : UInt64} {queue : List WindowSegment}
    (hd : StartsDecreasing queue)
    (hfront : ∀ x ∈ queue.head?, removeBefore.toNat < x.startTime.toNat) :
    (evictStep removeBefore queue total).1 =
        queue.filter (fun s => decide (removeBefore.toNat < s.startTime.toNat)) ∧
      (evictStep removeBefore queue total).2.1 -
          ((evictStep removeBefore queue total).1.map (·.value)).sum =
        total - (queue.map (·.value)).sum := by
  unfold evictStep
  split
  · rw [evictOldSegments_eq]
    dsimp only
    refine ⟨?_, ?_⟩
    · rw [dropWhile_le_eq_filter hd.reverse_pairwise, List.filter_reverse, List.reverse_reverse]
    · have hsplit := congrArg (fun l => (l.map (·.value)).sum)
        (List.takeWhile_append_dropWhile
          (fun s => decide (s.startTime.toNat ≤ removeBefore.toNat)) queue.reverse)
      simp only [List.map_append, List.sum_append, List.map_reverse, List.sum_reverse] at hsplit ⊢
      rw [← hsplit]
      exact (sub_add_eq_sub_sub _ _ _).symm
  · rename_i hlen
    have hkeep : queue.filter (fun s => decide (removeBefore.toNat < s.startTime.toNat)) = queue := by
      apply List.filter_eq_self.mpr
      intro x hx
      match queue, hx with
      | [y], hx =>
          rw [List.mem_singleton] at hx
          subst hx
          simpa using hfront x rfl
      | _ :: _ :: _, _ => simp at hlen
    exact ⟨hkeep.symm, rfl⟩

theorem ensureFrontSegment_spec {S : UInt64} {queue : List WindowSegment}
    (hd : StartsDecreasing queue) (hle : ∀ x ∈ queue, x.startTime.toNat ≤ S.toNat) :
    StartsDecreasing (ensureFrontSegment S queue).1 ∧
      (∃ value rest, (ensureFrontSegment S queue).1 = ⟨S, value⟩ :: rest) ∧
      (∀ x ∈ (ensureFrontSegment S queue).1, x ∈ queue ∨ x = ⟨S, 0⟩) ∧
      (∀ s, valueAt (ensureFrontSegment S queue).1 s = valueAt queue s) ∧
      ((ensureFrontSegment S queue).1.map (·.value)).sum = (queue.map (·.value)).sum := by
  cases queue with
  | nil =>
      refine ⟨List.pairwise_singleton _ _, ⟨0, [], rfl⟩, by simp [ensureFrontSegment], ?_, by
        simp [ensureFrontSegment]⟩
      intro s
      simp only [ensureFrontSegment, valueAt_cons, valueAt_nil, ite_self]
  | cons front rest =>
      by_cases hf : front.startTime = S
      · have he : ensureFrontSegment S (front :: rest) = (front :: rest, false) := if_pos hf
        rw [he]
        exact ⟨hd, ⟨front.value, rest, by rw [← hf]⟩, fun x hx => .inl hx, fun _ => rfl, rfl⟩
      · have he : ensureFrontSegment S (front :: rest) = (⟨S, 0⟩ :: front :: rest, true) :=
          if_neg hf
        rw [he]
        have hlt : ∀ x ∈ front :: rest, x.startTime.toNat < S.toNat := fun x hx =>
          Nat.lt_of_le_of_ne (hle x hx) fun heq => hf <| by
            rcases List.mem_cons.mp hx with rfl | hx
            · exact u64_eq_iff.mpr heq
            · exact absurd (heq ▸ (StartsDecreasing.cons_iff.mp hd).1 x hx)
                (Nat.not_lt.mpr (hle front (List.mem_cons_self _ _)))
        refine ⟨List.pairwise_cons.mpr ⟨hlt, hd⟩, ⟨0, _, rfl⟩, ?_, ?_, by simp⟩
        · intro x hx
          rcases List.mem_cons.mp hx with rfl | hx
          · exact .inr rfl
          · exact .inl hx
        · intro s
          rw [valueAt_cons]
          split
          · rename_i hs
            rw [← hs, valueAt_of_not_mem fun x hx => Nat.ne_of_lt (hlt x hx)]
          · rfl

theorem valueAt_filter (queue : List WindowSegment) (p : Nat → Bool) (s : Nat) :
    valueAt (queue.filter fun x => p x.startTime.toNat) s = if p s then valueAt queue s else 0 := by
  induction queue with
  | nil => simp
  | cons x rest ih =>
      rw [List.filter_cons]
      by_cases hx : p x.startTime.toNat
      · rw [if_pos hx, valueAt_cons, ih, valueAt_cons]
        by_cases hs : x.startTime.toNat = s
        · subst hs; simp [hx]
        · simp [hs]
      · rw [if_neg hx, ih, valueAt_cons]
        by_cases hs : x.startTime.toNat = s
        · subst hs; simp [hx]
        · simp [hs]

theorem StartsDecreasing.getLast_le :
    ∀ {queue : List WindowSegment} (_ : StartsDecreasing queue) (hne : queue ≠ []),
      ∀ x ∈ queue, (queue.getLast hne).startTime.toNat ≤ x.startTime.toNat
  | [_], _, _, x, hx => by
      rw [List.mem_singleton] at hx
      subst hx
      exact Nat.le_refl _
  | a :: b :: rest, h, _, x, hx => by
      rw [List.getLast_cons_cons]
      have hb := getLast_le h.tail (List.cons_ne_nil b rest)
      rcases List.mem_cons.mp hx with rfl | hx
      · exact Nat.le_of_lt (Nat.lt_of_le_of_lt (hb b (List.mem_cons_self _ _))
          ((StartsDecreasing.cons_iff.mp h).1 b (List.mem_cons_self _ _)))
      · exact hb x hx

/-! ## The rotation -/

/-- What a rotation at `t` makes of a tenant: the window shape at `t`; in the ledger view,
the segments of `(t - WindowSize, S]` kept, the load ahead of `S` moved into `S`, nothing
else; `WindowTotal - Σ values` and `WasOver` unchanged. -/
structure Rotated (cfg : EffectiveConfig) (t : UInt64) (tenant tenant' : TenantData) : Prop where
  shape : WindowShape cfg t tenant'.windowQueue
  valueAt_eq : ∀ s, valueAt tenant'.windowQueue s =
    if t.toNat < s + cfg.windowSize.toNat ∧ s ≤ (locateSegmentStartTime cfg t).toNat then
      valueAt tenant.windowQueue s +
        (if s = (locateSegmentStartTime cfg t).toNat then
          futureLoad (locateSegmentStartTime cfg t) tenant.windowQueue else 0)
    else 0
  drift : tenant'.windowTotal - (tenant'.windowQueue.map (·.value)).sum =
    tenant.windowTotal - (tenant.windowQueue.map (·.value)).sum
  wasOver : tenant'.wasOver = tenant.wasOver

theorem rotated_of_rotationNotNeeded {t : UInt64} {tenant : TenantData}
    (ht : cfg.windowSize.toNat ≤ t.toNat) (hd : StartsDecreasing tenant.windowQueue)
    (ha : StartsAligned cfg tenant.windowQueue)
    (hfast : rotationNotNeeded (locateSegmentStartTime cfg t)
      (locateSegmentStartTime cfg t - cfg.windowSize) tenant.windowQueue = true) :
    Rotated cfg t tenant tenant := by
  obtain ⟨hSt, htS, hSa⟩ := locate_toNat_bounds cfg t
  have hWS := window_le_locate cfg ht
  have hrb : (locateSegmentStartTime cfg t - cfg.windowSize).toNat =
      (locateSegmentStartTime cfg t).toNat - cfg.windowSize.toNat := u64_toNat_sub_of_le hWS
  have hw := cfg.window_eq_mul
  generalize hq : tenant.windowQueue = queue at hd ha hfast
  cases queue with
  | nil => simp [rotationNotNeeded] at hfast
  | cons front rest =>
      simp only [rotationNotNeeded, Bool.and_eq_true, beq_iff_eq, decide_eq_true_eq] at hfast
      obtain ⟨hfront, hback⟩ := hfast
      rw [u64_lt_iff, hrb] at hback
      have hlast := hd.getLast_le (List.cons_ne_nil front rest)
      set last := (front :: rest).getLast (List.cons_ne_nil front rest)
      have hlast_al : last.startTime.toNat % cfg.windowSegmentSize.toNat = 0 :=
        ha last (List.getLast_mem _)
      have hup : ∀ x ∈ front :: rest, x.startTime.toNat ≤ (locateSegmentStartTime cfg t).toNat :=
        fun x hx => by
          rcases List.mem_cons.mp hx with rfl | hx
          · rw [hfront]
          · exact Nat.le_of_lt (hfront ▸ (StartsDecreasing.cons_iff.mp hd).1 x hx)
      -- an aligned start after `S - WindowSize` is at least one segment past it
      have hlow : t.toNat < last.startTime.toNat + cfg.windowSize.toNat := by
        have hgap := aligned_gap (Nat.sub_mod_eq_zero_of_mod_eq (hSa.trans cfg.window_dvd.symm))
          hlast_al hback
        omega
      have hin : ∀ x ∈ front :: rest, t.toNat < x.startTime.toNat + cfg.windowSize.toNat ∧
          x.startTime.toNat ≤ (locateSegmentStartTime cfg t).toNat := fun x hx =>
        ⟨Nat.lt_of_lt_of_le hlow (Nat.add_le_add_right (hlast x hx) _), hup x hx⟩
      have hfut : futureLoad (locateSegmentStartTime cfg t) (front :: rest) = 0 := by
        simp [futureLoad, hfront]
      refine ⟨⟨hq ▸ hd, hq ▸ ha, ⟨front.value, rest, by rw [hq, ← hfront]⟩, hq ▸ hin⟩, ?_, rfl,
        rfl⟩
      intro s
      rw [hq, hfut]
      split
      · simp
      · rename_i hs
        exact valueAt_of_not_mem fun x hx he => hs (he ▸ hin x hx)

theorem sum_eq_futureLoad_add (S : UInt64) (queue : List WindowSegment) :
    (queue.map (·.value)).sum = futureLoad S queue +
      ((queue.dropWhile fun x => decide (S.toNat < x.startTime.toNat)).map (·.value)).sum := by
  conv_lhs => rw [← List.takeWhile_append_dropWhile
    (fun x => decide (S.toNat < x.startTime.toNat)) queue]
  rw [List.map_append, List.sum_append]
  rfl

theorem valueAt_add_front {S value amount : UInt64} {rest : List WindowSegment} (s : Nat) :
    valueAt (⟨S, value + amount⟩ :: rest) s =
      valueAt (⟨S, value⟩ :: rest) s + (if s = S.toNat then amount else 0) := by
  simp only [valueAt_cons]
  by_cases h : S.toNat = s
  · rw [if_pos h, if_pos h, if_pos h.symm]
  · rw [if_neg h, if_neg h, if_neg (Ne.symm h), add_zero]

/-- A rotation from a decreasing, aligned queue at `t ≥ WindowSize`. -/
theorem rotateWindow_spec {t load : UInt64} {tenant : TenantData}
    (ht : cfg.windowSize.toNat ≤ t.toNat) (hd : StartsDecreasing tenant.windowQueue)
    (ha : StartsAligned cfg tenant.windowQueue) :
    ∃ tenant', rotateWindow cfg (buildLoadRequest cfg t load) tenant = .ok tenant' ∧
      Rotated cfg t tenant tenant' := by
  obtain ⟨hSt, htS, hSa⟩ := locate_toNat_bounds cfg t
  have hWS := window_le_locate cfg ht
  have hseg := cfg.segment_le_window
  have hrb : (t - cfg.windowSize).toNat = t.toNat - cfg.windowSize.toNat :=
    u64_toNat_sub_of_le ht
  unfold rotateWindow
  simp only [buildLoadRequest_requestSegmentStartTime, buildLoadRequest_requestedTimestamp]
  split
  · exact ⟨tenant, rfl, rotated_of_rotationNotNeeded ht hd ha ‹_›⟩
  simp only [popFutureSegments_eq, zero_add]
  set S := locateSegmentStartTime cfg t with hS
  set R := futureLoad S tenant.windowQueue with hR
  -- the segments ahead of `S` are popped
  set q1 := tenant.windowQueue.dropWhile fun s => decide (S.toNat < s.startTime.toNat) with hq1
  have hd1 : StartsDecreasing q1 := hd.sublist (List.dropWhile_sublist _)
  have hle1 : ∀ x ∈ q1, x.startTime.toNat ≤ S.toNat := hd.le_of_mem_dropWhile
  -- a front segment at `S`
  obtain ⟨hd2, ⟨v2, rest2, hq2⟩, hmem2, hval2, hsum2⟩ := ensureFrontSegment_spec hd1 hle1
  rcases he2 : ensureFrontSegment S q1 with ⟨q2, pushed⟩
  rw [he2] at hd2 hq2 hmem2 hval2 hsum2
  dsimp only at hd2 hq2 hmem2 hval2 hsum2 ⊢
  -- eviction of the segments at or before `t - WindowSize`
  have hSrb : (t - cfg.windowSize).toNat < S.toNat := by omega
  obtain ⟨hq3, hdrift3⟩ := @evictStep_spec (t - cfg.windowSize)
    (tenant.windowTotal - R) q2 hd2 (by rw [hq2]; intro x hx; cases hx; exact hSrb)
  rcases he3 : evictStep (t - cfg.windowSize) q2 (tenant.windowTotal - R) with
    ⟨q3, tot3, evicted⟩
  rw [he3] at hq3 hdrift3
  dsimp only at hq3 hdrift3 ⊢
  have hq3' : q3 = ⟨S, v2⟩ ::
      rest2.filter fun s => decide ((t - cfg.windowSize).toNat < s.startTime.toNat) := by
    rw [hq3, hq2, List.filter_cons, if_pos (by simpa using hSrb)]
  have hsub3 : q3.Sublist q2 := hq3 ▸ List.filter_sublist _
  have hshape3 : WindowShape cfg t q3 := by
    refine ⟨hd2.sublist hsub3, fun x hx => ?_, ⟨v2, _, hq3'⟩, fun x hx => ?_⟩
    · rcases hmem2 x (hsub3.subset hx) with hx1 | rfl
      · exact ha x ((List.dropWhile_sublist _).subset hx1)
      · exact hSa
    · have hxw : (t - cfg.windowSize).toNat < x.startTime.toNat := by
        rw [hq3] at hx
        simpa using (List.mem_filter.mp hx).2
      refine ⟨by omega, ?_⟩
      rcases hmem2 x (hsub3.subset hx) with hx1 | rfl
      · exact hle1 x hx1
      · exact Nat.le_refl _
  have hval3 : ∀ s, valueAt q3 s = if t.toNat < s + cfg.windowSize.toNat ∧ s ≤ S.toNat then
      valueAt tenant.windowQueue s else 0 := by
    intro s
    rw [hq3, valueAt_filter q2 (fun n => decide ((t - cfg.windowSize).toNat < n)), hval2,
      hq1, @StartsDecreasing.valueAt_dropWhile _ hd (fun n => decide (S.toNat < n))
        (fun a b hab ha => by simp only [decide_eq_true_eq] at ha ⊢; omega)]
    simp only [decide_eq_true_eq, hrb]
    split_ifs <;> first | rfl | omega
  have hdrift : tot3 - (q3.map (·.value)).sum =
      tenant.windowTotal - (tenant.windowQueue.map (·.value)).sum := by
    rw [hdrift3, hsum2, sum_eq_futureLoad_add S tenant.windowQueue]
    exact sub_sub _ _ _
  -- the popped load goes back into `S`
  by_cases hR0 : 0 < R
  · rw [if_pos hR0, distributePenalty_one (by exact hq3') (u64_ne_iff.mpr (by
      simp only [u64_toNat_zero]; exact Nat.pos_iff_ne_zero.mp hR0))]
    simp only [hR0, decide_True, Bool.or_true, if_true]
    refine ⟨_, rfl, hshape3.of_starts_eq (by rw [hq3']; rfl), fun s => ?_, ?_, rfl⟩
    · rw [markDirty_windowQueue]
      change valueAt (⟨S, v2 + R⟩ :: _) s = _
      rw [valueAt_add_front, ← hq3', hval3]
      split
      · rfl
      · rename_i hs
        rw [if_neg (fun he => hs ⟨by omega, by omega⟩), add_zero]
    · rw [markDirty_windowQueue, markDirty_windowTotal, ← hdrift, hq3']
      simp only [List.map_cons, List.sum_cons]
      rw [add_right_comm v2 R, add_sub_add_right_eq_sub]
  · have hR' : R = 0 := u64_eq_iff.mpr (by simpa [u64_pos_iff] using hR0)
    rw [if_neg hR0]
    refine ⟨_, rfl, ?_⟩
    have hq4 : ∀ b : Bool, (if b = true then markDirty { tenant with windowQueue := q3, windowTotal := tot3 }
        else { tenant with windowQueue := q3, windowTotal := tot3 }).windowQueue = q3 := by
      intro b; split <;> rfl
    refine ⟨?_, fun s => ?_, ?_, ?_⟩
    · rw [hq4]
      exact hshape3
    · rw [hq4, hval3, ← hR, hR', ite_self, add_zero]
    · split <;> exact hdrift
    · split <;> rfl

/-! ## The early return is exact

The early return compares the back with `S - WindowSize`, the eviction loop with
`t - WindowSize`; on aligned start times the two agree. A queue in shape at `t` passes the
test, and the full path leaves every queue in shape, so the test passes exactly when the full
path would change nothing. -/

theorem rotationNotNeeded_of_shape {t : UInt64} {queue : List WindowSegment}
    (ht : cfg.windowSize.toNat ≤ t.toNat) (hq : WindowShape cfg t queue) :
    rotationNotNeeded (locateSegmentStartTime cfg t)
      (locateSegmentStartTime cfg t - cfg.windowSize) queue = true := by
  obtain ⟨value, rest, rfl⟩ := hq.front
  have hSt := (locate_toNat_bounds cfg t).1
  have hrb : (locateSegmentStartTime cfg t - cfg.windowSize).toNat =
      (locateSegmentStartTime cfg t).toNat - cfg.windowSize.toNat :=
    u64_toNat_sub_of_le (window_le_locate cfg ht)
  have hlast := (hq.inWindow _ (List.getLast_mem (List.cons_ne_nil _ rest))).1
  simp only [rotationNotNeeded, beq_self_eq_true, Bool.true_and, decide_eq_true_eq, u64_lt_iff,
    hrb]
  omega

theorem evictStep_evicted (removeBefore total : UInt64) (queue : List WindowSegment) :
    (evictStep removeBefore queue total).2.2 =
      decide ((evictStep removeBefore queue total).1.length < queue.length) := by
  unfold evictStep
  split <;> simp

theorem rotateWindowFull_of_rotationNotNeeded {t load : UInt64} {tenant : TenantData}
    (ht : cfg.windowSize.toNat ≤ t.toNat) (hd : StartsDecreasing tenant.windowQueue)
    (ha : StartsAligned cfg tenant.windowQueue)
    (hfast : rotationNotNeeded (locateSegmentStartTime cfg t)
      (locateSegmentStartTime cfg t - cfg.windowSize) tenant.windowQueue = true) :
    rotateWindowFull cfg (buildLoadRequest cfg t load) tenant = .ok tenant := by
  have hshape := (rotated_of_rotationNotNeeded ht hd ha hfast).shape
  obtain ⟨value, rest, hq⟩ := hshape.front
  have hrb : (t - cfg.windowSize).toNat = t.toNat - cfg.windowSize.toNat := u64_toNat_sub_of_le ht
  have hin : ∀ x ∈ tenant.windowQueue, (t - cfg.windowSize).toNat < x.startTime.toNat :=
    fun x hx => by have := (hshape.inWindow x hx).1; omega
  obtain ⟨hkeep, hdrift⟩ := @evictStep_spec (t - cfg.windowSize) tenant.windowTotal _
    hshape.decreasing fun x hx => hin x (List.mem_of_mem_head? hx)
  rw [List.filter_eq_self.mpr fun x hx => decide_eq_true (hin x hx)] at hkeep
  have hev := evictStep_evicted (t - cfg.windowSize) tenant.windowTotal tenant.windowQueue
  simp only [hkeep, lt_self_iff_false, decide_False] at hev
  rw [hkeep, sub_left_inj] at hdrift
  have hpop : popFutureSegments (locateSegmentStartTime cfg t) tenant.windowQueue 0
      tenant.windowTotal = (tenant.windowQueue, 0, tenant.windowTotal) := by
    rw [hq]; simp [popFutureSegments]
  have hens : ensureFrontSegment (locateSegmentStartTime cfg t) tenant.windowQueue =
      (tenant.windowQueue, false) := by
    rw [hq]; simp [ensureFrontSegment]
  unfold rotateWindowFull
  simp only [buildLoadRequest_requestSegmentStartTime, buildLoadRequest_requestedTimestamp, hpop,
    hens]
  rcases he : evictStep (t - cfg.windowSize) tenant.windowQueue tenant.windowTotal with
    ⟨q3, tot3, evicted⟩
  rw [he] at hkeep hdrift hev
  dsimp only at hkeep hdrift hev ⊢
  subst hkeep hdrift hev
  rfl

theorem rotateWindow_of_shape {t load : UInt64} {tenant : TenantData}
    (ht : cfg.windowSize.toNat ≤ t.toNat) (hq : WindowShape cfg t tenant.windowQueue) :
    rotateWindow cfg (buildLoadRequest cfg t load) tenant = .ok tenant := by
  rw [rotateWindow_eq_full, buildLoadRequest_requestSegmentStartTime,
    if_pos (rotationNotNeeded_of_shape ht hq)]

theorem rotationNotNeeded_iff {t load : UInt64} {tenant : TenantData}
    (ht : cfg.windowSize.toNat ≤ t.toNat) (hd : StartsDecreasing tenant.windowQueue)
    (ha : StartsAligned cfg tenant.windowQueue) :
    rotationNotNeeded (locateSegmentStartTime cfg t)
        (locateSegmentStartTime cfg t - cfg.windowSize) tenant.windowQueue = true ↔
      ∃ tenant', rotateWindowFull cfg (buildLoadRequest cfg t load) tenant = .ok tenant' ∧
        tenant'.windowQueue = tenant.windowQueue ∧ tenant'.windowTotal = tenant.windowTotal ∧
        tenant'.version = tenant.version := by
  refine ⟨fun hfast => ⟨tenant, rotateWindowFull_of_rotationNotNeeded ht hd ha hfast, rfl, rfl,
    rfl⟩, ?_⟩
  rintro ⟨tenant', hfull, hq, -, -⟩
  by_contra hfast
  obtain ⟨tenant'', hrot, hrotated⟩ := @rotateWindow_spec cfg t load tenant ht hd ha
  rw [rotateWindow_eq_full, buildLoadRequest_requestSegmentStartTime, if_neg hfast, hfull] at hrot
  cases hrot
  exact hfast (hq ▸ rotationNotNeeded_of_shape ht hrotated.shape)

theorem rotateWindow_bind_rotateWindow {t : UInt64} {tenant : TenantData}
    (ht : cfg.windowSize.toNat ≤ t.toNat) (hd : StartsDecreasing tenant.windowQueue)
    (ha : StartsAligned cfg tenant.windowQueue) (load load' : UInt64) :
    (rotateWindow cfg (buildLoadRequest cfg t load) tenant >>=
        rotateWindow cfg (buildLoadRequest cfg t load')) =
      rotateWindow cfg (buildLoadRequest cfg t load) tenant := by
  obtain ⟨tenant', hrot, hrotated⟩ := @rotateWindow_spec cfg t load tenant ht hd ha
  rw [hrot]
  exact rotateWindow_of_shape ht hrotated.shape

end LoadLimiter
