import LoadLimiter.Window.Distribute
import LoadLimiter.Window.Shape

/-! # What `distributePenalty` does

With the queue in shape, `ensureLatestNSegments` only adds empty segments, and the shares
land on the segments `S - i·seg` for `i` below the (possibly shrunk) span.
-/

namespace LoadLimiter

variable {cfg : EffectiveConfig}

@[simp] theorem latestSegmentStart_zero (cfg : EffectiveConfig) (latestSegmentTime : UInt64) :
    latestSegmentStart cfg latestSegmentTime 0 = latestSegmentTime := by
  simp [latestSegmentStart]

theorem latestSegmentStart_toNat (cfg : EffectiveConfig) {latestSegmentTime : UInt64} {i : Nat}
    (h : i * cfg.windowSegmentSize.toNat ≤ latestSegmentTime.toNat) :
    (latestSegmentStart cfg latestSegmentTime i).toNat =
      latestSegmentTime.toNat - i * cfg.windowSegmentSize.toNat := by
  have hi : i < 2 ^ 64 := by
    have := u64_toNat_lt latestSegmentTime
    have := cfg.segment_pos
    have : i ≤ i * cfg.windowSegmentSize.toNat := Nat.le_mul_of_pos_right _ this
    omega
  have hmul : (UInt64.ofNat i * cfg.windowSegmentSize).toNat = i * cfg.windowSegmentSize.toNat := by
    rw [u64_toNat_mul_of_lt] <;> rw [u64_toNat_ofNat_of_lt hi]
    have := u64_toNat_lt latestSegmentTime
    omega
  unfold latestSegmentStart
  rw [u64_toNat_sub_of_le (by rw [hmul]; exact h), hmul]

theorem needsRebuild_one {latestSegmentTime : UInt64} {value : UInt64}
    {rest : List WindowSegment} :
    needsRebuild cfg latestSegmentTime 1 (⟨latestSegmentTime, value⟩ :: rest) = false := by
  simp [needsRebuild]

@[simp] theorem addShares_nil (queue : List WindowSegment) : addShares [] queue = .ok queue := rfl

theorem addShares_cons (share : UInt64) (shares : List UInt64) (segment : WindowSegment)
    (queue : List WindowSegment) :
    addShares (share :: shares) (segment :: queue) =
      (addShares shares queue).map ({ segment with value := segment.value + share } :: ·) := by
  simp only [addShares]
  cases addShares shares queue <;> rfl

/-! ## The normaliser -/

theorem cachedSegment_startTime (validSegments : List WindowSegment) (k : UInt64) :
    (cachedSegment validSegments k).startTime = k := by
  unfold cachedSegment
  cases h : validSegments.reverse.find? (fun s => s.startTime == k) with
  | none => rfl
  | some x => simpa using List.find?_some h

theorem cachedSegment_value {validSegments : List WindowSegment}
    (hd : StartsDecreasing validSegments) (k : UInt64) :
    (cachedSegment validSegments k).value = valueAt validSegments k.toNat := by
  induction validSegments with
  | nil => rfl
  | cons x rest ih =>
      have hrest := StartsDecreasing.cons_iff.mp hd
      unfold cachedSegment at ih ⊢
      rw [List.reverse_cons, List.find?_append, valueAt_cons]
      by_cases hx : x.startTime = k
      · have hnone : rest.reverse.find? (fun s => s.startTime == k) = none :=
          List.find?_eq_none.mpr fun y hy => by
            have := hrest.1 y (List.mem_reverse.mp hy)
            simp only [beq_iff_eq]
            rintro rfl
            exact Nat.ne_of_gt this (congrArg UInt64.toNat hx)
        rw [hnone, if_pos (congrArg UInt64.toNat hx)]
        simp [hx]
      · rw [if_neg (fun h => hx (u64_eq_iff.mpr h))]
        have hx' : [x].find? (fun s => s.startTime == k) = none := by simp [hx]
        rw [hx', Option.or_none]
        exact ih hrest.2

theorem start_add_le_of_mem_drop {queue : List WindowSegment} (hd : StartsDecreasing queue)
    (ha : StartsAligned cfg queue) {bound : Nat}
    (hb : ∀ x ∈ queue, x.startTime.toNat ≤ bound) (i : Nat) :
    ∀ x ∈ queue.drop i, x.startTime.toNat + i * cfg.windowSegmentSize.toNat ≤ bound := by
  induction queue generalizing bound i with
  | nil => simp
  | cons y rest ih =>
      cases i with
      | zero => simpa using hb
      | succ i =>
          have hgap : ∀ z ∈ rest, z.startTime.toNat + cfg.windowSegmentSize.toNat ≤ bound :=
            fun z hz => Nat.le_trans (aligned_gap (ha z (List.mem_cons_of_mem _ hz))
              (ha y (List.mem_cons_self _ _)) ((StartsDecreasing.cons_iff.mp hd).1 z hz))
              (hb y (List.mem_cons_self _ _))
          intro x hx
          rw [List.drop_succ_cons] at hx
          have hx' := hgap x (List.mem_of_mem_drop hx)
          have := ih hd.tail (fun z hz => ha z (List.mem_cons_of_mem _ hz))
            (fun z hz => Nat.le_sub_of_add_le (hgap z hz)) i x hx
          rw [Nat.succ_mul]
          omega

theorem rebuiltHeads_starts (cfg : EffectiveConfig) (validSegments : List WindowSegment)
    {S : UInt64} {n : Nat}
    (hn : n * cfg.windowSegmentSize.toNat ≤ S.toNat + cfg.windowSegmentSize.toNat) :
    ((List.range n).map fun i => cachedSegment validSegments (latestSegmentStart cfg S i)).map
        (·.startTime.toNat) = latestStarts cfg.windowSegmentSize.toNat S.toNat n := by
  rw [List.map_map, latestStarts]
  refine List.map_congr_left fun i hi => ?_
  rw [List.mem_range] at hi
  have : i * cfg.windowSegmentSize.toNat + cfg.windowSegmentSize.toNat ≤
      n * cfg.windowSegmentSize.toNat := by
    rw [← Nat.succ_mul]; exact Nat.mul_le_mul_right _ hi
  simp only [Function.comp, cachedSegment_startTime]
  exact latestSegmentStart_toNat cfg (by omega)

theorem valueAt_rebuiltHeads {validSegments : List WindowSegment}
    (hv : StartsDecreasing validSegments) {S : UInt64} {n : Nat}
    (hn : n * cfg.windowSegmentSize.toNat ≤ S.toNat + cfg.windowSegmentSize.toNat) (s : Nat) :
    valueAt ((List.range n).map fun i =>
        cachedSegment validSegments (latestSegmentStart cfg S i)) s =
      if s ∈ latestStarts cfg.windowSegmentSize.toNat S.toNat n then valueAt validSegments s
      else 0 := by
  have hstarts := rebuiltHeads_starts cfg validSegments hn
  split
  · rename_i hs
    rw [← hstarts] at hs
    obtain ⟨x, hx, rfl⟩ := List.mem_map.mp hs
    rw [valueAt_of_mem (hstarts ▸ (latestStarts_pairwise cfg.segment_pos hn).imp
      fun h => Nat.ne_of_gt h) hx]
    obtain ⟨i, -, rfl⟩ := List.mem_map.mp hx
    rw [cachedSegment_value hv, cachedSegment_startTime]
  · rename_i hs
    exact valueAt_of_not_mem fun x hx he =>
      hs (hstarts ▸ he ▸ List.mem_map_of_mem (fun x : WindowSegment => x.startTime.toNat) hx)

/-- What `ensureLatestNSegments` leaves for a start `S` and a span `n`: the first `n`
segments start at the latest starts, the queue is still decreasing, every segment is an old
one or starts at a latest start, and the ledger view is unchanged. -/
structure LatestEnsured (cfg : EffectiveConfig) (S n : Nat) (queue queue' : List WindowSegment) :
    Prop where
  front : (queue'.take n).map (·.startTime.toNat) = latestStarts cfg.windowSegmentSize.toNat S n
  decreasing : StartsDecreasing queue'
  mem : ∀ x ∈ queue', x ∈ queue ∨
    x.startTime.toNat ∈ latestStarts cfg.windowSegmentSize.toNat S n
  valueAt_eq : ∀ s, valueAt queue' s = valueAt queue s

theorem take_starts_of_not_needsRebuild {S : UInt64} {n : Nat} {queue : List WindowSegment}
    (hn : n * cfg.windowSegmentSize.toNat ≤ S.toNat + cfg.windowSegmentSize.toNat)
    (h : needsRebuild cfg S n queue = false) :
    (queue.take n).map (·.startTime.toNat) = latestStarts cfg.windowSegmentSize.toNat S.toNat n := by
  apply List.ext_getElem?
  intro i
  rw [List.getElem?_map, List.getElem?_take, latestStarts, List.getElem?_map]
  by_cases hi : i < n
  · rw [if_pos hi, List.getElem?_range hi]
    have hq := List.any_eq_false.mp h i (List.mem_range.mpr hi)
    have : i * cfg.windowSegmentSize.toNat + cfg.windowSegmentSize.toNat ≤
        n * cfg.windowSegmentSize.toNat := by
      rw [← Nat.succ_mul]; exact Nat.mul_le_mul_right _ hi
    cases hqi : queue[i]? with
    | none => simp [hqi] at hq
    | some x =>
        simp only [hqi, bne_iff_ne, ne_eq, Decidable.not_not] at hq
        rw [Option.map_some', Option.map_some', hq, latestSegmentStart_toNat cfg (by omega)]
  · rw [if_neg hi, List.getElem?_eq_none (by simpa using hi)]
    rfl

theorem rebuildStart_toNat {S N : UInt64} (hN : 1 ≤ N.toNat)
    (hNS : (N.toNat - 1) * cfg.windowSegmentSize.toNat ≤ S.toNat) :
    (S - (N - 1) * cfg.windowSegmentSize).toNat =
      S.toNat - (N.toNat - 1) * cfg.windowSegmentSize.toNat := by
  have h1 : (N - 1).toNat = N.toNat - 1 := u64_toNat_sub_of_le hN
  have hmul : ((N - 1) * cfg.windowSegmentSize).toNat =
      (N.toNat - 1) * cfg.windowSegmentSize.toNat := by
    rw [u64_toNat_mul_of_lt] <;> rw [h1]
    have := u64_toNat_lt S
    omega
  rw [u64_toNat_sub_of_le (by rw [hmul]; exact hNS), hmul]

/-- `ensureLatestNSegments` on a decreasing, aligned queue that starts at or before `S`,
for a span that fits below `S`. -/
theorem ensureLatestNSegments_spec {req : SubmitRequest} {N : UInt64}
    {queue : List WindowSegment} (hd : StartsDecreasing queue) (ha : StartsAligned cfg queue)
    (hle : ∀ x ∈ queue, x.startTime.toNat ≤ req.requestSegmentStartTime.toNat)
    (hS : req.requestSegmentStartTime.toNat % cfg.windowSegmentSize.toNat = 0)
    (hN : 1 ≤ N.toNat)
    (hNS : N.toNat * cfg.windowSegmentSize.toNat ≤
      req.requestSegmentStartTime.toNat + cfg.windowSegmentSize.toNat) :
    LatestEnsured cfg req.requestSegmentStartTime.toNat N.toNat queue
      (ensureLatestNSegments cfg req N queue) := by
  have hpos := cfg.segment_pos
  have hNm : (N.toNat - 1) * cfg.windowSegmentSize.toNat + cfg.windowSegmentSize.toNat =
      N.toNat * cfg.windowSegmentSize.toNat := by
    rw [← Nat.succ_mul, Nat.succ_eq_add_one, Nat.sub_add_cancel hN]
  unfold ensureLatestNSegments
  dsimp only
  split
  · rename_i hno
    exact ⟨take_starts_of_not_needsRebuild hNS (by simpa using hno), hd,
      fun x hx => .inl hx, fun _ => rfl⟩
  rw [StartsDecreasing.reverse_takeWhile_reverse hd, rebuildStart_toNat hN (by omega)]
  generalize req.requestSegmentStartTime = S at *
  have hstarts := rebuiltHeads_starts cfg (queue.take N.toNat) hNS
  generalize hheads : (List.range N.toNat).map (fun i =>
    cachedSegment (queue.take N.toNat) (latestSegmentStart cfg S i)) = heads at hstarts ⊢
  have hlen : heads.length = N.toNat := by
    rw [← List.length_map heads (·.startTime.toNat), hstarts, latestStarts, List.length_map,
      List.length_range]
  have hlatest : ∀ a ∈ latestStarts cfg.windowSegmentSize.toNat S.toNat N.toNat,
      S.toNat - (N.toNat - 1) * cfg.windowSegmentSize.toNat ≤ a := fun a ha' => by
    obtain ⟨haa, -, hlt⟩ := (mem_latestStarts_iff hpos hS).mp ha'
    have := aligned_gap hS (by rw [Nat.add_mul_mod_self_right]; exact haa) hlt
    omega
  have hrb := @StartsDecreasing.not_of_mem_dropWhile queue hd
    (fun n => decide (S.toNat - (N.toNat - 1) * cfg.windowSegmentSize.toNat ≤ n))
    (fun a b hab ha' => by simp only [decide_eq_true_eq] at ha' ⊢; omega)
  refine ⟨by rw [List.take_left' hlen, hstarts], ?_, ?_, ?_⟩
  · refine List.pairwise_append.mpr ⟨?_, hd.sublist (List.dropWhile_sublist _), ?_⟩
    · have := latestStarts_pairwise hpos hNS
      rw [← hstarts, List.pairwise_map] at this
      exact this
    · intro a ha' b hb
      have h1 := hlatest _ (hstarts ▸ List.mem_map_of_mem (fun x : WindowSegment => x.startTime.toNat) ha')
      have h2 := hrb b hb
      simp only [decide_eq_false_iff_not, Nat.not_le] at h2
      omega
  · intro x hx
    rcases List.mem_append.mp hx with hx | hx
    · exact .inr (hstarts ▸ List.mem_map_of_mem (fun x : WindowSegment => x.startTime.toNat) hx)
    · exact .inl ((List.dropWhile_sublist _).subset hx)
  · intro s
    by_cases hs : s ∈ latestStarts cfg.windowSegmentSize.toNat S.toNat N.toNat
    · obtain ⟨x, hx, hxs⟩ := List.mem_map.mp (hstarts ▸ hs)
      rw [valueAt_append_of_mem ⟨x, hx, hxs⟩, ← hheads,
        valueAt_rebuiltHeads (hd.sublist (List.take_sublist _ _)) hNS, if_pos hs]
      conv_rhs => rw [← List.take_append_drop N.toNat queue]
      refine (valueAt_append_of_not_mem_right fun y hy he => ?_).symm
      have := start_add_le_of_mem_drop hd ha hle N.toNat y hy
      have := hlatest s hs
      omega
    · rw [@valueAt_append_of_not_mem _ _ s fun x hx he =>
        hs (hstarts ▸ he ▸ List.mem_map_of_mem (fun x : WindowSegment => x.startTime.toNat) hx),
        @StartsDecreasing.valueAt_dropWhile _ hd
          (fun n => decide (S.toNat - (N.toNat - 1) * cfg.windowSegmentSize.toNat ≤ n))
          (fun a b hab ha' => by simp only [decide_eq_true_eq] at ha' ⊢; omega)]
      split
      · rename_i hrs
        simp only [decide_eq_true_eq] at hrs
        refine (@valueAt_of_not_mem _ s fun y hy he => hs ((mem_latestStarts_iff hpos hS).mpr
          ⟨he ▸ ha y hy, he ▸ hle y hy, ?_⟩)).symm
        omega
      · rfl

theorem latestStarts_succ (seg S n : Nat) :
    latestStarts seg S (n + 1) = S :: latestStarts seg (S - seg) n := by
  simp only [latestStarts, List.range_succ_eq_map, List.map_cons, List.map_map, Nat.zero_mul,
    Nat.sub_zero, List.cons.injEq, true_and]
  refine List.map_congr_left fun i _ => ?_
  simp only [Function.comp, Nat.succ_mul, Nat.sub_sub, Nat.add_comm]

theorem LatestEnsured.windowShape {t : UInt64} {n : Nat} {queue queue' : List WindowSegment}
    (h : LatestEnsured cfg (locateSegmentStartTime cfg t).toNat n queue queue')
    (hq : WindowShape cfg t queue) (hn1 : 1 ≤ n) (hn : n ≤ cfg.numSegments.toNat) :
    WindowShape cfg t queue' := by
  obtain ⟨hSt, htS, hSa⟩ := locate_toNat_bounds cfg t
  have hwin : ∀ x ∈ queue', x.startTime.toNat ∈ windowStarts cfg t := fun x hx => by
    rcases h.mem x hx with hx | hx
    · exact (mem_windowStarts_iff cfg).mpr ⟨hq.aligned x hx, hq.inWindow x hx⟩
    · obtain ⟨ha, hle, hlt⟩ := (mem_latestStarts_iff cfg.segment_pos hSa).mp hx
      refine (mem_latestStarts_iff cfg.segment_pos hSa).mpr ⟨ha, hle, ?_⟩
      have := Nat.mul_le_mul_right cfg.windowSegmentSize.toNat hn
      omega
  refine ⟨h.decreasing, fun x hx => ((mem_windowStarts_iff cfg).mp (hwin x hx)).1, ?_,
    fun x hx => ((mem_windowStarts_iff cfg).mp (hwin x hx)).2⟩
  have hfront := h.front
  obtain ⟨m, rfl⟩ := Nat.exists_eq_add_of_le' hn1
  cases queue' with
  | nil => simp [latestStarts_succ] at hfront
  | cons x rest =>
      rw [List.take_succ_cons, List.map_cons, latestStarts_succ, List.cons.injEq] at hfront
      exact ⟨x.value, rest, by rw [← u64_eq_iff.mpr hfront.1]⟩

theorem addShares_spec {shares : List UInt64} :
    ∀ {queue : List WindowSegment}, shares.length ≤ queue.length →
      ∃ queue', addShares shares queue = .ok queue' ∧
        queue'.map (·.startTime) = queue.map (·.startTime) ∧
        (queue'.map (·.value)).sum = (queue.map (·.value)).sum + shares.sum := by
  induction shares with
  | nil => exact fun _ => ⟨_, rfl, rfl, by simp⟩
  | cons share shares ih =>
      intro queue h
      cases queue with
      | nil => exact absurd h (by simp)
      | cons segment queue =>
          obtain ⟨queue', hq, hs, hv⟩ := ih (Nat.le_of_succ_le_succ h)
          refine ⟨_, by rw [addShares_cons, hq]; rfl, by simp [hs], ?_⟩
          simp only [List.map_cons, List.sum_cons, hv, List.sum_cons]
          rw [add_add_add_comm]

/-- The share of start `s` when `shares` go, newest first, to the starts
`S, S - seg, S - 2·seg, ...`. -/
def shareAt (seg : Nat) : Nat → List UInt64 → Nat → UInt64
  | _, [], _ => 0
  | S, share :: shares, s => if s = S then share else shareAt seg (S - seg) shares s

theorem valueAt_addShares {seg : Nat} :
    ∀ {shares : List UInt64} {queue queue' : List WindowSegment} {S : Nat},
      (queue.take shares.length).map (·.startTime.toNat) = latestStarts seg S shares.length →
      addShares shares queue = .ok queue' →
      ∀ s, valueAt queue' s = valueAt queue s + shareAt seg S shares s
  | [], _, _, _, _, h, s => by cases h; simp [shareAt]
  | share :: shares, [], _, _, hf, _, _ => by simp [latestStarts_succ] at hf
  | share :: shares, x :: rest, queue', S, hf, h, s => by
      rw [List.length_cons, List.take_succ_cons, List.map_cons, latestStarts_succ,
        List.cons.injEq] at hf
      rw [addShares_cons] at h
      cases hr : addShares shares rest with
      | error => rw [hr] at h; cases h
      | ok q =>
          rw [hr] at h
          cases h
          have ih := valueAt_addShares hf.2 hr s
          simp only [valueAt_cons, shareAt, hf.1]
          by_cases hs : S = s
          · subst hs; simp
          · rw [if_neg hs, if_neg hs, if_neg (Ne.symm hs), ih]

/-- The shares of a penalty `amount` over a span of `span` segments as the documentation of
`distributePenalty` describes them: when the amount is below the span, the span shrinks to
the amount; each segment gets `amount / span`, and the first (newest) `amount % span` get one
more. -/
def penaltyShares (amount span : UInt64) : List UInt64 :=
  let span := if amount < span then amount else span
  (List.range span.toNat).map fun i =>
    if i < (amount % span).toNat then amount / span + 1 else amount / span

theorem segmentDistribution_eq_penaltyShares {amount N : UInt64} (hA : amount ≠ 0)
    (hN : N ≠ 0) :
    let split := if amount / N < 1 then (amount, 1) else (N, amount / N)
    segmentDistribution split.1 split.2 (amount % split.1) = penaltyShares amount N := by
  have hA' := u64_ne_iff.mp hA
  have hN' := u64_ne_iff.mp hN
  simp only [u64_toNat_zero] at hA' hN'
  have hiff : amount / N < 1 ↔ amount < N := by
    rw [u64_lt_iff, u64_lt_iff, UInt64.toNat_div, u64_toNat_one, Nat.lt_one_iff,
      Nat.div_eq_zero_iff (by omega)]
  unfold segmentDistribution penaltyShares
  by_cases h : amount < N
  · have hdiv : amount / amount = 1 := by
      rw [u64_eq_iff, UInt64.toNat_div, Nat.div_self (by omega)]
      rfl
    simp only [if_pos (hiff.mpr h), if_pos h, hdiv]
  · simp only [if_neg (fun h' => h (hiff.mp h')), if_neg h]

theorem sum_range_ite_succ (r a : Nat) :
    ∀ m, ((List.range m).map fun i => if i < r then a + 1 else a).sum = m * a + min r m
  | 0 => by simp
  | m + 1 => by
      rw [List.range_succ, List.map_append, List.sum_append, sum_range_ite_succ r a m]
      simp only [List.map_cons, List.map_nil, List.sum_cons, List.sum_nil, Nat.succ_mul]
      split_ifs <;> omega

theorem penaltyShares_sum {amount span : UInt64} (hs : span ≠ 0) :
    ((penaltyShares amount span).map UInt64.toNat).sum = amount.toNat := by
  unfold penaltyShares
  have hsp : (if amount < span then amount else span).toNat = 0 → amount.toNat = 0 := by
    have := u64_ne_iff.mp hs
    simp only [u64_toNat_zero] at this
    split <;> omega
  generalize (if amount < span then amount else span) = sp at hsp
  simp only [List.map_map]
  rcases Nat.eq_zero_or_pos sp.toNat with h0 | hpos
  · simp [h0, hsp h0]
  have hq := Nat.div_add_mod amount.toNat sp.toNat
  have hr := Nat.mod_lt amount.toNat hpos
  have hterm : ∀ i ∈ List.range sp.toNat, (UInt64.toNat ∘ fun i =>
      if i < (amount % sp).toNat then amount / sp + 1 else amount / sp) i =
        if i < amount.toNat % sp.toNat then amount.toNat / sp.toNat + 1
        else amount.toNat / sp.toNat := by
    intro i _
    simp only [Function.comp, UInt64.toNat_mod]
    split_ifs with hi
    · have : amount.toNat / sp.toNat ≤ amount.toNat / 2 := Nat.div_le_div_left (by omega) (by omega)
      have := u64_toNat_lt amount
      rw [u64_toNat_add_of_lt (by rw [UInt64.toNat_div, u64_toNat_one]; omega), UInt64.toNat_div,
        u64_toNat_one]
    · exact UInt64.toNat_div _ _
  rw [List.map_congr_left hterm, sum_range_ite_succ, min_eq_left hr.le]
  omega

theorem penaltyShares_sum_le (amount span : UInt64) :
    ((penaltyShares amount span).map UInt64.toNat).sum ≤ amount.toNat := by
  by_cases hs : span = 0
  · have hnot : ¬amount < 0 := fun h => Nat.not_lt_zero _ (u64_lt_iff.mp h)
    simp [hs, penaltyShares, hnot]
  · exact (penaltyShares_sum hs).le

theorem foldl_add_eq (total : UInt64) (shares : List UInt64) :
    shares.foldl (· + ·) total = total + shares.sum := by
  induction shares generalizing total with
  | nil => simp
  | cons share shares ih => rw [List.foldl_cons, ih, List.sum_cons, add_assoc]

theorem penaltyShares_zero (N : UInt64) : penaltyShares 0 N = [] := by
  have hsp : (if (0 : UInt64) < N then (0 : UInt64) else N).toNat = 0 := by
    split
    · rfl
    · rename_i h
      rw [u64_lt_iff, u64_toNat_zero] at h
      omega
  simp only [penaltyShares, hsp, List.range_zero, List.map_nil]

theorem distributePenalty_windowTotal {req : SubmitRequest} {amount N : UInt64}
    {tenant tenant' : TenantData} (h : distributePenalty cfg req amount N tenant = .ok tenant') :
    tenant'.windowTotal = tenant.windowTotal + (penaltyShares amount N).sum := by
  unfold distributePenalty at h
  split at h
  · rename_i hA
    cases h
    rw [hA, penaltyShares_zero, List.sum_nil, add_zero]
  split at h
  · cases h
  rename_i hA hN0
  have hsh := segmentDistribution_eq_penaltyShares hA hN0
  generalize (if amount / N < 1 then (amount, 1) else (N, amount / N)) = split at hsh h
  obtain ⟨N', perSegment⟩ := split
  dsimp only at hsh h
  rw [hsh] at h
  cases hadd : addShares (penaltyShares amount N)
      (ensureLatestNSegments cfg req N' tenant.windowQueue) with
  | error => rw [hadd] at h; cases h
  | ok q =>
      rw [hadd] at h
      cases h
      exact foldl_add_eq _ _

theorem penaltySpan_toNat {amount N : UInt64} (hN : N ≠ 0) :
    (if amount / N < 1 then (amount, 1) else (N, amount / N)).1.toNat =
      min N.toNat amount.toNat := by
  have hN' := u64_ne_iff.mp hN
  simp only [u64_toNat_zero] at hN'
  have hiff : amount / N < 1 ↔ amount.toNat < N.toNat := by
    rw [u64_lt_iff, UInt64.toNat_div, u64_toNat_one, Nat.lt_one_iff,
      Nat.div_eq_zero_iff (by omega)]
  split
  · exact (min_eq_right (hiff.mp ‹_›).le).symm
  · exact (min_eq_left (not_lt.mp fun h => ‹¬_› (hiff.mpr h))).symm

theorem LatestEnsured.aligned {S n : Nat} {queue queue' : List WindowSegment}
    (h : LatestEnsured cfg S n queue queue') (ha : StartsAligned cfg queue)
    (hS : S % cfg.windowSegmentSize.toNat = 0) : StartsAligned cfg queue' := fun x hx =>
  (h.mem x hx).elim (ha x) fun hl => ((mem_latestStarts_iff cfg.segment_pos hS).mp hl).1

/-- A penalty of `A ≥ 1` over `N ≥ 1` segments at `t`, on a queue in shape, whose span of
`min N A` segments from `S` down stays at or above zero: the queue is normalised for that span,
and the shares are added to its first segments, so that the start `S - i·seg` gains the `i`-th
share, and their sum to the total. -/
theorem distributePenalty_latest {t load amount N : UInt64} {tenant : TenantData}
    (hq : WindowShape cfg t tenant.windowQueue) (hA : amount ≠ 0) (hN : N ≠ 0)
    (hspan : (min N.toNat amount.toNat - 1) * cfg.windowSegmentSize.toNat ≤
      (locateSegmentStartTime cfg t).toNat) :
    ∃ queue1 tenant', LatestEnsured cfg (locateSegmentStartTime cfg t).toNat
        (min N.toNat amount.toNat) tenant.windowQueue queue1 ∧
      tenant'.windowQueue.map (·.startTime) = queue1.map (·.startTime) ∧
      (tenant'.windowQueue.map (·.value)).sum =
        (queue1.map (·.value)).sum + (penaltyShares amount N).sum ∧
      distributePenalty cfg (buildLoadRequest cfg t load) amount N tenant = .ok tenant' ∧
      tenant'.wasOver = tenant.wasOver ∧ tenant'.version = tenant.version ∧
      tenant'.windowTotal = tenant.windowTotal + (penaltyShares amount N).sum ∧
      ∀ s, valueAt tenant'.windowQueue s = valueAt tenant.windowQueue s +
        shareAt cfg.windowSegmentSize.toNat (locateSegmentStartTime cfg t).toNat
          (penaltyShares amount N) s := by
  have hA' := u64_ne_iff.mp hA
  have hN' := u64_ne_iff.mp hN
  simp only [u64_toNat_zero] at hA' hN'
  obtain ⟨-, -, hSa⟩ := locate_toNat_bounds cfg t
  have hsh := segmentDistribution_eq_penaltyShares hA hN
  unfold distributePenalty
  rw [if_neg hA, if_neg hN]
  have hmin := @penaltySpan_toNat amount N hN
  generalize (if amount / N < 1 then (amount, 1) else (N, amount / N)) = split at hsh hmin
  obtain ⟨N', perSegment⟩ := split
  dsimp only at hsh hmin ⊢
  have hm1 : (min N.toNat amount.toNat - 1) * cfg.windowSegmentSize.toNat +
      cfg.windowSegmentSize.toNat = min N.toNat amount.toNat * cfg.windowSegmentSize.toNat := by
    rw [← Nat.succ_mul, Nat.succ_eq_add_one, Nat.sub_add_cancel (by omega)]
  have hE := @ensureLatestNSegments_spec cfg (buildLoadRequest cfg t load) N' _ hq.decreasing
    hq.aligned (fun x hx => (hq.inWindow x hx).2) hSa (by omega) (by
      simp only [buildLoadRequest_requestSegmentStartTime, hmin]
      omega)
  simp only [buildLoadRequest_requestSegmentStartTime, hmin] at hE
  -- one share for each segment of the span
  have hshares : (penaltyShares amount N).length = min N.toNat amount.toNat := by
    rw [← hsh]
    simp only [segmentDistribution, List.length_map, List.length_range, hmin]
  have hfront := hE.front
  rw [← hshares] at hfront
  have hlen : (penaltyShares amount N).length ≤
      (ensureLatestNSegments cfg (buildLoadRequest cfg t load) N' tenant.windowQueue).length := by
    have := congrArg List.length hfront
    simp only [List.length_map, List.length_take, latestStarts, List.length_range] at this
    omega
  obtain ⟨queue', hadd, hstarts, hsum⟩ := addShares_spec hlen
  rw [hsh, hadd]
  exact ⟨_, _, hE, hstarts, hsum, rfl, rfl, rfl, foldl_add_eq _ _, fun s => by
    rw [valueAt_addShares hfront hadd s, hE.valueAt_eq]⟩

theorem distributePenalty_spec {t load amount N : UInt64} {tenant : TenantData}
    (ht : cfg.windowSize.toNat ≤ t.toNat) (hq : WindowShape cfg t tenant.windowQueue)
    (hN : 1 ≤ N.toNat) (hNn : N.toNat ≤ cfg.numSegments.toNat) :
    ∃ tenant', distributePenalty cfg (buildLoadRequest cfg t load) amount N tenant = .ok tenant' ∧
      WindowShape cfg t tenant'.windowQueue ∧
      tenant'.windowTotal - (tenant'.windowQueue.map (·.value)).sum =
        tenant.windowTotal - (tenant.windowQueue.map (·.value)).sum ∧
      tenant'.wasOver = tenant.wasOver ∧ tenant'.version = tenant.version ∧
      ∀ s, valueAt tenant'.windowQueue s = valueAt tenant.windowQueue s +
        shareAt cfg.windowSegmentSize.toNat (locateSegmentStartTime cfg t).toNat
          (penaltyShares amount N) s := by
  by_cases hA : amount = 0
  · subst hA
    exact ⟨tenant, by rw [distributePenalty, if_pos rfl], hq, rfl, rfl, rfl,
      fun s => by rw [penaltyShares_zero, shareAt, add_zero]⟩
  have hN0 : N ≠ 0 := u64_ne_iff.mpr (by simp only [u64_toNat_zero]; omega)
  have hWS := window_le_locate cfg ht
  have hW := cfg.window_eq_mul
  have hmin : min N.toNat amount.toNat ≤ cfg.numSegments.toNat := (min_le_left _ _).trans hNn
  have hseg := Nat.mul_le_mul_right cfg.windowSegmentSize.toNat hmin
  obtain ⟨queue1, tenant', hE, hstarts, hsum, hd, hwo, hver, htot, hval⟩ :=
    @distributePenalty_latest cfg t load amount N tenant hq hA hN0 (by
      have := Nat.mul_le_mul_right cfg.windowSegmentSize.toNat (Nat.sub_le (min N.toNat amount.toNat) 1)
      omega)
  have hA1 : 1 ≤ min N.toNat amount.toNat := by
    have := u64_ne_iff.mp hA
    simp only [u64_toNat_zero] at this
    omega
  have hshape := hE.windowShape hq hA1 hmin
  refine ⟨tenant', hd, hshape.of_starts_eq hstarts, ?_, hwo, hver, hval⟩
  rw [htot, hsum, sum_values_eq_window ht hshape.decreasing hshape.aligned hshape.inWindow,
    sum_values_eq_window ht hq.decreasing hq.aligned hq.inWindow, funext hE.valueAt_eq]
  exact add_sub_add_right_eq_sub _ _ _

theorem distributePenalty_one {req : SubmitRequest} {amount : UInt64} {tenant : TenantData}
    {value : UInt64} {rest : List WindowSegment}
    (hq : tenant.windowQueue = ⟨req.requestSegmentStartTime, value⟩ :: rest) (ha : amount ≠ 0) :
    distributePenalty cfg req amount 1 tenant =
      .ok { tenant with
        windowQueue := ⟨req.requestSegmentStartTime, value + amount⟩ :: rest
        windowTotal := tenant.windowTotal + amount } := by
  have hlt : ¬ amount / 1 < 1 := by
    have := u64_ne_iff.mp ha
    rw [u64_lt_iff, UInt64.toNat_div]
    simp only [u64_toNat_one, u64_toNat_zero, Nat.div_one] at this ⊢
    omega
  have hmod : amount % 1 = 0 := by
    rw [u64_eq_iff, UInt64.toNat_mod]
    exact Nat.mod_one _
  have hdist : segmentDistribution 1 (amount / 1) 0 = [amount] := by
    rw [u64_eq_iff.mpr (by rw [UInt64.toNat_div]; simp : (amount / 1).toNat = amount.toNat)]
    rfl
  unfold distributePenalty ensureLatestNSegments
  rw [if_neg ha, if_neg (by decide), if_neg hlt]
  dsimp only
  rw [hmod, hdist, hq, u64_toNat_one, needsRebuild_one]
  rfl

/-! ## Nothing lost, nothing duplicated

The rebuild keeps, from the back, the segments older than the rebuild range, and pushes for
each start of the range the segment of the scanned prefix that starts there, or a fresh empty
one. On a decreasing, aligned queue every segment of the range lies in the scanned prefix, so
every segment survives. -/

theorem mem_dropWhile_of_not {α : Type} {p : α → Bool} {l : List α} {x : α} (hx : x ∈ l)
    (hp : p x = false) : x ∈ l.dropWhile p := by
  rw [← List.takeWhile_append_dropWhile p l] at hx
  rcases List.mem_append.mp hx with h | h
  · exact absurd (List.mem_takeWhile_imp h) (by simp [hp])
  · exact h

theorem cachedSegment_mem_or (validSegments : List WindowSegment) (startTime : UInt64) :
    cachedSegment validSegments startTime ∈ validSegments ∨
      (cachedSegment validSegments startTime).value = 0 := by
  unfold cachedSegment
  cases h : validSegments.reverse.find? fun segment => segment.startTime == startTime with
  | none => exact .inr rfl
  | some x => exact .inl (List.mem_reverse.mp (List.mem_of_find?_eq_some h))

theorem cachedSegment_of_mem {validSegments : List WindowSegment}
    (hd : StartsDecreasing validSegments) {x : WindowSegment} (hx : x ∈ validSegments) :
    cachedSegment validSegments x.startTime = x := by
  have hs := cachedSegment_startTime validSegments x.startTime
  have hv := cachedSegment_value hd x.startTime
  rw [valueAt_of_mem hd.starts_nodup hx] at hv
  revert hs hv
  cases cachedSegment validSegments x.startTime
  intro hs hv
  cases hs; cases hv; rfl

theorem needsRebuild_eq_false {S : UInt64} {n : Nat} {queue : List WindowSegment}
    (hn : n * cfg.windowSegmentSize.toNat ≤ S.toNat + cfg.windowSegmentSize.toNat)
    (h : (queue.take n).map (·.startTime.toNat) = latestStarts cfg.windowSegmentSize.toNat S.toNat n) :
    needsRebuild cfg S n queue = false := by
  refine List.any_eq_false.mpr fun i hi => ?_
  rw [List.mem_range] at hi
  have hi' := congrArg (·[i]?) h
  have : i * cfg.windowSegmentSize.toNat + cfg.windowSegmentSize.toNat ≤
      n * cfg.windowSegmentSize.toNat := by
    rw [← Nat.succ_mul]; exact Nat.mul_le_mul_right _ hi
  simp only [List.getElem?_map, List.getElem?_take, if_pos hi, latestStarts,
    List.getElem?_range hi, Option.map_some'] at hi'
  cases hq : queue[i]? with
  | none => rw [hq] at hi'; cases hi'
  | some x =>
      rw [hq, Option.map_some', Option.some.injEq] at hi'
      simp only [hq, bne_iff_ne, ne_eq, Decidable.not_not]
      exact u64_eq_iff.mpr (by rw [hi', latestSegmentStart_toNat cfg (by omega)])

theorem mem_ensureLatestNSegments {req : SubmitRequest} {N : UInt64}
    {queue : List WindowSegment} (hd : StartsDecreasing queue) (ha : StartsAligned cfg queue)
    (hle : ∀ x ∈ queue, x.startTime.toNat ≤ req.requestSegmentStartTime.toNat)
    (hS : req.requestSegmentStartTime.toNat % cfg.windowSegmentSize.toNat = 0)
    (hN : 1 ≤ N.toNat)
    (hNS : N.toNat * cfg.windowSegmentSize.toNat ≤
      req.requestSegmentStartTime.toNat + cfg.windowSegmentSize.toNat)
    {x : WindowSegment} (hx : x ∈ queue) : x ∈ ensureLatestNSegments cfg req N queue := by
  have hNm : (N.toNat - 1) * cfg.windowSegmentSize.toNat + cfg.windowSegmentSize.toNat =
      N.toNat * cfg.windowSegmentSize.toNat := by
    rw [← Nat.succ_mul, Nat.succ_eq_add_one, Nat.sub_add_cancel hN]
  unfold ensureLatestNSegments
  dsimp only
  split
  · exact hx
  rw [StartsDecreasing.reverse_takeWhile_reverse hd, rebuildStart_toNat hN (by omega)]
  generalize req.requestSegmentStartTime = S at *
  have hpos := cfg.segment_pos
  generalize hm : (N.toNat - 1) * cfg.windowSegmentSize.toNat = m at *
  by_cases hold : S.toNat - m ≤ x.startTime.toNat
  · apply List.mem_append_left
    obtain ⟨i, hi, hxi⟩ := List.mem_map.mp ((mem_latestStarts_iff cfg.segment_pos hS
      (n := N.toNat)).mpr ⟨ha x hx, hle x hx, by omega⟩)
    have hxt : x ∈ queue.take N.toNat := by
      rw [← List.take_append_drop N.toNat queue] at hx
      refine (List.mem_append.mp hx).resolve_right fun hxd => ?_
      have := start_add_le_of_mem_drop hd ha hle N.toNat x hxd
      omega
    rw [List.mem_range] at hi
    have hii : i * cfg.windowSegmentSize.toNat + cfg.windowSegmentSize.toNat ≤
        N.toNat * cfg.windowSegmentSize.toNat := by
      rw [← Nat.succ_mul]; exact Nat.mul_le_mul_right _ hi
    have hstart : latestSegmentStart cfg S i = x.startTime :=
      u64_eq_iff.mpr (by rw [latestSegmentStart_toNat cfg (by omega), hxi])
    exact List.mem_map.mpr ⟨i, List.mem_range.mpr hi, by
      rw [hstart, cachedSegment_of_mem (hd.sublist (List.take_sublist _ _)) hxt]⟩
  · exact List.mem_append_right _ (mem_dropWhile_of_not hx (by simpa using hold))

theorem ensureLatestNSegments_mem_or {req : SubmitRequest} {N : UInt64}
    {queue : List WindowSegment} {y : WindowSegment}
    (hy : y ∈ ensureLatestNSegments cfg req N queue) : y ∈ queue ∨ y.value = 0 := by
  unfold ensureLatestNSegments at hy
  dsimp only at hy
  split at hy
  · exact .inl hy
  rcases List.mem_append.mp hy with hy | hy
  · obtain ⟨i, -, rfl⟩ := List.mem_map.mp hy
    exact (cachedSegment_mem_or _ _).imp_left fun h => List.mem_of_mem_take h
  · exact .inl (List.mem_reverse.mp ((List.takeWhile_sublist _).subset (List.mem_reverse.mp hy)))

/-- `ensureLatestNSegments` loses nothing: its first `N` segments start at
`S, S - seg, ..., S - (N-1)·seg`, the queue stays decreasing and aligned, every segment of the
queue is in it exactly once, every other one is empty, and a queue that already starts so is
returned as it is. -/
theorem ensureLatestNSegments_lossless {t load N : UInt64} {queue queue' : List WindowSegment}
    (hd : StartsDecreasing queue) (ha : StartsAligned cfg queue)
    (hfront : ∀ x ∈ queue.head?, x.startTime.toNat ≤ (locateSegmentStartTime cfg t).toNat)
    (hN : 1 ≤ N.toNat)
    (hNS : (N.toNat - 1) * cfg.windowSegmentSize.toNat ≤ (locateSegmentStartTime cfg t).toNat)
    (h : ensureLatestNSegments cfg (buildLoadRequest cfg t load) N queue = queue') :
    (queue'.take N.toNat).map (·.startTime.toNat) =
        latestStarts cfg.windowSegmentSize.toNat (locateSegmentStartTime cfg t).toNat N.toNat ∧
      StartsDecreasing queue' ∧ StartsAligned cfg queue' ∧
      (∀ x ∈ queue, queue'.count x = 1) ∧ (∀ y ∈ queue', y ∈ queue ∨ y.value = 0) ∧
      ((queue.take N.toNat).map (·.startTime.toNat) =
          latestStarts cfg.windowSegmentSize.toNat (locateSegmentStartTime cfg t).toNat N.toNat →
        queue' = queue) := by
  have hS := (locate_toNat_bounds cfg t).2.2
  have hNS' : N.toNat * cfg.windowSegmentSize.toNat ≤
      (locateSegmentStartTime cfg t).toNat + cfg.windowSegmentSize.toNat := by
    rw [← Nat.sub_add_cancel hN, Nat.succ_mul]
    omega
  have hle : ∀ x ∈ queue, x.startTime.toNat ≤ (locateSegmentStartTime cfg t).toNat := by
    cases queue with
    | nil => simp
    | cons y rest =>
        have hy := hfront y rfl
        intro x hx
        rcases List.mem_cons.mp hx with rfl | hx
        · exact hy
        · exact Nat.le_of_lt (Nat.lt_of_lt_of_le ((StartsDecreasing.cons_iff.mp hd).1 x hx) hy)
  have hspec := @ensureLatestNSegments_spec cfg (buildLoadRequest cfg t load) N queue hd ha hle hS
    hN hNS'
  rw [h] at hspec
  refine ⟨hspec.front, hspec.decreasing, fun x hx => ?_, fun x hx => ?_,
    fun y hy => ensureLatestNSegments_mem_or (h ▸ hy), fun hq => ?_⟩
  · rcases hspec.mem x hx with hx | hx
    · exact ha x hx
    · exact ((mem_latestStarts_iff cfg.segment_pos hS).mp hx).1
  · refine List.count_eq_one_of_mem ?_ (h ▸ mem_ensureLatestNSegments hd ha hle hS hN hNS' hx)
    exact List.Nodup.of_map _ hspec.decreasing.starts_nodup
  · rw [← h]
    unfold ensureLatestNSegments
    dsimp only
    rw [buildLoadRequest_requestSegmentStartTime, needsRebuild_eq_false hNS' hq]
    rfl

/-- A queue with a gap at `999000`, normalised over three segments. -/
theorem ensureLatestNSegments_lossless_gap :
    ensureLatestNSegments defaultInstanceConfig (buildLoadRequest defaultInstanceConfig 1000500 1)
        3 [⟨1000000, 5⟩, ⟨998000, 7⟩] = [⟨1000000, 5⟩, ⟨999000, 0⟩, ⟨998000, 7⟩] ∧
      ([⟨1000000, 5⟩, ⟨999000, 0⟩, ⟨998000, 7⟩] : List WindowSegment).count ⟨998000, 7⟩ = 1 :=
  ⟨rfl, (@ensureLatestNSegments_lossless defaultInstanceConfig 1000500 1 3
    [⟨1000000, 5⟩, ⟨998000, 7⟩] [⟨1000000, 5⟩, ⟨999000, 0⟩, ⟨998000, 7⟩] (by decide) (by decide)
    (by decide) (by decide) (by decide) rfl).2.2.2.1 _ (by decide)⟩

end LoadLimiter
