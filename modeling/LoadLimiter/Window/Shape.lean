import Mathlib.Data.UInt
import LoadLimiter.Window.State

/-! # Shape of the window queue

The invariant the window engine keeps: start times strictly decreasing from the front and
multiples of `WindowSegmentSize`; after a rotation at `t`, a front segment at
`S = floor(t / seg) * seg` and every start in `(t - WindowSize, S]`.

`valueAt queue s` reads the queue as a per-segment ledger: the value of the segment that
starts at `s`, `0` when there is none.
-/

namespace LoadLimiter

def StartsDecreasing (queue : List WindowSegment) : Prop :=
  queue.Pairwise fun newer older => older.startTime.toNat < newer.startTime.toNat

def StartsAligned (cfg : EffectiveConfig) (queue : List WindowSegment) : Prop :=
  ∀ segment ∈ queue, segment.startTime.toNat % cfg.windowSegmentSize.toNat = 0

/-- Every start time in `(t - WindowSize, S]`, with `S` the segment start of `t`. -/
def InWindow (cfg : EffectiveConfig) (t : UInt64) (queue : List WindowSegment) : Prop :=
  ∀ segment ∈ queue, t.toNat < segment.startTime.toNat + cfg.windowSize.toNat ∧
    segment.startTime.toNat ≤ (locateSegmentStartTime cfg t).toNat

instance (queue : List WindowSegment) : Decidable (StartsDecreasing queue) :=
  inferInstanceAs (Decidable (queue.Pairwise fun newer older : WindowSegment =>
    older.startTime.toNat < newer.startTime.toNat))

instance (cfg : EffectiveConfig) (queue : List WindowSegment) :
    Decidable (StartsAligned cfg queue) :=
  inferInstanceAs (Decidable (∀ segment ∈ queue,
    segment.startTime.toNat % cfg.windowSegmentSize.toNat = 0))

instance (cfg : EffectiveConfig) (t : UInt64) (queue : List WindowSegment) :
    Decidable (InWindow cfg t queue) :=
  inferInstanceAs (Decidable (∀ segment ∈ queue,
    t.toNat < segment.startTime.toNat + cfg.windowSize.toNat ∧
      segment.startTime.toNat ≤ (locateSegmentStartTime cfg t).toNat))

/-- The queue a rotation at `t` leaves. -/
structure WindowShape (cfg : EffectiveConfig) (t : UInt64) (queue : List WindowSegment) :
    Prop where
  decreasing : StartsDecreasing queue
  aligned : StartsAligned cfg queue
  front : ∃ value rest, queue = ⟨locateSegmentStartTime cfg t, value⟩ :: rest
  inWindow : InWindow cfg t queue

/-- The value of the segment starting at `start`, `0` when the queue has none. -/
def valueAt : List WindowSegment → Nat → UInt64
  | [], _ => 0
  | segment :: rest, start => if segment.startTime.toNat = start then segment.value else valueAt rest start

@[simp] theorem valueAt_nil (start : Nat) : valueAt [] start = 0 := rfl

theorem valueAt_cons (segment : WindowSegment) (rest : List WindowSegment) (start : Nat) :
    valueAt (segment :: rest) start =
      if segment.startTime.toNat = start then segment.value else valueAt rest start := rfl

theorem valueAt_of_not_mem {queue : List WindowSegment} {start : Nat}
    (h : ∀ segment ∈ queue, segment.startTime.toNat ≠ start) : valueAt queue start = 0 := by
  induction queue with
  | nil => rfl
  | cons segment rest ih =>
      rw [valueAt_cons, if_neg (h segment (List.mem_cons_self _ _))]
      exact ih fun x hx => h x (List.mem_cons_of_mem _ hx)

theorem valueAt_append_of_not_mem {front back : List WindowSegment} {start : Nat}
    (h : ∀ segment ∈ front, segment.startTime.toNat ≠ start) :
    valueAt (front ++ back) start = valueAt back start := by
  induction front with
  | nil => rfl
  | cons segment rest ih =>
      rw [List.cons_append, valueAt_cons, if_neg (h segment (List.mem_cons_self _ _))]
      exact ih fun x hx => h x (List.mem_cons_of_mem _ hx)

theorem valueAt_append_of_not_mem_right {front back : List WindowSegment} {start : Nat}
    (h : ∀ segment ∈ back, segment.startTime.toNat ≠ start) :
    valueAt (front ++ back) start = valueAt front start := by
  induction front with
  | nil => exact valueAt_of_not_mem h
  | cons segment rest ih => rw [List.cons_append, valueAt_cons, valueAt_cons, ih]

theorem valueAt_append_of_mem {front back : List WindowSegment} {start : Nat}
    (h : ∃ segment ∈ front, segment.startTime.toNat = start) :
    valueAt (front ++ back) start = valueAt front start := by
  induction front with
  | nil => obtain ⟨_, hx, _⟩ := h; cases hx
  | cons segment rest ih =>
      rw [List.cons_append, valueAt_cons, valueAt_cons]
      split
      · rfl
      · rename_i hne
        obtain ⟨x, hx, he⟩ := h
        rcases List.mem_cons.mp hx with rfl | hx
        · exact absurd he hne
        · exact ih ⟨x, hx, he⟩

theorem valueAt_of_mem {queue : List WindowSegment} (hn : (queue.map (·.startTime.toNat)).Nodup)
    {segment : WindowSegment} (hs : segment ∈ queue) :
    valueAt queue segment.startTime.toNat = segment.value := by
  induction queue with
  | nil => cases hs
  | cons x rest ih =>
      rw [List.map_cons, List.nodup_cons] at hn
      rw [valueAt_cons]
      split
      · rename_i he
        rcases List.mem_cons.mp hs with rfl | hs
        · rfl
        · exact absurd (he ▸ List.mem_map_of_mem (·.startTime.toNat) hs) hn.1
      · rename_i he
        rcases List.mem_cons.mp hs with rfl | hs
        · exact absurd rfl he
        · exact ih hn.2 hs

/-! ## Decreasing start times -/

namespace StartsDecreasing

theorem cons_iff {segment : WindowSegment} {rest : List WindowSegment} :
    StartsDecreasing (segment :: rest) ↔
      (∀ older ∈ rest, older.startTime.toNat < segment.startTime.toNat) ∧
        StartsDecreasing rest :=
  List.pairwise_cons

theorem tail {segment : WindowSegment} {rest : List WindowSegment}
    (h : StartsDecreasing (segment :: rest)) : StartsDecreasing rest :=
  (cons_iff.mp h).2

theorem sublist {queue queue' : List WindowSegment} (h : StartsDecreasing queue)
    (hs : queue'.Sublist queue) : StartsDecreasing queue' :=
  List.Pairwise.sublist hs h

theorem not_of_mem_dropWhile {queue : List WindowSegment} (h : StartsDecreasing queue)
    {p : Nat → Bool} (hp : ∀ a b, a ≤ b → p a = true → p b = true) :
    ∀ x ∈ queue.dropWhile (fun s => p s.startTime.toNat), p x.startTime.toNat = false := by
  induction queue with
  | nil => simp
  | cons segment rest ih =>
      rw [List.dropWhile_cons]
      split
      · exact ih h.tail
      · rename_i hc
        intro x hx
        rcases List.mem_cons.mp hx with rfl | hx
        · simpa using hc
        · cases hpx : p x.startTime.toNat
          · rfl
          · exact absurd (hp _ _ (Nat.le_of_lt ((cons_iff.mp h).1 x hx)) hpx) hc

theorem le_of_mem_dropWhile {queue : List WindowSegment} (h : StartsDecreasing queue)
    {c : Nat} : ∀ x ∈ queue.dropWhile (fun s => decide (c < s.startTime.toNat)),
      x.startTime.toNat ≤ c := fun x hx => by
  have := @not_of_mem_dropWhile queue h (fun n => decide (c < n))
    (fun a b hab ha => by simp only [decide_eq_true_eq] at ha ⊢; omega) x hx
  simpa using this

theorem valueAt_dropWhile {queue : List WindowSegment} (h : StartsDecreasing queue)
    {p : Nat → Bool} (hp : ∀ a b, a ≤ b → p a = true → p b = true) (s : Nat) :
    valueAt (queue.dropWhile fun x => p x.startTime.toNat) s =
      if p s then 0 else valueAt queue s := by
  split
  · rename_i hs
    exact valueAt_of_not_mem fun x hx he => by
      have := h.not_of_mem_dropWhile hp x hx
      rw [he, hs] at this
      cases this
  · rename_i hs
    conv_rhs => rw [← List.takeWhile_append_dropWhile (fun x => p x.startTime.toNat) queue]
    refine (@valueAt_append_of_not_mem _ _ s fun x hx he => ?_).symm
    have hpx := List.mem_takeWhile_imp hx
    exact hs (he ▸ hpx)

theorem reverse_takeWhile_reverse {queue : List WindowSegment} (h : StartsDecreasing queue)
    (b : UInt64) :
    (queue.reverse.takeWhile fun x => decide (x.startTime < b)).reverse =
      queue.dropWhile fun x => decide (b.toNat ≤ x.startTime.toNat) := by
  have hlt := @not_of_mem_dropWhile queue h (fun n => decide (b.toNat ≤ n))
    (fun a c hac ha => by simp only [decide_eq_true_eq] at ha ⊢; omega)
  conv_lhs => rw [← List.takeWhile_append_dropWhile
    (fun x => decide (b.toNat ≤ x.startTime.toNat)) queue]
  rw [List.reverse_append, List.takeWhile_append_of_pos (fun x hx => by
    simpa [u64_lt_iff] using hlt x (List.mem_reverse.mp hx))]
  cases hA : (queue.takeWhile fun x => decide (b.toNat ≤ x.startTime.toNat)).reverse with
  | nil => simp
  | cons y ys =>
      have hy := List.mem_takeWhile_imp (List.mem_reverse.mp (hA ▸ List.mem_cons_self y ys))
      rw [List.takeWhile_cons_of_neg (by simpa [u64_lt_iff] using hy)]
      simp

theorem starts_nodup {queue : List WindowSegment} (h : StartsDecreasing queue) :
    (queue.map (·.startTime.toNat)).Nodup := by
  have hpw : (queue.map (·.startTime.toNat)).Pairwise (· > ·) := List.pairwise_map.mpr h
  exact hpw.imp fun hlt => Nat.ne_of_gt hlt

end StartsDecreasing

/-! ## Alignment and window membership -/

theorem aligned_gap {seg a b : Nat} (ha : a % seg = 0) (hb : b % seg = 0) (h : a < b) :
    a + seg ≤ b := by
  obtain ⟨k, rfl⟩ := Nat.dvd_of_mod_eq_zero ha
  obtain ⟨m, rfl⟩ := Nat.dvd_of_mod_eq_zero hb
  rw [← Nat.mul_succ]
  exact Nat.mul_le_mul_left _ (Nat.lt_of_mul_lt_mul_left h)

theorem StartsAligned.sublist {cfg : EffectiveConfig} {queue queue' : List WindowSegment}
    (h : StartsAligned cfg queue) (hs : queue'.Sublist queue) : StartsAligned cfg queue' :=
  fun x hx => h x (hs.subset hx)

theorem InWindow.sublist {cfg : EffectiveConfig} {t : UInt64} {queue queue' : List WindowSegment}
    (h : InWindow cfg t queue) (hs : queue'.Sublist queue) : InWindow cfg t queue' :=
  fun x hx => h x (hs.subset hx)

theorem WindowShape.of_starts_prefix {cfg : EffectiveConfig} {t : UInt64}
    {queue queue' : List WindowSegment} (h : WindowShape cfg t queue)
    (hs : queue'.map (·.startTime) <+: queue.map (·.startTime)) (hne : queue' ≠ []) :
    WindowShape cfg t queue' := by
  have hmem : ∀ x ∈ queue', ∃ y ∈ queue, y.startTime = x.startTime := fun x hx =>
    List.mem_map.mp (hs.subset (List.mem_map_of_mem (·.startTime) hx))
  obtain ⟨hd, ha, ⟨value, rest, rfl⟩, hw⟩ := h
  refine ⟨?_, fun x hx => ?_, ?_, fun x hx => ?_⟩
  · have h0 : ((⟨locateSegmentStartTime cfg t, value⟩ :: rest).map (·.startTime)).Pairwise
        fun a b : UInt64 => b.toNat < a.toNat := List.pairwise_map.mpr hd
    exact List.pairwise_map.mp (h0.sublist hs.sublist)
  · obtain ⟨y, hy, he⟩ := hmem x hx
    exact he ▸ ha y hy
  · cases queue' with
    | nil => exact absurd rfl hne
    | cons x rest' =>
        obtain ⟨start, value'⟩ := x
        obtain ⟨hx, -⟩ := List.cons_prefix_cons.mp hs
        dsimp only at hx
        exact ⟨value', rest', by rw [hx]⟩
  · obtain ⟨y, hy, he⟩ := hmem x hx
    exact he ▸ hw y hy

theorem WindowShape.of_starts_eq {cfg : EffectiveConfig} {t : UInt64}
    {queue queue' : List WindowSegment} (h : WindowShape cfg t queue)
    (hs : queue'.map (·.startTime) = queue.map (·.startTime)) : WindowShape cfg t queue' := by
  refine h.of_starts_prefix (hs ▸ List.prefix_refl _) fun hne => ?_
  obtain ⟨_, _, hq⟩ := h.front
  rw [hne, hq] at hs
  cases hs

theorem StartsDecreasing.of_starts_eq {queue queue' : List WindowSegment}
    (h : StartsDecreasing queue) (hs : queue'.map (·.startTime) = queue.map (·.startTime)) :
    StartsDecreasing queue' := by
  have h0 : (queue.map (·.startTime)).Pairwise fun a b : UInt64 => b.toNat < a.toNat :=
    List.pairwise_map.mpr h
  exact List.pairwise_map.mp (hs ▸ h0)

theorem StartsAligned.of_starts_eq {cfg : EffectiveConfig} {queue queue' : List WindowSegment}
    (h : StartsAligned cfg queue) (hs : queue'.map (·.startTime) = queue.map (·.startTime)) :
    StartsAligned cfg queue' := fun x hx => by
  have hx' : x.startTime ∈ queue.map (·.startTime) :=
    hs ▸ List.mem_map_of_mem (fun y : WindowSegment => y.startTime) hx
  obtain ⟨y, hy, he⟩ := List.mem_map.mp hx'
  rw [← he]
  exact h y hy

/-! ## Sums through the ledger view -/

theorem sum_map_valueAt_nil {M : Type} [AddCommMonoid M] (f : UInt64 → M) (hf : f 0 = 0)
    (points : List Nat) : (points.map fun s => f (valueAt [] s)).sum = 0 := by
  simp [hf, nsmul_zero]

/-- A decreasing queue whose starts all lie in a decreasing list of points sums to the sum of
its ledger view over those points, through any additive reading `f` of the values. -/
theorem sum_values_eq_sum_valueAt {M : Type} [AddCommMonoid M] (f : UInt64 → M) (hf : f 0 = 0)
    {points : List Nat} (hp : points.Pairwise (· > ·))
    {queue : List WindowSegment} (hq : StartsDecreasing queue)
    (hsub : ∀ x ∈ queue, x.startTime.toNat ∈ points) :
    (queue.map fun x => f x.value).sum = (points.map fun s => f (valueAt queue s)).sum := by
  induction points generalizing queue with
  | nil =>
      cases queue with
      | nil => rfl
      | cons x _ => exact absurd (hsub x (List.mem_cons_self _ _)) (List.not_mem_nil _)
  | cons p points ih =>
      rw [List.pairwise_cons] at hp
      cases queue with
      | nil => exact (sum_map_valueAt_nil f hf _).symm
      | cons x rest =>
          have hrest := StartsDecreasing.cons_iff.mp hq
          by_cases hx : x.startTime.toNat = p
          · subst hx
            have htail : ∀ y ∈ rest, y.startTime.toNat ∈ points := fun y hy =>
              (List.mem_cons.mp (hsub y (List.mem_cons_of_mem _ hy))).resolve_left
                (Nat.ne_of_lt (hrest.1 y hy))
            have hview : (points.map fun s => f (valueAt (x :: rest) s)) =
                points.map fun s => f (valueAt rest s) :=
              List.map_congr_left fun q hq' => by
                rw [valueAt_cons, if_neg (Nat.ne_of_gt (hp.1 q hq'))]
            rw [List.map_cons, List.sum_cons, List.map_cons, List.sum_cons, valueAt_cons,
              if_pos rfl, hview, ih hp.2 hrest.2 htail]
          · have hxp : x.startTime.toNat ∈ points :=
              (List.mem_cons.mp (hsub x (List.mem_cons_self _ _))).resolve_left hx
            have hlt : ∀ y ∈ x :: rest, y.startTime.toNat < p := fun y hy => by
              rcases List.mem_cons.mp hy with rfl | hy
              · exact hp.1 _ hxp
              · exact Nat.lt_trans (hrest.1 y hy) (hp.1 _ hxp)
            have htail : ∀ y ∈ x :: rest, y.startTime.toNat ∈ points := fun y hy =>
              (List.mem_cons.mp (hsub y hy)).resolve_left (Nat.ne_of_lt (hlt y hy))
            have h0 : valueAt (x :: rest) p = 0 :=
              valueAt_of_not_mem fun y hy => Nat.ne_of_lt (hlt y hy)
            conv_rhs => rw [List.map_cons, List.sum_cons, h0, hf, zero_add]
            exact ih hp.2 hq htail

/-- The aligned starts `S, S - seg, ..., S - (n-1)·seg`, newest first. -/
def latestStarts (seg S n : Nat) : List Nat :=
  (List.range n).map fun k => S - k * seg

theorem mem_latestStarts_iff {seg S n s : Nat} (hpos : 0 < seg) (hS : S % seg = 0) :
    s ∈ latestStarts seg S n ↔ s % seg = 0 ∧ s ≤ S ∧ S < s + n * seg := by
  unfold latestStarts
  rw [List.mem_map]
  constructor
  · rintro ⟨k, hk, rfl⟩
    rw [List.mem_range] at hk
    have hkn : k * seg + seg ≤ n * seg := by
      rw [← Nat.succ_mul]; exact Nat.mul_le_mul_right _ hk
    refine ⟨?_, Nat.sub_le _ _, by omega⟩
    obtain ⟨a, rfl⟩ := Nat.dvd_of_mod_eq_zero hS
    rw [Nat.mul_comm k, ← Nat.mul_sub, Nat.mul_mod_right]
  · rintro ⟨ha, hlo, hhi⟩
    refine ⟨(S - s) / seg, ?_, ?_⟩
    · rw [List.mem_range, Nat.div_lt_iff_lt_mul hpos]
      omega
    · have hdvd : seg ∣ S - s :=
        Nat.dvd_sub' (Nat.dvd_of_mod_eq_zero hS) (Nat.dvd_of_mod_eq_zero ha)
      rw [Nat.div_mul_cancel hdvd]
      omega

theorem latestStarts_pairwise {seg S n : Nat} (hpos : 0 < seg) (hn : n * seg ≤ S + seg) :
    (latestStarts seg S n).Pairwise (· > ·) := by
  unfold latestStarts
  rw [List.pairwise_map]
  refine List.Pairwise.imp_of_mem ?_ (List.pairwise_lt_range _)
  intro i j _ hj hij
  rw [List.mem_range] at hj
  have : j * seg + seg ≤ n * seg := by rw [← Nat.succ_mul]; exact Nat.mul_le_mul_right _ hj
  have : i * seg < j * seg := Nat.mul_lt_mul_of_pos_right hij hpos
  omega

/-- The aligned starts of the window at `t`, newest first. -/
def windowStarts (cfg : EffectiveConfig) (t : UInt64) : List Nat :=
  latestStarts cfg.windowSegmentSize.toNat (locateSegmentStartTime cfg t).toNat
    cfg.numSegments.toNat

theorem locate_toNat_bounds (cfg : EffectiveConfig) (t : UInt64) :
    (locateSegmentStartTime cfg t).toNat ≤ t.toNat ∧
      t.toNat < (locateSegmentStartTime cfg t).toNat + cfg.windowSegmentSize.toNat ∧
      (locateSegmentStartTime cfg t).toNat % cfg.windowSegmentSize.toNat = 0 := by
  rw [locateSegmentStartTime_toNat]
  have hpos := cfg.segment_pos
  refine ⟨Nat.div_mul_le_self _ _, ?_, Nat.mul_mod_left _ _⟩
  have : t.toNat < t.toNat / cfg.windowSegmentSize.toNat * cfg.windowSegmentSize.toNat +
      cfg.windowSegmentSize.toNat := Nat.lt_div_mul_add hpos
  omega

theorem window_le_locate (cfg : EffectiveConfig) {t : UInt64}
    (ht : cfg.windowSize.toNat ≤ t.toNat) :
    cfg.windowSize.toNat ≤ (locateSegmentStartTime cfg t).toNat := by
  rw [locateSegmentStartTime_toNat, cfg.window_eq_mul]
  have hpos := cfg.segment_pos
  have h : cfg.numSegments.toNat * cfg.windowSegmentSize.toNat / cfg.windowSegmentSize.toNat ≤
      t.toNat / cfg.windowSegmentSize.toNat := Nat.div_le_div_right (cfg.window_eq_mul ▸ ht)
  rw [Nat.mul_div_cancel _ hpos] at h
  exact Nat.mul_le_mul_right _ h

theorem windowStarts_pairwise (cfg : EffectiveConfig) {t : UInt64}
    (ht : cfg.windowSize.toNat ≤ t.toNat) : (windowStarts cfg t).Pairwise (· > ·) := by
  have := window_le_locate cfg ht
  exact latestStarts_pairwise cfg.segment_pos (by rw [← cfg.window_eq_mul]; omega)

theorem mem_windowStarts_iff (cfg : EffectiveConfig) {t : UInt64} {start : Nat} :
    start ∈ windowStarts cfg t ↔
      start % cfg.windowSegmentSize.toNat = 0 ∧ t.toNat < start + cfg.windowSize.toNat ∧
        start ≤ (locateSegmentStartTime cfg t).toNat := by
  obtain ⟨hSt, htS, hSa⟩ := locate_toNat_bounds cfg t
  rw [windowStarts, mem_latestStarts_iff cfg.segment_pos hSa, ← cfg.window_eq_mul]
  have hWa : cfg.windowSize.toNat % cfg.windowSegmentSize.toNat = 0 := cfg.window_dvd
  constructor
  · rintro ⟨ha, hle, hlt⟩
    have := aligned_gap hSa (by rw [Nat.add_mod, ha, hWa, Nat.zero_mod]) hlt
    exact ⟨ha, by omega, hle⟩
  · rintro ⟨ha, hlt, hle⟩
    exact ⟨ha, hle, by omega⟩

theorem sum_values_eq_window {cfg : EffectiveConfig} {t : UInt64} {queue : List WindowSegment}
    (ht : cfg.windowSize.toNat ≤ t.toNat) (hq : StartsDecreasing queue)
    (ha : StartsAligned cfg queue) (hw : InWindow cfg t queue) :
    (queue.map (·.value)).sum = ((windowStarts cfg t).map (valueAt queue)).sum :=
  sum_values_eq_sum_valueAt id rfl (windowStarts_pairwise cfg ht) hq fun x hx =>
    (mem_windowStarts_iff cfg).mpr ⟨ha x hx, hw x hx⟩

theorem windowShape_singleton (cfg : EffectiveConfig) (t value : UInt64) :
    WindowShape cfg t [⟨locateSegmentStartTime cfg t, value⟩] := by
  obtain ⟨hSt, htS, hSa⟩ := locate_toNat_bounds cfg t
  have := cfg.segment_le_window
  refine ⟨List.pairwise_singleton _ _, ?_, ⟨value, [], rfl⟩, ?_⟩ <;>
    intro x hx <;> rw [List.mem_singleton.mp hx]
  · exact hSa
  · exact ⟨show t.toNat < (locateSegmentStartTime cfg t).toNat + cfg.windowSize.toNat by omega,
      Nat.le_refl _⟩

end LoadLimiter
