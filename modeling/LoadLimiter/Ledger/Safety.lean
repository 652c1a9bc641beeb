import Mathlib.Algebra.Order.BigOperators.Group.List
import Mathlib.Algebra.Order.Ring.Nat
import LoadLimiter.Ledger.Refinement

/-! # Window safety

What the limiter is for: the requests it accepts never load a window of `WindowSize` with
more than `MaxLoad`. For a run of calls this is a statement about the accepted requests
alone, each counted at its segment start:

* `acceptedLoads` lists them, from the calls and their decisions, and `windowLoad` sums
  those whose start lies in `(X - WindowSize, X]`;
* out of timestamp order the bound fails: `rotateWindow` moves the load of a newer segment
  into the current, older one, where it leaves the window early;
* with timestamps in order, and no `uint64` sum wrapping, it holds. The proof runs on the
  ledger, whose decisions are the limiter's (`runCalls_refines_from`), with the invariant
  `Safe`: the accepted load at the `k` latest starts never exceeds the ledger's, and the
  ledger's window stays under the cap. Capping takes from the oldest starts first, so it
  lowers the sum of the `k` latest starts only down to the cap, never below the
  accepted load there.
-/

namespace LoadLimiter

/-! ## Accepted loads -/

def acceptedOf (cfg : EffectiveConfig) : Call → Bool → List (Nat × Nat)
  | .submit t load, true => [((locateSegmentStartTime cfg t).toNat, load.toNat)]
  | _, _ => []

def acceptedLoads (cfg : EffectiveConfig) (calls : List Call) (decisions : List Bool) :
    List (Nat × Nat) :=
  (List.zipWith (acceptedOf cfg) calls decisions).flatten

/-- The load of the accepted requests whose segment start lies in `(X - WindowSize, X]`. -/
def windowLoad (cfg : EffectiveConfig) (X : Nat) (accepted : List (Nat × Nat)) : Nat :=
  ((accepted.filter fun a => X < a.1 + cfg.windowSize.toNat ∧ a.1 ≤ X).map (·.2)).sum

def outOfOrderCalls : List Call := [.submit 20000 100, .submit 15000 1, .submit 25000 100]

/-- The `100` accepted at `20000` is moved to the segment `15000` by the late `Submit`, leaves
the window at `25000`, and a second `100` is accepted there: the window `(15000, 25000]` holds
`200` accepted load. -/
theorem runCalls_outOfOrderCalls_window_overload :
    runCalls defaultInstanceConfig outOfOrderCalls newTenantData =
        .ok (⟨[⟨25000, 100⟩], false, 100, 7⟩,
          [.submitted ⟨true, false, 0⟩, .submitted ⟨false, true, 10000000000⟩,
            .submitted ⟨true, false, 0⟩]) ∧
      windowLoad defaultInstanceConfig 25000
        (acceptedLoads defaultInstanceConfig outOfOrderCalls [true, false, true]) = 200 :=
  ⟨rfl, by decide⟩

theorem acceptedLoads_cons (cfg : EffectiveConfig) (c : Call) (calls : List Call) (d : Bool)
    (decisions : List Bool) :
    acceptedLoads cfg (c :: calls) (d :: decisions) =
      acceptedOf cfg c d ++ acceptedLoads cfg calls decisions := rfl

/-! ## The latest starts -/

def natSum (points : List Nat) (ledger : Nat → UInt64) : Nat :=
  (points.map fun s => (ledger s).toNat).sum

@[simp] theorem natSum_nil (ledger : Nat → UInt64) : natSum [] ledger = 0 := rfl

@[simp] theorem natSum_cons (p : Nat) (points : List Nat) (ledger : Nat → UInt64) :
    natSum (p :: points) ledger = (ledger p).toNat + natSum points ledger := rfl

@[simp] theorem natSum_append (P Q : List Nat) (ledger : Nat → UInt64) :
    natSum (P ++ Q) ledger = natSum P ledger + natSum Q ledger := by
  simp only [natSum, List.map_append, List.sum_append]

@[simp] theorem natSum_reverse (P : List Nat) (ledger : Nat → UInt64) :
    natSum P.reverse ledger = natSum P ledger := by
  simp only [natSum, List.map_reverse, List.sum_reverse]

theorem natSum_congr {P : List Nat} {f g : Nat → UInt64} (h : ∀ s ∈ P, f s = g s) :
    natSum P f = natSum P g := by
  unfold natSum
  rw [List.map_congr_left fun s hs => congrArg UInt64.toNat (h s hs)]

theorem natSum_update_of_not_mem {P : List Nat} {p : Nat} (hp : p ∉ P) (ledger : Nat → UInt64)
    (v : UInt64) : natSum P (Function.update ledger p v) = natSum P ledger :=
  natSum_congr fun _ hs => Function.update_noteq (by rintro rfl; exact hp hs) _ _

theorem debitOldest_natSum_suffix :
    ∀ {P : List Nat} {amount : UInt64} {ledger : Nat → UInt64} (O N : List Nat), P.Nodup →
      P = O ++ N → amount.toNat ≤ natSum P ledger →
      natSum N (debitOldest P amount ledger) =
        min (natSum N ledger) (natSum P ledger - amount.toNat) := by
  intro P
  induction P with
  | nil =>
      intro _ _ O N _ he _
      obtain ⟨rfl, rfl⟩ := List.append_eq_nil.mp he.symm
      simp only [natSum_nil, Nat.zero_sub, min_self]
  | cons p rest ih =>
      intro amount ledger O N hnd he hle
      obtain ⟨hp, hnd⟩ := List.nodup_cons.mp hnd
      have hN : natSum (p :: rest) ledger = natSum O ledger + natSum N ledger := by
        rw [he, natSum_append]
      unfold debitOldest
      split_ifs with h0 hle'
      · rw [u64_eq_zero_iff] at h0
        omega
      · rw [u64_le_iff] at hle'
        rcases O with _ | ⟨q, O⟩
        · subst he
          rw [natSum_cons, Function.update_same, u64_toNat_sub_of_le hle',
            natSum_update_of_not_mem hp]
          simp only [natSum_cons] at hle ⊢
          omega
        · obtain ⟨rfl, rfl⟩ := List.cons.inj he
          rw [natSum_update_of_not_mem (fun h => hp (List.mem_append_right _ h))]
          simp only [natSum_cons, natSum_append, List.cons_append] at hN ⊢
          omega
      · rw [u64_le_iff] at hle'
        have hsub := u64_toNat_sub_of_le (Nat.le_of_not_le hle')
        have hrest : natSum rest (Function.update ledger p 0) = natSum rest ledger :=
          natSum_update_of_not_mem hp _ _
        have hfit : (amount - ledger p).toNat ≤ natSum rest (Function.update ledger p 0) := by
          rw [hsub, hrest]
          simp only [natSum_cons] at hle
          omega
        rcases O with _ | ⟨q, O⟩
        · subst he
          rw [natSum_cons, debitOldest_of_not_mem hp, Function.update_same,
            ih [] rest hnd rfl hfit, hsub, hrest]
          simp only [natSum_cons, u64_toNat_zero] at hle ⊢
          omega
        · obtain ⟨rfl, rfl⟩ := List.cons.inj he
          have hpN : p ∉ N := fun h => hp (List.mem_append_right _ h)
          rw [ih O N hnd rfl hfit, natSum_update_of_not_mem hpN, hrest,
            hsub]
          simp only [natSum_cons] at hle ⊢
          omega

section Windows

variable (cfg : EffectiveConfig)

/-- The accepted load at the `k` latest starts up to `S`. -/
def recentLoad (S k : Nat) (accepted : List (Nat × Nat)) : Nat :=
  ((accepted.filter fun a => S < a.1 + k * cfg.windowSegmentSize.toNat ∧ a.1 ≤ S).map
    (·.2)).sum

/-- The ledger's load at the `k` latest starts up to `S`, as a sum of naturals. -/
def recentSum (S k : Nat) (ledger : Nat → UInt64) : Nat :=
  natSum (latestStarts cfg.windowSegmentSize.toNat S k) ledger

theorem windowLoad_eq_recentLoad (X : Nat) (accepted : List (Nat × Nat)) :
    windowLoad cfg X accepted = recentLoad cfg X cfg.numSegments.toNat accepted := by
  rw [windowLoad, recentLoad, cfg.window_eq_mul]

theorem windowLoad_append (X : Nat) (l₁ l₂ : List (Nat × Nat)) :
    windowLoad cfg X (l₁ ++ l₂) = windowLoad cfg X l₁ + windowLoad cfg X l₂ := by
  simp only [windowLoad, List.filter_append, List.map_append, List.sum_append]

theorem recentLoad_append (S k : Nat) (l₁ l₂ : List (Nat × Nat)) :
    recentLoad cfg S k (l₁ ++ l₂) = recentLoad cfg S k l₁ + recentLoad cfg S k l₂ := by
  simp only [recentLoad, List.filter_append, List.map_append, List.sum_append]

theorem latestStarts_add (seg S d k : Nat) :
    latestStarts seg S (d + k) = latestStarts seg S d ++ latestStarts seg (S - d * seg) k := by
  simp only [latestStarts, List.range_add, List.map_append, List.map_map]
  congr 1
  refine List.map_congr_left fun i _ => ?_
  simp only [Function.comp, Nat.add_mul, Nat.sub_sub]

theorem recentSum_mono (S : Nat) {k k' : Nat} (h : k ≤ k') (ledger : Nat → UInt64) :
    recentSum cfg S k ledger ≤ recentSum cfg S k' ledger := by
  obtain ⟨j, rfl⟩ := Nat.exists_eq_add_of_le h
  simp only [recentSum, latestStarts_add, natSum_append]
  omega

theorem recentSum_shift {S : Nat} {ledger : Nat → UInt64} (hz : ∀ s, S < s → ledger s = 0)
    (d k : Nat) :
    recentSum cfg (S + d * cfg.windowSegmentSize.toNat) k ledger = recentSum cfg S (k - d) ledger := by
  have hpos := cfg.segment_pos
  have habove : ∀ j ≤ d, natSum (latestStarts cfg.windowSegmentSize.toNat
      (S + d * cfg.windowSegmentSize.toNat) j) ledger = 0 := by
    intro j hj
    refine List.sum_eq_zero fun x hx => ?_
    obtain ⟨s, hs, rfl⟩ := List.mem_map.mp hx
    obtain ⟨i, hi, rfl⟩ := List.mem_map.mp hs
    have : i * cfg.windowSegmentSize.toNat < d * cfg.windowSegmentSize.toNat :=
      Nat.mul_lt_mul_of_pos_right (by simp at hi; omega) hpos
    rw [hz _ (by omega), u64_toNat_zero]
  by_cases hk : d ≤ k
  · obtain ⟨j, rfl⟩ := Nat.exists_eq_add_of_le hk
    simp only [recentSum, latestStarts_add, natSum_append, habove d le_rfl,
      Nat.add_sub_cancel, Nat.add_sub_cancel_left, Nat.zero_add]
  · rw [Nat.sub_eq_zero_of_le (by omega)]
    exact habove k (by omega)

theorem recentLoad_shift {S : Nat} {accepted : List (Nat × Nat)} (hz : ∀ a ∈ accepted, a.1 ≤ S)
    (d k : Nat) :
    recentLoad cfg (S + d * cfg.windowSegmentSize.toNat) k accepted = recentLoad cfg S (k - d) accepted := by
  unfold recentLoad
  congr 2
  refine List.filter_congr fun a ha => ?_
  have := hz a ha
  by_cases hk : d ≤ k
  · have h := Nat.sub_add_cancel hk
    have : (k - d) * cfg.windowSegmentSize.toNat + d * cfg.windowSegmentSize.toNat =
        k * cfg.windowSegmentSize.toNat := by rw [← Nat.add_mul, h]
    simp only [decide_eq_decide]
    omega
  · have : k * cfg.windowSegmentSize.toNat ≤ d * cfg.windowSegmentSize.toNat :=
      Nat.mul_le_mul_right _ (by omega)
    simp only [Nat.sub_eq_zero_of_le (Nat.le_of_not_le hk), Nat.zero_mul, Nat.add_zero,
      decide_eq_decide]
    omega

theorem windowSum_toNat {t : UInt64} {ledger : Nat → UInt64}
    (hfit : natSum (windowStarts cfg t) ledger < 2 ^ 64) :
    (windowSum cfg t ledger).toNat = natSum (windowStarts cfg t) ledger := by
  rw [windowSum, u64_toNat_sum_of_lt (by rwa [List.map_map]), List.map_map]
  rfl

theorem recentSum_capLedger {t : UInt64} {ledger : Nat → UInt64} {k : Nat}
    (ht : cfg.windowSize.toNat ≤ t.toNat) (hk : k ≤ cfg.numSegments.toNat)
    (hfit : recentSum cfg (locateSegmentStartTime cfg t).toNat cfg.numSegments.toNat ledger <
      2 ^ 64) :
    recentSum cfg (locateSegmentStartTime cfg t).toNat k (capLedger cfg t ledger) =
      min (recentSum cfg (locateSegmentStartTime cfg t).toNat k ledger)
        cfg.absoluteMaxPenaltyCap.toNat := by
  have hW := windowSum_toNat cfg hfit
  have hWn : recentSum cfg (locateSegmentStartTime cfg t).toNat cfg.numSegments.toNat ledger =
      natSum (windowStarts cfg t) ledger := rfl
  have hmono := recentSum_mono cfg (locateSegmentStartTime cfg t).toNat hk ledger
  unfold capLedger
  split
  · rename_i hcap
    rw [u64_lt_iff, hW] at hcap
    have hsplit : windowStarts cfg t =
        latestStarts cfg.windowSegmentSize.toNat (locateSegmentStartTime cfg t).toNat k ++
          latestStarts cfg.windowSegmentSize.toNat
            ((locateSegmentStartTime cfg t).toNat - k * cfg.windowSegmentSize.toNat)
            (cfg.numSegments.toNat - k) := by
      rw [windowStarts, ← latestStarts_add, Nat.add_sub_cancel' hk]
    have hnd : (windowStarts cfg t).reverse.Nodup :=
      List.nodup_reverse.mpr ((windowStarts_pairwise cfg ht).imp fun h => by omega)
    have hsub : (windowSum cfg t ledger - cfg.absoluteMaxPenaltyCap).toNat =
        natSum (windowStarts cfg t) ledger - cfg.absoluteMaxPenaltyCap.toNat := by
      rw [u64_toNat_sub_of_le (by rw [hW]; omega), hW]
    have := @debitOldest_natSum_suffix _ (windowSum cfg t ledger - cfg.absoluteMaxPenaltyCap)
      ledger _ _ hnd (by rw [hsplit, List.reverse_append]) (by rw [natSum_reverse, hsub]; omega)
    simp only [natSum_reverse, hsub] at this
    unfold recentSum
    rw [this]
    omega
  · rename_i hcap
    rw [u64_lt_iff, hW] at hcap
    omega

end Windows

/-! ## Penalty shares -/

theorem natSum_shareAt_le {seg : Nat} (hseg : 0 < seg) :
    ∀ {shares : List UInt64} {S m : Nat}, m * seg ≤ S →
      natSum (latestStarts seg S m) (shareAt seg S shares) ≤ (shares.map UInt64.toNat).sum
  | [], S, m, _ => by
      rw [show natSum (latestStarts seg S m) (shareAt seg S []) = 0 from
        List.sum_eq_zero fun x hx => by
          obtain ⟨s, -, rfl⟩ := List.mem_map.mp hx
          rfl]
      exact Nat.zero_le _
  | share :: shares, S, 0, _ => Nat.zero_le _
  | share :: shares, S, m + 1, hm => by
      rw [latestStarts_succ, natSum_cons, shareAt, if_pos rfl, List.map_cons, List.sum_cons]
      have hm' : m * seg ≤ S - seg := by rw [Nat.succ_mul] at hm; omega
      have htail : natSum (latestStarts seg (S - seg) m) (shareAt seg S (share :: shares)) =
          natSum (latestStarts seg (S - seg) m) (shareAt seg (S - seg) shares) := by
        refine natSum_congr fun s hs => ?_
        obtain ⟨i, -, rfl⟩ := List.mem_map.mp hs
        rw [shareAt, if_neg (by rw [Nat.succ_mul] at hm; omega)]
      rw [htail]
      exact Nat.add_le_add_left (natSum_shareAt_le hseg hm') _

theorem shareAt_toNat_le {seg : Nat} :
    ∀ {shares : List UInt64} {S s : Nat},
      (shareAt seg S shares s).toNat ≤ (shares.map UInt64.toNat).sum
  | [], _, _ => Nat.zero_le _
  | share :: shares, S, s => by
      rw [shareAt, List.map_cons, List.sum_cons]
      split
      · exact Nat.le_add_right _ _
      · exact (shareAt_toNat_le).trans (Nat.le_add_left _ _)

/-! ## The invariant -/

/-- No `uint64` sum of a run wraps: the cap leaves room for `MaxLoad` and for each penalty a
load of at most `MaxLoad` can draw. -/
structure Headroom (cfg : EffectiveConfig) : Prop where
  load : cfg.absoluteMaxPenaltyCap.toNat + cfg.maxLoad.toNat < 2 ^ 64
  overstep : cfg.applyOverstepPenalty = true →
    cfg.absoluteMaxPenaltyCap.toNat + cfg.absoluteOverstepPenalty.toNat < 2 ^ 64
  overhead : cfg.applyRequestOverheadPenalty = true → ∀ load penalty : UInt64,
    load.toNat ≤ cfg.maxLoad.toNat → cfg.requestOverheadPenalty load = some penalty →
      cfg.absoluteMaxPenaltyCap.toNat + penalty.toNat < 2 ^ 64

/-- The ledger against the accepted requests at the segment start `S`, before capping. -/
structure Bounded (cfg : EffectiveConfig) (S : Nat) (ledger : Nat → UInt64)
    (accepted : List (Nat × Nat)) : Prop where
  window_le : ∀ X, X % cfg.windowSegmentSize.toNat = 0 →
    windowLoad cfg X accepted ≤ cfg.maxLoad.toNat
  recent_le : ∀ k ≤ cfg.numSegments.toNat, recentLoad cfg S k accepted ≤ recentSum cfg S k ledger
  future : ∀ s, S < s → ledger s = 0
  accepted_le : ∀ a ∈ accepted, a.1 ≤ S
  fits : recentSum cfg S cfg.numSegments.toNat ledger < 2 ^ 64

/-- What holds after every call at the segment start `S`. -/
structure Safe (cfg : EffectiveConfig) (S : Nat) (ledger : Nat → UInt64)
    (accepted : List (Nat × Nat)) extends Bounded cfg S ledger accepted : Prop where
  sum_le : recentSum cfg S cfg.numSegments.toNat ledger ≤ cfg.absoluteMaxPenaltyCap.toNat

section Invariant

variable {cfg : EffectiveConfig} {S : Nat} {ledger : Nat → UInt64} {accepted : List (Nat × Nat)}

theorem recentLoad_zero (S : Nat) (accepted : List (Nat × Nat)) :
    recentLoad cfg S 0 accepted = 0 := by
  rw [recentLoad, List.filter_eq_nil_iff.mpr fun a _ => by simp]
  rfl

theorem recentLoad_single {S k : Nat} (L : Nat) : recentLoad cfg S (k + 1) [(S, L)] = L := by
  have : 0 < (k + 1) * cfg.windowSegmentSize.toNat := Nat.mul_pos k.succ_pos cfg.segment_pos
  simp [recentLoad, this]

theorem recentSum_credit (hS : cfg.windowSegmentSize.toNat ≤ S) {L : UInt64}
    (hfit : (ledger S).toNat + L.toNat < 2 ^ 64) (k : Nat) :
    recentSum cfg S (k + 1) (credit ledger S L) = recentSum cfg S (k + 1) ledger + L.toNat := by
  have htail : natSum (latestStarts cfg.windowSegmentSize.toNat (S - cfg.windowSegmentSize.toNat) k)
      (credit ledger S L) =
        natSum (latestStarts cfg.windowSegmentSize.toNat (S - cfg.windowSegmentSize.toNat) k)
          ledger := by
    refine natSum_congr fun s hs => ?_
    obtain ⟨i, -, rfl⟩ := List.mem_map.mp hs
    exact if_neg (by have := cfg.segment_pos; omega)
  simp only [recentSum, latestStarts_succ, natSum_cons, htail]
  rw [credit, if_pos rfl, u64_toNat_add_of_lt hfit]
  omega

theorem safe_fresh (S : Nat) : Safe cfg S LedgerState.fresh.ledger [] := by
  have hzero : recentSum cfg S cfg.numSegments.toNat LedgerState.fresh.ledger = 0 :=
    List.sum_eq_zero fun x hx => by
      obtain ⟨s, -, rfl⟩ := List.mem_map.mp hx
      rfl
  exact ⟨⟨fun _ _ => Nat.zero_le _, fun _ _ => Nat.zero_le _, fun _ _ => rfl,
    fun _ h => (List.not_mem_nil _ h).elim, by rw [hzero]; omega⟩, by rw [hzero]; exact Nat.zero_le _⟩

theorem Safe.shift (h : Safe cfg S ledger accepted) (d : Nat) :
    Safe cfg (S + d * cfg.windowSegmentSize.toNat) ledger accepted := by
  have hsum : recentSum cfg (S + d * cfg.windowSegmentSize.toNat) cfg.numSegments.toNat ledger ≤
      cfg.absoluteMaxPenaltyCap.toNat := by
    rw [recentSum_shift cfg h.future]
    exact (recentSum_mono cfg S (Nat.sub_le _ _) _).trans h.sum_le
  refine ⟨⟨h.window_le, fun k hk => ?_, fun s hs => h.future s (by omega),
    fun a ha => (h.accepted_le a ha).trans (Nat.le_add_right _ _),
    lt_of_le_of_lt hsum (u64_toNat_lt _)⟩, hsum⟩
  rw [recentLoad_shift cfg h.accepted_le, recentSum_shift cfg h.future]
  exact h.recent_le _ (by omega)

theorem Safe.of_le (h : Safe cfg S ledger accepted) {S' : Nat}
    (hS : S % cfg.windowSegmentSize.toNat = 0) (hS' : S' % cfg.windowSegmentSize.toNat = 0)
    (hle : S ≤ S') : Safe cfg S' ledger accepted := by
  have hd := Nat.div_add_mod (S' - S) cfg.windowSegmentSize.toNat
  rw [Nat.sub_mod_eq_zero_of_mod_eq (hS'.trans hS.symm), Nat.add_zero, Nat.mul_comm] at hd
  have := h.shift ((S' - S) / cfg.windowSegmentSize.toNat)
  rwa [hd, Nat.add_sub_cancel' hle] at this

theorem Bounded.capLedger {t : UInt64}
    (h : Bounded cfg (locateSegmentStartTime cfg t).toNat ledger accepted)
    (ht : cfg.windowSize.toNat ≤ t.toNat)
    (hcap : cfg.maxLoad.toNat ≤ cfg.absoluteMaxPenaltyCap.toNat) :
    Safe cfg (locateSegmentStartTime cfg t).toNat (capLedger cfg t ledger) accepted := by
  have hrec := fun k (hk : k ≤ cfg.numSegments.toNat) => recentSum_capLedger cfg ht hk h.fits
  have hSa := (locate_toNat_bounds cfg t).2.2
  refine ⟨⟨h.window_le, fun k hk => ?_, fun s hs => ?_, h.accepted_le, ?_⟩, ?_⟩
  · rw [hrec k hk]
    refine le_min (h.recent_le k hk) (le_trans ?_ hcap)
    have := h.window_le _ (by rwa [Nat.add_mul_mod_self_right] :
      ((locateSegmentStartTime cfg t).toNat +
        (cfg.numSegments.toNat - k) * cfg.windowSegmentSize.toNat) %
          cfg.windowSegmentSize.toNat = 0)
    rwa [windowLoad_eq_recentLoad, recentLoad_shift cfg h.accepted_le,
      Nat.sub_sub_self hk] at this
  · rw [capLedger_of_not_mem cfg fun hm => by
      have := ((mem_windowStarts_iff cfg).mp hm).2.2; omega]
    exact h.future s hs
  · rw [hrec _ le_rfl]
    exact lt_of_le_of_lt (min_le_right _ _) (u64_toNat_lt _)
  · rw [hrec _ le_rfl]
    exact min_le_right _ _

theorem Safe.credit_bounded (h : Safe cfg S ledger accepted) (hS : cfg.windowSize.toNat ≤ S)
    (hSa : S % cfg.windowSegmentSize.toNat = 0)
    (hroom : cfg.absoluteMaxPenaltyCap.toNat + cfg.maxLoad.toNat < 2 ^ 64) {L : UInt64}
    (hdec : recentSum cfg S cfg.numSegments.toNat ledger + L.toNat ≤ cfg.maxLoad.toNat) :
    Bounded cfg S (credit ledger S L) (accepted ++ [(S, L.toNat)]) := by
  have hseg := cfg.segment_le_window
  have hn := cfg.numSegments_pos
  have hfitS : (ledger S).toNat + L.toNat < 2 ^ 64 := by
    have hmem : S ∈ latestStarts cfg.windowSegmentSize.toNat S cfg.numSegments.toNat :=
      List.mem_map.mpr ⟨0, List.mem_range.mpr hn, by rw [Nat.zero_mul, Nat.sub_zero]⟩
    have : (ledger S).toNat ≤ recentSum cfg S cfg.numSegments.toNat ledger := by
      unfold recentSum natSum
      exact List.le_sum_of_mem (List.mem_map_of_mem _ hmem)
    have := h.sum_le
    omega
  refine ⟨fun X hX => ?_, fun k hk => ?_, fun s hs => ?_, fun a ha => ?_, ?_⟩
  · rw [windowLoad_append]
    by_cases hin : X < S + cfg.windowSize.toNat ∧ S ≤ X
    · have hd := Nat.div_add_mod (X - S) cfg.windowSegmentSize.toNat
      rw [Nat.sub_mod_eq_zero_of_mod_eq (hX.trans hSa.symm), Nat.add_zero, Nat.mul_comm] at hd
      have hX' : X = S + (X - S) / cfg.windowSegmentSize.toNat * cfg.windowSegmentSize.toNat := by
        omega
      have hone : windowLoad cfg X [(S, L.toNat)] = L.toNat := by simp [windowLoad, hin.1, hin.2]
      have hold : windowLoad cfg X accepted ≤ recentSum cfg S cfg.numSegments.toNat ledger := by
        rw [windowLoad_eq_recentLoad, hX', recentLoad_shift cfg h.accepted_le]
        exact (h.recent_le _ (Nat.sub_le _ _)).trans (recentSum_mono cfg S (Nat.sub_le _ _) _)
      omega
    · have : windowLoad cfg X [(S, L.toNat)] = 0 := by
        rw [windowLoad, List.filter_cons, if_neg (by simpa using hin)]
        rfl
      rw [this, Nat.add_zero]
      exact h.window_le X hX
  · cases k with
    | zero =>
        rw [recentLoad_zero]
        exact Nat.zero_le _
    | succ k =>
        rw [recentLoad_append, recentLoad_single, recentSum_credit (hseg.trans hS) hfitS]
        exact Nat.add_le_add_right (h.recent_le _ hk) _
  · simp only [credit, if_neg (Nat.ne_of_gt hs)]
    exact h.future s hs
  · rcases List.mem_append.mp ha with ha | ha
    · exact h.accepted_le a ha
    · rw [List.mem_singleton.mp ha]
  · have := recentSum_credit (hseg.trans hS) hfitS (cfg.numSegments.toNat - 1)
    rw [Nat.sub_add_cancel hn] at this
    have := h.sum_le
    omega

theorem Safe.recentSum_creditShares (h : Safe cfg S ledger accepted) {shares : List UInt64}
    (hroom : cfg.absoluteMaxPenaltyCap.toNat + (shares.map UInt64.toNat).sum < 2 ^ 64) {k : Nat}
    (hk : k ≤ cfg.numSegments.toNat) :
    recentSum cfg S k (creditShares cfg ledger S shares) = recentSum cfg S k ledger +
      natSum (latestStarts cfg.windowSegmentSize.toNat S k)
        (shareAt cfg.windowSegmentSize.toNat S shares) := by
  have hpt : ∀ s ∈ latestStarts cfg.windowSegmentSize.toNat S k,
      (ledger s).toNat + (shareAt cfg.windowSegmentSize.toNat S shares s).toNat < 2 ^ 64 :=
    fun s hs => by
      have hW : s ∈ latestStarts cfg.windowSegmentSize.toNat S cfg.numSegments.toNat := by
        rw [← Nat.add_sub_cancel' hk, latestStarts_add]
        exact List.mem_append_left _ hs
      have : (ledger s).toNat ≤ recentSum cfg S cfg.numSegments.toNat ledger := by
        unfold recentSum natSum
        exact List.le_sum_of_mem (List.mem_map_of_mem _ hW)
      have := @shareAt_toNat_le cfg.windowSegmentSize.toNat shares S s
      have := h.sum_le
      omega
  simp only [recentSum, natSum, creditShares]
  rw [List.map_congr_left fun s hs => u64_toNat_add_of_lt (hpt s hs), List.sum_map_add]

theorem Safe.creditShares_bounded (h : Safe cfg S ledger accepted) (hS : cfg.windowSize.toNat ≤ S)
    {shares : List UInt64}
    (hroom : cfg.absoluteMaxPenaltyCap.toNat + (shares.map UInt64.toNat).sum < 2 ^ 64) :
    Bounded cfg S (creditShares cfg ledger S shares) accepted := by
  refine ⟨h.window_le, fun k hk => ?_, fun s hs => ?_, h.accepted_le, ?_⟩
  · rw [h.recentSum_creditShares hroom hk]
    exact (h.recent_le k hk).trans (Nat.le_add_right _ _)
  · simp only [creditShares, h.future s hs, shareAt_of_lt hs]
    rfl
  · have : natSum (latestStarts cfg.windowSegmentSize.toNat S cfg.numSegments.toNat)
        (shareAt cfg.windowSegmentSize.toNat S shares) ≤ (shares.map UInt64.toNat).sum :=
      natSum_shareAt_le cfg.segment_pos (by rw [← cfg.window_eq_mul]; exact hS)
    rw [h.recentSum_creditShares hroom le_rfl]
    have := h.sum_le
    omega

theorem ledgerPenalty_cases (hroom : Headroom cfg) (t load : UInt64) (st : LedgerState)
    (hL : load.toNat ≤ cfg.maxLoad.toNat) :
    ((ledgerPenalty cfg t load st).2 = false ∧ (ledgerPenalty cfg t load st).1.ledger = st.ledger) ∨
      ((ledgerPenalty cfg t load st).2 = true ∧ ∃ shares : List UInt64,
        (ledgerPenalty cfg t load st).1.ledger =
          creditShares cfg st.ledger (locateSegmentStartTime cfg t).toNat shares ∧
        cfg.absoluteMaxPenaltyCap.toNat + (shares.map UInt64.toNat).sum < 2 ^ 64) := by
  unfold ledgerPenalty
  split_ifs with hw ho hr
  · have := penaltyShares_sum_le cfg.absoluteOverstepPenalty cfg.overstepPenaltySegmentSpan
    have := hroom.overstep ho
    exact .inr ⟨rfl, _, rfl, by omega⟩
  · exact .inl ⟨rfl, rfl⟩
  · split
    · rename_i penalty hp
      have := penaltyShares_sum_le penalty cfg.requestOverheadPenaltySegmentSpan
      have := hroom.overhead hr load penalty hL hp
      exact .inr ⟨rfl, _, rfl, by omega⟩
    · exact .inl ⟨rfl, rfl⟩
  · exact .inl ⟨rfl, rfl⟩

/-- One call keeps the invariant at its own segment start. -/
theorem ledgerStep_safe (hroom : Headroom cfg)
    (hcap : cfg.maxLoad.toNat ≤ cfg.absoluteMaxPenaltyCap.toNat) {c : Call} {st : LedgerState}
    (ht : cfg.windowSize.toNat ≤ c.timestamp.toNat)
    (hL : ∀ t load, c = .submit t load → load.toNat ≤ cfg.maxLoad.toNat)
    (h : Safe cfg (locateSegmentStartTime cfg c.timestamp).toNat st.ledger accepted) :
    Safe cfg (locateSegmentStartTime cfg c.timestamp).toNat (ledgerStep cfg c st).1.ledger
      (accepted ++ acceptedOf cfg c (ledgerStep cfg c st).2) := by
  cases c with
  | probe t load =>
      rw [show acceptedOf cfg (.probe t load) _ = [] from rfl, List.append_nil]
      exact h
  | submit t load =>
      simp only [Call.timestamp] at ht h ⊢
      replace hL := hL t load rfl
      have hS := window_le_locate cfg ht
      have hW := windowSum_toNat cfg h.fits
      by_cases hadm : windowSum cfg t st.ledger + load ≤ cfg.maxLoad
      · have hWn : recentSum cfg (locateSegmentStartTime cfg t).toNat cfg.numSegments.toNat
            st.ledger = natSum (windowStarts cfg t) st.ledger := rfl
        have hfit : (windowSum cfg t st.ledger).toNat + load.toNat < 2 ^ 64 := by
          have := h.sum_le
          have := hroom.load
          omega
        have hdec : recentSum cfg (locateSegmentStartTime cfg t).toNat cfg.numSegments.toNat
            st.ledger + load.toNat ≤ cfg.maxLoad.toNat := by
          rwa [u64_le_iff, u64_toNat_add_of_lt hfit, hW, ← hWn] at hadm
        rw [ledgerStep, if_pos hadm]
        exact (h.credit_bounded hS (locate_toNat_bounds cfg t).2.2 hroom.load hdec).capLedger
          ht hcap
      · rw [ledgerStep, if_neg hadm]
        have hcases := ledgerPenalty_cases hroom t load st hL
        generalize ledgerPenalty cfg t load st = p at hcases ⊢
        obtain ⟨st1, added⟩ := p
        rw [show acceptedOf cfg (.submit t load) false = [] from rfl, List.append_nil]
        rcases hcases with ⟨rfl, h1⟩ | ⟨rfl, shares, h1, hfit⟩
        · dsimp only at h1 ⊢
          simp only [Bool.false_eq_true, ↓reduceIte, h1]
          exact h
        · dsimp only at h1 ⊢
          simp only [↓reduceIte, h1]
          exact (h.creditShares_bounded hS hfit).capLedger ht hcap

theorem ledgerStep_reject_window (hroom : Headroom cfg) {t load : UInt64} {st : LedgerState}
    (ht : cfg.windowSize.toNat ≤ t.toNat) (hL : load.toNat ≤ cfg.maxLoad.toNat)
    (h : Safe cfg (locateSegmentStartTime cfg t).toNat st.ledger accepted)
    (hrej : ¬windowSum cfg t st.ledger + load ≤ cfg.maxLoad) :
    min (recentSum cfg (locateSegmentStartTime cfg t).toNat cfg.numSegments.toNat st.ledger)
        cfg.absoluteMaxPenaltyCap.toNat ≤
      recentSum cfg (locateSegmentStartTime cfg t).toNat cfg.numSegments.toNat
        (ledgerStep cfg (.submit t load) st).1.ledger := by
  rw [ledgerStep, if_neg hrej]
  have hcases := ledgerPenalty_cases hroom t load st hL
  generalize ledgerPenalty cfg t load st = p at hcases ⊢
  obtain ⟨st1, added⟩ := p
  rcases hcases with ⟨rfl, h1⟩ | ⟨rfl, shares, h1, hfit⟩
  · dsimp only at h1 ⊢
    simp only [Bool.false_eq_true, ↓reduceIte, h1]
    exact min_le_left _ _
  · dsimp only at h1 ⊢
    simp only [↓reduceIte, h1]
    have hb := h.creditShares_bounded (window_le_locate cfg ht) hfit
    rw [recentSum_capLedger cfg ht le_rfl hb.fits, h.recentSum_creditShares hfit le_rfl]
    exact min_le_min_right _ (Nat.le_add_right _ _)

theorem ledgerRun_cons (c : Call) (calls : List Call) (st : LedgerState) :
    ledgerRun cfg (c :: calls) st =
      ((ledgerRun cfg calls (ledgerStep cfg c st).1).1,
        (ledgerStep cfg c st).2 :: (ledgerRun cfg calls (ledgerStep cfg c st).1).2) := rfl

/-- Along calls in timestamp order the invariant holds at every later segment start. -/
theorem ledgerRun_safe (hroom : Headroom cfg)
    (hcap : cfg.maxLoad.toNat ≤ cfg.absoluteMaxPenaltyCap.toNat) :
    ∀ {calls : List Call} {st : LedgerState} {accepted : List (Nat × Nat)} {S S' : Nat},
      Safe cfg S st.ledger accepted → S % cfg.windowSegmentSize.toNat = 0 →
      S' % cfg.windowSegmentSize.toNat = 0 → S ≤ S' →
      (∀ c ∈ calls, S ≤ (locateSegmentStartTime cfg c.timestamp).toNat ∧
        (locateSegmentStartTime cfg c.timestamp).toNat ≤ S' ∧
        cfg.windowSize.toNat ≤ c.timestamp.toNat ∧
        ∀ t load, c = .submit t load → load.toNat ≤ cfg.maxLoad.toNat) →
      (calls.map fun c => c.timestamp.toNat).Sorted (· ≤ ·) →
      Safe cfg S' (ledgerRun cfg calls st).1.ledger
        (accepted ++ acceptedLoads cfg calls (ledgerRun cfg calls st).2)
  | [], _, _, _, _, h, hS, hS', hle, _, _ => by
      simpa [acceptedLoads, ledgerRun] using h.of_le hS hS' hle
  | c :: calls, st, accepted, S, S', h, hS, hS', _, hc, hsort => by
      rw [List.map_cons, List.sorted_cons] at hsort
      obtain ⟨hSc, hSc', ht, hL⟩ := hc c (List.mem_cons_self _ _)
      have hSa := (locate_toNat_bounds cfg c.timestamp).2.2
      have h1 := ledgerStep_safe hroom hcap ht hL (h.of_le hS hSa hSc)
      rw [ledgerRun_cons, acceptedLoads_cons, ← List.append_assoc]
      exact ledgerRun_safe hroom hcap h1 hSa hS' hSc' (fun c' hc' =>
        ⟨locate_mono cfg (hsort.1 _ (List.mem_map_of_mem _ hc')),
          (hc c' (List.mem_cons_of_mem _ hc')).2⟩) hsort.2

end Invariant

theorem le_of_mem_of_getLast? {α : Type} {f : α → Nat} :
    ∀ {l : List α}, (l.map f).Sorted (· ≤ ·) → ∀ c ∈ l.getLast?, ∀ c' ∈ l, f c' ≤ f c
  | [], _, _, hc, _, _ => absurd hc (by simp)
  | [a], _, c, hc, c', hc' => by
      rw [List.getLast?_singleton, Option.mem_def, Option.some.injEq] at hc
      rw [List.mem_singleton.mp hc', hc]
  | a :: b :: l, hs, c, hc, c', hc' => by
      rw [List.map_cons, List.sorted_cons] at hs
      rw [List.getLast?_cons_cons] at hc
      rcases List.mem_cons.mp hc' with rfl | hc'
      · exact hs.1 _ (List.mem_map_of_mem _ (List.mem_of_mem_getLast? hc))
      · exact le_of_mem_of_getLast? hs.2 c hc c' hc'

/-! ## The limiter's accepted loads -/

/-- For every run of calls on a fresh tenant with timestamps of at least `WindowSize` in
non-decreasing order, submitted loads of at most `MaxLoad` (a probe may ask for any load),
`MaxLoad` at most the cap, and no `uint64` sum wrapping, every segment-aligned window
`(X - WindowSize, X]` holds at most `MaxLoad` of accepted load. -/
theorem runCalls_window_safety {cfg : EffectiveConfig} {calls : List Call}
    {tenant : TenantData} {results : List CallResult}
    (hts : ∀ c ∈ calls, cfg.windowSize.toNat ≤ c.timestamp.toNat)
    (hmono : (calls.map fun c => c.timestamp.toNat).Sorted (· ≤ ·))
    (hload : ∀ t load, Call.submit t load ∈ calls → load.toNat ≤ cfg.maxLoad.toNat)
    (hcap : cfg.maxLoad.toNat ≤ cfg.absoluteMaxPenaltyCap.toNat) (hroom : Headroom cfg)
    (hrun : runCalls cfg calls newTenantData = .ok (tenant, results))
    (X : Nat) (hX : X % cfg.windowSegmentSize.toNat = 0) :
    windowLoad cfg X (acceptedLoads cfg calls (results.map CallResult.decision)) ≤
      cfg.maxLoad.toNat := by
  obtain ⟨hdec, -⟩ := @runCalls_refines_from cfg calls newTenantData tenant LedgerState.fresh 0
    results (fun t' _ => before_fresh t') hmono (fun c hc => ⟨Nat.zero_le _, hts c hc⟩) hrun
  have htop := (locate_toNat_bounds cfg 18446744073709551615).2.2
  rw [hdec, ← List.nil_append (acceptedLoads _ _ _)]
  exact (ledgerRun_safe hroom hcap (safe_fresh 0) (Nat.zero_mod _) htop (Nat.zero_le _)
    (fun c hc => ⟨Nat.zero_le _, locate_mono cfg (Nat.le_of_lt_succ (u64_toNat_lt _)), hts c hc,
      fun t load h => hload t load (h ▸ hc)⟩) hmono).window_le X hX

/-- A window of the default test instance after an accepted `60`, a `Probe` of `500`, above
`MaxLoad`, and an accepted `40`. -/
theorem runCalls_window_safety_default :
    windowLoad defaultInstanceConfig 1002000
        (acceptedLoads defaultInstanceConfig
          [.submit 1000000 60, .probe 1001000 500, .submit 1002000 40]
          ([.submitted ⟨true, false, 0⟩, .probed false, .submitted ⟨true, false, 0⟩].map
            CallResult.decision)) ≤
      defaultInstanceConfig.maxLoad.toNat :=
  runCalls_window_safety (by decide) (by decide)
    (fun t load h => by
      simp only [List.mem_cons, Call.submit.injEq, List.mem_singleton, List.not_mem_nil,
        reduceCtorEq, or_false, false_or] at h
      rcases h with ⟨-, rfl⟩ | ⟨-, rfl⟩ <;> decide)
    (by decide) ⟨by decide, fun h => absurd h (by decide), fun h => absurd h (by decide)⟩
    (by rfl) 1002000 (by decide)

/-- Under the same conditions the window total after every call is at most
`AbsoluteMaxPenaltyCap`. -/
theorem runCalls_windowTotal_le_cap {cfg : EffectiveConfig} {calls : List Call}
    {tenant : TenantData} {results : List CallResult}
    (hts : ∀ c ∈ calls, cfg.windowSize.toNat ≤ c.timestamp.toNat)
    (hmono : (calls.map fun c => c.timestamp.toNat).Sorted (· ≤ ·))
    (hload : ∀ c ∈ calls, c.load.toNat ≤ cfg.maxLoad.toNat)
    (hcap : cfg.maxLoad.toNat ≤ cfg.absoluteMaxPenaltyCap.toNat) (hroom : Headroom cfg)
    (hrun : runCalls cfg calls newTenantData = .ok (tenant, results)) :
    tenant.windowTotal.toNat ≤ cfg.absoluteMaxPenaltyCap.toNat := by
  obtain ⟨-, hlast⟩ := @runCalls_refines_from cfg calls newTenantData tenant LedgerState.fresh 0
    results (fun t' _ => before_fresh t') hmono (fun c hc => ⟨Nat.zero_le _, hts c hc⟩) hrun
  cases hc : calls.getLast? with
  | none =>
      rw [List.getLast?_eq_none_iff] at hc
      subst hc
      simp only [runCalls, Except.ok.injEq, Prod.mk.injEq] at hrun
      rw [← hrun.1]
      exact Nat.zero_le _
  | some c =>
      have ht := hts c (List.mem_of_mem_getLast? hc)
      have hsafe := ledgerRun_safe hroom hcap (safe_fresh 0) (Nat.zero_mod _)
        (locate_toNat_bounds cfg c.timestamp).2.2 (Nat.zero_le _)
        (fun c' hc' => ⟨Nat.zero_le _, locate_mono cfg (le_of_mem_of_getLast? hmono c hc c' hc'),
          hts c' hc', fun _ _ h => by subst h; exact hload _ hc'⟩) hmono
      rw [(hlast c hc).windowTotal_eq ht, windowSum_toNat cfg hsafe.fits]
      exact hsafe.sum_le

/-- The window total after an accepted `60`, a `Probe` and an accepted `40`. -/
theorem runCalls_windowTotal_le_cap_default :
    (⟨[⟨1002000, 40⟩, ⟨1001000, 0⟩, ⟨1000000, 60⟩], false, 100, 6⟩ : TenantData).windowTotal.toNat ≤
      defaultInstanceConfig.absoluteMaxPenaltyCap.toNat :=
  @runCalls_windowTotal_le_cap defaultInstanceConfig
    [.submit 1000000 60, .probe 1001000 50, .submit 1002000 40] _ _ (by decide) (by decide)
    (by decide) (by decide)
    ⟨by decide, fun h => absurd h (by decide), fun h => absurd h (by decide)⟩ (by rfl)

def wrappingCalls : List Call :=
  [.submit 10000 50, .submit 11000 18446744073709551606, .submit 20000 1, .probe 20000 1]

/-- `50 + (2^64 - 10)` wraps to `40 ≤ MaxLoad`, so the second load is accepted; evicting the
`50` at `20000` wraps the total to `2^64 - 10`, far above the cap of `150`, and the rejection
that follows adds no penalty, so nothing caps it. -/
theorem runCalls_wrappingCalls_windowTotal :
    runCalls defaultInstanceConfig wrappingCalls newTenantData =
        .ok (⟨[⟨20000, 0⟩, ⟨11000, 18446744073709551606⟩], true, 18446744073709551606, 7⟩,
          [.submitted ⟨true, false, 0⟩, .submitted ⟨true, false, 0⟩,
            .submitted ⟨false, true, 0⟩, .probed false]) ∧
      defaultInstanceConfig.absoluteMaxPenaltyCap.toNat < 18446744073709551606 :=
  ⟨rfl, by decide⟩

end LoadLimiter
