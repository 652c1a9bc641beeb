import Mathlib.Tactic.Abel
import LoadLimiter.Window.Shape

/-! # Penalty capping

`removeFromOldestSegments` and `applyCapping` of `window.go`: the excess of the window
total over `AbsoluteMaxPenaltyCap` is shaved off the oldest segments, emptied segments are
popped, and an emptied queue gets back one empty segment at the request's start.

Capping keeps a queue in shape and takes from the total what it takes from the values.
-/

namespace LoadLimiter

/-- The loop of `removeFromOldestSegments`, on the queue read from its back (oldest first):
returns the remaining segments (oldest first), the amount still to remove and the total. -/
def removeOldest : List WindowSegment → UInt64 → UInt64 →
    List WindowSegment × UInt64 × UInt64
  | [], amount, total => ([], amount, total)
  | oldestSegment :: rest, amount, total =>
      if amount = 0 then (oldestSegment :: rest, amount, total)
      else if amount ≤ oldestSegment.value then
        if oldestSegment.value - amount = 0 then (rest, 0, total - amount)
        else ({ oldestSegment with value := oldestSegment.value - amount } :: rest, 0,
          total - amount)
      else removeOldest rest (amount - oldestSegment.value) (total - oldestSegment.value)

/-- `removeFromOldestSegments`; an amount left over only logs a warning. -/
def removeFromOldestSegments (req : SubmitRequest) (amount : UInt64) (tenant : TenantData) :
    TenantData :=
  let (oldestFirst, _, total) := removeOldest tenant.windowQueue.reverse amount tenant.windowTotal
  { tenant with
    windowQueue := if oldestFirst = [] then [⟨req.requestSegmentStartTime, 0⟩]
      else oldestFirst.reverse
    windowTotal := total }

def applyCapping (cfg : EffectiveConfig) (req : SubmitRequest) (tenant : TenantData) :
    TenantData :=
  if !cfg.applyPenaltyCapping then tenant
  else if cfg.absoluteMaxPenaltyCap < tenant.windowTotal then
    removeFromOldestSegments req (tenant.windowTotal - cfg.absoluteMaxPenaltyCap) tenant
  else tenant

@[simp] theorem removeFromOldestSegments_wasOver (req : SubmitRequest) (amount : UInt64)
    (tenant : TenantData) : (removeFromOldestSegments req amount tenant).wasOver = tenant.wasOver :=
  rfl

@[simp] theorem removeFromOldestSegments_version (req : SubmitRequest) (amount : UInt64)
    (tenant : TenantData) : (removeFromOldestSegments req amount tenant).version = tenant.version :=
  rfl

@[simp] theorem applyCapping_wasOver (cfg : EffectiveConfig) (req : SubmitRequest)
    (tenant : TenantData) : (applyCapping cfg req tenant).wasOver = tenant.wasOver := by
  unfold applyCapping
  split <;> [rfl; split <;> rfl]

@[simp] theorem applyCapping_version (cfg : EffectiveConfig) (req : SubmitRequest)
    (tenant : TenantData) : (applyCapping cfg req tenant).version = tenant.version := by
  unfold applyCapping
  split <;> [rfl; split <;> rfl]

/-! ## Capping keeps the window in shape -/

theorem removeOldest_spec : ∀ (oldestFirst : List WindowSegment) (amount total : UInt64),
    (removeOldest oldestFirst amount total).1.map (·.startTime) <:+
        oldestFirst.map (·.startTime) ∧
      (removeOldest oldestFirst amount total).2.2 -
          ((removeOldest oldestFirst amount total).1.map (·.value)).sum =
        total - (oldestFirst.map (·.value)).sum
  | [], _, _ => ⟨List.suffix_refl _, rfl⟩
  | oldestSegment :: rest, amount, total => by
      unfold removeOldest
      split_ifs with h0 hle hz
      · exact ⟨List.suffix_refl _, rfl⟩
      · refine ⟨List.suffix_cons _ _, ?_⟩
        rw [List.map_cons, List.sum_cons, sub_eq_zero.mp hz, sub_sub]
      · refine ⟨by simp only [List.map_cons]; exact List.suffix_refl _, ?_⟩
        simp only [List.map_cons, List.sum_cons]
        abel
      · obtain ⟨h1, h2⟩ := removeOldest_spec rest (amount - oldestSegment.value)
          (total - oldestSegment.value)
        exact ⟨h1.trans (List.suffix_cons _ _), by rw [h2, List.map_cons, List.sum_cons, sub_sub]⟩

section Spec

variable {cfg : EffectiveConfig} {t load : UInt64} {tenant : TenantData}

theorem removeFromOldestSegments_spec {amount : UInt64}
    (hq : WindowShape cfg t tenant.windowQueue) :
    WindowShape cfg t
        (removeFromOldestSegments (buildLoadRequest cfg t load) amount tenant).windowQueue ∧
      (removeFromOldestSegments (buildLoadRequest cfg t load) amount tenant).windowTotal -
          ((removeFromOldestSegments (buildLoadRequest cfg t load) amount tenant).windowQueue.map
            (·.value)).sum =
        tenant.windowTotal - (tenant.windowQueue.map (·.value)).sum := by
  obtain ⟨hsuf, hdrift⟩ := removeOldest_spec tenant.windowQueue.reverse amount tenant.windowTotal
  unfold removeFromOldestSegments
  generalize removeOldest tenant.windowQueue.reverse amount tenant.windowTotal = r at hsuf hdrift
  obtain ⟨oldestFirst, rest, total⟩ := r
  dsimp only at hsuf hdrift ⊢
  rw [List.map_reverse, List.sum_reverse] at hdrift
  split
  · rename_i he
    subst he
    exact ⟨windowShape_singleton cfg t 0, by simpa using hdrift⟩
  · rename_i hne
    refine ⟨hq.of_starts_prefix ?_ (by simpa using hne), by
      rw [List.map_reverse, List.sum_reverse]; exact hdrift⟩
    have := List.reverse_prefix.mpr hsuf
    rwa [List.map_reverse, List.reverse_reverse, ← List.map_reverse] at this

theorem applyCapping_spec (hq : WindowShape cfg t tenant.windowQueue) :
    WindowShape cfg t (applyCapping cfg (buildLoadRequest cfg t load) tenant).windowQueue ∧
      (applyCapping cfg (buildLoadRequest cfg t load) tenant).windowTotal -
          ((applyCapping cfg (buildLoadRequest cfg t load) tenant).windowQueue.map
            (·.value)).sum =
        tenant.windowTotal - (tenant.windowQueue.map (·.value)).sum := by
  unfold applyCapping
  split_ifs
  · exact ⟨hq, rfl⟩
  · exact removeFromOldestSegments_spec hq
  · exact ⟨hq, rfl⟩

end Spec

end LoadLimiter
