import LoadLimiter.Core.Invariant

/-! # What moves the version

`markDirty` is the only writer of `Version`. `rotateWindow` calls it once when it pushes a
front segment, evicts or puts load back, `acceptLoad` always, and `rejectLoad` when it enters
the overload status or adds a penalty. On a queue with no segment ahead of the request's
segment start `S`, every other path of a call leaves the tenant exactly as it was, so a
`Submit` either changes nothing or raises the version by one or two. The sync transaction
writes a tenant back exactly when its version grew, so this is what makes the writes carry
every change.
-/

namespace LoadLimiter

variable {cfg : EffectiveConfig}

/-! ## The window functions -/

theorem distributePenalty_version {req : SubmitRequest} {amount N : UInt64}
    {tenant tenant' : TenantData} (h : distributePenalty cfg req amount N tenant = .ok tenant') :
    tenant'.version = tenant.version := by
  unfold distributePenalty at h
  split at h
  · cases h
    rfl
  split at h
  · cases h
  simp only [bind, Except.bind] at h
  split at h
  · cases h
  · cases h
    rfl

theorem popFutureSegments_of_head_le {S restore total : UInt64} {queue : List WindowSegment}
    (h : ∀ x ∈ queue.head?, x.startTime ≤ S) :
    popFutureSegments S queue restore total = (queue, restore, total) := by
  cases queue with
  | nil => rfl
  | cons x rest => simp only [popFutureSegments, if_pos (h x rfl)]

theorem ensureFrontSegment_of_not_pushed {S : UInt64} {queue queue' : List WindowSegment}
    (h : ensureFrontSegment S queue = (queue', false)) : queue' = queue := by
  cases queue with
  | nil => cases h
  | cons x rest =>
      by_cases hx : x.startTime = S
      · simp only [ensureFrontSegment, if_pos hx, Prod.mk.injEq] at h
        exact h.1.symm
      · simp [ensureFrontSegment, hx] at h

theorem evictOldSegments_of_length_le {removeBefore total total' : UInt64}
    {oldestFirst rest : List WindowSegment}
    (h : evictOldSegments removeBefore oldestFirst total = (rest, total'))
    (hlen : oldestFirst.length ≤ rest.length) : rest = oldestFirst ∧ total' = total := by
  rw [evictOldSegments_eq] at h
  obtain ⟨rfl, rfl⟩ := Prod.mk.inj h
  have hsplit := List.takeWhile_append_dropWhile
    (fun s => decide (s.startTime.toNat ≤ removeBefore.toNat)) oldestFirst
  have hlen' := congrArg List.length hsplit
  rw [List.length_append] at hlen'
  have hnil : oldestFirst.takeWhile (fun s => decide (s.startTime.toNat ≤ removeBefore.toNat)) =
      [] := List.length_eq_zero.mp (by omega)
  rw [hnil, List.nil_append] at hsplit
  rw [hnil, hsplit]
  exact ⟨rfl, by simp⟩

theorem evictStep_of_not_evicted {removeBefore total total' : UInt64}
    {queue queue' : List WindowSegment}
    (h : evictStep removeBefore queue total = (queue', total', false)) :
    queue' = queue ∧ total' = total := by
  unfold evictStep at h
  split at h
  · generalize he : evictOldSegments removeBefore queue.reverse total = res at h
    obtain ⟨oldestFirst, tot⟩ := res
    simp only [Prod.mk.injEq] at h
    obtain ⟨rfl, rfl, hlt⟩ := h
    have hlen : queue.reverse.length ≤ oldestFirst.length := by
      rw [List.length_reverse]
      simpa using hlt
    obtain ⟨rfl, rfl⟩ := evictOldSegments_of_length_le he hlen
    exact ⟨List.reverse_reverse _, rfl⟩
  · simp only [Prod.mk.injEq] at h
    exact ⟨h.1.symm, h.2.1.symm⟩

theorem rotateWindow_version {req : SubmitRequest} {tenant tenant' : TenantData}
    (hfront : ∀ x ∈ tenant.windowQueue.head?, x.startTime ≤ req.requestSegmentStartTime)
    (h : rotateWindow cfg req tenant = .ok tenant') :
    tenant' = tenant ∨ tenant'.version = tenant.version + 1 := by
  rw [rotateWindow_eq_full] at h
  split at h
  · exact .inl (Except.ok.inj h).symm
  rcases hf : ensureFrontSegment req.requestSegmentStartTime tenant.windowQueue with
    ⟨queue1, pushed⟩
  rcases he : evictStep (req.requestedTimestamp - cfg.windowSize) queue1 tenant.windowTotal with
    ⟨queue2, total, evicted⟩
  have h00 : ¬(0 : UInt64) < 0 := by decide
  simp only [rotateWindowFull, popFutureSegments_of_head_le hfront, hf, he, h00, if_false,
    decide_False, Bool.or_false, pure_bind] at h
  simp only [pure, Except.pure, Except.ok.injEq] at h
  subst h
  cases pushed
  · cases evicted
    · rw [ensureFrontSegment_of_not_pushed hf] at he
      obtain ⟨rfl, rfl⟩ := evictStep_of_not_evicted he
      exact .inl rfl
    · exact .inr rfl
  · exact .inr rfl

theorem acceptLoad_version {req : SubmitRequest} {tenant tenant' : TenantData}
    (h : acceptLoad cfg req tenant = .ok tenant') : tenant'.version = tenant.version + 1 := by
  unfold acceptLoad at h
  split at h
  · cases h
  · cases h
    simp only [markDirty_version, applyCapping_version]

theorem rejectPenalty_version {req : SubmitRequest} {tenant tenant' : TenantData}
    {someAdded dirty : Bool}
    (h : rejectPenalty cfg req tenant = .ok (tenant', someAdded, dirty)) :
    tenant'.version = tenant.version ∧ (dirty = false → tenant' = tenant ∧ someAdded = false) := by
  unfold rejectPenalty at h
  split at h
  · split at h
    · cases hd : distributePenalty cfg req cfg.absoluteOverstepPenalty
          cfg.overstepPenaltySegmentSpan tenant with
      | error => rw [hd] at h; cases h
      | ok tenant1 =>
          rw [hd] at h
          cases h
          exact ⟨(distributePenalty_version hd : tenant1.version = _), fun h => by cases h⟩
    · cases h
      exact ⟨rfl, fun h => by cases h⟩
  · split at h
    · split at h
      · rename_i penalty _
        cases hd : distributePenalty cfg req penalty cfg.requestOverheadPenaltySegmentSpan
            tenant with
        | error => rw [hd] at h; cases h
        | ok tenant1 =>
            rw [hd] at h
            cases h
            exact ⟨distributePenalty_version hd, fun h => by cases h⟩
      · cases h
        exact ⟨rfl, fun _ => ⟨rfl, rfl⟩⟩
    · cases h
      exact ⟨rfl, fun _ => ⟨rfl, rfl⟩⟩

theorem rejectLoad_version {req : SubmitRequest} {tenant tenant' : TenantData}
    {result : SubmitResult} (h : rejectLoad cfg req tenant = .ok (tenant', result)) :
    tenant' = tenant ∨ tenant'.version = tenant.version + 1 := by
  cases hp : rejectPenalty cfg req tenant with
  | error => simp [rejectLoad, hp, bind, Except.bind] at h
  | ok res =>
      obtain ⟨tenant1, someAdded, dirty⟩ := res
      obtain ⟨hv, hclean⟩ := rejectPenalty_version hp
      rw [rejectLoad_eq hp] at h
      dsimp only at h
      cases hr : rejectResult cfg req
          (if dirty = true then markDirty (if someAdded = true then applyCapping cfg req tenant1
            else tenant1)
          else if someAdded = true then applyCapping cfg req tenant1 else tenant1) with
      | error => simp [hr, bind, Except.bind] at h
      | ok r =>
          simp only [hr, bind, Except.bind, pure, Except.pure, Except.ok.injEq,
            Prod.mk.injEq] at h
          obtain ⟨rfl, -⟩ := h
          cases dirty
          · obtain ⟨rfl, rfl⟩ := hclean rfl
            exact .inl rfl
          · right
            cases someAdded <;> simp [hv]

/-! ## A submit -/

theorem Submit_version {t load : UInt64} {tenant tenant' : TenantData} {result : SubmitResult}
    (hfront : ∀ x ∈ tenant.windowQueue.head?, x.startTime ≤ locateSegmentStartTime cfg t)
    (h : Submit cfg t load tenant = .ok (tenant', result)) :
    tenant' = tenant ∨ tenant'.version = tenant.version + 1 ∨
      tenant'.version = tenant.version + 2 := by
  cases hrot : rotateWindow cfg (buildLoadRequest cfg t load) tenant with
  | error => simp [Submit, probe, hrot, bind, Except.bind] at h
  | ok tenant1 =>
      have h1 := rotateWindow_version hfront hrot
      rw [Submit_eq hrot] at h
      split at h
      · cases hacc : acceptLoad cfg (buildLoadRequest cfg t load) tenant1 with
        | error => simp [hacc, bind, Except.bind] at h
        | ok tenant2 =>
            simp only [hacc, bind, Except.bind, pure, Except.pure, Except.ok.injEq,
              Prod.mk.injEq] at h
            obtain ⟨rfl, -⟩ := h
            rw [acceptLoad_version hacc]
            rcases h1 with rfl | h1
            · exact .inr (.inl rfl)
            · rw [h1, add_assoc]
              exact .inr (.inr rfl)
      · rcases rejectLoad_version h with rfl | h2 <;> rcases h1 with rfl | h1
        · exact .inl rfl
        · exact .inr (.inl h1)
        · exact .inr (.inl h2)
        · rw [h2, h1, add_assoc]
          exact .inr (.inr rfl)

theorem Probe_version {t load : UInt64} {tenant tenant' : TenantData} {admissible : Bool}
    (hfront : ∀ x ∈ tenant.windowQueue.head?, x.startTime ≤ locateSegmentStartTime cfg t)
    (h : Probe cfg t load tenant = .ok (tenant', admissible)) :
    tenant' = tenant ∨ tenant'.version = tenant.version + 1 := by
  cases hrot : rotateWindow cfg (buildLoadRequest cfg t load) tenant with
  | error => simp [Probe, probe, hrot, bind, Except.bind] at h
  | ok tenant1 =>
      rw [Probe, probe_eq hrot, Except.ok.injEq, Prod.mk.injEq] at h
      obtain ⟨rfl, -⟩ := h
      exact rotateWindow_version hfront hrot

theorem eq_or_version_lt {tenant tenant' : TenantData} (hv : tenant.version.toNat + 2 < 2 ^ 64)
    (h : tenant' = tenant ∨ tenant'.version = tenant.version + 1 ∨
      tenant'.version = tenant.version + 2) :
    tenant' = tenant ∨ tenant.version < tenant'.version := by
  have h2 : (2 : UInt64).toNat = 2 := rfl
  rcases h with h | h | h
  · exact .inl h
  · rw [h, u64_lt_iff, u64_toNat_add_of_lt (by rw [u64_toNat_one]; omega), u64_toNat_one]
    exact .inr (Nat.lt_succ_self _)
  · rw [h, u64_lt_iff, u64_toNat_add_of_lt (by rw [h2]; omega), h2]
    exact .inr (by omega)

theorem Submit_eq_or_version_lt {t load : UInt64} {tenant tenant' : TenantData}
    {result : SubmitResult}
    (hfront : ∀ x ∈ tenant.windowQueue.head?, x.startTime ≤ locateSegmentStartTime cfg t)
    (hv : tenant.version.toNat + 2 < 2 ^ 64)
    (h : Submit cfg t load tenant = .ok (tenant', result)) :
    tenant' = tenant ∨ tenant.version < tenant'.version :=
  eq_or_version_lt hv (Submit_version hfront h)

/-! ## Calls in timestamp order -/

theorem Reachable.head_le {last : Option UInt64} {tenant : TenantData} {t : UInt64}
    (h : Reachable cfg last tenant) (ht : ∀ l, last = some l → l.toNat ≤ t.toNat) :
    ∀ x ∈ tenant.windowQueue.head?, x.startTime ≤ locateSegmentStartTime cfg t := by
  cases last with
  | none =>
      cases h
      intro x hx
      cases hx
  | some l =>
      obtain ⟨value, rest, hq⟩ := h.settled.shape.front
      intro x hx
      rw [hq] at hx
      cases hx
      rw [u64_le_iff, locateSegmentStartTime_toNat, locateSegmentStartTime_toNat]
      exact Nat.mul_le_mul_right _ (Nat.div_le_div_right (ht l rfl))

/-- With no segment ahead of the call's `S`, a call leaves the tenant as it was or raises its
version by one or two. -/
theorem step_version {tenant tenant' : TenantData} {c : Call} {result : CallResult}
    (hfront : ∀ x ∈ tenant.windowQueue.head?, x.startTime ≤ locateSegmentStartTime cfg c.timestamp)
    (h : step cfg c tenant = .ok (tenant', result)) :
    tenant' = tenant ∨ tenant'.version = tenant.version + 1 ∨
      tenant'.version = tenant.version + 2 := by
  cases c with
  | probe t load =>
      cases hp : Probe cfg t load tenant with
      | error => simp [step, hp, bind, Except.bind] at h
      | ok r =>
          simp only [step, hp, bind, Except.bind, pure, Except.pure, Except.ok.injEq,
            Prod.mk.injEq] at h
          obtain ⟨rfl, -⟩ := h
          exact (Probe_version hfront hp).imp_right .inl
  | submit t load =>
      cases hs : Submit cfg t load tenant with
      | error => simp [step, hs, bind, Except.bind] at h
      | ok r =>
          simp only [step, hs, bind, Except.bind, pure, Except.pure, Except.ok.injEq,
            Prod.mk.injEq] at h
          obtain ⟨rfl, -⟩ := h
          exact Submit_version hfront hs

/-- Over calls in timestamp order, every call either leaves the tenant as it was or raises
its version by one or two: no call changes the tenant without marking it. -/
theorem step_version_of_ordered {last : Option UInt64} {tenant tenant' : TenantData} {c : Call}
    {result : CallResult} (hr : Reachable cfg last tenant)
    (ht : ∀ l, last = some l → l.toNat ≤ c.timestamp.toNat)
    (h : step cfg c tenant = .ok (tenant', result)) :
    tenant' = tenant ∨ tenant'.version = tenant.version + 1 ∨
      tenant'.version = tenant.version + 2 :=
  step_version (hr.head_le ht) h

/-- A `Submit` of 20 at 1001000 after an accepted 10 at 1000000 on the default test
instance: a new front segment and an accepted load, two marks. -/
theorem step_version_of_ordered_second_submit :
    (⟨[⟨1001000, 20⟩, ⟨1000000, 10⟩], false, 30, 5⟩ : TenantData) = ⟨[⟨1000000, 10⟩], false, 10, 3⟩ ∨
      (5 : UInt64) = 3 + 1 ∨ (5 : UInt64) = 3 + 2 :=
  @step_version_of_ordered defaultInstanceConfig (some 1000000) ⟨[⟨1000000, 10⟩], false, 10, 3⟩
    ⟨[⟨1001000, 20⟩, ⟨1000000, 10⟩], false, 30, 5⟩ (.submit 1001000 20)
    (.submitted ⟨true, false, 0⟩)
    (@Reachable.call defaultInstanceConfig none newTenantData _ (.submit 1000000 10)
      (.submitted ⟨true, false, 0⟩) .fresh (by decide) rfl)
    (fun l hl => by cases hl; decide) rfl

end LoadLimiter
