import LoadLimiter.Window.DistributeSpec
import LoadLimiter.Core.Limiter

/-! # The per-segment ledger

The limiter as its documentation describes it, without a queue: a ledger that never evicts,
holding the load recorded at each aligned segment start. A decision at `t` sums the ledger
over the window's starts `(t - WindowSize, S]`. An accepted load is recorded at `S`; the
`i`-th share of a penalty at `S - i·seg`; capping takes the excess of the window's sum over
`AbsoluteMaxPenaltyCap` from the oldest starts of the window first. Sums are `uint64` sums,
as the limiter's total is.

`validateConfiguration` always enables capping, so the ledger caps unconditionally.
-/

namespace LoadLimiter

/-- The ledger's state: the amount recorded at each start, and the over-limit flag. -/
structure LedgerState where
  ledger : Nat → UInt64
  wasOver : Bool

def LedgerState.fresh : LedgerState := ⟨fun _ => 0, false⟩

def credit (ledger : Nat → UInt64) (start : Nat) (amount : UInt64) : Nat → UInt64 :=
  fun s => if s = start then ledger s + amount else ledger s

/-- An excess taken from `points` in order, each start giving up to its whole amount. -/
def debitOldest : List Nat → UInt64 → (Nat → UInt64) → Nat → UInt64
  | [], _, ledger => ledger
  | s :: rest, amount, ledger =>
      if amount = 0 then ledger
      else if amount ≤ ledger s then Function.update ledger s (ledger s - amount)
      else debitOldest rest (amount - ledger s) (Function.update ledger s 0)

section Operations

variable (cfg : EffectiveConfig)

/-- The load of the window at `t`. -/
def windowSum (t : UInt64) (ledger : Nat → UInt64) : UInt64 :=
  ((windowStarts cfg t).map ledger).sum

/-- A penalty's shares recorded at the latest starts from `S` down. -/
def creditShares (ledger : Nat → UInt64) (S : Nat) (shares : List UInt64) : Nat → UInt64 :=
  fun s => ledger s + shareAt cfg.windowSegmentSize.toNat S shares s

/-- Capping at `t`: the excess over the cap taken from the window's oldest starts first. -/
def capLedger (t : UInt64) (ledger : Nat → UInt64) : Nat → UInt64 :=
  if cfg.absoluteMaxPenaltyCap < windowSum cfg t ledger then
    debitOldest (windowStarts cfg t).reverse
      (windowSum cfg t ledger - cfg.absoluteMaxPenaltyCap) ledger
  else ledger

/-- The penalty of a rejection at `t`: the overstep penalty on the first rejection, the
request-overhead penalty on the next ones; the flag says whether a penalty was added. -/
def ledgerPenalty (t load : UInt64) (st : LedgerState) : LedgerState × Bool :=
  let S := (locateSegmentStartTime cfg t).toNat
  if !st.wasOver then
    if cfg.applyOverstepPenalty then
      (⟨creditShares cfg st.ledger S
        (penaltyShares cfg.absoluteOverstepPenalty cfg.overstepPenaltySegmentSpan), true⟩, true)
    else (⟨st.ledger, true⟩, false)
  else if cfg.applyRequestOverheadPenalty then
    match cfg.requestOverheadPenalty load with
    | some penalty =>
        (⟨creditShares cfg st.ledger S
          (penaltyShares penalty cfg.requestOverheadPenaltySegmentSpan), true⟩, true)
    | none => (st, false)
  else (st, false)

/-- One call on the ledger and its decision: whether a probe admits the load, whether a
submit accepts it. -/
def ledgerStep : Call → LedgerState → LedgerState × Bool
  | .probe t load, st => (st, decide (windowSum cfg t st.ledger + load ≤ cfg.maxLoad))
  | .submit t load, st =>
      if windowSum cfg t st.ledger + load ≤ cfg.maxLoad then
        (⟨capLedger cfg t (credit st.ledger (locateSegmentStartTime cfg t).toNat load), false⟩,
          true)
      else
        let (st, someAdded) := ledgerPenalty cfg t load st
        (if someAdded then ⟨capLedger cfg t st.ledger, st.wasOver⟩ else st, false)

def ledgerRun : List Call → LedgerState → LedgerState × List Bool
  | [], st => (st, [])
  | c :: calls, st =>
      let (st, decision) := ledgerStep cfg c st
      let (st, decisions) := ledgerRun calls st
      (st, decision :: decisions)

end Operations

def CallResult.decision : CallResult → Bool
  | .probed admissible => admissible
  | .submitted result => result.accepted

/-! ## Where the ledger changes -/

theorem debitOldest_of_not_mem {s : Nat} :
    ∀ {points : List Nat} {amount : UInt64} {ledger : Nat → UInt64}, s ∉ points →
      debitOldest points amount ledger s = ledger s
  | [], _, _, _ => rfl
  | p :: rest, amount, ledger, h => by
      have hp : s ≠ p := fun he => h (he ▸ List.mem_cons_self _ _)
      have hrest : s ∉ rest := fun hm => h (List.mem_cons_of_mem _ hm)
      unfold debitOldest
      split
      · rfl
      split
      · exact Function.update_noteq hp _ _
      · rw [debitOldest_of_not_mem hrest, Function.update_noteq hp]

theorem capLedger_of_not_mem (cfg : EffectiveConfig) {t : UInt64} {ledger : Nat → UInt64}
    {s : Nat} (hs : s ∉ windowStarts cfg t) : capLedger cfg t ledger s = ledger s := by
  unfold capLedger
  split
  · exact debitOldest_of_not_mem (fun h => hs (List.mem_reverse.mp h))
  · rfl

end LoadLimiter
