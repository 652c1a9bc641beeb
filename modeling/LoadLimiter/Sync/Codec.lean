import Mathlib.Data.UInt
import LoadLimiter.Window.State

/-! # The serialization codec

`serializeStatus` and `restoreSerializedStatus` of `synchronization.go`, the `v1` text a sync
adapter stores per tenant:

    v1/<Version>/<WindowTotal>/<WasOver 0|1>/<start>:<value>,<start>:<value>,...

A Go string is a list of characters here (the payload is ASCII). `%d` of a `uint64` is
`Nat.toDigits 10`, `strings.Split` on a one-character separator is `stringsSplit`, and
`strconv.Atoi` is `atoi`: an optional sign, then decimal digits, in the 64-bit `int` range.

`restoreSerializedStatus` writes through the tenant pointer and may stop half way: the queue
is cleared before the segments are parsed, and the other fields are only written at the end.
It returns the tenant as the function leaves it together with the returned `error`.
-/

namespace LoadLimiter

/-! ## String primitives -/

/-- `fmt.Sprintf("%d", n)` for a `uint64`. -/
def formatUint (n : UInt64) : List Char := Nat.toDigits 10 n.toNat

/-- `strings.Split(s, sep)` for a one-character separator: the pieces between separators,
`[""]` for the empty string. -/
def stringsSplit (sep : Char) : List Char → List (List Char)
  | [] => [[]]
  | c :: cs =>
      if c = sep then [] :: stringsSplit sep cs
      else match stringsSplit sep cs with
        | [] => [[c]]
        | piece :: pieces => (c :: piece) :: pieces

/-- `strings.TrimRight(s, cutset)` for a one-character cutset. -/
def trimRight (cut : Char) (s : List Char) : List Char :=
  (s.reverse.dropWhile (· = cut)).reverse

/-- The `Err` of a `strconv.NumError`. -/
inductive NumError where
  | errSyntax
  | errRange
deriving DecidableEq, Repr

/-- The digit loop of the fast path of `strconv.Atoi`, from the accumulated value `acc`. -/
def parseDigits : List Char → Nat → Option Nat
  | [], acc => some acc
  | c :: cs, acc => if c.isDigit then parseDigits cs (10 * acc + (c.toNat - 48)) else none

/-- The digit loop of `strconv.ParseUint` in base 10, from the accumulated value `n`: a syntax
error at a non-digit, a range error as soon as the value passes `2^64 - 1`. -/
def parseUint : List Char → Nat → Except NumError Nat
  | [], n => .ok n
  | c :: cs, n =>
      if c.isDigit then
        if 2 ^ 64 ≤ 10 * n + (c.toNat - 48) then .error .errRange
        else parseUint cs (10 * n + (c.toNat - 48))
      else .error .errSyntax

/-- `strconv.Atoi` on a 64-bit platform: below 19 characters its fast path, else
`ParseInt(s, 10, 0)`, which reads the digits with `ParseUint` and then checks the `int64`
range. -/
def atoi (s : List Char) : Except NumError Int :=
  let neg := s.head? = some '-'
  let digits := if s.head? = some '-' ∨ s.head? = some '+' then s.tail else s
  if digits = [] then .error .errSyntax
  else if s.length < 19 then
    match parseDigits digits 0 with
    | none => .error .errSyntax
    | some n => .ok (if neg then -n else n)
  else match parseUint digits 0 with
    | .error err => .error err
    | .ok n =>
        let z : Int := if neg then -n else n
        if -2 ^ 63 ≤ z ∧ z < 2 ^ 63 then .ok z else .error .errRange

/-- `uint64(x)` for an `int`: two's complement. -/
def intToUint64 (z : Int) : UInt64 := UInt64.ofNat (z % 2 ^ 64).toNat

/-! ## Encoder -/

/-- The segment loop of `serializeStatus`: `"<start>:<value>,"` per segment, front first. -/
def segmentsString : List WindowSegment → List Char
  | [] => []
  | seg :: rest => formatUint seg.startTime ++ ':' :: formatUint seg.value ++ ',' :: segmentsString rest

/-- The `segstr` of `serializeStatus`: the loop's text, its trailing comma trimmed. -/
def serializeSegments (queue : List WindowSegment) : List Char :=
  let segstr := segmentsString queue
  if 0 < queue.length then trimRight ',' segstr else segstr

def serializeStatus (tenant : TenantData) : List Char :=
  let out := ['v', '1', '/'] ++ formatUint tenant.version ++ ['/'] ++
    formatUint tenant.windowTotal ++ ['/']
  let out := out ++ (if tenant.wasOver then ['1'] else ['0'])
  let out := out ++ ['/']
  out ++ serializeSegments tenant.windowQueue

/-! ## Decoder -/

/-- The errors `restoreSerializedStatus` returns, with the data their texts format. -/
inductive RestoreError where
  | notEnoughTokens
  | invalidSerializationVersion (serializationVersion : List Char)
  | invalidNumberOfTokens
  | parseVersion (err : NumError)
  | olderVersion (remoteVersion version : UInt64)
  | parseWindowTotal (err : NumError)
  | invalidSegmentFormat (i : Nat)
  | parseStartTime (i : Nat) (err : NumError)
  | parseValue (i : Nat) (err : NumError)
deriving DecidableEq, Repr

/-- The segment loop of `restoreSerializedStatus`, over the pieces from the last one: the
`i`-th iteration parses one `"<start>:<value>"` and pushes it to the front. -/
def restoreSegments : List (List Char) → Nat → List WindowSegment →
    List WindowSegment × Option RestoreError
  | [], _, q => (q, none)
  | piece :: pieces, i, q =>
      match stringsSplit ':' piece with
      | [start, value] =>
          match atoi start with
          | .error err => (q, some (.parseStartTime i err))
          | .ok remoteStartTime =>
              match atoi value with
              | .error err => (q, some (.parseValue i err))
              | .ok remoteValue =>
                  restoreSegments pieces (i + 1)
                    (⟨intToUint64 remoteStartTime, intToUint64 remoteValue⟩ :: q)
      | _ => (q, some (.invalidSegmentFormat i))

/-- `restoreSerializedStatus`: the tenant as the function leaves it, and its `error`. -/
def restoreSerializedStatus (serialized : List Char) (tenant : TenantData) :
    TenantData × Option RestoreError :=
  match stringsSplit '/' serialized with
  | [] => (tenant, some .notEnoughTokens)
  | serializationVersion :: tokens =>
      if serializationVersion ≠ ['v', '1'] then
        (tenant, some (.invalidSerializationVersion serializationVersion))
      else match tokens with
        | [version, windowTotal, wasOver, segments] =>
            match atoi version with
            | .error err => (tenant, some (.parseVersion err))
            | .ok versionRaw =>
                let remoteVersion := intToUint64 versionRaw
                if tenant.version = remoteVersion then (tenant, none)
                else if remoteVersion < tenant.version then
                  (tenant, some (.olderVersion remoteVersion tenant.version))
                else match atoi windowTotal with
                  | .error err => (tenant, some (.parseWindowTotal err))
                  | .ok windowTotalRaw =>
                      match restoreSegments (stringsSplit ',' segments).reverse 0 [] with
                      | (q, some err) => ({ tenant with windowQueue := q }, some err)
                      | (q, none) =>
                          ({ windowQueue := q, windowTotal := intToUint64 windowTotalRaw,
                             wasOver := decide (wasOver = ['1']), version := remoteVersion },
                           none)
        | _ => (tenant, some .invalidNumberOfTokens)

theorem restoreSerializedStatus_error_eq (serialized : List Char) (tenant : TenantData) :
    (restoreSerializedStatus serialized tenant).2 = none ∨
      ∃ q, (restoreSerializedStatus serialized tenant).1 = { tenant with windowQueue := q } := by
  unfold restoreSerializedStatus
  dsimp only
  repeat' split
  all_goals first | exact .inl rfl | exact .inr ⟨_, rfl⟩

/-! ## Round trip

The decoder reads back what the encoder writes as long as every number is below `2^63`
(the encoder writes `uint64`s, the decoder parses `int`s) and the queue is not empty. -/

theorem digitChar_spec : ∀ d, d < 10 →
    (Nat.digitChar d).isDigit = true ∧ (Nat.digitChar d).toNat - 48 = d := by
  decide

theorem toDigitsCore_zero (n : Nat) (ds : List Char) : Nat.toDigitsCore 10 0 n ds = ds := rfl

theorem toDigitsCore_succ (fuel n : Nat) (ds : List Char) :
    Nat.toDigitsCore 10 (fuel + 1) n ds =
      if n / 10 = 0 then Nat.digitChar (n % 10) :: ds
      else Nat.toDigitsCore 10 fuel (n / 10) (Nat.digitChar (n % 10) :: ds) := rfl

theorem toDigitsCore_append (fuel n : Nat) (ds : List Char) :
    Nat.toDigitsCore 10 fuel n ds = Nat.toDigitsCore 10 fuel n [] ++ ds := by
  induction fuel generalizing n ds with
  | zero => rfl
  | succ fuel ih =>
      simp only [toDigitsCore_succ]
      split
      · rfl
      · rw [ih, ih (n / 10) [_], List.append_assoc, List.singleton_append]

theorem toDigitsCore_isDigit (fuel n : Nat) :
    ∀ c ∈ Nat.toDigitsCore 10 fuel n [], c.isDigit = true := by
  induction fuel generalizing n with
  | zero => simp [toDigitsCore_zero]
  | succ fuel ih =>
      have hd := (digitChar_spec (n % 10) (Nat.mod_lt _ (by decide))).1
      simp only [toDigitsCore_succ]
      split
      · simpa using hd
      · rw [toDigitsCore_append]
        intro c hc
        rcases List.mem_append.mp hc with hc | hc
        · exact ih _ c hc
        · rw [List.mem_singleton.mp hc]
          exact hd

theorem parseDigits_append (xs ys : List Char) (acc : Nat) :
    parseDigits (xs ++ ys) acc = (parseDigits xs acc).bind (parseDigits ys) := by
  induction xs generalizing acc with
  | nil => rfl
  | cons c cs ih =>
      simp only [List.cons_append, parseDigits]
      split
      · exact ih _
      · rfl

theorem parseDigits_toDigitsCore (fuel n : Nat) (h : n < fuel) :
    parseDigits (Nat.toDigitsCore 10 fuel n []) 0 = some n := by
  induction fuel generalizing n with
  | zero => omega
  | succ fuel ih =>
      obtain ⟨hd, hv⟩ := digitChar_spec (n % 10) (Nat.mod_lt _ (by decide))
      simp only [toDigitsCore_succ]
      split
      · simp only [parseDigits, hd, hv, if_true, Option.some.injEq]
        omega
      · rw [toDigitsCore_append, parseDigits_append, ih (n / 10) (by omega)]
        simp only [parseDigits, hd, hv, if_true, Option.some_bind, Option.some.injEq]
        omega

theorem formatUint_isDigit (n : UInt64) : ∀ c ∈ formatUint n, c.isDigit = true :=
  toDigitsCore_isDigit _ _

theorem formatUint_ne_nil (n : UInt64) : formatUint n ≠ [] := by
  unfold formatUint Nat.toDigits
  simp only [toDigitsCore_succ]
  split
  · exact List.cons_ne_nil _ _
  · rw [toDigitsCore_append]
    simp

theorem not_mem_formatUint (c : Char) (hc : c.isDigit = false) (n : UInt64) :
    c ∉ formatUint n := fun h => by
  rw [formatUint_isDigit n c h] at hc
  cases hc

theorem le_of_parseDigits : ∀ {cs : List Char} {acc n : Nat}, parseDigits cs acc = some n → acc ≤ n
  | [], _, _, h => by cases h; exact le_rfl
  | c :: cs, acc, n, h => by
      rw [parseDigits] at h
      split at h
      · have := le_of_parseDigits h
        omega
      · cases h

/-- Digits whose value stays below `2^64` read the same on both paths of `strconv.Atoi`. -/
theorem parseUint_of_parseDigits :
    ∀ {cs : List Char} {acc n : Nat}, parseDigits cs acc = some n → n < 2 ^ 64 →
      parseUint cs acc = .ok n
  | [], _, _, h, _ => by cases h; rfl
  | c :: cs, acc, n, h, hn => by
      rw [parseDigits] at h
      split at h
      · rename_i hc
        have := le_of_parseDigits h
        rw [parseUint, if_pos hc, if_neg (by omega)]
        exact parseUint_of_parseDigits h hn
      · cases h

theorem atoi_formatUint {n : UInt64} (h : n.toNat < 2 ^ 63) :
    atoi (formatUint n) = .ok n.toNat := by
  obtain ⟨c, rest, hcr⟩ := List.exists_cons_of_ne_nil (formatUint_ne_nil n)
  have hc : c.isDigit = true := formatUint_isDigit n c (by rw [hcr]; exact List.mem_cons_self _ _)
  have hm : c ≠ '-' := by rintro rfl; cases hc
  have hp : c ≠ '+' := by rintro rfl; cases hc
  have hparse : parseDigits (formatUint n) 0 = some n.toNat :=
    parseDigits_toDigitsCore _ _ (Nat.lt_succ_self _)
  rw [hcr] at hparse
  simp only [atoi, hcr, List.head?_cons, Option.some.injEq, hm, hp, or_self, if_false,
    List.cons_ne_nil]
  split_ifs
  · rw [hparse]
  · rw [parseUint_of_parseDigits hparse (by omega)]
    exact if_pos (by omega)

theorem intToUint64_toNat (n : UInt64) : intToUint64 (n.toNat : Int) = n := by
  have hn := u64_toNat_lt n
  rw [intToUint64, Int.emod_eq_of_lt (by omega) (by omega), Int.toNat_ofNat, u64_eq_iff,
    u64_toNat_ofNat_of_lt hn]

theorem stringsSplit_of_not_mem {sep : Char} :
    ∀ {a : List Char}, sep ∉ a → stringsSplit sep a = [a]
  | [], _ => rfl
  | c :: cs, h => by
      rw [stringsSplit, if_neg fun he => h (by subst he; exact List.mem_cons_self _ _),
        stringsSplit_of_not_mem fun hm => h (List.mem_cons_of_mem _ hm)]

theorem stringsSplit_append_cons {sep : Char} {b : List Char} :
    ∀ {a : List Char}, sep ∉ a → stringsSplit sep (a ++ sep :: b) = a :: stringsSplit sep b
  | [], _ => by simp [stringsSplit]
  | c :: cs, h => by
      rw [List.cons_append, stringsSplit, if_neg fun he => h (by subst he; exact List.mem_cons_self _ _),
        stringsSplit_append_cons fun hm => h (List.mem_cons_of_mem _ hm)]

theorem trimRight_append {cut : Char} {a b : List Char} (h : ∃ x ∈ b, x ≠ cut) :
    trimRight cut (a ++ b) = a ++ trimRight cut b := by
  have hb : (b.reverse.dropWhile (· = cut)).isEmpty = false := by
    obtain ⟨x, hx, hne⟩ := h
    refine List.isEmpty_eq_false.mpr fun he => hne ?_
    simpa using List.dropWhile_eq_nil_iff.mp he x (List.mem_reverse.mpr hx)
  simp only [trimRight, List.reverse_append, List.dropWhile_append, hb, Bool.false_eq_true,
    if_false, List.reverse_reverse]

def segmentText (seg : WindowSegment) : List Char :=
  formatUint seg.startTime ++ ':' :: formatUint seg.value

theorem segmentsString_cons (seg : WindowSegment) (rest : List WindowSegment) :
    segmentsString (seg :: rest) = segmentText seg ++ ',' :: segmentsString rest := by
  simp [segmentsString, segmentText]

theorem mem_segmentsString {c : Char} :
    ∀ {queue : List WindowSegment}, c ∈ segmentsString queue →
      c.isDigit = true ∨ c = ':' ∨ c = ','
  | [], h => absurd h (List.not_mem_nil _)
  | seg :: rest, h => by
      rw [segmentsString_cons, segmentText] at h
      simp only [List.mem_append, List.mem_cons] at h
      rcases h with (h | rfl | h) | rfl | h
      · exact .inl (formatUint_isDigit _ c h)
      · exact .inr (.inl rfl)
      · exact .inl (formatUint_isDigit _ c h)
      · exact .inr (.inr rfl)
      · exact mem_segmentsString h

theorem mem_of_mem_trimRight {cut c : Char} {s : List Char} (h : c ∈ trimRight cut s) : c ∈ s :=
  List.mem_reverse.mp ((List.dropWhile_sublist _).subset (List.mem_reverse.mp h))

theorem stringsSplit_segmentText (seg : WindowSegment) :
    stringsSplit ':' (segmentText seg) = [formatUint seg.startTime, formatUint seg.value] := by
  rw [segmentText, stringsSplit_append_cons (not_mem_formatUint ':' rfl _),
    stringsSplit_of_not_mem (not_mem_formatUint ':' rfl _)]

theorem comma_not_mem_segmentText (seg : WindowSegment) : ',' ∉ segmentText seg := by
  simp only [segmentText, List.mem_append, List.mem_cons, not_or]
  exact ⟨not_mem_formatUint ',' rfl _, by decide, not_mem_formatUint ',' rfl _⟩

theorem trimRight_formatUint_append (a : List Char) (n : UInt64) :
    trimRight ',' (a ++ formatUint n ++ [',']) = a ++ formatUint n := by
  obtain h | ⟨l, d, hl⟩ := List.eq_nil_or_concat (formatUint n)
  · exact absurd h (formatUint_ne_nil n)
  · have hd : d ≠ ',' := fun he => not_mem_formatUint ',' rfl n (by simp [hl, he])
    simp [trimRight, hl, hd]

theorem exists_ne_comma_segmentsString {seg : WindowSegment} {rest : List WindowSegment} :
    ∃ x ∈ segmentsString (seg :: rest), x ≠ ',' := by
  obtain ⟨x, hx⟩ := List.exists_mem_of_ne_nil _ (formatUint_ne_nil seg.startTime)
  refine ⟨x, by rw [segmentsString_cons, segmentText]; simp [hx], fun he => ?_⟩
  exact not_mem_formatUint ',' rfl seg.startTime (he ▸ hx)

theorem stringsSplit_serializeSegments :
    ∀ {queue : List WindowSegment}, queue ≠ [] →
      stringsSplit ',' (serializeSegments queue) = queue.map segmentText
  | [], h => absurd rfl h
  | [seg], _ => by
      have h : segmentsString [seg] = formatUint seg.startTime ++ [':'] ++ formatUint seg.value ++ [','] := by
        simp [segmentsString]
      simp only [serializeSegments, List.length_singleton, Nat.zero_lt_one, if_true]
      rw [h, trimRight_formatUint_append, stringsSplit_of_not_mem]
      · simp [segmentText]
      · simpa [segmentText] using comma_not_mem_segmentText seg
  | seg :: seg' :: rest, _ => by
      have ih := @stringsSplit_serializeSegments (seg' :: rest) (List.cons_ne_nil _ _)
      simp only [serializeSegments, List.length_cons, Nat.zero_lt_succ, if_true] at ih ⊢
      rw [segmentsString_cons, ← List.singleton_append, ← List.append_assoc,
        trimRight_append exists_ne_comma_segmentsString, List.append_assoc, List.singleton_append,
        stringsSplit_append_cons (comma_not_mem_segmentText seg), ih]
      rfl

theorem not_mem_serializeSegments (c : Char) (hd : c.isDigit = false) (hc : c ≠ ':')
    (hm : c ≠ ',') (queue : List WindowSegment) : c ∉ serializeSegments queue := fun h => by
  have h' : c ∈ segmentsString queue := by
    unfold serializeSegments at h
    split at h
    · exact mem_of_mem_trimRight h
    · exact h
  rcases mem_segmentsString h' with h | h | h
  · rw [hd] at h
    cases h
  · exact hc h
  · exact hm h

theorem stringsSplit_serializeStatus (tenant : TenantData) :
    stringsSplit '/' (serializeStatus tenant) =
      [['v', '1'], formatUint tenant.version, formatUint tenant.windowTotal,
        if tenant.wasOver then ['1'] else ['0'], serializeSegments tenant.windowQueue] := by
  have hflag : '/' ∉ (if tenant.wasOver then ['1'] else ['0']) := by split <;> decide
  have h : serializeStatus tenant = ['v', '1'] ++ '/' :: (formatUint tenant.version ++ '/' ::
      (formatUint tenant.windowTotal ++ '/' :: ((if tenant.wasOver then ['1'] else ['0']) ++
        '/' :: serializeSegments tenant.windowQueue))) := by
    simp [serializeStatus]
  rw [h, stringsSplit_append_cons (by decide),
    stringsSplit_append_cons (not_mem_formatUint '/' rfl _),
    stringsSplit_append_cons (not_mem_formatUint '/' rfl _), stringsSplit_append_cons hflag,
    stringsSplit_of_not_mem (not_mem_serializeSegments '/' rfl (by decide) (by decide) _)]

theorem restoreSegments_map_segmentText :
    ∀ {queue : List WindowSegment},
      (∀ seg ∈ queue, seg.startTime.toNat < 2 ^ 63 ∧ seg.value.toNat < 2 ^ 63) →
      ∀ (i : Nat) (q : List WindowSegment),
        restoreSegments (queue.map segmentText) i q = (queue.reverse ++ q, none)
  | [], _, _, _ => rfl
  | seg :: rest, h, i, q => by
      obtain ⟨hs, hv⟩ := h seg (List.mem_cons_self _ _)
      rw [List.map_cons, restoreSegments, stringsSplit_segmentText]
      simp only [atoi_formatUint hs, atoi_formatUint hv, intToUint64_toNat]
      rw [restoreSegments_map_segmentText (fun x hx => h x (List.mem_cons_of_mem _ hx)),
        List.reverse_cons, List.append_assoc, List.singleton_append]

/-- Every number of the state below `2^63`, the range `strconv.Atoi` reads back. -/
def FitsInt (tenant : TenantData) : Prop :=
  tenant.version.toNat < 2 ^ 63 ∧ tenant.windowTotal.toNat < 2 ^ 63 ∧
    ∀ seg ∈ tenant.windowQueue, seg.startTime.toNat < 2 ^ 63 ∧ seg.value.toNat < 2 ^ 63

instance : DecidablePred FitsInt := fun tenant =>
  inferInstanceAs (Decidable (tenant.version.toNat < 2 ^ 63 ∧ tenant.windowTotal.toNat < 2 ^ 63 ∧
    ∀ seg ∈ tenant.windowQueue, seg.startTime.toNat < 2 ^ 63 ∧ seg.value.toNat < 2 ^ 63))

/-- Restoring a serialized state over a tenant with an older version reproduces it, when the
queue is not empty and every number is below `2^63`. -/
theorem restoreSerializedStatus_serializeStatus {tenant tenant₀ : TenantData}
    (hq : tenant.windowQueue ≠ []) (hfit : FitsInt tenant) (hv : tenant₀.version < tenant.version) :
    restoreSerializedStatus (serializeStatus tenant) tenant₀ = (tenant, none) := by
  obtain ⟨hver, htot, hsegs⟩ := hfit
  have hlt := u64_lt_iff.mp hv
  have hne : tenant₀.version ≠ tenant.version := u64_ne_iff.mpr (by omega)
  have hnlt : ¬tenant.version < tenant₀.version := fun h => by have := u64_lt_iff.mp h; omega
  have hseg : restoreSegments (stringsSplit ',' (serializeSegments tenant.windowQueue)).reverse 0 [] =
      (tenant.windowQueue, none) := by
    rw [stringsSplit_serializeSegments hq, ← List.map_reverse,
      restoreSegments_map_segmentText (fun x hx => hsegs x (List.mem_reverse.mp hx)),
      List.reverse_reverse, List.append_nil]
  have hflag : decide ((if tenant.wasOver then ['1'] else ['0']) = ['1']) = tenant.wasOver := by
    cases tenant.wasOver <;> decide
  simp only [restoreSerializedStatus, stringsSplit_serializeStatus, ne_eq, not_true_eq_false,
    if_false, atoi_formatUint hver, atoi_formatUint htot, intToUint64_toNat, hne, hnlt, hseg,
    hflag]

example :
    restoreSerializedStatus (serializeStatus ⟨[⟨1000000, 5⟩], false, 5, 3⟩) newTenantData =
      (⟨[⟨1000000, 5⟩], false, 5, 3⟩, none) := by
  rfl

theorem restoreSerializedStatus_serializeStatus_of_version_eq {tenant tenant₀ : TenantData}
    (hv : tenant₀.version = tenant.version) (hfit : tenant.version.toNat < 2 ^ 63) :
    restoreSerializedStatus (serializeStatus tenant) tenant₀ = (tenant₀, none) := by
  simp only [restoreSerializedStatus, stringsSplit_serializeStatus, ne_eq, not_true_eq_false,
    if_false, atoi_formatUint hfit, intToUint64_toNat, hv, if_true]

example :
    restoreSerializedStatus (serializeStatus ⟨[], false, 0, 1⟩) newTenantData =
      (newTenantData, none) := by
  rfl

/-- An empty queue is encoded as an empty segment list, which the decoder splits into one
empty piece and rejects: the state is not restored, and the local queue is left cleared. -/
theorem restoreSerializedStatus_serializeStatus_empty {tenant tenant₀ : TenantData}
    (hq : tenant.windowQueue = []) (hfit : tenant.version.toNat < 2 ^ 63 ∧ tenant.windowTotal.toNat < 2 ^ 63)
    (hv : tenant₀.version < tenant.version) :
    restoreSerializedStatus (serializeStatus tenant) tenant₀ =
      ({ tenant₀ with windowQueue := [] }, some (.invalidSegmentFormat 0)) := by
  have hlt := u64_lt_iff.mp hv
  have hne : tenant₀.version ≠ tenant.version := u64_ne_iff.mpr (by omega)
  have hnlt : ¬tenant.version < tenant₀.version := fun h => by have := u64_lt_iff.mp h; omega
  have hseg : restoreSegments (stringsSplit ',' (serializeSegments [])).reverse 0 [] =
      ([], some (.invalidSegmentFormat 0)) := rfl
  simp only [restoreSerializedStatus, stringsSplit_serializeStatus, ne_eq, not_true_eq_false,
    if_false, atoi_formatUint hfit.1, atoi_formatUint hfit.2, intToUint64_toNat, hne, hnlt, hq,
    hseg]

/-- A fresh tenant fetching the state of a peer whose window is empty. -/
theorem restoreSerializedStatus_serializeStatus_empty_fresh :
    restoreSerializedStatus (serializeStatus ⟨[], false, 0, 2⟩) newTenantData =
      (newTenantData, some (.invalidSegmentFormat 0)) :=
  restoreSerializedStatus_serializeStatus_empty rfl (by decide) (by decide)

/-- A version of `2^63` or more is written by `%d` but refused by `strconv.Atoi`. -/
example : restoreSerializedStatus (serializeStatus ⟨[⟨1000000, 5⟩], false, 5, 9223372036854775808⟩)
    newTenantData = (newTenantData, some (.parseVersion .errRange)) := by
  decide

/-! ## What the decoder accepts

Past the token count, the numerals and the version order nothing is checked: a signed numeral
wraps to a large word, a flag other than `1` reads as `false`, and neither the total nor the
start times are compared with the segments. -/

def wrappingPayload : List Char := "v1/5/100/2/-1000:-1".toList

theorem restoreSerializedStatus_wrappingPayload :
    restoreSerializedStatus wrappingPayload newTenantData =
      (⟨[⟨18446744073709550616, 18446744073709551615⟩], false, 100, 5⟩, none) := by
  decide

end LoadLimiter
