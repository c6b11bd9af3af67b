import Stateform.Core.Stages

/-!
# The retry loop

`send_with_retry`: how long it sleeps between two attempts, and how many attempts it
makes. The jitter is subtracted in wrapping arithmetic and added in saturating
arithmetic, so the sleep is in its window only where the random offset is not below the
quarter it is centred on. Below it the sleep is the longest there is, and the send makes no
further attempt (`retries_iff`).
-/

namespace Stateform

/-! ## The jitter window -/

/-- The backoff in exact arithmetic, capped at `u64::MAX`. -/
def exactBackoff (baseBackoff attempt : ℕ) : ℕ := min (baseBackoff * 2 ^ attempt) (2 ^ 64 - 1)

/-- The quarter the jitter spans to both sides. -/
def jitterQuarter (baseMs : ℕ) : ℕ := max (baseMs / 4) 1

/-- The random offset, before the quarter is subtracted. -/
def jitterOffset (baseMs nanos : ℕ) : ℕ := nanos % (jitterQuarter baseMs * 2)

/-- No step of `sleepMs` leaves the 64 bits: neither the milliseconds of the backoff, the
power, the product, nor the offset, which is a signed number in exact arithmetic. -/
structure StaysInWord (baseBackoff attempt nanos : ℕ) : Prop where
  millis : baseBackoff % 2 ^ 64 = baseBackoff
  power : powU64 2 attempt = .ok (2 ^ attempt)
  product : mulU64 baseBackoff (2 ^ attempt) = .ok (baseBackoff * 2 ^ attempt)
  jitter : (wrappingSub (jitterOffset (baseBackoff * 2 ^ attempt) nanos)
    (jitterQuarter (baseBackoff * 2 ^ attempt)) : ℤ) =
      jitterOffset (baseBackoff * 2 ^ attempt) nanos - jitterQuarter (baseBackoff * 2 ^ attempt)

/-- The sleep is a quarter at most from the exact backoff, saturating at both ends, and
nothing wraps on the way. -/
structure SleepsInWindow (baseBackoff attempt nanos : ℕ) : Prop where
  exact : StaysInWord baseBackoff attempt nanos
  window : ∃ ms, sleepMs baseBackoff attempt nanos = .ok ms ∧
    exactBackoff baseBackoff attempt - jitterQuarter (exactBackoff baseBackoff attempt) ≤ ms ∧
    ms ≤ min (exactBackoff baseBackoff attempt +
      jitterQuarter (exactBackoff baseBackoff attempt)) (2 ^ 64 - 1)

section
variable {baseBackoff attempt nanos : ℕ}

theorem jitterQuarter_pos (baseMs : ℕ) : 0 < jitterQuarter baseMs := by
  unfold jitterQuarter
  omega

/-- An offset below the quarter wraps, and saturates the sum. -/
theorem wrappingSub_of_lt {a b : ℕ} (h : a < b) :
    wrappingSub a b = a + 2 ^ 64 - b := by
  unfold wrappingSub
  omega

theorem wrappingSub_of_le {a b : ℕ} (h : b ≤ a) (ha : a < 2 ^ 64) : wrappingSub a b = a - b := by
  unfold wrappingSub
  omega

/-- The sleep, where neither the power nor the product overflows. -/
theorem sleepMs_eq (hpow : 2 ^ attempt < 2 ^ 64) (hmul : baseBackoff * 2 ^ attempt < 2 ^ 64) :
    sleepMs baseBackoff attempt nanos = .ok (saturatingAdd (baseBackoff * 2 ^ attempt)
      (wrappingSub (jitterOffset (baseBackoff * 2 ^ attempt) nanos)
        (jitterQuarter (baseBackoff * 2 ^ attempt)))) := by
  have hbase : baseBackoff % 2 ^ 64 = baseBackoff := by
    apply Nat.mod_eq_of_lt
    exact lt_of_le_of_lt (Nat.le_mul_of_pos_right _ (Nat.two_pow_pos attempt)) hmul
  have hpowU64 : powU64 2 attempt = .ok (2 ^ attempt) := if_pos hpow
  have hmulU64 : mulU64 (baseBackoff % 2 ^ 64) (2 ^ attempt) = .ok (baseBackoff * 2 ^ attempt) := by
    rw [hbase]
    exact if_pos hmul
  rw [sleepMs, hpowU64]
  simp only [bind, Except.bind]
  rw [hmulU64]
  rfl

theorem jitterQuarter_lt {baseMs : ℕ} (h : baseMs < 2 ^ 64) :
    jitterQuarter baseMs * 2 < 2 ^ 64 := by
  unfold jitterQuarter
  omega

/-- Half of the offsets: the request sleeps for the longest time there is. -/
theorem sleepMs_below_quarter (hpos : 0 < baseBackoff) (hpow : 2 ^ attempt < 2 ^ 64)
    (hmul : baseBackoff * 2 ^ attempt < 2 ^ 64)
    (hbelow : jitterOffset (baseBackoff * 2 ^ attempt) nanos <
      jitterQuarter (baseBackoff * 2 ^ attempt)) :
    sleepMs baseBackoff attempt nanos = .ok (2 ^ 64 - 1) := by
  have hquarter := jitterQuarter_lt hmul
  have hle : jitterQuarter (baseBackoff * 2 ^ attempt) ≤ baseBackoff * 2 ^ attempt := by
    have hbase : 0 < baseBackoff * 2 ^ attempt := Nat.mul_pos hpos (Nat.two_pow_pos attempt)
    unfold jitterQuarter
    omega
  rw [sleepMs_eq hpow hmul, wrappingSub_of_lt hbelow]
  unfold saturatingAdd
  congr 1
  omega

/-- **When the sleep is in its window.** Exactly if the backoff fits in 64 bits and the
offset the clock gives is not below the quarter. -/
theorem sleepMs_in_window_iff (baseBackoff attempt nanos : ℕ) :
    SleepsInWindow baseBackoff attempt nanos ↔
      2 ^ attempt < 2 ^ 64 ∧ baseBackoff * 2 ^ attempt < 2 ^ 64 ∧
        jitterQuarter (baseBackoff * 2 ^ attempt) ≤
          jitterOffset (baseBackoff * 2 ^ attempt) nanos := by
  constructor
  · rintro ⟨hexact, -⟩
    have hpow : 2 ^ attempt < 2 ^ 64 := by
      by_contra hnot
      cases hexact.power.symm.trans (if_neg hnot)
    have hmul : baseBackoff * 2 ^ attempt < 2 ^ 64 := by
      by_contra hnot
      cases hexact.product.symm.trans (if_neg hnot)
    refine ⟨hpow, hmul, ?_⟩
    have hjitter := hexact.jitter
    omega
  · rintro ⟨hpow, hmul, hle⟩
    have hcap : exactBackoff baseBackoff attempt = baseBackoff * 2 ^ attempt := by
      unfold exactBackoff
      omega
    have hquarter := jitterQuarter_lt hmul
    have hlt : jitterOffset (baseBackoff * 2 ^ attempt) nanos <
        jitterQuarter (baseBackoff * 2 ^ attempt) * 2 :=
      Nat.mod_lt _ (Nat.mul_pos (jitterQuarter_pos _) (by decide))
    have hsub := wrappingSub_of_le hle (by omega)
    refine ⟨⟨?_, if_pos hpow, if_pos hmul, ?_⟩, ?_⟩
    · apply Nat.mod_eq_of_lt
      exact lt_of_le_of_lt (Nat.le_mul_of_pos_right _ (Nat.two_pow_pos attempt)) hmul
    · rw [hsub]
      omega
    · refine ⟨_, sleepMs_eq hpow hmul, ?_⟩
      rw [hsub, hcap]
      unfold saturatingAdd
      omega

/-- A backoff of 100 ms, at the start of a second. -/
theorem sleepMs_not_in_window : ¬ SleepsInWindow 100 0 0 := by
  rintro ⟨-, ms, hms, -, hle⟩
  have hmax : sleepMs 100 0 0 = .ok (2 ^ 64 - 1) :=
    sleepMs_below_quarter (by decide) (by decide) (by decide) (by decide)
  obtain rfl : 2 ^ 64 - 1 = ms := Except.ok.inj (hmax.symm.trans hms)
  revert hle
  decide

end

/-! ## Sleeps that end -/

/-- The sleep after an attempt ends: the backoff fits in 64 bits, if the build checks that, the
offset the clock gives is not below the quarter, and the sum does not saturate. -/
structure SleepEnds (profile : Profile) (baseBackoff attempt nanos : ℕ) : Prop where
  fits : profile = .checked → 2 ^ attempt < 2 ^ 64 ∧ baseBackoff % 2 ^ 64 * 2 ^ attempt < 2 ^ 64
  offset : jitterQuarter (wrappedBackoff baseBackoff attempt) ≤
    jitterOffset (wrappedBackoff baseBackoff attempt) nanos
  bounded : wrappedBackoff baseBackoff attempt +
    (jitterOffset (wrappedBackoff baseBackoff attempt) nanos -
      jitterQuarter (wrappedBackoff baseBackoff attempt)) < 2 ^ 64 - 1

section
variable {profile : Profile} {baseBackoff attempt nanos : ℕ}

/-- A build with checks computes what the other does, where it does not panic. -/
theorem sleepMs_eq_wrapping (hpow : 2 ^ attempt < 2 ^ 64)
    (hmul : baseBackoff % 2 ^ 64 * 2 ^ attempt < 2 ^ 64) :
    sleepMs baseBackoff attempt nanos = sleepMsIn .wrapping baseBackoff attempt nanos := by
  have hpowU64 : powU64 2 attempt = .ok (2 ^ attempt) := if_pos hpow
  have hmulU64 : mulU64 (baseBackoff % 2 ^ 64) (2 ^ attempt) =
      .ok (baseBackoff % 2 ^ 64 * 2 ^ attempt) := if_pos hmul
  have hbase : wrappedBackoff baseBackoff attempt = baseBackoff % 2 ^ 64 * 2 ^ attempt := by
    rw [wrappedBackoff, Nat.mod_eq_of_lt hpow, Nat.mod_eq_of_lt hmul]
  rw [sleepMs, hpowU64]
  simp only [bind, Except.bind]
  rw [hmulU64, sleepMsIn, hbase]
  rfl

/-- Without checks the sleep is the longest there is, or it ends. -/
theorem sleepMsIn_wrapping : ∃ ms, sleepMsIn .wrapping baseBackoff attempt nanos = .ok ms ∧
    (ms < 2 ^ 64 - 1 ↔ SleepEnds .wrapping baseBackoff attempt nanos) := by
  refine ⟨_, rfl, ?_⟩
  have hbase : wrappedBackoff baseBackoff attempt < 2 ^ 64 := Nat.mod_lt _ (by decide)
  have hquarter := jitterQuarter_lt hbase
  have hoffset : jitterOffset (wrappedBackoff baseBackoff attempt) nanos <
      jitterQuarter (wrappedBackoff baseBackoff attempt) * 2 :=
    Nat.mod_lt _ (Nat.mul_pos (jitterQuarter_pos _) (by decide))
  have hsmall : jitterQuarter (wrappedBackoff baseBackoff attempt) ≤
      wrappedBackoff baseBackoff attempt + 1 := by
    unfold jitterQuarter
    omega
  show saturatingAdd (wrappedBackoff baseBackoff attempt)
    (wrappingSub (jitterOffset (wrappedBackoff baseBackoff attempt) nanos)
      (jitterQuarter (wrappedBackoff baseBackoff attempt))) < 2 ^ 64 - 1 ↔ _
  unfold saturatingAdd
  by_cases hle : jitterQuarter (wrappedBackoff baseBackoff attempt) ≤
      jitterOffset (wrappedBackoff baseBackoff attempt) nanos
  · rw [wrappingSub_of_le hle (by omega)]
    constructor
    · intro hlt
      exact ⟨nofun, hle, by omega⟩
    · intro hends
      have hbounded := hends.bounded
      omega
  · rw [wrappingSub_of_lt (Nat.not_le.mp hle)]
    constructor
    · intro hlt
      omega
    · intro hends
      exact absurd hends.offset hle

/-- **When a sleep ends.** It panics before it begins, is the longest there is, or ends. -/
theorem sleepEnds_iff : SleepEnds profile baseBackoff attempt nanos ↔
    ∃ ms, sleepMsIn profile baseBackoff attempt nanos = .ok ms ∧ ms < 2 ^ 64 - 1 := by
  obtain ⟨ms, hms, hiff⟩ := @sleepMsIn_wrapping baseBackoff attempt nanos
  have hwrapping : (∃ ms', sleepMsIn .wrapping baseBackoff attempt nanos = .ok ms' ∧
      ms' < 2 ^ 64 - 1) ↔ SleepEnds .wrapping baseBackoff attempt nanos := by
    rw [← hiff]
    constructor
    · rintro ⟨ms', hms', hlt⟩
      cases hms.symm.trans hms'
      exact hlt
    · intro hlt
      exact ⟨ms, hms, hlt⟩
  cases profile with
  | wrapping => exact hwrapping.symm
  | checked =>
      by_cases hfits : 2 ^ attempt < 2 ^ 64 ∧ baseBackoff % 2 ^ 64 * 2 ^ attempt < 2 ^ 64
      · show _ ↔ ∃ ms, sleepMs baseBackoff attempt nanos = .ok ms ∧ _
        rw [sleepMs_eq_wrapping hfits.1 hfits.2, hwrapping]
        constructor
        · intro hends
          exact ⟨nofun, hends.offset, hends.bounded⟩
        · intro hends
          exact ⟨fun _ => hfits, hends.offset, hends.bounded⟩
      · constructor
        · intro hends
          exact absurd (hends.fits rfl) hfits
        · rintro ⟨ms', hms', _⟩
          cases (Sending.sleepMs_of_not_fits hfits).symm.trans hms'

end

/-- The release build at the start of a second, for a backoff of 100 ms. -/
example : sleepMsIn .wrapping 100 0 0 = .ok (2 ^ 64 - 1) := by decide

/-! ## The attempts of a send -/

/-- The attempts among what a send does. -/
def attemptsOf (acts : List SendAct) : List AttemptReply :=
  acts.filterMap fun
    | .attempt reply => some reply
    | .sleep _ => none

theorem attemptsOf_retried (reply : AttemptReply) (ms : ℕ) (acts : List SendAct) :
    attemptsOf (.attempt reply :: .sleep ms :: acts) = reply :: attemptsOf acts := rfl

namespace UpstreamPool

/-- An outcome no attempt follows: a transport error, a timeout, or a response whose
status is not to be retried. -/
def Final (pool : UpstreamPool) : AttemptReply → Prop
  | .timeout => True
  | .failed _ => True
  | .response status _ _ => status ∉ pool.retryStatuses

/-- What an outcome is returned as. The body of a response may still fail. -/
def answerOf (pool : UpstreamPool) (endpoint : EndpointState) :
    AttemptReply → Except CoreError Response
  | .timeout => .error (.upstreamTimeout pool.config.timeouts.request)
  | .failed message => .error (.upstream endpoint.address message)
  | .response status headers (.ok bytes) => .ok ⟨status, headers, bytes⟩
  | .response _ _ (.error message) => .error (.upstream endpoint.address message)

/-- What a send should do with the outcomes of its attempts: at least one attempt and no
more than allowed, up to the first outcome that is final, whose answer is returned, or
else the answer of the last attempt allowed. A sleep of `u64::MAX` milliseconds, half a
billion years, comes before no attempt and no answer. -/
structure Retries (pool : UpstreamPool) (env : WireEnv) (endpoint : EndpointState) (req : Request)
    (acts : List SendAct) (result : Except Panic (Except CoreError Response)) : Prop where
  inOrder : attemptsOf acts =
    (List.range (attemptsOf acts).length).map fun i => env.reply i endpoint req
  atLeastOne : 1 ≤ (attemptsOf acts).length
  atMost : (attemptsOf acts).length ≤ max 1 pool.maxAttempts
  retried : ∀ i, i + 1 < (attemptsOf acts).length → ¬ pool.Final (env.reply i endpoint req)
  stopped : (attemptsOf acts).length < max 1 pool.maxAttempts →
    pool.Final (env.reply ((attemptsOf acts).length - 1) endpoint req)
  answered : result =
    .ok (pool.answerOf endpoint (env.reply ((attemptsOf acts).length - 1) endpoint req))
  selected : ∀ name, result ≠ .ok (.error (.noHealthyEndpoints name))
  wakes : ∀ ms, .sleep ms ∈ acts → ms < 2 ^ 64 - 1

section
variable {profile : Profile} {pool : UpstreamPool} {env : WireEnv} {endpoint : EndpointState}
  {req : Request}

theorem answerOf_known (reply : AttemptReply) (name : Str) :
    pool.answerOf endpoint reply ≠ .error (.noHealthyEndpoints name) := by
  unfold answerOf
  split <;> simp

/-- The last attempt of a send: nothing follows it, and its outcome is returned. -/
theorem sendWithRetry_last {left attempt : ℕ}
    (hlast : pool.Final (env.reply attempt endpoint req) ∨ ¬ attempt + 1 < pool.maxAttempts) :
    pool.sendWithRetry profile env endpoint req (left + 1) attempt =
      ([.attempt (env.reply attempt endpoint req)],
        .ok (pool.answerOf endpoint (env.reply attempt endpoint req))) := by
  unfold sendWithRetry
  cases hreply : env.reply attempt endpoint req with
  | timeout => rfl
  | failed message => rfl
  | response status headers body =>
      have hnot : ¬ (status ∈ pool.retryStatuses ∧ attempt + 1 < pool.maxAttempts) := by
        rw [hreply] at hlast
        rintro ⟨hstatus, hmore⟩
        rcases hlast with hfinal | hover
        · exact hfinal hstatus
        · exact hover hmore
      simp only [if_neg hnot]
      cases body with
      | ok bytes => rfl
      | error message => rfl

/-- Any other attempt: the backoff panics, or the next attempt follows after a sleep. -/
theorem sendWithRetry_more (left : ℕ) {attempt : ℕ}
    (hfinal : ¬ pool.Final (env.reply attempt endpoint req))
    (hmore : attempt + 1 < pool.maxAttempts) :
    (∃ p, sleepMsIn profile pool.baseBackoff attempt (env.nanos attempt) = .error p ∧
      (pool.sendWithRetry profile env endpoint req (left + 1) attempt).2 = .error p) ∨
    ∃ ms, sleepMsIn profile pool.baseBackoff attempt (env.nanos attempt) = .ok ms ∧
      pool.sendWithRetry profile env endpoint req (left + 1) attempt =
        (.attempt (env.reply attempt endpoint req) :: .sleep ms ::
            (pool.sendWithRetry profile env endpoint req left (attempt + 1)).1,
          (pool.sendWithRetry profile env endpoint req left (attempt + 1)).2) := by
  cases hreply : env.reply attempt endpoint req with
  | timeout =>
      rw [hreply] at hfinal
      exact absurd trivial hfinal
  | failed message =>
      rw [hreply] at hfinal
      exact absurd trivial hfinal
  | response status headers body =>
      rw [hreply] at hfinal
      have hstatus : status ∈ pool.retryStatuses := not_not.mp hfinal
      rw [sendWithRetry, hreply]
      simp only [if_pos (And.intro hstatus hmore)]
      cases sleepMsIn profile pool.baseBackoff attempt (env.nanos attempt) with
      | error p => exact .inl ⟨p, rfl, rfl⟩
      | ok ms => exact .inr ⟨ms, rfl, rfl⟩

variable (profile pool env endpoint req) in
/-- A send whose sleeps end: its attempts, up to the first final outcome or the last
attempt allowed. -/
theorem sendWithRetry_attempts (left attempt : ℕ) (hleft : attempt + (left + 1) = pool.maxAttempts)
    (hends : ∀ i, attempt ≤ i → i + 1 < pool.maxAttempts →
      (∀ j, attempt ≤ j → j ≤ i → ¬ pool.Final (env.reply j endpoint req)) →
        SleepEnds profile pool.baseBackoff i (env.nanos i)) :
    ∃ m ≤ left, (∀ i < m, ¬ pool.Final (env.reply (attempt + i) endpoint req)) ∧
      (m < left → pool.Final (env.reply (attempt + m) endpoint req)) ∧
      attemptsOf (pool.sendWithRetry profile env endpoint req (left + 1) attempt).1 =
        ((List.range (m + 1)).map fun i => env.reply (attempt + i) endpoint req) ∧
      (pool.sendWithRetry profile env endpoint req (left + 1) attempt).2 =
        .ok (pool.answerOf endpoint (env.reply (attempt + m) endpoint req)) ∧
      ∀ ms, .sleep ms ∈ (pool.sendWithRetry profile env endpoint req (left + 1) attempt).1 →
        ms < 2 ^ 64 - 1 := by
  -- on the attempts that may still follow this one
  induction left generalizing attempt with
  | zero =>
      rw [sendWithRetry_last (.inr (by omega))]
      refine ⟨0, Nat.le_refl 0, ?_, ?_, rfl, rfl, by simp⟩
      · intro i hi
        exact absurd hi (Nat.not_lt_zero i)
      · intro hm
        exact absurd hm (Nat.lt_irrefl 0)
  | succ left ih =>
      by_cases hfinal : pool.Final (env.reply attempt endpoint req)
      · rw [sendWithRetry_last (.inl hfinal)]
        refine ⟨0, Nat.zero_le _, ?_, fun _ => hfinal, rfl, rfl, by simp⟩
        intro i hi
        exact absurd hi (Nat.not_lt_zero i)
      · have hmore : attempt + 1 < pool.maxAttempts := by omega
        have hend : SleepEnds profile pool.baseBackoff attempt (env.nanos attempt) := by
          apply hends attempt (Nat.le_refl _) hmore
          intro j hle hge
          obtain rfl : j = attempt := Nat.le_antisymm hge hle
          exact hfinal
        obtain ⟨ms, hms, hlt⟩ := sleepEnds_iff.mp hend
        rcases @sendWithRetry_more profile _ _ _ _ (left + 1) _ hfinal hmore with
          ⟨p, hp, _⟩ | ⟨ms', hms', hrest⟩
        · cases hp.symm.trans hms
        cases hms'.symm.trans hms
        obtain ⟨m, hm, hearlier, hlast, hattempts, hanswer, hwakes⟩ := ih (attempt + 1) (by omega)
          (by
            intro i hi hlt hnone
            apply hends i (by omega) hlt
            intro j hj hji
            rcases Nat.eq_or_lt_of_le hj with rfl | hgt
            · exact hfinal
            · exact hnone j hgt hji)
        have hshift : ∀ i, attempt + 1 + i = attempt + (i + 1) := by
          intro i
          omega
        simp only [hshift] at hearlier hlast hattempts hanswer
        rw [hrest]
        refine ⟨m + 1, Nat.succ_le_succ hm, ?_, ?_, ?_, hanswer, ?_⟩
        · intro i hi
          cases i with
          | zero => exact hfinal
          | succ i => exact hearlier i (Nat.lt_of_succ_lt_succ hi)
        · intro hlt
          exact hlast (Nat.lt_of_succ_lt_succ hlt)
        · rw [attemptsOf_retried, hattempts, List.range_succ_eq_map (n := m + 1), List.map_cons,
            List.map_map]
          rfl
        · intro ms' hmem
          simp only [List.mem_cons, reduceCtorEq, SendAct.sleep.injEq, false_or] at hmem
          rcases hmem with rfl | hmem
          · exact hlt
          · exact hwakes ms' hmem

/-- A send that comes to a sleep that does not end panics, or sleeps on. -/
theorem sendWithRetry_fails {i : ℕ}
    (hnot : ¬ SleepEnds profile pool.baseBackoff i (env.nanos i))
    (hmore : i + 1 < pool.maxAttempts)
    (left attempt : ℕ) (hleft : attempt + left = pool.maxAttempts) (hle : attempt ≤ i)
    (hnone : ∀ j, attempt ≤ j → j ≤ i → ¬ pool.Final (env.reply j endpoint req)) :
    (∃ p, (pool.sendWithRetry profile env endpoint req left attempt).2 = .error p) ∨
      ∃ ms, .sleep ms ∈ (pool.sendWithRetry profile env endpoint req left attempt).1 ∧
        2 ^ 64 - 1 ≤ ms := by
  -- no attempt up to the `i`th is final, so the loop comes to that one unless it panics before
  induction left generalizing attempt with
  | zero => omega
  | succ left ih =>
      rcases @sendWithRetry_more profile _ _ _ _ left _ (hnone attempt (Nat.le_refl _) hle)
        (by omega : attempt + 1 < pool.maxAttempts) with ⟨p, _, hpanic⟩ | ⟨ms, hms, hrest⟩
      · exact .inl ⟨p, hpanic⟩
      rw [hrest]
      rcases Nat.eq_or_lt_of_le hle with rfl | hlt
      · refine .inr ⟨ms, by simp, ?_⟩
        by_contra hshort
        exact hnot (sleepEnds_iff.mpr ⟨ms, hms, Nat.not_le.mp hshort⟩)
      · have hlater := ih (attempt + 1) (by omega) hlt fun j hj hji => hnone j (by omega) hji
        rcases hlater with hpanic | ⟨ms', hmem, hlong⟩
        · exact .inl hpanic
        · exact .inr ⟨ms', by simp [hmem], hlong⟩

/-- **When a send makes the attempts it should.** Exactly if at least one attempt is
configured, and the sleep after each attempt that is retried ends. -/
theorem retries_iff (profile : Profile) (pool : UpstreamPool) (env : WireEnv)
    (endpoint : EndpointState) (req : Request) :
    pool.Retries env endpoint req
      (pool.sendWithRetry profile env endpoint req pool.maxAttempts 0).1
      (pool.sendWithRetry profile env endpoint req pool.maxAttempts 0).2 ↔
    1 ≤ pool.maxAttempts ∧ ∀ i, i + 1 < pool.maxAttempts →
      (∀ j ≤ i, ¬ pool.Final (env.reply j endpoint req)) →
        SleepEnds profile pool.baseBackoff i (env.nanos i) := by
  constructor
  · intro h
    have hpos : 1 ≤ pool.maxAttempts := by
      by_contra hzero
      have hmade := h.atLeastOne
      rw [Nat.eq_zero_of_not_pos hzero] at hmade
      exact Nat.not_succ_le_zero 0 hmade
    refine ⟨hpos, ?_⟩
    intro i hmore hnone
    by_contra hnot
    -- a panic is no answer, and every send that retries as it should has one
    rcases sendWithRetry_fails hnot hmore pool.maxAttempts 0 (Nat.zero_add _) (Nat.zero_le i)
      (fun j _ hji => hnone j hji) with ⟨p, hp⟩ | ⟨ms, hmem, hlong⟩
    · cases hp.symm.trans h.answered
    · exact absurd (h.wakes ms hmem) (Nat.not_lt.mpr hlong)
  · rintro ⟨hpos, hends⟩
    obtain ⟨left, hleft⟩ := Nat.exists_eq_add_of_le' hpos
    obtain ⟨m, hm, hearlier, hlast, hattempts, hanswer, hwakes⟩ :=
      sendWithRetry_attempts profile pool env endpoint req left 0 (by omega)
        (fun i _ hmore hnone => hends i hmore fun j hji => hnone j (Nat.zero_le j) hji)
    simp only [Nat.zero_add] at hearlier hlast hattempts hanswer
    rw [hleft]
    have hlength :
        (attemptsOf (pool.sendWithRetry profile env endpoint req (left + 1) 0).1).length =
          m + 1 := by
      rw [hattempts, List.length_map, List.length_range]
    exact {
      inOrder := by
        rw [hlength]
        exact hattempts
      atLeastOne := by
        rw [hlength]
        exact Nat.succ_le_succ (Nat.zero_le m)
      atMost := by
        rw [hlength]
        omega
      retried := by
        intro i hi
        rw [hlength] at hi
        exact hearlier i (Nat.lt_of_succ_lt_succ hi)
      stopped := by
        intro hlt
        rw [hlength] at hlt ⊢
        exact hlast (by omega)
      answered := by
        rw [hlength, Nat.add_sub_cancel]
        exact hanswer
      selected := by
        intro name hname
        exact answerOf_known _ name (Except.ok.inj (hanswer.symm.trans hname))
      wakes := hwakes }

end

/-- An upstream whose retry config allows no attempt. -/
def noAttempts : UpstreamConfig :=
  { UpstreamConfig.single "127.0.0.1:9000".toList with retry := some ⟨0, 50, [503]⟩ }

def noAttemptsConfig : GatewayConfig :=
  { minimalConfig with upstreams := AList.singleton "backend".toList noAttempts }

/-- Validation accepts it. No attempt is made, and the healthy endpoint that was selected
is reported as none. -/
theorem noAttempts_not_retries :
    validate .literal noAttemptsConfig = .ok () ∧
      noAttemptsConfig.upstreams.lookup "backend".toList = some noAttempts ∧
      ∀ (profile : Profile) (env : WireEnv) (endpoint : EndpointState) (req : Request),
        (UpstreamPool.new "backend".toList noAttempts).sendWithRetry profile env endpoint req 0 0 =
          ([], .ok (.error (.noHealthyEndpoints "backend".toList))) ∧
        ¬ (UpstreamPool.new "backend".toList noAttempts).Retries env endpoint req
          ((UpstreamPool.new "backend".toList noAttempts).sendWithRetry profile env endpoint req
            (UpstreamPool.new "backend".toList noAttempts).maxAttempts 0).1
          ((UpstreamPool.new "backend".toList noAttempts).sendWithRetry profile env endpoint req
            (UpstreamPool.new "backend".toList noAttempts).maxAttempts 0).2 := by
  refine ⟨by decide, rfl, ?_⟩
  intro profile env endpoint req
  refine ⟨rfl, ?_⟩
  intro h
  exact Nat.not_succ_le_zero 0 h.atLeastOne

end UpstreamPool

end Stateform
