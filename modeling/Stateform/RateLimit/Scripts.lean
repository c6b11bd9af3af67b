import Stateform.Library.SortedSet
import Stateform.RateLimit.Limiter

/-!
# The scripts of the distributed limiter

The two Lua scripts of `l2_redis.rs`, each as what it replies and what it leaves
under its key. Redis runs a script as one step. Lua's numbers are exact
rationals here; a division by zero is no finite number, and `EXPIRE` raises an
error when it is given one, after `HMSET` has already written.
-/

namespace Stateform

open Library

/-! ## Token bucket -/

/-- The hash of a token-bucket key. -/
structure TokenHash : Type where
  tokens : ℚ
  lastRefill : ℚ
deriving DecidableEq

/-- What a script returns, and the seconds it gave to `EXPIRE`. -/
structure ScriptReply : Type where
  values : List ℤ
  ttl : ℤ
deriving DecidableEq

/-- `EXPIRE` was given something that is not an integer. -/
inductive ScriptError : Type where
  | notAnInteger
deriving DecidableEq

/-- Division in Lua, where it gives a finite number. -/
def luaDiv (a b : ℚ) : Option ℚ := if b = 0 then none else some (a / b)

/-- `TOKEN_BUCKET_SCRIPT`. -/
def tokenBucketScript (capacity refillRate : ℕ) (now : ℚ) (data : Option TokenHash) :
    Except ScriptError ScriptReply × TokenHash :=
  let tokens := (data.map TokenHash.tokens).getD capacity
  let lastRefill := (data.map TokenHash.lastRefill).getD now
  let elapsed := max 0 (now - lastRefill)
  let tokens := min (capacity : ℚ) (tokens + elapsed * refillRate)
  let (allowed, left, retryAfterMs) : ℤ × ℚ × ℤ :=
    if 1 ≤ tokens then (1, tokens - 1, 0)
    else (0, tokens, ⌈(1 - tokens) / refillRate * 1000⌉)
  let hash : TokenHash := ⟨left, now⟩
  match luaDiv capacity refillRate with
  | none => (.error .notAnInteger, hash)
  | some full => (.ok ⟨[allowed, ⌊left⌋, retryAfterMs], ⌈full⌉ + 10⟩, hash)

/-! ## Sliding window -/

/-- `SLIDING_WINDOW_SCRIPT`. -/
def slidingWindowScript (maxRequests window : ℕ) (now : ℚ) (reqId : Str)
    (key : SortedSet Str ℚ) : ScriptReply × SortedSet Str ℚ :=
  let windowStart := now - window
  let key := key.zremrangebyscore windowStart
  let count := key.zcard
  let (allowed, retryAfterMs, key) : ℤ × ℤ × SortedSet Str ℚ :=
    if count < maxRequests then (1, 0, key.zadd now reqId)
    else
      match key.lowestScore with
      | some oldestTs => (0, ⌈(oldestTs + window - now) * 1000⌉, key)
      | none => (0, 0, key)
  let remaining : ℤ := max 0 ((maxRequests : ℤ) - count - allowed)
  (⟨[allowed, remaining, retryAfterMs], window + 5⟩, key)

/-! ## Replies -/

/-- The script returned `allowed = 1`. -/
def ScriptReply.allowed (r : ScriptReply) : Bool := r.values.head? = some 1

/-- How `check_inner` hands on what an execution gave. -/
def scriptResult (text : ScriptError → Str) :
    Except ScriptError ScriptReply → Except RateLimitError (List ℤ)
  | .ok r => .ok r.values
  | .error e => .error (.script (text e))

/-- The limiter reads an `allowed = 1` as one. -/
theorem l2Check_script (text : ScriptError → Str) (r : ScriptReply) (h : r.values ≠ []) :
    (l2Check (scriptResult text (.ok r))).allowed = r.allowed := by
  obtain ⟨v, vs, hv⟩ := List.exists_cons_of_ne_nil h
  simp [l2Check, scriptResult, ScriptReply.allowed, hv]

/-! ## Spec lemmas -/

section
variable {capacity refillRate : ℕ} {now : ℚ} {data : Option TokenHash}

/-- The stored bucket, a missing one being full. -/
def storedBucket (capacity : ℕ) (now : ℚ) : Option TokenHash → Stock ℚ
  | none => ⟨capacity, now⟩
  | some h => ⟨h.tokens, h.lastRefill⟩

def TokenHash.stock (h : TokenHash) : Stock ℚ := ⟨h.tokens, h.lastRefill⟩

/-- The tokens an execution finds, after the refill. -/
def refilled (capacity refillRate : ℕ) (now : ℚ) (data : Option TokenHash) : ℚ :=
  refill (capacity : ℚ) refillRate (storedBucket capacity now data).tokens
    (max 0 (now - (storedBucket capacity now data).last))

theorem tokenBucketScript_eq :
    tokenBucketScript capacity refillRate now data =
      let tokens := refilled capacity refillRate now data
      let hash : TokenHash := if 1 ≤ tokens then ⟨tokens - 1, now⟩ else ⟨tokens, now⟩
      let retryAfterMs := if 1 ≤ tokens then 0 else ⌈(1 - tokens) / refillRate * 1000⌉
      match luaDiv capacity refillRate with
      | none => (.error .notAnInteger, hash)
      | some full =>
          (.ok ⟨[if 1 ≤ tokens then 1 else 0, ⌊hash.tokens⌋, retryAfterMs], ⌈full⌉ + 10⟩,
            hash) := by
  have hrefilled : min (capacity : ℚ) ((data.map TokenHash.tokens).getD capacity +
      max 0 (now - (data.map TokenHash.lastRefill).getD now) * refillRate) =
        refilled capacity refillRate now data := by
    rw [min_comm]
    cases data <;> rfl
  dsimp only [tokenBucketScript]
  rw [hrefilled]
  by_cases hone : 1 ≤ refilled capacity refillRate now data
  · simp only [if_pos hone]
  · simp only [if_neg hone]

/-- What the script leaves, at whatever rate. -/
theorem tokenBucketScript_snd :
    (tokenBucketScript capacity refillRate now data).2 =
      if 1 ≤ refilled capacity refillRate now data
      then ⟨refilled capacity refillRate now data - 1, now⟩
      else ⟨refilled capacity refillRate now data, now⟩ := by
  rw [tokenBucketScript_eq]
  dsimp only
  cases luaDiv capacity refillRate <;> rfl

/-- The script leaves what an attempt on the stored bucket leaves. -/
theorem tokenBucketScript_stock :
    (tokenBucketScript capacity refillRate now data).2.stock =
      attempted (capacity : ℚ) refillRate (storedBucket capacity now data) now := by
  rw [tokenBucketScript_snd]
  show _ = (attempt _ _ _ _).2
  dsimp only [attempt]
  rw [← refilled]
  split <;> rfl

/-- With a refill rate it replies what the attempt gave. -/
theorem tokenBucketScript_ok (hrate : 0 < refillRate) :
    ∃ r, (tokenBucketScript capacity refillRate now data).1 = .ok r ∧
      r.allowed = (attempt (capacity : ℚ) refillRate (storedBucket capacity now data) now).1 := by
  have hne : (refillRate : ℚ) ≠ 0 := Nat.cast_ne_zero.mpr hrate.ne'
  rw [tokenBucketScript_eq]
  dsimp only [luaDiv, attempt]
  rw [if_neg hne, ← refilled]
  refine ⟨_, rfl, ?_⟩
  by_cases hone : 1 ≤ refilled capacity refillRate now data
  · simp [ScriptReply.allowed, hone]
  · simp [ScriptReply.allowed, hone]

/-- Without one it raises an error, after it has written. -/
theorem tokenBucketScript_rate_zero :
    (tokenBucketScript capacity 0 now data).1 = .error .notAnInteger := by
  rw [tokenBucketScript_eq]
  rfl

end

section
variable {maxRequests window : ℕ} {now : ℚ} {reqId : Str} {key : SortedSet Str ℚ}

/-- The script lets a request in when the window has room, and adds it. -/
theorem slidingWindowScript_admits (h : key.countAbove (now - window) < maxRequests) :
    (slidingWindowScript maxRequests window now reqId key).1.allowed = true ∧
      (slidingWindowScript maxRequests window now reqId key).2 =
        (key.zremrangebyscore (now - window)).zadd now reqId := by
  rw [← SortedSet.zcard_zremrangebyscore] at h
  dsimp only [slidingWindowScript]
  rw [if_pos h]
  exact ⟨rfl, rfl⟩

/-- Otherwise it denies it, and only drops what left the window. -/
theorem slidingWindowScript_deny (h : ¬ key.countAbove (now - window) < maxRequests) :
    (slidingWindowScript maxRequests window now reqId key).1.allowed = false ∧
      (slidingWindowScript maxRequests window now reqId key).2 =
        key.zremrangebyscore (now - window) := by
  rw [← SortedSet.zcard_zremrangebyscore] at h
  dsimp only [slidingWindowScript]
  rw [if_neg h]
  split <;> exact ⟨rfl, rfl⟩

end

end Stateform
