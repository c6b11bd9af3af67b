import Stateform.Core.Panics

/-!
# Consistent hashing

The ring of `select_endpoint` has `virtual_nodes` points for each available endpoint, in
their order, so a key's place is a remainder by the number of endpoints: when one is lost,
the keys of the others move too, except where the quotient happens to fit
(`hashing_stable_iff`). The size of the ring is a product that panics or wraps, as the build
has it.
-/

namespace Stateform

/-! ## Places -/

/-- What a request without a key hashes to is what `default` does. -/
def keyHash (hashKey : Option Str) : ℕ := (fnv1a64 (utf8 (hashKey.getD "default".toList))).toNat

/-- The place of a key among the available endpoints. -/
def hashPlace (available virtualNodes : ℕ) (hashKey : Option Str) : Except Panic ℕ := do
  let ringSize ← mulUsize available virtualNodes
  let idx := (← remUsize (keyHash hashKey) ringSize) / virtualNodes
  return idx % available

section
variable {available virtualNodes : ℕ} {hashKey : Option Str}

/-- The place is the remainder by the number of available endpoints. -/
theorem hashPlace_eq (havailable : 0 < available) (hpos : 0 < virtualNodes)
    (hfits : available * virtualNodes < 2 ^ 64) :
    hashPlace available virtualNodes hashKey =
      .ok (keyHash hashKey / virtualNodes % available) := by
  have hring : available * virtualNodes ≠ 0 := Nat.ne_of_gt (Nat.mul_pos havailable hpos)
  simp only [hashPlace, mulUsize_of_lt hfits, remUsize_of_ne hring, bind, Except.bind, pure,
    Except.pure]
  rw [Nat.mod_mul_left_div_self, Nat.mod_mod]

theorem hashPlace_overflow (hfits : ¬ available * virtualNodes < 2 ^ 64) :
    hashPlace available virtualNodes hashKey = .error .overflow := by
  rw [hashPlace, mulUsize_of_ge hfits]
  rfl

theorem hashPlace_no_nodes : hashPlace available 0 hashKey = .error .remainderByZero := by
  rw [hashPlace, mulUsize_of_lt (by rw [Nat.mul_zero]; exact Nat.two_pow_pos 64), Nat.mul_zero]
  rfl

end

/-- Selection takes the available endpoint in the key's place. -/
theorem selectEndpoint_hashed {endpoints : List EndpointState} {hashHeader : Str}
    {virtualNodes : ℕ} {hashKey : Option Str} {counter : ℕ}
    (h : endpoints.filter EndpointState.isAvailable ≠ []) :
    selectEndpoint endpoints (.consistentHashing hashHeader virtualNodes) hashKey counter =
      (hashPlace (endpoints.filter EndpointState.isAvailable).length virtualNodes hashKey).map
        fun place => ((endpoints.filter EndpointState.isAvailable)[place]?, counter) := by
  unfold selectEndpoint
  cases havailable : endpoints.filter EndpointState.isAvailable with
  | nil => exact absurd havailable h
  | cons first rest =>
      simp only [hashPlace, keyHash]
      cases mulUsize (first :: rest).length virtualNodes with
      | error p => rfl
      | ok ringSize =>
          simp only [bind, Except.bind]
          cases remUsize (fnv1a64 (utf8 (hashKey.getD "default".toList))).toNat ringSize with
          | error p => rfl
          | ok idx => rfl

/-! ## Either build -/

/-- The place where the product of endpoints and points wraps. -/
def wrappedPlace (available virtualNodes hash : ℕ) : ℕ :=
  hash % (available * virtualNodes % 2 ^ 64) / virtualNodes % available

/-- The place of a key, in a build of either profile. -/
def hashPlaceIn (profile : Profile) (available virtualNodes : ℕ) (hashKey : Option Str) :
    Except Panic ℕ :=
  match profile with
  | .checked => hashPlace available virtualNodes hashKey
  | .wrapping =>
      if available * virtualNodes % 2 ^ 64 = 0 then .error .remainderByZero
      else .ok (wrappedPlace available virtualNodes (keyHash hashKey))

/-- `select_endpoint` under consistent hashing, in a build of either profile. -/
def selectHashed (profile : Profile) (endpoints : List EndpointState) (virtualNodes : ℕ)
    (hashKey : Option Str) (counter : ℕ) : Except Panic (Option EndpointState × ℕ) :=
  match endpoints.filter EndpointState.isAvailable with
  | [] => .ok (none, counter)
  | first :: rest =>
      (hashPlaceIn profile (first :: rest).length virtualNodes hashKey).map fun place =>
        ((first :: rest)[place]?, counter)

/-- With overflow checks it is `selectEndpoint`. -/
theorem selectHashed_checked (endpoints : List EndpointState) (hashHeader : Str)
    (virtualNodes : ℕ) (hashKey : Option Str) (counter : ℕ) :
    selectHashed .checked endpoints virtualNodes hashKey counter =
      selectEndpoint endpoints (.consistentHashing hashHeader virtualNodes) hashKey counter := by
  by_cases hnone : endpoints.filter EndpointState.isAvailable = []
  · rw [selectHashed, selectEndpoint, hnone]
  · rw [selectEndpoint_hashed hnone, selectHashed]
    cases havailable : endpoints.filter EndpointState.isAvailable with
    | nil => exact absurd havailable hnone
    | cons first rest => rfl

/-- Where the ring fits, both builds have the key in one place. -/
theorem hashPlaceIn_eq {profile : Profile} {available virtualNodes : ℕ} {hashKey : Option Str}
    (havailable : 0 < available) (hpos : 0 < virtualNodes)
    (hfits : available * virtualNodes < 2 ^ 64) :
    hashPlaceIn profile available virtualNodes hashKey =
      .ok (keyHash hashKey / virtualNodes % available) := by
  cases profile with
  | checked => exact hashPlace_eq havailable hpos hfits
  | wrapping =>
      have hring : available * virtualNodes ≠ 0 := Nat.ne_of_gt (Nat.mul_pos havailable hpos)
      rw [hashPlaceIn, wrappedPlace, Nat.mod_eq_of_lt hfits, if_neg hring,
        Nat.mod_mul_left_div_self, Nat.mod_mod]

/-! ## Positions -/

/-- The positions of the available endpoints, where the first has this number. -/
def availableFrom (start : ℕ) (endpoints : List EndpointState) : List ℕ :=
  ((endpoints.zipIdx start).filter fun e => e.1.isAvailable).map Prod.snd

/-- The position of the endpoint selection takes: equal endpoints are still two. -/
def hashedPosition (profile : Profile) (endpoints : List EndpointState) (virtualNodes : ℕ)
    (hashKey : Option Str) : Except Panic (Option ℕ) :=
  match availableFrom 0 endpoints with
  | [] => .ok none
  | first :: rest =>
      (hashPlaceIn profile (first :: rest).length virtualNodes hashKey).map fun place =>
        (first :: rest)[place]?

section
variable {endpoints before after : List EndpointState} {e : EndpointState} {start : ℕ}

theorem availableFrom_append : availableFrom start (before ++ after) =
    availableFrom start before ++ availableFrom (start + before.length) after := by
  simp [availableFrom, List.zipIdx_append]

theorem availableFrom_cons_pos (h : e.isAvailable = true) :
    availableFrom start (e :: after) = start :: availableFrom (start + 1) after := by
  simp [availableFrom, h]

theorem availableFrom_cons_neg (h : e.isAvailable = false) :
    availableFrom start (e :: after) = availableFrom (start + 1) after := by
  simp [availableFrom, h]

/-- The available endpoints are those at the positions. -/
theorem filter_eq_map_zipIdx (endpoints : List EndpointState) :
    endpoints.filter EndpointState.isAvailable =
      (endpoints.zipIdx.filter fun e => e.1.isAvailable).map Prod.fst := by
  conv_lhs => rw [← List.zipIdx_map_fst 0 endpoints]
  rw [List.filter_map]
  rfl

variable (endpoints) in
theorem availableFrom_length :
    (availableFrom 0 endpoints).length =
      (endpoints.filter EndpointState.isAvailable).length := by
  rw [filter_eq_map_zipIdx, availableFrom, List.length_map, List.length_map]

theorem getElem?_filter_available (place : ℕ) :
    (endpoints.filter EndpointState.isAvailable)[place]? =
      (availableFrom 0 endpoints)[place]?.bind fun i => endpoints[i]? := by
  rw [filter_eq_map_zipIdx, availableFrom, List.getElem?_map, List.getElem?_map]
  cases hplace : (endpoints.zipIdx.filter fun e => e.1.isAvailable)[place]? with
  | none => rfl
  | some found =>
      have hmem := List.mem_of_mem_filter (List.mem_of_getElem? hplace)
      exact (List.mem_zipIdx_iff_getElem?.mp hmem).symm

theorem availableFrom_nodup (start : ℕ) (endpoints : List EndpointState) :
    (availableFrom start endpoints).Nodup := by
  have hsub : List.Sublist (availableFrom start endpoints)
      ((endpoints.zipIdx start).map Prod.snd) :=
    List.Sublist.map Prod.snd List.filter_sublist
  rw [List.zipIdx_map_snd] at hsub
  exact hsub.nodup List.nodup_range'

/-- **Selection by position.** The endpoint that is selected is the one at the position. -/
theorem selectHashed_hashedPosition (profile : Profile) (endpoints : List EndpointState)
    (virtualNodes : ℕ) (hashKey : Option Str) (counter : ℕ) :
    selectHashed profile endpoints virtualNodes hashKey counter =
      (hashedPosition profile endpoints virtualNodes hashKey).map fun position =>
        (position.bind fun i => endpoints[i]?, counter) := by
  have hlength := availableFrom_length endpoints
  unfold selectHashed
  cases havailable : endpoints.filter EndpointState.isAvailable with
  | nil =>
      have hpositions : availableFrom 0 endpoints = [] := by
        rw [havailable] at hlength
        exact List.eq_nil_of_length_eq_zero hlength
      rw [hashedPosition, hpositions]
      rfl
  | cons first rest =>
      cases hpositions : availableFrom 0 endpoints with
      | nil =>
          rw [havailable, hpositions] at hlength
          exact absurd hlength.symm (Nat.succ_ne_zero rest.length)
      | cons i positions =>
          rw [hashedPosition, hpositions]
          simp only
          rw [← hpositions, hlength, havailable]
          cases hashPlaceIn profile (first :: rest).length virtualNodes hashKey with
          | error p => rfl
          | ok place =>
              simp only [Except.map]
              rw [← havailable, getElem?_filter_available]

end

/-! ## An endpoint is lost -/

def EndpointState.withHealth (e : EndpointState) (health : Health) : EndpointState :=
  { e with health := health }

/-- Selection takes the endpoint at position `i`. -/
structure Serves (profile : Profile) (endpoints : List EndpointState) (virtualNodes : ℕ)
    (hashKey : Option Str) (i : ℕ) : Prop where
  position : hashedPosition profile endpoints virtualNodes hashKey = .ok (some i)
  selected : ∀ counter, selectHashed profile endpoints virtualNodes hashKey counter =
    .ok (endpoints[i]?, counter)
  checked : profile = .checked → ∀ hashHeader counter,
    selectEndpoint endpoints (.consistentHashing hashHeader virtualNodes) hashKey counter =
      .ok (endpoints[i]?, counter)

/-- Where an endpoint becomes unhealthy, a key it did not serve stays where it is; when it
recovers, every key is where it was. -/
structure StableUnderLoss (profile : Profile) (before : List EndpointState) (e : EndpointState)
    (after : List EndpointState) (virtualNodes : ℕ) (hashKey : Option Str) : Prop where
  kept : ∀ i, Serves profile (before ++ e :: after) virtualNodes hashKey i → i ≠ before.length →
    Serves profile (before ++ e.withHealth .unhealthy :: after) virtualNodes hashKey i
  back : ∀ health, ((e.withHealth .unhealthy).withHealth health).isAvailable = e.isAvailable →
    ∀ i, Serves profile (before ++ (e.withHealth .unhealthy).withHealth health :: after)
      virtualNodes hashKey i ↔ Serves profile (before ++ e :: after) virtualNodes hashKey i

theorem serves_iff {profile : Profile} {endpoints : List EndpointState} {virtualNodes : ℕ}
    {hashKey : Option Str} {i : ℕ} : Serves profile endpoints virtualNodes hashKey i ↔
      hashedPosition profile endpoints virtualNodes hashKey = .ok (some i) := by
  constructor
  · intro h
    exact h.position
  · intro h
    have hselected : ∀ counter, selectHashed profile endpoints virtualNodes hashKey counter =
        .ok (endpoints[i]?, counter) := by
      intro counter
      rw [selectHashed_hashedPosition, h]
      rfl
    refine ⟨h, hselected, ?_⟩
    rintro rfl hashHeader counter
    rw [← selectHashed_checked]
    exact hselected counter

/-- Without the endpoint in place `lost`, a key in another place stays with its endpoint. -/
def PlaceFits (lost place place' : ℕ) : Prop :=
  place = lost ∨ (place < lost ∧ place' = place) ∨ (lost < place ∧ place' + 1 = place)

/-- The quotient of a key fits: with `n` endpoints, of which the one at `lost` goes, the
key is that one's, or the places move along with the endpoints. -/
def QuotientFits (n lost quotient : ℕ) : Prop :=
  quotient % n = lost ∨ (quotient % n < lost ∧ n - 1 ∣ quotient / n) ∨
    (lost < quotient % n ∧ n - 1 ∣ quotient / n + 1)

theorem PlaceFits.moves {lost place place' : ℕ} (h : PlaceFits lost place place')
    (hne : place ≠ lost) : place' = if place < lost then place else place - 1 := by
  rcases h with h | ⟨hlt, h⟩ | ⟨hlt, h⟩
  · exact absurd h hne
  · rw [if_pos hlt]
    exact h
  · rw [if_neg (Nat.not_lt.mpr hlt.le)]
    omega

theorem placeFits_of_moves {lost place place' : ℕ} (hne : place ≠ lost)
    (h : place' = if place < lost then place else place - 1) : PlaceFits lost place place' := by
  by_cases hlt : place < lost
  · rw [if_pos hlt] at h
    exact .inr (.inl ⟨hlt, h⟩)
  · rw [if_neg hlt] at h
    exact .inr (.inr ⟨by omega, by omega⟩)

/-- Without one element of a list, a later one is a place lower. -/
theorem getElem?_without {α : Type*} {before after : List α} {lost a : α} {place place' : ℕ}
    (hnodup : (before ++ lost :: after).Nodup)
    (hplace : (before ++ lost :: after)[place]? = some a) (hne : a ≠ lost) :
    (before ++ after)[place']? = some a ↔
      place' = if place < before.length then place else place - 1 := by
  -- the elements after the lost one move one place forward, and each stands in one place only
  have hmoved : (before ++ after)[if place < before.length then place else place - 1]? =
      some a := by
    by_cases hlt : place < before.length
    · rw [if_pos hlt, List.getElem?_append_left hlt]
      rwa [List.getElem?_append_left hlt] at hplace
    · have hnot : place ≠ before.length := by
        rintro rfl
        rw [List.getElem?_append_right (Nat.le_refl _), Nat.sub_self] at hplace
        exact hne (Option.some.inj hplace).symm
      rw [List.getElem?_append_right (by omega)] at hplace
      rw [if_neg hlt, List.getElem?_append_right (by omega)]
      obtain ⟨k, hk⟩ : ∃ k, place - before.length = k + 1 :=
        ⟨place - before.length - 1, by omega⟩
      rw [hk, List.getElem?_cons_succ] at hplace
      rw [show place - 1 - before.length = k by omega]
      exact hplace
  have hsub : List.Sublist (before ++ after) (before ++ lost :: after) :=
    (List.Sublist.refl before).append (List.sublist_cons_self lost after)
  constructor
  · intro h
    exact (List.getElem?_inj (List.getElem?_eq_some_iff.mp h).1 (hsub.nodup hnodup)).mp
      (h.trans hmoved.symm)
  · rintro rfl
    exact hmoved

section
variable {n lost quotient : ℕ}

/-- One endpoint fewer: the remainder of the quotient and of the old place together. -/
theorem mod_pred (hn : 2 ≤ n) :
    quotient % (n - 1) = (quotient / n + quotient % n) % (n - 1) := by
  have hdiv := Nat.div_add_mod quotient n
  obtain ⟨m, rfl⟩ : ∃ m, n = m + 1 := ⟨n - 1, by omega⟩
  rw [Nat.add_sub_cancel]
  conv_lhs => rw [← hdiv, Nat.add_mul, Nat.one_mul, Nat.add_assoc, Nat.mul_add_mod]

theorem add_mod_eq_iff_dvd {ratio place m : ℕ} (hplace : place < m) :
    (ratio + place) % m = place ↔ m ∣ ratio := by
  have hself : place % m = place := Nat.mod_eq_of_lt hplace
  rw [← Nat.modEq_zero_iff_dvd]
  constructor
  · intro h
    apply Nat.ModEq.add_right_cancel' place
    rw [Nat.zero_add]
    exact h.trans hself.symm
  · intro h
    have hadd : (ratio + place) % m = (0 + place) % m := h.add_right place
    rw [hadd, Nat.zero_add, hself]

/-- Whether the place of a key moves with the endpoints when one of them goes. -/
theorem place_moves_iff (hlost : lost < n) (hne : quotient % n ≠ lost) :
    quotient % (n - 1) = (if quotient % n < lost then quotient % n else quotient % n - 1) ↔
      QuotientFits n lost quotient := by
  have hplace : quotient % n < n := Nat.mod_lt _ (by omega)
  have hn : 2 ≤ n := by omega
  rw [mod_pred hn, QuotientFits]
  generalize quotient / n = ratio
  generalize quotient % n = place at *
  -- a place below the lost one stays, one above it goes down by one
  by_cases hlt : place < lost
  · rw [if_pos hlt, add_mod_eq_iff_dvd (by omega : place < n - 1)]
    constructor
    · intro h
      exact .inr (.inl ⟨hlt, h⟩)
    · rintro (h | ⟨_, h⟩ | ⟨h, _⟩)
      · exact absurd h hne
      · exact h
      · omega
  · have hgt : lost < place := by omega
    have hshift : ratio + place = ratio + 1 + (place - 1) := by omega
    rw [if_neg hlt, hshift, add_mod_eq_iff_dvd (by omega : place - 1 < n - 1)]
    constructor
    · intro h
      exact .inr (.inr ⟨hgt, h⟩)
    · rintro (h | ⟨h, _⟩ | ⟨_, h⟩)
      · exact absurd h hne
      · omega
      · exact h

/-- Where the ring fits, the places of a key fit exactly if its quotient does. -/
theorem placeFits_quotient_iff (hlost : lost < n) :
    PlaceFits lost (quotient % n) (quotient % (n - 1)) ↔ QuotientFits n lost quotient := by
  by_cases hne : quotient % n = lost
  · exact ⟨fun _ => .inl hne, fun _ => .inl hne⟩
  · rw [← place_moves_iff hlost hne]
    exact ⟨fun h => h.moves hne, placeFits_of_moves hne⟩

end

/-! ## When keys stay -/

/-- The places of a key in the wrapping ring of `n` endpoints and in that of one less fit, or
there is no ring and no key has an endpoint. -/
def WrappedFits (n lost virtualNodes hash : ℕ) : Prop :=
  n * virtualNodes % 2 ^ 64 = 0 ∨ wrappedPlace n virtualNodes hash = lost ∨
    ((n - 1) * virtualNodes % 2 ^ 64 ≠ 0 ∧
      PlaceFits lost (wrappedPlace n virtualNodes hash) (wrappedPlace (n - 1) virtualNodes hash))

section
variable {profile : Profile} {before after endpoints : List EndpointState} {e e' : EndpointState}
  {virtualNodes : ℕ} {hashKey : Option Str}

/-- Only the availability of an endpoint matters to the positions. -/
theorem hashedPosition_replaced (h : e'.isAvailable = e.isAvailable) :
    hashedPosition profile (before ++ e' :: after) virtualNodes hashKey =
      hashedPosition profile (before ++ e :: after) virtualNodes hashKey := by
  have hsame : availableFrom 0 (before ++ e' :: after) =
      availableFrom 0 (before ++ e :: after) := by
    rw [availableFrom_append, availableFrom_append]
    cases havailable : e.isAvailable with
    | true => rw [availableFrom_cons_pos (h.trans havailable), availableFrom_cons_pos havailable]
    | false => rw [availableFrom_cons_neg (h.trans havailable), availableFrom_cons_neg havailable]
  rw [hashedPosition, hashedPosition, hsame]

theorem hashedPosition_of_place {place : ℕ}
    (hplace : hashPlaceIn profile (availableFrom 0 endpoints).length virtualNodes hashKey =
      .ok place) :
    hashedPosition profile endpoints virtualNodes hashKey =
      .ok (availableFrom 0 endpoints)[place]? := by
  unfold hashedPosition
  cases havailable : availableFrom 0 endpoints with
  | nil => rfl
  | cons first rest =>
      rw [havailable] at hplace
      simp only
      rw [hplace]
      rfl

theorem hashedPosition_of_panic {p : Panic} (hsome : availableFrom 0 endpoints ≠ [])
    (hplace : hashPlaceIn profile (availableFrom 0 endpoints).length virtualNodes hashKey =
      .error p) :
    hashedPosition profile endpoints virtualNodes hashKey = .error p := by
  unfold hashedPosition
  cases havailable : availableFrom 0 endpoints with
  | nil => exact absurd havailable hsome
  | cons first rest =>
      rw [havailable] at hplace
      simp only
      rw [hplace]
      rfl

/-- Where an endpoint recovers, every key is where it was. -/
theorem serves_back (health : Health)
    (h : ((e.withHealth .unhealthy).withHealth health).isAvailable = e.isAvailable) (i : ℕ) :
    Serves profile (before ++ (e.withHealth .unhealthy).withHealth health :: after) virtualNodes
      hashKey i ↔ Serves profile (before ++ e :: after) virtualNodes hashKey i := by
  rw [serves_iff, serves_iff, hashedPosition_replaced h]

/-- The positions with an available endpoint, and without it. -/
theorem availableFrom_with (havailable : e.isAvailable = true) :
    availableFrom 0 (before ++ e :: after) = availableFrom 0 before ++
      before.length :: availableFrom (before.length + 1) after := by
  rw [availableFrom_append, availableFrom_cons_pos havailable, Nat.zero_add]

theorem availableFrom_without :
    availableFrom 0 (before ++ e.withHealth .unhealthy :: after) =
      availableFrom 0 before ++ availableFrom (before.length + 1) after := by
  rw [availableFrom_append, availableFrom_cons_neg rfl, Nat.zero_add]

variable (before after) in
theorem availableFrom_without_length (havailable : e.isAvailable = true) :
    (availableFrom 0 (before ++ e.withHealth .unhealthy :: after)).length =
      (availableFrom 0 (before ++ e :: after)).length - 1 := by
  rw [availableFrom_with havailable, availableFrom_without, List.length_append,
    List.length_append, List.length_cons]
  omega

section
variable {place : ℕ}

/-- The position at a place is the lost endpoint's exactly if the place is. -/
theorem position_lost_iff (havailable : e.isAvailable = true)
    (hlt : place < (availableFrom 0 (before ++ e :: after)).length) {i : ℕ}
    (hi : (availableFrom 0 (before ++ e :: after))[place]? = some i) :
    i = before.length ↔ place = (availableFrom 0 before).length := by
  have hat : (availableFrom 0 (before ++ e :: after))[(availableFrom 0 before).length]? =
      some before.length := by
    rw [availableFrom_with havailable, List.getElem?_append_right (Nat.le_refl _), Nat.sub_self]
    rfl
  constructor
  · rintro rfl
    exact (List.getElem?_inj hlt (availableFrom_nodup 0 _)).mp (hi.trans hat.symm)
  · rintro rfl
    exact Option.some.inj (hi.symm.trans hat)

/-- An endpoint that is on the ring is lost: its keys apart, each stays exactly if its places
before and after fit. -/
theorem stable_iff_of_place {n : ℕ} (havailable : e.isAvailable = true)
    (hn : n = (availableFrom 0 (before ++ e :: after)).length) (hlt : place < n)
    (hplace : hashPlaceIn profile n virtualNodes hashKey = .ok place) :
    StableUnderLoss profile before e after virtualNodes hashKey ↔
      place = (availableFrom 0 before).length ∨
        ∃ place', hashPlaceIn profile (n - 1) virtualNodes hashKey = .ok place' ∧
          PlaceFits (availableFrom 0 before).length place place' := by
  subst hn
  have hless := availableFrom_without_length before after havailable
  obtain ⟨i, hi⟩ : ∃ i, (availableFrom 0 (before ++ e :: after))[place]? = some i :=
    ⟨_, List.getElem?_eq_getElem hlt⟩
  have hlost := position_lost_iff havailable hlt hi
  -- the key is served from one position, and stays if that one serves it still
  have hserves : ∀ i', Serves profile (before ++ e :: after) virtualNodes hashKey i' ↔ i' = i := by
    intro i'
    rw [serves_iff, hashedPosition_of_place hplace, hi]
    constructor
    · rintro ⟨⟩
      rfl
    · rintro rfl
      rfl
  have hstable : StableUnderLoss profile before e after virtualNodes hashKey ↔
      (i ≠ before.length → Serves profile (before ++ e.withHealth .unhealthy :: after)
        virtualNodes hashKey i) := by
    constructor
    · intro h
      exact h.kept i ((hserves i).mpr rfl)
    · intro h
      refine ⟨?_, serves_back⟩
      intro i' hi'
      rw [(hserves i').mp hi']
      exact h
  rw [hstable, ← hlost, ← or_iff_not_imp_left]
  apply or_congr_right'
  intro hne
  rw [serves_iff]
  cases hplace' : hashPlaceIn profile ((availableFrom 0 (before ++ e :: after)).length - 1)
      virtualNodes hashKey with
  | ok place' =>
      have hmoves : (availableFrom 0 before ++
          availableFrom (before.length + 1) after)[place']? = some i ↔
            place' = if place < (availableFrom 0 before).length then place else place - 1 :=
        getElem?_without (availableFrom_with havailable ▸ availableFrom_nodup 0 _)
          (availableFrom_with havailable ▸ hi) hne
      rw [hashedPosition_of_place (hless.symm ▸ hplace'), Except.ok.injEq, availableFrom_without,
        hmoves]
      have hown := mt hlost.mpr hne
      constructor
      · intro h
        exact ⟨place', rfl, placeFits_of_moves hown h⟩
      · rintro ⟨_, ⟨⟩, hfits⟩
        exact hfits.moves hown
  | error p =>
      constructor
      · intro h
        by_cases hnone : availableFrom 0 (before ++ e.withHealth .unhealthy :: after) = []
        · rw [hashedPosition, hnone] at h
          cases h
        · rw [hashedPosition_of_panic hnone (hless.symm ▸ hplace')] at h
          cases h
      · rintro ⟨_, ⟨⟩, _⟩

end

/-- An endpoint that was not on the ring leaves it as it is. -/
theorem stable_of_unavailable (havailable : e.isAvailable = false) :
    StableUnderLoss profile before e after virtualNodes hashKey := by
  refine ⟨?_, serves_back⟩
  intro i hi _
  have hlost : (e.withHealth .unhealthy).isAvailable = e.isAvailable := havailable.symm
  rw [serves_iff, hashedPosition_replaced hlost]
  exact hi.position

/-- Where there is no ring, no key has an endpoint to keep. -/
theorem stable_of_panic {p : Panic} (hsome : availableFrom 0 (before ++ e :: after) ≠ [])
    (hpanic : hashPlaceIn profile (availableFrom 0 (before ++ e :: after)).length virtualNodes
      hashKey = .error p) :
    StableUnderLoss profile before e after virtualNodes hashKey := by
  refine ⟨?_, serves_back⟩
  intro i hi _
  cases (hashedPosition_of_panic hsome hpanic).symm.trans hi.position

section
variable {n : ℕ}

/-- Where the ring fits, the quotient of the key's hash decides. -/
theorem stable_iff_of_fits (havailable : e.isAvailable = true)
    (hn : n = (availableFrom 0 (before ++ e :: after)).length)
    (hlost : (availableFrom 0 before).length < n) (hpos : 1 ≤ virtualNodes)
    (hfits : n * virtualNodes < 2 ^ 64) :
    StableUnderLoss profile before e after virtualNodes hashKey ↔
      QuotientFits n (availableFrom 0 before).length (keyHash hashKey / virtualNodes) := by
  have hplace : keyHash hashKey / virtualNodes % n < n := Nat.mod_lt _ (by omega)
  rw [stable_iff_of_place havailable hn hplace (hashPlaceIn_eq (by omega) hpos hfits)]
  by_cases hown : keyHash hashKey / virtualNodes % n = (availableFrom 0 before).length
  · exact ⟨fun _ => .inl hown, fun _ => .inl hown⟩
  · have hfits' : (n - 1) * virtualNodes < 2 ^ 64 :=
      lt_of_le_of_lt (Nat.mul_le_mul_right _ (Nat.sub_le _ 1)) hfits
    rw [hashPlaceIn_eq (by omega) hpos hfits', ← placeFits_quotient_iff hlost]
    constructor
    · rintro (h | ⟨place', hplace', hfit⟩)
      · exact absurd h hown
      · cases hplace'
        exact hfit
    · intro h
      exact .inr ⟨_, rfl, h⟩

/-- Where the size of the ring wraps, the wrapped places do. -/
theorem stable_iff_of_wraps (havailable : e.isAvailable = true)
    (hn : n = (availableFrom 0 (before ++ e :: after)).length)
    (hlost : (availableFrom 0 before).length < n) :
    StableUnderLoss .wrapping before e after virtualNodes hashKey ↔
      WrappedFits n (availableFrom 0 before).length virtualNodes (keyHash hashKey) := by
  have hsome : availableFrom 0 (before ++ e :: after) ≠ [] := by
    intro hnil
    rw [hn, hnil] at hlost
    exact absurd hlost (Nat.not_lt_zero _)
  by_cases hzero : n * virtualNodes % 2 ^ 64 = 0
  · rw [hn] at hzero
    exact ⟨fun _ => .inl (hn ▸ hzero), fun _ => stable_of_panic hsome (if_pos hzero)⟩
  · have hplace : hashPlaceIn .wrapping n virtualNodes hashKey =
        .ok (wrappedPlace n virtualNodes (keyHash hashKey)) := if_neg hzero
    have hlt : wrappedPlace n virtualNodes (keyHash hashKey) < n := Nat.mod_lt _ (by omega)
    rw [stable_iff_of_place havailable hn hlt hplace, WrappedFits, or_iff_right hzero]
    apply or_congr_right
    constructor
    · rintro ⟨place', hplace', hfit⟩
      by_cases hless : (n - 1) * virtualNodes % 2 ^ 64 = 0
      · rw [hashPlaceIn, if_pos hless] at hplace'
        cases hplace'
      · rw [hashPlaceIn, if_neg hless] at hplace'
        cases hplace'
        exact ⟨hless, hfit⟩
    · rintro ⟨hless, hfit⟩
      exact ⟨_, if_neg hless, hfit⟩

end

/-- **When keys stay where they are.** An endpoint that is available can be lost, exactly if
the quotient of the key's hash fits, or the size of the ring overflows, and the build panics
then or the wrapped places of the key fit. -/
theorem hashing_stable_iff (profile : Profile) (before : List EndpointState) (e : EndpointState)
    (after : List EndpointState) (virtualNodes : ℕ) (hashKey : Option Str)
    (hpos : 1 ≤ virtualNodes) :
    StableUnderLoss profile before e after virtualNodes hashKey ↔
      e.isAvailable = false ∨
      (((before ++ e :: after).filter EndpointState.isAvailable).length * virtualNodes < 2 ^ 64 ∧
        QuotientFits ((before ++ e :: after).filter EndpointState.isAvailable).length
          (before.filter EndpointState.isAvailable).length (keyHash hashKey / virtualNodes)) ∨
      (2 ^ 64 ≤ ((before ++ e :: after).filter EndpointState.isAvailable).length * virtualNodes ∧
        (profile = .checked ∨
          WrappedFits ((before ++ e :: after).filter EndpointState.isAvailable).length
            (before.filter EndpointState.isAvailable).length virtualNodes (keyHash hashKey))) := by
  rw [← availableFrom_length, ← availableFrom_length]
  cases havailable : e.isAvailable with
  | false => exact ⟨fun _ => .inl rfl, fun _ => stable_of_unavailable havailable⟩
  | true =>
  generalize hn : (availableFrom 0 (before ++ e :: after)).length = n
  have hlost : (availableFrom 0 before).length < n := by
    rw [← hn, availableFrom_append, availableFrom_cons_pos havailable, List.length_append,
      List.length_cons]
    omega
  rw [or_iff_right (Bool.true_eq_false ▸ not_false)]
  by_cases hfits : n * virtualNodes < 2 ^ 64
  · rw [stable_iff_of_fits havailable hn.symm hlost hpos hfits]
    have hover : ¬ 2 ^ 64 ≤ n * virtualNodes := Nat.not_le.mpr hfits
    rw [and_iff_right hfits, or_iff_left fun h => hover h.1]
  -- the size of the ring is computed with an overflow check, or wraps
  · rw [or_iff_right fun h => hfits h.1, and_iff_right (Nat.not_lt.mp hfits)]
    cases profile with
    | checked =>
        have hsome : availableFrom 0 (before ++ e :: after) ≠ [] := by
          intro hnil
          rw [← hn, hnil] at hlost
          exact absurd hlost (Nat.not_lt_zero _)
        rw [← hn] at hfits
        exact ⟨fun _ => .inl rfl, fun _ => stable_of_panic hsome (hashPlace_overflow hfits)⟩
    | wrapping =>
        have hnot : Profile.wrapping ≠ .checked := by decide
        rw [stable_iff_of_wraps havailable hn.symm hlost, or_iff_right hnot]

end

def firstBackend : EndpointState := .new "127.0.0.1:9001".toList 1

def secondBackend : EndpointState := .new "127.0.0.1:9002".toList 1

def thirdBackend : EndpointState := .new "127.0.0.1:9003".toList 1

/-- The first of three endpoints is lost, and a key of the third moves to the second, in
either build. -/
theorem hashing_not_stable :
    (∀ profile,
      Serves profile [firstBackend, secondBackend, thirdBackend] 150 (some "alice".toList) 2 ∧
        Serves profile [firstBackend.withHealth .unhealthy, secondBackend, thirdBackend] 150
          (some "alice".toList) 1) ∧
      ∀ profile, ¬ ∀ (before : List EndpointState) (e : EndpointState) (after : List EndpointState)
        (virtualNodes : ℕ) (hashKey : Option Str), 1 ≤ virtualNodes →
          StableUnderLoss profile before e after virtualNodes hashKey := by
  have hold : ∀ profile, Serves profile [firstBackend, secondBackend, thirdBackend] 150
      (some "alice".toList) 2 := by
    intro profile
    rw [serves_iff]
    cases profile <;> decide
  have hnew : ∀ profile, Serves profile
      [firstBackend.withHealth .unhealthy, secondBackend, thirdBackend] 150
        (some "alice".toList) 1 := by
    intro profile
    rw [serves_iff]
    cases profile <;> decide
  refine ⟨fun profile => ⟨hold profile, hnew profile⟩, ?_⟩
  intro profile h
  have hkept := (h [] firstBackend [secondBackend, thirdBackend] 150 (some "alice".toList)
    (by decide)).kept 2 (hold profile) (by decide)
  cases (hnew profile).position.symm.trans hkept.position

/-- The last of three is lost, and the requests without a key stay on the second. Where the
ring of all three overflows, a build that checks has no key to move, and one that wraps moves
`dave`. -/
theorem hashing_stable_iff_last :
    (∀ profile, StableUnderLoss profile [firstBackend, secondBackend] thirdBackend [] 150 none) ∧
      StableUnderLoss .checked [firstBackend] secondBackend [thirdBackend] 6148914691236517206
        (some "dave".toList) ∧
      ¬ StableUnderLoss .wrapping [firstBackend] secondBackend [thirdBackend] 6148914691236517206
        (some "dave".toList) := by
  refine ⟨?_, ?_, ?_⟩
  · intro profile
    exact (hashing_stable_iff profile [firstBackend, secondBackend] thirdBackend [] 150 none
      (by decide)).mpr (.inr (.inl ⟨by decide, .inr (.inl (by decide))⟩))
  · exact (hashing_stable_iff .checked [firstBackend] secondBackend [thirdBackend] _ _
      (by decide)).mpr (.inr (.inr ⟨by decide, .inl rfl⟩))
  · rw [hashing_stable_iff _ _ _ _ _ _ (by decide)]
    simp only [QuotientFits, WrappedFits, PlaceFits]
    decide

end Stateform
