import Mathlib.Data.List.Infix
import Mathlib.Logic.Function.Basic
import Mathlib.Tactic.Common

/-!
# Path maps

A path map holds, at each path (a list of segments), the items stored there in
the order they were added. It is what a prefix tree is for: `push` adds an
item at a path, `along` reads everything stored on the way down to a path,
the shortest path first. A map filled by a list of pushes holds at a path
exactly the pushed items of that path (`fill_apply`), and read backwards the
first item that passes a test has the longest path of all that pass
(`find?_reverse_along_longest`).
-/

namespace Stateform.Library

variable {σ α : Type*}

abbrev PathMap (σ α : Type*) : Type _ := List σ → List α

namespace PathMap

/-- Nothing stored anywhere. -/
def empty : PathMap σ α := fun _ => []

/-- Add an item at a path, after those already there. -/
def push [DecidableEq σ] (m : PathMap σ α) (p : List σ) (a : α) : PathMap σ α :=
  Function.update m p (m p ++ [a])

theorem push_apply [DecidableEq σ] (m : PathMap σ α) (p : List σ) (a : α) (q : List σ) :
    m.push p a q = if q = p then m q ++ [a] else m q := by
  by_cases h : q = p
  · subst h
    simp [push]
  · simp [push, h]

/-- Push a list of items, each at its own path. -/
def fill [DecidableEq σ] (m : PathMap σ α) (items : List (List σ × α)) : PathMap σ α :=
  items.foldl (fun m x => m.push x.1 x.2) m

theorem fill_apply [DecidableEq σ] (m : PathMap σ α) (items : List (List σ × α)) (q : List σ) :
    m.fill items q = m q ++ (items.filter (fun x => x.1 = q)).map Prod.snd := by
  induction items generalizing m with
  | nil => simp [fill]
  | cons x items ih =>
      rw [fill, List.foldl_cons, ← fill, ih, push_apply]
      by_cases h : q = x.1
      · simp [h]
      · simp [h, Ne.symm h]

/-- Everything stored at the prefixes of a path, the shortest prefix first. -/
def along (m : PathMap σ α) (q : List σ) : List α :=
  q.inits.flatMap m

@[simp] theorem along_nil (m : PathMap σ α) : m.along [] = m [] := by
  simp [along]

theorem along_cons (m : PathMap σ α) (s : σ) (q : List σ) :
    m.along (s :: q) = m [] ++ along (fun p => m (s :: p)) q := by
  simp [along, List.flatMap_map]

theorem mem_along {m : PathMap σ α} {q : List σ} {a : α} :
    a ∈ m.along q ↔ ∃ p, p <+: q ∧ a ∈ m p := by
  rw [along, List.mem_flatMap]
  simp only [List.mem_inits]

/-- Going down a path, the stored paths get longer. -/
theorem pairwise_along {m : PathMap σ α} {path : α → List σ}
    (hpath : ∀ p a, a ∈ m p → path a = p) (q : List σ) :
    (m.along q).Pairwise fun a b => (path a).length ≤ (path b).length := by
  induction q generalizing m path with
  | nil =>
      rw [along_nil, List.pairwise_iff_forall_sublist]
      intro a b hsub
      have ha := hpath [] a (hsub.subset (by simp))
      simp [ha]
  | cons s q ih =>
      rw [along_cons, List.pairwise_append]
      refine ⟨?_, ?_, ?_⟩
      · rw [List.pairwise_iff_forall_sublist]
        intro a b hsub
        have ha := hpath [] a (hsub.subset (by simp))
        simp [ha]
      · -- below the first segment every path starts with it
        have htail : ∀ p a, a ∈ m (s :: p) → (path a).tail = p := by
          intro p a ha
          simp [hpath _ a ha]
        refine (ih htail).imp_of_mem ?_
        intro a b ha hb hle
        rcases mem_along.mp ha with ⟨pa, -, ha⟩
        rcases mem_along.mp hb with ⟨pb, -, hb⟩
        simpa [hpath _ a ha, hpath _ b hb] using hle
      · intro a ha b _
        simp [hpath [] a ha]

theorem map_along {β : Type*} (f : α → β) (m : PathMap σ α) (q : List σ) :
    (m.along q).map f = along (fun p => (m p).map f) q := List.map_flatMap

/-- A test on the way to a path is a test at each of its prefixes. -/
theorem filter_along_each (ok : α → Bool) (m : PathMap σ α) (q : List σ) :
    (m.along q).filter ok = along (fun p => (m p).filter ok) q := by
  rw [along, List.filter_flatMap]
  rfl

/-- The last item on the way to a path depends on the last one at each prefix only. -/
theorem getLast?_along_congr {m m' : PathMap σ α} {q : List σ}
    (h : ∀ p, p <+: q → (m p).getLast? = (m' p).getLast?) :
    (m.along q).getLast? = (m'.along q).getLast? := by
  induction q generalizing m m' with
  | nil =>
      rw [along_nil, along_nil]
      exact h [] (List.prefix_refl [])
  | cons s q ih =>
      have hbelow := @ih (fun p => m (s :: p)) (fun p => m' (s :: p))
        fun p hp => h (s :: p) (List.cons_prefix_cons.mpr ⟨rfl, hp⟩)
      rw [along_cons, along_cons, List.getLast?_append, List.getLast?_append, hbelow,
        h [] List.nil_prefix]

/-- Of one length there is one prefix: its items, in the order they were added. -/
theorem filter_along {m : PathMap σ α} {len : α → ℕ}
    (hlen : ∀ p a, a ∈ m p → len a = p.length) (q : List σ) (n : ℕ) :
    (m.along q).filter (fun a => len a = n) = if n ≤ q.length then m (q.take n) else [] := by
  induction q generalizing m len n with
  | nil =>
      rw [along_nil]
      have hroot : ∀ a ∈ m [], len a = 0 := hlen []
      cases n with
      | zero => simpa using hroot
      | succ n =>
          rw [if_neg (by simp), List.filter_eq_nil_iff]
          intro a ha
          simp [hroot a ha]
  | cons s q ih =>
      rw [along_cons, List.filter_append]
      have hroot : ∀ a ∈ m [], len a = 0 := hlen []
      have hbelow : ∀ a ∈ along (fun p => m (s :: p)) q, len a - 1 + 1 = len a := by
        intro a ha
        obtain ⟨p, -, hmem⟩ := mem_along.mp ha
        simp [hlen (s :: p) a hmem]
      cases n with
      | zero =>
          have hnone : (along (fun p => m (s :: p)) q).filter (fun a => len a = 0) = [] := by
            rw [List.filter_eq_nil_iff]
            intro a ha
            have hpos := hbelow a ha
            simp only [decide_eq_true_eq]
            omega
          rw [hnone, List.append_nil]
          simpa using hroot
      | succ n =>
          have hnone : (m []).filter (fun a => len a = n + 1) = [] := by
            rw [List.filter_eq_nil_iff]
            intro a ha
            simp [hroot a ha]
          -- below the first segment every length is one less
          have hshift : (along (fun p => m (s :: p)) q).filter (fun a => len a = n + 1) =
              (along (fun p => m (s :: p)) q).filter (fun a => len a - 1 = n) := by
            apply List.filter_congr
            intro a ha
            have hpos := hbelow a ha
            rw [decide_eq_decide]
            omega
          rw [hnone, List.nil_append, hshift, ih (fun p a ha => by simp [hlen (s :: p) a ha])]
          simp

end PathMap

/-- In a list whose measure never falls, the first element from the right that
passes a test has the largest measure of all that pass. -/
theorem find?_reverse_le {l : List α} {f : α → ℕ} (hl : l.Pairwise fun a b => f a ≤ f b)
    {p : α → Bool} {a : α} (ha : l.reverse.find? p = some a) {b : α} (hb : b ∈ l)
    (hp : p b = true) : f b ≤ f a := by
  rcases List.find?_eq_some_iff_append.mp ha with ⟨-, pre, post, hsplit, hpre⟩
  have hl' : (l.reverse).Pairwise fun a b => f b ≤ f a := List.pairwise_reverse.mpr hl
  rw [hsplit] at hl'
  have hb' : b ∈ pre ++ a :: post := hsplit ▸ List.mem_reverse.mpr hb
  rcases List.mem_append.mp hb' with h | h
  · have hnot := hpre b h
    rw [hp] at hnot
    exact absurd hnot (by simp)
  · rcases List.mem_cons.mp h with rfl | h
    · exact Nat.le_refl _
    · exact (List.pairwise_cons.mp (List.pairwise_append.mp hl').2.1).1 b h

/-- Among the elements that pass, the last one is the last of the greatest measure. -/
theorem getLast?_filter_greatest {l : List α} {f : α → ℕ} (hl : l.Pairwise fun a b => f a ≤ f b)
    {p : α → Bool} {n : ℕ} (hle : ∀ a ∈ l, p a = true → f a ≤ n)
    (hsome : ∃ a ∈ l, p a = true ∧ f a = n) :
    (l.filter p).getLast? = ((l.filter fun a => f a = n).filter p).getLast? := by
  obtain ⟨b, hb, hpb, hfb⟩ := hsome
  obtain ⟨a, ha⟩ : ∃ a, l.reverse.find? p = some a := by
    rw [← Option.isSome_iff_exists, List.find?_isSome]
    exact ⟨b, List.mem_reverse.mpr hb, hpb⟩
  have hfa : f a = n := by
    have hge := find?_reverse_le hl ha hb hpb
    have hmem := List.mem_reverse.mp (List.mem_of_find?_eq_some ha)
    have hpa : p a = true := List.find?_some ha
    exact Nat.le_antisymm (hle a hmem hpa) (hfb ▸ hge)
  have hlast : (l.filter p).getLast? = some a := List.getLast?_filter.trans ha
  obtain ⟨before, hsplit⟩ := List.getLast?_eq_some_iff.mp hlast
  have hswap : (l.filter fun a => f a = n).filter p =
      (l.filter p).filter fun a => f a = n := by
    rw [List.filter_filter, List.filter_filter]
    apply List.filter_congr
    intro x _
    exact Bool.and_comm _ _
  have hkept : [a].filter (fun a => f a = n) = [a] := by simp [hfa]
  rw [hlast, hswap, hsplit, List.filter_append, hkept, List.getLast?_concat]

/-- **Longest path first**: reading `along` backwards, the first item that
passes has the longest path among those that pass. -/
theorem PathMap.find?_reverse_along_longest {m : PathMap σ α} (path : α → List σ)
    (hpath : ∀ p a, a ∈ m p → path a = p) {q : List σ} {ok : α → Bool} {a : α}
    (ha : (m.along q).reverse.find? ok = some a) {b : α} (hb : b ∈ m.along q)
    (hok : ok b = true) : (path b).length ≤ (path a).length :=
  find?_reverse_le (f := fun x => (path x).length) (pairwise_along hpath q) ha hb hok

end Stateform.Library
