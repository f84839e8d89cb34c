import Mathlib.Algebra.Order.Field.Basic
import Mathlib.Tactic.Linarith
import Mathlib.Tactic.Ring
/-!
# TokenBucket — a bucket of tokens that refills at a constant rate

A bucket holds at most `capacity` tokens and gains `rate` of them in a unit of time.  A charge takes one token.  A
history of charges is the list of their times, the latest one first.
-/
namespace TokenBucket

variable {K : Type} [Field K] [LinearOrder K]

structure Bucket (K : Type) where
  capacity : K
  rate : K

/-- The tokens at the time of the last charge. -/
structure Level (K : Type) where
  tokens : K
  time : K

namespace Bucket

variable (b : Bucket K)

def refilled (l : Level K) (now : K) : K := min b.capacity (l.tokens + (now - l.time) * b.rate)

def level : List K → Level K
  | [] => ⟨b.capacity, 0⟩
  | t :: earlier => ⟨b.refilled (level earlier) t - 1, t⟩

def Admits (history : List K) (now : K) : Prop := 1 ≤ b.refilled (b.level history) now

instance (history : List K) (now : K) : Decidable (b.Admits history now) :=
  inferInstanceAs (Decidable (1 ≤ _))

def Admitted : List K → Prop
  | [] => True
  | t :: earlier => b.Admits earlier t ∧ Admitted earlier

def between (history : List K) (start stop : K) : List K :=
  history.filter fun t => decide (start ≤ t ∧ t ≤ stop)

variable {b} [IsStrictOrderedRing K]

theorem Admitted.tokens_nonneg (hcapacity : 0 ≤ b.capacity) {history : List K} (h : b.Admitted history) :
    0 ≤ (b.level history).tokens := by
  cases history with
  | nil => exact hcapacity
  | cons t earlier => exact sub_nonneg.2 h.1

/-- **What was charged since the start of an interval** is missing from the bucket, but for what it gained since. -/
theorem tokens_le_of_between {start stop : K} (hrate : 0 ≤ b.rate) :
    ∀ {t : K} {earlier : List K}, (t :: earlier).Pairwise (fun x y => y ≤ x) → start ≤ t → t ≤ stop →
      (b.level (t :: earlier)).tokens ≤
        b.capacity - (between (t :: earlier) start stop).length + (t - start) * b.rate
  | t, [], _, hstart, hstop => by
    have hone : between [t] start stop = [t] := by simp [between, hstart, hstop]
    have hfull : (b.level [t]).tokens ≤ b.capacity - 1 := sub_le_sub_right (min_le_left _ _) 1
    have hgain : 0 ≤ (t - start) * b.rate := mul_nonneg (sub_nonneg.2 hstart) hrate
    rw [hone, List.length_singleton, Nat.cast_one]
    linarith
  | t, s :: earlier, hsorted, hstart, hstop => by
    obtain ⟨hfirst, hrest⟩ := List.pairwise_cons.1 hsorted
    have hst : s ≤ t := hfirst s List.mem_cons_self
    have hcons : between (t :: s :: earlier) start stop = t :: between (s :: earlier) start stop := by
      simp [between, hstart, hstop]
    rw [hcons, List.length_cons, Nat.cast_add, Nat.cast_one]
    have hgain : 0 ≤ (t - start) * b.rate := mul_nonneg (sub_nonneg.2 hstart) hrate
    by_cases hs : start ≤ s
    · have ih := tokens_le_of_between hrate hrest hs (hst.trans hstop)
      have hrefill : (b.level (t :: s :: earlier)).tokens ≤
          (b.level (s :: earlier)).tokens + (t - s) * b.rate - 1 := sub_le_sub_right (min_le_right _ _) 1
      have hsplit : (t - start) * b.rate = (t - s) * b.rate + (s - start) * b.rate := by ring
      linarith
    · -- the charges before are all before the interval
      have hnone : between (s :: earlier) start stop = [] := by
        refine List.filter_eq_nil_iff.2 fun x hx => ?_
        have hxs : x ≤ s := by
          rcases List.mem_cons.1 hx with rfl | hx
          · exact le_refl _
          · exact (List.pairwise_cons.1 hrest).1 x hx
        simp only [decide_eq_true_eq, not_and]
        intro hx
        exact absurd (hx.trans hxs) hs
      have hfull : (b.level (t :: s :: earlier)).tokens ≤ b.capacity - 1 := sub_le_sub_right (min_le_left _ _) 1
      rw [hnone, List.length_nil, Nat.cast_zero]
      linarith

/-- **A bucket admits in an interval** no more than its capacity and what it gains meanwhile. -/
theorem Admitted.length_between_le (hcapacity : 0 ≤ b.capacity) (hrate : 0 ≤ b.rate) {start duration : K}
    (hduration : 0 ≤ duration) : ∀ {history : List K}, b.Admitted history → history.Pairwise (fun x y => y ≤ x) →
      ((between history start (start + duration)).length : K) ≤ b.capacity + duration * b.rate
  | [], _, _ => by
    have hgain : 0 ≤ duration * b.rate := mul_nonneg hduration hrate
    simpa [between] using add_nonneg hcapacity hgain
  | t :: earlier, h, hsorted => by
    by_cases hin : start ≤ t ∧ t ≤ start + duration
    · have htokens := tokens_le_of_between hrate hsorted hin.1 hin.2
      have hnonneg := h.tokens_nonneg hcapacity
      have hlate : (t - start) * b.rate ≤ duration * b.rate :=
        mul_le_mul_of_nonneg_right (by linarith [hin.2]) hrate
      linarith
    · have hskip : between (t :: earlier) start (start + duration) = between earlier start (start + duration) :=
        List.filter_cons_of_neg (by simpa using hin)
      rw [hskip]
      exact h.2.length_between_le hcapacity hrate hduration (List.pairwise_cons.1 hsorted).2

end Bucket

end TokenBucket
