import Mathlib
/-!
# Flags — sets of named bits in an integer

A flag type names bit positions.  An integer denotes the set of the flags whose bit it has: the union of two sets is
their bitwise or, and iterating over an integer visits its named bits in the order in which they are declared.
-/

/-- A type whose elements name different bits. -/
class IntFlag (φ : Type) where
  bit : φ → Nat
  bit_injective : Function.Injective bit
  all : List φ
  mem_all : ∀ f, f ∈ all

namespace IntFlag

variable {φ : Type} [IntFlag φ]

def mask (f : φ) : Nat := 2 ^ bit f

def has (m : Nat) (f : φ) : Bool := m.testBit (bit f)

def members (m : Nat) : List φ := all.filter (has m)

theorem mem_members {m : Nat} {f : φ} : f ∈ members m ↔ has m f = true := by
  unfold members
  rw [List.mem_filter]
  exact and_iff_right (mem_all f)

@[simp] theorem has_zero (f : φ) : has 0 f = false := Nat.zero_testBit _

@[simp] theorem has_or (a b : Nat) (f : φ) : has (a ||| b) f = (has a f || has b f) := Nat.testBit_or a b (bit f)

theorem has_mask [DecidableEq φ] (f g : φ) : has (mask f) g = decide (g = f) := by
  unfold has mask
  by_cases h : g = f
  · subst h
    simp [Nat.testBit_two_pow_self]
  · rw [Nat.testBit_two_pow_of_ne fun hbit => h (bit_injective hbit).symm]
    simp [h]

theorem has_foldl_or {ι : Type} (g : ι → Nat) (f : φ) : ∀ (l : List ι) (m : Nat),
    has (l.foldl (fun x i => x ||| g i) m) f = true ↔ has m f = true ∨ ∃ i ∈ l, has (g i) f = true
  | [], m => by simp
  | i :: l, m => by
    rw [List.foldl_cons, has_foldl_or g f l, has_or, Bool.or_eq_true]
    simp only [List.mem_cons, exists_eq_or_imp, or_assoc]

/-! ## The set of an integer -/

@[simp] theorem has_and (a b : Nat) (f : φ) : has (a &&& b) f = (has a f && has b f) := Nat.testBit_and a b (bit f)

def width (φ : Type) [IntFlag φ] : Nat := ((all : List φ).foldl (fun x f => x ||| mask f) 0).size

/-- The complement of an integer that keeps bits without a name: within the named bits, or within those of the integer
when it has others. -/
def complement (φ : Type) [IntFlag φ] (m : Nat) : Nat :=
  if m < 2 ^ width φ then 2 ^ width φ - (m + 1) else max (2 ^ width φ) (2 ^ (m + 1).size) - (m + 1)

theorem bit_lt_width (f : φ) : bit f < width φ := by
  have hself : has (mask f) f = true := Nat.testBit_two_pow_self
  have hall : has ((all : List φ).foldl (fun x f => x ||| mask f) 0) f = true :=
    (has_foldl_or mask f all 0).2 (.inr ⟨f, mem_all f, hself⟩)
  exact Nat.lt_size.2 (Nat.ge_two_pow_of_testBit hall)

theorem has_two_pow_sub {n m : Nat} {f : φ} (hm : m < 2 ^ n) (hf : bit f < n) : has (2 ^ n - (m + 1)) f = !has m f := by
  unfold has
  rw [Nat.testBit_two_pow_sub_succ hm, decide_eq_true hf, Bool.true_and]

@[simp] theorem has_complement (m : Nat) (f : φ) : has (complement φ m) f = !has m f := by
  have hf := bit_lt_width f
  unfold complement
  split
  · rename_i hm
    exact has_two_pow_sub hm hf
  · have hm : m + 1 < 2 ^ (m + 1).size := Nat.lt_size_self _
    rcases le_total (2 ^ width φ) (2 ^ (m + 1).size) with h | h
    · have hwidth : width φ ≤ (m + 1).size := (Nat.pow_le_pow_iff_right (by decide)).1 h
      rw [max_eq_right h]
      exact has_two_pow_sub (by omega) (by omega)
    · rw [max_eq_left h]
      exact has_two_pow_sub (by omega) hf

def flags (φ : Type) [IntFlag φ] (m : Nat) : Set φ := {f | has m f = true}

theorem mem_flags {m : Nat} {f : φ} : f ∈ flags φ m ↔ has m f = true := Iff.rfl

@[simp] theorem flags_zero : flags φ 0 = ∅ := by
  ext f
  simp [mem_flags]

theorem flags_or (a b : Nat) : flags φ (a ||| b) = flags φ a ∪ flags φ b := by
  ext f
  simp [mem_flags]

theorem flags_and_complement (a b : Nat) : flags φ (a &&& complement φ b) = flags φ a \ flags φ b := by
  ext f
  simp [mem_flags]

end IntFlag
