import Mathlib
/-!
# Chunks — a list in slices of one size

A list is cut at every `n`-th place, or its elements are filled one by one into a chunk that leaves when it is full;
both give the same slices.
-/
namespace Chunks

variable {α β : Type}

/-- The slices of `n` elements, the last one with what is left. -/
def slices (n : Nat) (l : List α) : List (List α) :=
  (List.range ((l.length + n - 1) / n)).map fun i => (l.drop (n * i)).take n

theorem flatten_range_slices (n : Nat) (l : List α) (k : Nat) :
    ((List.range k).map fun i => (l.drop (n * i)).take n).flatten = l.take (n * k) := by
  induction k with
  | zero => simp
  | succ k ih =>
    rw [List.range_succ, List.map_append, List.flatten_append, ih, List.map_singleton, List.flatten_singleton,
      Nat.mul_succ, List.take_add]

theorem slices_bounds {n : Nat} (hn : 0 < n) (len : Nat) :
    len ≤ n * ((len + n - 1) / n) ∧ n * ((len + n - 1) / n) ≤ len + n - 1 := by
  have hdiv := Nat.div_add_mod (len + n - 1) n
  have hmod := Nat.mod_lt (len + n - 1) hn
  omega

theorem flatten_slices {n : Nat} (hn : 0 < n) (l : List α) : (slices n l).flatten = l := by
  unfold slices
  rw [flatten_range_slices, List.take_of_length_le (slices_bounds hn l.length).1]

theorem mem_slices {n : Nat} (hn : 0 < n) {l s : List α} (hs : s ∈ slices n l) :
    ∃ i, n * i < l.length ∧ s = (l.drop (n * i)).take n := by
  obtain ⟨i, hi, rfl⟩ := List.mem_map.1 hs
  refine ⟨i, ?_, rfl⟩
  have hle : n * (i + 1) ≤ n * ((l.length + n - 1) / n) := Nat.mul_le_mul_left n (List.mem_range.1 hi)
  have hbound := (slices_bounds hn l.length).2
  rw [Nat.mul_succ] at hle
  omega

/-- **No slice is empty or longer than `n`.** -/
theorem length_of_mem_slices {n : Nat} (hn : 0 < n) {l s : List α} (hs : s ∈ slices n l) :
    0 < s.length ∧ s.length ≤ n := by
  obtain ⟨i, hi, rfl⟩ := mem_slices hn hs
  rw [List.length_take, List.length_drop]
  omega

/-! ## Filling -/

/-- The chunks that leave while the elements are put into the current one, and the one that is left. -/
def fill (n : Nat) : List α → List α → List (List α)
  | chunk, [] => if 0 < chunk.length then [chunk] else []
  | chunk, a :: as => if n ≤ (chunk ++ [a]).length then (chunk ++ [a]) :: fill n [] as else fill n (chunk ++ [a]) as

theorem slices_nil {n : Nat} (hn : 0 < n) : slices n ([] : List α) = [] := by
  have hzero : (0 + n - 1) / n = 0 := Nat.div_eq_of_lt (by omega)
  unfold slices
  rw [List.length_nil, hzero]
  rfl

theorem slices_short {n : Nat} {l : List α} (hpos : 0 < l.length) (hle : l.length ≤ n) : slices n l = [l] := by
  have hone : (l.length + n - 1) / n = 1 := Nat.div_eq_of_lt_le (by omega) (by omega)
  unfold slices
  rw [hone, List.range_one, List.map_singleton, Nat.mul_zero, List.drop_zero, List.take_of_length_le hle]

theorem slices_append {n : Nat} (hn : 0 < n) {c : List α} (hc : c.length = n) (l : List α) :
    slices n (c ++ l) = c :: slices n l := by
  have hcount : ((c ++ l).length + n - 1) / n = (l.length + n - 1) / n + 1 := by
    rw [← Nat.add_div_right _ hn, List.length_append, hc]
    congr 1
    omega
  unfold slices
  rw [hcount, List.range_succ_eq_map, List.map_cons, List.map_map, Nat.mul_zero, List.drop_zero, List.take_left' hc]
  congr 1
  apply List.map_congr_left
  intro i _
  rw [Function.comp_apply, Nat.mul_succ, Nat.add_comm, ← List.drop_drop, List.drop_left' hc]

theorem fill_eq_slices {n : Nat} (hn : 0 < n) : ∀ (l chunk : List α), chunk.length < n →
    fill n chunk l = slices n (chunk ++ l)
  | [], chunk, hchunk => by
    rw [fill, List.append_nil]
    split
    · rename_i hpos
      rw [slices_short hpos (Nat.le_of_lt hchunk)]
    · rename_i hpos
      rw [List.eq_nil_of_length_eq_zero (Nat.eq_zero_of_not_pos hpos), slices_nil hn]
  | a :: as, chunk, hchunk => by
    have hlength : (chunk ++ [a]).length = chunk.length + 1 := by rw [List.length_append, List.length_singleton]
    rw [fill, List.append_cons chunk a as]
    split
    · rename_i hfull
      have hlength' : (chunk ++ [a]).length = n := by omega
      rw [fill_eq_slices hn as [] hn, List.nil_append, slices_append hn hlength']
    · rw [fill_eq_slices hn as (chunk ++ [a]) (by omega)]

end Chunks
