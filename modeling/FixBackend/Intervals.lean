import Mathlib
/-!
# Intervals — a range of time cut into closed intervals

Points in ascending order cut the range from a start to the last of them into closed intervals that share their ends.
Every position of the range lies in one interval, or in two when it is a point other than the last.
-/
namespace Intervals

variable {α β : Type} [LinearOrder β] (pos : α → β)

/-- The intervals from `s` to the first point, from there to the second and so on. -/
def consecutive : α → List α → List (α × α)
  | _, [] => []
  | s, t :: ts => (s, t) :: consecutive t ts

/-- How many of some intervals hold a position. -/
def holding (x : β) (ws : List (α × α)) : Nat := ws.countP (fun w => decide (pos w.1 ≤ x ∧ x ≤ pos w.2))

theorem holding_cons (x : β) (w : α × α) (ws : List (α × α)) :
    holding pos x (w :: ws) = holding pos x ws + if pos w.1 ≤ x ∧ x ≤ pos w.2 then 1 else 0 := by
  unfold holding
  rw [List.countP_cons]
  simp only [decide_eq_true_eq]

theorem holding_of_lt {x : β} : ∀ {s : α} {ts : List α}, x < pos s → (∀ t ∈ ts, x < pos t) →
    holding pos x (consecutive s ts) = 0
  | _, [], _, _ => rfl
  | s, t :: ts, hs, hts => by
    rw [consecutive, holding_cons, if_neg fun h => absurd h.1 (not_le.2 hs),
      holding_of_lt (hts t List.mem_cons_self) fun u hu => hts u (List.mem_cons_of_mem _ hu)]

/-- **Every position of the range lies in exactly one interval, but in two when it is a point other than the last.** -/
theorem holding_consecutive {x : β} : ∀ {s : α} {ts : List α} (hne : ts ≠ []), ts.Pairwise (fun a b => pos a < pos b) →
    pos s ≤ x → x ≤ pos (ts.getLast hne) →
      holding pos x (consecutive s ts) = if x ∈ ts.dropLast.map pos then 2 else 1
  | s, [t], _, _, hs, hlast => by
    rw [consecutive, holding_cons, if_pos ⟨hs, hlast⟩]
    rfl
  | s, t :: u :: ts, _, hsorted, hs, hlast => by
    rw [List.pairwise_cons] at hsorted
    obtain ⟨ht, hrest⟩ := hsorted
    have hdrop : (t :: u :: ts).dropLast = t :: (u :: ts).dropLast := rfl
    have hlater : ∀ y ∈ (u :: ts).dropLast, pos t < pos y := fun y hy => ht y (List.mem_of_mem_dropLast hy)
    rw [consecutive, holding_cons]
    rcases lt_trichotomy x (pos t) with hx | hx | hx
    · -- before the first point: only the first interval
      have hnot : x ∉ (t :: u :: ts).dropLast.map pos := by
        rw [hdrop, List.map_cons, List.mem_cons, List.mem_map, not_or]
        refine ⟨ne_of_lt hx, ?_⟩
        rintro ⟨y, hy, rfl⟩
        exact absurd (hx.trans (hlater y hy)) (lt_irrefl _)
      rw [holding_of_lt pos hx fun y hy => hx.trans (ht y hy), if_pos ⟨hs, hx.le⟩, if_neg hnot]
    · -- at the first point: the first two intervals
      subst hx
      have hu : pos t < pos u := ht u List.mem_cons_self
      have hzero : holding pos (pos t) (consecutive u ts) = 0 :=
        holding_of_lt pos hu fun y hy => ht y (List.mem_cons_of_mem _ hy)
      rw [if_pos ⟨hs, le_refl _⟩, if_pos (by rw [hdrop]; exact List.mem_cons_self), consecutive, holding_cons, hzero,
        if_pos ⟨le_refl _, hu.le⟩]
    · -- after it: the rest decides
      have hmem : x ∈ (t :: u :: ts).dropLast.map pos ↔ x ∈ (u :: ts).dropLast.map pos := by
        rw [hdrop, List.map_cons, List.mem_cons]
        exact ⟨fun h => h.resolve_left (ne_of_gt hx), Or.inr⟩
      rw [if_neg fun h => absurd h.2 (not_le.2 hx), Nat.add_zero,
        holding_consecutive (List.cons_ne_nil u ts) hrest hx.le (by simpa using hlast)]
      simp only [hmem]

theorem exists_of_holding {x : β} {ws : List (α × α)} (h : 0 < holding pos x ws) :
    ∃ w ∈ ws, pos w.1 ≤ x ∧ x ≤ pos w.2 := by
  obtain ⟨w, hw, hx⟩ := List.countP_pos_iff.1 h
  exact ⟨w, hw, of_decide_eq_true hx⟩

end Intervals
