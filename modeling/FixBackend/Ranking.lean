import FixBackend.Gathering
/-!
# Ranking — the best things of ranked groups

Things that stand in groups, each group with a rank: the groups are sorted, the best first, and of the things in them
each counts once, where it stands first.  No thing that comes later has a better rank than one that comes earlier.
-/
namespace Ranking

variable {V κ : Type} [DecidableEq V] [DecidableEq κ]

theorem nodup_eraseDups (xs : List V) : xs.eraseDups.Nodup := by
  induction h : xs.length using Nat.strongRecOn generalizing xs with
  | ind n ih =>
    cases xs with
    | nil => exact List.nodup_nil
    | cons x xs =>
      rw [List.eraseDups_cons, List.nodup_cons, List.mem_eraseDups]
      refine ⟨by simp, ih _ ?_ _ rfl⟩
      rw [← h]
      exact Nat.lt_succ_of_le (List.length_filter_le _ _)

/-- Whatever rank one thing has, the other has one as good. -/
def NoWorse (rated : V → Nat → Prop) (x y : V) : Prop := ∀ n, rated y n → ∃ m, rated x m ∧ n ≤ m

omit [DecidableEq V] in
theorem NoWorse.of_iff {rated rated' : V → Nat → Prop} (h : ∀ v n, rated v n ↔ rated' v n) {x y : V}
    (hxy : NoWorse rated x y) : NoWorse rated' x y := fun n hn => by
  obtain ⟨m, hm, hle⟩ := hxy n ((h y n).2 hn)
  exact ⟨m, (h x m).1 hm, hle⟩

/-- **The first occurrences** in a list of things with falling ranks. -/
theorem pairwise_eraseDups (ps : List (Nat × V)) (hps : ps.Pairwise fun p q => q.1 ≤ p.1) :
    (ps.map Prod.snd).eraseDups.Pairwise (NoWorse fun v n => (n, v) ∈ ps) := by
  induction h : ps.length using Nat.strongRecOn generalizing ps with
  | ind len ih =>
    cases ps with
    | nil => exact List.Pairwise.nil
    | cons p ps =>
      obtain ⟨hp, hps⟩ := List.pairwise_cons.1 hps
      have hrest : (ps.map Prod.snd).filter (fun b => !b == p.2) = (ps.filter fun q => !q.2 == p.2).map Prod.snd := by
        rw [List.filter_map]
        rfl
      have hlen : (ps.filter fun q => !q.2 == p.2).length < len := by
        rw [← h]
        exact Nat.lt_succ_of_le (List.length_filter_le _ _)
      rw [List.map_cons, List.eraseDups_cons, hrest, List.pairwise_cons]
      constructor
      · rintro y hy n hn
        rw [List.mem_eraseDups, List.mem_map] at hy
        obtain ⟨q, hq, rfl⟩ := hy
        refine ⟨p.1, List.mem_cons_self, ?_⟩
        obtain hn | hn := List.mem_cons.1 hn
        · rw [← hn]
        · exact hp _ hn
      · refine (ih _ hlen _ (hps.filter _) rfl).imp_of_mem fun {x y} _ hy hxy n hn => ?_
        rw [List.mem_eraseDups, List.mem_map] at hy
        obtain ⟨q, hq, rfl⟩ := hy
        obtain ⟨-, hne⟩ := List.mem_filter.1 hq
        have hmem : (n, q.2) ∈ ps.filter fun q => !q.2 == p.2 := by
          obtain hn | hn := List.mem_cons.1 hn
          · rw [← hn] at hne
            simp at hne
          · exact List.mem_filter.2 ⟨hn, hne⟩
        obtain ⟨m, hm, hle⟩ := hxy n hmem
        exact ⟨m, List.mem_cons_of_mem _ (List.mem_of_mem_filter hm), hle⟩

omit [DecidableEq V] in
theorem of_mem_take {R : V → V → Prop} {l : List V} (hl : l.Pairwise R) {n : Nat} {x y : V}
    (hx : x ∈ l.take n) (hy : y ∈ l)
    (hleft : y ∉ l.take n) : R x y := by
  rw [← List.take_append_drop n l] at hl hy
  exact (List.pairwise_append.1 hl).2.2 x hx y ((List.mem_append.1 hy).resolve_left hleft)

omit [DecidableEq V] in
theorem length_take_of_left {l : List V} {n : Nat} {y : V} (hy : y ∈ l) (hleft : y ∉ l.take n) :
    (l.take n).length = n := by
  rw [List.length_take]
  by_contra hlt
  rw [List.take_of_length_le (by omega)] at hleft
  exact hleft hy

/-! ## The values of a dictionary by the rank of the key -/

variable (iterate : Finset V → List V)

/-- The order in which a set is gone through names each of its things once. -/
def Iterates : Prop := ∀ s, (iterate s).Nodup ∧ ∀ v, v ∈ iterate s ↔ v ∈ s

/-- The groups, those with the best rank first. -/
def byRank (fn : κ → Nat) (x y : κ × Finset V) : Prop := fn y.1 ≤ fn x.1

instance (fn : κ → Nat) : DecidableRel (byRank (V := V) fn) := fun x y => inferInstanceAs (Decidable (fn y.1 ≤ fn x.1))

def valuesBy (d : Dict κ (Finset V)) (fn : κ → Nat) : List V :=
  ((d.rows.insertionSort (byRank fn)).flatMap fun x => iterate x.2).eraseDups

/-- A thing stands in a group of a rank. -/
def Rated (d : Dict κ (Finset V)) (fn : κ → Nat) (v : V) (n : Nat) : Prop := ∃ k s, d.get k = some s ∧ v ∈ s ∧ fn k = n

instance (fn : κ → Nat) : Std.Total (byRank (V := V) fn) := ⟨fun x y => Nat.le_total (fn y.1) (fn x.1)⟩

instance (fn : κ → Nat) : IsTrans (κ × Finset V) (byRank fn) := ⟨fun _ _ _ hxy hyz => Nat.le_trans hyz hxy⟩

variable {iterate}

omit [DecidableEq κ] in
theorem valuesBy_nodup (d : Dict κ (Finset V)) (fn : κ → Nat) : (valuesBy iterate d fn).Nodup := nodup_eraseDups _

def ranked (iterate : Finset V → List V) (d : Dict κ (Finset V)) (fn : κ → Nat) : List (Nat × V) :=
  (d.rows.insertionSort (byRank fn)).flatMap fun x => (iterate x.2).map fun v => (fn x.1, v)

omit [DecidableEq V] [DecidableEq κ] in
theorem ranked_values (d : Dict κ (Finset V)) (fn : κ → Nat) : (ranked iterate d fn).map Prod.snd =
    (d.rows.insertionSort (byRank fn)).flatMap fun x => iterate x.2 := by
  unfold ranked
  rw [List.map_flatMap]
  refine List.flatMap_congr fun x _ => ?_
  rw [List.map_map]
  exact List.map_id _

omit [DecidableEq V] in
theorem mem_ranked (hiterate : Iterates iterate) {d : Dict κ (Finset V)} {fn : κ → Nat} {n : Nat} {v : V} :
    (n, v) ∈ ranked iterate d fn ↔ Rated d fn v n := by
  unfold ranked Rated
  simp only [List.mem_flatMap, List.mem_map, Prod.mk.injEq, List.mem_insertionSort, Prod.exists, Dict.get_eq_some_iff]
  constructor
  · rintro ⟨k, s, hmem, w, hw, hn, rfl⟩
    exact ⟨k, s, hmem, (hiterate s).2 w |>.1 hw, hn⟩
  · rintro ⟨k, s, hmem, hv, hn⟩
    exact ⟨k, s, hmem, v, (hiterate s).2 v |>.2 hv, hn, rfl⟩

omit [DecidableEq V] [DecidableEq κ] in
theorem pairwise_ranked (d : Dict κ (Finset V)) (fn : κ → Nat) :
    (ranked iterate d fn).Pairwise fun p q => q.1 ≤ p.1 := by
  unfold ranked
  rw [List.pairwise_flatMap]
  refine ⟨fun x _ => ?_, ?_⟩
  · rw [List.pairwise_map]
    exact List.pairwise_of_forall fun _ _ => Nat.le_refl _
  · refine (List.pairwise_insertionSort (byRank fn) d.rows).imp fun {x y} hxy p hp q hq => ?_
    obtain ⟨v, -, rfl⟩ := List.mem_map.1 hp
    obtain ⟨w, -, rfl⟩ := List.mem_map.1 hq
    exact hxy

/-- **Each thing of the groups stands there once.** -/
theorem mem_valuesBy (hiterate : Iterates iterate) {d : Dict κ (Finset V)} {fn : κ → Nat} {v : V} :
    v ∈ valuesBy iterate d fn ↔ ∃ n, Rated d fn v n := by
  unfold valuesBy
  rw [List.mem_eraseDups, ← ranked_values, List.mem_map]
  constructor
  · rintro ⟨⟨n, w⟩, hmem, rfl⟩
    exact ⟨n, (mem_ranked hiterate).1 hmem⟩
  · rintro ⟨n, hn⟩
    exact ⟨(n, v), (mem_ranked hiterate).2 hn, rfl⟩

/-- **The best come first.** -/
theorem pairwise_valuesBy (hiterate : Iterates iterate) (d : Dict κ (Finset V)) (fn : κ → Nat) :
    (valuesBy iterate d fn).Pairwise (NoWorse (Rated d fn)) := by
  have hpairwise := pairwise_eraseDups (ranked iterate d fn) (pairwise_ranked d fn)
  rw [ranked_values] at hpairwise
  refine hpairwise.imp fun {x y} hxy n hn => ?_
  obtain ⟨m, hm, hle⟩ := hxy n ((mem_ranked hiterate).2 hn)
  exact ⟨m, (mem_ranked hiterate).1 hm, hle⟩

end Ranking
