import Mathlib
/-!
# Forests — nodes with at most one parent

Nodes under a relation from parent to child, in which no node has two parents and none is below itself.  The nodes above
a node are a chain, so what is below two children of a node has nothing in common.
-/
namespace Forests

open Relation

variable {V : Type} {child : V → V → Prop}

/-- The node is `d` itself or an ancestor of it. -/
abbrev Above (child : V → V → Prop) (a d : V) : Prop := ReflTransGen child a d

abbrev StrictlyAbove (child : V → V → Prop) (a d : V) : Prop := TransGen child a d

theorem above_iff {n v : V} : Above child n v ↔ v = n ∨ ∃ c, child n c ∧ Above child c v := by
  rw [eq_comm]
  exact ReflTransGen.cases_head_iff

structure IsForest (child : V → V → Prop) : Prop where
  oneParent : ∀ {u u' v}, child u v → child u' v → u = u'
  acyclic : ∀ v, ¬StrictlyAbove child v v

namespace IsForest

variable (h : IsForest child)
include h

theorem above_or_above {a b d : V} (ha : Above child a d) (hb : Above child b d) :
    Above child a b ∨ Above child b a := by
  have hunique : Relator.RightUnique (Function.swap child) := fun _ _ _ hu hu' => h.oneParent hu hu'
  rcases ReflTransGen.total_of_right_unique hunique (reflTransGen_swap.2 ha) (reflTransGen_swap.2 hb) with hab | hba
  · exact Or.inr (reflTransGen_swap.1 hab)
  · exact Or.inl (reflTransGen_swap.1 hba)

theorem strictlyAbove_child {a n c : V} (hc : child n c) : StrictlyAbove child a c ↔ Above child a n := by
  constructor
  · intro ha
    obtain ⟨b, hab, hbc⟩ := TransGen.tail'_iff.1 ha
    exact h.oneParent hbc hc ▸ hab
  · intro ha
    exact TransGen.tail'_iff.2 ⟨n, ha, hc⟩

theorem not_child_above {n c : V} (hc : child n c) : ¬Above child c n :=
  fun hcn => h.acyclic n (TransGen.head' hc hcn)

theorem siblings_apart {n c c' d : V} (hc : child n c) (hc' : child n c') (hne : c ≠ c') (hd : Above child c d) :
    ¬Above child c' d := by
  intro hd'
  -- One of the two would be strictly above the other, and so above their parent.
  rcases h.above_or_above hd hd' with hcc | hcc
  · rcases reflTransGen_iff_eq_or_transGen.1 hcc with heq | hlt
    · exact hne heq.symm
    · exact h.not_child_above hc ((h.strictlyAbove_child hc').1 hlt)
  · rcases reflTransGen_iff_eq_or_transGen.1 hcc with heq | hlt
    · exact hne heq
    · exact h.not_child_above hc' ((h.strictlyAbove_child hc).1 hlt)

end IsForest

/-! ## Orders in which parents come first -/

/-- The nodes in an order in which every parent comes before its children. -/
structure ParentsFirst [DecidableEq V] (child : V → V → Prop) (nodes : V → Prop) (order : List V) : Prop where
  nodup : order.Nodup
  mem : ∀ v, v ∈ order ↔ nodes v
  before : ∀ u v, child u v → order.idxOf u < order.idxOf v

section Ordered

variable [DecidableEq V] {nodes : V → Prop} {order : List V} (hfirst : ParentsFirst child nodes order)
include hfirst

theorem ParentsFirst.idxOf_lt {a d : V} (h : StrictlyAbove child a d) : order.idxOf a < order.idxOf d := by
  induction h with
  | single h => exact hfirst.before _ _ h
  | tail _ h ih => exact ih.trans (hfirst.before _ _ h)

theorem ParentsFirst.acyclic (v : V) : ¬StrictlyAbove child v v := fun h => Nat.lt_irrefl _ (hfirst.idxOf_lt h)

theorem ParentsFirst.exists_topmost {test : V → Prop} {a d : V} (ha : Above child a d) (htest : test a) :
    ∃ b, Above child b d ∧ test b ∧ ∀ x, StrictlyAbove child x b → ¬test x := by
  induction hi : order.idxOf a using Nat.strong_induction_on generalizing a with
  | _ i ih =>
    by_cases htop : ∀ x, StrictlyAbove child x a → ¬test x
    · exact ⟨a, ha, htest, htop⟩
    · push Not at htop
      obtain ⟨x, hx, hxtest⟩ := htop
      exact ih _ (hi ▸ hfirst.idxOf_lt hx) (hx.to_reflTransGen.trans ha) hxtest rfl

end Ordered

end Forests
