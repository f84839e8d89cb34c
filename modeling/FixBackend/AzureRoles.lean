import FixBackend.Forests
/-!
# AzureRoles — the reader role over a hierarchy of management groups

The graph and the traversal of `AzureSubscriptionService.create_user_app_registration` in
`cloud_accounts/azure_subscription_service.py`.  The topological order of `networkx` and the outcome of
`create_role_assignment`, which is called for one node after another, are parameters.
-/
namespace Fix

open Forests

namespace AzureRoles

abbrev NodeId := String

/-! ## The graph -/

/-- `networkx.DiGraph`: nodes, and edges between them in the order in which they were added. -/
structure DiGraph where
  nodes : List NodeId
  edges : List (NodeId × NodeId)
  distinct : edges.Nodup
  ends : ∀ e ∈ edges, e.1 ∈ nodes ∧ e.2 ∈ nodes

namespace DiGraph

def addNode (g : DiGraph) (n : NodeId) : DiGraph where
  nodes := if n ∈ g.nodes then g.nodes else g.nodes ++ [n]
  edges := g.edges
  distinct := g.distinct
  ends e he := by
    obtain ⟨h₁, h₂⟩ := g.ends e he
    split_ifs
    · exact ⟨h₁, h₂⟩
    · exact ⟨List.mem_append_left _ h₁, List.mem_append_left _ h₂⟩

theorem mem_addNode {g : DiGraph} {n m : NodeId} : m ∈ (g.addNode n).nodes ↔ m ∈ g.nodes ∨ m = n := by
  simp only [addNode]
  split_ifs with h
  · exact ⟨Or.inl, fun hm => hm.elim id fun heq => heq ▸ h⟩
  · simp

def addEdge (g : DiGraph) (u v : NodeId) : DiGraph where
  nodes := ((g.addNode u).addNode v).nodes
  edges := if (u, v) ∈ g.edges then g.edges else g.edges ++ [(u, v)]
  distinct := by
    split_ifs with h
    · exact g.distinct
    · rw [List.nodup_append]
      refine ⟨g.distinct, List.nodup_singleton _, fun x hx y hy hxy => h ?_⟩
      rw [List.mem_singleton] at hy
      exact hy ▸ hxy ▸ hx
  ends e he := by
    simp only [mem_addNode]
    have hmem : e ∈ g.edges ∨ e = (u, v) := by
      split_ifs at he
      · exact Or.inl he
      · simpa using he
    rcases hmem with hold | rfl
    · obtain ⟨h₁, h₂⟩ := g.ends e hold
      exact ⟨Or.inl (Or.inl h₁), Or.inl (Or.inl h₂)⟩
    · exact ⟨Or.inl (Or.inr rfl), Or.inr rfl⟩

theorem mem_addEdge {g : DiGraph} {u v : NodeId} {e : NodeId × NodeId} :
    e ∈ (g.addEdge u v).edges ↔ e ∈ g.edges ∨ e = (u, v) := by
  simp only [addEdge]
  split_ifs with h
  · exact ⟨Or.inl, fun he => he.elim id fun heq => heq ▸ h⟩
  · simp

def successors (g : DiGraph) (u : NodeId) : List NodeId := (g.edges.filter fun e => decide (e.1 = u)).map Prod.snd

def Child (g : DiGraph) (u v : NodeId) : Prop := (u, v) ∈ g.edges

theorem mem_successors {g : DiGraph} {u v : NodeId} : v ∈ g.successors u ↔ g.Child u v := by
  simp [successors, Child]

theorem nodup_successors (g : DiGraph) (u : NodeId) : (g.successors u).Nodup := by
  apply List.Nodup.map_on _ (g.distinct.filter _)
  rintro ⟨a, b⟩ ha ⟨a', b'⟩ ha' hb
  simp only [List.mem_filter, decide_eq_true_eq] at ha ha'
  simp_all

end DiGraph

instance : Inhabited DiGraph := ⟨⟨[], [], List.nodup_nil, fun _ h => nomatch h⟩⟩

/-- A row of the resource graph: a subscription with the names of its ancestors, from the root to the leaf. -/
structure SubAncestors where
  id : NodeId
  managementGroupAncestorsChain : List String

def mgId (name : String) : NodeId := "/providers/Microsoft.Management/managementGroups/" ++ name

def addAncestors : DiGraph → NodeId → List String → DiGraph
  | g, _, [] => g
  | g, below, ancestor :: ancestors => addAncestors (g.addEdge (mgId ancestor) below) (mgId ancestor) ancestors

def addSubscription (g : DiGraph) (sub : SubAncestors) : DiGraph :=
  addAncestors (g.addNode sub.id) sub.id sub.managementGroupAncestorsChain.reverse

/-- The graph of some management groups, given by their ids, and subscriptions. -/
def hierarchy (managementGroups : List NodeId) (subAncestors : List SubAncestors) : DiGraph :=
  subAncestors.foldl addSubscription (managementGroups.foldl DiGraph.addNode default)

/-! ## The traversal -/

/-- The nodes that are visited, and those for which a role assignment was attempted, in this order. -/
structure Traversal where
  visited : List NodeId
  attempts : List NodeId

section Traverse

variable (g : DiGraph) (createRoleAssignment : NodeId → Bool)

/-- `assign_role_dfs`, to a depth of `fuel` calls. -/
def assignRoleDfs : Nat → NodeId → Bool → Traversal → Option Traversal
  | 0, _, _, _ => none
  | fuel + 1, nodeId, alreadyAssigned, s =>
    if nodeId ∈ s.visited then some s
    else
      let visited := nodeId :: s.visited
      let (assigned, attempts) :=
        if alreadyAssigned then (true, s.attempts) else (createRoleAssignment nodeId, s.attempts ++ [nodeId])
      (g.successors nodeId).foldlM (fun s child => assignRoleDfs fuel child assigned s) ⟨visited, attempts⟩

def assignRoles (topologicalSort : DiGraph → List NodeId) (fuel : Nat) : Option Traversal :=
  (topologicalSort g).foldlM (fun s node => assignRoleDfs g createRoleAssignment fuel node false s) ⟨[], []⟩

end Traverse

/-! ## What a call explores -/

section Exploring

variable {g : DiGraph} {createRoleAssignment : NodeId → Bool}

/-- No role is assigned strictly above the node. -/
def Open (g : DiGraph) (createRoleAssignment : NodeId → Bool) (d : NodeId) : Prop :=
  ∀ a, StrictlyAbove g.Child a d → createRoleAssignment a = false

/-- From `s` to `s'` the nodes of a part are visited, and the open ones among them attempted, once each. -/
structure Explored (g : DiGraph) (createRoleAssignment : NodeId → Bool) (part : NodeId → Prop) (s s' : Traversal) :
    Prop where
  visited : ∀ v, v ∈ s'.visited ↔ v ∈ s.visited ∨ part v
  attempts : ∃ new, s'.attempts = s.attempts ++ new ∧ new.Nodup ∧
    ∀ d, d ∈ new ↔ part d ∧ Open g createRoleAssignment d

theorem Explored.congr {part part' : NodeId → Prop} {s s' : Traversal}
    (h : Explored g createRoleAssignment part s s') (hpart : ∀ v, part v ↔ part' v) :
    Explored g createRoleAssignment part' s s' := by
  rwa [← funext fun v => propext (hpart v)]

theorem Explored.append {part part' : NodeId → Prop} {s s₁ s' : Traversal}
    (h : Explored g createRoleAssignment part s s₁) (h' : Explored g createRoleAssignment part' s₁ s')
    (hapart : ∀ v, part v → ¬part' v) : Explored g createRoleAssignment (fun v => part v ∨ part' v) s s' := by
  obtain ⟨new, hnew, hnodup, hmem⟩ := h.attempts
  obtain ⟨new', hnew', hnodup', hmem'⟩ := h'.attempts
  refine ⟨fun v => ?_, new ++ new', ?_, ?_, fun d => ?_⟩
  · rw [h'.visited, h.visited, or_assoc]
  · rw [hnew', hnew, List.append_assoc]
  · rw [List.nodup_append]
    refine ⟨hnodup, hnodup', fun a ha b hb hab => ?_⟩
    subst hab
    exact hapart a ((hmem a).1 ha).1 ((hmem' a).1 hb).1
  · rw [List.mem_append, hmem, hmem', or_and_right]

theorem Explored.refl (s : Traversal) : Explored g createRoleAssignment (fun _ => False) s s :=
  ⟨fun v => by simp, [], by simp, List.nodup_nil, fun d => by simp⟩

variable (hforest : IsForest g.Child)
include hforest

theorem open_child {n c : NodeId} (hc : g.Child n c) :
    Open g createRoleAssignment c ↔ Open g createRoleAssignment n ∧ createRoleAssignment n = false := by
  unfold Open
  simp only [hforest.strictlyAbove_child hc]
  constructor
  · intro h
    exact ⟨fun a ha => h a ha.to_reflTransGen, h n .refl⟩
  · rintro ⟨habove, hn⟩ a ha
    rcases Relation.reflTransGen_iff_eq_or_transGen.1 ha with heq | hlt
    · exact heq ▸ hn
    · exact habove a hlt

/-- What a call to some depth does at a node of which nothing is visited yet. -/
def CallExplores (g : DiGraph) (createRoleAssignment : NodeId → Bool) (fuel : Nat) (n : NodeId) : Prop :=
  ∀ assigned s, (∀ v, Above g.Child n v → v ∉ s.visited) → (assigned = false ↔ Open g createRoleAssignment n) →
    ∃ s', assignRoleDfs g createRoleAssignment fuel n assigned s = some s' ∧
      Explored g createRoleAssignment (Above g.Child n) s s'

theorem children_explored {fuel : Nat} {n : NodeId} {assigned : Bool} : ∀ (children : List NodeId) (s : Traversal),
    children.Nodup → (∀ c ∈ children, g.Child n c ∧ CallExplores g createRoleAssignment fuel c) →
    (∀ c ∈ children, ∀ v, Above g.Child c v → v ∉ s.visited) →
    (assigned = false ↔ Open g createRoleAssignment n ∧ createRoleAssignment n = false) →
    ∃ s', children.foldlM (fun s child => assignRoleDfs g createRoleAssignment fuel child assigned s) s = some s' ∧
      Explored g createRoleAssignment (fun v => ∃ c ∈ children, Above g.Child c v) s s'
  | [], s, _, _, _, _ => ⟨s, rfl, (Explored.refl s).congr fun v => by simp⟩
  | c :: children, s, hnodup, hcalls, hfresh, hassigned => by
    obtain ⟨hnotin, hnodup'⟩ := List.nodup_cons.1 hnodup
    obtain ⟨hc, hcall⟩ := hcalls c List.mem_cons_self
    obtain ⟨s₁, h₁, hexplored₁⟩ := hcall assigned s (hfresh c List.mem_cons_self)
      (by rw [hassigned, open_child hforest hc])
    -- What is below the other children is still not visited.
    have hapart : ∀ c' ∈ children, ∀ v, Above g.Child c v → ¬Above g.Child c' v := fun c' hc' v hv =>
      hforest.siblings_apart hc (hcalls c' (List.mem_cons_of_mem _ hc')).1 (fun heq => hnotin (heq ▸ hc')) hv
    have hfresh' : ∀ c' ∈ children, ∀ v, Above g.Child c' v → v ∉ s₁.visited := by
      intro c' hc' v hv hmem
      rcases (hexplored₁.visited v).1 hmem with hold | hnew
      · exact hfresh c' (List.mem_cons_of_mem _ hc') v hv hold
      · exact hapart c' hc' v hnew hv
    obtain ⟨s', h', hexplored'⟩ := children_explored children s₁ hnodup'
      (fun c' hc' => hcalls c' (List.mem_cons_of_mem _ hc')) hfresh' hassigned
    refine ⟨s', ?_, (hexplored₁.append hexplored' ?_).congr fun v => by simp⟩
    · rw [List.foldlM_cons, h₁]
      exact h'
    · rintro v hv ⟨c', hc', hv'⟩
      exact hapart c' hc' v hv hv'

omit hforest in
theorem assignRoleDfs_succ {fuel : Nat} {n : NodeId} {assigned : Bool} {s : Traversal} (h : n ∉ s.visited) :
    assignRoleDfs g createRoleAssignment (fuel + 1) n assigned s =
      (g.successors n).foldlM
        (fun s child => assignRoleDfs g createRoleAssignment fuel child (assigned || createRoleAssignment n) s)
        ⟨n :: s.visited, s.attempts ++ if assigned then [] else [n]⟩ := by
  rw [assignRoleDfs, if_neg h]
  cases assigned <;> simp

omit hforest in
theorem explored_self {n : NodeId} {assigned : Bool} (s : Traversal)
    (hassigned : assigned = false ↔ Open g createRoleAssignment n) :
    Explored g createRoleAssignment (· = n) s ⟨n :: s.visited, s.attempts ++ if assigned then [] else [n]⟩ := by
  refine ⟨fun v => by rw [List.mem_cons, or_comm], _, rfl, ?_, fun d => ?_⟩
  · cases assigned <;> simp
  · constructor
    · intro hd
      cases assigned with
      | true => cases hd
      | false =>
        obtain rfl := List.mem_singleton.1 hd
        exact ⟨rfl, hassigned.1 rfl⟩
    · rintro ⟨rfl, hopen⟩
      rw [hassigned.2 hopen]
      exact List.mem_singleton_self _

variable {order : List NodeId} (hfirst : ParentsFirst g.Child (· ∈ g.nodes) order)
include hfirst

/-- **A call that is deep enough explores what is at its node or below.** -/
theorem call_explores (fuel : Nat) (n : NodeId) (hfuel : order.length - order.idxOf n < fuel) :
    CallExplores g createRoleAssignment fuel n := by
  induction fuel generalizing n with
  | zero => omega
  | succ fuel ih =>
    intro assigned s hfresh hassigned
    rw [assignRoleDfs_succ (hfresh n .refl)]
    have hcalls : ∀ c ∈ g.successors n, g.Child n c ∧ CallExplores g createRoleAssignment fuel c := by
      intro c hc
      have hchild := DiGraph.mem_successors.1 hc
      have hbefore := hfirst.before n c hchild
      have hlength : order.idxOf c ≤ order.length := List.idxOf_le_length
      exact ⟨hchild, ih c (by omega)⟩
    have hfresh' : ∀ c ∈ g.successors n, ∀ v, Above g.Child c v → v ∉ n :: s.visited := by
      intro c hc v hv hmem
      have hchild := DiGraph.mem_successors.1 hc
      rcases List.mem_cons.1 hmem with rfl | hold
      · exact hforest.not_child_above hchild hv
      · exact hfresh v (.head hchild hv) hold
    have hbelow : (assigned || createRoleAssignment n) = false ↔
        Open g createRoleAssignment n ∧ createRoleAssignment n = false := by
      rw [Bool.or_eq_false_iff, hassigned]
    obtain ⟨s', h', hexplored⟩ := children_explored hforest (g.successors n)
      ⟨n :: s.visited, s.attempts ++ if assigned then [] else [n]⟩ (g.nodup_successors n) hcalls hfresh' hbelow
    refine ⟨s', h', ((explored_self s hassigned).append hexplored ?_).congr fun v => ?_⟩
    · rintro v rfl ⟨c, hc, hv⟩
      exact hforest.not_child_above (DiGraph.mem_successors.1 hc) hv
    · simp only [above_iff (n := n), DiGraph.mem_successors]

abbrev UpTo (g : DiGraph) (done : List NodeId) (v : NodeId) : Prop := ∃ m ∈ done, Above g.Child m v

/-- A node of the loop that is not visited yet has nothing above it, and nothing below it that is visited. -/
theorem root_of_not_upTo {done rest : List NodeId} {n : NodeId} (horder : order = done ++ n :: rest)
    (hnew : ¬UpTo g done n) : (∀ a, ¬StrictlyAbove g.Child a n) ∧ ∀ v, Above g.Child n v → ¬UpTo g done v := by
  have hnotin : n ∉ done := fun h => hnew ⟨n, h, .refl⟩
  have hidx : order.idxOf n = done.length := by
    rw [horder, List.idxOf_append_of_notMem hnotin, List.idxOf_cons_self, Nat.add_zero]
  have hdone : ∀ m, m ∈ order → order.idxOf m < order.idxOf n → m ∈ done := by
    intro m hm hlt
    by_contra hout
    rw [hidx, horder, List.idxOf_append_of_notMem hout] at hlt
    omega
  constructor
  · intro a ha
    obtain ⟨p, -, hp⟩ := Relation.TransGen.tail'_iff.1 ha
    have hmem : p ∈ order := (hfirst.mem p).2 (g.ends _ hp).1
    exact hnew ⟨p, hdone p hmem (hfirst.before p n hp), .single hp⟩
  · rintro v hv ⟨m, hm, hmv⟩
    rcases hforest.above_or_above hv hmv with hnm | hmn
    · rcases Relation.reflTransGen_iff_eq_or_transGen.1 hnm with heq | hlt
      · exact hnotin (heq ▸ hm)
      · have hbefore := hfirst.idxOf_lt hlt
        have hlength : order.idxOf m < done.length := by
          rw [horder, List.idxOf_append_of_mem hm]
          exact List.idxOf_lt_length_of_mem hm
        omega
    · exact hnew ⟨m, hm, hmn⟩

theorem loop_explored {fuel : Nat} (hfuel : order.length < fuel) : ∀ (rest done : List NodeId) (s : Traversal),
    order = done ++ rest → Explored g createRoleAssignment (UpTo g done) ⟨[], []⟩ s →
    ∃ s', rest.foldlM (fun s node => assignRoleDfs g createRoleAssignment fuel node false s) s = some s' ∧
      Explored g createRoleAssignment (UpTo g order) ⟨[], []⟩ s'
  | [], done, s, horder, hs => ⟨s, rfl, by rwa [horder, List.append_nil]⟩
  | n :: rest, done, s, horder, hs => by
    have hvisited : ∀ v, v ∈ s.visited ↔ UpTo g done v := fun v => by simp [hs.visited v]
    have hupTo : ∀ v, UpTo g (done ++ [n]) v ↔ UpTo g done v ∨ Above g.Child n v := fun v => by
      simp [UpTo, or_and_right, exists_or]
    obtain ⟨s₁, h₁, hexplored⟩ : ∃ s₁, assignRoleDfs g createRoleAssignment fuel n false s = some s₁ ∧
        Explored g createRoleAssignment (UpTo g (done ++ [n])) ⟨[], []⟩ s₁ := by
      by_cases hmem : n ∈ s.visited
      · -- The node was visited below an earlier one, and so was all that is below it.
        obtain ⟨m, hm, hmn⟩ := (hvisited n).1 hmem
        obtain ⟨depth, rfl⟩ := Nat.exists_eq_add_of_lt hfuel
        refine ⟨s, by rw [assignRoleDfs, if_pos hmem], hs.congr fun v => ?_⟩
        rw [hupTo]
        exact ⟨Or.inl, fun h => h.elim id fun hv => ⟨m, hm, hmn.trans hv⟩⟩
      · obtain ⟨hroot, hbelow⟩ := root_of_not_upTo hforest hfirst horder fun h => hmem ((hvisited n).2 h)
        have hopen : Open g createRoleAssignment n := fun a ha => absurd ha (hroot a)
        have hcalls : CallExplores g createRoleAssignment fuel n := call_explores hforest hfirst fuel n (by omega)
        obtain ⟨s₁, h₁, hcall⟩ :=
          hcalls false s (fun v hv hin => hbelow v hv ((hvisited v).1 hin)) (iff_of_true rfl hopen)
        refine ⟨s₁, h₁, (hs.append hcall fun v hv hnv => hbelow v hnv hv).congr fun v => ?_⟩
        rw [hupTo]
    obtain ⟨s', h', hrest⟩ := loop_explored hfuel rest (done ++ [n]) s₁ (by simp [horder]) hexplored
    refine ⟨s', ?_, hrest⟩
    rw [List.foldlM_cons, h₁]
    exact h'

end Exploring

/-! ## More fuel -/

theorem foldlM_some_mono {σ α : Type} {f f' : σ → α → Option σ} (h : ∀ s a s', f s a = some s' → f' s a = some s') :
    ∀ (l : List α) (s s' : σ), l.foldlM f s = some s' → l.foldlM f' s = some s'
  | [], _, _, hs => hs
  | a :: l, s, s', hs => by
    rw [List.foldlM_cons] at hs ⊢
    obtain ⟨s₁, h₁, hrest⟩ := Option.bind_eq_some_iff.1 hs
    exact Option.bind_eq_some_iff.2 ⟨s₁, h s a s₁ h₁, foldlM_some_mono h l s₁ s' hrest⟩

theorem assignRoleDfs_mono {g : DiGraph} {createRoleAssignment : NodeId → Bool} {fuel fuel' : Nat} (hle : fuel ≤ fuel')
    {n : NodeId} {assigned : Bool} {s s' : Traversal}
    (h : assignRoleDfs g createRoleAssignment fuel n assigned s = some s') :
    assignRoleDfs g createRoleAssignment fuel' n assigned s = some s' := by
  induction fuel generalizing fuel' n assigned s s' with
  | zero => cases h
  | succ fuel ih =>
    obtain ⟨fuel', rfl⟩ := Nat.exists_eq_add_of_le' hle
    rw [← Nat.add_assoc] at hle ⊢
    by_cases hmem : n ∈ s.visited
    · rw [assignRoleDfs, if_pos hmem] at h ⊢
      exact h
    · rw [assignRoleDfs_succ hmem] at h ⊢
      exact foldlM_some_mono (fun s c s' hc => ih (by omega) hc) _ _ _ h

/-! ## The hierarchy of the chains -/

/-- The nodes of a chain, from the root down to the subscription. -/
def SubAncestors.path (sub : SubAncestors) : List NodeId := sub.managementGroupAncestorsChain.map mgId ++ [sub.id]

/-- The parent of a node comes right before it in the chain of some subscription. -/
def ParentOf (subAncestors : List SubAncestors) (p c : NodeId) : Prop := ∃ sub ∈ subAncestors, [p, c] <:+: sub.path

theorem pair_infix_concat {xs : List NodeId} {x y p c : NodeId} :
    [p, c] <:+: xs ++ [x] ++ [y] ↔ [p, c] <:+: xs ++ [x] ∨ (p, c) = (x, y) := by
  rw [List.infix_concat_iff, or_comm]
  apply or_congr_right
  constructor
  · intro h
    have hpair : [p, c] <:+ [x, y] := List.suffix_of_suffix_length_le h ⟨xs, by simp⟩ (le_refl 2)
    simpa using hpair.eq_of_length rfl
  · rintro h
    obtain ⟨rfl, rfl⟩ := Prod.mk.inj h
    exact ⟨xs, by simp⟩

theorem child_addAncestors {p c : NodeId} : ∀ (ancestors : List String) (g : DiGraph) (below : NodeId),
    (addAncestors g below ancestors).Child p c ↔ g.Child p c ∨ [p, c] <:+: ancestors.reverse.map mgId ++ [below]
  | [], g, below => by
    have hshort : ¬[p, c] <:+: [below] := fun h => absurd h.length_le (by simp)
    simp [addAncestors, hshort]
  | ancestor :: ancestors, g, below => by
    have hedge : (g.addEdge (mgId ancestor) below).Child p c ↔ g.Child p c ∨ (p, c) = (mgId ancestor, below) :=
      DiGraph.mem_addEdge
    rw [addAncestors, child_addAncestors ancestors, hedge, List.reverse_cons, List.map_append, List.map_singleton,
      pair_infix_concat, or_assoc]
    exact or_congr_right or_comm

theorem child_addSubscription {g : DiGraph} {sub : SubAncestors} {p c : NodeId} :
    (addSubscription g sub).Child p c ↔ g.Child p c ∨ [p, c] <:+: sub.path := by
  unfold addSubscription
  rw [child_addAncestors, List.reverse_reverse]
  rfl

/-- **The graph has the edges of the chains**, and no others. -/
theorem child_hierarchy (managementGroups : List NodeId) (subAncestors : List SubAncestors) :
    (hierarchy managementGroups subAncestors).Child = ParentOf subAncestors := by
  have hgroups : ∀ p c, ¬(managementGroups.foldl DiGraph.addNode default).Child p c := by
    intro p c
    induction managementGroups using List.reverseRecOn with
    | nil => exact List.not_mem_nil
    | append_singleton groups group ih =>
      rw [List.foldl_concat]
      exact ih
  funext p c
  rw [eq_iff_iff]
  unfold hierarchy
  induction subAncestors using List.reverseRecOn with
  | nil => simpa [ParentOf] using hgroups p c
  | append_singleton subs sub ih =>
    rw [List.foldl_concat, child_addSubscription, ih]
    simp [ParentOf, or_and_right, exists_or]

theorem mem_nodes_addAncestors {n : NodeId} : ∀ (ancestors : List String) {g : DiGraph} {below : NodeId},
    n ∈ g.nodes → n ∈ (addAncestors g below ancestors).nodes
  | [], _, _, h => h
  | _ :: ancestors, _, _, h =>
    mem_nodes_addAncestors ancestors (DiGraph.mem_addNode.2 (Or.inl (DiGraph.mem_addNode.2 (Or.inl h))))

theorem sub_mem_nodes (managementGroups : List NodeId) {subAncestors : List SubAncestors} {sub : SubAncestors}
    (hsub : sub ∈ subAncestors) : sub.id ∈ (hierarchy managementGroups subAncestors).nodes := by
  unfold hierarchy
  induction subAncestors using List.reverseRecOn with
  | nil => cases hsub
  | append_singleton subs last ih =>
    rw [List.foldl_concat]
    apply mem_nodes_addAncestors
    rw [DiGraph.mem_addNode]
    rcases List.mem_append.1 hsub with hmem | hlast
    · exact Or.inl (ih hmem)
    · exact Or.inr (congrArg SubAncestors.id (List.mem_singleton.1 hlast))

theorem mem_nodes_of_above {g : DiGraph} {a d : NodeId} (h : Above g.Child a d) (hd : d ∈ g.nodes) : a ∈ g.nodes := by
  rcases above_iff.1 h with rfl | ⟨c, hc, -⟩
  · exact hd
  · exact (g.ends _ hc).1

/-- `networkx.topological_sort` of a graph, when it has no cycles. -/
def SortsTopologically (topologicalSort : DiGraph → List NodeId) (g : DiGraph) : Prop :=
  (∀ v, ¬StrictlyAbove g.Child v v) → ParentsFirst g.Child (· ∈ g.nodes) (topologicalSort g)

/-- **Role assignment covers the hierarchy**: where the chains form a forest, the traversal ends, attempts no node twice
and none below a success, and covers every subscription for which the assignment would succeed at itself or above. -/
theorem assignRoles_covers {topologicalSort : DiGraph → List NodeId} {managementGroups : List NodeId}
    {subAncestors : List SubAncestors}
    (hsort : SortsTopologically topologicalSort (hierarchy managementGroups subAncestors))
    (hforest : IsForest (ParentOf subAncestors)) (createRoleAssignment : NodeId → Bool) :
    let g := hierarchy managementGroups subAncestors
    ∃ s, (∀ fuel, (topologicalSort g).length < fuel →
        assignRoles g createRoleAssignment topologicalSort fuel = some s) ∧
      s.attempts.Nodup ∧
      (∀ a ∈ s.attempts, createRoleAssignment a = true →
        ∀ d, StrictlyAbove (ParentOf subAncestors) a d → d ∉ s.attempts) ∧
      ∀ sub ∈ subAncestors, (∃ a, Above (ParentOf subAncestors) a sub.id ∧ createRoleAssignment a = true) →
        ∃ a ∈ s.attempts, Above (ParentOf subAncestors) a sub.id ∧ createRoleAssignment a = true := by
  intro g
  have hchild : g.Child = ParentOf subAncestors := child_hierarchy managementGroups subAncestors
  rw [← hchild] at hforest ⊢
  have hfirst := hsort hforest.acyclic
  have hstart : Explored g createRoleAssignment (UpTo g []) ⟨[], []⟩ ⟨[], []⟩ :=
    (Explored.refl _).congr fun v => by simp [UpTo]
  obtain ⟨s, hs, hexplored⟩ := loop_explored hforest hfirst (Nat.lt_succ_self _) (topologicalSort g) [] _ rfl hstart
  obtain ⟨new, hnew, hnodup, hmem⟩ := hexplored.attempts
  obtain rfl : s.attempts = new := hnew
  refine ⟨s, fun fuel hfuel => ?_, hnodup, fun a ha hsuccess d hd hdmem => ?_, fun sub hsub hsome => ?_⟩
  · exact foldlM_some_mono (fun _ _ _ h => assignRoleDfs_mono hfuel h) _ _ _ hs
  · have hopen := ((hmem d).1 hdmem).2 a hd
    rw [hsuccess] at hopen
    cases hopen
  · obtain ⟨a, ha, hsuccess⟩ := hsome
    obtain ⟨b, hb, hbsuccess, htop⟩ : ∃ b, Above g.Child b sub.id ∧ createRoleAssignment b = true ∧
        ∀ x, StrictlyAbove g.Child x b → ¬createRoleAssignment x = true := hfirst.exists_topmost ha hsuccess
    have hbnode : b ∈ g.nodes := mem_nodes_of_above hb (sub_mem_nodes managementGroups hsub)
    refine ⟨b, (hmem b).2 ⟨⟨b, (hfirst.mem b).2 hbnode, .refl⟩, fun x hx => ?_⟩, hb, hbsuccess⟩
    exact Bool.eq_false_iff.2 (htop x hx)

/-- A root with a team, and a subscription in each of them. -/
def twoSubscriptions : List SubAncestors := [⟨"/subscriptions/1", ["root"]⟩, ⟨"/subscriptions/2", ["root", "team"]⟩]

def rootFirst : List NodeId := [mgId "root", mgId "team", "/subscriptions/1", "/subscriptions/2"]

theorem rootFirst_parentsFirst : ParentsFirst (hierarchy [mgId "root", mgId "team"] twoSubscriptions).Child
    (· ∈ (hierarchy [mgId "root", mgId "team"] twoSubscriptions).nodes) rootFirst := by
  have hnodes : (hierarchy [mgId "root", mgId "team"] twoSubscriptions).nodes = rootFirst := by decide +kernel
  have hbefore : ∀ e ∈ (hierarchy [mgId "root", mgId "team"] twoSubscriptions).edges,
      rootFirst.idxOf e.1 < rootFirst.idxOf e.2 := by decide +kernel
  exact ⟨by decide +kernel, fun v => by rw [hnodes], fun u v h => hbefore (u, v) h⟩

theorem twoSubscriptions_isForest : IsForest (ParentOf twoSubscriptions) := by
  rw [← child_hierarchy [mgId "root", mgId "team"]]
  have hparent : ∀ e ∈ (hierarchy [mgId "root", mgId "team"] twoSubscriptions).edges,
      ∀ e' ∈ (hierarchy [mgId "root", mgId "team"] twoSubscriptions).edges, e.2 = e'.2 → e.1 = e'.1 := by decide +kernel
  exact ⟨fun {u u' v} h h' => hparent (u, v) h (u', v) h' rfl, rootFirst_parentsFirst.acyclic⟩

/-- The root accepts the role, which covers the subscription of the team. -/
theorem assignRoles_covers_twoSubscriptions :
    ∃ s, (∀ fuel, 4 < fuel → assignRoles (hierarchy [mgId "root", mgId "team"] twoSubscriptions)
        (fun n => n == mgId "root") (fun _ => rootFirst) fuel = some s) ∧
      ∃ a ∈ s.attempts, Above (ParentOf twoSubscriptions) a "/subscriptions/2" ∧ (a == mgId "root") = true := by
  have hsort : SortsTopologically (fun _ => rootFirst) (hierarchy [mgId "root", mgId "team"] twoSubscriptions) :=
    fun _ => rootFirst_parentsFirst
  obtain ⟨s, hs, -, -, hcovers⟩ := assignRoles_covers hsort twoSubscriptions_isForest (fun n => n == mgId "root")
  have hsub : ⟨"/subscriptions/2", ["root", "team"]⟩ ∈ twoSubscriptions := by simp [twoSubscriptions]
  have hroot : ParentOf twoSubscriptions (mgId "root") (mgId "team") := ⟨_, hsub, [], ["/subscriptions/2"], rfl⟩
  have hteam : ParentOf twoSubscriptions (mgId "team") "/subscriptions/2" := ⟨_, hsub, [mgId "root"], [], rfl⟩
  exact ⟨s, hs, hcovers _ hsub ⟨mgId "root", .head hroot (.single hteam), by decide⟩⟩

end AzureRoles

end Fix
