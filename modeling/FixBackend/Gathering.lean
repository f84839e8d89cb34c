import FixBackend.Table
/-!
# Gathering — dictionaries filled by loops

Loops that update the value under the key of each thing, as one does with a dictionary that has defaults: what is
under a key in the end comes from the things with this key alone.  Sums over all keys are sums over all things.
-/
namespace Dict

variable {κ ν ν' α : Type}

def restrict (p : κ → Bool) (d : Dict κ ν) : Dict κ ν := d.deleteWhere fun x => !p x.1

theorem rows_restrict (p : κ → Bool) (d : Dict κ ν) : (restrict p d).rows = d.rows.filter fun x => p x.1 := by
  simp [restrict, Table.deleteWhere]

def mapValues (f : ν → ν') (d : Dict κ ν) : Dict κ ν' where
  rows := d.rows.map fun x => (x.1, f x.2)
  unique := by
    rw [List.map_map]
    exact d.unique

variable [DecidableEq κ]

theorem filter_rows_key (d : Dict κ ν) (k : κ) : d.rows.filter (fun x => decide (x.1 = k)) =
    ((get d k).map (k, ·)).toList := by
  have hunique := d.unique
  unfold get Table.find
  generalize d.rows = rows at hunique ⊢
  induction rows with
  | nil => rfl
  | cons x rows ih =>
    rw [List.map_cons, List.nodup_cons] at hunique
    rw [List.filter_cons, List.find?_cons]
    by_cases hk : x.1 = k
    · rw [decide_eq_true hk, if_pos rfl, List.filter_eq_nil_iff.2]
      · rw [← hk]
        rfl
      · intro y hy hyk
        rw [decide_eq_true_eq] at hyk
        exact hunique.1 (List.mem_map.2 ⟨y, hy, hyk.trans hk.symm⟩)
    · rw [decide_eq_false hk, if_neg Bool.false_ne_true]
      exact ih hunique.2

theorem values_filter_key (d : Dict κ ν) (k : κ) : (d.rows.filter fun x => decide (x.1 = k)).map Prod.snd =
    (get d k).toList := by
  rw [filter_rows_key]
  cases get d k <;> rfl

/-- **What a loop has put under a key** comes from the things with this key. -/
theorem get_foldl_put (key : α → κ) (f : Option ν → α → ν) (k : κ) : ∀ (xs : List α) (d : Dict κ ν),
    get (xs.foldl (fun d x => put d (key x) (f (get d (key x)) x)) d) k =
      (xs.filter fun x => decide (key x = k)).foldl (fun v x => some (f v x)) (get d k)
  | [], _ => rfl
  | x :: xs, d => by
    rw [List.foldl_cons, get_foldl_put key f k xs, List.filter_cons]
    by_cases hk : key x = k
    · rw [if_pos (decide_eq_true hk), List.foldl_cons, ← hk, get_put_self]
    · rw [if_neg (by simpa using hk), get_put_of_ne _ _ (Ne.symm hk)]

theorem get_foldl_rows (f : Option ν' → κ × ν → ν') (d : Dict κ ν) (e : Dict κ ν') (k : κ) :
    get (d.rows.foldl (fun e x => put e x.1 (f (get e x.1) x)) e) k =
      match get d k with
      | none => get e k
      | some v => some (f (get e k) (k, v)) := by
  rw [get_foldl_put Prod.fst f k, filter_rows_key]
  cases get d k <;> rfl

omit [DecidableEq κ] in
theorem forall_mem_foldl {P : ν → Prop} {f : Option ν → α → ν} : ∀ {xs : List α} {v : Option ν},
    (∀ x ∈ xs, ∀ v, (∀ w ∈ v, P w) → P (f v x)) → (∀ w ∈ v, P w) → ∀ w ∈ xs.foldl (fun v x => some (f v x)) v, P w
  | [], _, _, hv => hv
  | x :: xs, v, hf, hv => by
    rw [List.foldl_cons]
    refine forall_mem_foldl (fun y hy => hf y (List.mem_cons_of_mem x hy)) fun w hw => ?_
    rw [← Option.some.inj hw]
    exact hf x List.mem_cons_self v hv

/-! ## Sets -/

section Sets

variable [DecidableEq ν]

/-- `d[k].add(v)`, of each thing. -/
def gatherSets (key : α → κ) (value : α → ν) (xs : List α) : Dict κ (Finset ν) :=
  xs.foldl (fun d x => put d (key x) (insert (value x) ((get d (key x)).getD ∅))) default

theorem getD_gatherSets (key : α → κ) (value : α → ν) (xs : List α) (k : κ) :
    (get (gatherSets key value xs) k).getD ∅ = ((xs.filter fun x => decide (key x = k)).map value).toFinset := by
  unfold gatherSets
  rw [get_foldl_put key (fun v x => insert (value x) (v.getD ∅))]
  generalize xs.filter (fun x => decide (key x = k)) = ys
  induction ys using List.reverseRecOn with
  | nil => rfl
  | append_singleton ys y ih =>
    rw [List.foldl_concat, Option.getD_some, ih, List.map_append, List.toFinset_append, Finset.union_comm]
    rfl

theorem mem_gatherSets {key : α → κ} {value : α → ν} {xs : List α} {k : κ} {v : ν} :
    (∃ s, get (gatherSets key value xs) k = some s ∧ v ∈ s) ↔ ∃ x ∈ xs, key x = k ∧ value x = v := by
  have hset := getD_gatherSets key value xs k
  have hmem : v ∈ (get (gatherSets key value xs) k).getD ∅ ↔ ∃ x ∈ xs, key x = k ∧ value x = v := by
    rw [hset]
    simp [and_assoc]
  rw [← hmem]
  cases get (gatherSets key value xs) k <;> simp

end Sets

/-! ## Sums -/

section Sums

variable {M : Type} [AddCommMonoid M]

def total : List M → Option M
  | [] => none
  | n :: ns => some (n :: ns).sum

theorem total_eq_none_iff {ns : List M} : total ns = none ↔ ns = [] := by
  cases ns <;> simp [total]

theorem total_eq_some {ns : List M} (h : ns ≠ []) : total ns = some ns.sum := by
  cases ns with
  | nil => exact absurd rfl h
  | cons n ns => rfl

theorem getD_total (ns : List M) : (total ns).getD 0 = ns.sum := by
  cases ns <;> rfl

/-- `d[k] += n` -/
def add (d : Dict κ M) (k : κ) (n : M) : Dict κ M := put d k ((get d k).getD 0 + n)

theorem total_toList (n : Option M) : total n.toList = n := by
  cases n with
  | none => rfl
  | some n => exact congrArg some List.sum_singleton

theorem foldl_total (f : α → M) (xs : List α) (ns : List M) :
    xs.foldl (fun v x => some (v.getD 0 + f x)) (total ns) = total (ns ++ xs.map f) := by
  induction xs generalizing ns with
  | nil => simp
  | cons x xs ih =>
    have hns : some ((total ns).getD 0 + f x) = total (ns ++ [f x]) := by
      rw [getD_total, total_eq_some (List.append_ne_nil_of_right_ne_nil ns (List.cons_ne_nil _ _)), List.sum_append,
        List.sum_singleton]
    rw [List.foldl_cons, hns, ih, List.append_assoc]
    rfl

theorem get_foldl_add (key : α → κ) (f : α → M) (k : κ) (xs : List α) {d : Dict κ M} {ns : List M}
    (h : get d k = total ns) :
    get (xs.foldl (fun d x => add d (key x) (f x)) d) k =
      total (ns ++ (xs.filter fun x => decide (key x = k)).map f) := by
  have hfold := get_foldl_put key (fun v x => v.getD 0 + f x) k xs d
  rw [h, foldl_total] at hfold
  exact hfold

omit [DecidableEq κ] in
theorem sum_filter_or {p q : α → Bool} (f : α → M) (hdisjoint : ∀ x, p x = true → q x = false) (xs : List α) :
    ((xs.filter p).map f).sum + ((xs.filter q).map f).sum = ((xs.filter fun x => p x || q x).map f).sum := by
  induction xs with
  | nil => simp
  | cons x xs ih =>
    have hx := hdisjoint x
    simp only [List.filter_cons]
    cases hp : p x with
    | true =>
      rw [hp] at hx
      simp [hx rfl, ← ih, add_assoc]
    | false =>
      cases hq : q x <;> simp [← ih, add_left_comm]

theorem sum_groups (key : α → κ) (f : α → M) (xs : List α) : ∀ {ks : List κ}, ks.Nodup →
    (ks.map fun k => ((xs.filter fun x => decide (key x = k)).map f).sum).sum =
      ((xs.filter fun x => decide (key x ∈ ks)).map f).sum
  | [], _ => by simp
  | k :: ks, hnodup => by
    rw [List.nodup_cons] at hnodup
    rw [List.map_cons, List.sum_cons, sum_groups key f xs hnodup.2, sum_filter_or]
    · simp
    · intro x hx
      rw [decide_eq_true_eq] at hx
      rw [hx]
      exact decide_eq_false hnodup.1

def tally (key : α → κ) (f : α → M) (xs : List α) (k : κ) : Option M :=
  total ((xs.filter fun x => decide (key x = k)).map f)

theorem tally_ne_none_iff {key : α → κ} {f : α → M} {xs : List α} {k : κ} : tally key f xs k ≠ none ↔
    k ∈ xs.map key := by
  rw [tally, Ne, total_eq_none_iff, List.map_eq_nil_iff, List.filter_eq_nil_iff]
  simp

theorem tally_rows (d : Dict κ M) (k : κ) : tally Prod.fst Prod.snd d.rows k = get d k := by
  rw [tally, values_filter_key, total_toList]

theorem get_get_foldl {κ' : Type} [DecidableEq κ'] (key : α → κ) (key' : α → κ') (f : α → M) (k : κ) (k' : κ') :
    ∀ (xs : List α) {d : Dict κ (Dict κ' M)} {ns : List M}, (get d k).bind (get · k') = total ns →
      (get (xs.foldl (fun d x => put d (key x) (add ((get d (key x)).getD default) (key' x) (f x))) d) k).bind
        (get · k') =
        total (ns ++ (xs.filter fun x => decide ((key x, key' x) = (k, k'))).map f)
  | [], d, ns, h => by simpa using h
  | x :: xs, d, ns, h => by
    rw [List.foldl_cons, List.filter_cons]
    by_cases hk : (key x, key' x) = (k, k')
    · rw [if_pos (decide_eq_true hk), List.map_cons, List.append_cons]
      obtain ⟨hkey, hkey'⟩ := Prod.mk.injEq .. ▸ hk
      refine get_get_foldl key key' f k k' xs ?_
      rw [hkey, get_put_self, Option.bind_some, hkey', add, get_put_self]
      have hget : get ((get d k).getD default) k' = total ns := by
        rw [← h]
        cases get d k <;> rfl
      rw [hget, getD_total, total_eq_some (List.append_ne_nil_of_right_ne_nil ns (List.cons_ne_nil _ _)),
        List.sum_append,
        List.sum_singleton]
    · rw [if_neg (by simpa using hk)]
      refine get_get_foldl key key' f k k' xs ?_
      rw [← h]
      by_cases hkey : key x = k
      · have hkey' : k' ≠ key' x := fun heq => hk (Prod.ext hkey heq.symm)
        rw [hkey, get_put_self, Option.bind_some, add, get_put_of_ne _ _ hkey']
        cases get d k <;> rfl
      · rw [get_put_of_ne _ _ (Ne.symm hkey)]

section Same

variable {β : Type} {key : α → κ} {key' : β → κ} {f : α → M} {f' : β → M} {xs : List α} {ys : List β}

theorem mem_keys_of_tally (h : ∀ k, tally key f xs k = tally key' f' ys k) (k : κ) : k ∈ xs.map key ↔
    k ∈ ys.map key' := by
  rw [← tally_ne_none_iff (f := f), ← tally_ne_none_iff (f := f'), h]

theorem sum_of_tally (h : ∀ k, tally key f xs k = tally key' f' ys k) (p : κ → Bool) :
    ((xs.filter fun x => p (key x)).map f).sum = ((ys.filter fun y => p (key' y)).map f').sum := by
  have hnodup : ((xs.map key).dedup.filter p).Nodup := (List.nodup_dedup _).filter p
  have hgroups := congrArg List.sum (List.map_congr_left (l := (xs.map key).dedup.filter p) fun k _ => by
    have hk := congrArg (·.getD 0) (h k)
    simp only [tally, getD_total] at hk
    exact hk)
  rw [sum_groups key f xs hnodup, sum_groups key' f' ys hnodup] at hgroups
  have hxs : (xs.filter fun x => decide (key x ∈ (xs.map key).dedup.filter p)) = xs.filter fun x => p (key x) := by
    refine List.filter_congr fun x hx => ?_
    have hmem : key x ∈ (xs.map key).dedup := List.mem_dedup.2 (List.mem_map_of_mem hx)
    cases hp : p (key x) <;> simp [List.mem_filter, hmem, hp]
  have hys : (ys.filter fun y => decide (key' y ∈ (xs.map key).dedup.filter p)) = ys.filter fun y => p (key' y) := by
    refine List.filter_congr fun y hy => ?_
    have hmem : key' y ∈ (xs.map key).dedup :=
      List.mem_dedup.2 ((mem_keys_of_tally h (key' y)).2 (List.mem_map_of_mem hy))
    cases hp : p (key' y) <;> simp [List.mem_filter, hmem, hp]
  rw [hxs, hys] at hgroups
  exact hgroups

theorem image_of_tally {γ : Type} [DecidableEq γ] (h : ∀ k, tally key f xs k = tally key' f' ys k)
    (p : κ → Bool) (g : κ → γ) :
    ((xs.filter fun x => p (key x)).map fun x => g (key x)).toFinset =
      ((ys.filter fun y => p (key' y)).map fun y => g (key' y)).toFinset := by
  ext c
  have hkeys := mem_keys_of_tally h
  simp only [List.mem_toFinset, List.mem_map, List.mem_filter] at hkeys ⊢
  constructor
  · rintro ⟨x, ⟨hx, hp⟩, rfl⟩
    obtain ⟨y, hy, hyx⟩ := (hkeys (key x)).1 ⟨x, hx, rfl⟩
    exact ⟨y, ⟨hy, hyx ▸ hp⟩, by rw [hyx]⟩
  · rintro ⟨y, ⟨hy, hp⟩, rfl⟩
    obtain ⟨x, hx, hxy⟩ := (hkeys (key' y)).2 ⟨y, hy, rfl⟩
    exact ⟨x, ⟨hx, hxy ▸ hp⟩, by rw [hxy]⟩

theorem isEmpty_of_tally (h : ∀ k, tally key f xs k = tally key' f' ys k) (p : κ → Bool) :
    (xs.filter fun x => p (key x)).isEmpty = (ys.filter fun y => p (key' y)).isEmpty := by
  have himage := image_of_tally h p id
  rw [Bool.eq_iff_iff, List.isEmpty_iff, List.isEmpty_iff]
  rw [← List.map_eq_nil_iff (f := fun x => id (key x)), ← List.toFinset_eq_empty_iff, himage,
    List.toFinset_eq_empty_iff,
    List.map_eq_nil_iff]

end Same

end Sums

end Dict

theorem List.flatMap_filter {α β : Type} (p : α → Bool) (f : α → List β) : ∀ l : List α,
    (l.filter p).flatMap f = l.flatMap fun a => if p a then f a else []
  | [] => rfl
  | a :: l => by
    rw [List.filter_cons, List.flatMap_cons, ← flatMap_filter p f l]
    cases p a <;> rfl

theorem List.flatMap_filter_shared {α β : Type} {p : α → Bool} {q : β → Bool} {f : α → List β} :
    ∀ {l : List α}, (∀ a ∈ l, ∀ x ∈ f a, q x = p a) → (l.filter p).flatMap f = (l.flatMap f).filter q
  | [], _ => rfl
  | a :: l, h => by
    have ih := flatMap_filter_shared (l := l) fun a ha => h a (List.mem_cons_of_mem _ ha)
    have ha := h a List.mem_cons_self
    rw [List.filter_cons, List.flatMap_cons, List.filter_append, ← ih]
    cases hp : p a with
    | true =>
      have hall : (f a).filter q = f a := List.filter_eq_self.2 fun x hx => (ha x hx).trans hp
      rw [if_pos rfl, List.flatMap_cons, hall]
    | false =>
      have hnone : (f a).filter q = [] := List.filter_eq_nil_iff.2 fun x hx => by
        rw [ha x hx, hp]
        exact Bool.false_ne_true
      rw [if_neg Bool.false_ne_true, hnone, List.nil_append]
