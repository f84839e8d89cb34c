import Mathlib
/-!
# Table — rows under a primary key

A `Table key` is a list of rows no two of which have one key.  A row is found by its key, replaced in place or inserted
at the end; each lemma says what one of these does to a lookup or to a count of rows.  A dictionary is a table of pairs.
-/

structure Table {ρ κ : Type} (key : ρ → κ) where
  rows : List ρ
  unique : (rows.map key).Nodup

namespace Table

variable {ρ κ : Type} {key : ρ → κ} [DecidableEq κ]

instance : Inhabited (Table key) := ⟨⟨[], List.nodup_nil⟩⟩

def find (t : Table key) (k : κ) : Option ρ := t.rows.find? (fun r => decide (key r = k))

omit [DecidableEq κ] in
theorem map_key_map {f : ρ → ρ} (hf : ∀ r, key (f r) = key r) (rows : List ρ) :
    (rows.map f).map key = rows.map key := by
  rw [List.map_map]
  exact List.map_congr_left fun r _ => hf r

theorem key_replacement (r x : ρ) : key (if key x = key r then r else x) = key x := by
  split
  · rename_i h
    exact h.symm
  · rfl

def replace (t : Table key) (r : ρ) : Table key where
  rows := t.rows.map (fun x => if key x = key r then r else x)
  unique := by
    rw [map_key_map (key_replacement r)]
    exact t.unique

theorem find_eq_some_iff (t : Table key) (k : κ) (r : ρ) : t.find k = some r ↔ r ∈ t.rows ∧ key r = k := by
  unfold find
  constructor
  · intro h
    exact ⟨List.mem_of_find?_eq_some h, by simpa using List.find?_some h⟩
  · rintro ⟨hmem, rfl⟩
    cases hf : t.rows.find? (fun x => decide (key x = key r)) with
    | none =>
      have := List.find?_eq_none.1 hf r hmem
      simp at this
    | some x =>
      have hx : key x = key r := by simpa using List.find?_some hf
      rw [List.inj_on_of_nodup_map t.unique (List.mem_of_find?_eq_some hf) hmem hx]

theorem find_eq_none_iff (t : Table key) (k : κ) : t.find k = none ↔ ∀ r ∈ t.rows, key r ≠ k := by
  unfold find
  rw [List.find?_eq_none]
  simp

theorem key_of_find {t : Table key} {k : κ} {r : ρ} (h : t.find k = some r) : key r = k :=
  ((t.find_eq_some_iff k r).1 h).2

theorem mem_of_find {t : Table key} {k : κ} {r : ρ} (h : t.find k = some r) : r ∈ t.rows :=
  ((t.find_eq_some_iff k r).1 h).1

def insert (t : Table key) (r : ρ) (h : t.find (key r) = none) : Table key where
  rows := t.rows ++ [r]
  unique := by
    rw [List.map_append, List.nodup_append]
    refine ⟨t.unique, by simp, ?_⟩
    intro a ha b hb hab
    obtain ⟨x, hx, rfl⟩ := List.mem_map.1 ha
    simp only [List.map_cons, List.map_nil, List.mem_singleton] at hb
    exact (t.find_eq_none_iff (key r)).1 h x hx (hab.trans hb)

theorem keys_replace (t : Table key) (r : ρ) : (t.replace r).rows.map key = t.rows.map key :=
  map_key_map (key_replacement r) t.rows

theorem mem_replace {t : Table key} {r x : ρ} (h : x ∈ (t.replace r).rows) : x ∈ t.rows ∨ x = r := by
  obtain ⟨y, hy, rfl⟩ := List.mem_map.1 h
  split
  · exact Or.inr rfl
  · exact Or.inl hy

theorem find_replace_self {t : Table key} {old r : ρ} (h : t.find (key r) = some old) :
    (t.replace r).find (key r) = some r := by
  rw [find_eq_some_iff]
  refine ⟨List.mem_map.2 ⟨old, mem_of_find h, ?_⟩, rfl⟩
  rw [if_pos (key_of_find h)]

theorem find_replace_of_ne (t : Table key) {r : ρ} {k : κ} (h : k ≠ key r) : (t.replace r).find k = t.find k := by
  apply Option.ext
  intro x
  rw [find_eq_some_iff, find_eq_some_iff]
  constructor
  · rintro ⟨hmem, hx⟩
    obtain ⟨y, hy, hyx⟩ := List.mem_map.1 hmem
    split at hyx
    · subst hyx
      exact absurd hx.symm h
    · exact ⟨hyx ▸ hy, hx⟩
  · rintro ⟨hmem, hx⟩
    refine ⟨List.mem_map.2 ⟨x, hmem, ?_⟩, hx⟩
    rw [if_neg (by rw [hx]; exact h)]

theorem find_insert_self (t : Table key) (r : ρ) (h : t.find (key r) = none) :
    (t.insert r h).find (key r) = some r := by
  rw [find_eq_some_iff]
  exact ⟨List.mem_append_right _ (List.mem_singleton.2 rfl), rfl⟩

theorem find_insert_of_ne (t : Table key) (r : ρ) (h : t.find (key r) = none) {k : κ} (hk : k ≠ key r) :
    (t.insert r h).find k = t.find k := by
  unfold find insert
  have : decide (key r = k) = false := by simpa using Ne.symm hk
  simp [List.find?_append, this]

/-- The table with `r` under its key: in the place of the row there, or at the end when the key is new. -/
def put (t : Table key) (r : ρ) : Table key :=
  if h : t.find (key r) = none then t.insert r h else t.replace r

theorem find_put_self (t : Table key) (r : ρ) : (t.put r).find (key r) = some r := by
  unfold put
  split
  · rename_i h
    exact t.find_insert_self r h
  · rename_i h
    obtain ⟨old, hold⟩ := Option.ne_none_iff_exists'.1 h
    exact find_replace_self hold

theorem find_put_of_ne (t : Table key) {r : ρ} {k : κ} (h : k ≠ key r) : (t.put r).find k = t.find k := by
  unfold put
  split
  · rename_i hnone
    exact t.find_insert_of_ne r hnone h
  · exact t.find_replace_of_ne h

def delete (t : Table key) (k : κ) : Table key where
  rows := t.rows.filter (fun r => decide (key r ≠ k))
  unique := t.unique.sublist (List.filter_sublist.map key)

theorem mem_delete {t : Table key} {k : κ} {r : ρ} : r ∈ (t.delete k).rows ↔ r ∈ t.rows ∧ key r ≠ k := by
  simp [delete]

/-- The table with the rows that satisfy a condition changed, each under its own key. -/
def updateWhere (t : Table key) (p : ρ → Bool) (f : ρ → ρ) (hf : ∀ r, key (f r) = key r) : Table key where
  rows := t.rows.map (fun r => if p r then f r else r)
  unique := by
    have hkey : ∀ r, key (if p r then f r else r) = key r := fun r => by
      split
      · exact hf r
      · rfl
    rw [map_key_map hkey]
    exact t.unique

/-- The table without the rows that satisfy a condition. -/
def deleteWhere (t : Table key) (p : ρ → Bool) : Table key where
  rows := t.rows.filter (fun r => !p r)
  unique := t.unique.sublist (List.filter_sublist.map key)

/-! ## The keys of some rows -/

theorem exists_find_of_mem_keys {t : Table key} {k : κ} (h : k ∈ t.rows.map key) : ∃ r, t.find k = some r := by
  obtain ⟨r, hr, rfl⟩ := List.mem_map.1 h
  exact ⟨r, (find_eq_some_iff t (key r) r).2 ⟨hr, rfl⟩⟩

theorem map_key_filter (t : Table key) (p : ρ → Bool) :
    (t.rows.filter p).map key = (t.rows.map key).filter fun k => (t.find k).any p := by
  rw [List.filter_map]
  refine congrArg _ (List.filter_congr fun r hr => ?_)
  have hfind : t.find (key r) = some r := (find_eq_some_iff t (key r) r).2 ⟨hr, rfl⟩
  rw [Function.comp_apply, hfind, Option.any_some]

/-- **Which keys still satisfy a condition** when the rows of a table have changed, but not their keys. -/
theorem map_key_filter_of_keys {t t' : Table key} (hkeys : t'.rows.map key = t.rows.map key) {p q : ρ → Bool}
    {keeps : κ → Bool} (h : ∀ k r r', t.find k = some r → t'.find k = some r' → q r' = (p r && keeps k)) :
    (t'.rows.filter q).map key = ((t.rows.filter p).map key).filter keeps := by
  rw [map_key_filter, map_key_filter, hkeys, List.filter_filter]
  refine List.filter_congr fun k hk => ?_
  obtain ⟨r, hr⟩ := exists_find_of_mem_keys hk
  obtain ⟨r', hr'⟩ := exists_find_of_mem_keys (hkeys.symm ▸ hk)
  rw [hr, hr', Option.any_some, Option.any_some, h k r r' hr hr', Bool.and_comm]

/-! ## Rewriting the rows under some keys -/

section Rewriting

variable {σ : Type}

/-- The rows with those under `keys` rewritten, each by the stamp of its key. -/
def rewriteKeys (key : ρ → κ) (f : σ → ρ → ρ) (keys : List κ) (stamp : κ → σ) (rows : List ρ) : List ρ :=
  rows.map fun r => if key r ∈ keys then f (stamp (key r)) r else r

variable {f : σ → ρ → ρ} (keys keys' : List κ) (stamp stamp' : κ → σ) (rows : List ρ)

@[simp] theorem rewriteKeys_nil : rewriteKeys key f [] stamp rows = rows := by
  unfold rewriteKeys
  simp

theorem rewriteKeys_append (hf : ∀ s r, key (f s r) = key r) (hdisj : ∀ k ∈ keys, k ∉ keys') :
    rewriteKeys key f keys' stamp' (rewriteKeys key f keys stamp rows) =
      rewriteKeys key f (keys ++ keys') (fun k => if k ∈ keys then stamp k else stamp' k) rows := by
  unfold rewriteKeys
  rw [List.map_map]
  refine List.map_congr_left fun r _ => ?_
  rw [Function.comp_apply]
  by_cases hr : key r ∈ keys
  · rw [if_pos hr, hf, if_neg (hdisj _ hr), if_pos (List.mem_append_left _ hr)]
    dsimp only
    rw [if_pos hr]
  · have hmem : key r ∈ keys ++ keys' ↔ key r ∈ keys' := by rw [List.mem_append, or_iff_right hr]
    simp only [if_neg hr, hmem]

theorem map_key_rewriteKeys (hf : ∀ s r, key (f s r) = key r) :
    (rewriteKeys key f keys stamp rows).map key = rows.map key := by
  unfold rewriteKeys
  rw [List.map_map]
  refine List.map_congr_left fun r _ => ?_
  rw [Function.comp_apply]
  split
  · exact hf _ r
  · rfl

theorem filter_rewriteKeys {p : ρ → Bool}
    (h : ∀ r ∈ rows, key r ∈ keys → p r = false ∧ p (f (stamp (key r)) r) = false) :
    (rewriteKeys key f keys stamp rows).filter p = rows.filter p := by
  unfold rewriteKeys
  induction rows with
  | nil => rfl
  | cons r rows ih =>
    have ih := ih fun x hx => h x (List.mem_cons_of_mem _ hx)
    rw [List.map_cons]
    by_cases hr : key r ∈ keys
    · obtain ⟨hold, hnew⟩ := h r List.mem_cons_self hr
      rw [if_pos hr, List.filter_cons_of_neg (by rw [hnew]; exact Bool.false_ne_true),
        List.filter_cons_of_neg (by rw [hold]; exact Bool.false_ne_true), ih]
    · rw [if_neg hr, List.filter_cons, List.filter_cons, ih]

theorem rows_replace {t : Table key} {r r' : ρ} {s : σ} (hfind : t.find (key r) = some r) (hr : r' = f s r)
    (hkey : key r' = key r) : (t.replace r').rows = rewriteKeys key f [key r] (fun _ => s) t.rows := by
  subst hr
  refine List.map_congr_left fun x hx => ?_
  rw [hkey]
  by_cases hxr : key x = key r
  · have hx' : x = r := by
      have hfindx := (find_eq_some_iff t (key x) x).2 ⟨hx, rfl⟩
      rw [hxr, hfind] at hfindx
      exact (Option.some.inj hfindx).symm
    rw [if_pos hxr, if_pos (List.mem_singleton.2 hxr), hx']
  · rw [if_neg hxr, if_neg fun h => hxr (List.mem_singleton.1 h)]

theorem find_of_rewriteKeys {t t' : Table key} (hf : ∀ s r, key (f s r) = key r)
    (h : t'.rows = rewriteKeys key f keys stamp t.rows) (k : κ) :
    t'.find k = (t.find k).map fun r => if k ∈ keys then f (stamp k) r else r := by
  cases hfind : t.find k with
  | none =>
    have hnone := (t.find_eq_none_iff k).1 hfind
    refine (t'.find_eq_none_iff k).2 fun r' hr' hk => ?_
    have hmem : k ∈ t'.rows.map key := List.mem_map.2 ⟨r', hr', hk⟩
    rw [h, map_key_rewriteKeys keys stamp t.rows hf] at hmem
    obtain ⟨r, hr, hrk⟩ := List.mem_map.1 hmem
    exact hnone r hr hrk
  | some r =>
    obtain ⟨hr, rfl⟩ := (t.find_eq_some_iff k r).1 hfind
    rw [Option.map_some, find_eq_some_iff, h]
    refine ⟨List.mem_map.2 ⟨r, hr, rfl⟩, ?_⟩
    split
    · exact hf _ r
    · rfl

end Rewriting

/-! ## Counting rows -/

/-- How many rows satisfy a condition. -/
def count (t : Table key) (p : ρ → Bool) : Nat := t.rows.countP p

theorem countP_replace (p : ρ → Bool) (r : ρ) : ∀ (l : List ρ), (l.map key).Nodup → ∀ old ∈ l, key old = key r →
    (l.map (fun x => if key x = key r then r else x)).countP p + (p old).toNat = l.countP p + (p r).toNat
  | [], _, _, h, _ => by cases h
  | a :: l, hnd, old, hmem, hold => by
    rw [List.map_cons, List.nodup_cons] at hnd
    rw [List.map_cons, List.countP_cons, List.countP_cons]
    by_cases ha : key a = key r
    · have hkeep : l.map (fun x => if key x = key r then r else x) = l := by
        conv => rhs; rw [← List.map_id l]
        apply List.map_congr_left
        intro x hx
        rw [if_neg]
        · rfl
        · intro hxr
          exact hnd.1 (List.mem_map.2 ⟨x, hx, hxr.trans ha.symm⟩)
      have : old = a := by
        rcases List.mem_cons.1 hmem with h | h
        · exact h
        · exact absurd (List.mem_map.2 ⟨old, h, hold.trans ha.symm⟩) hnd.1
      subst this
      rw [hkeep, if_pos ha]
      cases p old <;> cases p r <;> simp
    · have hl : old ∈ l := by
        rcases List.mem_cons.1 hmem with h | h
        · exact absurd (h ▸ hold) ha
        · exact h
      have ih := countP_replace p r l hnd.2 old hl hold
      rw [if_neg ha]
      omega

/-- **Replacing a row counts the new one for the old one.** -/
theorem count_replace {t : Table key} (p : ρ → Bool) {old r : ρ} (h : t.find (key r) = some old) :
    (t.replace r).count p + (p old).toNat = t.count p + (p r).toNat :=
  countP_replace p r t.rows t.unique old (mem_of_find h) (key_of_find h)

theorem count_insert (t : Table key) (p : ρ → Bool) (r : ρ) (h : t.find (key r) = none) :
    (t.insert r h).count p = t.count p + (p r).toNat := by
  unfold count insert
  rw [List.countP_append]
  cases hp : p r <;> simp [hp]

/-! ## Rows that are deleted -/

omit [DecidableEq κ] in
theorem mem_deleteWhere {t : Table key} {p : ρ → Bool} {r : ρ} :
    r ∈ (t.deleteWhere p).rows ↔ r ∈ t.rows ∧ p r = false := by
  unfold deleteWhere
  rw [List.mem_filter, Bool.not_eq_true']

theorem mem_insert {t : Table key} {r x : ρ} (h : t.find (key r) = none) :
    x ∈ (t.insert r h).rows ↔ x ∈ t.rows ∨ x = r := by
  unfold insert
  rw [List.mem_append, List.mem_singleton]

theorem find_deleteWhere_none {t : Table key} {p : ρ → Bool} {r : ρ} (hmem : r ∈ t.rows)
    (h : p r = true) : (t.deleteWhere p).find (key r) = none := by
  rw [find_eq_none_iff]
  intro x hx hkey
  rw [mem_deleteWhere] at hx
  rw [List.inj_on_of_nodup_map t.unique hx.1 hmem hkey, h] at hx
  cases hx.2

end Table

/-! ## Dictionaries -/

/-- A dictionary: pairs under their first component, in the order in which the keys came. -/
abbrev Dict (κ ν : Type) := Table (Prod.fst : κ × ν → κ)

namespace Dict

variable {κ ν : Type} [DecidableEq κ]

def get (d : Dict κ ν) (k : κ) : Option ν := (Table.find d k).map Prod.snd

/-- The dictionary with `v` under `k`: in its place, or at the end when the key is new. -/
def put (d : Dict κ ν) (k : κ) (v : ν) : Dict κ ν := Table.put d (k, v)

theorem get_eq_some_iff (d : Dict κ ν) (k : κ) (v : ν) : get d k = some v ↔ (k, v) ∈ d.rows := by
  unfold get
  rw [Option.map_eq_some_iff]
  constructor
  · rintro ⟨⟨k', v'⟩, hfind, rfl⟩
    obtain ⟨hmem, rfl⟩ := (Table.find_eq_some_iff d k (k', v')).1 hfind
    exact hmem
  · intro hmem
    exact ⟨(k, v), (Table.find_eq_some_iff d k (k, v)).2 ⟨hmem, rfl⟩, rfl⟩

theorem get_eq_none_iff (d : Dict κ ν) (k : κ) : get d k = none ↔ k ∉ d.rows.map Prod.fst := by
  unfold get
  rw [Option.map_eq_none_iff, Table.find_eq_none_iff, List.mem_map]
  constructor
  · rintro h ⟨r, hr, hk⟩
    exact h r hr hk
  · intro h r hr hk
    exact h ⟨r, hr, hk⟩

@[simp] theorem get_default (k : κ) : get (default : Dict κ ν) k = none := rfl

@[simp] theorem get_put_self (d : Dict κ ν) (k : κ) (v : ν) : get (put d k v) k = some v := by
  unfold get put
  rw [Table.find_put_self d (k, v)]
  rfl

theorem get_put_of_ne (d : Dict κ ν) {k k' : κ} (v : ν) (h : k' ≠ k) : get (put d k v) k' = get d k' := by
  unfold get put
  rw [Table.find_put_of_ne d h]

theorem rows_put_new {d : Dict κ ν} {k : κ} (v : ν) (h : get d k = none) : (put d k v).rows = d.rows ++ [(k, v)] := by
  unfold put Table.put
  rw [dif_pos (Option.map_eq_none_iff.1 h)]
  rfl

theorem rows_put_old {d : Dict κ ν} {k : κ} (v : ν) (h : get d k ≠ none) :
    (put d k v).rows = d.rows.map (fun x => if x.1 = k then (k, v) else x) := by
  have hfind : Table.find d k ≠ none := fun hn => h (by rw [get, hn]; rfl)
  unfold put Table.put
  rw [dif_neg hfind]
  rfl

theorem put_self {d : Dict κ ν} {k : κ} {v : ν} (h : get d k = some v) : put d k v = d := by
  have hrows : (put d k v).rows = d.rows := by
    rw [rows_put_old v (by rw [h]; exact Option.some_ne_none v)]
    refine (List.map_congr_left fun x hx => ?_).trans (List.map_id _)
    by_cases hk : x.1 = k
    · rw [if_pos hk]
      have hx' : get d k = some x.2 := (get_eq_some_iff d k x.2).2 (hk ▸ hx)
      rw [h] at hx'
      exact Prod.ext hk.symm (Option.some.inj hx')
    · rw [if_neg hk]
      rfl
  cases d
  cases hput : put _ k v
  rw [hput] at hrows
  cases hrows
  rfl

def allValues (d : Dict κ ν) (p : ν → Bool) : Bool := d.rows.all (fun x => p x.2)

theorem allValues_iff (d : Dict κ ν) (p : ν → Bool) :
    allValues d p = true ↔ ∀ k v, get d k = some v → p v = true := by
  unfold allValues
  rw [List.all_eq_true]
  constructor
  · intro h k v hv
    exact h (k, v) ((get_eq_some_iff d k v).1 hv)
  · rintro h ⟨k, v⟩ hmem
    exact h k v ((get_eq_some_iff d k v).2 hmem)

/-- Equal dictionaries: the same values under the same keys, in whatever order these came. -/
def Same (d d' : Dict κ ν) : Prop := ∀ k, get d k = get d' k

theorem Same.refl (d : Dict κ ν) : Same d d := fun _ => rfl

theorem Same.symm {d d' : Dict κ ν} (h : Same d d') : Same d' d := fun k => (h k).symm

theorem Same.trans {d₁ d₂ d₃ : Dict κ ν} (h : Same d₁ d₂) (h' : Same d₂ d₃) : Same d₁ d₃ := fun k => (h k).trans (h' k)

theorem same_iff_perm {d d' : Dict κ ν} : Same d d' ↔ d.rows.Perm d'.rows := by
  rw [List.perm_ext_iff_of_nodup (List.Nodup.of_map _ d.unique) (List.Nodup.of_map _ d'.unique)]
  constructor
  · rintro h ⟨k, v⟩
    rw [← get_eq_some_iff, ← get_eq_some_iff, h k]
  · intro h k
    apply Option.ext
    intro v
    rw [get_eq_some_iff, get_eq_some_iff]
    exact h (k, v)

instance [DecidableEq ν] (d d' : Dict κ ν) : Decidable (Same d d') := decidable_of_iff _ same_iff_perm.symm

/-- The dictionary of some pairs: of two with one key the later one counts. -/
def ofList (pairs : List (κ × ν)) : Dict κ ν := pairs.foldl (fun d x => put d x.1 x.2) default

theorem ofList_concat (pairs : List (κ × ν)) (x : κ × ν) : ofList (pairs ++ [x]) = put (ofList pairs) x.1 x.2 := by
  simp [ofList]

theorem mem_of_get_ofList {k : κ} {v : ν} (pairs : List (κ × ν)) (h : get (ofList pairs) k = some v) :
    (k, v) ∈ pairs := by
  induction pairs using List.reverseRecOn with
  | nil => cases h
  | append_singleton pairs x ih =>
    rw [ofList_concat] at h
    rw [List.mem_append, List.mem_singleton]
    by_cases hk : k = x.1
    · subst hk
      rw [get_put_self] at h
      right
      rw [← Option.some.inj h]
    · rw [get_put_of_ne _ _ hk] at h
      left
      exact ih h

theorem rows_ofList (pairs : List (κ × ν)) (h : (pairs.map Prod.fst).Nodup) : (ofList pairs).rows = pairs := by
  induction pairs using List.reverseRecOn with
  | nil => rfl
  | append_singleton pairs x ih =>
    rw [List.map_append, List.map_singleton, List.nodup_append] at h
    obtain ⟨hnodup, -, hnew⟩ := h
    have hrows := ih hnodup
    rw [ofList_concat, rows_put_new, hrows]
    rw [get_eq_none_iff, hrows]
    intro hmem
    exact hnew x.1 hmem x.1 (List.mem_singleton_self _) rfl

end Dict
