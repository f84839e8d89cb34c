import FixBackend.Table
/-!
# Codecs — values as documents, and back

A `Codec` writes values as documents and reads them, and it reads what it wrote as the value it was (`Codec.reads`).
`Attrs` are the attributes of a class: each is put under its name and taken by a lookup, so that other names around them
do not matter (`Attrs.take_put`), and attributes under distinct names make an object.  A `Format` says which documents
are objects, lists and null.
-/
namespace Codecs

/-- A way to write values and to read them.  What is not valid cannot come about in the program. -/
structure Codec (ε τ α : Type) where
  unstructure : α → τ
  structured : τ → Except ε α
  Valid : α → Prop
  reads : ∀ a, Valid a → structured (unstructure a) = .ok a

/-- The attributes of a class. -/
structure Attrs (ε τ α : Type) where
  names : List String
  put : α → List (String × τ)
  take : List (String × τ) → Except ε α
  Valid : α → Prop
  names_put : ∀ a, (put a).map Prod.fst = names
  take_put : ∀ a o, Valid a → (∀ p ∈ put a, o.lookup p.1 = some p.2) → take o = .ok a

/-- The shapes of documents. -/
structure Format (ε τ : Type) where
  null : τ
  isNull : τ → Bool
  isNull_null : isNull null = true
  items : List τ → τ
  readItems : τ → Except ε (List τ)
  readItems_items : ∀ l, readItems (items l) = .ok l
  object : List (String × τ) → τ
  fields : τ → Except ε (List (String × τ))
  fields_object : ∀ l, fields (object l) = .ok l

variable {ε τ α β κ : Type}

/-! ## Attributes -/

namespace Attrs

def field (name : String) (missing : ε) (c : Codec ε τ α) : Attrs ε τ α where
  names := [name]
  put a := [(name, c.unstructure a)]
  take o :=
    match o.lookup name with
    | some d => c.structured d
    | none => .error missing
  Valid := c.Valid
  names_put _ := rfl
  take_put a o ha h := by
    have hname := h (name, c.unstructure a) (List.mem_singleton.2 rfl)
    dsimp only at hname
    rw [hname]
    exact c.reads a ha

def fieldOr (name : String) (default : α) (c : Codec ε τ α) : Attrs ε τ α where
  names := [name]
  put a := [(name, c.unstructure a)]
  take o :=
    match o.lookup name with
    | some d => c.structured d
    | none => .ok default
  Valid := c.Valid
  names_put _ := rfl
  take_put a o ha h := by
    have hname := h (name, c.unstructure a) (List.mem_singleton.2 rfl)
    dsimp only at hname
    rw [hname]
    exact c.reads a ha

def and (x : Attrs ε τ α) (y : Attrs ε τ β) : Attrs ε τ (α × β) where
  names := x.names ++ y.names
  put a := x.put a.1 ++ y.put a.2
  take o := do
    let a ← x.take o
    let b ← y.take o
    return (a, b)
  Valid a := x.Valid a.1 ∧ y.Valid a.2
  names_put a := by rw [List.map_append, x.names_put, y.names_put]
  take_put a o ha h := by
    rw [x.take_put a.1 o ha.1 fun p hp => h p (List.mem_append_left _ hp),
      y.take_put a.2 o ha.2 fun p hp => h p (List.mem_append_right _ hp)]
    rfl

def mapped (x : Attrs ε τ α) (make : α → β) (attributes : β → α) (h : ∀ b, make (attributes b) = b) : Attrs ε τ β where
  names := x.names
  put b := x.put (attributes b)
  take o := (x.take o).map make
  Valid b := x.Valid (attributes b)
  names_put b := x.names_put _
  take_put b o hb hput := by
    rw [x.take_put (attributes b) o hb hput]
    exact congrArg Except.ok (h b)

end Attrs

theorem lookup_of_nodup : ∀ {o : List (String × τ)}, (o.map Prod.fst).Nodup → ∀ p ∈ o, o.lookup p.1 = some p.2
  | [], _, _, hp => by cases hp
  | q :: o, h, p, hp => by
    rw [List.map_cons, List.nodup_cons] at h
    rw [List.lookup_cons]
    obtain rfl | hp := List.mem_cons.1 hp
    · rw [beq_self_eq_true]
    · have hne : (p.1 == q.1) = false := by
        rw [beq_eq_false_iff_ne]
        exact fun heq => h.1 (heq ▸ List.mem_map_of_mem hp)
      rw [hne]
      exact lookup_of_nodup h.2 p hp

/-! ## Objects, lists and what may be null -/

namespace Format

variable (F : Format ε τ)

def record (x : Attrs ε τ α) (h : x.names.Nodup) : Codec ε τ α where
  unstructure a := F.object (x.put a)
  structured d := do x.take (← F.fields d)
  Valid := x.Valid
  reads a ha := by
    rw [F.fields_object]
    refine x.take_put a _ ha (lookup_of_nodup ?_)
    rw [x.names_put]
    exact h

def optional (c : Codec ε τ α) : Codec ε τ (Option α) where
  unstructure
    | none => F.null
    | some a => c.unstructure a
  structured d := if F.isNull d then .ok none else (c.structured d).map some
  Valid a := ∀ x ∈ a, c.Valid x ∧ F.isNull (c.unstructure x) = false
  reads a ha := by
    cases a with
    | none =>
      dsimp only
      rw [F.isNull_null, if_pos rfl]
    | some x =>
      obtain ⟨hx, hnull⟩ := ha x rfl
      dsimp only
      rw [hnull, if_neg Bool.false_ne_true, c.reads x hx]
      rfl

theorem mapM_reads (c : Codec ε τ α) : ∀ {l : List α}, (∀ a ∈ l, c.Valid a) →
    (l.map c.unstructure).mapM c.structured = .ok l
  | [], _ => rfl
  | a :: l, h => by
    rw [List.map_cons, List.mapM_cons, c.reads a (h a List.mem_cons_self),
      mapM_reads c fun x hx => h x (List.mem_cons_of_mem _ hx)]
    rfl

def list (c : Codec ε τ α) : Codec ε τ (List α) where
  unstructure l := F.items (l.map c.unstructure)
  structured d := do (← F.readItems d).mapM c.structured
  Valid l := ∀ a ∈ l, c.Valid a
  reads l hl := by
    rw [F.readItems_items]
    exact mapM_reads c hl

/-- An entry of an object as a pair of values. -/
def entry (key : Codec ε String κ) (c : Codec ε τ α) : Codec ε (String × τ) (κ × α) where
  unstructure p := (key.unstructure p.1, c.unstructure p.2)
  structured p := do
    let k ← key.structured p.1
    let a ← c.structured p.2
    return (k, a)
  Valid p := key.Valid p.1 ∧ c.Valid p.2
  reads p hp := by
    dsimp only
    rw [key.reads p.1 hp.1, c.reads p.2 hp.2]
    rfl

def collected [DecidableEq κ] (entries : List (κ × α)) : List (κ × α) :=
  (entries.foldl (fun (d : Dict κ α) p => d.put p.1 p.2) default).rows

theorem rows_foldl_put [DecidableEq κ] : ∀ {entries : List (κ × α)} {d : Dict κ α},
    (entries.map Prod.fst).Nodup → (∀ p ∈ entries, d.get p.1 = none) →
    (entries.foldl (fun (d : Dict κ α) p => d.put p.1 p.2) d).rows = d.rows ++ entries
  | [], d, _, _ => (List.append_nil _).symm
  | p :: entries, d, hnodup, hnew => by
    rw [List.map_cons, List.nodup_cons] at hnodup
    have hafter : ∀ q ∈ entries, (d.put p.1 p.2).get q.1 = none := by
      intro q hq
      rw [Dict.get_put_of_ne d p.2 fun heq => hnodup.1 (List.mem_map.2 ⟨q, hq, heq⟩)]
      exact hnew q (List.mem_cons_of_mem _ hq)
    rw [List.foldl_cons, rows_foldl_put hnodup.2 hafter, Dict.rows_put_new p.2 (hnew p List.mem_cons_self),
      List.append_assoc, List.singleton_append]

theorem collected_of_nodup [DecidableEq κ] {entries : List (κ × α)} (h : (entries.map Prod.fst).Nodup) :
    collected entries = entries :=
  rows_foldl_put h fun _ _ => rfl

def dict [DecidableEq κ] (key : Codec ε String κ) (c : Codec ε τ α) : Codec ε τ (List (κ × α)) where
  unstructure l := F.object (l.map (entry key c).unstructure)
  structured d := do return collected (← (← F.fields d).mapM (entry key c).structured)
  Valid l := (l.map Prod.fst).Nodup ∧ ∀ p ∈ l, (entry key c).Valid p
  reads l hl := by
    rw [F.fields_object]
    have hread := mapM_reads (entry key c) hl.2
    change (do return collected (← (l.map (entry key c).unstructure).mapM (entry key c).structured)) = _
    rw [hread]
    exact congrArg Except.ok (collected_of_nodup hl.1)

end Format

end Codecs
