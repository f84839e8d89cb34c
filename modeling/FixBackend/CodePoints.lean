import Mathlib.Data.List.Basic
/-!
# CodePoints — texts that need not be Unicode

A `str` of Python is a sequence of code points.  A surrogate may stand alone in it, as after the escape of one in JSON,
and then the text has no encoding.
-/
namespace CodePoints

abbrev CodePoint := Fin 0x110000

abbrev Text := List CodePoint

def ofChar (c : Char) : CodePoint := ⟨c.toNat, c.valid.elim (fun h => Nat.lt_trans h (by decide)) And.right⟩

def ofString (s : String) : Text := s.toList.map ofChar

def toChar (c : CodePoint) : Option Char := if c.val.isValidChar then some (Char.ofNat c.val) else none

/-- `str.encode`, a `String` standing for its bytes. -/
def encode (t : Text) : Option String := (t.mapM toChar).map String.ofList

/-- No surrogate is in the text. -/
def Encodable (t : Text) : Prop := ∀ c ∈ t, c.val.isValidChar

instance (t : Text) : Decidable (Encodable t) := inferInstanceAs (Decidable (∀ c ∈ t, c.val.isValidChar))

@[simp] theorem toChar_ofChar (c : Char) : toChar (ofChar c) = some c := by
  have hvalid : (ofChar c).val.isValidChar := c.valid
  rw [toChar, if_pos hvalid]
  exact congrArg some (Char.ofNat_toNat c)

theorem encodable_ofString (s : String) : Encodable (ofString s) := by
  intro c hc
  obtain ⟨d, -, rfl⟩ := List.mem_map.1 hc
  exact d.valid

@[simp] theorem encodable_append {s t : Text} : Encodable (s ++ t) ↔ Encodable s ∧ Encodable t := by
  unfold Encodable
  rw [List.forall_mem_append]

@[simp] theorem encode_ofString (s : String) : encode (ofString s) = some s := by
  have hmap : (s.toList.map ofChar).mapM toChar = some s.toList := by
    induction s.toList with
    | nil => rfl
    | cons c cs ih => rw [List.map_cons, List.mapM_cons, ih, toChar_ofChar]; rfl
  rw [encode, ofString, hmap, Option.map_some, String.ofList_toList]

theorem exists_mapM_iff {t : Text} : (∃ cs, t.mapM toChar = some cs) ↔ Encodable t := by
  induction t with
  | nil => exact iff_of_true ⟨[], rfl⟩ fun _ h => nomatch h
  | cons c t ih =>
    have hcons : Encodable (c :: t) ↔ c.val.isValidChar ∧ Encodable t := List.forall_mem_cons
    rw [List.mapM_cons, hcons, ← ih, toChar]
    split_ifs with hc
    · cases t.mapM toChar <;> simp [hc]
    · simp [hc]

theorem exists_encode_iff {t : Text} : (∃ s, encode t = some s) ↔ Encodable t := by
  rw [← exists_mapM_iff]
  unfold encode
  cases t.mapM toChar <;> simp

end CodePoints
