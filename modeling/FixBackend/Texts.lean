import FixBackend.Calendar
/-!
# Texts — numbers, identifiers and times as texts

The texts of Python's `uuid.UUID` and of `datetime.isoformat` in UTC, and what reads them.  All of them are made of
numbers with a fixed count of digits, so one lemma about digits carries them (`readDigits_digits`).
-/
namespace Texts

open Calendar

/-! ## Numbers of a fixed width -/

def digits (base : Nat) : Nat → Nat → List Nat
  | 0, _ => []
  | width + 1, n => digits base width (n / base) ++ [n % base]

def ofDigits (base : Nat) (ds : List Nat) : Nat := ds.foldl (fun n d => n * base + d) 0

@[simp] theorem length_digits (base width n : Nat) : (digits base width n).length = width := by
  induction width generalizing n with
  | zero => rfl
  | succ width ih => rw [digits, List.length_append, ih, List.length_singleton]

theorem digits_lt {base : Nat} (hbase : 0 < base) {width n d : Nat} (h : d ∈ digits base width n) : d < base := by
  induction width generalizing n with
  | zero => cases h
  | succ width ih =>
    obtain h | h := List.mem_append.1 h
    · exact ih h
    · rw [List.mem_singleton.1 h]
      exact Nat.mod_lt _ hbase

theorem ofDigits_digits {base width n : Nat} (h : n < base ^ width) : ofDigits base (digits base width n) = n := by
  induction width generalizing n with
  | zero =>
    rw [Nat.pow_zero, Nat.lt_one_iff] at h
    exact h.symm
  | succ width ih =>
    have hhigh : n / base < base ^ width := Nat.div_lt_of_lt_mul (by rwa [Nat.pow_succ, Nat.mul_comm] at h)
    have hsplit : ofDigits base (digits base (width + 1) n) = ofDigits base (digits base width (n / base)) * base +
        n % base := by
      unfold ofDigits
      rw [digits, List.foldl_append]
      rfl
    rw [hsplit, ih hhigh, Nat.mul_comm]
    exact Nat.div_add_mod n base

/-- A digit up to the base sixteen, in either case. -/
def readDigit (c : Char) : Option Nat :=
  if '0' ≤ c ∧ c ≤ '9' then some (c.toNat - 48)
  else if 'a' ≤ c ∧ c ≤ 'f' then some (c.toNat - 87)
  else if 'A' ≤ c ∧ c ≤ 'F' then some (c.toNat - 55)
  else none

def readDigits (base : Nat) (cs : List Char) : Option Nat :=
  (cs.mapM fun c => (readDigit c).filter (· < base)).map (ofDigits base)

def writeDigits (base width n : Nat) : List Char := (digits base width n).map Nat.digitChar

theorem readDigit_digitChar {d : Nat} (h : d < 16) : readDigit d.digitChar = some d := by
  have hall : ∀ d : Fin 16, readDigit (Nat.digitChar d) = some d.val := by decide
  exact hall ⟨d, h⟩

theorem readDigits_map {base : Nat} (hbase : base ≤ 16) {ds : List Nat} (h : ∀ d ∈ ds, d < base) :
    readDigits base (ds.map Nat.digitChar) = some (ofDigits base ds) := by
  have hmap : (ds.map Nat.digitChar).mapM (fun c => (readDigit c).filter (· < base)) = some ds := by
    induction ds with
    | nil => rfl
    | cons d ds ih =>
      have hd := h d List.mem_cons_self
      have hread : (readDigit d.digitChar).filter (· < base) = some d := by
        rw [readDigit_digitChar (Nat.lt_of_lt_of_le hd hbase), Option.filter_some, if_pos (by simpa using hd)]
      rw [List.map_cons, List.mapM_cons, hread, ih fun x hx => h x (List.mem_cons_of_mem _ hx)]
      rfl
  unfold readDigits
  rw [hmap]
  rfl

/-- **A number is read as it was written**, when it has no more digits than the width. -/
theorem readDigits_writeDigits {base width n : Nat} (hpos : 0 < base) (hbase : base ≤ 16) (h : n < base ^ width) :
    readDigits base (writeDigits base width n) = some n := by
  rw [writeDigits, readDigits_map hbase fun d hd => digits_lt hpos hd, ofDigits_digits h]

theorem mem_writeDigits {base width n : Nat} (hpos : 0 < base) (hbase : base ≤ 16) {c : Char}
    (h : c ∈ writeDigits base width n) : ∃ d : Fin 16, c = Nat.digitChar d := by
  obtain ⟨d, hd, rfl⟩ := List.mem_map.1 h
  exact ⟨⟨d, Nat.lt_of_lt_of_le (digits_lt hpos hd) hbase⟩, rfl⟩

theorem length_writeDigits (base width n : Nat) : (writeDigits base width n).length = width := by
  rw [writeDigits, List.length_map, length_digits]

/-! ## UUIDs -/

def hyphenated (hex : List Char) : List Char :=
  hex.take 8 ++ '-' :: ((hex.drop 8).take 4 ++ '-' :: ((hex.drop 12).take 4 ++ '-' :: ((hex.drop 16).take 4 ++
    '-' :: hex.drop 20)))

def uuidText (n : Nat) : List Char := hyphenated (writeDigits 16 32 n)

/-- `str.replace(sub, '')`; the number counts the characters of an occurrence that are left out still. -/
def without (sub : List Char) : Nat → List Char → List Char
  | _, [] => []
  | skip + 1, _ :: cs => without sub skip cs
  | 0, c :: cs => if sub.isPrefixOf (c :: cs) then without sub (sub.length - 1) cs else c :: without sub 0 cs

/-- `str.strip('\x7b\x7d')`. -/
def stripBraces (cs : List Char) : List Char :=
  let brace := fun c : Char => c.toNat = 123 || c.toNat = 125
  ((cs.dropWhile brace).reverse.dropWhile brace).reverse

/-- `UUID(text)`: the prefixes, braces and hyphens do not count. -/
def readUuid (cs : List Char) : Option Nat :=
  let hex := (stripBraces (without "uuid:".toList 0 (without "urn:".toList 0 cs))).filter (· != '-')
  if hex.length = 32 then readDigits 16 hex else none

theorem without_of_notMem {sub : List Char} {c : Char} (hhead : sub.head? = some c) : ∀ {cs : List Char}, c ∉ cs →
    without sub 0 cs = cs
  | [], _ => rfl
  | x :: xs, h => by
    rw [List.mem_cons, not_or] at h
    have hprefix : sub.isPrefixOf (x :: xs) = false := by
      cases sub with
      | nil => cases hhead
      | cons y ys =>
        cases hhead
        simp [List.isPrefixOf, h.1]
    rw [without, hprefix, if_neg Bool.false_ne_true, without_of_notMem hhead h.2]

theorem stripBraces_of_forall {cs : List Char} (h : ∀ c ∈ cs, c.toNat ≠ 123 ∧ c.toNat ≠ 125) : stripBraces cs = cs := by
  have hdrop : ∀ l : List Char, (∀ c ∈ l, c ∈ cs) →
      l.dropWhile (fun c : Char => c.toNat = 123 || c.toNat = 125) = l := by
    intro l hl
    cases l with
    | nil => rfl
    | cons c l =>
      obtain ⟨hopen, hclose⟩ := h c (hl c List.mem_cons_self)
      rw [List.dropWhile_cons_of_neg]
      simp [hopen, hclose]
  unfold stripBraces
  dsimp only
  rw [hdrop cs fun c hc => hc, hdrop cs.reverse fun c hc => List.mem_reverse.1 hc, List.reverse_reverse]

theorem mem_hyphenated {hex : List Char} {c : Char} (h : c ∈ hyphenated hex) : c = '-' ∨ c ∈ hex := by
  simp only [hyphenated, List.mem_append, List.mem_cons] at h
  rcases h with h | h | h | h | h | h | h | h | h
  · exact Or.inr (List.mem_of_mem_take h)
  · exact Or.inl h
  · exact Or.inr (List.mem_of_mem_drop (List.mem_of_mem_take h))
  · exact Or.inl h
  · exact Or.inr (List.mem_of_mem_drop (List.mem_of_mem_take h))
  · exact Or.inl h
  · exact Or.inr (List.mem_of_mem_drop (List.mem_of_mem_take h))
  · exact Or.inl h
  · exact Or.inr (List.mem_of_mem_drop h)

theorem filter_hyphenated {hex : List Char} (h : '-' ∉ hex) : (hyphenated hex).filter (· != '-') = hex := by
  have hkeep : ∀ l : List Char, (∀ c ∈ l, c ∈ hex) → l.filter (· != '-') = l := by
    intro l hl
    rw [List.filter_eq_self]
    intro c hc
    simpa using fun heq : c = '-' => h (heq ▸ hl c hc)
  have hgroup : ∀ n, ((hex.drop n).take 4).filter (· != '-') ++ (hex.drop (n + 4)).filter (· != '-') =
      (hex.drop n).filter (· != '-') := by
    intro n
    rw [← List.filter_append, ← List.drop_drop, List.take_append_drop]
  have hhyphen : ∀ l : List Char, ('-' :: l).filter (· != '-') = l.filter (· != '-') := fun l =>
    List.filter_cons_of_neg (by simp)
  unfold hyphenated
  rw [List.filter_append, hhyphen, List.filter_append, hhyphen, List.filter_append, hhyphen,
    List.filter_append, hhyphen,
    hgroup 16, hgroup 12, hgroup 8, ← List.filter_append, List.take_append_drop, hkeep hex fun _ hc => hc]

/-- **A UUID is read as it was written.** -/
theorem readUuid_uuidText {n : Nat} (h : n < 2 ^ 128) : readUuid (uuidText n) = some n := by
  have hwidth : n < 16 ^ 32 := h
  have hhex : ∀ c ∈ writeDigits 16 32 n, ∃ d : Fin 16, c = Nat.digitChar d := fun c hc =>
    mem_writeDigits (by decide) (by decide) hc
  have hlength := length_writeDigits 16 32 n
  have hread := readDigits_writeDigits (by decide) (by decide) hwidth
  unfold uuidText readUuid
  generalize writeDigits 16 32 n = hex at hhex hlength hread ⊢
  -- neither a letter of a prefix nor a brace is among the characters
  have hplain : ∀ c ∈ hyphenated hex, c ≠ 'u' ∧ c.toNat ≠ 123 ∧ c.toNat ≠ 125 := by
    intro c hc
    obtain rfl | hc := mem_hyphenated hc
    · decide
    · obtain ⟨d, rfl⟩ := hhex c hc
      have hall : ∀ d : Fin 16, Nat.digitChar d ≠ 'u' ∧ (Nat.digitChar d).toNat ≠ 123 ∧
          (Nat.digitChar d).toNat ≠ 125 := by
        decide
      exact hall d
  have hu : 'u' ∉ hyphenated hex := fun hmem => (hplain _ hmem).1 rfl
  have hhyphen : '-' ∉ hex := by
    intro hmem
    obtain ⟨d, hd⟩ := hhex _ hmem
    have hall : ∀ d : Fin 16, '-' ≠ Nat.digitChar d := by decide
    exact hall d hd
  dsimp only
  rw [without_of_notMem (by decide) hu, without_of_notMem (by decide) hu,
    stripBraces_of_forall fun c hc => (hplain c hc).2, filter_hyphenated hhyphen, if_pos hlength, hread]

/-! ## Times -/

/-- `datetime.isoformat` of a time in UTC: the microseconds stand only when there are some. -/
def isoformat (t : DateTime) : List Char :=
  let seconds := t.micros / 1000000
  writeDigits 10 4 t.date.year ++ '-' :: (writeDigits 10 2 t.date.month ++ '-' :: (writeDigits 10 2 t.date.day ++
    'T' :: (writeDigits 10 2 (seconds / 3600) ++ ':' :: (writeDigits 10 2 (seconds / 60 % 60) ++
      ':' :: (writeDigits 10 2 (seconds % 60) ++
        ((if t.micros % 1000000 = 0 then [] else '.' :: writeDigits 10 6 (t.micros % 1000000)) ++ "+00:00".toList))))))

def readNumber (width : Nat) (cs : List Char) : Option (Nat × List Char) :=
  if width ≤ cs.length then (readDigits 10 (cs.take width)).map (·, cs.drop width) else none

def readChar (c : Char) : List Char → Option (List Char)
  | [] => none
  | x :: cs => if x = c then some cs else none

def readMicros : List Char → Option (Nat × List Char)
  | '.' :: cs => readNumber 6 cs
  | cs => some (0, cs)

/-- `datetime.fromisoformat`, of the texts of `isoformat`. -/
def fromIsoformat (cs : List Char) : Option DateTime := do
  let (year, cs) ← readNumber 4 cs
  let cs ← readChar '-' cs
  let (month, cs) ← readNumber 2 cs
  let cs ← readChar '-' cs
  let (day, cs) ← readNumber 2 cs
  let cs ← readChar 'T' cs
  let (hour, cs) ← readNumber 2 cs
  let cs ← readChar ':' cs
  let (minute, cs) ← readNumber 2 cs
  let cs ← readChar ':' cs
  let (second, cs) ← readNumber 2 cs
  let (micros, cs) ← readMicros cs
  if hdate : 1 ≤ year ∧ 1 ≤ month ∧ month ≤ 12 ∧ 1 ≤ day ∧ day ≤ daysInMonth year month then
    if htime : ((hour * 60 + minute) * 60 + second) * 1000000 + micros < dayMicros then
      if hour < 24 ∧ minute < 60 ∧ second < 60 ∧ cs = "+00:00".toList then
        some ⟨⟨year, month, day, hdate⟩, ((hour * 60 + minute) * 60 + second) * 1000000 + micros, htime⟩
      else none
    else none
  else none

theorem readNumber_writeDigits {width n : Nat} (h : n < 10 ^ width) (cs : List Char) :
    readNumber width (writeDigits 10 width n ++ cs) = some (n, cs) := by
  have hlength := length_writeDigits 10 width n
  unfold readNumber
  rw [if_pos (by rw [List.length_append, hlength]; omega), List.take_left' hlength, List.drop_left' hlength,
    readDigits_writeDigits (by decide) (by decide) h]
  rfl

theorem bind_readNumber {β : Type} {width n : Nat} (h : n < 10 ^ width) (cs : List Char)
    (f : Nat × List Char → Option β) : (readNumber width (writeDigits 10 width n ++ cs) >>= f) = f (n, cs) := by
  rw [readNumber_writeDigits h]
  rfl

theorem bind_readChar {β : Type} (c : Char) (cs : List Char) (f : List Char → Option β) :
    (readChar c (c :: cs) >>= f) = f cs := by
  rw [readChar, if_pos rfl]
  rfl

theorem readMicros_written {n : Nat} (h : n < 1000000) :
    readMicros ((if n = 0 then [] else '.' :: writeDigits 10 6 n) ++ "+00:00".toList) = some (n, "+00:00".toList) := by
  by_cases hn : n = 0
  · rw [if_pos hn, hn]
    rfl
  · rw [if_neg hn]
    exact readNumber_writeDigits h _

/-- **A time is read as it was written**, up to the last year that `datetime` has. -/
theorem fromIsoformat_isoformat {t : DateTime} (h : t.date.year ≤ 9999) : fromIsoformat (isoformat t) = some t := by
  obtain ⟨hyear, hmonth, hmonth', hday, hday'⟩ := t.date.valid
  have hdays := daysInMonth_le t.date.year t.date.month
  have hmicros := t.inDay
  unfold dayMicros at hmicros
  have hsum : ((t.micros / 1000000 / 3600 * 60 + t.micros / 1000000 / 60 % 60) * 60 + t.micros / 1000000 % 60) *
      1000000 +
      t.micros % 1000000 = t.micros := by omega
  have hhour : t.micros / 1000000 / 3600 < 24 := by omega
  have hminute : t.micros / 1000000 / 60 % 60 < 60 := Nat.mod_lt _ (by decide)
  have hsecond : t.micros / 1000000 % 60 < 60 := Nat.mod_lt _ (by decide)
  have hrest := readMicros_written (n := t.micros % 1000000) (Nat.mod_lt _ (by decide))
  unfold fromIsoformat isoformat
  dsimp only
  rw [bind_readNumber (by omega)]
  dsimp only
  rw [bind_readChar, bind_readNumber (by omega)]
  dsimp only
  rw [bind_readChar, bind_readNumber (by omega)]
  dsimp only
  rw [bind_readChar, bind_readNumber (by omega)]
  dsimp only
  rw [bind_readChar, bind_readNumber (by omega)]
  dsimp only
  rw [bind_readChar, bind_readNumber (by omega), hrest]
  dsimp only [Option.bind_eq_bind, Option.bind_some]
  rw [dif_pos t.date.valid, dif_pos (by rw [hsum]; exact t.inDay), if_pos ⟨hhour, hminute, hsecond, rfl⟩]
  simp only [hsum]

end Texts
