import Mathlib
/-!
# Calendar — dates and times as the service keeps them

A `DateTime` is a UTC `datetime` of microsecond resolution: a valid date of the proleptic Gregorian calendar and a time
inside the day.  Order and differences go through `DateTime.toMicros`, the microseconds since the first day of year 1,
as `datetime` itself compares and subtracts.  Two facts carry the rest: a date of a later month is later
(`Date.ordinal_lt_of_month_lt`), and the next day has the next number (`Date.ordinal_nextDay`).
-/
namespace Calendar

/-! ## Dates -/

def isLeap (y : Nat) : Bool := y % 4 == 0 && (y % 100 != 0 || y % 400 == 0)

def daysInMonth (y m : Nat) : Nat :=
  match m with
  | 2 => if isLeap y then 29 else 28
  | 4 | 6 | 9 | 11 => 30
  | _ => 31

/-- A date of the proleptic Gregorian calendar. -/
structure Date where
  year : Nat
  month : Nat
  day : Nat
  valid : 1 ≤ year ∧ 1 ≤ month ∧ month ≤ 12 ∧ 1 ≤ day ∧ day ≤ daysInMonth year month
deriving DecidableEq

def daysBeforeYear (y : Nat) : Nat := (y - 1) * 365 + (y - 1) / 4 - (y - 1) / 100 + (y - 1) / 400

def daysBeforeMonth (y m : Nat) : Nat :=
  match m with
  | 0 | 1 => 0
  | m + 1 => daysBeforeMonth y m + daysInMonth y m

/-- The number of a day, the first of January of year 1 being day 1. -/
def Date.ordinal (d : Date) : Nat := daysBeforeYear d.year + daysBeforeMonth d.year d.month + d.day

theorem daysInMonth_ge (y m : Nat) : 28 ≤ daysInMonth y m := by
  unfold daysInMonth
  split <;> (try split) <;> omega

theorem daysInMonth_le (y m : Nat) : daysInMonth y m ≤ 31 := by
  unfold daysInMonth
  split <;> (try split) <;> omega

theorem daysBeforeMonth_succ (y m : Nat) (hm : 1 ≤ m) :
    daysBeforeMonth y (m + 1) = daysBeforeMonth y m + daysInMonth y m := by
  obtain ⟨k, rfl⟩ := Nat.exists_eq_add_of_le' hm
  rfl

theorem daysBeforeMonth_mono (y : Nat) {m n : Nat} (hm : 1 ≤ m) (h : m ≤ n) :
    daysBeforeMonth y m ≤ daysBeforeMonth y n := by
  induction n, h using Nat.le_induction with
  | base => exact Nat.le_refl _
  | succ n hmn ih =>
    rw [daysBeforeMonth_succ y n (by omega)]
    omega

theorem isLeap_iff (y : Nat) : isLeap y = true ↔ y % 4 = 0 ∧ (y % 100 ≠ 0 ∨ y % 400 = 0) := by
  simp [isLeap]

theorem daysBeforeYear_succ (y : Nat) (hy : 1 ≤ y) :
    daysBeforeYear (y + 1) = daysBeforeYear y + daysBeforeMonth y 13 := by
  obtain ⟨k, rfl⟩ := Nat.exists_eq_add_of_le' hy
  have h13 : daysBeforeMonth (k + 1) 13 = if isLeap (k + 1) then 366 else 365 := by
    simp only [daysBeforeMonth, daysInMonth]
    split <;> rfl
  have h4 : (k + 1) / 4 = k / 4 + if (k + 1) % 4 = 0 then 1 else 0 := by split <;> omega
  have h100 : (k + 1) / 100 = k / 100 + if (k + 1) % 100 = 0 then 1 else 0 := by split <;> omega
  have h400 : (k + 1) / 400 = k / 400 + if (k + 1) % 400 = 0 then 1 else 0 := by split <;> omega
  rw [h13]
  simp only [daysBeforeYear, Nat.add_sub_cancel, h4, h100, h400, isLeap_iff]
  by_cases c4 : (k + 1) % 4 = 0 <;> by_cases c100 : (k + 1) % 100 = 0 <;> by_cases c400 : (k + 1) % 400 = 0 <;>
    simp only [c4, c100, c400, if_true, if_false, ne_eq, not_true, not_false_eq_true, or_true, or_false,
      or_self, and_true, and_false, and_self] <;> omega

theorem daysBeforeYear_mono {y z : Nat} (hy : 1 ≤ y) (h : y ≤ z) : daysBeforeYear y ≤ daysBeforeYear z := by
  induction z, h using Nat.le_induction with
  | base => exact Nat.le_refl _
  | succ z hyz ih =>
    rw [daysBeforeYear_succ z (by omega)]
    omega

def Date.sameMonth (a b : Date) : Prop := a.year = b.year ∧ a.month = b.month

instance (a b : Date) : Decidable (a.sameMonth b) := inferInstanceAs (Decidable (_ ∧ _))

def Date.monthLt (a b : Date) : Prop := a.year < b.year ∨ (a.year = b.year ∧ a.month < b.month)

/-- **A date of a later month is later.** -/
theorem Date.ordinal_lt_of_month_lt {a b : Date} (h : a.monthLt b) : a.ordinal < b.ordinal := by
  obtain ⟨ha1, ha2, ha3, ha4, ha5⟩ := a.valid
  obtain ⟨hb1, hb2, hb3, hb4, hb5⟩ := b.valid
  unfold Date.ordinal
  have hnext := daysBeforeMonth_succ a.year a.month ha2
  rcases h with hy | ⟨hy, hm⟩
  · have h1 : daysBeforeMonth a.year (a.month + 1) ≤ daysBeforeMonth a.year 13 :=
      daysBeforeMonth_mono a.year (Nat.le_add_left 1 a.month) (Nat.succ_le_succ ha3)
    have h2 := daysBeforeYear_succ a.year ha1
    have h3 := daysBeforeYear_mono (Nat.le_add_left 1 a.year) (Nat.succ_le_of_lt hy)
    omega
  · have h1 := daysBeforeMonth_mono a.year (Nat.le_add_left 1 a.month) (Nat.succ_le_of_lt hm)
    rw [← hy]
    omega

theorem Date.month_cases (a b : Date) : a.monthLt b ∨ a.sameMonth b ∨ b.monthLt a := by
  unfold Date.monthLt Date.sameMonth
  omega

theorem Date.ordinal_injective : Function.Injective Date.ordinal := by
  intro a b h
  rcases a.month_cases b with hlt | ⟨hyear, hmonth⟩ | hlt
  · have := Date.ordinal_lt_of_month_lt hlt
    omega
  · have hday : a.day = b.day := by
      unfold Date.ordinal at h
      rw [hyear, hmonth] at h
      omega
    cases a
    cases b
    congr
  · have := Date.ordinal_lt_of_month_lt hlt
    omega

def Date.nextMonth (d : Date) : Date :=
  if h : d.month = 12 then
    { year := d.year + 1
      month := 1
      day := 1
      valid := ⟨by omega, by omega, by omega, by omega, by simp [daysInMonth]⟩ }
  else
    { year := d.year
      month := d.month + 1
      day := 1
      valid := ⟨d.valid.1, by omega, by have := d.valid.2.2.1; omega, by omega,
        Nat.le_trans (by decide) (daysInMonth_ge _ _)⟩ }

def Date.nextDay (d : Date) : Date :=
  if h : d.day < daysInMonth d.year d.month then
    { year := d.year
      month := d.month
      day := d.day + 1
      valid := ⟨d.valid.1, d.valid.2.1, d.valid.2.2.1, by omega, h⟩ }
  else d.nextMonth

theorem Date.monthLt_nextMonth (d : Date) : d.monthLt d.nextMonth := by
  unfold Date.nextMonth Date.monthLt
  split
  · exact Or.inl (Nat.lt_succ_self _)
  · exact Or.inr ⟨rfl, Nat.lt_succ_self _⟩

theorem Date.ordinal_lt_nextDay (d : Date) : d.ordinal < d.nextDay.ordinal := by
  unfold Date.nextDay
  split
  · simp only [Date.ordinal]
    omega
  · exact Date.ordinal_lt_of_month_lt d.monthLt_nextMonth

theorem Date.ordinal_nextMonth (d : Date) :
    d.nextMonth.ordinal + d.day = d.ordinal + daysInMonth d.year d.month + 1 := by
  obtain ⟨hyear, hmonth, hlast, -, -⟩ := d.valid
  unfold Date.nextMonth
  split
  · rename_i hdecember
    have hnext : daysBeforeMonth d.year 13 = daysBeforeMonth d.year 12 + daysInMonth d.year 12 := rfl
    have hyears := daysBeforeYear_succ d.year hyear
    have hfirst : daysBeforeMonth (d.year + 1) 1 = 0 := rfl
    simp only [Date.ordinal, hfirst, hdecember]
    omega
  · have hnext := daysBeforeMonth_succ d.year d.month hmonth
    simp only [Date.ordinal]
    omega

theorem Date.nextMonth_congr {a b : Date} (h : a.sameMonth b) : a.nextMonth = b.nextMonth := by
  obtain ⟨hyear, hmonth⟩ := h
  unfold Date.nextMonth
  by_cases hdecember : a.month = 12
  · rw [dif_pos hdecember, dif_pos (hmonth ▸ hdecember)]
    simp only [hyear]
  · rw [dif_neg hdecember, dif_neg (hmonth ▸ hdecember)]
    simp only [hyear, hmonth]

theorem Date.ordinal_nextDay (d : Date) : d.nextDay.ordinal = d.ordinal + 1 := by
  unfold Date.nextDay
  split
  · rfl
  · have hlast := d.valid.2.2.2.2
    have hnext := d.ordinal_nextMonth
    omega

theorem Date.ordinal_iterate_nextDay (n : Nat) (d : Date) : (Date.nextDay^[n] d).ordinal = d.ordinal + n := by
  induction n with
  | zero => rfl
  | succ n ih =>
    rw [Function.iterate_succ_apply', Date.ordinal_nextDay, ih]
    omega

/-! ## Instants -/

def dayMicros : Nat := 86400000000

/-- A UTC `datetime`: a date and the microseconds since its midnight. -/
structure DateTime where
  date : Date
  micros : Nat
  inDay : micros < dayMicros
deriving DecidableEq

/-- The microseconds since the first day of year 1. -/
def DateTime.toMicros (t : DateTime) : Nat := dayMicros * t.date.ordinal + t.micros

instance : LE DateTime := ⟨fun a b => a.toMicros ≤ b.toMicros⟩
instance : LT DateTime := ⟨fun a b => a.toMicros < b.toMicros⟩
instance (a b : DateTime) : Decidable (a ≤ b) := inferInstanceAs (Decidable (a.toMicros ≤ b.toMicros))
instance (a b : DateTime) : Decidable (a < b) := inferInstanceAs (Decidable (a.toMicros < b.toMicros))

theorem DateTime.le_def {a b : DateTime} : a ≤ b ↔ a.toMicros ≤ b.toMicros := Iff.rfl
theorem DateTime.lt_def {a b : DateTime} : a < b ↔ a.toMicros < b.toMicros := Iff.rfl

theorem DateTime.toMicros_injective : Function.Injective DateTime.toMicros := by
  intro a b h
  have ha := a.inDay
  have hb := b.inDay
  simp only [DateTime.toMicros, dayMicros] at h ha hb
  have hdate : a.date = b.date := Date.ordinal_injective (by omega)
  have hmicros : a.micros = b.micros := by
    rw [hdate] at h
    omega
  cases a
  cases b
  congr

def Date.atHour (d : Date) (hour : Fin 24) : DateTime where
  date := d
  micros := 3600000000 * hour.val
  inDay := by
    have := hour.isLt
    unfold dayMicros
    omega

/-- The hours of a day have numbers. -/
instance hours_neZero : NeZero 24 := ⟨by decide⟩

theorem midnight_inDay : 0 < dayMicros := by decide

/-! ### Some days are dates -/

theorem valid_newYear : 1 ≤ 2024 ∧ 1 ≤ 1 ∧ 1 ≤ 12 ∧ 1 ≤ 1 ∧ 1 ≤ daysInMonth 2024 1 := by decide

theorem valid_january2 : 1 ≤ 2024 ∧ 1 ≤ 1 ∧ 1 ≤ 12 ∧ 1 ≤ 2 ∧ 2 ≤ daysInMonth 2024 1 := by decide

theorem valid_january3 : 1 ≤ 2024 ∧ 1 ≤ 1 ∧ 1 ≤ 12 ∧ 1 ≤ 3 ∧ 3 ≤ daysInMonth 2024 1 := by decide

theorem valid_january10 : 1 ≤ 2024 ∧ 1 ≤ 1 ∧ 1 ≤ 12 ∧ 1 ≤ 10 ∧ 10 ≤ daysInMonth 2024 1 := by decide

theorem valid_february1 : 1 ≤ 2024 ∧ 1 ≤ 2 ∧ 2 ≤ 12 ∧ 1 ≤ 1 ∧ 1 ≤ daysInMonth 2024 2 := by decide

/-! ### Later instants -/

def DateTime.addMicros (t : DateTime) (n : Nat) : DateTime where
  date := Date.nextDay^[(t.micros + n) / dayMicros] t.date
  micros := (t.micros + n) % dayMicros
  inDay := Nat.mod_lt _ (by decide)

/-- The `timedelta` between two instants, in microseconds. -/
def DateTime.sub (a b : DateTime) : Int := (a.toMicros : Int) - (b.toMicros : Int)

@[simp] theorem DateTime.toMicros_addMicros (t : DateTime) (n : Nat) : (t.addMicros n).toMicros = t.toMicros + n := by
  have hdays := Nat.div_add_mod (t.micros + n) dayMicros
  unfold DateTime.toMicros DateTime.addMicros
  dsimp only
  rw [Date.ordinal_iterate_nextDay, Nat.mul_add]
  omega

def DateTime.sameMonth (a b : DateTime) : Prop := a.date.sameMonth b.date

instance (a b : DateTime) : Decidable (a.sameMonth b) := inferInstanceAs (Decidable (a.date.sameMonth b.date))

def DateTime.endOfMonth (t : DateTime) : DateTime where
  date :=
    { year := t.date.year
      month := t.date.month
      day := daysInMonth t.date.year t.date.month
      valid := ⟨t.date.valid.1, t.date.valid.2.1, t.date.valid.2.2.1,
        Nat.le_trans (by decide) (daysInMonth_ge _ _), Nat.le_refl _⟩ }
  micros := dayMicros - 1
  inDay := by decide

@[simp] theorem DateTime.sameMonth_endOfMonth (t : DateTime) : t.sameMonth t.endOfMonth := ⟨rfl, rfl⟩

theorem DateTime.sameMonth.symm {a b : DateTime} (h : a.sameMonth b) : b.sameMonth a := ⟨h.1.symm, h.2.symm⟩

theorem DateTime.sameMonth.trans {a b c : DateTime} (h : a.sameMonth b) (h' : b.sameMonth c) : a.sameMonth c :=
  ⟨h.1.trans h'.1, h.2.trans h'.2⟩

theorem DateTime.endOfMonth_congr {a b : DateTime} (h : a.sameMonth b) : a.endOfMonth = b.endOfMonth := by
  obtain ⟨hy, hm⟩ := h
  unfold DateTime.endOfMonth
  congr 2
  rw [hy, hm]

theorem DateTime.lt_of_ordinal_lt {a b : DateTime} (hord : a.date.ordinal < b.date.ordinal) : a < b := by
  have ha := a.inDay
  rw [DateTime.lt_def]
  unfold DateTime.toMicros
  have := Nat.mul_le_mul_left dayMicros (Nat.succ_le_of_lt hord)
  rw [Nat.mul_succ] at this
  omega

theorem DateTime.lt_of_month_lt {a b : DateTime} (h : a.date.monthLt b.date) : a < b :=
  DateTime.lt_of_ordinal_lt (Date.ordinal_lt_of_month_lt h)

theorem DateTime.sameMonth_of_lt_endOfMonth {a t : DateTime} (hat : a ≤ t) (ht : t < a.endOfMonth) : a.sameMonth t := by
  rcases Date.month_cases a.date t.date with h | h | h
  · have : a.endOfMonth < t := DateTime.lt_of_month_lt h
    rw [DateTime.lt_def] at this ht
    omega
  · exact h
  · have := DateTime.lt_of_month_lt h
    rw [DateTime.lt_def] at this
    rw [DateTime.le_def] at hat
    omega

theorem DateTime.sameMonth_of_between {a b c : DateTime} (hab : a ≤ b) (hbc : b ≤ c) (h : a.sameMonth c) :
    a.sameMonth b := by
  rcases Date.month_cases a.date b.date with hm | hm | hm
  · have hcb : c.date.monthLt b.date := by
      obtain ⟨hy, hm'⟩ := h
      unfold Date.monthLt at hm ⊢
      omega
    have := DateTime.lt_of_month_lt hcb
    rw [DateTime.lt_def] at this
    rw [DateTime.le_def] at hbc
    omega
  · exact hm
  · have := DateTime.lt_of_month_lt hm
    rw [DateTime.lt_def] at this
    rw [DateTime.le_def] at hab
    omega

end Calendar
