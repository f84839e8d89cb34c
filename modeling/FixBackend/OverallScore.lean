import FixBackend.Calendar
import FixBackend.Ids
import FixBackend.Table
/-!
# OverallScore — the accounts of a report and their score

The part of `InventoryService.summary` of `fixbackend/inventory/inventory_service.py` that reads the accounts of a
period.  What the inventory returns for the period and the reader of times, `parse_utc_str` of `fixcloudutils`, are
parameters.
-/
namespace Fix

open Calendar

namespace OverallScore

/-- The metadata of an account that the summary reads, `failed` with the resources of each severity. -/
structure Metadata where
  exportedAt : Option String
  score : Option ℚ
  descendantCount : Option Nat
  failed : Option (Dict String Nat)

structure AccountEntry where
  id : CloudAccountId
  name : String
  cloud : String
  metadata : Metadata

structure AccountSummary where
  id : CloudAccountId
  name : String
  cloud : String
  resourceCount : Nat
  failedResourcesBySeverity : Dict String Nat
  score : Int
  exportedAt : Option DateTime

structure ReportSummary where
  availableResources : Nat
  failedResourcesBySeverity : Dict String Nat
  overallScore : Int
  accounts : List AccountSummary

/-- `round`: of two numbers equally near the even one. -/
def round (q : ℚ) : Int :=
  let low := ⌊q⌋
  if q - low < 1 / 2 then low
  else if 1 / 2 < q - low then low + 1
  else if low % 2 = 0 then low
  else low + 1

/-- What `populate_info` fills in. -/
structure Populated where
  severityResourceCounter : Dict String Nat
  accountsById : Dict CloudAccountId AccountSummary

def count (counter failed : Dict String Nat) : Dict String Nat :=
  failed.rows.foldl (fun counter x => counter.put x.1 ((counter.get x.1).getD 0 + x.2)) counter

/-- `sort(key=lambda x: x.score)`. -/
def byScore (a b : AccountSummary) : Prop := a.score ≤ b.score

instance : DecidableRel byScore := fun a b => inferInstanceAs (Decidable (a.score ≤ b.score))

def counted (now : DateTime) (duration : Int) (a : AccountSummary) : Bool :=
  match a.exportedAt with
  | none => true
  | some exportedAt => decide ((now.toMicros : Int) - duration < exportedAt.toMicros)

def overallScore (accounts : Dict CloudAccountId AccountSummary) (now : DateTime) (duration : Int) : Int :=
  let values := accounts.rows.map Prod.snd
  let totalScore := ((values.filter (counted now duration)).map (·.score)).sum
  let totalAccounts := values.length
  if 0 < totalAccounts then totalScore / totalAccounts else 100

section Reading

variable {ε : Type} (parseUtcStr : String → Except ε DateTime)

def Metadata.readExportedAt (metadata : Metadata) : Except ε (Option DateTime) :=
  match metadata.exportedAt with
  | some exp => if exp = "" then pure none else some <$> parseUtcStr exp
  | none => pure none

def accountSummary (entry : AccountEntry) : Except ε AccountSummary := do
  let exportedAt ← entry.metadata.readExportedAt parseUtcStr
  pure
    { id := entry.id
      name := entry.name
      cloud := entry.cloud
      resourceCount := entry.metadata.descendantCount.getD 0
      failedResourcesBySeverity := entry.metadata.failed.getD default
      score := round (entry.metadata.score.getD 100)
      exportedAt := exportedAt }

def populate (p : Populated) (entry : AccountEntry) : Except ε Populated := do
  let summary ← accountSummary parseUtcStr entry
  pure
    { severityResourceCounter := count p.severityResourceCounter summary.failedResourcesBySeverity
      accountsById := p.accountsById.put entry.id summary }

def populateInfo (accounts : List AccountEntry) : Except ε Populated :=
  accounts.foldlM (populate parseUtcStr) ⟨default, default⟩

def computeSummary (accountsInTimePeriod : List AccountEntry) (now : DateTime) (duration : Int) :
    Except ε ReportSummary := do
  let p ← populateInfo parseUtcStr accountsInTimePeriod
  pure
    { availableResources := ((p.accountsById.rows.map Prod.snd).map (·.resourceCount)).sum
      failedResourcesBySeverity := p.severityResourceCounter
      overallScore := overallScore p.accountsById now duration
      accounts := (p.accountsById.rows.map Prod.snd).insertionSort byScore }

abbrev Reads (entries : List AccountEntry) (summaries : List AccountSummary) : Prop :=
  List.Forall₂ (fun e s => accountSummary parseUtcStr e = .ok s) entries summaries

end Reading

/-- The accounts by their id: of two with one id the later one counts. -/
def byId (summaries : List AccountSummary) : List AccountSummary :=
  (Dict.ofList (summaries.map fun s => (s.id, s))).rows.map Prod.snd

def totalScore (accounts : List AccountSummary) : Int := (accounts.map (·.score)).sum

/-- **The overall score is the average of the accounts listed**, rounded down, and so between the least and the greatest
of their scores. -/
structure IsAverage (r : ReportSummary) : Prop where
  average : r.overallScore = totalScore r.accounts / r.accounts.length
  atLeast : ∃ a ∈ r.accounts, a.score ≤ r.overallScore
  atMost : ∃ a ∈ r.accounts, r.overallScore ≤ a.score

/-- The score of the accounts that `overall_score` leaves out. -/
def leftOut (accounts : List AccountSummary) (now : DateTime) (duration : Int) : Int :=
  totalScore (accounts.filter fun a => !counted now duration a)

/-- What is left out is not more than the average rounds away. -/
def Negligible (accounts : List AccountSummary) (now : DateTime) (duration : Int) : Prop :=
  let remainder := totalScore accounts % accounts.length
  leftOut accounts now duration ≤ remainder ∧ remainder < leftOut accounts now duration + accounts.length

/-! ## Sums -/

theorem totalScore_eq (accounts : List AccountSummary) (now : DateTime) (duration : Int) :
    totalScore accounts =
      totalScore (accounts.filter (counted now duration)) + leftOut accounts now duration := by
  unfold leftOut totalScore
  induction accounts with
  | nil => rfl
  | cons a accounts ih =>
    cases h : counted now duration a <;> simp [h] at ih ⊢ <;> omega

/-- Some score is at most the average rounded down, and some is at least this. -/
theorem exists_between {scores : List Int} (h : scores ≠ []) :
    (∃ s ∈ scores, s ≤ scores.sum / scores.length) ∧ ∃ s ∈ scores, scores.sum / scores.length ≤ s := by
  have hpos : (0 : Int) < scores.length := by exact_mod_cast List.length_pos_iff.2 h
  have hdiv := Int.mul_ediv_add_emod scores.sum scores.length
  have hmod := Int.emod_nonneg scores.sum hpos.ne'
  have hlt := Int.emod_lt_of_pos scores.sum hpos
  constructor
  · by_contra hnone
    push Not at hnone
    have hsum : scores.length • (scores.sum / scores.length + 1) ≤ scores.sum :=
      List.card_nsmul_le_sum scores _ fun s hs => hnone s hs
    rw [nsmul_eq_mul, mul_add] at hsum
    omega
  · by_contra hnone
    push Not at hnone
    have hsum : scores.sum ≤ scores.length • (scores.sum / scores.length - 1) :=
      List.sum_le_card_nsmul scores _ fun s hs => Int.le_sub_one_of_lt (hnone s hs)
    rw [nsmul_eq_mul, mul_sub] at hsum
    omega

theorem ediv_sub_eq_iff {n : Int} (hn : 0 < n) (total out : Int) :
    (total - out) / n = total / n ↔ out ≤ total % n ∧ total % n < out + n := by
  have hdiv := Int.mul_ediv_add_emod total n
  rw [Int.ediv_eq_iff_of_pos hn, mul_comm (total / n) n]
  constructor <;> rintro ⟨h, h'⟩ <;> constructor <;> omega

/-! ## The summary of a period -/

variable {ε : Type} {parseUtcStr : String → Except ε DateTime} {entries : List AccountEntry}
  {summaries : List AccountSummary}

theorem id_of_accountSummary {e : AccountEntry} {s : AccountSummary} (h : accountSummary parseUtcStr e = .ok s) :
    s.id = e.id := by
  unfold accountSummary at h
  cases hread : e.metadata.readExportedAt parseUtcStr with
  | error _ =>
    rw [hread] at h
    cases h
  | ok exportedAt =>
    rw [hread] at h
    rw [← Except.ok.inj h]

theorem foldlM_populate (h : Reads parseUtcStr entries summaries) (p : Populated) :
    ∃ counter, entries.foldlM (populate parseUtcStr) p =
      .ok ⟨counter, (summaries.map fun s => (s.id, s)).foldl (fun d x => d.put x.1 x.2) p.accountsById⟩ := by
  induction h generalizing p with
  | nil => exact ⟨p.severityResourceCounter, rfl⟩
  | @cons e s entries summaries hs _ ih =>
    have hstep : populate parseUtcStr p e =
        .ok ⟨count p.severityResourceCounter s.failedResourcesBySeverity, p.accountsById.put s.id s⟩ := by
      unfold populate
      rw [hs, id_of_accountSummary hs]
      rfl
    obtain ⟨counter, hrest⟩ :=
      ih ⟨count p.severityResourceCounter s.failedResourcesBySeverity, p.accountsById.put s.id s⟩
    refine ⟨counter, ?_⟩
    rw [List.foldlM_cons, hstep]
    exact hrest

theorem computeSummary_ok (h : Reads parseUtcStr entries summaries) (now : DateTime) (duration : Int) :
    ∃ r, computeSummary parseUtcStr entries now duration = .ok r ∧ r.accounts.Perm (byId summaries) ∧
      r.overallScore = if 0 < (byId summaries).length then
          totalScore ((byId summaries).filter (counted now duration)) / (byId summaries).length
        else 100 := by
  obtain ⟨counter, hp⟩ := foldlM_populate h ⟨default, default⟩
  unfold computeSummary populateInfo
  rw [hp]
  exact ⟨_, rfl, List.perm_insertionSort byScore _, rfl⟩

theorem byId_ne_nil (h : summaries ≠ []) : byId summaries ≠ [] := by
  obtain ⟨s, front, rfl⟩ : ∃ s front, summaries = front ++ [s] :=
    ⟨_, _, (List.dropLast_append_getLast h).symm⟩
  have hget : (Dict.ofList ((front ++ [s]).map fun s => (s.id, s))).get s.id = some s := by
    rw [List.map_append, List.map_singleton, Dict.ofList_concat, Dict.get_put_self]
  have hmem : s ∈ byId (front ++ [s]) := List.mem_map.2 ⟨_, (Dict.get_eq_some_iff _ _ _).1 hget, rfl⟩
  exact List.ne_nil_of_mem hmem

def Averaged (parseUtcStr : String → Except ε DateTime) (entries : List AccountEntry) (now : DateTime)
    (duration : Int) : Prop :=
  ∃ r, computeSummary parseUtcStr entries now duration = .ok r ∧ IsAverage r

/-- **The overall score is the average of the accounts listed exactly when what `overall_score` leaves out is no more
than the average rounds away.** -/
theorem computeSummary_averaged_iff (h : Reads parseUtcStr entries summaries) (hne : entries ≠ []) (now : DateTime)
    (duration : Int) :
    Averaged parseUtcStr entries now duration ↔ Negligible (byId summaries) now duration := by
  have hsummaries : summaries ≠ [] := by
    rw [← List.length_pos_iff, ← h.length_eq, List.length_pos_iff]
    exact hne
  have hpos : 0 < (byId summaries).length := List.length_pos_iff.2 (byId_ne_nil hsummaries)
  obtain ⟨r, hr, hperm, hscore⟩ := computeSummary_ok h now duration
  have htotal : totalScore r.accounts = totalScore (byId summaries) := (hperm.map _).sum_eq
  have hcounted : totalScore ((byId summaries).filter (counted now duration)) =
      totalScore (byId summaries) - leftOut (byId summaries) now duration := by
    have := totalScore_eq (byId summaries) now duration
    omega
  have haverage : r.overallScore = totalScore r.accounts / r.accounts.length ↔
      Negligible (byId summaries) now duration := by
    rw [hscore, if_pos hpos, hcounted, htotal, hperm.length_eq]
    exact ediv_sub_eq_iff (by exact_mod_cast hpos) _ _
  rw [← haverage]
  constructor
  · rintro ⟨r', hr', haverage'⟩
    rw [hr] at hr'
    obtain rfl := Except.ok.inj hr'
    exact haverage'.average
  · intro heq
    have hscores : r.accounts.map (·.score) ≠ [] := by
      rw [ne_eq, List.map_eq_nil_iff, ← List.length_eq_zero_iff, hperm.length_eq]
      omega
    have hbetween := exists_between hscores
    rw [List.length_map, ← totalScore, ← heq] at hbetween
    simp only [List.mem_map, exists_exists_and_eq_and] at hbetween
    exact ⟨r, hr, heq, hbetween.1, hbetween.2⟩

/-- The query of the accounts: a score, and exported in the period, whose start it writes in whole seconds. -/
def InPeriod (parseUtcStr : String → Except ε DateTime) (now : DateTime) (duration : Int) (e : AccountEntry) : Prop :=
  e.metadata.score ≠ none ∧ ∃ exp t, e.metadata.exportedAt = some exp ∧ parseUtcStr exp = .ok t ∧
    ((now.toMicros : Int) - duration) / 1000000 * 1000000 ≤ t.toMicros

def noon : DateTime := (⟨2024, 1, 1, valid_newYear⟩ : Date).atHour 12

def parseNoon (exp : String) : Except Unit DateTime := if exp = "2024-01-01T12:00:00Z" then .ok noon else .error ()

def noonEntry (id : CloudAccountId) (score : Int) : AccountEntry :=
  ⟨id, "account", "aws", ⟨some "2024-01-01T12:00:00Z", some score, none, none⟩⟩

def noonSummary (id : CloudAccountId) (score : Int) : AccountSummary :=
  ⟨id, "account", "aws", 0, default, score, some noon⟩

theorem round_intCast (n : Int) : round n = n := by
  simp [round]

theorem reads_noon (id : CloudAccountId) (score : Int) :
    accountSummary parseNoon (noonEntry id score) = .ok (noonSummary id score) := by
  have hread : (noonEntry id score).metadata.readExportedAt parseNoon = .ok (some noon) := by
    simp [Metadata.readExportedAt, noonEntry, parseNoon]
  unfold accountSummary
  rw [hread]
  simp only [noonEntry, noonSummary, Option.getD_some, round_intCast]
  rfl

theorem computeSummary_averaged_iff_afternoon :
    Averaged parseNoon [noonEntry "1" 80, noonEntry "2" 61] (noon.addMicros 3600000000) dayMicros ↔
      Negligible (byId [noonSummary "1" 80, noonSummary "2" 61]) (noon.addMicros 3600000000) dayMicros :=
  computeSummary_averaged_iff (.cons (reads_noon "1" 80) (.cons (reads_noon "2" 61) .nil)) (List.cons_ne_nil _ _)
    (noon.addMicros 3600000000) dayMicros

/-- An account that was exported at the start of the period is listed and left out of the score. -/
theorem computeSummary_not_averaged :
    InPeriod parseNoon (noon.addMicros dayMicros) dayMicros (noonEntry "1" 80) ∧
      ¬Averaged parseNoon [noonEntry "1" 80] (noon.addMicros dayMicros) dayMicros := by
  constructor
  · exact ⟨by simp [noonEntry], _, noon, rfl, by simp [parseNoon], by decide +kernel⟩
  · rintro ⟨r, hr, haverage⟩
    obtain ⟨r', hr', hperm, hscore⟩ :=
      computeSummary_ok (.cons (reads_noon "1" 80) .nil) (noon.addMicros dayMicros) dayMicros
    rw [hr] at hr'
    obtain rfl := Except.ok.inj hr'
    have htotal : totalScore r.accounts = 80 := (hperm.map _).sum_eq
    have hlength : r.accounts.length = 1 := hperm.length_eq
    have hzero : r.overallScore = 0 := hscore.trans (by decide +kernel)
    have := haverage.average
    rw [htotal, hlength, hzero] at this
    exact absurd this (by decide)

end OverallScore

end Fix
