import FixBackend.BenchmarkAlerts
import FixBackend.OverallScore
import FixBackend.Ranking
/-!
# ReportSummary — what a report puts first

The parts of `InventoryService.summary` of `fixbackend/inventory/inventory_service.py` that read the benchmarks and the
changes of a period.  The order in which a set is gone through is a parameter, and so is what the inventory answers.
-/
namespace Fix

open Ranking
open BenchmarkAlerts (Check reportSeverityPriority severityName)
open NotificationRouter (ReportSeverity)
open OverallScore (AccountSummary)

namespace ReportSummary

abbrev BenchmarkId := String

/-! ## What the inventory answers -/

structure ReportCheck where
  id : Check
  severity : ReportSeverity

structure Benchmark where
  id : BenchmarkId
  title : String
  framework : String
  version : String
  clouds : List String
  description : String
  reportChecks : List ReportCheck

structure CheckDefinition where
  id : Check
  severity : Option String
deriving DecidableEq

structure SeverityInfo where
  checks : Nat
  resources : Nat
deriving DecidableEq

/-- The result of a benchmark in the metadata of an account, if it is a dictionary. -/
structure BenchmarkInfo where
  failed : Option (Dict String SeverityInfo)
  score : Option Int

structure AccountBenchmarks where
  id : CloudAccountId
  benchmark : Option (Dict BenchmarkId (Option BenchmarkInfo))

structure Change where
  accountId : Option CloudAccountId
  severity : Option String
  kind : String
  count : Nat

/-! ## The results of the accounts -/

structure BenchmarkAccountSummary where
  score : Int
  failedChecks : Option (Dict String Nat)
  failedResourceChecks : Option (Dict String Nat)

def nonEmpty (d : Dict String Nat) : Option (Dict String Nat) := if d.rows.isEmpty then none else some d

def BenchmarkInfo.summary (info : BenchmarkInfo) : BenchmarkAccountSummary :=
  let failed := info.failed.getD default
  { score := info.score.getD 100
    failedChecks := nonEmpty (failed.mapValues (·.checks))
    failedResourceChecks := nonEmpty (failed.mapValues (·.resources)) }

structure AccountResult where
  account : CloudAccountId
  benchmark : BenchmarkId
  info : BenchmarkInfo

def accountResults (accounts : List AccountBenchmarks) : List AccountResult :=
  accounts.flatMap fun entry => (entry.benchmark.getD default).rows.filterMap fun x =>
    x.2.map fun info => ⟨entry.id, x.1, info⟩

def benchmarkAccountSummaries (accounts : List AccountBenchmarks) :
    Dict BenchmarkId (Dict CloudAccountId BenchmarkAccountSummary) :=
  (accountResults accounts).foldl
    (fun d x => d.put x.benchmark (((d.get x.benchmark).getD default).put x.account x.info.summary)) default

/-! ## The benchmarks and their checks -/

structure BenchmarkSummary where
  id : BenchmarkId
  title : String
  framework : String
  version : String
  clouds : List String
  description : String
  nrOfChecks : Nat
  accountSummary : Dict CloudAccountId BenchmarkAccountSummary

def Benchmark.summary (summaries : Dict BenchmarkId (Dict CloudAccountId BenchmarkAccountSummary)) (b : Benchmark) :
    BenchmarkSummary where
  id := b.id
  title := b.title
  framework := b.framework
  version := b.version
  clouds := b.clouds
  description := b.description
  nrOfChecks := b.reportChecks.length
  accountSummary := (summaries.get b.id).getD default

structure BenchmarkCheck where
  benchmark : BenchmarkId
  check : Check
  severity : ReportSeverity

def benchmarkChecks (benchmarks : List Benchmark) : List BenchmarkCheck :=
  benchmarks.flatMap fun b => b.reportChecks.map fun check => ⟨b.id, check.id, check.severity⟩

def summaries (accounts : List AccountBenchmarks) (benchmarks : List Benchmark) : Dict BenchmarkId BenchmarkSummary :=
  benchmarks.foldl (fun d b => d.put b.id (b.summary (benchmarkAccountSummaries accounts))) default

/-- `failed_checks_by_severity`: the checks of all benchmarks, whether they fail or not. -/
def failedChecksBySeverity (benchmarks : List Benchmark) : Dict ReportSeverity (Finset Check) :=
  Dict.gatherSets (·.severity) (·.check) (benchmarkChecks benchmarks)

def benchmarkByCheckId (benchmarks : List Benchmark) : Dict Check (Finset BenchmarkId) :=
  Dict.gatherSets (·.check) (·.benchmark) (benchmarkChecks benchmarks)

def priority (severity : ReportSeverity) : Nat := reportSeverityPriority (severityName severity)

section Report

variable (iterate : Finset String → List String) (checks : List Check → List CheckDefinition)

structure TopCheck where
  definition : CheckDefinition
  benchmarks : List (BenchmarkId × String)

/-- `key=lambda x: ReportSeverityPriority[x.get("severity", "info")], reverse=True` -/
def worstFirst (x y : TopCheck) : Prop :=
  reportSeverityPriority (y.definition.severity.getD "info") ≤ reportSeverityPriority
    (x.definition.severity.getD "info")

instance : DecidableRel worstFirst := fun _ _ => inferInstanceAs (Decidable (_ ≤ _))

def withBenchmarks (benchmarkByCheckId : Dict Check (Finset BenchmarkId))
    (benchmarks : Dict BenchmarkId BenchmarkSummary)
    (check : CheckDefinition) : TopCheck where
  definition := check
  benchmarks := (iterate ((benchmarkByCheckId.get check.id).getD ∅)).filterMap fun b =>
    (benchmarks.get b).map fun bs => (bs.id, bs.title)

def topIssues (checksBySeverity : Dict ReportSeverity (Finset Check))
    (benchmarkByCheckId : Dict Check (Finset BenchmarkId))
    (benchmarks : Dict BenchmarkId BenchmarkSummary) (num : Nat) : List TopCheck :=
  let top := (valuesBy iterate checksBySeverity priority).take num
  ((checks top).map (withBenchmarks iterate benchmarkByCheckId benchmarks)).insertionSort worstFirst

/-! ## The changes of the period -/

structure VulnerabilitiesChanged where
  accountsSelection : List CloudAccountId
  resourceCountBySeverity : Dict String Nat
  resourceCountByKindSelection : Dict String Nat

structure SevereChange where
  accountId : Option CloudAccountId
  severity : String
  kind : String
  count : Nat

/-- The changes without a severity come from entries in an old format. -/
def Change.severe (c : Change) : Option SevereChange := c.severity.map fun s => ⟨c.accountId, s, c.kind, c.count⟩

/-- `key=lambda item: item[1], reverse=True` -/
def mostFirst (x y : String × Nat) : Prop := y.2 ≤ x.2

instance : DecidableRel mostFirst := fun x y => inferInstanceAs (Decidable (y.2 ≤ x.2))

/-- `key=lambda x: accounts_by_id[x].score if x in accounts_by_id else 100` -/
def byScore (accountsById : Dict CloudAccountId AccountSummary) (x y : CloudAccountId) : Prop :=
  ((accountsById.get x).map (·.score)).getD 100 ≤ ((accountsById.get y).map (·.score)).getD 100

instance (accountsById : Dict CloudAccountId AccountSummary) : DecidableRel (byScore accountsById) := fun _ _ =>
  inferInstanceAs (Decidable (_ ≤ _))

def accountChanges (changes : List SevereChange) : List (CloudAccountId × String) :=
  changes.filterMap fun c => c.accountId.map (·, c.severity)

def accountsBySeverity (changes : List SevereChange) : Dict String (Finset CloudAccountId) :=
  Dict.gatherSets Prod.snd Prod.fst (accountChanges changes)

def issuesSince (changes : List Change) : VulnerabilitiesChanged :=
  let severe := changes.filterMap Change.severe
  let byKind : Dict String Nat := severe.foldl (fun d c => d.add c.kind c.count) default
  { accountsSelection := (valuesBy iterate (accountsBySeverity severe) reportSeverityPriority).take 3
    resourceCountBySeverity := severe.foldl (fun d c => d.add c.severity c.count) default
    resourceCountByKindSelection := Dict.ofList ((byKind.rows.insertionSort mostFirst).take 3) }

/-- The changes as the summary shows them: the accounts with the lowest score first. -/
def changed (accountsById : Dict CloudAccountId AccountSummary) (changes : List Change) : VulnerabilitiesChanged :=
  let v := issuesSince iterate changes
  { v with accountsSelection := v.accountsSelection.insertionSort (byScore accountsById) }

structure Report where
  benchmarks : List BenchmarkSummary
  changedVulnerable : VulnerabilitiesChanged
  changedCompliant : VulnerabilitiesChanged
  topChecks : List TopCheck

def report (accounts : List AccountBenchmarks) (accountsById : Dict CloudAccountId AccountSummary)
    (benchmarks : List Benchmark) (vulnerable compliant : List Change) : Report :=
  let summaries := summaries accounts benchmarks
  { benchmarks := summaries.rows.map Prod.snd
    changedVulnerable := changed iterate accountsById vulnerable
    changedCompliant := changed iterate accountsById compliant
    topChecks := topIssues iterate checks (failedChecksBySeverity benchmarks)
      (benchmarkByCheckId benchmarks) summaries 5 }

end Report

/-! ## The benchmarks of a report -/

/-- **A benchmark has the last result of each account**, whatever the other accounts and benchmarks have. -/
theorem get_benchmarkAccountSummaries (accounts : List AccountBenchmarks) (b : BenchmarkId) (a : CloudAccountId) :
    ((benchmarkAccountSummaries accounts).get b).bind (·.get a) =
      ((accountResults accounts).filter fun x => decide (x.benchmark = b ∧ x.account = a)).getLast?.map
        (·.info.summary) := by
  unfold benchmarkAccountSummaries
  induction accountResults accounts using List.reverseRecOn with
  | nil => rfl
  | append_singleton xs x ih =>
    rw [List.foldl_concat, List.filter_append]
    by_cases hb : x.benchmark = b
    · subst hb
      rw [Dict.get_put_self, Option.bind_some]
      by_cases ha : x.account = a
      · subst ha
        simp
      · have hlast : [x].filter (fun y => decide (y.benchmark = x.benchmark ∧ y.account = a)) = [] := by simp [ha]
        rw [Dict.get_put_of_ne _ _ (Ne.symm ha), hlast, List.append_nil, ← ih]
        cases Dict.get _ x.benchmark <;> rfl
    · rw [Dict.get_put_of_ne _ _ (Ne.symm hb), ih]
      simp [hb]

/-! ## The checks that a report puts first -/

def RatedCheck (benchmarks : List Benchmark) (check : Check) (n : Nat) : Prop :=
  ∃ b ∈ benchmarks, ∃ c ∈ b.reportChecks, c.id = check ∧ priority c.severity = n

/-- **The worst checks of all benchmarks**: five of them, or all; a check that is left out is no more severe than one
that is not.  Each comes with the benchmarks it is in. -/
structure WorstChecks (benchmarks : List Benchmark) (top : List TopCheck) : Prop where
  few : top.length ≤ 5
  distinct : (top.map (·.definition.id)).Nodup
  rated : ∀ c ∈ top, ∃ n, RatedCheck benchmarks c.definition.id n
  all : top.length < 5 → ∀ check n, RatedCheck benchmarks check n → check ∈ top.map (·.definition.id)
  worst : ∀ c ∈ top, ∀ check, check ∉ top.map (·.definition.id) →
    NoWorse (RatedCheck benchmarks) c.definition.id check
  sorted : top.Pairwise worstFirst
  benchmarks : ∀ c ∈ top, ∀ id title, (id, title) ∈ c.benchmarks ↔
    ∃ b ∈ benchmarks, b.id = id ∧ b.title = title ∧ ∃ check ∈ b.reportChecks, check.id = c.definition.id

theorem rated_failedChecks {benchmarks : List Benchmark} {check : Check} {n : Nat} :
    Rated (failedChecksBySeverity benchmarks) priority check n ↔ RatedCheck benchmarks check n := by
  unfold Rated RatedCheck
  constructor
  · rintro ⟨severity, s, hget, hcheck, hn⟩
    obtain ⟨x, hx, hseverity, hid⟩ := Dict.mem_gatherSets.1 ⟨s, hget, hcheck⟩
    obtain ⟨b, hb, hx⟩ := List.mem_flatMap.1 hx
    obtain ⟨c, hc, rfl⟩ := List.mem_map.1 hx
    refine ⟨b, hb, c, hc, hid, ?_⟩
    rw [← hn, ← hseverity]
  · rintro ⟨b, hb, c, hc, hid, hn⟩
    have hmem : (⟨b.id, c.id, c.severity⟩ : BenchmarkCheck) ∈ benchmarkChecks benchmarks :=
      List.mem_flatMap.2 ⟨b, hb, List.mem_map.2 ⟨c, hc, rfl⟩⟩
    have hgathered : ∃ s, (failedChecksBySeverity benchmarks).get c.severity = some s ∧ check ∈ s :=
      Dict.mem_gatherSets.2 ⟨_, hmem, rfl, hid⟩
    obtain ⟨s, hget, hcheck⟩ := hgathered
    exact ⟨c.severity, s, hget, hcheck, hn⟩

section TopChecks

variable {iterate : Finset String → List String} {checks : List Check → List CheckDefinition}
  {accounts : List AccountBenchmarks} {benchmarks : List Benchmark}

theorem get_summaries (hids : (benchmarks.map (·.id)).Nodup) {id : BenchmarkId} {s : BenchmarkSummary} :
    (summaries accounts benchmarks).get id = some s ↔
      ∃ b ∈ benchmarks, b.id = id ∧ b.summary (benchmarkAccountSummaries accounts) = s := by
  have hsummaries : summaries accounts benchmarks =
      Dict.ofList (benchmarks.map fun b => (b.id, b.summary (benchmarkAccountSummaries accounts))) := by
    unfold summaries Dict.ofList
    rw [List.foldl_map]
  rw [hsummaries, Dict.get_eq_some_iff, Dict.rows_ofList]
  · simp
  · rw [List.map_map]
    exact hids

theorem mem_benchmarkByCheckId {check : Check} {id : BenchmarkId} :
    id ∈ ((benchmarkByCheckId benchmarks).get check).getD ∅ ↔
      ∃ b ∈ benchmarks, b.id = id ∧ ∃ c ∈ b.reportChecks, c.id = check := by
  have hsets := Dict.getD_gatherSets BenchmarkCheck.check BenchmarkCheck.benchmark (benchmarkChecks benchmarks) check
  unfold benchmarkByCheckId
  rw [hsets]
  simp only [List.mem_toFinset, List.mem_map, List.mem_filter, decide_eq_true_eq, benchmarkChecks, List.mem_flatMap]
  constructor
  · rintro ⟨x, ⟨⟨b, hb, c, hc, rfl⟩, hcheck⟩, rfl⟩
    exact ⟨b, hb, rfl, c, hc, hcheck⟩
  · rintro ⟨b, hb, rfl, c, hc, hcheck⟩
    exact ⟨_, ⟨⟨b, hb, c, hc, rfl⟩, hcheck⟩, rfl⟩

theorem mem_withBenchmarks (hiterate : Iterates iterate) (hids : (benchmarks.map (·.id)).Nodup) (c : CheckDefinition)
    (id : BenchmarkId) (title : String) :
    (id, title) ∈ (withBenchmarks iterate (benchmarkByCheckId benchmarks) (summaries accounts benchmarks)
      c).benchmarks ↔
      ∃ b ∈ benchmarks, b.id = id ∧ b.title = title ∧ ∃ check ∈ b.reportChecks, check.id = c.id := by
  simp only [withBenchmarks, List.mem_filterMap, (hiterate _).2, mem_benchmarkByCheckId, Option.map_eq_some_iff,
    get_summaries hids, Prod.mk.injEq]
  constructor
  · rintro ⟨_, ⟨b, hb, rfl, hcheck⟩, _, ⟨b', hb', hid, rfl⟩, rfl, rfl⟩
    have hsame : b' = b := List.inj_on_of_nodup_map hids hb' hb hid
    subst hsame
    exact ⟨b', hb, rfl, rfl, hcheck⟩
  · rintro ⟨b, hb, rfl, rfl, hcheck⟩
    exact ⟨b.id, ⟨b, hb, rfl, hcheck⟩, _, ⟨b, hb, rfl, rfl⟩, rfl, rfl⟩

instance : Std.Total worstFirst := ⟨fun _ _ => Nat.le_total _ _⟩

instance : IsTrans TopCheck worstFirst := ⟨fun _ _ _ hxy hyz => Nat.le_trans hyz hxy⟩

/-- **A report puts the worst checks first.** -/
theorem topChecks_worst (hiterate : Iterates iterate)
    (hchecks : ∀ ids : List Check, ids.Nodup → ((checks ids).map (·.id)).Perm ids)
    (hids : (benchmarks.map (·.id)).Nodup)
    (accountsById : Dict CloudAccountId AccountSummary) (vulnerable compliant : List Change) :
    WorstChecks benchmarks (report iterate checks accounts accountsById benchmarks vulnerable compliant).topChecks := by
  let all := valuesBy iterate (failedChecksBySeverity benchmarks) priority
  have hnodup : all.Nodup := valuesBy_nodup _ _
  have hrated : ∀ check, check ∈ all ↔ ∃ n, RatedCheck benchmarks check n := fun check =>
    (mem_valuesBy hiterate).trans (exists_congr fun _ => rated_failedChecks)
  have hbest : all.Pairwise (NoWorse (RatedCheck benchmarks)) :=
    (pairwise_valuesBy hiterate _ _).imp fun {_ _} => NoWorse.of_iff fun _ _ => rated_failedChecks
  let top := (report iterate checks accounts accountsById benchmarks vulnerable compliant).topChecks
  have hperm : (top.map (·.definition.id)).Perm (all.take 5) := by
    have hsorted := List.perm_insertionSort worstFirst ((checks (all.take 5)).map
      (withBenchmarks iterate (benchmarkByCheckId benchmarks) (summaries accounts benchmarks)))
    have hmap := hsorted.map fun c : TopCheck => c.definition.id
    rw [List.map_map] at hmap
    exact hmap.trans (hchecks _ (hnodup.sublist (List.take_sublist 5 all)))
  have hlength : top.length = min 5 all.length := by
    rw [← List.length_map (·.definition.id), hperm.length_eq, List.length_take]
  constructor
  · exact hlength.trans_le (Nat.min_le_left 5 _)
  · exact hperm.nodup_iff.2 (hnodup.sublist (List.take_sublist 5 all))
  · intro c hc
    exact (hrated _).1 (List.mem_of_mem_take (hperm.mem_iff.1 (List.mem_map_of_mem hc)))
  · intro hfew check n hn
    have hshort : min 5 all.length < 5 := hlength.symm.trans_lt hfew
    have hall : all.take 5 = all := List.take_of_length_le (by omega)
    rw [hperm.mem_iff, hall]
    exact (hrated check).2 ⟨n, hn⟩
  · intro c hc check hleft n hn
    have htaken := hperm.mem_iff.1 (List.mem_map_of_mem hc)
    exact of_mem_take hbest htaken ((hrated check).2 ⟨n, hn⟩) (fun h => hleft (hperm.mem_iff.2 h)) n hn
  · exact List.pairwise_insertionSort worstFirst _
  · intro c hc id title
    obtain ⟨d, -, rfl⟩ := List.mem_map.1 ((List.mem_insertionSort worstFirst).1 hc)
    exact mem_withBenchmarks hiterate hids d id title

def byName (s : Finset String) : List String := s.sort (· ≤ ·)

theorem iterates_byName : Iterates byName := fun s => ⟨s.sort_nodup (· ≤ ·), fun _ => s.mem_sort (· ≤ ·)⟩

def cis : Benchmark where
  id := "aws_cis_1_5"
  title := "AWS CIS"
  framework := "CIS"
  version := "1.5"
  clouds := ["aws"]
  description := ""
  reportChecks := [⟨"aws_s3_public", .critical⟩, ⟨"aws_ec2_old", .low⟩, ⟨"aws_iam_root", .high⟩,
    ⟨"aws_rds_public", .medium⟩]

def wellArchitected : Benchmark where
  id := "aws_well_architected"
  title := "AWS Well-Architected"
  framework := "WAF"
  version := "1.0"
  clouds := ["aws"]
  description := ""
  reportChecks := [⟨"aws_s3_public", .critical⟩, ⟨"aws_ec2_idle", .info⟩, ⟨"aws_ebs_plain", .medium⟩,
    ⟨"aws_vpc_open", .high⟩]

theorem topChecks_worst_cis : WorstChecks [cis, wellArchitected]
    (report byName (List.map (⟨·, some "high"⟩)) [] default [cis, wellArchitected] [] []).topChecks :=
  topChecks_worst iterates_byName (fun ids _ => by simp [List.map_map, Function.comp_def]) (by decide) default [] []

end TopChecks

/-! ## The accounts and kinds that changed most -/

def severeChanges (changes : List Change) : List SevereChange := changes.filterMap Change.severe

def ChangedAccount (changes : List Change) (account : CloudAccountId) (n : Nat) : Prop :=
  ∃ c ∈ severeChanges changes, c.accountId = some account ∧ reportSeverityPriority c.severity = n

/-- **What changed most**: at most three accounts and three kinds; when one is left out there are three and it changed
no more than these.  The counts are those of all changes. -/
structure MostChanged (accountsById : Dict CloudAccountId AccountSummary) (changes : List Change)
    (v : VulnerabilitiesChanged) : Prop where
  severities : ∀ severity, v.resourceCountBySeverity.get severity =
    Dict.tally (·.severity) (·.count) (severeChanges changes) severity
  fewKinds : v.resourceCountByKindSelection.rows.length ≤ 3
  kinds : ∀ kind n, v.resourceCountByKindSelection.get kind = some n →
    Dict.tally (·.kind) (·.count) (severeChanges changes) kind = some n
  kindsLeft : ∀ kind n, Dict.tally (·.kind) (·.count) (severeChanges changes) kind = some n →
    v.resourceCountByKindSelection.get kind = none → v.resourceCountByKindSelection.rows.length = 3 ∧
      ∀ x ∈ v.resourceCountByKindSelection.rows, n ≤ x.2
  fewAccounts : v.accountsSelection.length ≤ 3
  accounts : v.accountsSelection.Nodup ∧
    ∀ account ∈ v.accountsSelection, ∃ n, ChangedAccount changes account n
  accountsLeft : ∀ account n, ChangedAccount changes account n → account ∉ v.accountsSelection →
    v.accountsSelection.length = 3 ∧ ∀ x ∈ v.accountsSelection, NoWorse (ChangedAccount changes) x account
  sorted : v.accountsSelection.Pairwise (byScore accountsById)

theorem rated_accountsBySeverity {changes : List Change} {account : CloudAccountId} {n : Nat} :
    Rated (accountsBySeverity (severeChanges changes)) reportSeverityPriority account n ↔
      ChangedAccount changes account n := by
  unfold Rated ChangedAccount
  constructor
  · rintro ⟨severity, s, hget, hmem, hn⟩
    obtain ⟨x, hx, rfl, rfl⟩ := Dict.mem_gatherSets.1 ⟨s, hget, hmem⟩
    obtain ⟨c, hc, hx⟩ := List.mem_filterMap.1 hx
    obtain ⟨a, ha, rfl⟩ := Option.map_eq_some_iff.1 hx
    exact ⟨c, hc, ha, hn⟩
  · rintro ⟨c, hc, ha, hn⟩
    have hmem : (account, c.severity) ∈ accountChanges (severeChanges changes) :=
      List.mem_filterMap.2 ⟨c, hc, by rw [ha]; rfl⟩
    have hgathered : ∃ s, (accountsBySeverity (severeChanges changes)).get c.severity = some s ∧ account ∈ s :=
      Dict.mem_gatherSets.2 ⟨_, hmem, rfl, rfl⟩
    obtain ⟨s, hget, hin⟩ := hgathered
    exact ⟨c.severity, s, hget, hin, hn⟩

instance : Std.Total mostFirst := ⟨fun _ _ => Nat.le_total _ _⟩

instance : IsTrans (String × Nat) mostFirst := ⟨fun _ _ _ hxy hyz => Nat.le_trans hyz hxy⟩

instance (accountsById : Dict CloudAccountId AccountSummary) : Std.Total (byScore accountsById) :=
  ⟨fun _ _ => Int.le_total _ _⟩

instance (accountsById : Dict CloudAccountId AccountSummary) : IsTrans CloudAccountId (byScore accountsById) :=
  ⟨fun _ _ _ hxy hyz => Int.le_trans hxy hyz⟩

theorem rows_kindSelection (byKind : Dict String Nat) :
    (Dict.ofList ((byKind.rows.insertionSort mostFirst).take 3)).rows =
      (byKind.rows.insertionSort mostFirst).take 3 := by
  refine Dict.rows_ofList _ ?_
  have hnodup : ((byKind.rows.insertionSort mostFirst).map Prod.fst).Nodup :=
    ((List.perm_insertionSort mostFirst byKind.rows).map Prod.fst).nodup_iff.2 byKind.unique
  exact hnodup.sublist ((List.take_sublist 3 _).map Prod.fst)

/-- **A report shows what changed most.** -/
theorem changed_most {iterate : Finset String → List String} (hiterate : Iterates iterate)
    (accountsById : Dict CloudAccountId AccountSummary) (changes : List Change) :
    MostChanged accountsById changes (changed iterate accountsById changes) := by
  let byKind : Dict String Nat := (severeChanges changes).foldl (fun d c => d.add c.kind c.count) default
  have hcounts : ∀ (key : SevereChange → String) k,
      Dict.get ((severeChanges changes).foldl (fun d c => d.add (key c) c.count) default) k =
        Dict.tally key (·.count) (severeChanges changes) k := fun key k => by
    have hempty : (default : Dict String Nat).get k = Dict.total [] := rfl
    exact Dict.get_foldl_add key SevereChange.count k (severeChanges changes) hempty
  have hrows := rows_kindSelection byKind
  let all := valuesBy iterate (accountsBySeverity (severeChanges changes)) reportSeverityPriority
  have hperm : (changed iterate accountsById changes).accountsSelection.Perm (all.take 3) :=
    List.perm_insertionSort (byScore accountsById) _
  have hnodup : all.Nodup := valuesBy_nodup _ _
  have hchanged : ∀ account, account ∈ all ↔ ∃ n, ChangedAccount changes account n := fun account =>
    (mem_valuesBy hiterate).trans (exists_congr fun _ => rated_accountsBySeverity)
  have hbest : all.Pairwise (NoWorse (ChangedAccount changes)) :=
    (pairwise_valuesBy hiterate _ _).imp fun {_ _} => NoWorse.of_iff fun _ _ => rated_accountsBySeverity
  constructor
  · exact hcounts _
  · exact (congrArg List.length hrows).trans_le (List.length_take_le 3 _)
  · intro kind n hkind
    have hmem := (Dict.get_eq_some_iff _ kind n).1 hkind
    have htaken : (kind, n) ∈ (byKind.rows.insertionSort mostFirst).take 3 := hrows ▸ hmem
    have hrow := (List.mem_insertionSort mostFirst).1 (List.mem_of_mem_take htaken)
    exact (hcounts _ kind).symm.trans ((Dict.get_eq_some_iff byKind kind n).2 hrow)
  · intro kind n hkind hnone
    have hrow : (kind, n) ∈ byKind.rows.insertionSort mostFirst :=
      (List.mem_insertionSort mostFirst).2 ((Dict.get_eq_some_iff byKind kind n).1 ((hcounts _ kind).trans hkind))
    have hleft : (kind, n) ∉ (byKind.rows.insertionSort mostFirst).take 3 := by
      intro hmem
      have hkey := (Dict.get_eq_none_iff _ kind).1 hnone
      exact hkey (List.mem_map.2 ⟨(kind, n), hrows.symm ▸ hmem, rfl⟩)
    refine ⟨(congrArg List.length hrows).trans (length_take_of_left hrow hleft), fun x hx => ?_⟩
    exact of_mem_take (List.pairwise_insertionSort mostFirst byKind.rows) (hrows ▸ hx) hrow hleft
  · exact hperm.length_eq.trans_le (List.length_take_le 3 _)
  · refine ⟨hperm.nodup_iff.2 (hnodup.sublist (List.take_sublist 3 all)), fun account haccount => ?_⟩
    exact (hchanged account).1 (List.mem_of_mem_take (hperm.mem_iff.1 haccount))
  · intro account n hn hleft
    have hmem : account ∈ all := (hchanged account).2 ⟨n, hn⟩
    have hnot : account ∉ all.take 3 := fun h => hleft (hperm.mem_iff.2 h)
    refine ⟨hperm.length_eq.trans (length_take_of_left hmem hnot), fun x hx => ?_⟩
    exact of_mem_take hbest (hperm.mem_iff.1 hx) hmem hnot
  · exact List.pairwise_insertionSort (byScore accountsById) _

def fourChanges : List Change :=
  [⟨some "111111111111", some "high", "aws_s3_bucket", 2⟩, ⟨some "222222222222", some "critical", "aws_iam_user", 1⟩,
    ⟨some "333333333333", some "low", "aws_ec2_instance", 5⟩, ⟨some "444444444444", some "medium", "aws_vpc", 3⟩]

theorem changed_most_fourChanges : MostChanged default fourChanges (changed byName default fourChanges) :=
  changed_most iterates_byName default _

end ReportSummary

end Fix
