import FixBackend.Calendar
import FixBackend.NotificationRoutes
/-!
# BenchmarkAlerts — the alert of the failing checks of a benchmark

`NotificationService._load_alert` of `fixbackend/notification/notification_service.py`, with the severities of
`inventory_service.py` and the models of `notification/model.py`.  What the inventory answers is a parameter, as are the
texts of times and ids and the hash.
-/
namespace Fix

open Calendar NotificationRouter

namespace BenchmarkAlerts

abbrev Check := String

/-! ## Severities -/

def severityName : ReportSeverity → String
  | .info => "info"
  | .low => "low"
  | .medium => "medium"
  | .high => "high"
  | .critical => "critical"

def reportSeverityList : List ReportSeverity := [.info, .low, .medium, .high, .critical]

/-- `ReportSeverityPriority`, of the text that the inventory has for a severity: 0 for one that is not listed. -/
def reportSeverityPriority (severity : String) : Nat :=
  ((reportSeverityList.map severityName).idxOf? severity).getD 0

def reportSeverityIncluded (severity : ReportSeverity) : List ReportSeverity :=
  reportSeverityList.drop (reportSeverityList.idxOf severity)

/-! ## What the inventory answers -/

structure Group where
  check : Option Check
  severity : Option String
  benchmark : Option String

structure Aggregate where
  count : Option Nat
  group : Option Group

structure VulnerableResource where
  id : String
  kind : String
  name : Option String
  cloud : Option String
  account : Option String
  region : Option String
  zone : Option String
  uiLink : String

structure Node where
  resource : VulnerableResource
  checks : Option (List Check)

structure CheckDef where
  id : Option Check
  title : Option String
  severity : Option String

/-- `InventoryClient`; an element of a history that is no dictionary is `none`. -/
structure Client where
  searchHistory : String → (before after : DateTime) → List String → List Aggregate
  executeSingle : String → List (Option Node)
  checks : List Check → List CheckDef

/-! ## The alert -/

structure FailedBenchmarkCheck where
  checkId : Check
  title : String
  severity : String
  failedResources : Nat
  examples : List VulnerableResource

structure FailingBenchmarkChecksDetected where
  id : String
  workspaceId : WorkspaceId
  benchmark : BenchmarkName
  severity : String
  failedChecksCountTotal : Nat
  examples : List FailedBenchmarkCheck
  uiLink : String

inductive LoadError where
  | indexError

/-- A group that passes the tests of the loop. -/
structure Failing where
  check : Check
  severity : String
  count : Nat
deriving DecidableEq

def truthy (s : Option String) : Option String := s.filter (· ≠ "")

def Aggregate.failing? (benchmark : BenchmarkName) (agg : Aggregate) : Option Failing := do
  let count ← agg.count.filter (· ≠ 0)
  let group ← agg.group
  let check ← truthy group.check
  let severity ← truthy group.severity
  let bench ← truthy group.benchmark
  if bench = benchmark then some ⟨check, severity, count⟩ else none

structure Counted where
  failingChecks : Dict Check String
  failingResourcesCount : Dict Check Nat
  totalFailedChecks : Nat

def Counted.add (c : Counted) (x : Failing) : Counted where
  failingChecks := c.failingChecks.put x.check x.severity
  failingResourcesCount := c.failingResourcesCount.put x.check x.count
  totalFailedChecks := c.totalFailedChecks + 1

def countFailing (benchmark : BenchmarkName) (aggs : List Aggregate) : Counted :=
  aggs.foldl
    (fun c agg =>
      match agg.failing? benchmark with
      | some x => c.add x
      | none => c)
    ⟨default, default, 0⟩

/-- `key=lambda x: ReportSeverityPriority[x[1]], reverse=True`. -/
def worstFirst (x y : Check × String) : Prop := reportSeverityPriority y.2 ≤ reportSeverityPriority x.2

instance : DecidableRel worstFirst := fun x y =>
  inferInstanceAs (Decidable (reportSeverityPriority y.2 ≤ reportSeverityPriority x.2))

def topChecks (failingChecks : Dict Check String) : List Check :=
  ((failingChecks.rows.insertionSort worstFirst).take 5).map Prod.fst

/-- `urllib.parse.quote_plus`. -/
def quotePlus (s : String) : String :=
  String.join (s.toUTF8.toList.map fun b =>
    let c := Char.ofNat b.toNat
    if c.isAlphanum && b < 128 || "_.-~".contains c then c.toString
    else if c = ' ' then "+"
    else "%" ++ (if b < 16 then "0" else "") ++ (String.ofList (Nat.toDigits 16 b.toNat)).toUpper)

/-- `urllib.parse.urlencode`. -/
def urlencode (params : List (String × String)) : String :=
  "&".intercalate (params.map fun x => quotePlus x.1 ++ "=" ++ quotePlus x.2)

structure Examples where
  resources : Dict Check (List VulnerableResource)
  exampleCount : Nat

def Examples.of (e : Examples) (check : Check) : List VulnerableResource := (e.resources.get check).getD []

/-- The loop over the checks of a resource.  The `break` leaves this loop only. -/
def Examples.addResource (resource : VulnerableResource) (topChecks : List Check) : Examples → List Check → Examples
  | e, [] => e
  | e, check :: checks =>
    if check ∈ topChecks ∧ (e.of check).length < 3 then
      let e : Examples := ⟨e.resources.put check (e.of check ++ [resource]), e.exampleCount + 1⟩
      if e.exampleCount = 25 then e else Examples.addResource resource topChecks e checks
    else Examples.addResource resource topChecks ⟨e.resources.put check (e.of check), e.exampleCount⟩ checks

structure Definition where
  id : Check
  title : String
  severity : String

def CheckDef.read (c : CheckDef) : Option Definition := do
  let cid ← truthy c.id
  let title ← truthy c.title
  let sev ← truthy c.severity
  some ⟨cid, title, sev⟩

/-- The texts of times, of ids and of a hash, and the configured URL. -/
structure Texts where
  utcStr : DateTime → String
  uuidStr : Uuid → String
  md5 : List String → String
  serviceBaseUrl : String

section Loading

variable (client : Client) (texts : Texts)

def issue (benchmark : BenchmarkName) (severity : ReportSeverity) : String :=
  let includedSeverities := ",".intercalate ((reportSeverityIncluded severity).map severityName)
  s!"benchmarks[]=={benchmark} and severity in [{includedSeverities}]"

def query (benchmark : BenchmarkName) (taskIds : List String) (severity : ReportSeverity) : String :=
  let tskIds := ",".intercalate taskIds
  s!"/security.has_issues==true and /security.run_id in [{tskIds}] and /diff.node_vulnerable[].\x7b" ++
    issue benchmark severity ++ "\x7d"

def aggregate : String :=
  "/diff.node_vulnerable[].check, /diff.node_vulnerable[].severity, /diff.node_vulnerable[].benchmarks[] " ++
    "as benchmark : sum(1) as count"

def change : List String := ["node_vulnerable", "node_compliant"]

/-- What the history aggregation answers. -/
def aggregates (benchmark : BenchmarkName) (taskIds : List String) (severity : ReportSeverity)
    (after before : DateTime) : List Aggregate :=
  client.searchHistory (s!"search {query benchmark taskIds severity} | aggregate " ++ aggregate) before after change

def exampleNodes (benchmark : BenchmarkName) (topChecks : List Check) (severity : ReportSeverity)
    (after before : DateTime) : List (Option Node) :=
  client.executeSingle
    (s!"history --before {texts.utcStr before} --after {texts.utcStr after} --change node_vulnerable " ++
      "--change node_compliant /security.has_issues==true and /diff.node_vulnerable[].\x7bcheck in [" ++
      ",".intercalate topChecks ++ "] and " ++ issue benchmark severity ++ "\x7d | " ++
      "jq --no-rewrite '\x7bid:.id, kind:.reported.kind, name:.reported.name, " ++
      "cloud:.ancestors.cloud.reported.name, account:.ancestors.account.reported.name, " ++
      "region:.ancestors.region.reported.name, checks: [ .security.issues[] | " ++
      s!"select(.benchmarks != null and .benchmarks[] == \"{benchmark}\") | .check ]" ++ "\x7d'")

def resourceLink (workspaceId : WorkspaceId) (r : VulnerableResource) : String :=
  s!"{texts.serviceBaseUrl}/inventory/resource-detail/{r.id}?" ++ urlencode [("name", r.name.getD "None")] ++
    s!"#{texts.uuidStr workspaceId}"

/-- `SearchRequest.ui_link`, the limit being the default. -/
def searchLink (workspaceId : WorkspaceId) (query : String) (after before : DateTime) : String :=
  texts.serviceBaseUrl ++ "/inventory?" ++
    urlencode [("q", query), ("before", texts.utcStr before), ("after", texts.utcStr after),
      ("change", ",".intercalate change), ("limit", "50")] ++
    s!"#{texts.uuidStr workspaceId}"

def addNode (workspaceId : WorkspaceId) (topChecks : List Check) (e : Examples) : Option Node → Examples
  | some node =>
    let resource := { node.resource with uiLink := resourceLink texts workspaceId node.resource }
    e.addResource resource topChecks (node.checks.getD [])
  | none => e

/-- The alert for the top checks.  There are some whenever something failed, so the severity is that of the first
definition. -/
def detected (workspaceId : WorkspaceId) (benchmark : BenchmarkName) (taskIds : List String) (severity : ReportSeverity)
    (after before : DateTime) (totalFailedChecks : Nat) (topCheckDefs : List FailedBenchmarkCheck) :
    Except LoadError (Option FailingBenchmarkChecksDetected) :=
  match topCheckDefs with
  | [] => .error .indexError
  | d :: _ =>
    let searched := query benchmark taskIds severity
    .ok (some
      { id := texts.md5 (benchmark :: taskIds)
        workspaceId := workspaceId
        benchmark := benchmark
        severity := d.severity
        failedChecksCountTotal := totalFailedChecks
        examples := topCheckDefs
        uiLink := searchLink texts workspaceId searched after before })

def loadAlert (workspaceId : WorkspaceId) (benchmark : BenchmarkName) (taskIds : List String)
    (severity : ReportSeverity) (after before : DateTime) :
    Except LoadError (Option FailingBenchmarkChecksDetected) :=
  let c := countFailing benchmark (aggregates client benchmark taskIds severity after before)
  if 0 < c.totalFailedChecks then
    let top := topChecks c.failingChecks
    let nodes := exampleNodes client texts benchmark top severity after before
    let exampleResources := nodes.foldl (addNode texts workspaceId top) ⟨default, 0⟩
    let topCheckDefs := (client.checks top).filterMap fun c' => c'.read.map fun d => FailedBenchmarkCheck.mk
      d.id d.title d.severity ((c.failingResourcesCount.get d.id).getD 0) (exampleResources.of d.id)
    detected texts workspaceId benchmark taskIds severity after before c.totalFailedChecks
      topCheckDefs
  else .ok none

end Loading

/-! ## What an alert reports -/

def failing (benchmark : BenchmarkName) (aggs : List Aggregate) : List Failing :=
  aggs.filterMap (Aggregate.failing? benchmark)

/-- The groups of a check. -/
def groupsOf (rows : List Failing) (check : Check) : List Failing := rows.filter fun x => decide (x.check = check)

def Highest (rows : List Failing) (severity : String) : Prop :=
  (∃ x ∈ rows, x.severity = severity) ∧
    ∀ x ∈ rows, reportSeverityPriority x.severity ≤ reportSeverityPriority severity

/-- **An alert reports the worst finding**: the highest severity, and for at most five checks the sum over their groups
and at most three examples. -/
structure ReportsWorst (rows : List Failing) (alert : FailingBenchmarkChecksDetected) : Prop where
  severity : Highest rows alert.severity
  counts : ∀ d ∈ alert.examples, d.failedResources = ((groupsOf rows d.checkId).map (·.count)).sum
  checks : alert.examples.length ≤ 5
  examples : ∀ d ∈ alert.examples, d.examples.length ≤ 3

/-- Nothing is reported when nothing failed, and the worst finding otherwise. -/
def Reports (rows : List Failing) (result : Except LoadError (Option FailingBenchmarkChecksDetected)) : Prop :=
  (rows = [] ∧ result = .ok none) ∨ (rows ≠ [] ∧ ∃ alert, result = .ok (some alert) ∧ ReportsWorst rows alert)

/-- The inventory answers with definitions of what was asked for, each at most once, some of them in any order. -/
def Client.Answers (client : Client) : Prop :=
  ∀ asked, ((client.checks asked).map (·.id)).Nodup ∧ ∀ c ∈ client.checks asked, ∃ check ∈ asked, c.id = some check

/-! ## The groups -/

theorem countFailing_eq (benchmark : BenchmarkName) (aggs : List Aggregate) :
    countFailing benchmark aggs = (failing benchmark aggs).foldl Counted.add ⟨default, default, 0⟩ := by
  unfold countFailing failing
  rw [List.foldl_filterMap]
  congr
  funext c agg
  cases agg.failing? benchmark <;> rfl

theorem foldl_add (rows : List Failing) (c : Counted) :
    rows.foldl Counted.add c =
      ⟨(rows.map fun x => (x.check, x.severity)).foldl (fun d x => d.put x.1 x.2) c.failingChecks,
        (rows.map fun x => (x.check, x.count)).foldl (fun d x => d.put x.1 x.2) c.failingResourcesCount,
        c.totalFailedChecks + rows.length⟩ := by
  induction rows generalizing c with
  | nil => rfl
  | cons x rows ih =>
    rw [List.foldl_cons, ih, List.length_cons]
    simp only [Counted.add, List.map_cons, List.foldl_cons]
    congr 1
    omega

def severities (rows : List Failing) : Dict Check String := Dict.ofList (rows.map fun x => (x.check, x.severity))

def counts (rows : List Failing) : Dict Check Nat := Dict.ofList (rows.map fun x => (x.check, x.count))

theorem countFailing_eq_ofList (benchmark : BenchmarkName) (aggs : List Aggregate) :
    countFailing benchmark aggs =
      ⟨severities (failing benchmark aggs), counts (failing benchmark aggs), (failing benchmark aggs).length⟩ := by
  rw [countFailing_eq, foldl_add, Nat.zero_add]
  rfl

theorem count_pos {benchmark : BenchmarkName} {aggs : List Aggregate} {x : Failing} (hx : x ∈ failing benchmark aggs) :
    0 < x.count := by
  obtain ⟨agg, -, hagg⟩ := List.mem_filterMap.1 hx
  unfold Aggregate.failing? at hagg
  simp only [Option.bind_eq_bind, Option.bind_eq_some_iff, Option.filter_eq_some_iff] at hagg
  obtain ⟨count, ⟨-, hcount⟩, group, -, check, -, severity, -, bench, -, hrow⟩ := hagg
  split at hrow
  · obtain rfl := Option.some.inj hrow
    exact Nat.pos_of_ne_zero (of_decide_eq_true hcount)
  · cases hrow

theorem get_counts (rows : List Failing) (check : Check) :
    (counts rows).get check = (groupsOf rows check).getLast?.map (·.count) := by
  induction rows using List.reverseRecOn with
  | nil => rfl
  | append_singleton rows x ih =>
    have hput : counts (rows ++ [x]) = (counts rows).put x.check x.count := by
      rw [counts, List.map_append, List.map_singleton, Dict.ofList_concat]
      rfl
    rw [hput]
    by_cases hcheck : x.check = check
    · subst hcheck
      simp [groupsOf]
    · rw [Dict.get_put_of_ne _ _ (Ne.symm hcheck), ih]
      simp [groupsOf, hcheck]

/-- The last of some positive numbers is their sum only if it is the only one. -/
theorem getLast_eq_sum_iff {l : List Nat} (hpos : ∀ n ∈ l, 0 < n) (hne : l ≠ []) :
    l.getLast?.getD 0 = l.sum ↔ l.length = 1 := by
  obtain ⟨front, n, rfl⟩ : ∃ front n, l = front ++ [n] := ⟨_, _, (List.dropLast_append_getLast hne).symm⟩
  have hsum : front.sum = 0 ↔ front = [] := by
    constructor
    · intro h
      cases front with
      | nil => rfl
      | cons m front =>
        have := hpos m (by simp)
        simp at h
        omega
    · rintro rfl
      rfl
  simp only [List.getLast?_append, List.getLast?_singleton, Option.some_or, Option.getD_some, List.sum_append,
    List.sum_singleton, List.length_append, List.length_singleton]
  rw [← List.length_eq_zero_iff] at hsum
  omega

theorem count_eq_sum_iff {rows : List Failing} (hpos : ∀ x ∈ rows, 0 < x.count) {check : Check}
    (hcheck : ∃ x ∈ rows, x.check = check) :
    ((counts rows).get check).getD 0 = ((groupsOf rows check).map (·.count)).sum ↔
      (groupsOf rows check).length = 1 := by
  have hne : (groupsOf rows check).map (·.count) ≠ [] := by
    obtain ⟨x, hx, rfl⟩ := hcheck
    exact List.ne_nil_of_mem (List.mem_map_of_mem (List.mem_filter.2 ⟨hx, decide_eq_true rfl⟩))
  have hpos' : ∀ n ∈ (groupsOf rows check).map (·.count), 0 < n := by
    intro n hn
    obtain ⟨x, hx, rfl⟩ := List.mem_map.1 hn
    exact hpos x (List.mem_filter.1 hx).1
  rw [get_counts, ← List.getLast?_map, getLast_eq_sum_iff hpos' hne, List.length_map]

theorem mem_severities {rows : List Failing} {x : Check × String} (hx : x ∈ (severities rows).rows) :
    ∃ y ∈ rows, y.check = x.1 ∧ y.severity = x.2 := by
  have hget := (Dict.get_eq_some_iff _ x.1 x.2).2 hx
  obtain ⟨y, hy, heq⟩ := List.mem_map.1 (Dict.mem_of_get_ofList _ hget)
  exact ⟨y, hy, congrArg Prod.fst heq, congrArg Prod.snd heq⟩

theorem mem_topChecks {rows : List Failing} {check : Check} (h : check ∈ topChecks (severities rows)) :
    ∃ x ∈ rows, x.check = check := by
  obtain ⟨y, hy, rfl⟩ := List.mem_map.1 h
  obtain ⟨x, hx, hcheck, -⟩ := mem_severities ((List.mem_insertionSort _).1 (List.mem_of_mem_take hy))
  exact ⟨x, hx, hcheck⟩

theorem length_topChecks_le (failingChecks : Dict Check String) : (topChecks failingChecks).length ≤ 5 := by
  rw [topChecks, List.length_map, List.length_take]
  exact Nat.min_le_left _ _

/-! ## The examples -/

def Examples.Few (e : Examples) : Prop := ∀ check, (e.of check).length ≤ 3

theorem Examples.few_put {e : Examples} (h : e.Few) (check : Check) {resources : List VulnerableResource}
    (hfew : resources.length ≤ 3) (n : Nat) : Examples.Few ⟨e.resources.put check resources, n⟩ := by
  intro check'
  unfold Examples.of
  by_cases hc : check' = check
  · subst hc
    rw [Dict.get_put_self]
    exact hfew
  · rw [Dict.get_put_of_ne _ _ hc]
    exact h check'

theorem Examples.few_addResource (resource : VulnerableResource) (top checks : List Check) {e : Examples} (h : e.Few) :
    (e.addResource resource top checks).Few := by
  induction checks generalizing e with
  | nil => exact h
  | cons check checks ih =>
    rw [Examples.addResource]
    split_ifs with hroom
    · have hlength : (e.of check ++ [resource]).length ≤ 3 := by
        rw [List.length_append, List.length_singleton]
        omega
      have hfew : Examples.Few ⟨e.resources.put check (e.of check ++ [resource]), e.exampleCount + 1⟩ :=
        Examples.few_put h check hlength _
      dsimp only
      split_ifs
      · exact hfew
      · exact ih hfew
    · exact ih (Examples.few_put h check (h check) e.exampleCount)

theorem few_foldl (texts : Texts) (workspaceId : WorkspaceId) (top : List Check)
    (nodes : List (Option Node)) {e : Examples} (h : e.Few) :
    (nodes.foldl (addNode texts workspaceId top) e).Few := by
  induction nodes generalizing e with
  | nil => exact h
  | cons node nodes ih =>
    rw [List.foldl_cons]
    cases node with
    | none => exact ih h
    | some node => exact ih (Examples.few_addResource _ _ _ h)

/-! ## The call -/

variable {client : Client}

/-- The definitions of the top checks that have an id, a title and a severity. -/
def definitions (client : Client) (rows : List Failing) : List Definition :=
  (client.checks (topChecks (severities rows))).filterMap CheckDef.read

def report (rows : List Failing) (e : Examples) (d : Definition) : FailedBenchmarkCheck :=
  ⟨d.id, d.title, d.severity, ((counts rows).get d.id).getD 0, e.of d.id⟩

section Call

variable (texts : Texts) (workspaceId : WorkspaceId) (benchmark : BenchmarkName) (taskIds : List String)
  (severity : ReportSeverity) (after before : DateTime)

abbrev failed (client : Client) : List Failing :=
  failing benchmark (aggregates client benchmark taskIds severity after before)

theorem loadAlert_of_nil (h : failed benchmark taskIds severity after before client = []) :
    loadAlert client texts workspaceId benchmark taskIds severity after before = .ok none := by
  unfold loadAlert
  simp only [countFailing_eq_ofList, h, List.length_nil]
  rfl

theorem loadAlert_of_ne_nil (h : failed benchmark taskIds severity after before client ≠ []) :
    let rows := failed benchmark taskIds severity after before client
    ∃ e : Examples, e.Few ∧
      loadAlert client texts workspaceId benchmark taskIds severity after before =
        detected texts workspaceId benchmark taskIds severity after before rows.length
          ((definitions client rows).map (report rows e)) := by
  intro rows
  have hpos : 0 < rows.length := List.length_pos_iff.2 h
  have hcount := countFailing_eq_ofList benchmark (aggregates client benchmark taskIds severity after before)
  let nodes := exampleNodes client texts benchmark (topChecks (severities rows)) severity after before
  let e := nodes.foldl (addNode texts workspaceId (topChecks (severities rows))) ⟨default, 0⟩
  refine ⟨e, few_foldl _ _ _ _ fun _ => Nat.zero_le 3, ?_⟩
  unfold loadAlert
  simp only [hcount]
  rw [if_pos hpos, definitions, List.map_filterMap]
  rfl

variable {workspaceId benchmark taskIds severity after before}

theorem length_definitions_le (hclient : client.Answers) (rows : List Failing) :
    (definitions client rows).length ≤ 5 := by
  obtain ⟨hnodup, hasked⟩ := hclient (topChecks (severities rows))
  have hsub : (client.checks (topChecks (severities rows))).map (·.id) ⊆ (topChecks (severities rows)).map some := by
    intro id hid
    obtain ⟨c, hc, rfl⟩ := List.mem_map.1 hid
    obtain ⟨check, hcheck, heq⟩ := hasked c hc
    exact List.mem_map.2 ⟨check, hcheck, heq.symm⟩
  have hlength := (List.subperm_of_subset hnodup hsub).length_le
  rw [List.length_map, List.length_map] at hlength
  exact (List.length_filterMap_le _ _).trans (hlength.trans (length_topChecks_le _))

theorem failing_of_mem_definitions (hclient : client.Answers) {rows : List Failing} {d : Definition}
    (hd : d ∈ definitions client rows) : ∃ x ∈ rows, x.check = d.id := by
  obtain ⟨c, hc, hread⟩ := List.mem_filterMap.1 hd
  obtain ⟨check, hcheck, hid⟩ := (hclient _).2 c hc
  unfold CheckDef.read at hread
  simp only [truthy, hid, Option.bind_eq_bind, Option.bind_eq_some_iff, Option.filter_eq_some_iff] at hread
  obtain ⟨_, ⟨⟨rfl⟩, -⟩, _, -, _, -, ⟨rfl⟩⟩ := hread
  exact mem_topChecks hcheck

/-- **The inventory answers with a definition of the highest severity first, and each check that it answers has one
group.** -/
def WorstFirst (rows : List Failing) (defs : List Definition) : Prop :=
  (∃ d, defs.head? = some d ∧ Highest rows d.severity) ∧ ∀ d ∈ defs, (groupsOf rows d.id).length = 1

theorem reportsWorst_iff (hclient : client.Answers) {rows : List Failing} (hpos : ∀ x ∈ rows, 0 < x.count)
    {e : Examples} (hfew : e.Few) {alert : FailingBenchmarkChecksDetected} {d : Definition} {ds : List Definition}
    (hdefs : definitions client rows = d :: ds) (hseverity : alert.severity = d.severity)
    (hexamples : alert.examples = (definitions client rows).map (report rows e)) :
    ReportsWorst rows alert ↔ WorstFirst rows (definitions client rows) := by
  have hcounts : (∀ x ∈ alert.examples, x.failedResources = ((groupsOf rows x.checkId).map (·.count)).sum) ↔
      ∀ d ∈ definitions client rows, (groupsOf rows d.id).length = 1 := by
    rw [hexamples, List.forall_mem_map]
    exact forall₂_congr fun d hd => count_eq_sum_iff hpos (failing_of_mem_definitions hclient hd)
  have hhead : (∃ d, (definitions client rows).head? = some d ∧ Highest rows d.severity) ↔
      Highest rows alert.severity := by
    rw [hdefs, hseverity]
    simp
  constructor
  · intro h
    exact ⟨hhead.2 h.severity, hcounts.1 h.counts⟩
  · rintro ⟨hhighest, hone⟩
    constructor
    case severity => exact hhead.1 hhighest
    case counts => exact hcounts.2 hone
    case checks =>
      rw [hexamples, List.length_map]
      exact length_definitions_le hclient rows
    case examples =>
      rw [hexamples, List.forall_mem_map]
      exact fun d _ => hfew d.id

/-- **`_load_alert` reports the worst finding exactly when nothing failed, or the inventory answers with a definition of
the highest severity first and each check that it answers has one group.** -/
theorem loadAlert_reports_iff (hclient : client.Answers) (texts : Texts) (workspaceId : WorkspaceId)
    (benchmark : BenchmarkName) (taskIds : List String) (severity : ReportSeverity) (after before : DateTime) :
    let rows := failed benchmark taskIds severity after before client
    Reports rows
        (loadAlert client texts workspaceId benchmark taskIds severity after before) ↔
      rows = [] ∨ WorstFirst rows (definitions client rows) := by
  intro rows
  by_cases h : rows = []
  · rw [loadAlert_of_nil texts workspaceId benchmark taskIds severity after before h]
    exact iff_of_true (Or.inl ⟨h, rfl⟩) (Or.inl h)
  · obtain ⟨e, hfew, hcall⟩ := loadAlert_of_ne_nil texts workspaceId benchmark taskIds severity after before h
    have hpos : ∀ x ∈ rows, 0 < x.count := fun x hx => count_pos hx
    rw [hcall, or_iff_right h]
    simp only [Reports, h, false_and, false_or, ne_eq, not_false_eq_true, true_and]
    cases hdefs : definitions client rows with
    | nil => simp [detected, WorstFirst]
    | cons d ds =>
      obtain ⟨alert, halert, hseverity, hexamples⟩ : ∃ alert,
          detected texts workspaceId benchmark taskIds severity after before rows.length
            ((d :: ds).map (report rows e)) = .ok (some alert) ∧
          alert.severity = d.severity ∧ alert.examples = (definitions client rows).map (report rows e) := by
        rw [hdefs]
        exact ⟨_, rfl, rfl, rfl⟩
      rw [halert, ← hdefs, ← reportsWorst_iff hclient hpos hfew hdefs hseverity hexamples]
      simp

end Call

/-- An inventory that answers with some definitions, of the checks that it is asked for. -/
def inventory (aggs : List Aggregate) (defs : List (Check × String)) : Client where
  searchHistory _ _ _ _ := aggs
  executeSingle _ := []
  checks asked := (defs.filter fun d => decide (d.1 ∈ asked)).map fun d => ⟨some d.1, some "title", some d.2⟩

theorem inventory_answers (aggs : List Aggregate) (defs : List (Check × String)) (h : (defs.map Prod.fst).Nodup) :
    (inventory aggs defs).Answers := by
  intro asked
  constructor
  · have hids : ((defs.filter fun d => decide (d.1 ∈ asked)).map Prod.fst).Nodup :=
      h.sublist (List.filter_sublist.map _)
    have hmap := hids.map (Option.some_injective Check)
    simpa [inventory, Function.comp_def] using hmap
  · intro c hc
    obtain ⟨d, hd, rfl⟩ := List.mem_map.1 hc
    exact ⟨d.1, of_decide_eq_true (List.mem_filter.1 hd).2, rfl⟩

def cisGroup (check : Check) (severity : String) (count : Nat) : Aggregate :=
  ⟨some count, some ⟨some check, some severity, some "aws_cis_2_0"⟩⟩

def noTexts : Texts := ⟨fun _ => "", fun _ => "", fun _ => "", ""⟩

def today : DateTime := (⟨2024, 2, 1, valid_february1⟩ : Date).atHour 9

def cisAlert (aggs : List Aggregate) (defs : List (Check × String)) :
    Except LoadError (Option FailingBenchmarkChecksDetected) :=
  loadAlert (inventory aggs defs) noTexts 1 "aws_cis_2_0" ["task"] .low today today

def twoChecks : List Aggregate := [cisGroup "b" "critical" 2, cisGroup "a" "low" 1]
def twoGroups : List Aggregate := [cisGroup "b" "high" 2, cisGroup "b" "critical" 3]

theorem loadAlert_reports_iff_twoChecks :
    Reports (failing "aws_cis_2_0" twoChecks) (cisAlert twoChecks [("b", "critical"), ("a", "low")]) ↔
      failing "aws_cis_2_0" twoChecks = [] ∨ WorstFirst (failing "aws_cis_2_0" twoChecks)
        (definitions (inventory twoChecks [("b", "critical"), ("a", "low")]) (failing "aws_cis_2_0" twoChecks)) :=
  loadAlert_reports_iff (inventory_answers twoChecks [("b", "critical"), ("a", "low")] (by decide)) noTexts 1
    "aws_cis_2_0" ["task"] .low today today

theorem reportsWorst_of_reports {rows : List Failing}
    {result : Except LoadError (Option FailingBenchmarkChecksDetected)} (hne : rows ≠ []) (h : Reports rows result) :
    ∃ alert, result = .ok (some alert) ∧ ReportsWorst rows alert := by
  rcases h with ⟨hnil, -⟩ | ⟨-, halert⟩
  · exact absurd hnil hne
  · exact halert

/-- Answers of an inventory that lead to a wrong alert. -/
def Misreported (aggs : List Aggregate) (defs : List (Check × String)) : Prop :=
  (inventory aggs defs).Answers ∧ ¬Reports (failing "aws_cis_2_0" aggs) (cisAlert aggs defs)

/-- The inventory answers with the low check first; with no definition; with the one check of two groups. -/
theorem loadAlert_not_reports : Misreported twoChecks [("a", "low"), ("b", "critical")] ∧ Misreported twoChecks [] ∧
    Misreported twoGroups [("b", "critical")] := by
  refine ⟨⟨inventory_answers _ _ (by decide), fun h => ?_⟩, ⟨inventory_answers _ _ List.nodup_nil, fun h => ?_⟩,
    ⟨inventory_answers _ _ (by decide), fun h => ?_⟩⟩
  · obtain ⟨alert, halert, hworst⟩ := reportsWorst_of_reports (by decide +kernel) h
    have hseverity : (cisAlert twoChecks [("a", "low"), ("b", "critical")]).map (·.map (·.severity)) =
        .ok (some "low") := rfl
    rw [halert] at hseverity
    have hlow : alert.severity = "low" := Option.some.inj (Except.ok.inj hseverity)
    have := hworst.severity.2 ⟨"b", "critical", 2⟩ (by decide +kernel)
    rw [hlow] at this
    revert this
    decide
  · obtain ⟨alert, halert, -⟩ := reportsWorst_of_reports (by decide +kernel) h
    have herror : cisAlert twoChecks [] = .error .indexError := rfl
    rw [herror] at halert
    cases halert
  · obtain ⟨alert, halert, hworst⟩ := reportsWorst_of_reports (by decide +kernel) h
    have hexamples : (cisAlert twoGroups [("b", "critical")]).map
        (·.map fun alert => alert.examples.map fun d => (d.checkId, d.failedResources)) = .ok (some [("b", 3)]) := rfl
    rw [halert] at hexamples
    have hlist : (alert.examples.map fun d => (d.checkId, d.failedResources)) = [("b", 3)] :=
      Option.some.inj (Except.ok.inj hexamples)
    have hmem := List.mem_singleton_self ("b", 3)
    rw [← hlist] at hmem
    obtain ⟨d, hd, heq⟩ := List.mem_map.1 hmem
    obtain ⟨hcheck, hcount⟩ := Prod.mk.inj heq
    have hsum := hworst.counts d hd
    rw [hcheck, hcount] at hsum
    exact absurd hsum (by decide +kernel)

end BenchmarkAlerts

end Fix
