import FixBackend.Ids
/-!
# Metering — the record of every collect and its summary by account

`fixbackend/metering`.  `collect_summary` groups the records of a workspace by account id and account name and keeps
the groups with enough records.
-/
namespace Fix

open Calendar

structure MeteringRecord where
  id : Uuid
  workspaceId : WorkspaceId
  cloud : String
  accountId : CloudAccountId
  accountName : Option String
  timestamp : DateTime
  jobId : String
  taskId : String
  nrOfResourcesCollected : Nat
  nrOfErrorMessages : Nat
  startedAt : DateTime
  duration : Nat
  productTier : ProductTier
deriving DecidableEq

structure MeteringSummary where
  accountId : CloudAccountId
  accountName : Option String
  count : Nat
  productTier : ProductTier
deriving DecidableEq

def MeteringRecord.group (r : MeteringRecord) : CloudAccountId × Option String := (r.accountId, r.accountName)

/-- The rows `collect_summary` selects: of the workspace, with enough resources and inside the window. -/
def MeteringRecord.selected (r : MeteringRecord) (workspaceId : WorkspaceId) (start finish : Option DateTime)
    (minResourcesCollected : Nat) : Bool :=
  decide (r.workspaceId = workspaceId) && decide (minResourcesCollected ≤ r.nrOfResourcesCollected) &&
    start.all (fun s => decide (s ≤ r.timestamp)) && finish.all (fun e => decide (r.timestamp ≤ e))

theorem MeteringRecord.selected_iff (r : MeteringRecord) (workspaceId : WorkspaceId)
    (start finish : DateTime) (n : Nat) :
    r.selected workspaceId (some start) (some finish) n = true ↔
      r.workspaceId = workspaceId ∧ n ≤ r.nrOfResourcesCollected ∧ start ≤ r.timestamp ∧ r.timestamp ≤ finish := by
  simp [MeteringRecord.selected, and_assoc]

def maxTier (tiers : List ProductTier) : ProductTier := tiers.max?.getD .free

def collectSummary (metering : List MeteringRecord) (workspaceId : WorkspaceId) (start finish : Option DateTime)
    (minResourcesCollected minNrOfCollects : Nat) : List MeteringSummary :=
  let records := metering.filter (fun r => r.selected workspaceId start finish minResourcesCollected)
  (records.map MeteringRecord.group).dedup.filterMap fun g =>
    let rows := records.filter (fun r => decide (r.group = g))
    if minNrOfCollects ≤ rows.length then
      some ⟨g.1, g.2, rows.length, maxTier (rows.map (·.productTier))⟩
    else none

end Fix
