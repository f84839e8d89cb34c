import FixBackend.BenchmarkAlerts
import FixBackend.Gathering
/-!
# DescendantSummary — how much of each kind is in the inventory

`descendant_summary` of `fixbackend/inventory/inventory_service.py`.  The nodes of the accounts and of the regions
carry the counts of what is below them.  They are gathered by account, which is what the cache keeps, and an answer
filters and gathers once more by kind.
-/
namespace Fix

open BenchmarkAlerts (truthy)

namespace DescendantSummary

abbrev Usage := Dict String Int

/-! ## Gathering by account -/

structure AccountNode where
  cloudId : Option String
  accountId : Option String
  descendantSummary : Option Usage

structure RegionNode where
  cloudId : Option String
  accountId : Option String
  regionId : Option String
  descendantSummary : Option Usage

/-- What the two searches return. -/
structure Inventory where
  accounts : List AccountNode
  regions : List RegionNode

structure AccountRegionSummary where
  accountId : String
  cloudId : String
  count : Usage
  regions : Dict String Usage

def AccountRegionSummary.forRegions (a : AccountRegionSummary) (regions : List String) : AccountRegionSummary :=
  { a with regions := a.regions.restrict fun r => decide (r ∈ regions) }

def AccountRegionSummary.forKinds (a : AccountRegionSummary) (kinds : List String) : AccountRegionSummary :=
  { a with
    count := a.count.restrict fun k => decide (k ∈ kinds)
    regions := a.regions.mapValues fun kc => kc.restrict fun k => decide (k ∈ kinds) }

/-- `get_account_usage`, when there may be a summary of the account already. -/
def getAccountUsage (accountId cloudId : String) (au : Option AccountRegionSummary) : AccountRegionSummary :=
  au.getD ⟨accountId, cloudId, default, default⟩

/-- A node of an account that has what the summary needs. -/
structure AccountCounts where
  cloudId : String
  accountId : String
  counts : Usage

/-- A node of a region that has what the summary needs. -/
structure RegionCounts where
  cloudId : String
  accountId : String
  regionId : String
  counts : Usage

def AccountNode.read (acc : AccountNode) : Option AccountCounts := do
  let cloudId ← truthy acc.cloudId
  let accountId ← truthy acc.accountId
  return ⟨cloudId, accountId, acc.descendantSummary.getD default⟩

def RegionNode.read (acc : RegionNode) : Option RegionCounts := do
  let cloudId ← truthy acc.cloudId
  let accountId ← truthy acc.accountId
  let regionId ← truthy acc.regionId
  return ⟨cloudId, accountId, regionId, acc.descendantSummary.getD default⟩

/-- `for descendant_kind, count in descendant_summary.items(): usage[descendant_kind] += count` -/
def addCounts (usage counts : Usage) : Usage := counts.rows.foldl (fun usage x => usage.add x.1 x.2) usage

/-- The same for the kinds of a region. -/
def addRegion (regions : Dict String Usage) (regionId : String) (counts : Usage) : Dict String Usage :=
  counts.rows.foldl (fun regions x => regions.put regionId (((regions.get regionId).getD default).add x.1 x.2)) regions

def withAccount (au : Option AccountRegionSummary) (c : AccountCounts) : AccountRegionSummary :=
  let a := getAccountUsage c.accountId c.cloudId au
  { a with count := addCounts a.count c.counts }

def withRegion (au : Option AccountRegionSummary) (c : RegionCounts) : AccountRegionSummary :=
  let a := getAccountUsage c.accountId c.cloudId au
  { a with regions := addRegion a.regions c.regionId c.counts }

def accountRegionSummary (inventory : Inventory) : Dict String AccountRegionSummary :=
  let usage := (inventory.accounts.filterMap AccountNode.read).foldl
    (fun usage c => usage.put c.accountId (withAccount (usage.get c.accountId) c)) default
  (inventory.regions.filterMap RegionNode.read).foldl
    (fun usage c => usage.put c.accountId (withRegion (usage.get c.accountId) c)) usage

/-! ## Gathering by kind -/

/-- The parameters of a request. -/
structure Query where
  cloudIds : List String
  accountIds : List String
  regionIds : List String
  kinds : List String

def Query.select (q : Query) (summary : Dict String AccountRegionSummary) : List AccountRegionSummary :=
  let byCloud := (summary.rows.map Prod.snd).filter fun a => q.cloudIds.isEmpty || decide (a.cloudId ∈ q.cloudIds)
  let byAccount := byCloud.filter fun a => q.accountIds.isEmpty || decide (a.accountId ∈ q.accountIds)
  let byRegion := byAccount.map fun a => if q.regionIds.isEmpty then a else a.forRegions q.regionIds
  byRegion.map fun a => if q.kinds.isEmpty then a else a.forKinds q.kinds

structure AccountItem where
  cloud : String
  account : String
  kind : String
  count : Int

/-- An item of the loops over the regions of the accounts and their kinds. -/
structure RegionItem where
  cloud : String
  account : String
  region : String
  kind : String
  count : Int

def AccountRegionSummary.accountItems (a : AccountRegionSummary) : List AccountItem :=
  a.count.rows.map fun x => ⟨a.cloudId, a.accountId, x.1, x.2⟩

def AccountRegionSummary.regionItems (a : AccountRegionSummary) : List RegionItem :=
  a.regions.rows.flatMap fun r => r.2.rows.map fun x => ⟨a.cloudId, a.accountId, r.1, x.1, x.2⟩

def accountUsage (summary : List AccountRegionSummary) : Usage :=
  (summary.flatMap (·.accountItems)).foldl (fun usage x => usage.add x.kind x.count) default

def regionUsage (summary : List AccountRegionSummary) : Dict String (Dict String Int) :=
  (summary.flatMap (·.regionItems)).foldl
    (fun usage x => usage.put x.kind (((usage.get x.kind).getD default).add x.region x.count)) default

def accountRegionUsage (summary : List AccountRegionSummary) : Dict String (Finset String) :=
  (summary.flatMap (·.regionItems)).foldl
    (fun usage x => usage.put x.kind (insert x.account ((usage.get x.kind).getD ∅))) default

structure KindUsage where
  accounts : Nat
  regions : Nat
  resources : Int
deriving DecidableEq

def KindUsage.zero : KindUsage := ⟨0, 0, 0⟩

def nrRegions (usage : Dict String (Dict String Int)) (kind : String) : Nat :=
  ((usage.get kind).getD default).rows.length

def usageOfRegions (summary : List AccountRegionSummary) (x : String × Dict String Int) : KindUsage where
  accounts := (((accountRegionUsage summary).get x.1).getD ∅).card
  regions := x.2.rows.length
  resources := (x.2.rows.map Prod.snd).sum

/-- The body of the loop when they are not.  The loop is over the kinds, so that each is counted as one account. -/
def addUsage (usage : Dict String (Dict String Int)) (kd : Option KindUsage) (x : String × Int) : KindUsage where
  accounts := (kd.getD .zero).accounts + 1
  regions := nrRegions usage x.1
  resources := (kd.getD .zero).resources + x.2

def setRegions (kd : Option KindUsage) (x : String × Dict String Int) : KindUsage :=
  { kd.getD .zero with regions := x.2.rows.length }

def kindUsage (q : Query) (summary : List AccountRegionSummary) : Dict String KindUsage :=
  let regions := regionUsage summary
  let kindUsage :=
    if !q.regionIds.isEmpty then regions.rows.foldl (fun ku x => ku.put x.1 (usageOfRegions summary x)) default
    else (accountUsage summary).rows.foldl (fun ku x => ku.put x.1 (addUsage regions (ku.get x.1) x)) default
  regions.rows.foldl (fun ku x => ku.put x.1 (setRegions (ku.get x.1) x)) kindUsage

def descendantSummary (inventory : Inventory) (q : Query) : Dict String KindUsage :=
  kindUsage q (q.select (accountRegionSummary inventory))

/-! ## What an answer says -/

def Inventory.accountItems (inventory : Inventory) : List AccountItem :=
  (inventory.accounts.filterMap AccountNode.read).flatMap fun c =>
    c.counts.rows.map fun x => ⟨c.cloudId, c.accountId, x.1, x.2⟩

def Inventory.regionItems (inventory : Inventory) : List RegionItem :=
  (inventory.regions.filterMap RegionNode.read).flatMap fun c =>
    c.counts.rows.map fun x => ⟨c.cloudId, c.accountId, c.regionId, x.1, x.2⟩

/-- A filter without ids lets everything pass. -/
def passes (ids : List String) (x : String) : Bool := ids.isEmpty || decide (x ∈ ids)

def Query.asksAccount (q : Query) (x : AccountItem) : Bool :=
  passes q.cloudIds x.cloud && (passes q.accountIds x.account && passes q.kinds x.kind)

def Query.asksRegion (q : Query) (x : RegionItem) : Bool :=
  passes q.cloudIds x.cloud && (passes q.accountIds x.account && (passes q.regionIds x.region && passes q.kinds x.kind))

/-- **The plain answer**, from the counts of a kind that the request asks for.  With regions it comes from the nodes
of the regions alone; without them the resources come from the nodes of the accounts, and the number of accounts is
one however many there are. -/
def counted (q : Query) (accounts : List AccountItem) (regions : List RegionItem) : Option KindUsage :=
  let nrRegions := (regions.map (·.region)).toFinset.card
  if !q.regionIds.isEmpty then
    if regions.isEmpty then none
    else some ⟨(regions.map (·.account)).toFinset.card, nrRegions, (regions.map (·.count)).sum⟩
  else if accounts.isEmpty && regions.isEmpty then none
  else some ⟨if accounts.isEmpty then 0 else 1, nrRegions, (accounts.map (·.count)).sum⟩

def expected (inventory : Inventory) (q : Query) (kind : String) : Option KindUsage :=
  counted q ((inventory.accountItems.filter q.asksAccount).filter fun x => decide (x.kind = kind))
    ((inventory.regionItems.filter q.asksRegion).filter fun x => decide (x.kind = kind))

/-- The nodes of an account and of its regions have one cloud. -/
structure Inventory.Clouds (inventory : Inventory) (cloudOf : String → String) : Prop where
  accounts : ∀ c ∈ inventory.accounts.filterMap AccountNode.read, c.cloudId = cloudOf c.accountId
  regions : ∀ c ∈ inventory.regions.filterMap RegionNode.read, c.cloudId = cloudOf c.accountId

/-! ## The items that a request asks for -/

/-- A summary as the filters of a request leave it. -/
def Query.narrow (q : Query) (a : AccountRegionSummary) : AccountRegionSummary :=
  let byRegion := if q.regionIds.isEmpty then a else a.forRegions q.regionIds
  if q.kinds.isEmpty then byRegion else byRegion.forKinds q.kinds

theorem select_eq (q : Query) (summary : Dict String AccountRegionSummary) : q.select summary =
    ((summary.rows.map Prod.snd).filter fun a => passes q.cloudIds a.cloudId && passes q.accountIds a.accountId).map
      q.narrow := by
  unfold Query.select
  rw [List.map_map, List.filter_filter]
  refine congrArg₂ List.map rfl (List.filter_congr fun a _ => ?_)
  exact Bool.and_comm _ _

theorem filter_passes_of_isEmpty {α : Type} {ids : List String} (h : ids.isEmpty = true) (xs : List α)
    (f : α → String) :
    (xs.filter fun x => passes ids (f x)) = xs := by
  refine List.filter_eq_self.2 fun x _ => ?_
  rw [passes, h]
  rfl

theorem passes_of_not_isEmpty {ids : List String} (h : ¬ ids.isEmpty = true) (x : String) :
    passes ids x = decide (x ∈ ids) := by
  rw [passes, Bool.eq_false_iff.2 h]
  rfl

theorem accountItems_forKinds (a : AccountRegionSummary) (kinds : List String) :
    (a.forKinds kinds).accountItems = a.accountItems.filter fun x => decide (x.kind ∈ kinds) := by
  unfold AccountRegionSummary.accountItems AccountRegionSummary.forKinds
  rw [Dict.rows_restrict, List.filter_map]
  rfl

theorem regionItems_forKinds (a : AccountRegionSummary) (kinds : List String) :
    (a.forKinds kinds).regionItems = a.regionItems.filter fun x => decide (x.kind ∈ kinds) := by
  unfold AccountRegionSummary.regionItems AccountRegionSummary.forKinds Dict.mapValues
  rw [List.filter_flatMap, List.flatMap_map]
  refine List.flatMap_congr fun r _ => ?_
  rw [Dict.rows_restrict, List.filter_map]
  rfl

theorem regionItems_forRegions (a : AccountRegionSummary) (regions : List String) :
    (a.forRegions regions).regionItems = a.regionItems.filter fun x => decide (x.region ∈ regions) := by
  unfold AccountRegionSummary.regionItems AccountRegionSummary.forRegions
  rw [Dict.rows_restrict]
  refine List.flatMap_filter_shared fun r _ x hx => ?_
  obtain ⟨y, -, rfl⟩ := List.mem_map.1 hx
  rfl

theorem accountItems_narrow (q : Query) (a : AccountRegionSummary) :
    (q.narrow a).accountItems = a.accountItems.filter fun x => passes q.kinds x.kind := by
  unfold Query.narrow
  by_cases hk : q.kinds.isEmpty = true
  · rw [if_pos hk, filter_passes_of_isEmpty hk]
    split <;> rfl
  · rw [if_neg hk, accountItems_forKinds]
    simp only [passes_of_not_isEmpty hk]
    split <;> rfl

theorem regionItems_narrow (q : Query) (a : AccountRegionSummary) :
    (q.narrow a).regionItems = a.regionItems.filter fun x => passes q.regionIds x.region && passes q.kinds x.kind := by
  have hregion : ((if q.regionIds.isEmpty then a else a.forRegions q.regionIds : AccountRegionSummary)).regionItems =
      a.regionItems.filter fun x => passes q.regionIds x.region := by
    by_cases hr : q.regionIds.isEmpty = true
    · rw [if_pos hr, filter_passes_of_isEmpty hr]
    · rw [if_neg hr, regionItems_forRegions]
      simp only [passes_of_not_isEmpty hr]
  have hboth := List.filter_filter (p := fun x => passes q.kinds x.kind) (q := fun x => passes q.regionIds x.region)
    (l := a.regionItems)
  unfold Query.narrow
  by_cases hk : q.kinds.isEmpty = true
  · rw [if_pos hk, hregion]
    rw [filter_passes_of_isEmpty hk] at hboth
    rw [hboth]
    exact List.filter_congr fun x _ => Bool.and_comm _ _
  · rw [if_neg hk, regionItems_forKinds, hregion]
    simp only [passes_of_not_isEmpty hk] at hboth ⊢
    rw [hboth]
    exact List.filter_congr fun x _ => Bool.and_comm _ _

theorem accountItems_select (q : Query) (summary : Dict String AccountRegionSummary) :
    (q.select summary).flatMap (·.accountItems) =
      ((summary.rows.map Prod.snd).flatMap (·.accountItems)).filter q.asksAccount := by
  rw [select_eq, List.flatMap_map]
  simp only [accountItems_narrow]
  rw [← List.filter_flatMap, List.flatMap_filter_shared (q := fun x : AccountItem =>
    passes q.cloudIds x.cloud && passes q.accountIds x.account), List.filter_filter]
  · exact List.filter_congr fun x _ => (Bool.and_comm _ _).trans (Bool.and_assoc _ _ _)
  · intro a _ x hx
    obtain ⟨y, -, rfl⟩ := List.mem_map.1 hx
    rfl

theorem regionItems_select (q : Query) (summary : Dict String AccountRegionSummary) :
    (q.select summary).flatMap (·.regionItems) =
      ((summary.rows.map Prod.snd).flatMap (·.regionItems)).filter q.asksRegion := by
  rw [select_eq, List.flatMap_map]
  simp only [regionItems_narrow]
  rw [← List.filter_flatMap, List.flatMap_filter_shared (q := fun x : RegionItem =>
    passes q.cloudIds x.cloud && passes q.accountIds x.account), List.filter_filter]
  · exact List.filter_congr fun x _ => (Bool.and_comm _ _).trans (Bool.and_assoc _ _ _)
  · intro a _ x hx
    obtain ⟨r, -, hx⟩ := List.mem_flatMap.1 hx
    obtain ⟨y, -, rfl⟩ := List.mem_map.1 hx
    rfl

/-! ## Gathering by account changes no count -/

def AccountItem.path (x : AccountItem) : String × String × String := (x.cloud, x.account, x.kind)

def RegionItem.path (x : RegionItem) : String × String × String × String := (x.cloud, x.account, x.region, x.kind)

theorem get_addCounts {usage : Usage} {ns : List Int} {k : String} (counts : Usage) (h : usage.get k = Dict.total ns) :
    (addCounts usage counts).get k = Dict.total (ns ++ (counts.get k).toList) := by
  have hadd := Dict.get_foldl_add Prod.fst Prod.snd k counts.rows h
  rw [Dict.values_filter_key] at hadd
  exact hadd

theorem get_addRegion {regions : Dict String Usage} {ns : List Int} {r k : String} (regionId : String) (counts : Usage)
    (h : (regions.get r).bind (·.get k) = Dict.total ns) : ((addRegion regions regionId counts).get r).bind (·.get k) =
      Dict.total (ns ++ if regionId = r then (counts.get k).toList else []) := by
  have hadd := Dict.get_get_foldl (fun _ : String × Int => regionId) Prod.fst Prod.snd r k counts.rows h
  unfold addRegion
  rw [hadd]
  by_cases hr : regionId = r
  · rw [if_pos hr, ← Dict.values_filter_key]
    simp only [hr, Prod.mk.injEq, true_and]
  · rw [if_neg hr, List.filter_eq_nil_iff.2]
    · rfl
    · intro x _ hx
      rw [decide_eq_true_eq, Prod.mk.injEq] at hx
      exact hr hx.1

def countOf (au : Option AccountRegionSummary) (k : String) : Option Int := au.bind fun a => a.count.get k

def regionCountOf (au : Option AccountRegionSummary) (r k : String) : Option Int :=
  au.bind fun a => (a.regions.get r).bind (·.get k)

theorem countOf_withAccount {au : Option AccountRegionSummary} {ns : List Int} {k : String} (c : AccountCounts)
    (h : countOf au k = Dict.total ns) :
    countOf (some (withAccount au c)) k = Dict.total (ns ++ (c.counts.get k).toList) := by
  refine get_addCounts c.counts ?_
  rw [← h]
  cases au <;> rfl

theorem regionCountOf_withRegion {au : Option AccountRegionSummary} {ns : List Int} {r k : String} (c : RegionCounts)
    (h : regionCountOf au r k = Dict.total ns) : regionCountOf (some (withRegion au c)) r k =
      Dict.total (ns ++ if c.regionId = r then (c.counts.get k).toList else []) := by
  refine get_addRegion c.regionId c.counts ?_
  rw [← h]
  cases au <;> rfl

theorem regionCountOf_withAccount (au : Option AccountRegionSummary) (c : AccountCounts) (r k : String) :
    regionCountOf (some (withAccount au c)) r k = regionCountOf au r k := by
  cases au <;> rfl

theorem countOf_withRegion (au : Option AccountRegionSummary) (c : RegionCounts) (k : String) :
    countOf (some (withRegion au c)) k = countOf au k := by
  cases au <;> rfl

theorem countOf_accounts (k : String) : ∀ (as : List AccountCounts) {au : Option AccountRegionSummary} {ns : List Int},
    countOf au k = Dict.total ns → countOf (as.foldl (fun au c => some (withAccount au c)) au) k =
      Dict.total (ns ++ as.flatMap fun c => (c.counts.get k).toList)
  | [], _, ns, h => by simpa using h
  | c :: as, _, ns, h => by
    rw [List.foldl_cons, List.flatMap_cons, ← List.append_assoc]
    exact countOf_accounts k as (countOf_withAccount c h)

theorem regionCountOf_regions (r k : String) : ∀ (rs : List RegionCounts) {au : Option AccountRegionSummary}
    {ns : List Int}, regionCountOf au r k = Dict.total ns →
      regionCountOf (rs.foldl (fun au c => some (withRegion au c)) au) r k =
        Dict.total (ns ++ rs.flatMap fun c => if c.regionId = r then (c.counts.get k).toList else [])
  | [], _, ns, h => by simpa using h
  | c :: rs, _, ns, h => by
    rw [List.foldl_cons, List.flatMap_cons, ← List.append_assoc]
    exact regionCountOf_regions r k rs (regionCountOf_withRegion c h)

theorem regionCountOf_accounts (r k : String) : ∀ (as : List AccountCounts) (au : Option AccountRegionSummary),
    regionCountOf (as.foldl (fun au c => some (withAccount au c)) au) r k = regionCountOf au r k
  | [], _ => rfl
  | c :: as, au => by rw [List.foldl_cons, regionCountOf_accounts r k as, regionCountOf_withAccount]

theorem countOf_regions (k : String) : ∀ (rs : List RegionCounts) (au : Option AccountRegionSummary),
    countOf (rs.foldl (fun au c => some (withRegion au c)) au) k = countOf au k
  | [], _ => rfl
  | c :: rs, au => by rw [List.foldl_cons, countOf_regions k rs, countOf_withRegion]

def Inventory.accountsOf (inventory : Inventory) (a : String) : List AccountCounts :=
  (inventory.accounts.filterMap AccountNode.read).filter fun c => decide (c.accountId = a)

def Inventory.regionsOf (inventory : Inventory) (a : String) : List RegionCounts :=
  (inventory.regions.filterMap RegionNode.read).filter fun c => decide (c.accountId = a)

theorem get_accountRegionSummary (inventory : Inventory) (a : String) : (accountRegionSummary inventory).get a =
    (inventory.regionsOf a).foldl (fun au c => some (withRegion au c))
      ((inventory.accountsOf a).foldl (fun au c => some (withAccount au c)) none) := by
  have haccounts := Dict.get_foldl_put AccountCounts.accountId withAccount a
    (inventory.accounts.filterMap AccountNode.read) default
  have hregions := Dict.get_foldl_put RegionCounts.accountId withRegion a
    (inventory.regions.filterMap RegionNode.read)
    ((inventory.accounts.filterMap AccountNode.read).foldl
      (fun usage c => usage.put c.accountId (withAccount (usage.get c.accountId) c)) default)
  rw [haccounts] at hregions
  exact hregions

theorem countOf_summary (inventory : Inventory) (a k : String) : countOf ((accountRegionSummary inventory).get a) k =
    Dict.total ((inventory.accountsOf a).flatMap fun c => (c.counts.get k).toList) := by
  have hnone : countOf none k = Dict.total [] := rfl
  rw [get_accountRegionSummary, countOf_regions, countOf_accounts k _ hnone, List.nil_append]

theorem regionCountOf_summary (inventory : Inventory) (a r k : String) :
    regionCountOf ((accountRegionSummary inventory).get a) r k = Dict.total ((inventory.regionsOf a).flatMap fun c =>
      if c.regionId = r then (c.counts.get k).toList else []) := by
  have hnone : regionCountOf ((inventory.accountsOf a).foldl (fun au c => some (withAccount au c)) none) r k =
      Dict.total [] := regionCountOf_accounts r k (inventory.accountsOf a) none
  rw [get_accountRegionSummary, regionCountOf_regions r k _ hnone, List.nil_append]

section Clouds

variable {inventory : Inventory} {cloudOf : String → String}

/-- The summary of an account has its id and its cloud. -/
def Named (cloudOf : String → String) (a : String) (v : AccountRegionSummary) : Prop := v.accountId = a ∧
    v.cloudId = cloudOf a

theorem named_getAccountUsage {cloudId a : String} (hcloud : cloudId = cloudOf a) {au : Option AccountRegionSummary}
    (hau : ∀ v ∈ au, Named cloudOf a v) : Named cloudOf a (getAccountUsage a cloudId au) := by
  cases au with
  | none => exact ⟨rfl, hcloud⟩
  | some v => exact hau v rfl

theorem named_summary (hclouds : inventory.Clouds cloudOf) {a : String} {v : AccountRegionSummary}
    (hv : (accountRegionSummary inventory).get a = some v) : Named cloudOf a v := by
  rw [get_accountRegionSummary] at hv
  refine Dict.forall_mem_foldl (P := Named cloudOf a) ?_ ?_ v hv
  · intro c hc au hau
    obtain ⟨hmem, hid⟩ := List.mem_filter.1 hc
    rw [decide_eq_true_eq] at hid
    subst hid
    exact named_getAccountUsage (hclouds.regions c hmem) hau
  · refine Dict.forall_mem_foldl ?_ nofun
    intro c hc au hau
    obtain ⟨hmem, hid⟩ := List.mem_filter.1 hc
    rw [decide_eq_true_eq] at hid
    subst hid
    exact named_getAccountUsage (hclouds.accounts c hmem) hau

theorem counts_path (cloud' account' : String) (usage : Usage) (path : String × String × String) :
    ((usage.rows.map fun x => (⟨cloud', account', x.1, x.2⟩ : AccountItem)).filter fun x => decide (x.path = path)).map
      (·.count) = if cloud' = path.1 ∧ account' = path.2.1 then (usage.get path.2.2).toList else [] := by
  rw [List.filter_map, List.map_map]
  split
  · rename_i h
    rw [← Dict.values_filter_key]
    refine congrArg₂ List.map rfl (List.filter_congr fun x _ => ?_)
    obtain ⟨cloud, account, kind⟩ := path
    obtain ⟨rfl, rfl⟩ := h
    simp [AccountItem.path]
  · rename_i h
    rw [List.filter_eq_nil_iff.2]
    · rfl
    · intro x _ hx
      rw [Function.comp_apply, decide_eq_true_eq] at hx
      subst hx
      exact h ⟨rfl, rfl⟩

theorem flatMap_ofAccount {α : Type} {xs : List α} (account cloud : α → String)
    (h : ∀ x ∈ xs, cloud x = cloudOf (account x))
    (cloud' a : String) (f : α → List Int) :
      (xs.flatMap fun x => if cloud x = cloud' ∧ account x = a then f x else []) =
      if cloudOf a = cloud' then (xs.filter fun x => decide (account x = a)).flatMap f else [] := by
  have hxs : ∀ x ∈ xs, (if cloud x = cloud' ∧ account x = a then f x else []) =
      if decide (account x = a) then (if cloudOf a = cloud' then f x else []) else [] := by
    intro x hx
    rw [h x hx]
    by_cases ha : account x = a
    · simp [ha]
    · simp [ha]
  rw [List.flatMap_congr hxs, ← List.flatMap_filter]
  split <;> simp

theorem flatMap_summary (hclouds : inventory.Clouds cloudOf) (cloud a : String) (f : AccountRegionSummary → List Int) :
    ((accountRegionSummary inventory).rows.flatMap fun x =>
        if x.2.cloudId = cloud ∧ x.2.accountId = a then f x.2 else []) =
      if cloudOf a = cloud then ((accountRegionSummary inventory).get a).toList.flatMap f else [] := by
  have hnamed : ∀ x ∈ (accountRegionSummary inventory).rows, Named cloudOf x.1 x.2 := fun x hx =>
    named_summary hclouds ((Dict.get_eq_some_iff _ x.1 x.2).2 hx)
  have hcloud : ∀ x ∈ (accountRegionSummary inventory).rows, x.2.cloudId = cloudOf x.2.accountId := fun x hx => by
    rw [(hnamed x hx).1, (hnamed x hx).2]
  have hkey : ∀ x ∈ (accountRegionSummary inventory).rows, decide (x.2.accountId = a) = decide (x.1 = a) :=
    fun x hx => by
    rw [(hnamed x hx).1]
  rw [flatMap_ofAccount _ _ hcloud cloud a fun x => f x.2, List.filter_congr hkey, Dict.filter_rows_key]
  cases (accountRegionSummary inventory).get a <;> simp

/-- **Gathering by account changes no count** of the nodes of accounts. -/
theorem tally_accountItems (hclouds : inventory.Clouds cloudOf) (path : String × String × String) :
    Dict.tally AccountItem.path (·.count)
        (((accountRegionSummary inventory).rows.map Prod.snd).flatMap (·.accountItems)) path =
      Dict.tally AccountItem.path (·.count) inventory.accountItems path := by
  have hsummary := countOf_summary inventory path.2.1 path.2.2
  unfold Dict.tally Inventory.accountItems
  rw [List.flatMap_map, List.filter_flatMap, List.map_flatMap, List.filter_flatMap, List.map_flatMap]
  simp only [AccountRegionSummary.accountItems, counts_path]
  rw [flatMap_summary hclouds path.1 path.2.1 fun a => (a.count.get path.2.2).toList,
    flatMap_ofAccount AccountCounts.accountId AccountCounts.cloudId hclouds.accounts]
  split
  · rw [Inventory.accountsOf] at hsummary
    rw [← hsummary]
    cases (accountRegionSummary inventory).get path.2.1 with
    | none => rfl
    | some a => simp [countOf, Dict.total_toList]
  · rfl

theorem flatMap_if {α : Type} (xs : List α) (p : Prop) [Decidable p] (f : α → List Int) :
    (xs.flatMap fun x => if p then f x else []) = if p then xs.flatMap f else [] := by
  split <;> simp

theorem regionCounts_path (cloud' account' region' : String) (usage : Usage)
    (path : String × String × String × String) :
    ((usage.rows.map fun x => (⟨cloud', account', region', x.1, x.2⟩ : RegionItem)).filter
        fun x => decide (x.path = path)).map (·.count) =
      if cloud' = path.1 ∧ account' = path.2.1 then
        if region' = path.2.2.1 then (usage.get path.2.2.2).toList else []
      else [] := by
  have hcounts := counts_path cloud' account' usage (path.1, path.2.1, path.2.2.2)
  rw [List.filter_map, List.map_map] at hcounts ⊢
  by_cases hr : region' = path.2.2.1
  · subst hr
    rw [if_pos rfl, ← hcounts]
    refine congrArg₂ List.map rfl (List.filter_congr fun x _ => ?_)
    obtain ⟨cloud, account, region, kind⟩ := path
    simp [AccountItem.path, RegionItem.path]
  · rw [if_neg hr, ite_self, List.filter_eq_nil_iff.2]
    · rfl
    · intro x _ hx
      rw [Function.comp_apply, decide_eq_true_eq] at hx
      subst hx
      exact hr rfl

/-- **Gathering by account changes no count** of the nodes of regions. -/
theorem tally_regionItems (hclouds : inventory.Clouds cloudOf) (path : String × String × String × String) :
    Dict.tally RegionItem.path (·.count)
        (((accountRegionSummary inventory).rows.map Prod.snd).flatMap (·.regionItems)) path =
      Dict.tally RegionItem.path (·.count) inventory.regionItems path := by
  have hsummary := regionCountOf_summary inventory path.2.1 path.2.2.1 path.2.2.2
  unfold Dict.tally Inventory.regionItems
  rw [List.flatMap_map, List.filter_flatMap, List.map_flatMap, List.filter_flatMap, List.map_flatMap]
  simp only [AccountRegionSummary.regionItems, List.filter_flatMap, List.map_flatMap, regionCounts_path, flatMap_if]
  rw [flatMap_summary hclouds path.1 path.2.1 fun a =>
      a.regions.rows.flatMap fun r => if r.1 = path.2.2.1 then (r.2.get path.2.2.2).toList else [],
    flatMap_ofAccount RegionCounts.accountId RegionCounts.cloudId hclouds.regions]
  split
  · rw [Inventory.regionsOf] at hsummary
    rw [← hsummary]
    cases (accountRegionSummary inventory).get path.2.1 with
    | none => rfl
    | some a =>
      have hregion := List.flatMap_filter (fun r : String × Usage => decide (r.1 = path.2.2.1))
        (fun r => (r.2.get path.2.2.2).toList) a.regions.rows
      simp only [decide_eq_true_eq] at hregion
      rw [Option.toList_some, List.flatMap_singleton, ← hregion, Dict.filter_rows_key, regionCountOf, Option.bind_some]
      cases a.regions.get path.2.2.1 <;> simp [Dict.total_toList]
      rfl
  · rfl

end Clouds

/-! ## Gathering by kind -/

section Kinds

variable {summary : List AccountRegionSummary}

def accountsOfKind (summary : List AccountRegionSummary) (kind : String) : List AccountItem :=
  (summary.flatMap (·.accountItems)).filter fun x => decide (x.kind = kind)

def regionsOfKind (summary : List AccountRegionSummary) (kind : String) : List RegionItem :=
  (summary.flatMap (·.regionItems)).filter fun x => decide (x.kind = kind)

theorem get_accountUsage (kind : String) :
    (accountUsage summary).get kind = Dict.total ((accountsOfKind summary kind).map (·.count)) := by
  have hempty : (default : Usage).get kind = Dict.total [] := rfl
  exact Dict.get_foldl_add AccountItem.kind AccountItem.count kind (summary.flatMap (·.accountItems)) hempty

theorem foldl_some_eq_none_iff {α β : Type} {f : Option β → α → β} {xs : List α} :
    xs.foldl (fun v x => some (f v x)) none = none ↔ xs = [] := by
  induction xs using List.reverseRecOn with
  | nil => simp
  | append_singleton xs x => simp

theorem get_regionUsage_eq_none_iff (kind : String) :
    (regionUsage summary).get kind = none ↔ regionsOfKind summary kind = [] := by
  have hget := Dict.get_foldl_put RegionItem.kind (fun (v : Option Usage) x => (v.getD default).add x.region x.count)
      kind
    (summary.flatMap (·.regionItems)) default
  unfold regionUsage
  rw [hget]
  exact foldl_some_eq_none_iff

theorem tally_regionUsage {kind : String} {regions : Dict String Int}
    (h : (regionUsage summary).get kind = some regions)
    (region : String) : Dict.tally Prod.fst Prod.snd regions.rows region =
      Dict.tally RegionItem.region RegionItem.count (regionsOfKind summary kind) region := by
  have hempty : ((default : Dict String Usage).get kind).bind (·.get region) = Dict.total [] := rfl
  have hget := Dict.get_get_foldl RegionItem.kind RegionItem.region RegionItem.count kind region
    (summary.flatMap (·.regionItems)) hempty
  unfold regionUsage at h
  rw [h, Option.bind_some, List.nil_append] at hget
  rw [Dict.tally_rows, hget, Dict.tally, regionsOfKind, List.filter_filter]
  refine congrArg Dict.total (congrArg₂ List.map rfl (List.filter_congr fun x _ => ?_))
  simp only [Prod.mk.injEq, Bool.decide_and, Bool.and_comm]

theorem sum_regionUsage {kind : String} {regions : Dict String Int}
    (h : (regionUsage summary).get kind = some regions) :
    (regions.rows.map Prod.snd).sum = ((regionsOfKind summary kind).map (·.count)).sum := by
  have hsum := Dict.sum_of_tally (tally_regionUsage h) fun _ => true
  rw [List.filter_true, List.filter_true] at hsum
  exact hsum

theorem length_regionUsage {kind : String} {regions : Dict String Int}
    (h : (regionUsage summary).get kind = some regions) :
    regions.rows.length = ((regionsOfKind summary kind).map (·.region)).toFinset.card := by
  have himage := Dict.image_of_tally (tally_regionUsage h) (fun _ => true) id
  rw [List.filter_true, List.filter_true] at himage
  rw [← List.length_map Prod.fst, ← List.toFinset_card_of_nodup regions.unique]
  exact congrArg Finset.card himage

theorem getD_accountRegionUsage (kind : String) :
    ((accountRegionUsage summary).get kind).getD ∅ = ((regionsOfKind summary kind).map (·.account)).toFinset :=
  Dict.getD_gatherSets RegionItem.kind RegionItem.account (summary.flatMap AccountRegionSummary.regionItems) kind

theorem nrRegions_regionUsage (kind : String) : nrRegions (regionUsage summary) kind =
    ((regionsOfKind summary kind).map (·.region)).toFinset.card := by
  unfold nrRegions
  cases h : (regionUsage summary).get kind with
  | none =>
    rw [(get_regionUsage_eq_none_iff kind).1 h]
    rfl
  | some regions => exact length_regionUsage h

theorem regionsOfKind_ne_nil {kind : String} {regions : Dict String Int}
    (h : (regionUsage summary).get kind = some regions) :
    regionsOfKind summary kind ≠ [] := fun hnil => by
  rw [(get_regionUsage_eq_none_iff kind).2 hnil] at h
  cases h

theorem get_kindUsage (q : Query) (kind : String) :
    (kindUsage q summary).get kind = counted q (accountsOfKind summary kind) (regionsOfKind summary kind) := by
  have hregion := Dict.get_foldl_rows (fun _ : Option KindUsage => usageOfRegions summary)
      (regionUsage summary) default kind
  have haccount := Dict.get_foldl_rows (addUsage (regionUsage summary)) (accountUsage summary) default kind
  have hnone : (regionUsage summary).get kind = none ↔ _ := get_regionUsage_eq_none_iff kind
  unfold kindUsage counted
  dsimp only
  rw [Dict.get_foldl_rows setRegions]
  by_cases hids : q.regionIds.isEmpty = true
  · rw [hids, Bool.not_true, if_neg Bool.false_ne_true, if_neg Bool.false_ne_true, haccount, get_accountUsage]
    cases haccounts : accountsOfKind summary kind with
    | nil =>
      cases h : (regionUsage summary).get kind with
      | none =>
        rw [hnone.1 h]
        rfl
      | some regions =>
        rw [List.isEmpty_eq_false_iff.2 (regionsOfKind_ne_nil h), ← length_regionUsage h]
        rfl
    | cons x xs =>
      have hadd : ∀ n, addUsage (regionUsage summary) none (kind, n) =
          ⟨1, ((regionsOfKind summary kind).map (·.region)).toFinset.card, n⟩ := fun n => by
        rw [← nrRegions_regionUsage]
        exact congrArg (KindUsage.mk _ _) (Int.zero_add n)
      rw [List.isEmpty_cons, Bool.false_and, if_neg Bool.false_ne_true, if_neg Bool.false_ne_true,
        Dict.total_eq_some (by simp)]
      dsimp only [Dict.get_default]
      rw [hadd]
      cases h : (regionUsage summary).get kind with
      | none => rfl
      | some regions =>
        rw [← length_regionUsage h]
        rfl
  · rw [Bool.eq_false_iff.2 hids, Bool.not_false, if_pos rfl, if_pos rfl, hregion]
    cases h : (regionUsage summary).get kind with
    | none =>
      rw [hnone.1 h]
      rfl
    | some regions =>
      rw [List.isEmpty_eq_false_iff.2 (regionsOfKind_ne_nil h), if_neg Bool.false_ne_true, ← getD_accountRegionUsage,
        ← length_regionUsage h, ← sum_regionUsage h]
      rfl

end Kinds

theorem counted_congr {q : Query} {accounts accounts' : List AccountItem} {regions regions' : List RegionItem}
    (hempty : accounts.isEmpty = accounts'.isEmpty)
    (hsum : (accounts.map (·.count)).sum = (accounts'.map (·.count)).sum)
    (hempty' : regions.isEmpty = regions'.isEmpty) (hsum' : (regions.map (·.count)).sum = (regions'.map (·.count)).sum)
    (haccount : (regions.map (·.account)).toFinset = (regions'.map (·.account)).toFinset)
    (hregion : (regions.map (·.region)).toFinset = (regions'.map (·.region)).toFinset) :
    counted q accounts regions = counted q accounts' regions' := by
  unfold counted
  rw [hempty, hsum, hempty', hsum', haccount, hregion]

/-- **A summary answers as the inventory would**: whatever clouds, accounts, regions and kinds a request asks for, the
usage of each kind is the plain count of the nodes that it asks for. -/
theorem descendantSummary_counts {inventory : Inventory} {cloudOf : String → String}
    (hclouds : inventory.Clouds cloudOf)
    (q : Query) (kind : String) : (descendantSummary inventory q).get kind = expected inventory q kind := by
  have haccounts := tally_accountItems hclouds
  have hregions := tally_regionItems hclouds
  -- what is asked for is a condition on the path
  let askedAccount (path : String × String × String) : Bool :=
    decide (path.2.2 = kind) &&
      (passes q.cloudIds path.1 && (passes q.accountIds path.2.1 && passes q.kinds path.2.2))
  let askedRegion (path : String × String × String × String) : Bool :=
    decide (path.2.2.2 = kind) && (passes q.cloudIds path.1 &&
      (passes q.accountIds path.2.1 && (passes q.regionIds path.2.2.1 && passes q.kinds path.2.2.2)))
  unfold descendantSummary expected
  rw [get_kindUsage, accountsOfKind, regionsOfKind, accountItems_select, regionItems_select]
  simp only [List.filter_filter]
  exact counted_congr (Dict.isEmpty_of_tally haccounts askedAccount) (Dict.sum_of_tally haccounts askedAccount)
    (Dict.isEmpty_of_tally hregions askedRegion) (Dict.sum_of_tally hregions askedRegion)
    (Dict.image_of_tally hregions askedRegion (·.2.1)) (Dict.image_of_tally hregions askedRegion (·.2.2.1))

/-- Two accounts with instances in two regions. -/
def prodAndDev : Inventory where
  accounts := [⟨some "aws", some "prod", some (Dict.ofList [("instance", 3)])⟩,
    ⟨some "aws", some "dev", some (Dict.ofList [("instance", 2)])⟩]
  regions := [⟨some "aws", some "prod", some "eu", some (Dict.ofList [("instance", 3)])⟩,
    ⟨some "aws", some "dev", some "eu", some (Dict.ofList [("instance", 1)])⟩,
    ⟨some "aws", some "dev", some "us", some (Dict.ofList [("instance", 1)])⟩]

theorem prodAndDev_counts : (descendantSummary prodAndDev ⟨[], [], ["eu"], []⟩).get "instance" = some ⟨2, 1, 4⟩ ∧
    (descendantSummary prodAndDev ⟨[], [], [], []⟩).get "instance" = some ⟨1, 2, 5⟩ := by
  have hclouds : prodAndDev.Clouds fun _ => "aws" := ⟨by decide, by decide⟩
  exact ⟨(descendantSummary_counts hclouds _ _).trans (by decide),
    (descendantSummary_counts hclouds _ _).trans (by decide)⟩

end DescendantSummary

end Fix
