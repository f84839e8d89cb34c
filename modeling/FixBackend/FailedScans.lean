import FixBackend.CollectEvents
/-!
# FailedScans — an account is degraded by consecutive failures

The collect events of an account in a row: its count of failed scans is the length of the run of failures they end with,
and it is degraded while that run is four long or longer.
-/
namespace Fix

open Calendar Effects Machine

/-! ## Runs of failures -/

def failedRuns (scans : List Bool) : List (List Bool) := scans.splitOn false

def trailingRun (scans : List Bool) : Nat := ((failedRuns scans).getLastD []).length

/-- The number of runs that reach a length. -/
def longRuns (n : Nat) (scans : List Bool) : Nat := (failedRuns scans).countP fun run => decide (n ≤ run.length)

theorem failedRuns_append (scans : List Bool) :
    ∃ runs run, ∀ tail, (∀ x ∈ tail, x = true) → failedRuns (scans ++ tail) = runs ++ [run ++ tail] := by
  unfold failedRuns
  induction scans using List.reverseRecOn with
  | nil =>
    refine ⟨[], [], fun tail htail => ?_⟩
    rw [List.nil_append, List.splitOn_eq_singleton (fun hmem => by cases htail _ hmem)]
    rfl
  | append_singleton scans b ih =>
    obtain ⟨runs, run, h⟩ := ih
    cases b with
    | true =>
      refine ⟨runs, run ++ [true], fun tail htail => ?_⟩
      rw [List.append_assoc, List.append_assoc]
      exact h (true :: tail) (List.forall_mem_cons.2 ⟨rfl, htail⟩)
    | false =>
      refine ⟨scans.splitOn false, [], fun tail htail => ?_⟩
      rw [List.append_assoc]
      change (scans ++ false :: tail).splitOn false = _
      have hrun : tail.splitOn false = [tail] := List.splitOn_eq_singleton fun hmem => by cases htail _ hmem
      rw [List.splitOn_append_cons_self, hrun]
      rfl

theorem trailingRun_snoc (scans : List Bool) (b : Bool) :
    trailingRun (scans ++ [b]) = if b then trailingRun scans + 1 else 0 := by
  unfold trailingRun
  cases b with
  | true =>
    obtain ⟨runs, run, h⟩ := failedRuns_append scans
    have hnow := h [] (fun _ hx => absurd hx List.not_mem_nil)
    rw [List.append_nil, List.append_nil] at hnow
    rw [h [true] (by simp), hnow]
    simp
  | false =>
    unfold failedRuns
    rw [List.splitOn_append_cons_self]
    simp

theorem longRuns_snoc {n : Nat} (hn : 0 < n) (scans : List Bool) (b : Bool) :
    longRuns n (scans ++ [b]) = longRuns n scans + if b = true ∧ trailingRun scans + 1 = n then 1 else 0 := by
  unfold longRuns trailingRun
  cases b with
  | true =>
    obtain ⟨runs, run, h⟩ := failedRuns_append scans
    have hnow := h [] (fun _ hx => absurd hx List.not_mem_nil)
    rw [List.append_nil, List.append_nil] at hnow
    rw [h [true] (by simp), hnow, List.countP_append, List.countP_append, List.countP_singleton, List.countP_singleton]
    have hlast : (runs ++ [run]).getLastD [] = run := by simp
    rw [hlast]
    simp only [List.length_append, List.length_singleton, decide_eq_true_eq, true_and]
    split_ifs <;> omega
  | false =>
    unfold failedRuns
    rw [List.splitOn_append_cons_self, List.countP_append]
    simp only [List.splitOn_nil, List.countP_singleton, List.length_nil, decide_eq_true_eq,
      Bool.false_eq_true, false_and,
      if_false]
    rw [if_neg (by omega)]

/-! ## The events of an account -/

namespace CollectEvent

/-- The event as `complete_collect_job` builds it: no account is in both maps, and a failed collect has no resources. -/
def Built : CollectEvent → Prop
  | e@(collected _ cloudAccounts cloudAccountsFailed _) =>
    e.Dictionaries ∧ (∀ id ∈ cloudAccounts.map Prod.fst, id ∉ cloudAccountsFailed.map Prod.fst) ∧
      ∀ item ∈ cloudAccountsFailed, item.2.scannedResources = 0
  | e@(collectFailed ..) => e.Dictionaries

def Mentions (id : FixCloudAccountId) (e : CollectEvent) : Prop := id ∈ e.entries.map Prod.fst

/-- The scan of the account failed: it is among the failed ones, or it found too little. -/
def scanFails (threshold : Int) (id : FixCloudAccountId) : CollectEvent → Bool
  | collected _ cloudAccounts cloudAccountsFailed _ =>
    decide (id ∈ cloudAccountsFailed.map Prod.fst) ||
      (cloudAccounts.lookup id).any fun info => decide ((info.scannedResources : Int) ≤ threshold)
  | collectFailed .. => true

end CollectEvent

theorem lookup_unionDict {left right : List CollectEntry}
    (hdisjoint : ∀ id ∈ left.map Prod.fst, id ∉ right.map Prod.fst) (id : FixCloudAccountId) :
    (unionDict left right).lookup id = (left.lookup id).or (right.lookup id) := by
  have hleft : left.map (fun p => (p.1, (right.lookup p.1).getD p.2)) = left := by
    refine (List.map_congr_left fun p hp => ?_).trans (List.map_id left)
    rw [lookup_eq_none_of_notMem (hdisjoint p.1 (List.mem_map_of_mem hp))]
    rfl
  have hright : right.filter (fun p => decide (p.1 ∉ left.map Prod.fst)) = right := by
    rw [List.filter_eq_self]
    intro p hp
    exact decide_eq_true fun hmem => hdisjoint p.1 hmem (List.mem_map_of_mem hp)
  unfold unionDict
  rw [hleft, hright, List.lookup_append]

/-- **The two branches of the handler agree on what a failed scan is**, when a failed collect has no resources and the
threshold is not negative. -/
theorem CollectEvent.lookup_scanFailed {e : CollectEvent} {id : FixCloudAccountId} {threshold : Int} (hbuilt : e.Built)
    (hmentions : e.Mentions id) (hthreshold : 0 ≤ threshold) :
    ∃ info, e.entries.lookup id = some info ∧ info.scanFailed threshold e.failed = e.scanFails threshold id := by
  have hsome : ∃ info, e.entries.lookup id = some info := by
    rw [← Option.isSome_iff_exists, List.lookup_isSome_iff]
    obtain ⟨p, hp, rfl⟩ := List.mem_map.1 hmentions
    exact ⟨p, hp, beq_self_eq_true _⟩
  obtain ⟨info, hinfo⟩ := hsome
  refine ⟨info, hinfo, ?_⟩
  cases e with
  | collectFailed cloudAccounts nextRun => rfl
  | collected tenantId cloudAccounts cloudAccountsFailed nextRun =>
    obtain ⟨-, hdisjoint, hzero⟩ := hbuilt
    change (unionDict cloudAccounts cloudAccountsFailed).lookup id = some info at hinfo
    rw [lookup_unionDict hdisjoint] at hinfo
    unfold CloudAccountCollectInfo.scanFailed CollectEvent.scanFails CollectEvent.failed
    dsimp only
    rw [Bool.false_or]
    cases hleft : cloudAccounts.lookup id with
    | some found =>
      rw [hleft] at hinfo
      cases hinfo
      have hmem : id ∈ cloudAccounts.map Prod.fst := by
        by_contra hnotin
        rw [lookup_eq_none_of_notMem hnotin] at hleft
        cases hleft
      rw [decide_eq_false (hdisjoint id hmem), Bool.false_or]
      rfl
    | none =>
      rw [hleft, Option.none_or] at hinfo
      obtain ⟨l₁, l₂, hsplit, -⟩ := List.lookup_eq_some_iff.1 hinfo
      have hmem : (id, info) ∈ cloudAccountsFailed := by
        rw [hsplit]
        exact List.mem_append_right _ List.mem_cons_self
      have hin : id ∈ cloudAccountsFailed.map Prod.fst := List.mem_map_of_mem hmem
      have hnothing : (info.scannedResources : Int) ≤ threshold := by
        rw [hzero _ hmem]
        exact hthreshold
      rw [decide_eq_true hin, decide_eq_true hnothing, Bool.true_or]

/-! ## A history of events -/

/-- A collect event is handled, or something else happens that leaves the account alone. -/
inductive CollectMove where
  | event (e : CollectEvent)
  | elsewhere (w : World)

instance (w : World) : Decidable w.Unique := inferInstanceAs (Decidable (∀ r ∈ w.accounts.rows, w.taken r = false))

/-- What is not an operation on the account. -/
structure World.Spares (id : FixCloudAccountId) (w w' : World) : Prop where
  unique : w'.Unique
  account : w'.accounts.find id = w.accounts.find id
  degraded : w'.published.countP (·.degrades id) = w.published.countP (·.degrades id)
  accountFailedResourceCount : w'.accountFailedResourceCount = w.accountFailedResourceCount

instance (id : FixCloudAccountId) (w w' : World) : Decidable (w.Spares id w') :=
  decidable_of_iff (w'.Unique ∧ w'.accounts.find id = w.accounts.find id ∧
    w'.published.countP (·.degrades id) = w.published.countP (·.degrades id) ∧
    w'.accountFailedResourceCount = w.accountFailedResourceCount)
    ⟨fun ⟨h₁, h₂, h₃, h₄⟩ => ⟨h₁, h₂, h₃, h₄⟩, fun h => ⟨h.1, h.2, h.3, h.4⟩⟩

/-- An event is handled to its end. -/
def collectStep (id : FixCloudAccountId) (w : World) : CollectMove → Option World
  | .event e =>
    match exec e.handle w with
    | (.ok _, w') => some w'
    | (.error _, _) => none
  | .elsewhere w' => if w.Spares id w' then some w' else none

/-- **An event is handled to its end** when every account it mentions is stored and can be read. -/
theorem collectStep_event {e : CollectEvent} {w : World} (id : FixCloudAccountId) (hu : w.Unique)
    (hdict : e.Dictionaries) (hread : ∀ item ∈ e.entries, w.readable item.1 = true) :
    ∃ w', collectStep id w (.event e) = some w' := by
  obtain ⟨r, w', hexec, -, hok⟩ := CollectEvent.handle_recorded hu (CollectEvent.entries_nodup hdict)
  have hlistable : e.listable w = true := by
    cases e with
    | collectFailed => rfl
    | collected tenantId cloudAccounts cloudAccountsFailed nextRun =>
      unfold CollectEvent.listable
      rw [List.all_eq_true]
      intro item hitem
      have hkey : item.1 ∈ (unionDict cloudAccounts cloudAccountsFailed).map Prod.fst := by
        unfold unionDict
        rw [List.map_append, List.map_map]
        exact List.mem_append_left _ (List.mem_map_of_mem hitem)
      obtain ⟨p, hp, hpid⟩ := List.mem_map.1 hkey
      rw [← hpid, hread p hp, Bool.or_true]
  refine ⟨w', ?_⟩
  unfold collectStep
  dsimp only
  rw [hexec, hok.2 ⟨hlistable, hread⟩]

def scansOf (threshold : Int) (id : FixCloudAccountId) (moves : List CollectMove) : List Bool :=
  moves.filterMap fun
    | .event e => some (e.scanFails threshold id)
    | .elsewhere _ => none

def standingAfter (access : CloudAccess) (enabled scan : Bool) (scans : List Bool) : Standing :=
  (.ok (if 4 ≤ trailingRun scans then .degraded access enabled scan tooManyFailedScans
    else .configured access enabled scan), trailingRun scans)

theorem standingAfter_snoc (access : CloudAccess) (enabled scan : Bool) (scans : List Bool) (b : Bool) :
    (standingAfter access enabled scan scans).scanned b = standingAfter access enabled scan (scans ++ [b]) := by
  unfold standingAfter Standing.scanned
  rw [trailingRun_snoc]
  cases b with
  | false =>
    simp only [Bool.false_eq_true, if_false]
    by_cases hlong : 4 ≤ trailingRun scans
    · rw [if_pos hlong]
      rfl
    · rw [if_neg hlong]
      rfl
  | true =>
    unfold CloudAccountState.scanned
    simp only [if_true, Nat.add_one_ne_zero, if_false]
    by_cases hlong : 4 ≤ trailingRun scans
    · rw [if_pos hlong, if_pos (by omega), if_pos (by omega)]
      rfl
    · rw [if_neg hlong]
      by_cases hnow : 3 < trailingRun scans + 1
      · rw [if_pos hnow, if_pos (by omega)]
        rfl
      · rw [if_neg hnow, if_neg (by omega)]

/-- The scan that makes the run four long is the one that degrades. -/
theorem degradedByScan_standingAfter (access : CloudAccess) (enabled scan : Bool) (scans : List Bool) (b : Bool) :
    (standingAfter access enabled scan scans).degradedByScan b = true ↔ b = true ∧ trailingRun scans + 1 = 4 := by
  unfold standingAfter Standing.degradedByScan
  simp only [Bool.and_eq_true, decide_eq_true_eq]
  by_cases hlong : 4 ≤ trailingRun scans
  · rw [if_pos hlong]
    simp only [CloudAccountState.of_degraded, ne_eq, not_true_eq_false, and_false, false_iff, not_and]
    omega
  · rw [if_neg hlong]
    simp only [CloudAccountState.of_configured, ne_eq, reduceCtorEq, not_false_eq_true, and_true,
      and_congr_right_iff]
    intro _
    omega

structure Counted (id : FixCloudAccountId) (access : CloudAccess) (enabled scan : Bool) (threshold : Int)
    (announced : Nat)
    (scans : List Bool) (w : World) : Prop where
  unique : w.Unique
  accountFailedResourceCount : w.accountFailedResourceCount = threshold
  standing : w.standing id = some (standingAfter access enabled scan scans)
  degraded : w.published.countP (·.degrades id) = announced + longRuns 4 scans

section Counted

variable {id : FixCloudAccountId} {access : CloudAccess} {enabled scan : Bool} {threshold : Int} {announced : Nat}
  {scans : List Bool} {w w' : World}

theorem Counted.event {e : CollectEvent} (h : Counted id access enabled scan threshold announced scans w)
    (hthreshold : 0 ≤ threshold) (hbuilt : e.Built) (hmentions : e.Mentions id)
    (hstep : collectStep id w (.event e) = some w') :
    Counted id access enabled scan threshold announced (scans ++ [e.scanFails threshold id]) w' := by
  have hdict : e.Dictionaries := by
    cases e with
    | collected => exact hbuilt.1
    | collectFailed => exact hbuilt
  obtain ⟨r, w₁, hexec, hrecorded, hok⟩ := CollectEvent.handle_recorded h.unique (CollectEvent.entries_nodup hdict)
  unfold collectStep at hstep
  dsimp only at hstep
  rw [hexec] at hstep
  rcases r with err | u
  · cases hstep
  · cases hstep
    obtain ⟨hlistable, hall⟩ := hok.1 rfl
    -- the handling came to every entry
    have hreached : e.reached w e.entries = e.entries := by
      unfold CollectEvent.reached World.reaches
      rw [if_pos hlistable, List.takeWhile_eq_self_iff]
      exact hall
    obtain ⟨info, hlookup, hfails⟩ := CollectEvent.lookup_scanFailed hbuilt hmentions hthreshold
    refine ⟨h.unique.of_alike hrecorded.alike, ?_, ?_, ?_⟩
    · rw [hrecorded.alike.accountFailedResourceCount]
      exact h.accountFailedResourceCount
    · rw [hrecorded.standing, h.standing, hreached, h.accountFailedResourceCount, Option.map_some]
      unfold scannedBy
      rw [hlookup]
      dsimp only
      rw [hfails, standingAfter_snoc]
    · rw [hrecorded.degraded, h.degraded, h.standing, hreached, h.accountFailedResourceCount, Option.any_some,
        longRuns_snoc (by decide)]
      have hdegrades : degradedByEntries threshold e.failed e.entries id (standingAfter access enabled scan scans) =
          (standingAfter access enabled scan scans).degradedByScan (e.scanFails threshold id) := by
        unfold degradedByEntries
        rw [hlookup]
        dsimp only
        rw [hfails]
      simp only [hdegrades, degradedByScan_standingAfter, Nat.add_assoc]

theorem Counted.elsewhere (h : Counted id access enabled scan threshold announced scans w)
    (hstep : collectStep id w (.elsewhere w') = some w') :
    Counted id access enabled scan threshold announced scans w' := by
  unfold collectStep at hstep
  dsimp only at hstep
  split at hstep
  · rename_i hspares
    refine ⟨hspares.unique, hspares.accountFailedResourceCount.trans h.accountFailedResourceCount, ?_,
      hspares.degraded.trans h.degraded⟩
    unfold World.standing
    rw [hspares.account]
    exact h.standing
  · cases hstep

theorem Counted.run (hthreshold : 0 ≤ threshold) : ∀ (moves : List CollectMove) {scans : List Bool} {w : World},
    (∀ e, .event e ∈ moves → e.Built ∧ e.Mentions id) → Counted id access enabled scan threshold announced scans w →
    Machine.run (collectStep id) w moves = some w' →
    Counted id access enabled scan threshold announced (scans ++ scansOf threshold id moves) w'
  | [], scans, w, _, h, hrun => by
    cases hrun
    have hnone : scansOf threshold id [] = [] := rfl
    rw [hnone, List.append_nil]
    exact h
  | .event e :: moves, scans, w, hmoves, h, hrun => by
    obtain ⟨w₁, hstep, hrun⟩ := run_cons.1 hrun
    obtain ⟨hbuilt, hmentions⟩ := hmoves e List.mem_cons_self
    have hnext := Counted.run hthreshold moves (fun e' he' => hmoves e' (List.mem_cons_of_mem _ he'))
      (h.event hthreshold hbuilt hmentions hstep) hrun
    rw [List.append_assoc] at hnext
    exact hnext
  | .elsewhere w₁ :: moves, scans, w, hmoves, h, hrun => by
    obtain ⟨w₂, hstep, hrest⟩ := run_cons.1 hrun
    have hsame : w₂ = w₁ := by
      unfold collectStep at hstep
      dsimp only at hstep
      split at hstep
      · cases hstep
        rfl
      · cases hstep
    rw [hsame] at hstep hrest
    exact Counted.run hthreshold moves (fun e he => hmoves e (List.mem_cons_of_mem _ he)) (h.elsewhere hstep) hrest

end Counted

/-- **Degradation by consecutive failures**: after any history of collect events of a configured account, its count is
the length of the run of failures it ends with, it is degraded exactly while that run is at least four long, with its
access and settings as they were, and each run that became four long was announced once. -/
theorem runCollects_counts {id : FixCloudAccountId} {access : CloudAccess} {enabled scan : Bool} {w w' : World}
    (hu : w.Unique) (hthreshold : 0 ≤ w.accountFailedResourceCount)
    (hstart : w.standing id = some (.ok (.configured access enabled scan), 0)) {moves : List CollectMove}
    (hmoves : ∀ e, .event e ∈ moves → e.Built ∧ e.Mentions id) (hrun : run (collectStep id) w moves = some w') :
    let scans := scansOf w.accountFailedResourceCount id moves
    w'.standing id = some (.ok (if 4 ≤ trailingRun scans then .degraded access enabled scan tooManyFailedScans
      else .configured access enabled scan), trailingRun scans) ∧
    w'.published.countP (·.degrades id) = w.published.countP (·.degrades id) + longRuns 4 scans := by
  have hcounted : Counted id access enabled scan w.accountFailedResourceCount
      (w.published.countP (·.degrades id)) [] w :=
    ⟨hu, rfl, hstart, rfl⟩
  have h := hcounted.run hthreshold moves hmoves hrun
  exact ⟨h.standing, h.degraded⟩

/-- Four collects of the account fail, and the fifth one finds resources. -/
def recovering : List CollectMove :=
  [.event failedCollect, .event (collectOf 0), .event failedCollect, .event failedCollect, .event (collectOf 100)]

def recoveredWorld : World := (run (collectStep 10) configuredWorld recovering).get (by decide +kernel)

theorem recovering_built (e : CollectEvent) (he : .event e ∈ recovering) : e.Built ∧ e.Mentions 10 := by
  have hcases : e = failedCollect ∨ e = collectOf 0 ∨ e = collectOf 100 := by
    simp only [recovering, List.mem_cons, CollectMove.event.injEq, List.not_mem_nil, or_false] at he
    tauto
  rcases hcases with rfl | rfl | rfl
  · exact ⟨by unfold CollectEvent.Built CollectEvent.Dictionaries failedCollect; decide,
      by unfold CollectEvent.Mentions; decide⟩
  · exact ⟨by unfold CollectEvent.Built CollectEvent.Dictionaries collectOf; decide,
      by unfold CollectEvent.Mentions; decide⟩
  · exact ⟨by unfold CollectEvent.Built CollectEvent.Dictionaries collectOf; decide,
      by unfold CollectEvent.Mentions; decide⟩

theorem runCollects_counts_recovering :
    recoveredWorld.standing 10 = some (.ok (.configured (.aws 2 "role") true true), 0) ∧
      recoveredWorld.published.countP (·.degrades 10) = 1 :=
  runCollects_counts configuredWorld_unique (by decide) rfl recovering_built (Option.some_get _).symm

end Fix
