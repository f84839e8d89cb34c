import FixBackend.AccountLimit
import FixBackend.AccountStandings
/-!
# FirstConfigurations — what a discovered account is configured with

A discovered account says whether it is to be enabled.  Configured directly it is enabled and scanned as it says; the
way through the degraded state forgets the scan (`firstConfigured_iff`).
-/
namespace Fix

open Calendar Effects Machine

/-! ## The steps of a path -/

def pathKind (k : StepKind) : Prop := k = .named ∨ k = .degraded ∨ k = .configured

/-- A commit of a change on the way: what comes back was degraded. -/
def OnTheWay (c : AccountRow × AccountRow) : Prop :=
  ∃ a updated updatedAt k, c.1.toModel none = .ok a ∧ Change k a updated ∧ c.2 = c.1.written updated updatedAt ∧
    (pathKind k ∨ k = .undegraded ∧ a.state.stateName = .degraded)

/-- No toggle of the user, no role that is deployed again and no deletion. -/
def Operation.onPath : Operation → Prop
  | .updateCloudAccountEnabled .. | .updateCloudAccountScanEnabled .. | .disableCloudAccount ..
  | .deleteCloudAccount .. => False
  | op => ¬ op.discovers

theorem closed_onTheWay (w₀ : World) : Closed (fun w => ∃ new, History OnTheWay w₀ new w) pathKind where
  framed := framed_history OnTheWay w₀
  commit := fun _ _ a updated updatedAt k ⟨_, h⟩ hfind hmodel hK hchange =>
    ⟨_, h.commit hfind rfl ⟨a, updated, updatedAt, k, hmodel, hchange, rfl, Or.inl hK⟩⟩
  insert := fun _ a hnone ⟨new, h⟩ _ => ⟨new, h.insert a hnone⟩

/-- **An account comes back from the degraded state only.** -/
theorem keeps_undegradeAccount {I : World → Prop} (hI : Framed I) (id : FixCloudAccountId)
    (hback : ∀ w row a now updated updatedAt, I w → w.accounts.find row.id = some row → row.toModel none = .ok a →
      a.state.stateName = .degraded → setConfigured now a = .ok updated →
        I (w.commit row (row.written updated updatedAt))) : Keeps I (undegradeAccount id) := by
  refine Triple.bind (keeps_get id).with_exec fun found => ?_
  cases found with
  | none => exact Triple.throw _ fun w hw => hw.1
  | some account =>
    dsimp only
    split
    · exact Triple.pure _ fun w hw => hw.1
    · rename_i hname
      -- the row is the one that was read as degraded
      let Read : World → Prop := fun w => ∀ row a, w.accounts.find id = some row → row.toModel none = .ok a →
        a.state.stateName = .degraded
      have hframed : Framed Read := by
        intro w w' hacc _ _ _ h row a
        rw [hacc]
        exact h row a
      have hupdate : Triple (fun w => I w ∧ Read w) (CloudAccountRepository.update id setConfigured)
          (fun _ => I) I := by
        refine CloudAccountRepository.triple_update (framed_and hI hframed) (fun w hw => hw.1) ?_
        intro w row a now updated updatedAt hw hfind hmodel _ hok
        have hid : row.id = id := Table.key_of_find hfind
        exact hback w row a now updated updatedAt hw.1 (hid ▸ hfind) hmodel (hw.2 row a hfind hmodel) hok
      refine Triple.imp hupdate ?_ (fun _ _ h => h) (fun _ h => h)
      rintro w' ⟨hw', w, -, hexec⟩
      refine ⟨hw', fun row a hfind hmodel => ?_⟩
      have hsame : w = w' := (CloudAccountRepository.get_reads id w).symm.trans (congrArg Prod.snd hexec)
      subst hsame
      rw [CloudAccountRepository.exec_get_stored hfind, AccountRow.toModel_nextScan hmodel] at hexec
      cases hexec
      exact not_not.1 hname

section Paths

variable {w₀ : World}

theorem onTheWay_undegradeAccount (id : FixCloudAccountId) :
    Keeps (fun w => ∃ new, History OnTheWay w₀ new w) (undegradeAccount id) := by
  refine keeps_undegradeAccount (framed_history OnTheWay w₀) id ?_
  rintro w row a now updated updatedAt ⟨new, h⟩ hfind hmodel hname hok
  exact ⟨_, h.commit hfind rfl ⟨a, updated, updatedAt, .undegraded, hmodel, within_setConfigured now a updated hok, rfl,
    Or.inr ⟨rfl, hname⟩⟩⟩

theorem onTheWay_processCollected (nextRun : Option DateTime) (failed : Bool)
    (item : FixCloudAccountId × CloudAccountCollectInfo) :
    Keeps (fun w => ∃ new, History OnTheWay w₀ new w) (processCollected nextRun failed item) := by
  have hclosed := closed_onTheWay w₀
  refine Keeps.bind (hclosed.tolerant.recordCollected (Or.inl rfl) (Or.inr (Or.inl rfl)) nextRun failed item)
    fun updated => ?_
  split
  · exact Keeps.bind (onTheWay_undegradeAccount updated.id) fun _ => Keeps.pure _
  · exact Keeps.pure _

theorem Operation.onTheWay {op : Operation} (hop : op.onPath) {w : World} :
    ∃ new, History OnTheWay w new (op.run w) := by
  have hclosed := closed_onTheWay w
  have htolerant := hclosed.tolerant
  have hcreated : ∀ a, Keeps (fun w' => ∃ new, History OnTheWay w new w') (CloudAccountRepository.create a) := fun a =>
    CloudAccountRepository.triple_create (fun _ h => h) fun _ hnone ⟨new, h⟩ => ⟨new, h.insert a hnone⟩
  have hnamed : pathKind .named := Or.inl rfl
  have hdeg : pathKind .degraded := Or.inr (Or.inl rfl)
  have hconf : pathKind .configured := Or.inr (Or.inr rfl)
  have hkeeps : Keeps (fun w' => ∃ new, History OnTheWay w new w') op.call := by
    cases op with
    | createAwsAccount ws acc role ext name =>
      exact Closed.discarded (htolerant.createAwsAccount hnamed (fun h => absurd h hop) ws acc ext name)
    | createGcpAccount ws acc key name =>
      exact Closed.discarded (htolerant.createConfiguredAccount hcreated ws acc (.gcp key) name)
    | createAzureAccount ws acc credentials name =>
      exact Closed.discarded (htolerant.createConfiguredAccount hcreated ws acc (.azure credentials) name)
    | configureAccount account fromEvent aws =>
      exact Closed.discarded (htolerant.configureAccount hnamed hdeg hconf account fromEvent aws)
    | configureDiscoveredAccounts aws => exact htolerant.configureDiscoveredAccounts hnamed hdeg hconf aws
    | cfStackEvent accepts message =>
      refine Closed.discarded
        (htolerant.processCfStackEvent hclosed.answers hnamed hdeg accepts message fun body hbody hkind => ?_)
      subst hbody
      exact absurd hkind hop
    | tenantAccountsCollected tenantId accounts failed nextRun =>
      refine Keeps.bind (triple_of_reads (CloudAccountRepository.list_reads _) fun _ h => h) fun accounts => ?_
      refine Keeps.bind (Keeps.forM _ fun item _ => onTheWay_processCollected nextRun false item) fun _ => ?_
      exact hclosed.announceCollected _ _ _ _ _
    | tenantAccountsCollectFailed accounts nextRun =>
      exact Keeps.forM _ fun item _ => onTheWay_processCollected nextRun true item
    | updateCloudAccountEnabled ws id enabled => exact hop.elim
    | updateCloudAccountScanEnabled ws id scan => exact hop.elim
    | disableCloudAccount ws id => exact hop.elim
    | deleteCloudAccount user id ws => exact hop.elim
  exact hkeeps.after ⟨[], History.refl OnTheWay w⟩

end Paths

/-! ## The states of a path -/

namespace CloudAccountState

/-- Discovered, or degraded from there: then it is not to be scanned. -/
inductive Waits (enabled : Bool) : Bool → CloudAccountState → Prop where
  | discovered (access : CloudAccess) : Waits enabled false (.discovered access enabled)
  | degraded (access : CloudAccess) (error : String) : Waits enabled true (.degraded access enabled false error)

end CloudAccountState

theorem Step.waits {k : StepKind} {s s' : CloudAccountState} {enabled degraded : Bool} (h : Step k s s')
    (hs : s.Waits enabled degraded) (hk : pathKind k ∨ k = .undegraded ∧ s.stateName = .degraded) :
    (s'.stateName ≠ .configured ∧ s'.Waits enabled (degraded || decide (s'.stateName = .degraded))) ∨
      ∃ access, s' = .configured access enabled (enabled && !degraded) := by
  cases hs with
  | discovered access =>
    cases h with
    | named => exact Or.inl ⟨nofun, .discovered access⟩
    | degraded haccess error => exact Or.inl ⟨nofun, .degraded _ error⟩
    | notDegraded => exact Or.inl ⟨nofun, .discovered access⟩
    | notUndegraded => exact Or.inl ⟨nofun, .discovered access⟩
    | configured stored => exact Or.inr ⟨_, by rw [Bool.not_false, Bool.and_true]⟩
    | switchedOff => rcases hk with (hk | hk | hk) | ⟨-, hk⟩ <;> cases hk
    | discovered => rcases hk with (hk | hk | hk) | ⟨hk, -⟩ <;> cases hk
    | deleted => rcases hk with (hk | hk | hk) | ⟨hk, -⟩ <;> cases hk
  | degraded access error =>
    cases h with
    | named => exact Or.inl ⟨nofun, .degraded access error⟩
    | degraded haccess error' => exact Or.inl ⟨nofun, .degraded _ error'⟩
    | notDegraded => exact Or.inl ⟨nofun, .degraded access error⟩
    | notUndegraded => exact Or.inl ⟨nofun, .degraded access error⟩
    | undegraded => exact Or.inr ⟨_, by rw [Bool.not_true, Bool.and_false]⟩
    | switchedOff haccess hname => exact absurd rfl hname
    | discovered => rcases hk with (hk | hk | hk) | ⟨hk, -⟩ <;> cases hk
    | deleted => rcases hk with (hk | hk | hk) | ⟨hk, -⟩ <;> cases hk
    | enabledDegraded => rcases hk with (hk | hk | hk) | ⟨hk, -⟩ <;> cases hk
    | scanDegraded => rcases hk with (hk | hk | hk) | ⟨hk, -⟩ <;> cases hk

def AccountRow.Waits (enabled degraded : Bool) (r : AccountRow) : Prop :=
  ∀ state, r.accountState = .ok state → state.Waits enabled degraded

def AccountRow.isDegraded (r : AccountRow) : Bool := decide (r.stateName = .degraded)

theorem OnTheWay.waits {c : AccountRow × AccountRow} {enabled degraded : Bool} (hc : OnTheWay c)
    (h : c.1.Waits enabled degraded) :
    (c.2.stateName ≠ .configured ∧ c.2.Waits enabled (degraded || c.2.isDegraded)) ∨
      c.2.stateName = .configured ∧ c.2.enabled = enabled ∧ c.2.scan = (enabled && !degraded) := by
  obtain ⟨a, updated, updatedAt, k, hmodel, hchange, hwritten, hk⟩ := hc
  have hname : c.2.stateName = updated.state.stateName := by rw [hwritten, AccountRow.written_stateName]
  unfold AccountRow.isDegraded
  rw [hname]
  rcases hchange.step.waits (h a.state (AccountRow.toModel_ok hmodel).1) hk with ⟨hnot, hwaits⟩ | ⟨access, hconfigured⟩
  · refine Or.inl ⟨hnot, fun state hstate => ?_⟩
    rw [hwritten] at hstate
    rw [AccountRow.accountState_written hstate]
    exact hwaits
  · rw [hwritten, AccountRow.written_enabled, AccountRow.written_scan, hconfigured]
    exact Or.inr ⟨rfl, rfl, rfl⟩

theorem Path.firstConfigured {enabled : Bool} {c : AccountRow × AccountRow} {after : List (AccountRow × AccountRow)}
    {r' : AccountRow} (hconfigured : c.2.stateName = .configured) :
    ∀ {before : List (AccountRow × AccountRow)} {r : AccountRow} {degraded : Bool}, r.Waits enabled degraded →
      Path r (before ++ c :: after) r' → (∀ b ∈ before ++ c :: after, OnTheWay b) →
        (∀ b ∈ before, b.2.stateName ≠ .configured) →
          c.2.enabled = enabled ∧ c.2.scan = (enabled && !(degraded || before.any (·.2.isDegraded)))
  | [], r, degraded, hr, hpath, hway, _ => by
    obtain ⟨rfl, -⟩ := hpath
    rcases (hway c List.mem_cons_self).waits hr with ⟨hnot, -⟩ | ⟨-, hsettings⟩
    · exact absurd hconfigured hnot
    · rw [List.any_nil, Bool.or_false]
      exact hsettings
  | b :: before, r, degraded, hr, hpath, hway, hnone => by
    obtain ⟨rfl, hpath⟩ := hpath
    rcases (hway b List.mem_cons_self).waits hr with ⟨-, hwaits⟩ | ⟨hb, -⟩
    · rw [List.any_cons, ← Bool.or_assoc]
      exact Path.firstConfigured hconfigured hwaits hpath (fun x hx => hway x (List.mem_cons_of_mem b hx))
        fun x hx => hnone x (List.mem_cons_of_mem b hx)
    · exact absurd hb (hnone b List.mem_cons_self)

/-! ## Runs -/

/-- An operation, or something that leaves the account alone. -/
inductive PathMove where
  | operation (op : Operation)
  | elsewhere (w : World)

def pathStep (id : FixCloudAccountId) (w : World) : PathMove → Option World
  | .operation op => some (op.run w)
  | .elsewhere w' =>
    if w'.accounts.find id = w.accounts.find id ∧ ofAccount id w'.commits = ofAccount id w.commits then some w'
    else none

/-- The commits `cs` of the account lead from the row `r₀` of the start to the stored one. -/
structure LedTo (id : FixCloudAccountId) (w₀ : World) (r₀ : AccountRow) (cs : List (AccountRow × AccountRow))
    (w : World) : Prop where
  commits : ofAccount id w.commits = ofAccount id w₀.commits ++ cs
  each : ∀ c ∈ cs, OnTheWay c
  stored : ∃ r, w.accounts.find id = some r ∧ Path r₀ cs r

section Runs

variable {id : FixCloudAccountId} {w₀ w w' : World} {r₀ : AccountRow}

theorem LedTo.operation {cs : List (AccountRow × AccountRow)} (h : LedTo id w₀ r₀ cs w) {op : Operation}
    (hop : op.onPath) : ∃ cs', LedTo id w₀ r₀ cs' (op.run w) := by
  obtain ⟨new, hnew⟩ := Operation.onTheWay hop (w := w)
  obtain ⟨r, hfind, hpath⟩ := h.stored
  refine ⟨cs ++ ofAccount id new, ?_, ?_, ?_⟩
  · rw [hnew.commits, ofAccount_append, h.commits, List.append_assoc]
  · intro c hc
    rcases List.mem_append.1 hc with hc | hc
    · exact h.each c hc
    · exact hnew.each c (List.mem_filter.1 hc).1
  · cases hafter : (op.run w).accounts.find id with
    | none =>
      rw [(hnew.absent id hafter).2] at hfind
      cases hfind
    | some r' =>
      obtain ⟨r₁, hpath', hstart⟩ := hnew.stored id r' hafter
      cases hstart r hfind
      exact ⟨r', rfl, Path.append hpath' hpath⟩

theorem LedTo.elsewhere {cs : List (AccountRow × AccountRow)} (h : LedTo id w₀ r₀ cs w)
    (hfind : w'.accounts.find id = w.accounts.find id) (hcommits : ofAccount id w'.commits = ofAccount id w.commits) :
    LedTo id w₀ r₀ cs w' :=
  ⟨hcommits.trans h.commits, h.each, by rw [hfind]; exact h.stored⟩

/-- **Every run on the path** leads from the row of the start to the stored one by commits on the way. -/
theorem LedTo.run {moves : List PathMove} (hfind : w₀.accounts.find id = some r₀)
    (hpath : ∀ op, .operation op ∈ moves → op.onPath) (hrun : run (pathStep id) w₀ moves = some w) :
    ∃ cs, LedTo id w₀ r₀ cs w := by
  let OnPath : PathMove → Prop := fun move => ∀ op, move = .operation op → op.onPath
  refine run_along (I := fun w => ∃ cs, LedTo id w₀ r₀ cs w) (C := fun _ move => OnPath move)
    ?_ ⟨[], (List.append_nil _).symm, fun c hc => absurd hc List.not_mem_nil, r₀, hfind, rfl⟩
    (along_of_forall (C := OnPath) (fun move hmove op hop => hpath op (hop ▸ hmove)) w₀) hrun
  rintro w move w' ⟨cs, h⟩ hmove hstep
  cases move with
  | operation op =>
    cases hstep
    exact h.operation (hmove op rfl)
  | elsewhere other =>
    unfold pathStep at hstep
    dsimp only at hstep
    split at hstep
    · rename_i hleft
      cases hstep
      exact ⟨cs, h.elsewhere hleft.1 hleft.2⟩
    · cases hstep

/-- **A discovered account is first configured as it says**, enabled and scanned with its flag, exactly when the flag is
off or no commit before degraded it. -/
theorem firstConfigured_iff {access : CloudAccess} {enabled : Bool} {moves : List PathMove}
    (hfind : w₀.accounts.find id = some r₀) (hstate : r₀.accountState = .ok (.discovered access enabled))
    (hpath : ∀ op, .operation op ∈ moves → op.onPath) (hrun : run (pathStep id) w₀ moves = some w) :
    ∃ cs r, ofAccount id w.commits = ofAccount id w₀.commits ++ cs ∧ w.accounts.find id = some r ∧ Path r₀ cs r ∧
      ∀ before c after, cs = before ++ c :: after → c.2.stateName = .configured →
        (∀ b ∈ before, b.2.stateName ≠ .configured) →
          ((c.2.enabled = enabled ∧ c.2.scan = enabled) ↔
            enabled = false ∨ ∀ b ∈ before, b.2.stateName ≠ .degraded) := by
  obtain ⟨cs, hled⟩ := LedTo.run hfind hpath hrun
  obtain ⟨r, hstored, hcs⟩ := hled.stored
  refine ⟨cs, r, hled.commits, hstored, hcs, fun before c after hsplit hconfigured hnone => ?_⟩
  subst hsplit
  have hwaits : r₀.Waits enabled false := by
    intro state hread
    rw [hstate] at hread
    cases hread
    exact .discovered access
  obtain ⟨henabled, hscan⟩ := Path.firstConfigured hconfigured hwaits hcs hled.each hnone
  have hdegraded : before.any (·.2.isDegraded) = false ↔ ∀ b ∈ before, b.2.stateName ≠ .degraded := by
    rw [List.any_eq_false]
    simp only [AccountRow.isDegraded, decide_eq_true_eq, ne_eq]
  rw [henabled, hscan, ← hdegraded]
  cases enabled <;> simp

end Runs

/-! ## Two paths -/

/-- An account that waits since yesterday. -/
def forgottenRow : AccountRow :=
  { AccountRow.ofModel (discoveredAccount 10 "111111111111" true) with
    stateUpdatedAt := ⟨⟨2024, 1, 1, valid_newYear⟩, 0, midnight_inDay⟩ }

def forgottenWorld : World := { freeWorld with accounts := ⟨[forgottenRow], by decide⟩ }

def configuredFirst : List PathMove :=
  [.operation (.configureAccount (discoveredAccount 10 "111111111111" true) true assumed)]

/-- The account is degraded after half an hour, and comes back with its first collect. -/
def degradedFirst : List PathMove :=
  [.operation (.configureDiscoveredAccounts fun _ => assumed),
    .operation (.tenantAccountsCollected 1
      [(10, ⟨"111111111111", 100, 60, ⟨⟨2024, 1, 2, valid_january2⟩, 0, midnight_inDay⟩, none, []⟩)] [] none)]

def configuredRun : World := (run (pathStep 10) forgottenWorld configuredFirst).get (by decide +kernel)

def degradedRun : World := (run (pathStep 10) forgottenWorld degradedFirst).get (by decide +kernel)

theorem configuredFirst_scanned : ∃ c, ofAccount 10 configuredRun.commits = [c] ∧ c.2.enabled = true ∧
    c.2.scan = true := by
  have hpath : ∀ op, .operation op ∈ configuredFirst → op.onPath := by
    intro op hop
    cases List.mem_singleton.1 hop
    exact fun h => h
  have hrun : run (pathStep 10) forgottenWorld configuredFirst = some configuredRun := (Option.some_get _).symm
  have hstate : forgottenRow.accountState = .ok (.discovered (.aws 2 "role") true) := by decide +kernel
  have hbefore : ofAccount 10 forgottenWorld.commits = [] := rfl
  obtain ⟨cs, r, hcommits, -, -, h⟩ := firstConfigured_iff (by decide +kernel) hstate hpath hrun
  obtain ⟨c, hone, hconfigured⟩ : ∃ c, ofAccount 10 configuredRun.commits = [c] ∧ c.2.stateName = .configured :=
    ⟨(ofAccount 10 configuredRun.commits).head (by decide +kernel), by decide +kernel, by decide +kernel⟩
  rw [hone, hbefore, List.nil_append] at hcommits
  have hfirst := h [] c [] hcommits.symm hconfigured fun b hb => absurd hb List.not_mem_nil
  exact ⟨c, hone, hfirst.2 (Or.inr fun b hb => absurd hb List.not_mem_nil)⟩

/-- The flag was on, and the account is configured without scans. -/
theorem degradedFirst_not_scanned :
    (∀ op, .operation op ∈ degradedFirst → op.onPath) ∧
      forgottenRow.accountState = .ok (.discovered (.aws 2 "role") true) ∧
      run (pathStep 10) forgottenWorld degradedFirst = some degradedRun ∧
      (ofAccount 10 degradedRun.commits).map (·.2.stateName) = [.degraded, .degraded, .configured] ∧
      (degradedRun.accounts.find 10).map (·.accountState) = some (.ok (.configured (.aws 2 "role") true false)) := by
  refine ⟨fun op hop => ?_, rfl, (Option.some_get _).symm, by decide +kernel, by decide +kernel⟩
  simp only [degradedFirst, List.mem_cons, PathMove.operation.injEq, List.not_mem_nil, or_false] at hop
  rcases hop with rfl | rfl <;> exact fun h => h

end Fix
