import FixBackend.AccountSpecs
/-!
# AccountStates — the state machine of a cloud account

Every run of operations changes the state of a stored account along the edges of the documented diagram.  An account is
changed by commits only (`History`), and a commit writes a `Change` of the account that was read, so the edges are
checked on the ways of `Step`.
-/
namespace Fix

open Calendar Effects

/-! ## Operations and their runs -/

inductive Operation where
  | createAwsAccount (workspaceId : WorkspaceId) (accountId : CloudAccountId) (roleName : Option AwsRoleName)
      (externalId : ExternalId) (accountName : Option CloudAccountName)
  | createGcpAccount (workspaceId : WorkspaceId) (accountId : CloudAccountId) (keyId : GcpServiceAccountKeyId)
      (accountName : Option CloudAccountName)
  | createAzureAccount (workspaceId : WorkspaceId) (accountId : CloudAccountId)
      (subscriptionCredentialsId : AzureSubscriptionCredentialsId) (accountName : Option CloudAccountName)
  | configureAccount (account : CloudAccount) (calledFromEvent : Bool) (aws : AwsAnswers)
  | configureDiscoveredAccounts (aws : FixCloudAccountId → AwsAnswers)
  | cfStackEvent (accepts : Bool) (message : Option CfBody)
  | tenantAccountsCollected (tenantId : WorkspaceId)
      (cloudAccounts cloudAccountsFailed : List (FixCloudAccountId × CloudAccountCollectInfo))
        (nextRun : Option DateTime)
  | tenantAccountsCollectFailed (cloudAccounts : List (FixCloudAccountId × CloudAccountCollectInfo))
      (nextRun : Option DateTime)
  | updateCloudAccountEnabled (workspaceId : WorkspaceId) (cloudAccountId : FixCloudAccountId) (enabled : Bool)
  | updateCloudAccountScanEnabled (workspaceId : WorkspaceId) (cloudAccountId : FixCloudAccountId) (scan : Bool)
  | disableCloudAccount (workspaceId : WorkspaceId) (cloudAccountId : FixCloudAccountId)
  | deleteCloudAccount (userId : UserId) (cloudAccountId : FixCloudAccountId) (workspaceId : WorkspaceId)

def discarded {α : Type} (m : Service α) : Service PUnit := do
  let _ ← m

def Operation.call : Operation → Service PUnit
  | .createAwsAccount ws acc role ext name => discarded (Fix.createAwsAccount ws acc role ext name)
  | .createGcpAccount ws acc key name => discarded (Fix.createGcpAccount ws acc key name)
  | .createAzureAccount ws acc credentials name => discarded (Fix.createAzureAccount ws acc credentials name)
  | .configureAccount account fromEvent aws => discarded (Fix.configureAccount account fromEvent aws)
  | .configureDiscoveredAccounts aws => Fix.configureDiscoveredAccounts aws
  | .cfStackEvent accepts message => discarded (processCfStackEvent accepts message)
  | .tenantAccountsCollected tenantId accounts failed nextRun =>
    processTenantAccountsCollected tenantId accounts failed nextRun
  | .tenantAccountsCollectFailed accounts nextRun => processTenantAccountsCollectFailed accounts nextRun
  | .updateCloudAccountEnabled ws id enabled => discarded (Fix.updateCloudAccountEnabled ws id enabled)
  | .updateCloudAccountScanEnabled ws id scan => discarded (Fix.updateCloudAccountScanEnabled ws id scan)
  | .disableCloudAccount ws id => discarded (Fix.disableCloudAccount ws id)
  | .deleteCloudAccount user id ws => Fix.deleteCloudAccount user id ws

def Operation.run (op : Operation) (w : World) : World := (exec op.call w).2

def runAll (ops : List Operation) (w : World) : World := ops.foldl (fun w op => op.run w) w

def Operation.discovers : Operation → Prop
  | .createAwsAccount _ _ roleName _ _ => roleName ≠ none
  | .cfStackEvent _ (some body) => body.requestType ≠ some "Delete"
  | _ => False

/-! ## Histories of accounts -/

def Path : AccountRow → List (AccountRow × AccountRow) → AccountRow → Prop
  | r, [], r' => r = r'
  | r, c :: cs, r' => c.1 = r ∧ Path c.2 cs r'

theorem Path.append {r' r'' : AccountRow} {cs' : List (AccountRow × AccountRow)} (h' : Path r' cs' r'') :
    ∀ {cs : List (AccountRow × AccountRow)} {r : AccountRow}, Path r cs r' → Path r (cs ++ cs') r''
  | [], _, rfl => h'
  | _ :: _, _, h => ⟨h.1, Path.append h' h.2⟩

theorem Path.snoc {r r' : AccountRow} (next : AccountRow) {cs : List (AccountRow × AccountRow)} (h : Path r cs r') :
    Path r (cs ++ [(r', next)]) next := by
  have hnext : Path r' [(r', next)] next := ⟨rfl, rfl⟩
  exact Path.append hnext h

def ofAccount (id : FixCloudAccountId) (cs : List (AccountRow × AccountRow)) : List (AccountRow × AccountRow) :=
  cs.filter fun c => decide (c.1.id = id)

theorem ofAccount_append (id : FixCloudAccountId) (cs cs' : List (AccountRow × AccountRow)) :
    ofAccount id (cs ++ cs') = ofAccount id cs ++ ofAccount id cs' := List.filter_append cs cs'

theorem ofAccount_snoc_self (cs : List (AccountRow × AccountRow)) (row next : AccountRow) :
    ofAccount row.id (cs ++ [(row, next)]) = ofAccount row.id cs ++ [(row, next)] := by
  simp [ofAccount]

theorem ofAccount_snoc_of_ne (cs : List (AccountRow × AccountRow)) {id : FixCloudAccountId} {row : AccountRow}
    (next : AccountRow) (h : id ≠ row.id) : ofAccount id (cs ++ [(row, next)]) = ofAccount id cs := by
  simp [ofAccount, h.symm]

/-- Between the worlds `w₀` and `w` the accounts changed by the commits `new` alone, and each of them satisfies `C`. -/
structure History (C : AccountRow × AccountRow → Prop) (w₀ : World) (new : List (AccountRow × AccountRow))
    (w : World) : Prop where
  commits : w.commits = w₀.commits ++ new
  each : ∀ c ∈ new, C c
  stored : ∀ id r, w.accounts.find id = some r →
    ∃ r₀, Path r₀ (ofAccount id new) r ∧ ∀ x, w₀.accounts.find id = some x → x = r₀
  absent : ∀ id, w.accounts.find id = none → ofAccount id new = [] ∧ w₀.accounts.find id = none

theorem History.refl (C : AccountRow × AccountRow → Prop) (w : World) : History C w [] w where
  commits := (List.append_nil _).symm
  each := fun _ hc => absurd hc List.not_mem_nil
  stored := fun _ r hr => ⟨r, rfl, fun _ hx => Option.some_inj.1 (hx.symm.trans hr)⟩
  absent := fun _ hid => ⟨rfl, hid⟩

theorem History.imp {C C' : AccountRow × AccountRow → Prop} {w₀ w : World} {new : List (AccountRow × AccountRow)}
    (h : History C w₀ new w) (hC : ∀ c, C c → C' c) : History C' w₀ new w :=
  { h with each := fun c hc => hC c (h.each c hc) }

/-- A commit writes a change, of one of the kinds, of the account that its row reads as. -/
def Explained (K : StepKind → Prop) (c : AccountRow × AccountRow) : Prop :=
  ∃ a updated updatedAt k, c.1.toModel none = .ok a ∧ K k ∧ Change k a updated ∧ c.2 = c.1.written updated updatedAt

theorem History.insert {C : AccountRow × AccountRow → Prop} {w₀ w : World} {new : List (AccountRow × AccountRow)}
    (h : History C w₀ new w) (a : CloudAccount) (hnone : w.accounts.find (AccountRow.ofModel a).id = none) :
    History C w₀ new (w.insert (.ofModel a) hnone) := by
  refine ⟨h.commits, h.each, ?_, ?_⟩
  · intro id r hr
    simp only [World.insert] at hr
    by_cases hrow : id = (AccountRow.ofModel a).id
    · subst hrow
      rw [Table.find_insert_self] at hr
      cases hr
      obtain ⟨hnew, hstart⟩ := h.absent _ hnone
      refine ⟨AccountRow.ofModel a, ?_, fun x hx => by rw [hstart] at hx; cases hx⟩
      rw [hnew]
      rfl
    · rw [Table.find_insert_of_ne _ _ _ hrow] at hr
      exact h.stored id r hr
  · intro id hid
    simp only [World.insert] at hid
    by_cases hrow : id = (AccountRow.ofModel a).id
    · subst hrow
      rw [Table.find_insert_self] at hid
      cases hid
    · rw [Table.find_insert_of_ne _ _ _ hrow] at hid
      exact h.absent id hid

theorem History.commit {C : AccountRow × AccountRow → Prop} {w₀ w : World} {new : List (AccountRow × AccountRow)}
    {row next : AccountRow} (h : History C w₀ new w) (hfind : w.accounts.find row.id = some row)
    (hid : next.id = row.id) (hC : C (row, next)) : History C w₀ (new ++ [(row, next)]) (w.commit row next) := by
  refine ⟨?_, ?_, ?_, ?_⟩
  · simp only [World.commit, h.commits, List.append_assoc]
  · intro c hc
    rcases List.mem_append.1 hc with hc | hc
    · exact h.each c hc
    · rw [List.mem_singleton.1 hc]
      exact hC
  · intro id r hr
    simp only [World.commit] at hr
    by_cases hrow : id = row.id
    · subst hrow
      rw [← hid, Table.find_replace_self (hid ▸ hfind)] at hr
      obtain ⟨r₀, hpath, hstart⟩ := h.stored row.id row hfind
      cases hr
      refine ⟨r₀, ?_, hstart⟩
      rw [ofAccount_snoc_self]
      exact Path.snoc _ hpath
    · rw [Table.find_replace_of_ne _ (by rw [hid]; exact hrow)] at hr
      obtain ⟨r₀, hpath, hstart⟩ := h.stored id r hr
      rw [ofAccount_snoc_of_ne _ _ hrow]
      exact ⟨r₀, hpath, hstart⟩
  · intro id hnone
    simp only [World.commit] at hnone
    by_cases hrow : id = row.id
    · subst hrow
      rw [← hid, Table.find_replace_self (hid ▸ hfind)] at hnone
      cases hnone
    · rw [Table.find_replace_of_ne _ (by rw [hid]; exact hrow)] at hnone
      rw [ofAccount_snoc_of_ne _ _ hrow]
      exact h.absent id hnone

theorem framed_history (C : AccountRow × AccountRow → Prop) (w₀ : World) :
    Framed fun w => ∃ new, History C w₀ new w := by
  rintro w w' hacc hcom - - ⟨new, h⟩
  exact ⟨new, hcom ▸ h.commits, h.each, hacc ▸ h.stored, hacc ▸ h.absent⟩

theorem closed_history (K : StepKind → Prop) (w₀ : World) :
    Closed (fun w => ∃ new, History (Explained K) w₀ new w) K where
  framed := framed_history (Explained K) w₀
  commit := fun _ _ a updated updatedAt k ⟨_, h⟩ hfind hmodel hK hchange =>
    ⟨_, h.commit hfind rfl ⟨a, updated, updatedAt, k, hmodel, hK, hchange, rfl⟩⟩
  insert := fun _ a hnone ⟨new, h⟩ _ => ⟨new, h.insert a hnone⟩

/-! ## The edges of the diagram -/

/-- The changes of the state of a stored account. -/
def stateEdges : List (StateName × StateName) :=
  [(.detected, .discovered), (.discovered, .configured), (.discovered, .degraded), (.configured, .degraded),
    (.degraded, .configured), (.configured, .discovered), (.degraded, .discovered), (.detected, .deleted),
    (.discovered, .deleted), (.configured, .deleted), (.degraded, .deleted), (.deleted, .discovered)]

/-- From configured to degraded or back. -/
def degradeEdges : List (StateName × StateName) := [(.configured, .degraded), (.degraded, .configured)]

/-- A commit along the diagram; the settings are what the columns of the rows read as. -/
structure MovesRow (c : AccountRow × AccountRow) : Prop where
  edge : c.2.stateName = c.1.stateName ∨ (c.1.stateName, c.2.stateName) ∈ stateEdges
  settings : (c.1.stateName, c.2.stateName) ∈ degradeEdges →
    (∃ access, c.1.access = .ok access ∧ c.2.access = .ok access) ∧ c.2.enabled = c.1.enabled ∧ c.2.scan = c.1.scan

/-- A commit that leaves the detected and the deleted state for the deleted one only. -/
def RestsRow (c : AccountRow × AccountRow) : Prop :=
  c.1.stateName = .detected ∨ c.1.stateName = .deleted → c.2.stateName = c.1.stateName ∨ c.2.stateName = .deleted

theorem Step.edge {k : StepKind} {s s' : CloudAccountState} (h : Step k s s') :
    s'.stateName = s.stateName ∨ (s.stateName, s'.stateName) ∈ stateEdges := by
  cases h with
  | discovered s access enabled => cases s <;> simp [stateEdges]
  | degraded haccess error => cases s <;> simp_all [stateEdges]
  | switchedOff haccess hs => cases s <;> simp_all [stateEdges]
  | deleted s => cases s <;> simp [stateEdges]
  | _ => simp [stateEdges]

/-- **Between configured and degraded a step keeps the access and what is enabled.** -/
theorem Step.settings {k : StepKind} {s s' : CloudAccountState} (h : Step k s s')
    (hedge : (s.stateName, s'.stateName) ∈ degradeEdges) :
    s'.cloudAccess = s.cloudAccess ∧ s'.enabled = s.enabled ∧ s'.scan = s.scan := by
  cases h with
  | degraded haccess error => exact ⟨haccess.symm, rfl, rfl⟩
  | undegraded => simp
  | switchedOff haccess hs => cases s <;> simp_all [degradeEdges]
  | notDegraded => simp
  | notUndegraded => simp
  | named => simp
  | _ => simp [degradeEdges] at hedge

theorem Step.rests {k : StepKind} {s s' : CloudAccountState} (h : Step k s s') (hk : k ≠ .discovered)
    (hs : s.stateName = .detected ∨ s.stateName = .deleted) : s'.stateName = s.stateName ∨ s'.stateName = .deleted := by
  cases h with
  | discovered => exact absurd rfl hk
  | degraded haccess error => cases s <;> simp_all
  | switchedOff haccess hname => cases s <;> simp_all
  | deleted => exact Or.inr rfl
  | notDegraded => exact Or.inl rfl
  | notUndegraded => exact Or.inl rfl
  | named => exact Or.inl rfl
  | _ => simp at hs

theorem Explained.restsRow {c : AccountRow × AccountRow} (h : Explained (· ≠ .discovered) c) : RestsRow c := by
  obtain ⟨a, updated, updatedAt, k, hmodel, hk, hchange, hwritten⟩ := h
  have hname := AccountRow.accountState_ok (AccountRow.toModel_ok hmodel).1
  unfold RestsRow
  rw [hwritten, AccountRow.written_stateName, hname]
  exact hchange.step.rests hk

theorem Explained.movesRow {K : StepKind → Prop} {c : AccountRow × AccountRow} (h : Explained K c) : MovesRow c := by
  obtain ⟨a, updated, updatedAt, k, hmodel, -, hchange, hwritten⟩ := h
  obtain ⟨hstate, -, -, hcloud, -⟩ := AccountRow.toModel_ok hmodel
  have hname := AccountRow.accountState_ok hstate
  constructor
  · rw [hwritten, AccountRow.written_stateName, hname]
    exact hchange.step.edge
  · rw [hwritten, AccountRow.written_stateName, hname]
    intro hedge
    obtain ⟨haccess, henabled, hscan⟩ := hchange.step.settings hedge
    have hdeg : a.state.stateName = .configured ∨ a.state.stateName = .degraded := by
      simp only [degradeEdges, List.mem_cons, Prod.mk.injEq, List.not_mem_nil, or_false] at hedge
      exact hedge.imp And.left And.left
    obtain ⟨access, hsome, hrow, hrowEnabled, hrowScan⟩ := AccountRow.accountState_settings hstate hdeg
    refine ⟨⟨access, hrow, ?_⟩, ?_, ?_⟩
    · exact AccountRow.written_access (haccess.trans hsome)
        ((AccountRow.access_cloud hrow).trans (hcloud.symm.trans hchange.cloud.symm))
    · rw [AccountRow.written_enabled, henabled, hrowEnabled]
    · rw [AccountRow.written_scan, hscan, hrowScan]

/-! ## Operations and runs -/

variable {I : World → Prop} {K : StepKind → Prop}

theorem Closed.discarded {α : Type} {m : Service α} (hm : Keeps I m) : Keeps I (Fix.discarded m) :=
  Keeps.bind hm fun _ => Keeps.pure _

/-- **Every operation keeps a closed invariant**; only those that may call `create_aws_account` with a role name need
the discovery of an account. -/
theorem Closed.operation (hI : Closed I K) (hK : ∀ k, k ≠ .discovered → K k)
    (hinsert : ∀ w a (h : w.accounts.find (AccountRow.ofModel a).id = none), I w → I (w.insert (.ofModel a) h))
    (op : Operation) (hdis : op.discovers → K .discovered) : Keeps I op.call := by
  have hnamed := hK .named nofun
  have hdeg := hK .degraded nofun
  have hconf := hK .configured nofun
  have htolerant := hI.tolerant
  have hcreated : ∀ a, Keeps I (CloudAccountRepository.create a) := fun a =>
    CloudAccountRepository.triple_create (fun _ h => h) fun w hnone hw => hinsert w a hnone hw
  cases op with
  | createAwsAccount ws acc role ext name => exact discarded (htolerant.createAwsAccount hnamed hdis ws acc ext name)
  | createGcpAccount ws acc key name =>
    exact discarded (htolerant.createConfiguredAccount hcreated ws acc (.gcp key) name)
  | createAzureAccount ws acc credentials name =>
    exact discarded (htolerant.createConfiguredAccount hcreated ws acc (.azure credentials) name)
  | configureAccount account fromEvent aws =>
    exact discarded (htolerant.configureAccount hnamed hdeg hconf account fromEvent aws)
  | configureDiscoveredAccounts aws => exact htolerant.configureDiscoveredAccounts hnamed hdeg hconf aws
  | cfStackEvent accepts message =>
    refine discarded (htolerant.processCfStackEvent hI.answers hnamed hdeg accepts message fun body hbody hkind => ?_)
    subst hbody
    exact hdis hkind
  | tenantAccountsCollected tenantId accounts failed nextRun =>
    exact hI.processTenantAccountsCollected hnamed hdeg (hK .undegraded nofun) tenantId accounts failed nextRun
  | tenantAccountsCollectFailed accounts nextRun =>
    exact Keeps.forM _ fun item _ => htolerant.processCollected hnamed hdeg (hK .undegraded nofun) nextRun true item
  | updateCloudAccountEnabled ws id enabled =>
    exact discarded (htolerant.updateCloudAccountEnabled (hK (.enabled enabled) nofun) ws id)
  | updateCloudAccountScanEnabled ws id scan =>
    exact discarded (htolerant.updateCloudAccountScanEnabled (hK .scanSet nofun) ws id scan)
  | disableCloudAccount ws id => exact discarded (htolerant.disableCloudAccount (hK .disabled nofun) ws id)
  | deleteCloudAccount user id ws => exact htolerant.deleteCloudAccount (hK .deleted nofun) user id ws

theorem Operation.history (K : StepKind → Prop) (hK : ∀ k, k ≠ .discovered → K k) (op : Operation)
    (hdis : op.discovers → K .discovered) {w₀ w : World} (h : ∃ new, History (Explained K) w₀ new w) :
    ∃ new, History (Explained K) w₀ new (op.run w) :=
  ((closed_history K w₀).operation hK (fun _ a hnone ⟨new, h⟩ => ⟨new, h.insert a hnone⟩) op hdis).after h

/-- **The state machine of a cloud account**: over every run the accounts change by commits alone, each along an edge of
the diagram and between configured and degraded with the access and what is enabled, and no operation that does not
call `create_aws_account` with a role name takes an account out of the detected or the deleted state, other than by
deleting it. -/
theorem runAll_states (w : World) (ops : List Operation) :
    (∃ new, History MovesRow w new (runAll ops w)) ∧
      ∀ pre op post, ops = pre ++ op :: post → ¬ op.discovers →
        ∃ new, History RestsRow (runAll pre w) new (op.run (runAll pre w)) := by
  constructor
  · suffices h : ∀ (ops : List Operation) (w' : World), (∃ new, History (Explained fun _ => True) w new w') →
        ∃ new, History (Explained fun _ => True) w new (runAll ops w') by
      obtain ⟨new, hnew⟩ := h ops w ⟨[], History.refl _ w⟩
      exact ⟨new, hnew.imp fun c hc => hc.movesRow⟩
    intro ops
    induction ops with
    | nil => exact fun w' h => h
    | cons op ops ih => exact fun w' h => ih _ (op.history _ (fun _ _ => trivial) (fun _ => trivial) h)
  · intro pre op post _ hop
    obtain ⟨new, hnew⟩ := op.history (· ≠ .discovered) (fun _ h => h) (fun h => absurd h hop)
      ⟨[], History.refl _ (runAll pre w)⟩
    exact ⟨new, hnew.imp fun c hc => hc.restsRow⟩

end Fix
