import FixBackend.AccountService
/-!
# AccountSpecs — what every operation on cloud accounts keeps

A closure that an operation hands to `update` changes an account in one of the ways of `Step`, which says once what
can happen to a state.  An invariant is `Tolerant` of some kinds of change when it is kept by what the operations are
made of, as far as their closures are of these kinds; one lemma for each function of the service asks for the kinds it
needs.  Two sorts of invariant are tolerant: one that is `Closed` under the commits of these kinds, and one that is
`Aside`, about the notices and the answers to CloudFormation alone.
-/
namespace Fix

open Calendar Effects

/-! ## What a closure does to a state -/

/-- The kinds of change, by the closure they come from. -/
inductive StepKind where
  | named
  | discovered
  | degraded
  | undegraded
  | configured
  | enabled (value : Bool)
  | scanSet
  | disabled
  | deleted
deriving DecidableEq

open CloudAccountState in
inductive Step : StepKind → CloudAccountState → CloudAccountState → Prop where
  | named (s) : Step .named s s
  | discovered (s access enabled) : Step .discovered s (discovered access enabled)
  | degraded {s access} (h : s.cloudAccess = some access) (error) :
      Step .degraded s (degraded access s.enabled s.scan error)
  | notDegraded {s} (h : s.cloudAccess = none) : Step .degraded s s
  | undegraded (access enabled scan error) :
      Step .undegraded (degraded access enabled scan error) (configured access enabled scan)
  | switchedOff {s access} (h : s.cloudAccess = some access) (hs : s.stateName ≠ .degraded) :
      Step .undegraded s (configured access false false)
  | notUndegraded {s} (h : s.cloudAccess = none) : Step .undegraded s s
  | configured (stored access enabled) :
      Step .configured (discovered stored enabled) (configured access enabled enabled)
  | enabledConfigured (access enabled scan value) :
      Step (.enabled value) (configured access enabled scan) (configured access value scan)
  | enabledDegraded (access enabled scan error value) :
      Step (.enabled value) (degraded access enabled scan error) (degraded access value scan error)
  | scanConfigured (access enabled scan value) :
      Step .scanSet (configured access enabled scan) (configured access enabled value)
  | scanDegraded (access enabled scan error value) :
      Step .scanSet (degraded access enabled scan error) (degraded access enabled value error)
  | disabled (access enabled scan) : Step .disabled (configured access enabled scan) (configured access false false)
  | deleted (s) : Step .deleted s deleted

/-- A change of an account of one kind; its workspace and its cloud stay. -/
structure Change (k : StepKind) (a updated : CloudAccount) : Prop where
  workspaceId : updated.workspaceId = a.workspaceId
  cloud : updated.cloud = a.cloud
  step : Step k a.state updated.state

/-- The updates of a closure are changes of one kind. -/
def Within (k : StepKind) (f : DateTime → CloudAccount → Except Err CloudAccount) : Prop :=
  ∀ now a updated, f now a = .ok updated → Change k a updated

theorem within_renamed (name : Option CloudAccountName) (created : DateTime) :
    Within .named (renamed name created) := by
  rintro now a updated h
  cases h
  exact ⟨rfl, rfl, .named _⟩

theorem within_alias (name : Option CloudAccountAlias) :
    Within .named (fun _ a => .ok { a with accountAlias := name }) := by
  rintro now a updated h
  cases h
  exact ⟨rfl, rfl, .named _⟩

theorem within_recordScan (threshold : Int) (info : CloudAccountCollectInfo) (nextRun : Option DateTime)
    (failed : Bool) : Within .named (recordScan threshold info nextRun failed) := by
  rintro now a updated h
  cases h
  exact ⟨rfl, rfl, .named _⟩

theorem within_discoveredAgain (access : CloudAccess) (enabled : Bool) (name : Option CloudAccountName)
    (created : DateTime) : Within .discovered (discoveredAgain (.discovered access enabled) name created) := by
  rintro now a updated h
  cases h
  exact ⟨rfl, rfl, .discovered _ _ _⟩

theorem within_setDegraded (error : String) : Within .degraded (setDegraded error) := by
  rintro now a updated h
  cases h
  cases haccess : a.state.cloudAccess with
  | none => exact ⟨rfl, rfl, .notDegraded haccess⟩
  | some access => exact ⟨rfl, rfl, .degraded haccess error⟩

theorem within_setConfigured : Within .undegraded setConfigured := by
  rintro now a updated h
  cases h
  cases hstate : a.state with
  | detected => exact ⟨rfl, rfl, by simp only [hstate, CloudAccountState.cloudAccess]; exact .notUndegraded rfl⟩
  | discovered access enabled => exact ⟨rfl, rfl, by simp only [hstate]; exact .switchedOff rfl nofun⟩
  | configured access enabled scan => exact ⟨rfl, rfl, by simp only [hstate]; exact .switchedOff rfl nofun⟩
  | degraded access enabled scan error => exact ⟨rfl, rfl, by simp only [hstate]; exact .undegraded _ _ _ _⟩
  | deleted => exact ⟨rfl, rfl, by simp only [hstate, CloudAccountState.cloudAccess]; exact .notUndegraded rfl⟩

theorem within_updateToConfigured (access : CloudAccess) (privileged : Bool) :
    Within .configured (updateToConfigured access privileged) := by
  rintro now a updated h
  unfold updateToConfigured at h
  split at h
  · rename_i hstate
    cases h
    exact ⟨rfl, rfl, hstate ▸ .configured _ _ _⟩
  · cases h

theorem within_setEnabled (value : Bool) (workspace : Workspace) (count : Nat) :
    Within (.enabled value) (setEnabled value workspace count) := by
  rintro now a updated h
  unfold setEnabled at h
  split at h
  · rename_i hstate
    cases hv : validateTierRestrictions value workspace count now <;> rw [hv] at h <;> cases h
    exact ⟨rfl, rfl, hstate ▸ .enabledConfigured _ _ _ _⟩
  · rename_i hstate
    cases hv : validateTierRestrictions value workspace count now <;> rw [hv] at h <;> cases h
    exact ⟨rfl, rfl, hstate ▸ .enabledDegraded _ _ _ _ _⟩
  · cases h

theorem within_setScan (workspaceId : WorkspaceId) (value : Bool) (now : DateTime) (a updated : CloudAccount)
    (event : Option DomainEvent) (h : setScan workspaceId value now a = .ok (updated, event)) :
    Change .scanSet a updated := by
  unfold setScan at h
  split at h
  · rename_i hstate
    cases h
    exact ⟨rfl, rfl, hstate ▸ .scanConfigured _ _ _ _⟩
  · rename_i hstate
    cases h
    exact ⟨rfl, rfl, hstate ▸ .scanDegraded _ _ _ _ _⟩
  · cases h

theorem within_setDisabled : Within .disabled setDisabled := by
  rintro now a updated h
  unfold setDisabled at h
  split at h
  · rename_i hstate
    cases h
    exact ⟨rfl, rfl, hstate ▸ .disabled _ _ _⟩
  · cases h

theorem within_setDeleted : Within .deleted setDeleted := by
  rintro now a updated h
  cases h
  exact ⟨rfl, rfl, .deleted _⟩

/-! ## Invariants -/

variable {I : World → Prop} {K : StepKind → Prop}

structure Closed (I : World → Prop) (K : StepKind → Prop) : Prop where
  framed : Framed I
  commit : ∀ w row a updated updatedAt k, I w → w.accounts.find row.id = some row → row.toModel none = .ok a →
    K k → Change k a updated → I (w.commit row (row.written updated updatedAt))
  insert : ∀ w a (h : w.accounts.find (AccountRow.ofModel a).id = none), I w → a.state.stateName ≠ .configured →
    I (w.insert (.ofModel a) h)

/-- The invariant is kept by what the operations are made of: the clock, a new id, an event, a new account that is not
configured, and an update by a closure of one of the kinds. -/
structure Tolerant (I : World → Prop) (K : StepKind → Prop) : Prop where
  utc : Keeps I Fix.utc
  uuid4 : Keeps I Fix.uuid4
  publish : ∀ e, Keeps I (Fix.publish e)
  create : ∀ a : CloudAccount, a.state.stateName ≠ .configured → Keeps I (CloudAccountRepository.create a)
  updateWith : ∀ {β : Type} (id : FixCloudAccountId) {f : DateTime → CloudAccount → Except Err (CloudAccount × β)}
    {k : StepKind}, (∀ now a updated b, f now a = .ok (updated, b) → Change k a updated) → K k →
    Keeps I (CloudAccountRepository.updateWith id f)

theorem Closed.tolerant (hI : Closed I K) : Tolerant I K where
  utc := keeps_utc hI.framed
  uuid4 := keeps_uuid4 hI.framed
  publish := keeps_publish hI.framed
  create a ha := CloudAccountRepository.triple_create (fun _ h => h) fun w hnone hw => hI.insert w a hnone hw ha
  updateWith id f k hf hk := by
    refine CloudAccountRepository.triple_updateWith hI.framed (fun _ h => h) ?_
    intro w row a now updated b updatedAt hw hfind hmodel _ hok
    have hid : row.id = id := Table.key_of_find hfind
    exact hI.commit w row a updated updatedAt k hw (hid ▸ hfind) hmodel hk (hf now a updated b hok)

/-! ## Invariants of what is sent -/

/-- The invariant reads only the notices and what was answered to CloudFormation. -/
def Aside (I : World → Prop) : Prop :=
  ∀ w w' : World, w'.notices = w.notices → w'.cfResponses = w.cfResponses → w'.cfFailures = w.cfFailures → I w → I w'

namespace Aside

theorem utc (hI : Aside I) : Keeps I Fix.utc := Triple.modifyGet _ fun w hw => hI w _ rfl rfl rfl hw

theorem uuid4 (hI : Aside I) : Keeps I Fix.uuid4 := Triple.modifyGet _ fun w hw => hI w _ rfl rfl rfl hw

theorem publish (hI : Aside I) (e : DomainEvent) : Keeps I (Fix.publish e) :=
  Keeps.modify _ fun w hw => hI w _ rfl rfl rfl hw

theorem create (hI : Aside I) (a : CloudAccount) : Keeps I (CloudAccountRepository.create a) := by
  refine Keeps.bind (keeps_of_rests fun _ => rfl) fun _ => Keeps.bind ?_ fun _ => Keeps.lift _
  refine Triple.get_bind fun w hw => ?_
  split
  · exact Triple.throw _ fun w' hw' => hw' ▸ hw
  · split
    · exact Triple.of_exec fun w' hw' => hI w _ rfl rfl rfl hw
    · exact Triple.throw _ fun w' hw' => hw' ▸ hw

theorem commitAccount (hI : Aside I) (stored row : AccountRow) : Keeps I (Fix.commitAccount stored row) := by
  refine Triple.get_bind fun w hw => ?_
  split
  · exact Triple.throw _ fun w' hw' => hw' ▸ hw
  · exact Triple.of_exec fun w' _ => hI w _ rfl rfl rfl hw

theorem updateWith (hI : Aside I) {β : Type} (id : FixCloudAccountId)
    (f : DateTime → CloudAccount → Except Err (CloudAccount × β)) :
      Keeps I (CloudAccountRepository.updateWith id f) := by
  refine Keeps.bind Keeps.get fun w => ?_
  cases w.accounts.find id with
  | none => exact Keeps.throw _
  | some stored =>
    refine Keeps.bind (Keeps.lift _) fun account => Keeps.bind hI.utc fun now => Keeps.bind (Keeps.lift _) fun p => ?_
    dsimp only
    split
    · exact Keeps.pure _
    · refine Keeps.bind (keeps_of_rests fun _ => rfl) fun _ => Keeps.bind hI.utc fun _ => ?_
      exact Keeps.bind (hI.commitAccount _ _) fun _ => Keeps.bind (Keeps.lift _) fun _ => Keeps.pure _

theorem tolerant (hI : Aside I) : Tolerant I fun _ => True where
  utc := hI.utc
  uuid4 := hI.uuid4
  publish := hI.publish
  create a _ := hI.create a
  updateWith id f _ _ _ := hI.updateWith id f

end Aside

/-! ## What only reads -/

theorem keeps_get (id : FixCloudAccountId) : Keeps I (CloudAccountRepository.get id) :=
  keeps_of_rests (CloudAccountRepository.get_reads id)

theorem keeps_getByAccountId (workspaceId : WorkspaceId) (accountId : CloudAccountId) :
    Keeps I (CloudAccountRepository.getByAccountId workspaceId accountId) :=
  keeps_of_rests (CloudAccountRepository.getByAccountId_reads workspaceId accountId)

theorem keeps_findWorkspace (workspaceId : WorkspaceId) : Keeps I (findWorkspace workspaceId) :=
  keeps_of_rests fun _ => rfl

theorem keeps_withinAccountLimit (workspace : Workspace) (now : DateTime) :
    Keeps I (withinAccountLimit workspace now) := by
  unfold withinAccountLimit
  split
  · exact Keeps.pure _
  · exact Keeps.bind (keeps_of_rests fun _ => rfl) fun _ => Keeps.pure _

theorem keeps_shouldBeEnabled (hutc : Keeps I utc) (workspace : Workspace) : Keeps I (shouldBeEnabled workspace) :=
  Keeps.bind hutc fun now => Keeps.bind (keeps_withinAccountLimit workspace now) fun _ => Keeps.pure _

theorem keeps_createdAgain (hutc : Keeps I utc) (existing : CloudAccount) : Keeps I (createdAgain existing) := by
  unfold createdAgain
  split
  · exact hutc
  · exact Keeps.pure _

theorem keeps_getCloudAccount (id : FixCloudAccountId) (workspaceId : WorkspaceId) :
    Keeps I (getCloudAccount id workspaceId) := by
  refine Keeps.bind (keeps_get id) fun found => ?_
  cases found with
  | none => exact Keeps.throw _
  | some account =>
    dsimp only
    split
    · exact Keeps.throw _
    · exact Keeps.pure _

/-! ## What is left to the parts of an operation -/

theorem keeps_createConfiguredAccount (hutc : Keeps I utc) (huuid : Keeps I uuid4) (hpublish : ∀ e, Keeps I (publish e))
    (workspaceId : WorkspaceId) (accountId : CloudAccountId) (access : CloudAccess)
    (accountName : Option CloudAccountName)
    (hcreate : ∀ id enabled createdAt, Keeps I (CloudAccountRepository.create
      (newAccount id accountId workspaceId access.cloud (.configured access enabled enabled) accountName createdAt))) :
    Keeps I (createConfiguredAccount workspaceId accountId access accountName) := by
  refine Keeps.bind (keeps_findWorkspace workspaceId) fun found => ?_
  cases found with
  | none => exact Keeps.throw _
  | some workspace =>
    refine Keeps.bind (keeps_getByAccountId workspaceId accountId) fun found => ?_
    cases found with
    | some existing => exact Keeps.pure _
    | none =>
      refine Keeps.bind (keeps_shouldBeEnabled hutc workspace) fun enabled => ?_
      refine Keeps.bind hutc fun createdAt => Keeps.bind huuid fun id => ?_
      exact Keeps.bind (hcreate id enabled createdAt) fun _ => Keeps.bind (hpublish _) fun _ => Keeps.pure _

theorem keeps_exploreAccount (account : CloudAccount) (externalId : ExternalId) (aws : AwsAnswers)
    (hcreate : ∀ accountId name, Keeps I (createAwsAccount account.workspaceId accountId none externalId name))
    (halias : ∀ name : CloudAccountAlias, Keeps I
      (CloudAccountRepository.update account.id fun _ a => .ok { a with accountAlias := some name })) :
    Keeps I (exploreAccount account externalId aws) := by
  unfold exploreAccount
  cases aws.describeRegions with
  | some msg => exact Keeps.throw _
  | none =>
    dsimp only
    split
    · refine Keeps.bind (Keeps.forM _ fun item _ => ?_) fun _ => Keeps.pure _
      exact Keeps.bind (hcreate _ _) fun _ => Keeps.pure _
    · cases truthy aws.listAccountAliases with
      | none => exact Keeps.pure _
      | some name => exact Keeps.bind (halias name) fun _ => Keeps.pure _

theorem triple_finishConfigure {P : World → Prop} (hpublish : ∀ e, Keeps I (publish e)) (account : CloudAccount)
    (access : CloudAccess) (privileged : Bool)
    (hupdate : Triple P (CloudAccountRepository.update account.id (updateToConfigured access privileged))
      (fun _ => I) I) : Triple P (finishConfigure account access privileged) (fun _ => I) I := by
  refine Triple.tryCatch (Triple.bind hupdate fun updated => ?_) fun e => ?_
  · exact Keeps.bind (hpublish _) fun _ => Keeps.pure _
  · split
    · exact Keeps.pure _
    · exact Keeps.throw _

namespace Tolerant

theorem update (hI : Tolerant I K) (id : FixCloudAccountId) {f : DateTime → CloudAccount → Except Err CloudAccount}
    {k : StepKind} (hf : Within k f) (hk : K k) : Keeps I (CloudAccountRepository.update id f) := by
  refine Keeps.bind (hI.updateWith id (fun now a updated _ h => ?_) hk) fun _ => Keeps.pure _
  cases hok : f now a with
  | error e => rw [hok] at h; cases h
  | ok changed =>
    rw [hok] at h
    cases h
    exact hf now a _ hok

/-! ## Creating accounts -/

theorem renameAccount (hI : Tolerant I K) (hnamed : K .named) (workspaceId : WorkspaceId) (existing : CloudAccount)
    (name : Option CloudAccountName) (created : DateTime) :
    Keeps I (Fix.renameAccount workspaceId existing name created) := by
  refine Keeps.bind (hI.update _ (within_renamed _ _) hnamed) fun result => ?_
  split
  · exact Keeps.bind (hI.publish _) fun _ => Keeps.pure _
  · exact Keeps.pure _

theorem updateAwsAccount (hI : Tolerant I K) (hnamed : K .named) {roleName : Option AwsRoleName}
    (hdis : roleName ≠ none → K .discovered) (workspaceId : WorkspaceId) (existing : CloudAccount)
    (externalId : ExternalId) (accountName : Option CloudAccountName) (enabled : Bool) :
    Keeps I (Fix.updateAwsAccount workspaceId existing roleName externalId accountName enabled) := by
  refine Keeps.bind (keeps_createdAgain hI.utc existing) fun newCreatedAt => ?_
  cases roleName with
  | none => exact Keeps.bind (hI.renameAccount hnamed _ _ _ _) fun _ => Keeps.pure _
  | some role =>
    dsimp only
    split
    · exact Keeps.bind (hI.renameAccount hnamed _ _ _ _) fun _ => Keeps.pure _
    · exact Keeps.bind (hI.update _ (within_discoveredAgain _ _ _ _) (hdis nofun)) fun _ => Keeps.pure _

theorem storeAwsAccount (hI : Tolerant I K) (hnamed : K .named) {roleName : Option AwsRoleName}
    (hdis : roleName ≠ none → K .discovered) (workspaceId : WorkspaceId) (accountId : CloudAccountId)
    (externalId : ExternalId) (accountName : Option CloudAccountName) (enabled : Bool) :
    Keeps I (Fix.storeAwsAccount workspaceId accountId roleName externalId accountName enabled) := by
  refine Keeps.bind (keeps_getByAccountId workspaceId accountId) fun found => ?_
  cases found with
  | some existing => exact hI.updateAwsAccount hnamed hdis workspaceId existing _ _ _
  | none =>
    refine Keeps.bind hI.utc fun createdAt => Keeps.bind hI.uuid4 fun id => ?_
    refine Keeps.bind (hI.create _ ?_) fun _ => Keeps.pure _
    cases roleName <;> exact nofun

theorem createAwsAccount (hI : Tolerant I K) (hnamed : K .named) {roleName : Option AwsRoleName}
    (hdis : roleName ≠ none → K .discovered) (workspaceId : WorkspaceId) (accountId : CloudAccountId)
    (externalId : ExternalId) (accountName : Option CloudAccountName) :
    Keeps I (Fix.createAwsAccount workspaceId accountId roleName externalId accountName) := by
  refine Keeps.bind (keeps_findWorkspace workspaceId) fun found => ?_
  cases found with
  | none => exact Keeps.throw _
  | some workspace =>
    dsimp only
    split
    · exact Keeps.throw _
    · refine Keeps.bind (keeps_shouldBeEnabled hI.utc workspace) fun enabled => ?_
      refine Keeps.bind (hI.storeAwsAccount hnamed hdis _ _ _ _ _) fun p => ?_
      split
      · exact Keeps.bind (hI.publish _) fun _ => Keeps.pure _
      · exact Keeps.pure _

theorem createConfiguredAccount (hI : Tolerant I K) (hcreate : ∀ a, Keeps I (CloudAccountRepository.create a))
    (workspaceId : WorkspaceId) (accountId : CloudAccountId) (access : CloudAccess)
    (accountName : Option CloudAccountName) :
    Keeps I (Fix.createConfiguredAccount workspaceId accountId access accountName) :=
  keeps_createConfiguredAccount hI.utc hI.uuid4 hI.publish workspaceId accountId access accountName fun _ _ _ =>
    hcreate _

/-! ## Degrading and configuring -/

theorem degradeAccount (hI : Tolerant I K) (hdeg : K .degraded) (id : FixCloudAccountId)
    (error : String) (reason : DegradationReason) : Keeps I (Fix.degradeAccount id error reason) := by
  refine Keeps.bind (keeps_get id) fun found => ?_
  cases found with
  | none => exact Keeps.throw _
  | some account =>
    dsimp only
    split
    · exact Keeps.pure _
    · exact Keeps.bind (hI.update _ (within_setDegraded error) hdeg) fun _ =>
        Keeps.bind (hI.publish _) fun _ => Keeps.pure _

theorem undegradeAccount (hI : Tolerant I K) (hund : K .undegraded) (id : FixCloudAccountId) :
    Keeps I (Fix.undegradeAccount id) := by
  refine Keeps.bind (keeps_get id) fun found => ?_
  cases found with
  | none => exact Keeps.throw _
  | some account =>
    dsimp only
    split
    · exact Keeps.pure _
    · exact hI.update _ within_setConfigured hund

theorem exploreAccount (hI : Tolerant I K) (hnamed : K .named)
    (account : CloudAccount) (externalId : ExternalId) (aws : AwsAnswers) :
    Keeps I (Fix.exploreAccount account externalId aws) :=
  keeps_exploreAccount account externalId aws
    (fun _ _ => hI.createAwsAccount hnamed (fun h => absurd rfl h) _ _ _ _)
    fun name => hI.update _ (within_alias (some name)) hnamed

theorem triple_configureAccount (hI : Tolerant I K) (hdeg : K .degraded)
    (account : CloudAccount) (calledFromEvent : Bool) (aws : AwsAnswers) {P : World → Prop} (hPI : ∀ w, P w → I w)
    (hfinish : ∀ externalId role enabled, account.state = .discovered (.aws externalId role) enabled →
      aws.canAssumeRole = .success →
      Triple P (do
        let privileged ← Fix.exploreAccount account externalId aws
        finishConfigure account (.aws externalId role) privileged) (fun _ => I) I) :
    Triple P (Fix.configureAccount account calledFromEvent aws) (fun _ => I) I := by
  unfold Fix.configureAccount
  split
  · exact Triple.pure _ hPI
  · split
    · rename_i access enabled hstate
      split
      · rename_i externalId role
        split
        · refine Triple.imp (Keeps.bind hI.utc fun now => ?_) hPI (fun _ _ h => h) (fun _ h => h)
          dsimp only
          split
          · exact Keeps.bind (hI.degradeAccount hdeg _ _ _) fun _ => Keeps.pure _
          · split
            · exact Keeps.pure _
            · exact Keeps.throw _
        · rename_i hassume
          exact hfinish externalId role enabled hstate hassume
      · exact Triple.pure _ hPI
    · exact Triple.pure _ hPI

theorem configureAccount (hI : Tolerant I K) (hnamed : K .named) (hdeg : K .degraded) (hconf : K .configured)
    (account : CloudAccount) (calledFromEvent : Bool) (aws : AwsAnswers) :
    Keeps I (Fix.configureAccount account calledFromEvent aws) := by
  refine hI.triple_configureAccount hdeg account calledFromEvent aws (fun _ h => h) fun ext role enabled _ _ => ?_
  refine Keeps.bind (hI.exploreAccount hnamed account ext aws) fun privileged => ?_
  exact triple_finishConfigure hI.publish account _ privileged (hI.update _ (within_updateToConfigured _ _) hconf)

theorem configureDiscoveredAccounts (hI : Tolerant I K) (hnamed : K .named) (hdeg : K .degraded) (hconf : K .configured)
    (aws : FixCloudAccountId → AwsAnswers) : Keeps I (Fix.configureDiscoveredAccounts aws) := by
  refine Keeps.bind (keeps_of_rests CloudAccountRepository.listAllDiscoveredAccounts_reads)
    fun accounts => Keeps.forM _ fun account _ => Keeps.bind hI.utc fun now => ?_
  split
  · exact Keeps.bind (hI.degradeAccount hdeg _ _ _) fun _ => Keeps.pure _
  · refine Keeps.tryCatch ?_ fun _ => Keeps.pure _
    exact Keeps.bind (hI.configureAccount hnamed hdeg hconf account false (aws account.id)) fun _ => Keeps.pure _

theorem degradeStack (hI : Tolerant I K) (hdeg : K .degraded) (id : FixCloudAccountId)
    (roleName : AwsRoleName) (externalId : ExternalId) : Keeps I (Fix.degradeStack id roleName externalId) := by
  refine Keeps.bind (keeps_get id) fun found => ?_
  cases found with
  | none => exact Keeps.pure _
  | some account =>
    dsimp only
    split
    · exact Keeps.bind (hI.degradeAccount hdeg _ _ _) fun _ => Keeps.pure _
    · exact Keeps.pure _

/-! ## Collect events, toggles and deletion -/

theorem recordCollected (hI : Tolerant I K) (hnamed : K .named) (hdeg : K .degraded)
    (nextRun : Option DateTime) (failed : Bool) (item : FixCloudAccountId × CloudAccountCollectInfo) :
    Keeps I (Fix.recordCollected nextRun failed item) := by
  refine Keeps.bind Keeps.get fun w => Keeps.bind (hI.update _ (within_recordScan _ _ _ _) hnamed) fun updated => ?_
  split
  · exact Keeps.bind (hI.degradeAccount hdeg _ _ _) fun _ => Keeps.pure _
  · exact Keeps.pure _

theorem processCollected (hI : Tolerant I K) (hnamed : K .named) (hdeg : K .degraded) (hund : K .undegraded)
    (nextRun : Option DateTime) (failed : Bool) (item : FixCloudAccountId × CloudAccountCollectInfo) :
    Keeps I (Fix.processCollected nextRun failed item) := by
  refine Keeps.bind (hI.recordCollected hnamed hdeg nextRun failed item) fun updated => ?_
  split
  · exact Keeps.bind (hI.undegradeAccount hund _) fun _ => Keeps.pure _
  · exact Keeps.pure _

theorem updateCloudAccountEnabled (hI : Tolerant I K) {enabled : Bool} (henabled : K (.enabled enabled))
    (workspaceId : WorkspaceId) (id : FixCloudAccountId) :
    Keeps I (Fix.updateCloudAccountEnabled workspaceId id enabled) := by
  refine Keeps.bind (keeps_getCloudAccount id workspaceId) fun _ => ?_
  refine Keeps.bind (keeps_findWorkspace workspaceId) fun found => ?_
  cases found with
  | none => exact Keeps.throw _
  | some workspace =>
    refine Keeps.bind (keeps_of_rests fun _ => rfl) fun count => ?_
    refine Keeps.bind (hI.update _ (within_setEnabled enabled workspace count) henabled) fun _ => ?_
    exact Keeps.bind (hI.publish _) fun _ => Keeps.pure _

theorem updateCloudAccountScanEnabled (hI : Tolerant I K) (hscan : K .scanSet)
    (workspaceId : WorkspaceId) (id : FixCloudAccountId) (scan : Bool) :
    Keeps I (Fix.updateCloudAccountScanEnabled workspaceId id scan) := by
  refine Keeps.bind (keeps_getCloudAccount id workspaceId) fun _ => ?_
  refine Keeps.bind (hI.updateWith id (within_setScan workspaceId scan) hscan) fun p => ?_
  obtain ⟨result, event⟩ := p
  cases event with
  | none => exact Keeps.bind (Keeps.pure _) fun _ => Keeps.pure _
  | some e => exact Keeps.bind (hI.publish e) fun _ => Keeps.pure _

theorem disableCloudAccount (hI : Tolerant I K) (hdisabled : K .disabled) (workspaceId : WorkspaceId)
    (id : FixCloudAccountId) : Keeps I (Fix.disableCloudAccount workspaceId id) :=
  Keeps.bind (keeps_getCloudAccount id workspaceId) fun _ => hI.update _ within_setDisabled hdisabled

theorem deleteCloudAccount (hI : Tolerant I K) (hdeleted : K .deleted) (userId : UserId)
    (id : FixCloudAccountId) (workspaceId : WorkspaceId) : Keeps I (Fix.deleteCloudAccount userId id workspaceId) := by
  refine Keeps.bind (keeps_get id) fun found => ?_
  cases found with
  | none => exact Keeps.pure _
  | some account =>
    dsimp only
    split
    · exact Keeps.throw _
    · exact Keeps.bind (hI.update _ within_setDeleted hdeleted) fun _ => hI.publish _

/-! ## CloudFormation messages -/

section Answers

variable (hanswers : ∀ w responses failures, I w → I { w with cfResponses := responses, cfFailures := failures })
include hanswers

theorem markFailed : Keeps I Fix.markFailed := Keeps.modify _ fun w hw => hanswers w w.cfResponses _ hw

theorem sendResponse (accepts : Bool) (msg : CfBody) (id : Option PhysicalResourceId) (error : Option String) :
    Keeps I (Fix.sendResponse accepts msg id error) := by
  unfold Fix.sendResponse
  dsimp only
  split
  · exact markFailed hanswers
  · refine Keeps.bind (Keeps.modify _ fun w hw => hanswers w _ w.cfFailures hw) fun _ => ?_
    split
    · exact Keeps.pure _
    · exact Keeps.throw _

theorem handleStackCreated (hI : Tolerant I K) (hnamed : K .named)
    (hdis : K .discovered) (accepts : Bool) (msg : CfBody) : Keeps I (Fix.handleStackCreated accepts msg) := by
  unfold Fix.handleStackCreated
  dsimp only
  split
  · refine Keeps.bind (markFailed hanswers) fun _ => Keeps.bind hI.uuid4 fun _ => ?_
    exact Keeps.bind (sendResponse hanswers _ _ _ _) fun _ => Keeps.pure _
  · refine Keeps.bind (hI.createAwsAccount hnamed (fun _ => hdis) _ _ _ _) fun account => ?_
    exact Keeps.bind (sendResponse hanswers _ _ _ _) fun _ => Keeps.pure _

theorem handleStackDeleted (hI : Tolerant I K) (hdeg : K .degraded) (accepts : Bool)
    (msg : CfBody) : Keeps I (Fix.handleStackDeleted accepts msg) := by
  unfold Fix.handleStackDeleted
  dsimp only
  split
  · refine Keeps.bind (markFailed hanswers) fun _ => Keeps.bind hI.uuid4 fun _ => ?_
    exact Keeps.bind (sendResponse hanswers _ _ _ _) fun _ => Keeps.pure _
  · refine Keeps.bind (hI.degradeStack hdeg _ _ _) fun account => ?_
    exact Keeps.bind (sendResponse hanswers _ _ _ _) fun _ => Keeps.pure _

theorem processCfStackEvent (hI : Tolerant I K) (hnamed : K .named)
    (hdeg : K .degraded) (accepts : Bool) (message : Option CfBody)
    (hdis : ∀ body, message = some body → body.requestType ≠ some "Delete" → K .discovered) :
    Keeps I (Fix.processCfStackEvent accepts message) := by
  refine Keeps.tryCatch ?_ fun _ => Keeps.bind (markFailed hanswers) fun _ => Keeps.pure _
  cases message with
  | none => exact Keeps.throw _
  | some body =>
    dsimp only
    split
    · exact Keeps.throw _
    · rename_i hkind
      exact handleStackCreated hanswers hI hnamed (hdis body rfl (by rw [hkind]; decide)) accepts body
    · exact handleStackDeleted hanswers hI hdeg accepts body
    · rename_i hkind
      exact handleStackCreated hanswers hI hnamed (hdis body rfl (by rw [hkind]; decide)) accepts body
    · exact Keeps.bind (sendResponse hanswers _ _ _ _) fun _ => Keeps.pure _

end Answers

end Tolerant

namespace Closed

theorem answers (hI : Closed I K) (w : World) (responses : List CfResponse) (failures : Nat) (hw : I w) :
    I { w with cfResponses := responses, cfFailures := failures } :=
  hI.framed w _ rfl rfl rfl rfl hw

/-! ## Collect events -/

theorem notify (hI : Closed I K) (n : Notice) : Keeps I (Fix.notify n) :=
  Keeps.modify _ fun w hw => hI.framed w _ rfl rfl rfl rfl hw

theorem announceCollected (hI : Closed I K) (tenantId : WorkspaceId)
    (cloudAccounts cloudAccountsFailed : List (FixCloudAccountId × CloudAccountCollectInfo)) (nextRun : Option DateTime)
    (accounts : List CloudAccount) :
    Keeps I (Fix.announceCollected tenantId cloudAccounts cloudAccountsFailed nextRun accounts) := by
  refine Keeps.bind (hI.notify _) fun _ => ?_
  refine Keeps.bind (Keeps.forM _ fun n _ => hI.notify n) fun _ => ?_
  exact hI.notify _

theorem processTenantAccountsCollected (hI : Closed I K) (hnamed : K .named) (hdeg : K .degraded)
    (hund : K .undegraded) (tenantId : WorkspaceId)
    (cloudAccounts cloudAccountsFailed : List (FixCloudAccountId × CloudAccountCollectInfo))
    (nextRun : Option DateTime) :
    Keeps I (Fix.processTenantAccountsCollected tenantId cloudAccounts cloudAccountsFailed nextRun) := by
  refine Keeps.bind (keeps_of_rests (CloudAccountRepository.list_reads _)) fun accounts => ?_
  refine Keeps.bind (Keeps.forM _ fun item _ => hI.tolerant.processCollected hnamed hdeg hund nextRun false item)
    fun _ => ?_
  exact hI.announceCollected _ _ _ _ _

end Closed

end Fix
