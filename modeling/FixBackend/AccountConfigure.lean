import FixBackend.AccountCalls
import FixBackend.AccountLimit
/-!
# AccountConfigure — configuring an account while others change it

Calls of `AccountCall` interleaved at their awaits.  `configure_account` works with the access of the account object it
was called with, and its last update only asks whether the stored account is discovered.  So long as no role is deployed
anew under a call that has assumed the old one, an account is configured with the access it was discovered with
(`runCalls_configures`); `redeployed_while_configuring` is a run that configures the role given up.
-/
namespace Fix

open Calendar Effects Machine

/-! ## What a call is doing -/

structure Updating where
  id : FixCloudAccountId
  f : DateTime → CloudAccount → Except Err CloudAccount
  phase : UpdatePhase
  kind : StepKind

def CreatePc.inProgress : CreatePc → Option Updating
  | .naming existing newName newCreatedAt p => some ⟨existing.id, renamed newName newCreatedAt, p, .named⟩
  | .redeploying existing access enabled newName newCreatedAt p =>
    some ⟨existing.id, discoveredAgain (.discovered access enabled) newName newCreatedAt, p, .discovered⟩
  | _ => none

def UpdatePc.inProgress (id : FixCloudAccountId) (f : DateTime → CloudAccount → Except Err CloudAccount)
    (kind : StepKind) : UpdatePc → Option Updating
  | .updating _ p => some ⟨id, f, p, kind⟩
  | _ => none

def ConfigurePc.inProgress (account : CloudAccount) : ConfigurePc → Option Updating
  | .degrading pc => pc.inProgress account.id (setDegraded "Cannot assume role") .degraded
  | .creating _ _ _ _ pc => pc.inProgress
  | .naming _ name p => some ⟨account.id, aliased name, p, .named⟩
  | .finishing access privileged p => some ⟨account.id, updateToConfigured access privileged, p, .configured⟩
  | _ => none

def AccountCall.inProgress : AccountCall → Option Updating
  | .create _ pc => pc.inProgress
  | .configure account _ pc => pc.inProgress account
  | .degrade id error _ pc => pc.inProgress id (setDegraded error) .degraded
  | .undegrade id pc => pc.inProgress id setConfigured .undegraded
  | .delete _ id _ pc => pc.inProgress id setDeleted .deleted

theorem CreatePc.inProgress_within {pc : CreatePc} {u : Updating} (h : pc.inProgress = some u) : Within u.kind u.f := by
  cases pc <;> cases h
  · exact within_renamed _ _
  · exact within_discoveredAgain _ _ _ _

theorem UpdatePc.inProgress_within {pc : UpdatePc} {id : FixCloudAccountId} {kind : StepKind} {u : Updating}
    {f : DateTime → CloudAccount → Except Err CloudAccount} (hf : Within kind f)
    (h : pc.inProgress id f kind = some u) : Within u.kind u.f := by
  cases pc <;> cases h
  exact hf

theorem AccountCall.inProgress_within {c : AccountCall} {u : Updating} (h : c.inProgress = some u) :
    Within u.kind u.f := by
  cases c with
  | create args pc => exact CreatePc.inProgress_within h
  | configure account calledFromEvent pc =>
    cases pc <;> try cases h
    · exact UpdatePc.inProgress_within (within_setDegraded _) h
    · exact CreatePc.inProgress_within h
    · exact within_alias _
    · exact within_updateToConfigured _ _
  | degrade id error reason pc => exact UpdatePc.inProgress_within (within_setDegraded _) h
  | undegrade id pc => exact UpdatePc.inProgress_within within_setConfigured h
  | delete userId id workspaceId pc => exact UpdatePc.inProgress_within within_setDeleted h

def CreatePc.inserts : CreatePc → Option CloudAccount
  | .inserting account _ => some account
  | _ => none

def AccountCall.inserts : AccountCall → Option CloudAccount
  | .create _ pc => pc.inserts
  | .configure _ _ (.creating _ _ _ _ pc) => pc.inserts
  | _ => none

def AccountCall.holds : AccountCall → Option (FixCloudAccountId × CloudAccess)
  | .configure account _ (.describing access _) => some (account.id, access)
  | .configure account _ (.listing access _) => some (account.id, access)
  | .configure account _ (.creating access _ _ _ _) => some (account.id, access)
  | .configure account _ (.aliasing access) => some (account.id, access)
  | .configure account _ (.naming access _ _) => some (account.id, access)
  | .configure account _ (.finishing access _ _) => some (account.id, access)
  | _ => none

def AccountCall.assumes (aws : AwsAnswers) : AccountCall → Option (FixCloudAccountId × CloudAccess)
  | .configure account _ (.assuming externalId roleName) =>
    if aws.canAssumeRole = .success then some (account.id, .aws externalId roleName) else none
  | _ => none

/-- The account that is about to be taken out of the degraded state. -/
def AccountCall.restores : AccountCall → Option FixCloudAccountId
  | .undegrade id (.updating _ _) => some id
  | _ => none

/-! ## What a step does to the update in progress -/

def UpdateMoves (before after : Option Updating) (w w' : World) : Prop :=
  ∃ u p', before = some u ∧ updateStep u.id u.f w u.phase = some (p', w') ∧
    ∀ u', after = some u' → u' = { u with phase := p' } ∨ u'.phase = .idle

/-- A step that leaves the accounts alone and may begin an update. -/
def Rests (after : Option Updating) (w w' : World) : Prop :=
  w'.accounts = w.accounts ∧ ∀ u', after = some u' → u'.phase = .idle

theorem awaits_cases {α π : Type} {m : Service α} {raised : Err → π} {next : α → π} {w w' : World} {q : π}
    {P E : World → Prop} {Q : α → World → Prop} (hm : Triple P m Q E) (hw : P w)
    (h : awaits m raised next w = (q, w')) : (∃ a, q = next a ∧ Q a w') ∨ ∃ e, q = raised e ∧ E w' := by
  obtain ⟨hok, herr⟩ := hm w hw
  unfold awaits at h
  rcases hr : exec m w with ⟨e | a, w₁⟩ <;> rw [hr] at h <;> cases h
  · exact .inr ⟨e, rfl, herr e w' hr⟩
  · exact .inl ⟨a, rfl, hok a w' hr⟩

theorem updates_cases {π : Type} {id : FixCloudAccountId} {f : DateTime → CloudAccount → Except Err CloudAccount}
    {p : UpdatePhase} {updating : UpdatePhase → π} {raised : Err → π} {next : CloudAccount → π} {w w' : World} {q : π}
    (h : updates id f p updating raised next w = some (q, w')) :
    ∃ p', updateStep id f w p = some (p', w') ∧ (q = updating p' ∨ (∃ a, q = next a) ∨ ∃ e, q = raised e) := by
  obtain ⟨⟨p', w₁⟩, hstep, hq⟩ := Option.map_eq_some_iff.1 h
  cases p' <;> cases hq
  case returned a => exact ⟨_, hstep, .inr (.inl ⟨a, rfl⟩)⟩
  case raised e => exact ⟨_, hstep, .inr (.inr ⟨e, rfl⟩)⟩
  all_goals exact ⟨_, hstep, .inl rfl⟩

theorem framed_accounts (A : Table AccountRow.id) : Framed fun w => w.accounts = A :=
  fun _ _ haccounts _ _ _ h => haccounts.trans h

theorem idle_of_none {o : Option Updating} (h : o = none) (u : Updating) (hu : o = some u) : u.phase = .idle := by
  rw [h] at hu
  cases hu

theorem updateExisting_inProgress {args : CreateArgs} {enabled : Bool} {existing : CloudAccount} {created : DateTime}
    {u : Updating} (h : (updateExisting args enabled existing created).inProgress = some u) : u.phase = .idle := by
  unfold updateExisting at h
  cases hrole : args.roleName with
  | none =>
    rw [hrole] at h
    cases h
    rfl
  | some roleName =>
    rw [hrole] at h
    dsimp only at h
    split at h <;> cases h <;> rfl

theorem triple_existingOrNew (args : CreateArgs) (enabled : Bool) (A : Table AccountRow.id) :
    Triple (fun w => w.accounts = A) (existingOrNew args enabled)
      (fun pc w => w.accounts = A ∧ ∀ u, pc.inProgress = some u → u.phase = .idle) (fun w => w.accounts = A) := by
  have hA := framed_accounts A
  refine Triple.bind (keeps_getByAccountId _ _) fun found => ?_
  cases found with
  | none =>
    refine Triple.bind (keeps_utc hA) fun createdAt => Triple.bind (keeps_uuid4 hA) fun id => ?_
    exact Triple.pure _ fun w hw => ⟨hw, idle_of_none rfl⟩
  | some existing =>
    refine Triple.bind (keeps_createdAgain (keeps_utc hA) existing) fun created => ?_
    exact Triple.pure _ fun w hw => ⟨hw, fun u => updateExisting_inProgress⟩

def Inserts (account : Option CloudAccount) (after : Option Updating) (w w' : World) : Prop :=
  ∃ a, ∃ hnone : w.accounts.find (AccountRow.ofModel a).id = none,
    account = some a ∧ w' = w.insert (.ofModel a) hnone ∧ ∀ u, after = some u → u.phase = .idle

theorem moves_inner {before after after' : Option Updating} {account : Option CloudAccount} {w w' : World}
    (h : UpdateMoves before after w w' ∨ Rests after w w' ∨ Inserts account after w w')
    (hidle : ∀ u, after' = some u → u.phase = .idle) :
    UpdateMoves before after' w w' ∨ Rests after' w w' ∨ Inserts account after' w w' := by
  rcases h with ⟨u, p', hbefore, hstep, -⟩ | ⟨hw, -⟩ | ⟨a, hnone, ha, hw, -⟩
  · exact .inl ⟨u, p', hbefore, hstep, fun u' hu' => .inr (hidle u' hu')⟩
  · exact .inr (.inl ⟨hw, hidle⟩)
  · exact .inr (.inr ⟨a, hnone, ha, hw, hidle⟩)

theorem rests_of_awaits {α π : Type} (inProgress : π → Option Updating) {m : Service α} {raised : Err → π}
    {next : α → π} {w w' : World} {q : π} (hm : ∀ A, Keeps (fun w => w.accounts = A) m)
    (hnext : ∀ a u, inProgress (next a) = some u → u.phase = .idle) (hraised : ∀ e, inProgress (raised e) = none)
    (h : awaits m raised next w = (q, w')) : Rests (inProgress q) w w' := by
  rcases awaits_cases (hm w.accounts) rfl h with ⟨a, rfl, hw'⟩ | ⟨e, rfl, hw'⟩
  · exact ⟨hw', hnext a⟩
  · exact ⟨hw', idle_of_none (hraised e)⟩

theorem announced_inProgress (args : CreateArgs) (result : CloudAccount) :
    (announced args result).inProgress = none := by
  unfold announced
  split <;> rfl

theorem nameChanged_inProgress (args : CreateArgs) (existing result : CloudAccount) :
    (nameChanged args existing result).inProgress = none := by
  unfold nameChanged
  split <;> rfl

theorem moves_of_updates {π : Type} {u : Updating} {updating : UpdatePhase → π} {raised : Err → π}
    {next : CloudAccount → π} {w w' : World} {q : π} {inProgress : π → Option Updating}
    (hupdating : ∀ p, inProgress (updating p) = some { u with phase := p })
    (hnext : ∀ a u', inProgress (next a) = some u' → u'.phase = .idle) (hraised : ∀ e, inProgress (raised e) = none)
    (h : updates u.id u.f u.phase updating raised next w = some (q, w')) :
    UpdateMoves (some u) (inProgress q) w w' := by
  obtain ⟨p', hstep, hq⟩ := updates_cases h
  refine ⟨u, p', rfl, hstep, fun u' hu' => ?_⟩
  rcases hq with rfl | ⟨a, rfl⟩ | ⟨e, rfl⟩
  · rw [hupdating] at hu'
    cases hu'
    exact .inl rfl
  · exact .inr (hnext a u' hu')
  · rw [hraised] at hu'
    cases hu'

theorem createStep_moves {args : CreateArgs} {w w' : World} {pc pc' : CreatePc}
    (h : createStep args w pc = some (pc', w')) :
    UpdateMoves pc.inProgress pc'.inProgress w w' ∨ Rests pc'.inProgress w w' ∨
      Inserts pc.inserts pc'.inProgress w w' := by
  cases pc with
  | start =>
    right; left
    refine rests_of_awaits _ (fun A => keeps_findWorkspace _) (fun found u hu => ?_) (fun _ => rfl) (Option.some.inj h)
    cases found with
    | none => cases hu
    | some workspace =>
      dsimp only at hu
      split at hu <;> cases hu
  | enabling workspace =>
    right; left
    exact rests_of_awaits _ (fun A => keeps_shouldBeEnabled (keeps_utc (framed_accounts A)) _)
      (fun _ => idle_of_none rfl)
      (fun _ => rfl) (Option.some.inj h)
  | loading enabled =>
    right; left
    rcases awaits_cases (triple_existingOrNew args enabled w.accounts) rfl (Option.some.inj h) with
      ⟨pc, rfl, hw', hpc⟩ | ⟨e, rfl, hw'⟩
    · exact ⟨hw', hpc⟩
    · exact ⟨hw', idle_of_none rfl⟩
  | naming existing newName newCreatedAt p =>
    left
    exact moves_of_updates (u := ⟨existing.id, renamed newName newCreatedAt, p, .named⟩) (fun _ => rfl)
      (fun _ => idle_of_none (nameChanged_inProgress _ _ _)) (fun _ => rfl) h
  | redeploying existing access enabled newName newCreatedAt p =>
    left
    exact moves_of_updates
      (u := ⟨existing.id, discoveredAgain (.discovered access enabled) newName newCreatedAt, p, .discovered⟩)
      (fun _ => rfl) (fun _ => idle_of_none (announced_inProgress _ _)) (fun _ => rfl) h
  | creating account =>
    right; left
    exact rests_of_awaits _ (fun A => triple_of_reads (fun _ => rfl) fun _ hw => hw) (fun _ => idle_of_none rfl)
      (fun _ => rfl) (Option.some.inj h)
  | inserting account nextScan =>
    right
    have h := Option.some.inj h
    unfold awaits insertAccount at h
    simp only [exec_bind, exec_get] at h
    cases hrefusal : w.refusal none (.ofModel account) with
    | some e =>
      rw [hrefusal] at h
      cases h
      exact .inl ⟨rfl, idle_of_none rfl⟩
    | none =>
      rw [hrefusal] at h
      dsimp only at h
      by_cases hnone : w.accounts.find (AccountRow.ofModel account).id = none
      · rw [dif_pos hnone] at h
        cases h
        exact .inr ⟨account, hnone, rfl, rfl, idle_of_none rfl⟩
      · rw [dif_neg hnone] at h
        cases h
        exact .inl ⟨rfl, idle_of_none rfl⟩
  | refreshing account nextScan =>
    right; left
    have h := Option.some.inj h
    split at h
    · cases h
      exact ⟨rfl, idle_of_none rfl⟩
    · exact rests_of_awaits _ (fun A => Keeps.lift _) (fun _ => idle_of_none (announced_inProgress _ _))
        (fun _ => rfl) h
  | publishing e =>
    right; left
    exact rests_of_awaits _ (fun A => keeps_publish (framed_accounts A) _) (fun _ => idle_of_none rfl) (fun _ => rfl)
      (Option.some.inj h)
  | ended => cases h
  | raised e => cases h

theorem degradeStep_moves {id : FixCloudAccountId} {error : String} {reason : DegradationReason} {w w' : World}
    {pc pc' : UpdatePc} (h : degradeStep id error reason w pc = some (pc', w')) :
    UpdateMoves (pc.inProgress id (setDegraded error) .degraded) (pc'.inProgress id (setDegraded error) .degraded) w
        w' ∨ Rests (pc'.inProgress id (setDegraded error) .degraded) w w' := by
  cases pc with
  | start =>
    right
    refine rests_of_awaits (UpdatePc.inProgress id (setDegraded error) .degraded)
      (fun A => keeps_get _) (fun found u hu => ?_) (fun _ => rfl) (Option.some.inj h)
    cases found with
    | none => cases hu
    | some account =>
      dsimp only at hu
      split at hu <;> cases hu
      rfl
  | updating account p =>
    left
    exact moves_of_updates (u := ⟨id, setDegraded error, p, .degraded⟩) (fun _ => rfl) (fun _ => idle_of_none rfl)
      (fun _ => rfl) h
  | publishing e =>
    right
    exact rests_of_awaits _ (fun A => keeps_publish (framed_accounts A) _) (fun _ => idle_of_none rfl) (fun _ => rfl)
      (Option.some.inj h)
  | ended => cases h
  | raised e => cases h

theorem undegradeStep_moves {id : FixCloudAccountId} {w w' : World} {pc pc' : UpdatePc}
    (h : undegradeStep id w pc = some (pc', w')) :
    UpdateMoves (pc.inProgress id setConfigured .undegraded) (pc'.inProgress id setConfigured .undegraded) w w' ∨
      Rests (pc'.inProgress id setConfigured .undegraded) w w' := by
  cases pc with
  | start =>
    right
    refine rests_of_awaits (UpdatePc.inProgress id setConfigured .undegraded)
      (fun A => keeps_get _) (fun found u hu => ?_) (fun _ => rfl) (Option.some.inj h)
    cases found with
    | none => cases hu
    | some account =>
      dsimp only at hu
      split at hu <;> cases hu
      rfl
  | updating account p =>
    left
    exact moves_of_updates (u := ⟨id, setConfigured, p, .undegraded⟩) (fun _ => rfl) (fun _ => idle_of_none rfl)
      (fun _ => rfl) h
  | publishing e => cases h
  | ended => cases h
  | raised e => cases h

theorem deleteStep_moves {userId : UserId} {id : FixCloudAccountId} {workspaceId : WorkspaceId} {w w' : World}
    {pc pc' : UpdatePc} (h : deleteStep userId id workspaceId w pc = some (pc', w')) :
    UpdateMoves (pc.inProgress id setDeleted .deleted) (pc'.inProgress id setDeleted .deleted) w w' ∨
      Rests (pc'.inProgress id setDeleted .deleted) w w' := by
  cases pc with
  | start =>
    right
    refine rests_of_awaits (UpdatePc.inProgress id setDeleted .deleted)
      (fun A => keeps_get _) (fun found u hu => ?_) (fun _ => rfl) (Option.some.inj h)
    cases found with
    | none => cases hu
    | some account =>
      dsimp only at hu
      split at hu <;> cases hu
      rfl
  | updating account p =>
    left
    exact moves_of_updates (u := ⟨id, setDeleted, p, .deleted⟩) (fun _ => rfl) (fun _ => idle_of_none rfl)
      (fun _ => rfl) h
  | publishing e =>
    right
    exact rests_of_awaits _ (fun A => keeps_publish (framed_accounts A) _) (fun _ => idle_of_none rfl) (fun _ => rfl)
      (Option.some.inj h)
  | ended => cases h
  | raised e => cases h

theorem checkConfigurable_inProgress (account : CloudAccount) :
    (checkConfigurable account).inProgress account = none := by
  unfold checkConfigurable
  split <;> [rfl; skip]
  split <;> rfl

theorem cannotAssume_inProgress (account : CloudAccount) (calledFromEvent : Bool) (reason : String) (now : DateTime) :
    (cannotAssume account calledFromEvent reason now).inProgress account = none := by
  unfold cannotAssume
  dsimp only
  split <;> [rfl; skip]
  split <;> rfl

theorem nextAccount_inProgress (account : CloudAccount) (access : CloudAccess) (externalId : ExternalId)
    (rest : List (CloudAccountId × CloudAccountName)) (u : Updating)
    (h : (nextAccount account access externalId rest).inProgress account = some u) : u.phase = .idle := by
  cases rest <;> cases h
  rfl

theorem configureStep_moves {account : CloudAccount} {calledFromEvent : Bool} {aws : AwsAnswers} {w w' : World}
    {pc pc' : ConfigurePc} (h : configureStep account calledFromEvent aws w pc = some (pc', w')) :
    UpdateMoves (pc.inProgress account) (pc'.inProgress account) w w' ∨ Rests (pc'.inProgress account) w w' ∨
      Inserts (AccountCall.configure account calledFromEvent pc).inserts (pc'.inProgress account) w w' := by
  cases pc with
  | start =>
    cases h
    exact .inr (.inl ⟨rfl, idle_of_none (checkConfigurable_inProgress account)⟩)
  | assuming externalId roleName =>
    right; left
    simp only [configureStep] at h
    split at h
    · exact rests_of_awaits (ConfigurePc.inProgress account)
        (fun A => keeps_utc (framed_accounts A)) (fun _ => idle_of_none (cannotAssume_inProgress _ _ _ _))
        (fun _ => rfl) (Option.some.inj h)
    · cases h
      exact ⟨rfl, idle_of_none rfl⟩
  | degrading pc =>
    obtain ⟨⟨pc₁, w₁⟩, hstep, hpc'⟩ := Option.map_eq_some_iff.1 h
    have hmoves := degradeStep_moves hstep
    cases pc₁ <;> cases hpc' <;> exact hmoves.imp_right .inl
  | describing access externalId =>
    right; left
    simp only [configureStep] at h
    split at h <;> cases h <;> exact ⟨rfl, idle_of_none rfl⟩
  | listing access externalId =>
    right; left
    simp only [configureStep] at h
    split at h <;> cases h
    · exact ⟨rfl, idle_of_none rfl⟩
    · exact ⟨rfl, nextAccount_inProgress _ _ _ _⟩
  | creating access externalId rest args pc =>
    obtain ⟨⟨pc₁, w₁⟩, hstep, hpc'⟩ := Option.map_eq_some_iff.1 h
    have hmoves := createStep_moves hstep
    cases pc₁ <;> cases hpc'
    case creating.ended.refl => exact moves_inner hmoves (nextAccount_inProgress _ _ _ _)
    all_goals exact hmoves
  | aliasing access =>
    right; left
    simp only [configureStep] at h
    split at h <;> cases h <;> exact ⟨rfl, fun u hu => by cases hu; rfl⟩
  | naming access name p =>
    left
    exact moves_of_updates (u := ⟨account.id, aliased name, p, .named⟩) (fun _ => rfl)
      (fun _ u hu => by cases hu; rfl) (fun _ => rfl) h
  | finishing access privileged p =>
    left
    refine moves_of_updates (u := ⟨account.id, updateToConfigured access privileged, p, .configured⟩) (fun _ => rfl)
      (fun _ => idle_of_none rfl) (fun e => ?_) h
    cases e <;> rfl
  | publishing updated =>
    right; left
    exact rests_of_awaits (ConfigurePc.inProgress account)
      (fun A => keeps_publish (framed_accounts A) _) (fun _ => idle_of_none rfl) (fun _ => rfl) (Option.some.inj h)
  | ended r => cases h
  | raised e => cases h

theorem AccountCall.step_moves {c c' : AccountCall} {aws : AwsAnswers} {w w' : World}
    (h : c.step aws w = some (c', w')) :
    UpdateMoves c.inProgress c'.inProgress w w' ∨ Rests c'.inProgress w w' ∨ Inserts c.inserts c'.inProgress w w' := by
  cases c with
  | create args pc =>
    obtain ⟨⟨pc', w₁⟩, hstep, hc'⟩ := Option.map_eq_some_iff.1 h
    cases hc'
    exact createStep_moves hstep
  | configure account calledFromEvent pc =>
    obtain ⟨⟨pc', w₁⟩, hstep, hc'⟩ := Option.map_eq_some_iff.1 h
    cases hc'
    exact configureStep_moves hstep
  | degrade id error reason pc =>
    obtain ⟨⟨pc', w₁⟩, hstep, hc'⟩ := Option.map_eq_some_iff.1 h
    cases hc'
    exact (degradeStep_moves hstep).imp_right .inl
  | undegrade id pc =>
    obtain ⟨⟨pc', w₁⟩, hstep, hc'⟩ := Option.map_eq_some_iff.1 h
    cases hc'
    exact (undegradeStep_moves hstep).imp_right .inl
  | delete userId id workspaceId pc =>
    obtain ⟨⟨pc', w₁⟩, hstep, hc'⟩ := Option.map_eq_some_iff.1 h
    cases hc'
    exact (deleteStep_moves hstep).imp_right .inl

theorem checkConfigurable_holds (account : CloudAccount) (calledFromEvent : Bool) :
    (AccountCall.configure account calledFromEvent (checkConfigurable account)).holds = none := by
  unfold checkConfigurable
  split <;> [rfl; skip]
  split <;> rfl

theorem cannotAssume_holds (account : CloudAccount) (calledFromEvent : Bool) (reason : String) (now : DateTime) :
    (AccountCall.configure account calledFromEvent (cannotAssume account calledFromEvent reason now)).holds = none := by
  unfold cannotAssume
  dsimp only
  split <;> [rfl; skip]
  split <;> rfl

theorem nextAccount_holds (account : CloudAccount) (calledFromEvent : Bool) (access : CloudAccess)
    (externalId : ExternalId) (rest : List (CloudAccountId × CloudAccountName)) :
    (AccountCall.configure account calledFromEvent (nextAccount account access externalId rest)).holds =
      some (account.id, access) := by
  cases rest <;> rfl

/-- **A role is held only after it was assumed.** -/
theorem configureStep_holds {account : CloudAccount} {calledFromEvent : Bool} {aws : AwsAnswers} {w w' : World}
    {pc pc' : ConfigurePc} {x : FixCloudAccountId × CloudAccess}
    (h : configureStep account calledFromEvent aws w pc = some (pc', w'))
    (hx : (AccountCall.configure account calledFromEvent pc').holds = some x) :
    (AccountCall.configure account calledFromEvent pc).holds = some x ∨
      (AccountCall.configure account calledFromEvent pc).assumes aws = some x := by
  cases pc with
  | start =>
    cases h
    rw [checkConfigurable_holds] at hx
    cases hx
  | assuming externalId roleName =>
    simp only [configureStep] at h
    split at h
    · rcases awaits_cases (keeps_utc (framed_accounts w.accounts)) rfl (Option.some.inj h) with
        ⟨now, rfl, -⟩ | ⟨e, rfl, -⟩
      · rw [cannotAssume_holds] at hx
        cases hx
      · cases hx
    · rename_i hsuccess
      cases h
      right
      simp only [AccountCall.assumes, hsuccess, if_true]
      exact hx
  | degrading pc =>
    obtain ⟨⟨pc₁, w₁⟩, -, hpc'⟩ := Option.map_eq_some_iff.1 h
    cases pc₁ <;> cases hpc' <;> cases hx
  | describing access externalId =>
    simp only [configureStep] at h
    split at h <;> cases h <;> [cases hx; exact .inl hx]
  | listing access externalId =>
    simp only [configureStep] at h
    split at h <;> cases h
    · exact .inl hx
    · rw [nextAccount_holds] at hx
      exact .inl hx
  | creating access externalId rest args pc =>
    obtain ⟨⟨pc₁, w₁⟩, -, hpc'⟩ := Option.map_eq_some_iff.1 h
    cases pc₁ <;> cases hpc'
    case creating.ended.refl =>
      rw [nextAccount_holds] at hx
      exact .inl hx
    case creating.raised.refl => cases hx
    all_goals exact .inl hx
  | aliasing access =>
    simp only [configureStep] at h
    split at h <;> cases h <;> exact .inl hx
  | naming access name p =>
    obtain ⟨p', -, rfl | ⟨a, rfl⟩ | ⟨e, rfl⟩⟩ := updates_cases h
    · exact .inl hx
    · exact .inl hx
    · cases hx
  | finishing access privileged p =>
    obtain ⟨p', -, rfl | ⟨a, rfl⟩ | ⟨e, rfl⟩⟩ := updates_cases h
    · exact .inl hx
    · cases hx
    · cases e <;> cases hx
  | publishing updated =>
    rcases awaits_cases (keeps_publish (framed_accounts w.accounts) _) rfl (Option.some.inj h) with
      ⟨a, rfl, -⟩ | ⟨e, rfl, -⟩ <;> cases hx
  | ended r => cases h
  | raised e => cases h

theorem AccountCall.step_holds {c c' : AccountCall} {aws : AwsAnswers} {w w' : World}
    {x : FixCloudAccountId × CloudAccess} (h : c.step aws w = some (c', w')) (hx : c'.holds = some x) :
    c.holds = some x ∨ c.assumes aws = some x := by
  cases c with
  | configure account calledFromEvent pc =>
    obtain ⟨⟨pc', w₁⟩, hstep, hc'⟩ := Option.map_eq_some_iff.1 h
    cases hc'
    exact configureStep_holds hstep hx
  | create | degrade | undegrade | delete =>
    obtain ⟨⟨pc', w₁⟩, -, hc'⟩ := Option.map_eq_some_iff.1 h
    cases hc'
    cases hx

/-- **An account is only taken out of the degraded state when it was found in it.** -/
theorem AccountCall.step_restores {c c' : AccountCall} {aws : AwsAnswers} {w w' : World} {id : FixCloudAccountId}
    (h : c.step aws w = some (c', w')) (hid : c'.restores = some id) :
    c.restores = some id ∨ ∃ row error access enabled scan, w'.accounts.find id = some row ∧
      row.accountState = .ok (.degraded access enabled scan error) := by
  cases c with
  | undegrade id' pc =>
    obtain ⟨⟨pc', w₁⟩, hstep, hc'⟩ := Option.map_eq_some_iff.1 h
    cases hc'
    cases pc with
    | start =>
      right
      have hstep := Option.some.inj hstep
      unfold awaits at hstep
      rcases hr : exec (CloudAccountRepository.get id') w with ⟨e | found, w₁⟩ <;> rw [hr] at hstep <;> cases hstep
      · cases hid
      · cases found with
        | none => cases hid
        | some account =>
          obtain ⟨rfl, row, nextScan, hfind, hmodel⟩ := CloudAccountRepository.get_ok hr
          dsimp only at hid
          split at hid <;> cases hid
          rename_i hdegraded
          have hstate := (AccountRow.toModel_ok hmodel).1
          cases hs : account.state <;> rw [hs] at hdegraded hstate <;> simp at hdegraded
          exact ⟨row, _, _, _, _, hfind, hstate⟩
    | updating account p =>
      left
      obtain ⟨p', -, rfl | ⟨a, rfl⟩ | ⟨e, rfl⟩⟩ := updates_cases hstep
      · exact hid
      · cases hid
      · cases hid
    | publishing e => cases hstep
    | ended => cases hstep
    | raised e => cases hstep
  | create | degrade | configure | delete =>
    obtain ⟨⟨pc', w₁⟩, -, hc'⟩ := Option.map_eq_some_iff.1 h
    cases hc'
    cases hid

/-! ## What a step does to a row -/

/-- The row `r` was read under `id` and is the stored one unless that has a later version. -/
def Read (w : World) (id : FixCloudAccountId) (r : AccountRow) : Prop :=
  ∃ stored, w.accounts.find id = some stored ∧ (r.versionId < stored.versionId ∨ stored = r)

def Updating.Fits (w : World) (u : Updating) : Prop :=
  match u.phase with
  | .loaded r => Read w u.id r
  | .applied r updated => Read w u.id r ∧ ∃ a now, r.toModel none = .ok a ∧ u.f now a = .ok updated
  | .prepared r row _ => Read w u.id r ∧
    ∃ a now updated t, r.toModel none = .ok a ∧ u.f now a = .ok updated ∧ row = r.written updated t
  | _ => True

/-- A stored row stays, or one of a later version is stored. -/
def Evolves (w w' : World) : Prop :=
  ∀ id r, w.accounts.find id = some r →
    ∃ r', w'.accounts.find id = some r' ∧ (r' = r ∨ r.versionId < r'.versionId)

theorem Evolves.of_accounts {w w' : World} (h : w'.accounts = w.accounts) : Evolves w w' :=
  fun id r hr => ⟨r, by rw [h]; exact hr, .inl rfl⟩

theorem Read.evolves {w w' : World} {id : FixCloudAccountId} {r : AccountRow} (hr : Read w id r) (h : Evolves w w') :
    Read w' id r := by
  obtain ⟨stored, hstored, hversion⟩ := hr
  obtain ⟨stored', hstored', hevolved⟩ := h id stored hstored
  refine ⟨stored', hstored', ?_⟩
  rcases hevolved with rfl | hlater
  · exact hversion
  · rcases hversion with hversion | rfl
    · exact .inl (by omega)
    · exact .inl hlater

theorem Updating.Fits.evolves {w w' : World} {u : Updating} (hu : u.Fits w) (h : Evolves w w') : u.Fits w' := by
  unfold Updating.Fits at hu ⊢
  split at hu
  · exact hu.evolves h
  · exact ⟨hu.1.evolves h, hu.2⟩
  · exact ⟨hu.1.evolves h, hu.2⟩
  · trivial

theorem Updating.fits_idle {w : World} {u : Updating} (h : u.phase = .idle) : u.Fits w := by
  unfold Updating.Fits
  rw [h]
  trivial

/-- An update commits the row that its function makes of the stored one, which is still the one it read. -/
def Commits (u : Updating) (w w' : World) : Prop :=
  ∃ row prepared nextScan a now updated t, u.phase = .prepared row prepared nextScan ∧
    w.accounts.find u.id = some row ∧ row.toModel none = .ok a ∧ u.f now a = .ok updated ∧
    w' = w.commit row (row.written updated t)

theorem find_commit_of_ne (w : World) {stored row : AccountRow} {id : FixCloudAccountId} (h : id ≠ row.id) :
    (w.commit stored row).accounts.find id = w.accounts.find id :=
  Table.find_replace_of_ne w.accounts h

theorem Commits.find {u : Updating} {w w' : World} (h : Commits u w w') :
    ∃ row prepared nextScan a now updated t, u.phase = .prepared row prepared nextScan ∧
      w.accounts.find u.id = some row ∧ row.toModel none = .ok a ∧ u.f now a = .ok updated ∧
      w'.accounts.find u.id = some (row.written updated t) ∧
      ∀ id, id ≠ u.id → w'.accounts.find id = w.accounts.find id := by
  obtain ⟨row, prepared, nextScan, a, now, updated, t, hphase, hrow, hmodel, hf, rfl⟩ := h
  have hid : (row.written updated t).id = u.id := by
    rw [AccountRow.written_id]
    exact Table.key_of_find hrow
  refine ⟨row, prepared, nextScan, a, now, updated, t, hphase, hrow, hmodel, hf, World.find_commit hrow hid,
    fun id hne => ?_⟩
  exact find_commit_of_ne w (by rw [hid]; exact hne)

theorem Commits.evolves {u : Updating} {w w' : World} (h : Commits u w w') : Evolves w w' := by
  obtain ⟨row, -, -, -, -, updated, t, -, hrow, -, -, hnew, hother⟩ := h.find
  intro id r hr
  by_cases hid : id = u.id
  · subst hid
    rw [hrow] at hr
    cases hr
    exact ⟨_, hnew, .inr (Nat.lt_succ_self _)⟩
  · exact ⟨r, by rw [hother id hid]; exact hr, .inl rfl⟩

theorem evolves_insert {w : World} {r : AccountRow} (h : w.accounts.find r.id = none) : Evolves w (w.insert r h) := by
  intro id r' hr'
  have hne : id ≠ r.id := by
    rintro rfl
    rw [h] at hr'
    cases hr'
  exact ⟨r', by rw [World.insert, Table.find_insert_of_ne _ _ _ hne]; exact hr', .inl rfl⟩

/-- **A step of an update leaves the accounts alone or commits**, and what it has then read fits. -/
theorem updateStep_fits {u : Updating} {w w' : World} {p' : UpdatePhase} (hu : u.Fits w)
    (h : updateStep u.id u.f w u.phase = some (p', w')) :
    (w'.accounts = w.accounts ∨ Commits u w w') ∧ Updating.Fits w' { u with phase := p' } := by
  have hread : ∀ {stored}, w.accounts.find u.id = some stored → Read w u.id stored :=
    fun hstored => ⟨_, hstored, .inr rfl⟩
  unfold Updating.Fits at hu
  unfold updateStep at h
  cases hphase : u.phase with
  | idle | again =>
    rw [hphase] at h
    dsimp only at h
    split at h <;> cases h
    · exact ⟨.inl rfl, trivial⟩
    · exact ⟨.inl rfl, hread (by assumption)⟩
  | loaded r =>
    rw [hphase] at h hu
    dsimp only at h hu
    split at h <;> [(cases h; exact ⟨.inl rfl, trivial⟩); skip]
    rename_i a hmodel
    split at h <;> cases h
    · exact ⟨.inl rfl, trivial⟩
    · rename_i updated hf
      have htick : Evolves w w.tick := Evolves.of_accounts rfl
      refine ⟨.inl rfl, ?_⟩
      by_cases hsame : a = updated
      · simp only [Updating.Fits, hsame, if_true]
      · simp only [Updating.Fits, hsame, if_false]
        exact ⟨hu.evolves htick, a, w.now, hmodel, hf⟩
  | applied r updated =>
    rw [hphase] at h hu
    cases h
    obtain ⟨hr, a, now, hmodel, hf⟩ := hu
    exact ⟨.inl rfl, hr.evolves (Evolves.of_accounts rfl), a, now, updated, w.now, hmodel, hf, rfl⟩
  | prepared r row nextScan =>
    rw [hphase] at h hu
    dsimp only at h hu
    split at h <;> [(cases h; exact ⟨.inl rfl, trivial⟩); skip]
    rename_i current hcurrent
    obtain ⟨⟨stored, hstored, hversion⟩, a, now, updated, t, hmodel, hf, rfl⟩ := hu
    rw [hcurrent] at hstored
    cases hstored
    split at h <;> [(cases h; exact ⟨.inl rfl, trivial⟩); skip]
    rename_i hsame
    split at h <;> cases h
    · exact ⟨.inl rfl, trivial⟩
    · -- the version of the stored row is the one that was read, so it is that row
      have hr : current = r := by
        rcases hversion with hversion | hr
        · omega
        · exact hr
      subst hr
      exact ⟨.inr ⟨current, _, nextScan, a, now, updated, t, hphase, hcurrent, hmodel, hf, rfl⟩, trivial⟩
  | committed nextScan =>
    rw [hphase] at h
    dsimp only at h
    split at h <;> [(cases h; exact ⟨.inl rfl, trivial⟩); skip]
    split at h <;> cases h <;> exact ⟨.inl rfl, trivial⟩
  | returned a =>
    rw [hphase] at h
    cases h
  | raised e =>
    rw [hphase] at h
    cases h

/-- The account and the access of a discovered state that the next step of `create_aws_account` stores. -/
def CreatePc.stores (w : World) : CreatePc → Option (FixCloudAccountId × CloudAccess)
  | .redeploying existing access _ _ _ (.prepared row _ _) =>
    if (w.accounts.find existing.id).map (·.versionId) = some row.versionId then some (existing.id, access) else none
  | .inserting account _ =>
    match account.state with
    | .discovered access _ => some (account.id, access)
    | _ => none
  | _ => none

def AccountCall.stores (w : World) : AccountCall → Option (FixCloudAccountId × CloudAccess)
  | .create _ pc => pc.stores w
  | .configure _ _ (.creating _ _ _ _ pc) => pc.stores w
  | _ => none

theorem CreatePc.stores_of_commit {pc : CreatePc} {u : Updating} {w : World} {row prepared : AccountRow}
    {nextScan : Option DateTime} {now : DateTime} {a updated : CloudAccount} {access : CloudAccess} {enabled : Bool}
    (hu : pc.inProgress = some u) (hkind : u.kind = .discovered) (hphase : u.phase = .prepared row prepared nextScan)
    (hrow : w.accounts.find u.id = some row) (hf : u.f now a = .ok updated)
    (hstate : updated.state = .discovered access enabled) : pc.stores w = some (u.id, access) := by
  cases pc <;> cases hu
  · cases hkind
  · cases hphase
    cases hf
    cases hstate
    dsimp only at hrow
    simp only [CreatePc.stores, hrow, Option.map_some, if_true]

theorem AccountCall.stores_of_commit {c : AccountCall} {u : Updating} {w : World} {row prepared : AccountRow}
    {nextScan : Option DateTime} {now : DateTime} {a updated : CloudAccount} {access : CloudAccess} {enabled : Bool}
    (hu : c.inProgress = some u) (hkind : u.kind = .discovered) (hphase : u.phase = .prepared row prepared nextScan)
    (hrow : w.accounts.find u.id = some row) (hf : u.f now a = .ok updated)
    (hstate : updated.state = .discovered access enabled) : c.stores w = some (u.id, access) := by
  cases c with
  | create args pc => exact CreatePc.stores_of_commit hu hkind hphase hrow hf hstate
  | configure account calledFromEvent pc =>
    cases pc with
    | creating access' externalId rest args pc => exact CreatePc.stores_of_commit hu hkind hphase hrow hf hstate
    | degrading pc =>
      cases pc <;> cases hu
      cases hkind
    | naming | finishing =>
      cases hu
      cases hkind
    | _ => cases hu
  | degrade id error reason pc =>
    cases pc <;> cases hu
    cases hkind
  | undegrade id pc =>
    cases pc <;> cases hu
    cases hkind
  | delete userId id workspaceId pc =>
    cases pc <;> cases hu
    cases hkind

theorem AccountCall.stores_of_inserts {c : AccountCall} {a : CloudAccount} (w : World) {access : CloudAccess}
    {enabled : Bool} (h : c.inserts = some a) (hstate : a.state = .discovered access enabled) :
    c.stores w = some (a.id, access) := by
  have hcreate : ∀ pc : CreatePc, pc.inserts = some a → pc.stores w = some (a.id, access) := by
    intro pc hpc
    cases pc <;> cases hpc
    simp only [CreatePc.stores, hstate]
  cases c with
  | create args pc => exact hcreate pc h
  | configure account calledFromEvent pc =>
    cases pc with
    | creating access' externalId rest args pc => exact hcreate pc h
    | _ => cases h
  | _ => cases h

/-- The row under `id` after a step of `c`: the stored one, the one an update makes of it, or a new one. -/
inductive RowAfter (c : AccountCall) (w : World) (id : FixCloudAccountId) (row' : AccountRow) : Prop where
  | same (h : w.accounts.find id = some row')
  | updated (u : Updating) (row : AccountRow) (a updated : CloudAccount) (now t : DateTime)
    (hu : c.inProgress = some u) (hid : u.id = id) (hrow : w.accounts.find id = some row)
    (hmodel : row.toModel none = .ok a) (hf : u.f now a = .ok updated) (hnew : row' = row.written updated t)
    (hstores : ∀ access enabled, u.kind = .discovered → updated.state = .discovered access enabled →
      c.stores w = some (id, access))
  | inserted (a : CloudAccount) (hnone : w.accounts.find id = none) (hnew : row' = .ofModel a)
    (hstores : ∀ access enabled, a.state = .discovered access enabled → c.stores w = some (id, access))

theorem AccountCall.step_rows {c c' : AccountCall} {aws : AwsAnswers} {w w' : World}
    (h : c.step aws w = some (c', w')) (hfits : ∀ u, c.inProgress = some u → u.Fits w) :
    (∀ u, c'.inProgress = some u → u.Fits w') ∧ Evolves w w' ∧
      ∀ id row', w'.accounts.find id = some row' → RowAfter c w id row' := by
  rcases AccountCall.step_moves h with ⟨u, p', hu, hstep, hafter⟩ | ⟨hw, hafter⟩ | ⟨a, hnone, ha, rfl, hafter⟩
  · obtain ⟨hmoved, hfit⟩ := updateStep_fits (hfits u hu) hstep
    refine ⟨fun u' hu' => ?_, ?_, fun id row' hrow' => ?_⟩
    · rcases hafter u' hu' with rfl | hidle
      · exact hfit
      · exact Updating.fits_idle hidle
    · exact hmoved.elim Evolves.of_accounts Commits.evolves
    · rcases hmoved with hw | hcommit
      · exact .same (by rw [← hw]; exact hrow')
      · obtain ⟨row, prepared, nextScan, a, now, updated, t, hphase, hrow, hmodel, hf, hnew, hother⟩ := hcommit.find
        by_cases hid : id = u.id
        · subst hid
          rw [hnew] at hrow'
          cases hrow'
          refine .updated u row a updated now t hu rfl hrow hmodel hf rfl fun access enabled hkind hstate => ?_
          exact AccountCall.stores_of_commit hu hkind hphase hrow hf hstate
        · exact .same (by rw [← hother id hid]; exact hrow')
  · refine ⟨fun u hu => Updating.fits_idle (hafter u hu), Evolves.of_accounts hw, fun id row' hrow' => ?_⟩
    exact .same (by rw [← hw]; exact hrow')
  · refine ⟨fun u hu => Updating.fits_idle (hafter u hu), evolves_insert hnone, fun id row' hrow' => ?_⟩
    by_cases hid : id = a.id
    · subst hid
      have hfound : (w.insert _ hnone).accounts.find a.id = some (.ofModel a) := Table.find_insert_self _ _ hnone
      rw [hfound] at hrow'
      cases hrow'
      exact .inserted a hnone rfl fun access enabled hstate => AccountCall.stores_of_inserts w ha hstate
    · have hfound : (w.insert _ hnone).accounts.find id = w.accounts.find id := Table.find_insert_of_ne _ _ hnone hid
      exact .same (by rw [← hfound]; exact hrow')

/-! ## Runs -/

section Runs

variable {ι : Type}

/-- Calls in progress.  `assumed` remembers the access for which the role could be assumed in a call; no step reads
it. -/
structure AccountCalls (ι : Type) where
  world : World
  call : ι → AccountCall
  assumed : ι → Option CloudAccess

/-- A call takes its next step, or something else happens. -/
inductive CallAct (ι : Type) where
  | step (i : ι) (aws : AwsAnswers)
  | other (w : World)

/-- The access that AWS lets call `i` assume is remembered. -/
def remember [DecidableEq ι] (assumed : ι → Option CloudAccess) (i : ι) :
    Option (FixCloudAccountId × CloudAccess) → ι → Option CloudAccess
  | some (_, access) => Function.update assumed i (some access)
  | none => assumed

/-- What else happens leaves the accounts alone. -/
def AccountCalls.step [DecidableEq ι] (s : AccountCalls ι) : CallAct ι → Option (AccountCalls ι)
  | .step i aws => ((s.call i).step aws s.world).map fun (c, w) =>
    { world := w
      call := Function.update s.call i c
      assumed := remember s.assumed i ((s.call i).assumes aws) }
  | .other w => some { s with world := { w with accounts := s.world.accounts, commits := s.world.commits } }

def AccountCall.fresh : AccountCall → Prop
  | .create _ pc => pc = .start
  | .configure _ _ pc => pc = .start
  | .degrade _ _ _ pc => pc = .start
  | .undegrade _ pc => pc = .start
  | .delete _ _ _ pc => pc = .start

def Agrees (w : World) (id : FixCloudAccountId) (access : CloudAccess) : Prop :=
  ∀ row stored enabled, w.accounts.find id = some row → row.accountState = .ok (.discovered stored enabled) →
    stored = access

/-- **The condition**: when a role has been assumed the account is not discovered with another access, and while a
call holds a role or takes an account out of the degraded state no other access is stored for it. -/
def Undisturbed (s : AccountCalls ι) : CallAct ι → Prop
  | .step i aws =>
    (∀ id access, (s.call i).assumes aws = some (id, access) → Agrees s.world id access) ∧
      ∀ id access, (s.call i).stores s.world = some (id, access) →
        ∀ j, (∀ held, (s.call j).holds = some (id, held) → held = access) ∧ (s.call j).restores ≠ some id
  | .other _ => True

structure Steady (s : AccountCalls ι) : Prop where
  fits : ∀ i u, (s.call i).inProgress = some u → u.Fits s.world
  assumed : ∀ i id access, (s.call i).holds = some (id, access) → s.assumed i = some access
  agrees : ∀ i id access, (s.call i).holds = some (id, access) → Agrees s.world id access
  degraded : ∀ i id row access enabled, (s.call i).restores = some id → s.world.accounts.find id = some row →
    row.accountState ≠ .ok (.discovered access enabled)

theorem Step.of_discovered {k : StepKind} {s : CloudAccountState} {access : CloudAccess} {enabled : Bool}
    (h : Step k s (.discovered access enabled)) (hk : k ≠ .discovered) : s = .discovered access enabled := by
  cases h with
  | discovered => exact absurd rfl hk
  | named => rfl
  | notDegraded => rfl
  | notUndegraded => rfl

theorem Step.configures {k : StepKind} {stored access : CloudAccess} {e enabled scan : Bool}
    (h : Step k (.discovered stored e) (.configured access enabled scan)) : k = .undegraded ∨ k = .configured := by
  cases h with
  | switchedOff => exact .inl rfl
  | configured => exact .inr rfl

/-- A row that is discovered after a step was so before, or is stored so by the step. -/
theorem RowAfter.discovered {c : AccountCall} {w : World} {id : FixCloudAccountId} {row' : AccountRow}
    {access : CloudAccess} {enabled : Bool} (h : RowAfter c w id row')
    (hstate : row'.accountState = .ok (.discovered access enabled)) :
    (∃ row, w.accounts.find id = some row ∧ row.accountState = .ok (.discovered access enabled)) ∨
      c.stores w = some (id, access) := by
  cases h with
  | same h => exact .inl ⟨row', h, hstate⟩
  | updated u row a updated now t hu hid hrow hmodel hf hnew hstores =>
    have hupdated : CloudAccountState.discovered access enabled = updated.state :=
      AccountRow.accountState_written (hnew ▸ hstate)
    by_cases hkind : u.kind = .discovered
    · exact .inr (hstores access enabled hkind hupdated.symm)
    · have hstep := (AccountCall.inProgress_within hu now a updated hf).step
      rw [← hupdated] at hstep
      refine .inl ⟨row, hrow, ?_⟩
      rw [(AccountRow.toModel_ok hmodel).1, hstep.of_discovered hkind]
  | inserted a hnone hnew hstores =>
    have hstate : CloudAccountState.discovered access enabled = a.state :=
      AccountRow.accountState_ofModel (hnew ▸ hstate)
    exact .inr (hstores access enabled hstate.symm)

theorem AccountCall.of_assumes {c : AccountCall} {aws : AwsAnswers} {x : FixCloudAccountId × CloudAccess}
    (h : c.assumes aws = some x) (w : World) : c.holds = none ∧ c.stores w = none := by
  cases c with
  | configure account calledFromEvent pc =>
    cases pc with
    | assuming => exact ⟨rfl, rfl⟩
    | _ => cases h
  | _ => cases h

variable [DecidableEq ι]

theorem remember_of_ne (assumed : ι → Option CloudAccess) {i j : ι} (x : Option (FixCloudAccountId × CloudAccess))
    (hj : j ≠ i) : remember assumed i x j = assumed j := by
  cases x with
  | none => rfl
  | some x => exact Function.update_of_ne hj _ _

theorem Steady.step {s s' : AccountCalls ι} {a : CallAct ι} (hs : Steady s) (ha : Undisturbed s a)
    (h : s.step a = some s') : Steady s' := by
  cases a with
  | other w =>
    cases h
    exact ⟨fun i u hu => (hs.fits i u hu).evolves (Evolves.of_accounts rfl), hs.assumed, hs.agrees, hs.degraded⟩
  | step i aws =>
    obtain ⟨⟨c', w'⟩, hstep, rfl⟩ := Option.map_eq_some_iff.1 h
    obtain ⟨hassumes, hstores⟩ := ha
    obtain ⟨hfits, hevolves, hrows⟩ := AccountCall.step_rows hstep (hs.fits i)
    have hcall : ∀ j, j = i ∧ Function.update s.call i c' j = c' ∨ j ≠ i ∧
        Function.update s.call i c' j = s.call j := by
      intro j
      by_cases hj : j = i
      · exact .inl ⟨hj, by rw [hj, Function.update_self]⟩
      · exact .inr ⟨hj, Function.update_of_ne hj _ _⟩
    constructor
    · intro j u hu
      dsimp only at hu ⊢
      rcases hcall j with ⟨rfl, hc⟩ | ⟨-, hc⟩ <;> rw [hc] at hu
      · exact hfits u hu
      · exact (hs.fits j u hu).evolves hevolves
    · intro j id access hj
      dsimp only at hj ⊢
      rcases hcall j with ⟨rfl, hc⟩ | ⟨hne, hc⟩ <;> rw [hc] at hj
      · rcases AccountCall.step_holds hstep hj with hheld | hassumed
        · cases hx : (s.call j).assumes aws with
          | none => exact hs.assumed j id access hheld
          | some x =>
            rw [(AccountCall.of_assumes hx w').1] at hheld
            cases hheld
        · rw [hassumed]
          exact Function.update_self _ _ _
      · rw [remember_of_ne _ _ hne]
        exact hs.assumed j id access hj
    · intro j id access hj row stored enabled hrow hstate
      dsimp only at hj hrow
      rcases (hrows id row hrow).discovered hstate with ⟨old, hold, holdState⟩ | hstored
      · rcases hcall j with ⟨rfl, hc⟩ | ⟨-, hc⟩ <;> rw [hc] at hj
        · rcases AccountCall.step_holds hstep hj with hheld | hassumed
          · exact hs.agrees j id access hheld old stored enabled hold holdState
          · exact hassumes id access hassumed old stored enabled hold holdState
        · exact hs.agrees j id access hj old stored enabled hold holdState
      · rcases hcall j with ⟨rfl, hc⟩ | ⟨-, hc⟩ <;> rw [hc] at hj
        · rcases AccountCall.step_holds hstep hj with hheld | hassumed
          · exact ((hstores id stored hstored j).1 access hheld).symm
          · rw [(AccountCall.of_assumes hassumed s.world).2] at hstored
            cases hstored
        · exact ((hstores id stored hstored j).1 access hj).symm
    · intro j id row access enabled hj hrow hstate
      dsimp only at hj hrow
      rcases (hrows id row hrow).discovered hstate with ⟨old, hold, holdState⟩ | hstored
      · rcases hcall j with ⟨rfl, hc⟩ | ⟨-, hc⟩ <;> rw [hc] at hj
        · rcases AccountCall.step_restores hstep hj with hbefore | ⟨row₁, error, access₁, e, scan, hrow₁, hdegraded⟩
          · exact hs.degraded j id old access enabled hbefore hold holdState
          · rw [hrow] at hrow₁
            cases hrow₁
            rw [hstate] at hdegraded
            cases hdegraded
        · exact hs.degraded j id old access enabled hj hold holdState
      · rcases hcall j with ⟨rfl, hc⟩ | ⟨-, hc⟩ <;> rw [hc] at hj
        · rcases AccountCall.step_restores hstep hj with hbefore | ⟨row₁, error, access₁, e, scan, hrow₁, hdegraded⟩
          · exact (hstores id access hstored j).2 hbefore
          · rw [hrow] at hrow₁
            cases hrow₁
            rw [hstate] at hdegraded
            cases hdegraded
        · exact (hstores id access hstored j).2 hj

omit [DecidableEq ι] in
theorem steady_fresh {w : World} {calls : ι → AccountCall} (hfresh : ∀ i, (calls i).fresh) :
    Steady ⟨w, calls, fun _ => none⟩ := by
  have hnothing : ∀ c : AccountCall, c.fresh → c.inProgress = none ∧ c.holds = none ∧ c.restores = none := by
    intro c hc
    cases c <;> cases hc <;> exact ⟨rfl, rfl, rfl⟩
  constructor
  · intro i u hu
    rw [(hnothing _ (hfresh i)).1] at hu
    cases hu
  · intro i id access hi
    rw [(hnothing _ (hfresh i)).2.1] at hi
    cases hi
  · intro i id access hi
    rw [(hnothing _ (hfresh i)).2.1] at hi
    cases hi
  · intro i id row access enabled hi
    rw [(hnothing _ (hfresh i)).2.2] at hi
    cases hi

omit [DecidableEq ι] in
theorem AccountCall.of_kind {c : AccountCall} {u : Updating} (hu : c.inProgress = some u) :
    (u.kind = .undegraded → c.restores = some u.id) ∧
      (u.kind = .configured → ∃ account calledFromEvent access privileged p,
        c = .configure account calledFromEvent (.finishing access privileged p) ∧ account.id = u.id ∧
          u.f = updateToConfigured access privileged) := by
  cases c with
  | create args pc => cases pc <;> cases hu <;> exact ⟨nofun, nofun⟩
  | configure account calledFromEvent pc =>
    cases pc with
    | finishing access privileged p =>
      cases hu
      exact ⟨nofun, fun _ => ⟨account, calledFromEvent, access, privileged, p, rfl, rfl, rfl⟩⟩
    | creating access externalId rest args pc => cases pc <;> cases hu <;> exact ⟨nofun, nofun⟩
    | degrading pc =>
      cases pc <;> cases hu
      exact ⟨nofun, nofun⟩
    | naming =>
      cases hu
      exact ⟨nofun, nofun⟩
    | _ => cases hu
  | degrade id error reason pc =>
    cases pc <;> cases hu
    exact ⟨nofun, nofun⟩
  | undegrade id pc =>
    cases pc <;> cases hu
    exact ⟨fun _ => rfl, nofun⟩
  | delete userId id workspaceId pc =>
    cases pc <;> cases hu
    exact ⟨nofun, nofun⟩

/-- **An account is configured with the access it was discovered with**, and the role was assumed in the very call that
configures it: in every step of a run of calls whose steps meet the condition. -/
theorem runCalls_configures (w : World) (calls : ι → AccountCall) (hfresh : ∀ i, (calls i).fresh)
    (acts : List (CallAct ι)) (hcond : Along AccountCalls.step Undisturbed ⟨w, calls, fun _ => none⟩ acts)
    (pre post : List (CallAct ι)) (a : CallAct ι) (hacts : acts = pre ++ a :: post) (s s' : AccountCalls ι)
    (hpre : run AccountCalls.step ⟨w, calls, fun _ => none⟩ pre = some s) (hstep : s.step a = some s')
    (id : FixCloudAccountId) (row row' : AccountRow) (hrow : s.world.accounts.find id = some row)
    (hrow' : s'.world.accounts.find id = some row') (stored access : CloudAccess) (e enabled scan : Bool)
    (hdiscovered : row.accountState = .ok (.discovered stored e))
    (hconfigured : row'.accountState = .ok (.configured access enabled scan)) :
    access = stored ∧ ∃ i aws account calledFromEvent privileged p, a = .step i aws ∧
      s.call i = .configure account calledFromEvent (.finishing access privileged p) ∧ account.id = id ∧
        s.assumed i = some access := by
  subst hacts
  obtain ⟨hcondPre, hcondRest⟩ := along_append hcond hpre
  have hs : Steady s := run_along (fun _ _ _ hs ha h => hs.step ha h) (steady_fresh hfresh) hcondPre hpre
  cases a with
  | other w' =>
    cases hstep
    rw [show row' = row from Option.some.inj (hrow'.symm.trans hrow), hdiscovered] at hconfigured
    cases hconfigured
  | step i aws =>
    obtain ⟨⟨c', w'⟩, hcall, rfl⟩ := Option.map_eq_some_iff.1 hstep
    obtain ⟨-, -, hrows⟩ := AccountCall.step_rows hcall (hs.fits i)
    cases hrows id row' hrow' with
    | same h =>
      rw [show row' = row from Option.some.inj (h.symm.trans hrow), hdiscovered] at hconfigured
      cases hconfigured
    | inserted a hnone hnew hstores =>
      rw [hrow] at hnone
      cases hnone
    | updated u row₁ a updated now t hu hid hrow₁ hmodel hf hnew hstores =>
      rw [hrow] at hrow₁
      cases hrow₁
      have hold : a.state = .discovered stored e := by
        have hread := (AccountRow.toModel_ok hmodel).1
        rw [hdiscovered] at hread
        exact (Except.ok.inj hread).symm
      have hupdated : CloudAccountState.configured access enabled scan = updated.state :=
        AccountRow.accountState_written (hnew ▸ hconfigured)
      have hchange := (AccountCall.inProgress_within hu now a updated hf).step
      rw [hold, ← hupdated] at hchange
      obtain ⟨hundegrades, hconfigures⟩ := AccountCall.of_kind hu
      rcases hchange.configures with hkind | hkind
      · exact absurd hdiscovered (hs.degraded i id row stored e (hid ▸ hundegrades hkind) hrow)
      · obtain ⟨account, calledFromEvent, access', privileged, p, hcallEq, haccount, hfEq⟩ := hconfigures hkind
        rw [hfEq] at hf
        simp only [updateToConfigured, hold] at hf
        cases hf
        obtain ⟨rfl, -, -⟩ := CloudAccountState.configured.inj hupdated
        have hheld : (s.call i).holds = some (id, access) := by
          rw [hcallEq, ← hid, ← haccount]
          rfl
        exact ⟨(hs.agrees i id access hheld row stored e hrow hdiscovered).symm, i, aws, account, calledFromEvent,
          privileged, p, rfl, hcallEq, haccount.trans hid, hs.assumed i id access hheld⟩

/-- A step that assumes no role and stores no discovered state. -/
def Quiet (s : AccountCalls ι) : CallAct ι → Prop
  | .step i aws => (s.call i).assumes aws = none ∧ (s.call i).stores s.world = none
  | .other _ => True

instance (s : AccountCalls ι) : (a : CallAct ι) → Decidable (Quiet s a)
  | .step i aws => inferInstanceAs (Decidable ((s.call i).assumes aws = none ∧ (s.call i).stores s.world = none))
  | .other _ => instDecidableTrue

omit [DecidableEq ι] in
theorem Quiet.undisturbed {s : AccountCalls ι} {a : CallAct ι} (h : Quiet s a) : Undisturbed s a := by
  cases a with
  | other w => trivial
  | step i aws =>
    refine ⟨fun id access hassumes => ?_, fun id access hstores => ?_⟩
    · cases h.1.symm.trans hassumes
    · cases h.2.symm.trans hstores

end Runs

def waitingWorld : World := { freeWorld with accounts := ⟨[unnamedRow], unnamedRow_unique⟩ }

def waitingAccount : CloudAccount := discoveredAccount 10 "111111111111" true

/-- The account is configured, and its stack is deployed again with a name for it. -/
def namingCalls (i : Fin 2) : AccountCall :=
  if i = 0 then .configure waitingAccount true .start
  else .create ⟨1, "111111111111", some "role", 2, some "prod"⟩ .start

/-- The name is stored between the read and the write of the configuration, which begins its update again. -/
def namedMeanwhile : List (CallAct (Fin 2)) :=
  List.replicate 8 (.step 0 assumed) ++ List.replicate 8 (.step 1 assumed) ++ List.replicate 4 (.step 0 assumed)

theorem namedMeanwhile_undisturbed : Along AccountCalls.step Undisturbed ⟨waitingWorld, namingCalls, fun _ => none⟩
    (namedMeanwhile ++ [.step 0 assumed]) := by
  have hagrees : Agrees waitingWorld 10 (.aws 2 "role") := by
    rintro row stored enabled hrow hstate
    cases hrow
    cases hstate
    rfl
  refine along_cons (Quiet.undisturbed ⟨rfl, rfl⟩) rfl (along_cons ⟨fun id access h => ?_, nofun⟩ rfl ?_)
  · cases h
    exact hagrees
  · exact along_imp (fun _ _ => Quiet.undisturbed) (by decide +kernel)

def namedCalls : AccountCalls (Fin 2) :=
  (run AccountCalls.step ⟨waitingWorld, namingCalls, fun _ => none⟩ namedMeanwhile).get (by decide +kernel)

def configuredCalls : AccountCalls (Fin 2) := (namedCalls.step (.step 0 assumed)).get (by decide +kernel)

theorem runCalls_configures_undisturbed : ∃ account calledFromEvent privileged p,
    namedCalls.call 0 = .configure account calledFromEvent (.finishing (.aws 2 "role") privileged p) ∧
      namedCalls.assumed 0 = some (.aws 2 "role") ∧
        (configuredCalls.world.accounts.find 10).bind (·.apiAccountName) = some "prod" := by
  obtain ⟨-, i, aws, account, ev, privileged, p, hact, hcall, -, hassumed⟩ :=
    runCalls_configures waitingWorld namingCalls (fun i => by fin_cases i <;> rfl) (namedMeanwhile ++ [.step 0 assumed])
      namedMeanwhile_undisturbed namedMeanwhile [] (.step 0 assumed) rfl namedCalls configuredCalls
      (Option.some_get _).symm (Option.some_get _).symm 10 ((namedCalls.world.accounts.find 10).get (by decide +kernel))
      ((configuredCalls.world.accounts.find 10).get (by decide +kernel)) (Option.some_get _).symm
        (Option.some_get _).symm
      (.aws 2 "role") (.aws 2 "role") true true true (by decide +kernel) (by decide +kernel)
  cases hact
  exact ⟨account, ev, privileged, p, hcall, hassumed, by decide +kernel⟩

/-- The role is deployed anew when the old one was assumed. -/
def redeployedCalls (i : Fin 2) : AccountCall :=
  if i = 0 then .configure waitingAccount true .start
  else .create ⟨1, "111111111111", some "new role", 2, none⟩ .start

def redeployed : List (CallAct (Fin 2)) :=
  List.replicate 5 (.step 0 assumed) ++ List.replicate 7 (.step 1 assumed) ++ List.replicate 3 (.step 0 assumed)

theorem redeployed_while_configuring : ∃ s s' row row',
    run AccountCalls.step ⟨waitingWorld, redeployedCalls, fun _ => none⟩ redeployed = some s ∧
      s.step (.step 0 assumed) = some s' ∧ s.world.accounts.find 10 = some row ∧
        s'.world.accounts.find 10 = some row' ∧
          row.accountState = .ok (.discovered (.aws 2 "new role") false) ∧
            row'.accountState = .ok (.configured (.aws 2 "role") false false) :=
  ⟨_, _, _, _, rfl, rfl, rfl, rfl, rfl, rfl⟩

end Fix
