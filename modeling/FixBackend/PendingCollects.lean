import FixBackend.CollectProgress
/-!
# PendingCollects — the keys of a collect run and what is left to do for it

What holds of the redis keys of the dispatcher between two commands, and of the keys together with the work that is
still to be done.  A run goes on as long as each of its unfinished entries waits for a result, and its hash for a
completion.
-/
namespace Fix

open Calendar

/-- What is still to be done for a run: the result of a job is stored, it is decided how the run goes on, or the run is
completed. -/
inductive Pending where
  | result (jobId : JobId)
  | decision (jobId : JobId)
  | completion (workspaceId : WorkspaceId)

namespace CollectStore

def Concerns (c : CollectStore) (ws : WorkspaceId) : Pending → Prop
  | .result jobId | .decision jobId => c.jobTenant jobId = some ws
  | .completion ws' => ws' = ws

/-- The job was drawn, and it is not a job of another workspace. -/
structure Known (c : CollectStore) (next : JobId) (ws : WorkspaceId) (jobId : JobId) : Prop where
  drawn : jobId < next
  tenant : ∀ ws', c.jobTenant jobId = some ws' → ws' = ws

/-- It collects the account, as long as the workspace of the job is found. -/
structure KnownFor (c : CollectStore) (next : JobId) (ws : WorkspaceId) (A : FixCloudAccountId) (jobId : JobId) : Prop
    extends Known c next ws jobId where
  account : c.jobTenant jobId = some ws → c.jobAccount ws jobId = some A

/-- **What the keys say of each other**; `clearing` are the workspaces whose progress is deleted and whose jobs are
not. -/
structure Tidy (c : CollectStore) (next : JobId) (clearing : WorkspaceId → Prop) : Prop where
  listed : ∀ ws J A, c.jobAccount ws J = some A → c.Known next ws J
  keyed : ∀ ws A p, c.accountCollectState ws A = some p → p.cloudAccountId = A
  tenants : ∀ J ws, c.jobTenant J = some ws → ∃ A, c.jobAccount ws J = some A ∧
    (clearing ws ∨ (c.accountCollectState ws A).isSome = true)
  cleared : ∀ ws, clearing ws → (c.progress ws).rows = []

/-- **Every entry and every hash waits for something.** -/
structure Carried (c : CollectStore) (pending : Pending → Prop) : Prop where
  unfinished : ∀ ws A p, c.accountCollectState ws A = some p → p.isDone = false →
    c.jobTenant p.attempt = some ws ∧ c.jobAccount ws p.attempt = some A ∧ pending (.result p.attempt)
  carried : ∀ ws, (c.progress ws).rows ≠ [] → ∃ x, pending x ∧ c.Concerns ws x

/-- What no command undoes for the jobs that were drawn before it. -/
structure Later (clearing : WorkspaceId → Prop) (c : CollectStore) (next : JobId) (c' : CollectStore) (next' : JobId) :
    Prop where
  drawn : next ≤ next'
  tenant : ∀ J ws, c'.jobTenant J = some ws → c.jobTenant J = some ws ∨ next ≤ J ∧ ¬clearing ws
  account : ∀ J ws A, c'.jobTenant J = some ws → c.jobAccount ws J = some A → c'.jobAccount ws J = some A

variable {c c' : CollectStore} {next next' : JobId} {clearing clearing' : WorkspaceId → Prop} {ws ws' : WorkspaceId}
  {A : FixCloudAccountId} {J : JobId} {pending pending' : Pending → Prop}

theorem rows_ne_nil_of_entry {p : AccountCollectProgress} (h : c.accountCollectState ws A = some p) :
    (c.progress ws).rows ≠ [] :=
  List.ne_nil_of_mem ((Dict.get_eq_some_iff _ _ _).1 h)

/-! ## The jobs that are known -/

theorem Later.tenant_of_drawn (h : Later clearing c next c' next') (hdrawn : J < next) (hJ : c'.jobTenant J = some ws) :
    c.jobTenant J = some ws := by
  obtain hold | ⟨hnew, -⟩ := h.tenant J ws hJ
  · exact hold
  · exact absurd hdrawn (Nat.not_lt.2 hnew)

theorem Known.later (h : c.Known next ws J) (hlater : Later clearing c next c' next') : c'.Known next' ws J :=
  ⟨Nat.lt_of_lt_of_le h.drawn hlater.drawn, fun ws' hws' => h.tenant ws' (hlater.tenant_of_drawn h.drawn hws')⟩

theorem KnownFor.later (h : c.KnownFor next ws A J) (hlater : Later clearing c next c' next') :
    c'.KnownFor next' ws A J :=
  ⟨h.toKnown.later hlater, fun hJ => hlater.account J ws A hJ (h.account (hlater.tenant_of_drawn h.drawn hJ))⟩

theorem Tidy.knownFor (h : c.Tidy next clearing) (hJ : c.jobAccount ws J = some A) : c.KnownFor next ws A J :=
  ⟨h.listed ws J A hJ, fun _ => hJ⟩

theorem Tidy.known_of_tenant (h : c.Tidy next clearing) (hJ : c.jobTenant J = some ws) : c.Known next ws J := by
  obtain ⟨A, hA, -⟩ := h.tenants J ws hJ
  exact h.listed ws J A hA

theorem Tidy.entry_of_tenant (h : c.Tidy next clearing) (hJ : c.jobTenant J = some ws)
    (hrows : (c.progress ws).rows ≠ []) (hknown : c.KnownFor next ws A J) :
    (c.accountCollectState ws A).isSome = true := by
  obtain ⟨A', hA', hclearing | hentry⟩ := h.tenants J ws hJ
  · exact absurd (h.cleared ws hclearing) hrows
  · rw [hknown.account hJ] at hA'
    cases hA'
    exact hentry

/-! ## The commands and the keys -/

theorem later_of_jobs (clearing : WorkspaceId → Prop) (htenant : c'.jobTenant = c.jobTenant)
    (hjobs : c'.jobs = c.jobs) (hnext : next ≤ next') : Later clearing c next c' next' := by
  refine ⟨hnext, fun J ws hJ => Or.inl (htenant ▸ hJ), fun J ws A _ hA => ?_⟩
  unfold jobAccount at hA ⊢
  rw [hjobs]
  exact hA

theorem Tidy.later (h : c.Tidy next clearing) (hnext : next ≤ next') : c.Tidy next' clearing := by
  refine ⟨fun ws J A hA => ?_, h.keyed, h.tenants, h.cleared⟩
  exact (h.listed ws J A hA).later (later_of_jobs clearing rfl rfl hnext)

section Track

variable {info : AccountInformation} {now : DateTime}

theorem progress_track_of_ne (hne : ws' ≠ ws) : (c.track ws A info J now).progress ws' = c.progress ws' :=
  Function.update_of_ne hne _ _

theorem later_track (h : c.Tidy next clearing) (hclearing : ¬clearing ws) :
    Later clearing c next (c.track ws A info next now) (next + 1) := by
  refine ⟨Nat.le_succ _, fun J ws' hJ => ?_, fun J ws' A' _ hA' => ?_⟩
  · rw [jobTenant_track] at hJ
    split at hJ
    · rename_i hnew
      cases hJ
      exact Or.inr ⟨Nat.le_of_eq hnew.symm, hclearing⟩
    · exact Or.inl hJ
  · rw [jobAccount_track, if_neg]
    · exact hA'
    · rintro ⟨-, rfl⟩
      exact Nat.lt_irrefl _ (h.listed ws' _ A' hA').drawn

theorem Tidy.track (h : c.Tidy next clearing) (hclearing : ¬clearing ws) :
    (c.track ws A info next now).Tidy (next + 1) clearing := by
  have hlater : Later clearing c next (c.track ws A info next now) (next + 1) := later_track h hclearing
  constructor
  · intro ws' J A' hA'
    rw [jobAccount_track] at hA'
    split at hA'
    · rename_i hnew
      obtain ⟨rfl, rfl⟩ := hnew
      refine ⟨Nat.lt_succ_self _, fun ws₁ hws₁ => ?_⟩
      rw [jobTenant_track, if_pos rfl] at hws₁
      exact (Option.some.inj hws₁).symm
    · exact (h.listed ws' J A' hA').later hlater
  · intro ws' A' p hp
    rw [entry_track] at hp
    split at hp
    · rename_i hnew
      cases hp
      exact hnew.2.symm
    · exact h.keyed ws' A' p hp
  · intro J ws' hJ
    rw [jobTenant_track] at hJ
    split at hJ
    · rename_i hnew
      cases hJ
      refine ⟨A, ?_, Or.inr ?_⟩
      · rw [jobAccount_track, if_pos ⟨rfl, hnew⟩]
      · rw [entry_track, if_pos ⟨rfl, rfl⟩]
        rfl
    · obtain ⟨A', hA', hentry⟩ := h.tenants J ws' hJ
      have hdrawn := (h.listed ws' J A' hA').drawn
      refine ⟨A', ?_, hentry.imp_right fun hentry => ?_⟩
      · rw [jobAccount_track, if_neg fun hnew => Nat.ne_of_lt hdrawn hnew.2]
        exact hA'
      · rw [entry_track]
        split
        · rfl
        · exact hentry
  · intro ws' hws'
    have hne : ws' ≠ ws := fun hsame => hclearing (hsame ▸ hws')
    rw [progress_track_of_ne hne]
    exact h.cleared ws' hws'

end Track

theorem progress_setProgress_of_ne (c : CollectStore) {p : AccountCollectProgress} (hne : ws' ≠ ws) :
    (c.setProgress ws A p).progress ws' = c.progress ws' := Function.update_of_ne hne _ _

theorem Tidy.setProgress (h : c.Tidy next clearing) {p : AccountCollectProgress} (hkey : p.cloudAccountId = A)
    (hrows : (c.progress ws).rows ≠ []) : (c.setProgress ws A p).Tidy next clearing := by
  constructor
  · exact fun ws' J A' hA' => (h.listed ws' J A' hA').later (later_of_jobs clearing rfl rfl (Nat.le_refl _))
  · intro ws' A' q hq
    rw [entry_setProgress] at hq
    split at hq
    · rename_i hsame
      cases hq
      exact hkey.trans hsame.2.symm
    · exact h.keyed ws' A' q hq
  · intro J ws' hJ
    obtain ⟨A', hA', hentry⟩ := h.tenants J ws' hJ
    refine ⟨A', hA', hentry.imp_right fun hentry => ?_⟩
    rw [entry_setProgress]
    split
    · rfl
    · exact hentry
  · intro ws' hws'
    have hne : ws' ≠ ws := fun hsame => hrows (hsame ▸ h.cleared ws' hws')
    rw [progress_setProgress_of_ne c hne]
    exact h.cleared ws' hws'

theorem progress_deleteProgress_of_ne (c : CollectStore) (hne : ws' ≠ ws) :
    (c.deleteProgress ws).progress ws' = c.progress ws' := Function.update_of_ne hne _ _

theorem rows_deleteProgress (c : CollectStore) (ws : WorkspaceId) : ((c.deleteProgress ws).progress ws).rows = [] := by
  unfold deleteProgress
  dsimp only
  rw [Function.update_self]
  rfl

theorem Tidy.deleteProgress (h : c.Tidy next clearing) (hclearing : ∀ ws', clearing' ws' ↔ clearing ws' ∨ ws' = ws) :
    (c.deleteProgress ws).Tidy next clearing' := by
  constructor
  · exact fun ws' J A' hA' => (h.listed ws' J A' hA').later (later_of_jobs clearing rfl rfl (Nat.le_refl _))
  · intro ws' A' p hp
    rw [entry_deleteProgress] at hp
    split at hp
    · cases hp
    · exact h.keyed ws' A' p hp
  · intro J ws' hJ
    obtain ⟨A', hA', hentry⟩ := h.tenants J ws' hJ
    refine ⟨A', hA', ?_⟩
    rw [hclearing, entry_deleteProgress]
    split
    · rename_i hsame
      exact Or.inl (Or.inr hsame)
    · exact hentry.imp_left Or.inl
  · intro ws' hws'
    by_cases hsame : ws' = ws
    · rw [hsame]
      exact rows_deleteProgress c ws
    · rw [progress_deleteProgress_of_ne c hsame]
      exact h.cleared ws' (((hclearing ws').1 hws').resolve_right hsame)

theorem later_deleteJobTenant (clearing : WorkspaceId → Prop) : Later clearing c next (c.deleteJobTenant J) next := by
  refine ⟨Nat.le_refl _, fun J' ws' hJ' => ?_, fun J' ws' A' _ hA' => hA'⟩
  rw [jobTenant_deleteJobTenant] at hJ'
  split at hJ'
  · cases hJ'
  · exact Or.inl hJ'

theorem Tidy.deleteJobTenant (h : c.Tidy next clearing) : (c.deleteJobTenant J).Tidy next clearing := by
  constructor
  · exact fun ws' J' A' hA' => (h.listed ws' J' A' hA').later (later_deleteJobTenant clearing)
  · exact h.keyed
  · intro J' ws' hJ'
    rw [jobTenant_deleteJobTenant] at hJ'
    split at hJ'
    · cases hJ'
    · exact h.tenants J' ws' hJ'
  · exact h.cleared

theorem later_deleteJobs (clearing : WorkspaceId → Prop) (hnone : ∀ J, c.jobTenant J ≠ some ws) :
    Later clearing c next (c.deleteJobs ws) next := by
  refine ⟨Nat.le_refl _, fun J' ws' hJ' => Or.inl hJ', fun J' ws' A' hJ' hA' => ?_⟩
  rw [jobAccount_deleteJobs, if_neg]
  · exact hA'
  · rintro rfl
    exact hnone J' hJ'

theorem Tidy.deleteJobs (h : c.Tidy next clearing) (hnone : ∀ J, c.jobTenant J ≠ some ws)
    (hsub : ∀ ws', clearing' ws' → clearing ws') (hkeep : ∀ ws', clearing ws' → ws' ≠ ws → clearing' ws') :
    (c.deleteJobs ws).Tidy next clearing' := by
  constructor
  · intro ws' J' A' hA'
    rw [jobAccount_deleteJobs] at hA'
    split at hA'
    · cases hA'
    · exact (h.listed ws' J' A' hA').later (later_deleteJobs clearing hnone)
  · exact h.keyed
  · intro J' ws' hJ'
    have hne : ws' ≠ ws := by
      rintro rfl
      exact hnone J' hJ'
    obtain ⟨A', hA', hentry⟩ := h.tenants J' ws' hJ'
    refine ⟨A', ?_, hentry.imp_left fun hws' => hkeep ws' hws' hne⟩
    rw [jobAccount_deleteJobs, if_neg hne]
    exact hA'
  · exact fun ws' hws' => h.cleared ws' (hsub ws' hws')

/-! ## The commands and what is left to do -/

theorem Concerns.congr (h : c'.jobTenant = c.jobTenant) {x : Pending} (hx : c.Concerns ws x) : c'.Concerns ws x := by
  cases x with
  | completion => exact hx
  | _ => exact (congrFun h _).trans hx

/-- **A command that leaves the keys as they are**: what is no longer to be done leaves nothing behind. -/
theorem Carried.releases (h : c.Carried pending) {x : Option Pending} (hkeep : ∀ y, pending y → x ≠ some y → pending' y)
    (hresult : ∀ J ws A p, x = some (.result J) → c.accountCollectState ws A = some p → p.isDone = false →
      p.attempt = J → pending' (.result J))
    (hcarried : ∀ y ws, x = some y → c.Concerns ws y → (c.progress ws).rows ≠ [] →
      (∃ z, pending' z ∧ c.Concerns ws z) ∨ (c.progress ws).allDone = false) : c.Carried pending' := by
  have hunfinished : ∀ ws A p, c.accountCollectState ws A = some p → p.isDone = false →
      c.jobTenant p.attempt = some ws ∧ c.jobAccount ws p.attempt = some A ∧ pending' (.result p.attempt) := by
    intro ws A p hp hopen
    obtain ⟨htenant, haccount, hpending⟩ := h.unfinished ws A p hp hopen
    refine ⟨htenant, haccount, ?_⟩
    by_cases hx : x = some (.result p.attempt)
    · exact hresult _ ws A p hx hp hopen rfl
    · exact hkeep _ hpending hx
  refine ⟨hunfinished, fun ws hrows => ?_⟩
  obtain ⟨y, hy, hconcerns⟩ := h.carried ws hrows
  by_cases hx : x = some y
  · obtain hfound | hopen := hcarried y ws hx hconcerns hrows
    · exact hfound
    · -- an entry that is not done waits for its own result
      obtain ⟨A, p, hp, hopen⟩ : ∃ A p, c.accountCollectState ws A = some p ∧ p.isDone = false := by
        by_contra hall
        refine Bool.eq_false_iff.1 hopen (allDone_iff c |>.2 fun A p hp => ?_)
        exact Bool.eq_true_of_not_eq_false fun hopen => hall ⟨A, p, hp, hopen⟩
      obtain ⟨htenant, -, hpending⟩ := hunfinished ws A p hp hopen
      exact ⟨_, hpending, htenant⟩
  · exact ⟨y, hkeep y hy hx, hconcerns⟩

theorem Carried.mono (h : c.Carried pending) (hkeep : ∀ y, pending y → pending' y) : c.Carried pending' :=
  ⟨fun ws A p hp hopen => (h.unfinished ws A p hp hopen).imp_right (And.imp_right (hkeep _)), fun ws hrows =>
    (h.carried ws hrows).imp fun _ => And.imp_left (hkeep _)⟩

theorem Carried.track (h : c.Carried pending) (htidy : c.Tidy next clearing) {info : AccountInformation}
    {now : DateTime}
    (hkeep : ∀ y, pending y → pending' y) (hnew : pending' (.result next)) :
    (c.track ws A info next now).Carried pending' := by
  have htenant : ∀ J ws', c.jobTenant J = some ws' → (c.track ws A info next now).jobTenant J = some ws' := by
    intro J ws' hJ
    rw [jobTenant_track, if_neg (Nat.ne_of_lt (htidy.known_of_tenant hJ).drawn)]
    exact hJ
  have hself : (c.track ws A info next now).jobTenant next = some ws := by rw [jobTenant_track, if_pos rfl]
  constructor
  · intro ws' A' p hp hopen
    rw [entry_track] at hp
    split at hp
    · rename_i hsame
      obtain ⟨rfl, rfl⟩ := hsame
      cases hp
      exact ⟨hself, by rw [jobAccount_track, if_pos ⟨rfl, rfl⟩], hnew⟩
    · obtain ⟨hJ, hA', hpending⟩ := h.unfinished ws' A' p hp hopen
      refine ⟨htenant _ _ hJ, ?_, hkeep _ hpending⟩
      rw [jobAccount_track, if_neg fun hsame => Nat.ne_of_lt (htidy.known_of_tenant hJ).drawn hsame.2]
      exact hA'
  · intro ws' hrows
    by_cases hsame : ws' = ws
    · exact ⟨_, hnew, hsame ▸ hself⟩
    · rw [progress_track_of_ne hsame] at hrows
      obtain ⟨y, hy, hconcerns⟩ := h.carried ws' hrows
      refine ⟨y, hkeep y hy, ?_⟩
      cases y with
      | completion => exact hconcerns
      | _ => exact htenant _ _ hconcerns

theorem Carried.setProgress (h : c.Carried pending) {p : AccountCollectProgress} (hdone : p.isDone = true)
    (hknown : c.KnownFor next ws A J) (hrows : (c.progress ws).rows ≠ [])
    (hkeep : ∀ y, pending y → some (.result J) ≠ some y → pending' y) (hdecision : pending' (.decision J)) :
    (c.setProgress ws A p).Carried pending' := by
  constructor
  · intro ws' A' q hq hopen
    rw [entry_setProgress] at hq
    split at hq
    · cases hq
      rw [hdone] at hopen
      cases hopen
    · rename_i hother
      obtain ⟨htenant, haccount, hpending⟩ := h.unfinished ws' A' q hq hopen
      refine ⟨htenant, haccount, hkeep _ hpending fun hJ => hother ?_⟩
      cases hJ
      cases hknown.tenant ws' htenant
      rw [hknown.account htenant] at haccount
      exact ⟨rfl, (Option.some.inj haccount).symm⟩
  · intro ws' hrows'
    have hbefore : (c.progress ws').rows ≠ [] := by
      by_cases hsame : ws' = ws
      · exact hsame ▸ hrows
      · rw [progress_setProgress_of_ne c hsame] at hrows'
        exact hrows'
    obtain ⟨y, hy, hconcerns⟩ := h.carried ws' hbefore
    by_cases hJ : some (Pending.result J) = some y
    · cases hJ
      exact ⟨_, hdecision, hconcerns⟩
    · exact ⟨y, hkeep y hy hJ, hconcerns.congr rfl⟩

theorem Carried.deleteProgress (h : c.Carried pending)
    (hkeep : ∀ y, pending y → some (.completion ws) ≠ some y → pending' y) :
      (c.deleteProgress ws).Carried pending' := by
  constructor
  · intro ws' A p hp hopen
    rw [entry_deleteProgress] at hp
    split at hp
    · cases hp
    · obtain ⟨htenant, haccount, hpending⟩ := h.unfinished ws' A p hp hopen
      exact ⟨htenant, haccount, hkeep _ hpending fun hsame => by cases hsame⟩
  · intro ws' hrows
    have hne : ws' ≠ ws := by
      rintro rfl
      exact hrows (rows_deleteProgress c ws')
    rw [progress_deleteProgress_of_ne c hne] at hrows
    obtain ⟨y, hy, hconcerns⟩ := h.carried ws' hrows
    refine ⟨y, hkeep y hy fun hsame => ?_, hconcerns.congr rfl⟩
    cases hsame
    exact hne hconcerns.symm

theorem Carried.deleteJobTenant (h : c.Carried pending) (hknown : c.Known next ws J) (hrows : (c.progress ws).rows = [])
    (hkeep : ∀ y, pending y → pending' y) : (c.deleteJobTenant J).Carried pending' := by
  have htenant : ∀ J' ws', (c.progress ws').rows ≠ [] → c.jobTenant J' = some ws' →
      (c.deleteJobTenant J).jobTenant J' = some ws' := by
    intro J' ws' hrows' hJ'
    rw [jobTenant_deleteJobTenant, if_neg]
    · exact hJ'
    · rintro rfl
      rw [hknown.tenant ws' hJ'] at hrows'
      exact hrows' hrows
  constructor
  · intro ws' A p hp hopen
    obtain ⟨hJ, haccount, hpending⟩ := h.unfinished ws' A p hp hopen
    exact ⟨htenant _ _ (rows_ne_nil_of_entry hp) hJ, haccount, hkeep _ hpending⟩
  · intro ws' hrows'
    obtain ⟨y, hy, hconcerns⟩ := h.carried ws' hrows'
    refine ⟨y, hkeep y hy, ?_⟩
    cases y with
    | completion => exact hconcerns
    | _ => exact htenant _ _ hrows' hconcerns

theorem Carried.deleteJobs (h : c.Carried pending) (hrows : (c.progress ws).rows = [])
    (hkeep : ∀ y, pending y → pending' y) : (c.deleteJobs ws).Carried pending' := by
  constructor
  · intro ws' A p hp hopen
    obtain ⟨hJ, haccount, hpending⟩ := h.unfinished ws' A p hp hopen
    refine ⟨hJ, ?_, hkeep _ hpending⟩
    rw [jobAccount_deleteJobs, if_neg]
    · exact haccount
    · rintro rfl
      exact rows_ne_nil_of_entry hp hrows
  · intro ws' hrows'
    obtain ⟨y, hy, hconcerns⟩ := h.carried ws' hrows'
    exact ⟨y, hkeep y hy, hconcerns.congr rfl⟩

end CollectStore

end Fix
