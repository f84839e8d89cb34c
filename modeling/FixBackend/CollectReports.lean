import FixBackend.OngoingCollects
/-!
# CollectReports — what a completed run reports

`complete_collect_job` reads the progress of a workspace, reports it, and deletes it, with awaits between.  What is
tracked or stored meanwhile is deleted without a report, and a progress that two calls complete is reported twice.
-/
namespace Fix

open Calendar Effects Machine

/-- What an event says of a finished entry. -/
def AccountCollectProgress.collectInfo (p : AccountCollectProgress) : Option CloudAccountCollectInfo :=
  p.collectionDone.map fun
    | .success scannedResources durationSeconds taskId resourceErrors =>
      ⟨p.accountId, scannedResources, durationSeconds, p.startedAt, some taskId, resourceErrors⟩
    | .failure durationSeconds taskId error => ⟨p.accountId, 0, durationSeconds, p.startedAt, taskId, [error]⟩

def DomainEvent.collectInfos : DomainEvent → List (FixCloudAccountId × CloudAccountCollectInfo)
  | tenantAccountsCollected _ cloudAccounts cloudAccountsFailed _ => cloudAccounts ++ cloudAccountsFailed
  | tenantAccountsCollectFailed _ cloudAccounts _ => cloudAccounts
  | _ => []

namespace DispatcherService

variable {ι : Type}

def reportsAttempt (jobId : JobId) (r : DomainEvent × CollectState) : Bool :=
  r.2.rows.any fun x => decide (x.2.attempt = jobId)

/-- **No collect result is lost or reported twice**: the entries that a completion is about to delete are finished, the
event that it published reports them, and an attempt is in at most one of the events published since `before`. -/
structure NothingLost (before : List DomainEvent) (s : DispatcherRun ι) : Prop where
  deleted : ∀ i workspaceId afterwards state event,
    s.phase i = .completes workspaceId afterwards (.deletesProgress state event) →
    ∀ accountId p, s.dispatcher.collects.accountCollectState workspaceId accountId = some p →
      p.isDone = true ∧ ∃ e info, event = some e ∧ e ∈ s.dispatcher.world.published ∧ p.collectInfo = some info ∧
        (accountId, info) ∈ e.collectInfos
  published : s.dispatcher.world.published = before ++ s.reports.map Prod.fst
  once : ∀ jobId, s.reports.countP (reportsAttempt jobId) ≤ 1

/-- A call leaves a progress alone that a completion is about to report and delete, and it stores a result for the
attempt whose entry is there. -/
def Phase.Undisturbing (s : DispatcherRun ι) : Phase → Prop
  | triggers t (.tracks _ _) => ∀ i, (s.phase i).completing ≠ some t.account.workspaceId
  | finishes _ (.stores workspaceId accountId p) => (∀ i, (s.phase i).completing ≠ some workspaceId) ∧
    (s.dispatcher.collects.accountCollectState workspaceId accountId).map (·.attempt) = some p.attempt
  | completes workspaceId _ .reads => (s.dispatcher.collects.progress workspaceId).rows ≠ [] →
    (s.dispatcher.collects.progress workspaceId).allDone = true → ∀ i, (s.phase i).completing ≠ some workspaceId
  | _ => True

def Undisturbing (s : DispatcherRun ι) : DispatcherMove ι → Prop
  | .resume i _ => (s.phase i).Undisturbing s
  | _ => True

/-! ## The event of a state -/

theorem mem_collectInfos (workspaceId : WorkspaceId) (nextRun : Option DateTime) {state : CollectState}
    {accountId : FixCloudAccountId} {p : AccountCollectProgress} (hp : (accountId, p) ∈ state.rows)
    (hdone : p.isDone = true) : ∃ e info, completionEvent workspaceId state nextRun = some e ∧
      p.collectInfo = some info ∧ (accountId, info) ∈ e.collectInfos := by
  unfold completionEvent
  cases hresult : p.collectionDone with
  | none =>
    unfold AccountCollectProgress.isDone at hdone
    rw [hresult] at hdone
    cases hdone
  | some result =>
    cases result with
    | success scannedResources durationSeconds taskId resourceErrors =>
      have hmem : (accountId, (⟨p.accountId, scannedResources, durationSeconds, p.startedAt, some taskId,
          resourceErrors⟩ : CloudAccountCollectInfo)) ∈ collectedSuccess state := by
        refine List.mem_filterMap.2 ⟨(accountId, p), hp, ?_⟩
        dsimp only
        rw [hresult]
      rw [if_pos (List.isEmpty_eq_false_iff.2 (List.ne_nil_of_mem hmem))]
      refine ⟨_, _, rfl, ?_, List.mem_append_left _ hmem⟩
      unfold AccountCollectProgress.collectInfo
      rw [hresult]
      rfl
    | failure durationSeconds taskId error =>
      have hmem : (accountId, (⟨p.accountId, 0, durationSeconds, p.startedAt, taskId, [error]⟩ :
          CloudAccountCollectInfo)) ∈ collectedFailed state := by
        refine List.mem_filterMap.2 ⟨(accountId, p), hp, ?_⟩
        dsimp only
        rw [hresult]
      have hinfo : p.collectInfo = some ⟨p.accountId, 0, durationSeconds, p.startedAt, taskId, [error]⟩ := by
        unfold AccountCollectProgress.collectInfo
        rw [hresult]
        rfl
      by_cases hsuccess : (collectedSuccess state).isEmpty = false
      · rw [if_pos hsuccess]
        exact ⟨_, _, rfl, hinfo, List.mem_append_right _ hmem⟩
      · rw [if_neg hsuccess, if_pos (List.isEmpty_eq_false_iff.2 (List.ne_nil_of_mem hmem))]
        exact ⟨_, _, rfl, hinfo, hmem⟩

theorem rows_of_completionEvent {workspaceId : WorkspaceId} {state : CollectState} {nextRun : Option DateTime}
    {event : DomainEvent} (h : completionEvent workspaceId state nextRun = some event) : state.rows ≠ [] := by
  intro hnil
  unfold completionEvent collectedSuccess collectedFailed at h
  rw [hnil] at h
  cases h

/-! ## The reports so far -/

def Phase.Told (reports : List (DomainEvent × CollectState)) : Phase → Prop
  | completes workspaceId _ (.publishes state event) => ∃ nextRun,
      completionEvent workspaceId state nextRun = some event
  | completes workspaceId _ (.deletesProgress state event) =>
    (∃ nextRun, completionEvent workspaceId state nextRun = event) ∧
    ∀ e, event = some e → (e, state) ∈ reports
  | _ => True

def Phase.published : Phase → Bool
  | completes _ _ (.deletesProgress _ (some _)) => true
  | _ => false

/-- **What has been reported and what has not.** -/
structure Reporting (before : List DomainEvent) (s : DispatcherRun ι) : Prop where
  published : s.dispatcher.world.published = before ++ s.reports.map Prod.fst
  window : ∀ i workspaceId state, (s.phase i).reading = some (workspaceId, state) →
    state = s.dispatcher.collects.progress workspaceId ∧ state.allDone = true
  told : ∀ i, (s.phase i).Told s.reports
  alone : ∀ i j workspaceId, (s.phase i).completing = some workspaceId → (s.phase j).completing = some workspaceId →
    (s.dispatcher.collects.progress workspaceId).rows ≠ [] → i = j
  fresh : ∀ ws A p, s.dispatcher.collects.accountCollectState ws A = some p → p.attempt < s.dispatcher.world.nextUuid
  freshReports : ∀ r ∈ s.reports, ∀ x ∈ r.2.rows, x.2.attempt < s.dispatcher.world.nextUuid
  distinct : ∀ ws A p ws' A' p', s.dispatcher.collects.accountCollectState ws A = some p →
    s.dispatcher.collects.accountCollectState ws' A' = some p' → p.attempt = p'.attempt → ws = ws' ∧ A = A'
  apart : ∀ ws A p, s.dispatcher.collects.accountCollectState ws A = some p →
    (∃ r ∈ s.reports, reportsAttempt p.attempt r = true) →
    ∃ i, (s.phase i).completing = some ws ∧ (s.phase i).published = true
  once : ∀ jobId, s.reports.countP (reportsAttempt jobId) ≤ 1

theorem Reporting.nothingLost {before : List DomainEvent} {s : DispatcherRun ι} (h : Reporting before s) :
    NothingLost before s := by
  refine ⟨fun i workspaceId afterwards state event hi accountId p hp => ?_, h.published, h.once⟩
  have hread := h.window i workspaceId state (by rw [hi]; rfl)
  have htold := h.told i
  rw [hi] at htold
  obtain ⟨⟨nextRun, hevent⟩, hreport⟩ := htold
  have hmem : (accountId, p) ∈ state.rows := by
    rw [hread.1]
    exact (Dict.get_eq_some_iff _ _ _).1 hp
  have hdone : p.isDone = true := by
    have hall := hread.2
    rw [hread.1, CollectStore.allDone_iff] at hall
    exact hall accountId p hp
  obtain ⟨e, info, he, hinfo, hmem'⟩ := mem_collectInfos workspaceId nextRun hmem hdone
  rw [hevent] at he
  refine ⟨hdone, e, info, he, ?_, hinfo, hmem'⟩
  rw [h.published]
  exact List.mem_append_right _ (List.mem_map_of_mem (hreport e he))

/-! ## One move -/

section Move

variable {before : List DomainEvent} {s s' : DispatcherRun ι}

theorem Phase.told_of_reading {p : Phase} (h : p.reading = none) (reports : List (DomainEvent × CollectState)) :
    p.Told reports := by
  cases p with
  | completes workspaceId afterwards a =>
    cases a with
    | publishes | deletesProgress => cases h
    | _ => trivial
  | _ => trivial

theorem Phase.told_append {p : Phase} {reports : List (DomainEvent × CollectState)} (h : p.Told reports)
    (more : List (DomainEvent × CollectState)) : p.Told (reports ++ more) := by
  cases p with
  | completes workspaceId afterwards a =>
    cases a with
    | deletesProgress state event => exact ⟨h.1, fun e he => List.mem_append_left _ (h.2 e he)⟩
    | _ => exact h
  | _ => trivial

theorem Phase.completing_of_published {p : Phase} (h : p.published = true) : p.reading ≠ none := by
  cases p with
  | completes workspaceId afterwards a =>
    cases a with
    | deletesProgress state event => exact Option.some_ne_none _
    | _ => cases h
  | _ => cases h

theorem Phase.completing_of_reading {p : Phase} {workspaceId : WorkspaceId} {state : CollectState}
    (h : p.reading = some (workspaceId, state)) : p.completing = some workspaceId := by
  unfold Phase.completing
  rw [h]
  rfl

theorem Phase.completing_of_none {p : Phase} (h : p.reading = none) : p.completing = none := by
  unfold Phase.completing
  rw [h]
  rfl

theorem Reporting.writes (h : Reporting before s) (ws : WorkspaceId) (accountId : FixCloudAccountId)
    (hreports : s'.reports = s.reports) (hpublished : s'.dispatcher.world.published = s.dispatcher.world.published)
    (hlater : s.dispatcher.world.nextUuid ≤ s'.dispatcher.world.nextUuid)
    (hphase : ∀ j, s'.phase j = s.phase j ∨ (s.phase j).reading = none ∧ (s'.phase j).reading = none)
    (hother : ∀ ws', (∃ j, (s.phase j).completing = some ws') ∨ ws' ≠ ws →
      s'.dispatcher.collects.progress ws' = s.dispatcher.collects.progress ws')
    (hentries : ∀ ws' A p, s'.dispatcher.collects.accountCollectState ws' A = some p →
      (∃ q, s.dispatcher.collects.accountCollectState ws' A = some q ∧ q.attempt = p.attempt) ∨
        ws' = ws ∧ A = accountId ∧ p.attempt = s.dispatcher.world.nextUuid ∧
          s.dispatcher.world.nextUuid < s'.dispatcher.world.nextUuid) : Reporting before s' := by
  have hcompleting : ∀ j ws', (s'.phase j).completing = some ws' →
      s'.phase j = s.phase j ∧ (s.phase j).completing = some ws' := by
    intro j ws' hj
    obtain hsame | ⟨-, hnone⟩ := hphase j
    · exact ⟨hsame, hsame ▸ hj⟩
    · rw [Phase.completing_of_none hnone] at hj
      cases hj
  constructor
  · rw [hpublished, hreports]
    exact h.published
  · intro j ws' state hj
    obtain ⟨hsame, hj'⟩ := hcompleting j ws' (Phase.completing_of_reading hj)
    rw [hother ws' (Or.inl ⟨j, hj'⟩)]
    rw [hsame] at hj
    exact h.window j ws' state hj
  · intro j
    rw [hreports]
    obtain hsame | ⟨-, hnone⟩ := hphase j
    · rw [hsame]
      exact h.told j
    · exact Phase.told_of_reading hnone _
  · intro j k ws' hj hk hrows
    obtain ⟨-, hj'⟩ := hcompleting j ws' hj
    rw [hother ws' (Or.inl ⟨j, hj'⟩)] at hrows
    exact h.alone j k ws' hj' (hcompleting k ws' hk).2 hrows
  · intro ws' A p hp
    obtain ⟨q, hq, hattempt⟩ | ⟨-, -, hattempt, hlt⟩ := hentries ws' A p hp
    · rw [← hattempt]
      exact Nat.lt_of_lt_of_le (h.fresh ws' A q hq) hlater
    · rw [hattempt]
      exact hlt
  · intro r hr x hx
    rw [hreports] at hr
    exact Nat.lt_of_lt_of_le (h.freshReports r hr x hx) hlater
  · intro ws₁ A₁ p₁ ws₂ A₂ p₂ h₁ h₂ hsame
    obtain ⟨q₁, hq₁, hattempt₁⟩ | ⟨hws₁, hA₁, hattempt₁, -⟩ := hentries ws₁ A₁ p₁ h₁
    · obtain ⟨q₂, hq₂, hattempt₂⟩ | ⟨-, -, hattempt₂, -⟩ := hentries ws₂ A₂ p₂ h₂
      · exact h.distinct ws₁ A₁ q₁ ws₂ A₂ q₂ hq₁ hq₂ (hattempt₁.trans (hsame.trans hattempt₂.symm))
      · refine absurd ?_ (Nat.ne_of_lt (h.fresh ws₁ A₁ q₁ hq₁))
        exact hattempt₁.trans (hsame.trans hattempt₂)
    · obtain ⟨q₂, hq₂, hattempt₂⟩ | ⟨hws₂, hA₂, -, -⟩ := hentries ws₂ A₂ p₂ h₂
      · refine absurd ?_ (Nat.ne_of_lt (h.fresh ws₂ A₂ q₂ hq₂))
        exact hattempt₂.trans (hsame.symm.trans hattempt₁)
      · exact ⟨hws₁.trans hws₂.symm, hA₁.trans hA₂.symm⟩
  · rintro ws' A p hp ⟨r, hr, hx⟩
    rw [hreports] at hr
    obtain ⟨q, hq, hattempt⟩ | ⟨-, -, hattempt, -⟩ := hentries ws' A p hp
    · obtain ⟨j, hj, hpub⟩ := h.apart ws' A q hq ⟨r, hr, hattempt ▸ hx⟩
      obtain hsame | ⟨hnone, -⟩ := hphase j
      · exact ⟨j, hsame ▸ hj, hsame ▸ hpub⟩
      · exact absurd hnone (Phase.completing_of_published hpub)
    · unfold reportsAttempt at hx
      obtain ⟨x, hmem, hx⟩ := List.any_eq_true.1 hx
      refine absurd ?_ (Nat.ne_of_lt (h.freshReports r hr x hmem))
      rw [← hattempt]
      exact of_decide_eq_true hx
  · intro jobId
    rw [hreports]
    exact h.once jobId

/-- What a move has to leave as it was. -/
theorem Reporting.quiet (h : Reporting before s) (hreports : s'.reports = s.reports)
    (hpublished : s'.dispatcher.world.published = s.dispatcher.world.published)
    (hlater : s.dispatcher.world.nextUuid ≤ s'.dispatcher.world.nextUuid)
    (hphase : ∀ j, s'.phase j = s.phase j ∨ (s.phase j).reading = none ∧ (s'.phase j).reading = none)
    (hprogress : s'.dispatcher.collects.progress = s.dispatcher.collects.progress) : Reporting before s' := by
  refine h.writes 0 0 hreports hpublished hlater hphase (fun ws' _ => by rw [hprogress]) fun ws' A p hp =>
    Or.inl ⟨p, ?_, rfl⟩
  unfold CollectStore.accountCollectState at hp ⊢
  rw [← hprogress]
  exact hp

section Completion

variable [DecidableEq ι] {i : ι} {workspaceId : WorkspaceId} {afterwards : Option (List PostCollectAccountInfo)}
  {state : CollectState} {event : DomainEvent} {inFlight : List Finished}

theorem Reporting.advances (h : Reporting before s) {q : Phase}
    (hread : ∀ ws st, q.reading = some (ws, st) → st = s.dispatcher.collects.progress ws ∧ st.allDone = true)
    (htold : q.Told s.reports)
    (halone : ∀ j ws, q.completing = some ws → (s.phase j).completing = some ws →
      (s.dispatcher.collects.progress ws).rows ≠ [] → j = i) (hunpublished : (s.phase i).published = false) :
    Reporting before { s with phase := Function.update s.phase i q } := by
  constructor
  · exact h.published
  · exact (Function.forall_update_iff s.phase (p := fun _ r => ∀ ws st, r.reading = some (ws, st) →
      st = s.dispatcher.collects.progress ws ∧ st.allDone = true)).2 ⟨hread, fun j _ => h.window j⟩
  · exact (Function.forall_update_iff s.phase (p := fun _ r => r.Told s.reports)).2 ⟨htold, fun j _ => h.told j⟩
  · intro j k ws hj hk hrows
    dsimp only at hj hk hrows
    by_cases hji : j = i
    · by_cases hki : k = i
      · exact hji.trans hki.symm
      · rw [hji, Function.update_self] at hj
        rw [Function.update_of_ne hki] at hk
        exact absurd (halone k ws hj hk hrows) hki
    · rw [Function.update_of_ne hji] at hj
      by_cases hki : k = i
      · rw [hki, Function.update_self] at hk
        exact absurd (halone j ws hk hj hrows) hji
      · rw [Function.update_of_ne hki] at hk
        exact h.alone j k ws hj hk hrows
  · exact h.fresh
  · exact h.freshReports
  · exact h.distinct
  · intro ws A p hp hreported
    obtain ⟨j, hj, hpub⟩ := h.apart ws A p hp hreported
    have hji : j ≠ i := by
      rintro rfl
      rw [hunpublished] at hpub
      cases hpub
    refine ⟨j, ?_, ?_⟩
    · dsimp only
      rw [Function.update_of_ne hji]
      exact hj
    · dsimp only
      rw [Function.update_of_ne hji]
      exact hpub
  · exact h.once

theorem Reporting.reads (h : Reporting before s) (hp : s.phase i = .completes workspaceId afterwards .reads)
    (hdone : (s.dispatcher.collects.progress workspaceId).allDone = true) (hguard : (s.phase i).Undisturbing s) :
    Reporting before { s with
      phase := Function.update s.phase i
        (.completes workspaceId afterwards (.asksNextRun (s.dispatcher.collects.progress workspaceId))) } := by
  rw [hp] at hguard
  refine h.advances (fun ws st hread => ?_) trivial (fun j ws hq hj hrows => ?_) (by rw [hp]; rfl)
  · cases hread
    exact ⟨rfl, hdone⟩
  · cases hq
    exact absurd hj (hguard hrows hdone j)

theorem Reporting.announces (h : Reporting before s)
    (hp : s.phase i = .completes workspaceId afterwards (.asksNextRun state))
    {a : CompleteAwait} (hread : (Phase.completes workspaceId afterwards a).reading = some (workspaceId, state))
    (htold : (Phase.completes workspaceId afterwards a).Told s.reports) :
    Reporting before { s with phase := Function.update s.phase i (.completes workspaceId afterwards a) } := by
  have hi : (s.phase i).reading = some (workspaceId, state) := by rw [hp]; rfl
  refine h.advances (fun ws st hread' => ?_) htold (fun j ws hq hj hrows => ?_) (by rw [hp]; rfl)
  · rw [hread] at hread'
    cases hread'
    exact h.window i _ _ hi
  · rw [Phase.completing_of_reading hread] at hq
    cases hq
    exact h.alone j i _ hj (Phase.completing_of_reading hi) hrows

theorem Reporting.publishes (h : Reporting before s)
    (hp : s.phase i = .completes workspaceId afterwards (.publishes state event)) : Reporting before
      { s with
        dispatcher := { s.dispatcher with
          world := { s.dispatcher.world with published := s.dispatcher.world.published ++ [event] } }
        phase := Function.update s.phase i (.completes workspaceId afterwards (.deletesProgress state (some event)))
        reports := s.reports ++ [(event, state)] } := by
  have hread : (s.phase i).reading = some (workspaceId, state) := by rw [hp]; rfl
  have hi := Phase.completing_of_reading hread
  obtain ⟨hstate, hdone⟩ := h.window i _ _ hread
  have htold := h.told i
  rw [hp] at htold
  obtain ⟨nextRun, hevent⟩ := htold
  have hrows : (s.dispatcher.collects.progress workspaceId).rows ≠ [] := hstate ▸ rows_of_completionEvent hevent
  have hunpublished : ∀ j, (s.phase j).completing = some workspaceId → (s.phase j).published = false := by
    intro j hj
    rw [h.alone j i workspaceId hj hi hrows, hp]
    rfl
  -- an attempt of the state was in no report before
  have hnew : ∀ x ∈ state.rows, ∀ r ∈ s.reports, reportsAttempt x.2.attempt r = false := by
    intro x hx r hr
    rw [← Bool.not_eq_true]
    intro hreported
    have hentry : s.dispatcher.collects.accountCollectState workspaceId x.1 = some x.2 := by
      unfold CollectStore.accountCollectState
      rw [Dict.get_eq_some_iff, ← hstate]
      exact hx
    obtain ⟨j, hj, hpub⟩ := h.apart workspaceId x.1 x.2 hentry ⟨r, hr, hreported⟩
    rw [hunpublished j hj] at hpub
    cases hpub
  have hphase : ∀ j ws, (Function.update s.phase i (.completes workspaceId afterwards
      (.deletesProgress state (some event))) j).completing = some ws → (s.phase j).completing = some ws := by
    refine (Function.forall_update_iff s.phase (p := fun j r => ∀ ws, r.completing = some ws →
      (s.phase j).completing = some ws)).2 ⟨fun ws hq => ?_, fun j _ ws hj => hj⟩
    rw [hi]
    exact hq
  constructor
  · dsimp only
    rw [h.published, List.map_append, List.append_assoc]
    rfl
  · refine (Function.forall_update_iff s.phase (p := fun _ r => ∀ ws st, r.reading = some (ws, st) →
      st = s.dispatcher.collects.progress ws ∧ st.allDone = true)).2 ⟨fun ws st hq => ?_, fun j _ => h.window j⟩
    cases hq
    exact ⟨hstate, hdone⟩
  · refine (Function.forall_update_iff s.phase (p := fun _ r => r.Told (s.reports ++ [(event, state)]))).2
      ⟨⟨⟨nextRun, hevent⟩, fun e he => ?_⟩, fun j _ => Phase.told_append (h.told j) _⟩
    cases he
    exact List.mem_append_right _ List.mem_cons_self
  · exact fun j k ws hj hk => h.alone j k ws (hphase j ws hj) (hphase k ws hk)
  · exact h.fresh
  · intro r hr x hx
    obtain hold | hnew' := List.mem_append.1 hr
    · exact h.freshReports r hold x hx
    · rw [List.mem_singleton.1 hnew', hstate] at hx
      exact h.fresh workspaceId x.1 x.2 ((Dict.get_eq_some_iff _ _ _).2 hx)
  · exact h.distinct
  · rintro ws A p hentry ⟨r, hr, hreported⟩
    obtain hold | hnew' := List.mem_append.1 hr
    · obtain ⟨j, hj, hpub⟩ := h.apart ws A p hentry ⟨r, hold, hreported⟩
      have hji : j ≠ i := by
        rintro rfl
        rw [hp] at hpub
        cases hpub
      refine ⟨j, ?_, ?_⟩
      · dsimp only
        rw [Function.update_of_ne hji]
        exact hj
      · dsimp only
        rw [Function.update_of_ne hji]
        exact hpub
    · rw [List.mem_singleton.1 hnew'] at hreported
      obtain ⟨x, hx, hattempt⟩ := List.any_eq_true.1 hreported
      have hentry' : s.dispatcher.collects.accountCollectState workspaceId x.1 = some x.2 := by
        unfold CollectStore.accountCollectState
        rw [Dict.get_eq_some_iff, ← hstate]
        exact hx
      obtain ⟨rfl, -⟩ := h.distinct _ _ _ _ _ _ hentry' hentry (of_decide_eq_true hattempt)
      refine ⟨i, ?_, ?_⟩
      · dsimp only
        rw [Function.update_self]
        rfl
      · dsimp only
        rw [Function.update_self]
        rfl
  · intro jobId
    dsimp only
    rw [List.countP_append, List.countP_singleton]
    split
    · rename_i hreported
      obtain ⟨x, hx, hattempt⟩ := List.any_eq_true.1 hreported
      rw [← of_decide_eq_true hattempt, List.countP_eq_zero.2
        fun r hr => by rw [hnew x hx r hr]; exact Bool.false_ne_true]
    · exact h.once jobId

theorem Reporting.deletes (h : Reporting before s) {event : Option DomainEvent}
    (hp : s.phase i = .completes workspaceId afterwards (.deletesProgress state event)) : Reporting before
      { s with
        dispatcher := { s.dispatcher with collects := s.dispatcher.collects.deleteProgress workspaceId }
        phase := Function.update s.phase i (.completes workspaceId afterwards .listsJobs) } := by
  have hi : (s.phase i).completing = some workspaceId := by rw [hp]; rfl
  have hphase : ∀ j ws, (Function.update s.phase i (.completes workspaceId afterwards .listsJobs) j).completing =
      some ws →
      j ≠ i ∧ (s.phase j).completing = some ws := by
    intro j ws hj
    by_cases hji : j = i
    · rw [hji, Function.update_self] at hj
      cases hj
    · rw [Function.update_of_ne hji] at hj
      exact ⟨hji, hj⟩
  have hentry : ∀ ws A p, (s.dispatcher.collects.deleteProgress workspaceId).accountCollectState ws A = some p →
      ws ≠ workspaceId ∧ s.dispatcher.collects.accountCollectState ws A = some p := by
    intro ws A p hentry
    rw [CollectStore.entry_deleteProgress] at hentry
    split at hentry
    · cases hentry
    · rename_i hne
      exact ⟨hne, hentry⟩
  constructor
  · exact h.published
  · intro j ws st hj
    obtain ⟨hji, hj'⟩ := hphase j ws (Phase.completing_of_reading hj)
    dsimp only at hj
    rw [Function.update_of_ne hji] at hj
    obtain ⟨hst, hdone⟩ := h.window j ws st hj
    refine ⟨?_, hdone⟩
    unfold CollectStore.deleteProgress
    dsimp only
    by_cases hws : ws = workspaceId
    · subst hws
      have hempty : (s.dispatcher.collects.progress ws).rows = [] := by
        by_contra hrows
        exact hji (h.alone j i ws hj' hi hrows)
      rw [Function.update_self, hst]
      cases hprogress : s.dispatcher.collects.progress ws
      rw [hprogress] at hempty
      cases hempty
      rfl
    · rw [Function.update_of_ne hws]
      exact hst
  · exact (Function.forall_update_iff s.phase (p := fun _ r => r.Told s.reports)).2 ⟨trivial, fun j _ => h.told j⟩
  · intro j k ws hj hk hrows
    have hne : ws ≠ workspaceId := by
      rintro rfl
      unfold CollectStore.deleteProgress at hrows
      dsimp only at hrows
      rw [Function.update_self] at hrows
      exact hrows rfl
    refine h.alone j k ws (hphase j ws hj).2 (hphase k ws hk).2 ?_
    unfold CollectStore.deleteProgress at hrows
    dsimp only at hrows
    rw [Function.update_of_ne hne] at hrows
    exact hrows
  · exact fun ws A p hp' => h.fresh ws A p (hentry ws A p hp').2
  · exact h.freshReports
  · exact fun ws A p ws' A' p' h₁ h₂ => h.distinct ws A p ws' A' p' (hentry ws A p h₁).2 (hentry ws' A' p' h₂).2
  · intro ws A p hp' hreported
    obtain ⟨hws, hp'⟩ := hentry ws A p hp'
    obtain ⟨j, hj, hpub⟩ := h.apart ws A p hp' hreported
    have hji : j ≠ i := by
      rintro rfl
      rw [hi] at hj
      exact hws (Option.some.inj hj).symm
    refine ⟨j, ?_, ?_⟩
    · dsimp only
      rw [Function.update_of_ne hji]
      exact hj
    · dsimp only
      rw [Function.update_of_ne hji]
      exact hpub
  · exact h.once

end Completion

section Resume

theorem Reporting.silently {e : Dispatcher} {inFlight : List Finished} {phase : ι → Phase}
    (h : Reporting before ⟨e, inFlight, phase, s.reports⟩) :
      Reporting before ⟨e, inFlight, phase, s.reports ++ []⟩ := by
  rw [List.append_nil]
  exact h

variable [DecidableEq ι] {i : ι}

theorem Phase.reading_of_stops {raises : Bool} {d : Dispatcher} {p : Phase} (h : p.Stops raises d) :
    p.reading = none ∧ p.reporting = [] := by
  cases p with
  | completes => cases h
  | _ => exact ⟨rfl, rfl⟩

theorem phase_update_cases {q : Phase} (hp : (s.phase i).reading = none) (hq : q.reading = none) (j : ι) :
    Function.update s.phase i q j = s.phase j ∨
      (s.phase j).reading = none ∧ (Function.update s.phase i q j).reading = none := by
  by_cases hji : j = i
  · subst hji
    refine Or.inr ⟨hp, ?_⟩
    rw [Function.update_self]
    exact hq
  · exact Or.inl (Function.update_of_ne hji _ _)

theorem Reporting.passes (h : Reporting before s) {q : Phase} {e : Dispatcher} {inFlight : List Finished}
    (hp : (s.phase i).reading = none) (hq : q.reading = none)
    (hpublished : e.world.published = s.dispatcher.world.published)
    (hlater : s.dispatcher.world.nextUuid ≤ e.world.nextUuid)
    (hprogress : e.collects.progress = s.dispatcher.collects.progress) :
    Reporting before ⟨e, inFlight, Function.update s.phase i q, s.reports⟩ :=
  h.quiet rfl hpublished hlater (phase_update_cases hp hq) hprogress

/-- **A call goes on** and disturbs no completion. -/
theorem Reporting.resumes (h : Reporting before s) {raises : Bool} {q : Phase} {e : Dispatcher}
    (hguard : (s.phase i).Undisturbing s) (hgoes : Goes raises s.dispatcher (s.phase i) q e) :
    Reporting before ⟨e, s.inFlight, Function.update s.phase i q, s.reports ++ (s.phase i).reporting⟩ := by
  have hguard' := hguard
  generalize hp : s.phase i = p at hgoes hguard' ⊢
  have hnone : p.reading = none → (s.phase i).reading = none := fun hread => hp.symm ▸ hread
  cases hgoes with
  | publishes => exact h.publishes hp
  | stops hstops =>
    obtain ⟨hread, hreporting⟩ := Phase.reading_of_stops hstops
    rw [hreporting, List.append_nil]
    exact h.passes (hnone hread) rfl rfl (Nat.le_refl _) rfl
  | reads hdone =>
    exact (h.reads hp hdone hguard).silently
  | announces hevent =>
    refine .silently (h.announces hp rfl ?_)
    exact ⟨_, hevent⟩
  | announcesNothing hevent =>
    refine .silently (h.announces hp rfl ?_)
    exact ⟨⟨_, hevent⟩, fun e he => by cases he⟩
  | deletesProgress =>
    exact (h.deletes hp).silently
  | @tracks t info db =>
    refine .silently (h.writes t.account.workspaceId t.account.id rfl rfl (Nat.le_succ _)
      (phase_update_cases (hnone rfl) rfl)
      (fun ws' hws' => ?_) fun ws' A x hx => ?_)
    · have hne : ws' ≠ t.account.workspaceId := by
        rintro rfl
        obtain ⟨j, hj⟩ | hne := hws'
        · exact hguard' j hj
        · exact hne rfl
      exact Function.update_of_ne hne _ _
    · rw [CollectStore.entry_track] at hx
      split at hx
      · rename_i hsame
        cases hx
        exact Or.inr ⟨hsame.1, hsame.2, rfl, Nat.lt_succ_self _⟩
      · exact Or.inl ⟨x, hx, rfl⟩
  | @stores m ws accountId y =>
    obtain ⟨hfree, hattempt⟩ := hguard'
    refine .silently (h.writes ws accountId rfl rfl (Nat.le_refl _) (phase_update_cases (hnone rfl) rfl)
      (fun ws' hws' => ?_) fun ws' A x hx => ?_)
    · have hne : ws' ≠ ws := by
        rintro rfl
        obtain ⟨j, hj⟩ | hne := hws'
        · exact hfree j hj
        · exact hne rfl
      exact Function.update_of_ne hne _ _
    · rw [CollectStore.entry_setProgress] at hx
      split at hx
      · rename_i hsame
        cases hx
        obtain ⟨z, hz, hz'⟩ := Option.map_eq_some_iff.1 hattempt
        exact Or.inl ⟨z, by rw [hsame.1, hsame.2]; exact hz, hz'⟩
      · exact Or.inl ⟨x, hx, rfl⟩
  | readsTier hlater =>
    exact .silently (h.passes (hnone rfl) rfl rfl hlater rfl)
  | waits | deletesJobs =>
    exact .silently (h.passes (hnone rfl) (Phase.reading_returning _ _) rfl (Nat.le_refl _) rfl)
  | _ =>
    exact .silently (h.passes (hnone rfl) rfl rfl (Nat.le_refl _) rfl)

theorem Phase.reading_of_idle {p : Phase} (h : p.isIdle = true) : p.reading = none := by
  cases p with
  | idle => rfl
  | _ => cases h

/-- **Every move that disturbs no completion keeps the reports right.** -/
theorem Reporting.moves (h : Reporting before s) {move : DispatcherMove ι} (hguard : Undisturbing s move)
    (hstep : dispatcherStep s move = some s') : Reporting before s' := by
  cases move with
  | trigger i t =>
    obtain ⟨hidle, rfl⟩ := triggered hstep
    exact h.passes (Phase.reading_of_idle hidle) rfl rfl (Nat.le_refl _) rfl
  | deliver i x again =>
    obtain ⟨hidle, -, rfl⟩ := delivered hstep
    have hq : (received x.message).reading = none := by
      obtain hq | ⟨job, success, -, hq⟩ | ⟨job, m, failed, error, -, hq⟩ | ⟨job, m, failed, c, -, hq, -⟩ :=
        received_cases x
      all_goals rw [hq]; rfl
    exact h.passes (Phase.reading_of_idle hidle) hq rfl (Nat.le_refl _) rfl
  | resume i raises =>
    obtain ⟨q, e, hgoes, rfl⟩ := resumed hstep
    exact h.resumes hguard hgoes
  | finish job m failed =>
    obtain ⟨-, -, rfl⟩ := finished hstep
    exact h.quiet rfl rfl (Nat.le_refl _) (fun _ => Or.inl rfl) rfl
  | finishPostCollect job success =>
    obtain ⟨-, rfl⟩ := finishedPostCollect hstep
    exact h.quiet rfl rfl (Nat.le_refl _) (fun _ => Or.inl rfl) rfl
  | surroundings x =>
    cases hstep
    exact h.quiet rfl rfl (Nat.le_refl _) (fun _ => Or.inl rfl) rfl

end Resume

end Move

/-! ## Every run -/

theorem reporting_begin (d : Dispatcher) : Reporting d.world.published (DispatcherRun.begin d : DispatcherRun ι) := by
  constructor
  · exact (List.append_nil _).symm
  · intro i workspaceId state hi
    cases hi
  · exact fun _ => trivial
  · intro i j workspaceId hi
    cases hi
  · intro ws A p hp
    cases hp
  · intro r hr
    cases hr
  · intro ws A p ws' A' p' hp
    cases hp
  · intro ws A p hp
    cases hp
  · exact fun _ => Nat.zero_le _

/-- **Nothing is lost and nothing reported twice**, along the runs in which no completion is disturbed. -/
theorem nothingLost_of_undisturbed [DecidableEq ι] (d : Dispatcher) {moves : List (DispatcherMove ι)}
    {s : DispatcherRun ι}
    (hguard : Along dispatcherStep Undisturbing (DispatcherRun.begin d) moves)
    (hrun : run dispatcherStep (DispatcherRun.begin d) moves = some s) : NothingLost d.world.published s := by
  have hreporting : Reporting d.world.published s :=
    run_along (fun s move s' hs hmove hstep => hs.moves hmove hstep) (reporting_begin d) hguard hrun
  exact hreporting.nothingLost

/-! ## A job that is tracked while a run is completed -/

section Guard

variable [Fintype ι]

instance (s : DispatcherRun ι) (p : Phase) : Decidable (p.Undisturbing s) :=
  match p with
  | .triggers t (.tracks _ _) => inferInstanceAs (Decidable (∀ i, (s.phase i).completing ≠ some t.account.workspaceId))
  | .finishes _ (.stores workspaceId accountId p) =>
    inferInstanceAs (Decidable ((∀ i, (s.phase i).completing ≠ some workspaceId) ∧
      (s.dispatcher.collects.accountCollectState workspaceId accountId).map (·.attempt) = some p.attempt))
  | .completes workspaceId _ .reads =>
    inferInstanceAs (Decidable ((s.dispatcher.collects.progress workspaceId).rows ≠ [] →
      (s.dispatcher.collects.progress workspaceId).allDone = true → ∀ i, (s.phase i).completing ≠ some workspaceId))
  | .triggers _ .checks | .triggers _ .loads | .triggers _ (.opens _) | .triggers _ (.enqueues _)
  | .finishes _ (.findsWorkspace _) | .finishes _ (.findsJob _ _) | .finishes _ (.findsEntry _ _ _)
  | .finishes _ (.readsTier _) | .finishes _ (.meters _ _) | .finishes _ (.findsOwnJob _ _)
  | .finishes _ (.findsOwnEntry _ _ _) | .finishes _ (.readsState _ _ _) | .idle | .continues _ | .decides _
  | .opensPostCollect _ _ | .enqueuesPostCollect _ | .postCollects _ _ | .completes _ _ (.asksNextRun _)
  | .completes _ _ (.publishes _ _) | .completes _ _ (.deletesProgress _ _) | .completes _ _ .listsJobs
  | .completes _ _ (.deletesJobs _) => isTrue trivial

instance (s : DispatcherRun ι) (move : DispatcherMove ι) : Decidable (Undisturbing s move) :=
  match move with
  | .resume i _ => inferInstanceAs (Decidable ((s.phase i).Undisturbing s))
  | .trigger _ _ | .deliver _ _ _ | .finish _ _ _ | .finishPostCollect _ _ | .surroundings _ => isTrue trivial

end Guard

def oneDatabase : GraphDatabaseAccess := ⟨1, "server", "fix", "secret", "one"⟩

/-- The job that the first call enqueues, and the message that it ends with. -/
def awsJob : CollectJob :=
  ⟨100, oneDatabase, .aws "123456789012" none "arn:aws:iam::123456789012:role/FixRole" 7, none, none, 21,
    .regularCollect⟩

def awsDone : JobMessage := ⟨100, none, some "task-100", some 60, some ⟨1, [], [], runStart⟩⟩

/-- An account is collected and post-collected, up to the await at which the progress is deleted. -/
def collectedOnce : List (DispatcherMove Bool) :=
  .trigger false (awsTrigger 21 .regularCollect) :: List.replicate 5 (.resume false false) ++
  [.finish awsJob awsDone false, .deliver false (.collect awsJob awsDone false) false] ++
  List.replicate 10 (.resume false false) ++
  [.finishPostCollect ⟨oneDatabase, [⟨.aws, "123456789012", "task-100"⟩]⟩ true,
    .deliver false (.postCollect ⟨oneDatabase, [⟨.aws, "123456789012", "task-100"⟩]⟩ true) false] ++
  List.replicate 4 (.resume false false)

/-- Another account is tracked before the progress is deleted. -/
def trackedMeanwhile : List (DispatcherMove Bool) :=
  collectedOnce ++ .trigger true (awsTrigger 22 .awsAccountConfigured) :: List.replicate 4 (.resume true false)

def losingRun : DispatcherRun Bool :=
  (run dispatcherStep (DispatcherRun.begin twoTracked) trackedMeanwhile).get (by decide +kernel)

theorem Phase.eq_of_published {p : Phase} (h : p.published = true) : ∃ workspaceId afterwards state event,
    p = .completes workspaceId afterwards (.deletesProgress state event) ∧ p.completing = some workspaceId := by
  cases p with
  | completes workspaceId afterwards a =>
    cases a with
    | deletesProgress state event => exact ⟨workspaceId, afterwards, state, event, rfl, rfl⟩
    | _ => cases h
  | _ => cases h

/-- The entry of the second account is deleted, and its job is still to be enqueued. -/
theorem trackedMeanwhile_loses : run dispatcherStep (DispatcherRun.begin twoTracked) trackedMeanwhile = some losingRun ∧
    ¬NothingLost [] losingRun := by
  refine ⟨(Option.some_get _).symm, fun h => ?_⟩
  have hpublished : (losingRun.phase false).published = true := by decide +kernel
  have hcompleting : (losingRun.phase false).completing = some 1 := by decide +kernel
  have hentry : (losingRun.dispatcher.collects.accountCollectState 1 22).map (·.isDone) =
      some false := by decide +kernel
  obtain ⟨workspaceId, afterwards, state, event, hphase, hworkspace⟩ := Phase.eq_of_published hpublished
  obtain ⟨p, hp, hopen⟩ := Option.map_eq_some_iff.1 hentry
  rw [hcompleting] at hworkspace
  cases hworkspace
  rw [(h.deleted false 1 afterwards state event hphase 22 p hp).1] at hopen
  cases hopen

def completedRun : DispatcherRun Bool :=
  (run dispatcherStep (DispatcherRun.begin twoTracked) (collectedOnce ++ List.replicate 4 (.resume false false))).get
    (by decide +kernel)

theorem completedRun_nothingLost : NothingLost [] completedRun := by
  have hguard : Along dispatcherStep Undisturbing (DispatcherRun.begin twoTracked)
      (collectedOnce ++ List.replicate 4 (.resume false false)) := by decide +kernel
  exact nothingLost_of_undisturbed twoTracked hguard (Option.some_get _).symm

end DispatcherService

end Fix
