import FixBackend.AccountConfigure
import FixBackend.CollectEvents
/-!
# DegradedEvents — when a degradation is announced

A call of `__degrade_account`, which the collect events, `configure_account` and the CloudFormation messages all make,
among whatever else happens to the accounts.  The event follows the update, whatever the update did; it is true along
the runs in which the closure changes the account that was read and that account is not degraded already
(`runDegrading_truthful`).  `deletedWorld` holds an account that was deleted while its collect ran.
-/
namespace Fix

open Calendar Effects Machine

def World.isDegraded (w : World) (id : FixCloudAccountId) : Bool :=
  match w.standing id with
  | some (.ok state, _) => decide (state.stateName = .degraded)
  | _ => false

/-- Every stored row stays, or has a later version. -/
def World.later (w w' : World) : Bool :=
  w.accounts.rows.all fun r =>
    (w'.accounts.find r.id).any fun r' => decide (r' = r) || decide (r.versionId < r'.versionId)

theorem World.evolves_of_later {w w' : World} (h : w.later w' = true) : Evolves w w' := by
  intro id r hr
  have hr' := List.all_eq_true.1 h r (Table.mem_of_find hr)
  rw [Table.key_of_find hr, Option.any_eq_true] at hr'
  obtain ⟨r', hfind, hlater⟩ := hr'
  rw [Bool.or_eq_true, decide_eq_true_eq, decide_eq_true_eq] at hlater
  exact ⟨r', hfind, hlater⟩

/-- A call of `__degrade_account`, whether it took the stored account into the degraded state, and whether it announced
that. -/
structure Degrading where
  world : World
  pc : UpdatePc
  moved : Bool
  announced : Bool

/-- The call goes on, or something else happens. -/
inductive DegradeAct where
  | step
  | other (w : World)

def UpdatePc.done : UpdatePc → Bool
  | .ended | .raised _ => true
  | _ => false

namespace Degrading

def start (w : World) : Degrading := ⟨w, .start, false, false⟩

def step (id : FixCloudAccountId) (error : String) (reason : DegradationReason) (s : Degrading) :
    DegradeAct → Option Degrading
  | .step => (degradeStep id error reason s.world s.pc).map fun (pc, w) =>
      { world := w
        pc := pc
        moved := s.moved || (!s.world.isDegraded id && w.isDegraded id)
        announced := s.announced ||
          decide (s.world.published.countP (·.degrades id) < w.published.countP (·.degrades id)) }
  | .other w => if s.world.later w then some { s with world := w } else none

/-- What the event relies on: the closure changes the account that was read, the row that is written over is not
degraded already, and the new row can be read back. -/
def relies (id : FixCloudAccountId) (error : String) (s : Degrading) : DegradeAct → Bool
  | .other _ => true
  | .step =>
    match s.pc with
    | .updating _ (.loaded stored) =>
      match stored.toModel none with
      | .error _ => true
      | .ok a => decide (setDegraded error s.world.now a ≠ .ok a)
    | .updating _ (.prepared stored _ _) =>
      !decide ((s.world.accounts.find id).map (·.versionId) = some stored.versionId) || !s.world.isDegraded id
    | .updating _ (.committed nextScan) =>
      (s.world.accounts.find id).any fun r => (r.toModel nextScan).toOption.isSome
    | _ => true

/-! ## The call alone -/

def updatingTo (error : String) (reason : DegradationReason) (account : CloudAccount) : UpdatePhase → UpdatePc
  | .returned result => .publishing (.cloudAccountDegraded result.cloud result.id result.workspaceId result.accountId
      result.finalName error (some reason))
  | .raised e => .raised e
  | p => .updating account p

def phaseOf : Except Err CloudAccount → UpdatePhase
  | .ok a => .returned a
  | .error e => .raised e

section Alone

variable {id : FixCloudAccountId} {error : String} {reason : DegradationReason} {account : CloudAccount}

theorem updates_eq (p : UpdatePhase) (w : World) :
    degradeStep id error reason w (.updating account p) =
      (updateStep id (setDegraded error) w p).map fun (p', w') => (updatingTo error reason account p', w') := by
  unfold degradeStep updates
  dsimp only
  congr 1
  funext ⟨p', w'⟩
  cases p' <;> rfl

theorem updateAlone_cases (error : String) (reason : DegradationReason) (account : CloudAccount) {n : Nat}
    {p : UpdatePhase} {w w' : World} {r : Except Err CloudAccount}
    {f : DateTime → CloudAccount → Except Err CloudAccount} (h : updateAlone id f n p w = some (r, w')) :
    p = phaseOf r ∧ w = w' ∨ updatingTo error reason account p = .updating account p ∧ ∃ m p₁ w₁, n = m + 1 ∧
      updateStep id f w p = some (p₁, w₁) ∧ updateAlone id f m p₁ w₁ = some (r, w') := by
  cases n with
  | zero =>
    cases p <;> cases h <;> exact .inl ⟨rfl, rfl⟩
  | succ m =>
    cases p
    case returned a | raised e =>
      cases h
      exact .inl ⟨rfl, rfl⟩
    all_goals
      obtain ⟨⟨p₁, w₁⟩, hstep, hrest⟩ := Option.bind_eq_some_iff.1 h
      exact .inr ⟨rfl, m, p₁, w₁, rfl, hstep, hrest⟩

theorem run_updating : ∀ (n : Nat) {p : UpdatePhase} {w w' : World} {r : Except Err CloudAccount} (s : Degrading),
    updateAlone id (setDegraded error) n p w = some (r, w') → s.world = w →
    s.pc = updatingTo error reason account p →
    ∃ acts s', run (step id error reason) s acts = some s' ∧ s'.world = w' ∧
      s'.pc = updatingTo error reason account (phaseOf r)
  | n, p, w, w', r, s, halone, hworld, hpc => by
    rcases updateAlone_cases error reason account halone with
      ⟨rfl, rfl⟩ | ⟨hgoing, m, p₁, w₁, rfl, hstep, hrest⟩
    · exact ⟨[], s, rfl, hworld, hpc⟩
    · rw [hgoing] at hpc
      have hmoves : ∃ s₁, step id error reason s .step = some s₁ ∧ s₁.world = w₁ ∧
          s₁.pc = updatingTo error reason account p₁ := by
        unfold step
        dsimp only
        rw [hworld, hpc, updates_eq, hstep]
        exact ⟨_, rfl, rfl, rfl⟩
      obtain ⟨s₁, hfirst, hworld₁, hpc₁⟩ := hmoves
      obtain ⟨acts, s', hrun, hw', hpc'⟩ := run_updating m s₁ hrest hworld₁ hpc₁
      exact ⟨.step :: acts, s', run_cons.2 ⟨s₁, hfirst, hrun⟩, hw', hpc'⟩

/-- **The steps of a call without others in between are the call.** -/
theorem run_alone (w : World) : ∃ acts s', run (step id error reason) (start w) acts = some s' ∧
    s'.world = (exec (degradeAccount id error reason) w).2 ∧
    s'.pc = match (exec (degradeAccount id error reason) w).1 with
      | .ok _ => .ended
      | .error e => .raised e := by
  have hfirst : ∀ pc w₁, degradeStep id error reason w .start = some (pc, w₁) →
      ∃ s₁, step id error reason (start w) .step = some s₁ ∧ s₁.world = w₁ ∧ s₁.pc = pc := by
    intro pc w₁ h
    unfold step start
    dsimp only
    rw [h]
    exact ⟨_, rfl, rfl, rfl⟩
  unfold degradeAccount
  rw [exec_bind]
  rcases hget : exec (CloudAccountRepository.get id) w with ⟨e | found, w₁⟩
  · obtain ⟨s₁, hstep, hworld, hpc⟩ := hfirst (.raised e) w₁ (by unfold degradeStep awaits; dsimp only; rw [hget])
    exact ⟨[.step], s₁, run_one hstep, hworld, hpc⟩
  · cases found with
    | none =>
      obtain ⟨s₁, hstep, hworld, hpc⟩ := hfirst (.raised (.resourceNotFound s!"Account {id} not found")) w₁
        (by unfold degradeStep awaits; dsimp only; rw [hget])
      exact ⟨[.step], s₁, run_one hstep, hworld, hpc⟩
    | some account =>
      dsimp only
      by_cases hdegraded : account.state.stateName = .degraded
      · obtain ⟨s₁, hstep, hworld, hpc⟩ := hfirst .ended w₁
          (by unfold degradeStep awaits; dsimp only; rw [hget]; dsimp only; rw [if_pos hdegraded])
        rw [if_pos hdegraded]
        exact ⟨[.step], s₁, run_one hstep, hworld, hpc⟩
      · obtain ⟨s₁, hstep, hworld, hpc⟩ := hfirst (.updating account .idle) w₁
          (by unfold degradeStep awaits; dsimp only; rw [hget]; dsimp only; rw [if_neg hdegraded])
        rw [if_neg hdegraded, exec_bind]
        have halone := updateAlone_eq id (setDegraded error) w₁
        rcases hupdate : exec (CloudAccountRepository.update id (setDegraded error)) w₁ with ⟨r, w₂⟩
        rw [hupdate] at halone
        have hbegun : s₁.pc = updatingTo error reason account .idle := hpc
        obtain ⟨acts, s₂, hrun, hworld₂, hpc₂⟩ := run_updating 5 s₁ halone hworld hbegun
        cases r with
        | error e => exact ⟨.step :: acts, s₂, run_cons.2 ⟨s₁, hstep, hrun⟩, hworld₂, hpc₂⟩
        | ok result =>
          -- the event is the last step
          have hlast : ∃ s₃, step id error reason s₂ .step = some s₃ ∧ s₃.world = { w₂ with published := w₂.published ++
              [.cloudAccountDegraded result.cloud result.id result.workspaceId result.accountId result.finalName error
                (some reason)] } ∧ s₃.pc = .ended := by
            unfold step
            rw [hworld₂, hpc₂]
            exact ⟨_, rfl, rfl, rfl⟩
          obtain ⟨s₃, hstep₃, hworld₃, hpc₃⟩ := hlast
          refine ⟨.step :: acts ++ [.step], s₃, ?_, hworld₃, hpc₃⟩
          exact run_append.2 ⟨s₂, run_cons.2 ⟨s₁, hstep, hrun⟩, run_one hstep₃⟩

end Alone

/-! ## What a call has announced -/

/-- What holds of a call at each of its program counters. -/
def Honest (id : FixCloudAccountId) (error : String) (s : Degrading) : Prop :=
  match s.pc with
  | .start => s.moved = false ∧ s.announced = false
  | .updating _ p => s.announced = false ∧ Updating.Fits s.world ⟨id, setDegraded error, p, .degraded⟩ ∧
    match p with
    | .applied stored _ | .prepared stored _ _ =>
      s.moved = false ∧ ∀ a, stored.toModel none = .ok a → a.state.cloudAccess ≠ none
    | .committed _ => s.moved = true
    | _ => s.moved = false
  | .publishing e => s.moved = true ∧ s.announced = false ∧ e.degrades id = true
  | .ended => s.announced = s.moved
  | .raised _ => s.moved = false ∧ s.announced = false

theorem updateStep_published {f : DateTime → CloudAccount → Except Err CloudAccount} {id : FixCloudAccountId}
    {w w' : World} {p p' : UpdatePhase} (h : updateStep id f w p = some (p', w')) : w'.published = w.published := by
  unfold updateStep at h
  split at h
  · split at h <;> cases h <;> rfl
  · split at h <;> cases h <;> rfl
  · split at h <;> [(cases h; rfl); skip]
    split at h <;> cases h <;> rfl
  · cases h
    rfl
  · split at h <;> [(cases h; rfl); skip]
    split at h <;> [(cases h; rfl); skip]
    split at h <;> cases h <;> rfl
  · split at h <;> [(cases h; rfl); skip]
    split at h <;> cases h <;> rfl
  · cases h
  · cases h

theorem isDegraded_congr {w w' : World} (h : w'.accounts = w.accounts) (id : FixCloudAccountId) :
    w'.isDegraded id = w.isDegraded id := by
  unfold World.isDegraded World.standing
  rw [h]

section Steps

variable {id : FixCloudAccountId} {error : String} {reason : DegradationReason} {s s' : Degrading}

theorem step_silent {pc : UpdatePc} {w : World} (hpc : degradeStep id error reason s.world s.pc = some (pc, w))
    (hpublished : w.published = s.world.published) (h : step id error reason s .step = some s') :
    s'.world = w ∧ s'.pc = pc ∧ s'.announced = s.announced ∧
      s'.moved = (s.moved || (!s.world.isDegraded id && w.isDegraded id)) := by
  unfold step at h
  dsimp only at h
  rw [hpc] at h
  cases h
  refine ⟨rfl, rfl, ?_, rfl⟩
  dsimp only
  rw [hpublished, decide_eq_false (Nat.lt_irrefl _), Bool.or_false]

theorem step_resting {pc : UpdatePc} {w : World} (hpc : degradeStep id error reason s.world s.pc = some (pc, w))
    (hpublished : w.published = s.world.published) (haccounts : w.accounts = s.world.accounts)
    (h : step id error reason s .step = some s') :
    s'.world = w ∧ s'.pc = pc ∧ s'.announced = s.announced ∧ s'.moved = s.moved := by
  obtain ⟨hworld, hpc', hannounced, hmoved⟩ := step_silent hpc hpublished h
  refine ⟨hworld, hpc', hannounced, ?_⟩
  rw [hmoved, isDegraded_congr haccounts, Bool.not_and_self, Bool.or_false]

theorem honest_start (hpc : s.pc = .start) (hs : Honest id error s) (h : step id error reason s .step = some s') :
    Honest id error s' := by
  unfold Honest at hs
  rw [hpc] at hs
  obtain ⟨hmoved, hannounced⟩ := hs
  have hreads := CloudAccountRepository.get_reads id s.world
  rcases hget : exec (CloudAccountRepository.get id) s.world with ⟨r, w₁⟩
  rw [hget] at hreads
  cases hreads
  have hrests : ∀ pc, degradeStep id error reason s.world s.pc = some (pc, s.world) →
      s'.pc = pc ∧ s'.moved = false ∧ s'.announced = false := by
    intro pc hpc
    obtain ⟨-, hpc', hannounced', hmoved'⟩ := step_resting hpc rfl rfl h
    exact ⟨hpc', hmoved'.trans hmoved, hannounced'.trans hannounced⟩
  unfold Honest
  cases r with
  | error e =>
    obtain ⟨hpc', hs'⟩ := hrests (.raised e) (by rw [hpc]; unfold degradeStep awaits; dsimp only; rw [hget])
    rw [hpc']
    exact hs'
  | ok found =>
    cases found with
    | none =>
      obtain ⟨hpc', hs'⟩ := hrests (.raised (.resourceNotFound s!"Account {id} not found"))
        (by rw [hpc]; unfold degradeStep awaits; dsimp only; rw [hget])
      rw [hpc']
      exact hs'
    | some account =>
      by_cases hdegraded : account.state.stateName = .degraded
      · obtain ⟨hpc', hmoved', hannounced'⟩ := hrests .ended
          (by rw [hpc]; unfold degradeStep awaits; dsimp only; rw [hget]; dsimp only; rw [if_pos hdegraded])
        rw [hpc']
        exact hannounced'.trans hmoved'.symm
      · obtain ⟨hpc', hmoved', hannounced'⟩ := hrests (.updating account .idle)
          (by rw [hpc]; unfold degradeStep awaits; dsimp only; rw [hget]; dsimp only; rw [if_neg hdegraded])
        rw [hpc']
        exact ⟨hannounced', Updating.fits_idle rfl, hmoved'⟩

theorem setDegraded_of_none {now : DateTime} {a : CloudAccount} (h : a.state.cloudAccess = none) :
    setDegraded error now a = .ok a := by
  unfold setDegraded
  rw [h]

theorem isDegraded_commit {w : World} {r : AccountRow} {a updated : CloudAccount} {now t : DateTime}
    (hfind : w.accounts.find id = some r) (hmodel : r.toModel none = .ok a) (haccess : a.state.cloudAccess ≠ none)
    (hf : setDegraded error now a = .ok updated) : (w.commit r (r.written updated t)).isDegraded id = true := by
  obtain ⟨access, hsome⟩ := Option.ne_none_iff_exists'.1 haccess
  obtain ⟨hstate, -, -, hcloud, -⟩ := AccountRow.toModel_ok hmodel
  have hupdated : updated.state = .degraded access a.state.enabled a.state.scan error ∧ updated.cloud = a.cloud := by
    unfold setDegraded at hf
    rw [hsome] at hf
    cases hf
    exact ⟨rfl, rfl⟩
  have hcloudAccess : ∀ x, updated.state.cloudAccess = some x → x.cloud = updated.cloud := by
    intro x hx
    rw [hupdated.1] at hx
    cases hx
    rw [hupdated.2, hcloud]
    exact AccountRow.accountState_cloud hstate hsome
  have hread := (AccountRow.toModel_ok (AccountRow.toModel_written hcloudAccess t none (r := r))).1
  have hid : (r.written updated t).id = id := (AccountRow.written_id r updated t).trans (Table.key_of_find hfind)
  have hfound : (w.commit r (r.written updated t)).accounts.find id = some (r.written updated t) :=
    World.find_commit hfind hid
  unfold World.isDegraded World.standing
  rw [hfound]
  dsimp only [Option.map_some, AccountRow.standing]
  rw [hread]
  dsimp only
  rw [hupdated.1]
  rfl

theorem honest_updating {account : CloudAccount} {p : UpdatePhase} (hpc : s.pc = .updating account p)
    (hs : Honest id error s) (hrelies : relies id error s .step = true) (h : step id error reason s .step = some s') :
    Honest id error s' := by
  unfold Honest at hs
  unfold relies at hrelies
  rw [hpc] at hs hrelies
  obtain ⟨hannounced, hfits, hphase⟩ := hs
  -- the step is one of the update
  have hsteps : ∃ p' w', updateStep id (setDegraded error) s.world p = some (p', w') ∧
      degradeStep id error reason s.world s.pc = some (updatingTo error reason account p', w') := by
    unfold step at h
    dsimp only at h
    rw [hpc, updates_eq] at h ⊢
    cases hstep : updateStep id (setDegraded error) s.world p with
    | none =>
      rw [hstep] at h
      cases h
    | some x => exact ⟨x.1, x.2, rfl, rfl⟩
  obtain ⟨p', w', hstep, hdegrade⟩ := hsteps
  obtain ⟨haccounts, hfits'⟩ := updateStep_fits hfits hstep
  obtain ⟨hworld, hpc', hannounced', hmoved'⟩ := step_silent hdegrade (updateStep_published hstep) h
  rw [hannounced] at hannounced'
  have hmovedOf : w'.accounts = s.world.accounts → s'.moved = s.moved := by
    intro hsame
    rw [hmoved', isDegraded_congr hsame, Bool.not_and_self, Bool.or_false]
  unfold Honest
  rw [hpc', hannounced']
  unfold updateStep at hstep
  cases p with
  | idle | again =>
    dsimp only at hstep hphase
    split at hstep <;> cases hstep
    · exact ⟨(hmovedOf rfl).trans hphase, rfl⟩
    · exact ⟨rfl, hworld ▸ hfits', (hmovedOf rfl).trans hphase⟩
  | loaded stored =>
    dsimp only at hstep hphase hrelies
    split at hstep
    · cases hstep
      exact ⟨(hmovedOf rfl).trans hphase, rfl⟩
    · rename_i a hmodel
      rw [hmodel] at hrelies
      have hchanges := of_decide_eq_true hrelies
      split at hstep <;> cases hstep
      · exact ⟨(hmovedOf rfl).trans hphase, rfl⟩
      · rename_i updated hf
        have hne : a ≠ updated := by
          rintro rfl
          exact hchanges hf
        rw [if_neg hne] at hfits' ⊢
        refine ⟨rfl, hworld ▸ hfits', (hmovedOf rfl).trans hphase, fun a' ha' hnone => ?_⟩
        rw [hmodel] at ha'
        cases ha'
        exact hchanges (setDegraded_of_none hnone)
  | applied stored updated =>
    cases hstep
    exact ⟨rfl, hworld ▸ hfits', (hmovedOf rfl).trans hphase.1, hphase.2⟩
  | prepared stored row nextScan =>
    dsimp only at hstep hphase hrelies
    cases hcurrent : s.world.accounts.find id with
    | none =>
      rw [hcurrent] at hstep
      cases hstep
      exact ⟨rfl, trivial, (hmovedOf rfl).trans hphase.1⟩
    | some current =>
      rw [hcurrent] at hstep hrelies
      dsimp only at hstep
      by_cases hversion : current.versionId = stored.versionId
      · rw [if_neg (not_not.2 hversion)] at hstep
        split at hstep <;> cases hstep
        · exact ⟨(hmovedOf rfl).trans hphase.1, rfl⟩
        · -- the version of the stored row is the one that was read, so it is that row
          obtain ⟨⟨read, hread, hlater⟩, a, now, updated, t, hmodel, hf, rfl⟩ := hfits
          rw [hcurrent] at hread
          cases hread
          have hsame : current = stored := hlater.resolve_left (by omega)
          subst hsame
          have hbefore : s.world.isDegraded id = false := by
            rw [Option.map_some, hversion, decide_eq_true rfl] at hrelies
            simpa using hrelies
          have hafter : (s.world.commit current (current.written updated t)).isDegraded id = true :=
            isDegraded_commit hcurrent hmodel (hphase.2 a hmodel) hf
          refine ⟨rfl, trivial, ?_⟩
          rw [hmoved', hbefore, hafter, Bool.not_false, Bool.and_self, Bool.or_true]
      · rw [if_pos hversion] at hstep
        cases hstep
        exact ⟨rfl, trivial, (hmovedOf rfl).trans hphase.1⟩
  | committed nextScan =>
    dsimp only at hstep hphase hrelies
    obtain ⟨r, hfind, hsome⟩ := (Option.any_eq_true _ _).1 hrelies
    rw [hfind] at hstep
    dsimp only at hstep
    cases hmodel : r.toModel nextScan with
    | error e =>
      rw [hmodel] at hsome
      cases hsome
    | ok a =>
      rw [hmodel] at hstep
      cases hstep
      refine ⟨(hmovedOf rfl).trans hphase, rfl, ?_⟩
      obtain ⟨-, hid, -⟩ := AccountRow.toModel_ok hmodel
      exact decide_eq_true (hid.trans (Table.key_of_find hfind))
  | returned a => cases hstep
  | raised e => cases hstep

theorem honest_publishing {e : DomainEvent} (hpc : s.pc = .publishing e) (hs : Honest id error s)
    (h : step id error reason s .step = some s') : Honest id error s' := by
  unfold Honest at hs
  rw [hpc] at hs
  obtain ⟨hmoved, hannounced, he⟩ := hs
  unfold step at h
  dsimp only at h
  rw [hpc] at h
  cases h
  have hcount : s.world.published.countP (·.degrades id) < (s.world.published ++ [e]).countP (·.degrades id) := by
    rw [List.countP_append, List.countP_singleton, if_pos he]
    exact Nat.lt_succ_self _
  change (s.announced || decide (_ < (s.world.published ++ [e]).countP (·.degrades id))) = (s.moved || _)
  rw [decide_eq_true hcount, Bool.or_true, hmoved, Bool.true_or]

/-- **A step keeps a call honest** where what the event relies on is given. -/
theorem honest_step {act : DegradeAct} (hs : Honest id error s) (hrelies : relies id error s act = true)
    (h : step id error reason s act = some s') : Honest id error s' := by
  cases act with
  | step =>
    cases hpc : s.pc with
    | start => exact honest_start hpc hs h
    | updating account p => exact honest_updating hpc hs hrelies h
    | publishing e => exact honest_publishing hpc hs h
    | ended | raised e =>
      unfold step at h
      dsimp only at h
      rw [hpc] at h
      cases h
  | other w =>
    unfold step at h
    dsimp only at h
    split at h
    · rename_i hlater
      cases h
      unfold Honest at hs ⊢
      dsimp only
      cases hpc : s.pc with
      | updating account p =>
        rw [hpc] at hs
        exact ⟨hs.1, hs.2.1.evolves (World.evolves_of_later hlater), hs.2.2⟩
      | start | publishing e | ended | raised e =>
        rw [hpc] at hs
        exact hs
    · cases h

end Steps

/-- **A degradation is announced when the call degraded the account**: along every run in which what the event relies on
is given, a call has announced only what it did, and has announced it when it ends. -/
theorem runDegrading_truthful {id : FixCloudAccountId} {error : String} {reason : DegradationReason} {w : World}
    {s : Degrading} {acts : List DegradeAct} 
    (hrelies : Along (step id error reason) (fun s act => relies id error s act = true) (start w) acts)
    (hrun : run (step id error reason) (start w) acts = some s) :
    (s.announced = true → s.moved = true) ∧ (s.pc.done = true → (s.announced = true ↔ s.moved = true)) := by
  have hstart : Honest id error (start w) := ⟨rfl, rfl⟩
  have h : Honest id error s :=
    run_along (fun _ _ _ hs ha hstep => honest_step hs ha hstep) hstart hrelies hrun
  unfold Honest at h
  cases hpc : s.pc with
  | start =>
    rw [hpc] at h
    rw [h.2]
    exact ⟨fun hx => (by cases hx), fun hx => (by cases hx)⟩
  | updating account p =>
    rw [hpc] at h
    rw [h.1]
    exact ⟨fun hx => (by cases hx), fun hx => (by cases hx)⟩
  | publishing e =>
    rw [hpc] at h
    rw [h.1]
    exact ⟨fun _ => rfl, fun hx => (by cases hx)⟩
  | ended =>
    rw [hpc] at h
    dsimp only at h
    rw [h]
    exact ⟨fun hx => hx, fun _ => Iff.rfl⟩
  | raised e =>
    rw [hpc] at h
    rw [h.1, h.2]
    exact ⟨fun hx => hx, fun _ => Iff.rfl⟩

/-- The account was written in between, so the update is tried again. -/
def touchedWorld : World :=
  { configuredWorld with
    accounts := ⟨configuredWorld.accounts.rows.map fun r => { r with versionId := r.versionId + 1 }, by decide⟩ }

def degradingTwice : List DegradeAct :=
  [.step, .step, .other touchedWorld, .step, .step, .step, .step, .step, .step, .step, .step, .step]

def degradedTwice : Degrading :=
  (run (step 10 tooManyFailedScans .other) (start configuredWorld) degradingTwice).get (by decide +kernel)

theorem runDegrading_truthful_touched :
    (degradedTwice.announced = true → degradedTwice.moved = true) ∧
      (degradedTwice.pc.done = true → (degradedTwice.announced = true ↔ degradedTwice.moved = true)) :=
  runDegrading_truthful (by decide +kernel) (Option.some_get _).symm

/-- The account was deleted while it was collected. -/
def deletedWorld : World :=
  { configuredWorld with
    accounts := ⟨[.ofModel (newAccount 10 "111111111111" 1 .aws .deleted none
      ⟨⟨2024, 1, 2, valid_january2⟩, 0, midnight_inDay⟩)], by decide⟩ }

theorem deleted_announced : ¬∀ (acts : List DegradeAct) (s : Degrading),
    run (step 10 tooManyFailedScans .other) (start deletedWorld) acts = some s → s.pc.done = true →
      (s.announced = true ↔ s.moved = true) := by
  intro h
  have hrun : ∃ s, run (step 10 tooManyFailedScans .other) (start deletedWorld) [.step, .step, .step, .step] = some s ∧
      s.pc.done = true ∧ s.announced = true ∧ s.moved = false :=
    ⟨(run (step 10 tooManyFailedScans .other) (start deletedWorld) [.step, .step, .step, .step]).get
      (by decide +kernel),
      (Option.some_get _).symm, by decide +kernel, by decide +kernel, by decide +kernel⟩
  obtain ⟨s, hrun, hdone, hannounced, hmoved⟩ := hrun
  have hmoves := (h _ s hrun hdone).1 hannounced
  rw [hmoved] at hmoves
  cases hmoves

end Degrading

end Fix
