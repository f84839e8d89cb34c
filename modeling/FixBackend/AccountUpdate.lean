import FixBackend.AccountService
import FixBackend.Optimistic
/-!
# AccountUpdate — concurrent updates of one cloud account

`CloudAccountRepository.update` taken apart at its awaits: the read of the row, the function of the caller, the read of
the next scan, the commit, which `version_id_col` refuses when the row was written in between, and the refresh.  Any
number of such calls run interleaved with whatever leaves the row alone.  Their effect on the row is that of a serial
order (`runUpdates_serial`); what a call returns is read again after its commit and may show later calls too.
-/
namespace Fix

open Calendar Effects Machine Optimistic

/-- Where a call of `update` stands: not begun, to be tried again, after the read, with a changed account, with the
columns assigned, after the commit, ended. -/
inductive UpdatePhase where
  | idle
  | again
  | loaded (stored : AccountRow)
  | applied (stored : AccountRow) (updated : CloudAccount)
  | prepared (stored row : AccountRow) (nextScan : Option DateTime)
  | committed (nextScan : Option DateTime)
  | returned (a : CloudAccount)
  | raised (e : Err)

def World.tick (w : World) : World := { w with ticks := w.ticks + 1 }

def World.now (w : World) : DateTime := w.clock w.ticks

theorem exec_utc (w : World) : exec utc w = (.ok w.now, w.tick) := rfl

@[simp] theorem World.tick_accounts (w : World) : w.tick.accounts = w.accounts := rfl

@[simp] theorem World.tick_nextRuns (w : World) : w.tick.nextRuns = w.nextRuns := rfl

@[simp] theorem World.tick_clock (w : World) : w.tick.clock = w.clock := rfl

theorem World.find_commit {w : World} {id : FixCloudAccountId} {old stored row : AccountRow}
    (hold : w.accounts.find id = some old) (hrow : row.id = id) : (w.commit stored row).accounts.find id =
      some row := by
  subst hrow
  exact Table.find_replace_self hold

def updateStep (id : FixCloudAccountId) (f : DateTime → CloudAccount → Except Err CloudAccount) (w : World) :
    UpdatePhase → Option (UpdatePhase × World)
  | .idle | .again =>
    match w.accounts.find id with
    | none => some (.raised (.resourceNotFound s!"Cloud account {id} not found"), w)
    | some stored => some (.loaded stored, w)
  | .loaded stored =>
    match stored.toModel none with
    | .error e => some (.raised e, w)
    | .ok account =>
      match f w.now account with
      | .error e => some (.raised e, w.tick)
      | .ok updated => some (if account = updated then .returned updated else .applied stored updated, w.tick)
  | .applied stored updated =>
    let nextScan := (w.nextRuns.find updated.workspaceId).map (·.time)
    some (.prepared stored (stored.written updated w.now) nextScan, w.tick)
  | .prepared stored row nextScan =>
    match w.accounts.find id with
    | none => some (.again, w)
    | some current =>
      -- StaleDataError
      if current.versionId ≠ stored.versionId then some (.again, w)
      else match w.refusal (some stored) row with
        | some e => some (.raised e, w)
        | none => some (.committed nextScan, w.commit current row)
  | .committed nextScan =>
    match w.accounts.find id with
    | none => some (.raised (.runtimeError "Could not refresh instance"), w)
    | some row =>
      match row.toModel nextScan with
      | .error e => some (.raised e, w)
      | .ok a => some (.returned a, w)
  | .returned _ | .raised _ => none

def updateAlone (id : FixCloudAccountId) (f : DateTime → CloudAccount → Except Err CloudAccount) :
    Nat → UpdatePhase → World → Option (Except Err CloudAccount × World)
  | _, .returned a, w => some (.ok a, w)
  | _, .raised e, w => some (.error e, w)
  | 0, _, _ => none
  | n + 1, p, w => (updateStep id f w p).bind fun (p, w) => updateAlone id f n p w

/-- **The steps of a call without others in between are the call.** -/
theorem updateAlone_eq (id : FixCloudAccountId) (f : DateTime → CloudAccount → Except Err CloudAccount) (w : World) :
    updateAlone id f 5 .idle w = some (exec (CloudAccountRepository.update id f) w) := by
  unfold CloudAccountRepository.update CloudAccountRepository.updateWith
  simp only [exec_bind, exec_get]
  cases hfind : w.accounts.find id with
  | none => simp [updateAlone, updateStep, hfind]
  | some stored =>
    simp only [updateAlone, updateStep, hfind, Option.bind_some, exec_bind, exec_lift]
    cases hmodel : stored.toModel none with
    | error e => rfl
    | ok account =>
      simp only [exec_utc]
      cases hf : f w.now account with
      | error e => rfl
      | ok updated =>
        simp only [Functor.map, Except.map]
        by_cases hsame : account = updated
        · simp only [if_pos hsame, Option.bind_some, updateAlone, exec_pure]
        · -- nothing happens between the read and the commit, so the row is still the one that was read
          simp only [if_neg hsame, Option.bind_some, updateAlone, updateStep, World.tick_accounts, hfind, exec_bind,
            exec_getNextScan, World.tick_nextRuns, exec_utc, commitAccount, exec_get, ne_eq, not_true_eq_false,
            if_false]
          generalize hrow : stored.written updated w.tick.now = row
          have hid : row.id = id := by
            rw [← hrow, AccountRow.written_id]
            exact Table.key_of_find hfind
          cases w.tick.tick.refusal (some stored) row with
          | some e => rfl
          | none =>
            have hfound : (w.tick.tick.commit stored row).accounts.find id = some row :=
              World.find_commit (w := w.tick.tick) hfind hid
            simp only [Option.bind_some, updateAlone, updateStep, hfound, exec_set, exec_lift]
            cases row.toModel _ <;> rfl

/-! ## Many calls -/

section Updates

variable {ι : Type}

structure Updates (ι : Type) where
  world : World
  phase : ι → UpdatePhase

/-- A call takes its next step, or something else happens. -/
inductive UpdateAct (ι : Type) where
  | call (i : ι)
  | other (w : World)

def Updates.start (w : World) : Updates ι := ⟨w, fun _ => .idle⟩

/-- What one call makes of the row it finds, when it reads the clock at the ticks `t`. -/
def updateCalls (clock : Nat → DateTime) (f : ι → DateTime → CloudAccount → Except Err CloudAccount) :
    Calls ι AccountRow (Nat × Nat) (Option DateTime) CloudAccount where
  version := AccountRow.versionId
  apply i t r :=
    match r.toModel none with
    | .error _ => none
    | .ok account =>
      match f i (clock t.1) account with
      | .error _ => none
      | .ok updated => some (if account = updated then .keep updated else .write (r.written updated (clock t.2)))
  view nextScan r := (r.toModel nextScan).toOption
  version_write := by
    intro i t r r' h
    split at h <;> [cases h; skip]
    split at h <;> [cases h; skip]
    split at h <;> cases h
    rfl

/-- **The row after a call alone** is what the call makes of the row it finds. -/
theorem find_of_update {id : FixCloudAccountId} {f : ι → DateTime → CloudAccount → Except Err CloudAccount} {i : ι}
    {w w' : World} {r : AccountRow} {a : CloudAccount} (hr : w.accounts.find id = some r)
    (h : exec (CloudAccountRepository.update id (f i)) w = (.ok a, w')) :
    w'.accounts.find id = some (next (updateCalls w.clock f) r ⟨i, (w.ticks, w.ticks + 1)⟩) := by
  have halone := updateAlone_eq id (f i) w
  rw [h] at halone
  simp only [updateAlone, updateStep, hr, Option.bind_some, World.now] at halone
  simp only [next, updateCalls]
  cases hmodel : r.toModel none with
  | error e =>
    rw [hmodel] at halone
    cases halone
  | ok account =>
    simp only [hmodel] at halone ⊢
    cases hf : f i (w.clock w.ticks) account with
    | error e =>
      rw [hf] at halone
      cases halone
    | ok updated =>
      simp only [hf, Option.bind_some] at halone ⊢
      by_cases hsame : account = updated
      · rw [if_pos hsame] at halone ⊢
        cases halone
        exact hr
      · rw [if_neg hsame] at halone ⊢
        simp only [Option.bind_some, updateAlone, updateStep, World.tick_accounts, hr, ne_eq, not_true_eq_false,
          if_false, World.now, World.tick_clock] at halone
        have hid : (r.written updated (w.clock w.tick.ticks)).id = id := by
          rw [AccountRow.written_id]
          exact Table.key_of_find hr
        have hfound : (w.tick.tick.commit r (r.written updated (w.clock w.tick.ticks))).accounts.find id = _ :=
          World.find_commit hr hid
        split at halone
        · cases halone
        · simp only [Option.bind_some, updateAlone, updateStep, hfound] at halone
          cases hread : (r.written updated (w.clock w.tick.ticks)).toModel _ with
          | error e =>
            rw [hread] at halone
            cases halone
          | ok a' =>
            rw [hread] at halone
            cases halone
            exact hfound

/-- The phase of a call and the one of the versioned row. -/
inductive SamePhase (id : FixCloudAccountId) (clock : Nat → DateTime)
    (f : DateTime → CloudAccount → Except Err CloudAccount) :
    UpdatePhase → Phase AccountRow (Nat × Nat) (Option DateTime) CloudAccount → Prop where
  | idle : SamePhase id clock f .idle .idle
  | again : SamePhase id clock f .again .again
  | loaded (r : AccountRow) (hid : r.id = id) : SamePhase id clock f (.loaded r) (.holding r)
  | applied (r : AccountRow) (account updated : CloudAccount) (n : Nat) (hid : r.id = id)
    (hmodel : r.toModel none = .ok account) (hf : f (clock n) account = .ok updated) (hne : account ≠ updated) :
    SamePhase id clock f (.applied r updated) (.holding r)
  | prepared (r row : AccountRow) (nextScan : Option DateTime) (t : Nat × Nat) (hid : row.id = id) :
    SamePhase id clock f (.prepared r row nextScan) (.writing r t row nextScan)
  | committed (nextScan : Option DateTime) : SamePhase id clock f (.committed nextScan) (.written nextScan)
  | returned (a : CloudAccount) : SamePhase id clock f (.returned a) (.returned a)
  | raised (e : Err) : SamePhase id clock f (.raised e) .raised

/-- The calls and the calls on the versioned row they amount to. -/
structure Same (id : FixCloudAccountId) (clock : Nat → DateTime)
    (f : ι → DateTime → CloudAccount → Except Err CloudAccount) (s : Updates ι)
    (t : State ι AccountRow (Nat × Nat) (Option DateTime) CloudAccount) : Prop where
  row : s.world.accounts.find id = some t.row
  sameClock : s.world.clock = clock
  phase : ∀ i, SamePhase id clock (f i) (s.phase i) (t.phase i)

variable {id : FixCloudAccountId} {clock : Nat → DateTime}
  {f : ι → DateTime → CloudAccount → Except Err CloudAccount}

/-- A serial order of all calls: each is applied once, on the row the ones before it leave, the last leaves the stored
row, and each call returned the account as it was after its own place or after a later one. -/
structure SerialOrder (id : FixCloudAccountId) (f : ι → DateTime → CloudAccount → Except Err CloudAccount) (w : World)
    (row : AccountRow) (s : Updates ι) (order : List (Applied ι (Nat × Nat))) : Prop where
  once : (order.map (·.call)).Nodup
  all : ∀ i, i ∈ order.map (·.call)
  stored : s.world.accounts.find id = some (replay (updateCalls w.clock f) row order)
  shown : ∀ i a, s.phase i = .returned a → ∃ pre post nextScan, order = pre ++ post ∧ i ∈ pre.map (·.call) ∧
    (replay (updateCalls w.clock f) row pre).toModel nextScan = .ok a

theorem toModel_of_keep {i : ι} {t : Nat × Nat} {r : AccountRow} {a : CloudAccount}
    (h : (updateCalls clock f).apply i t r = some (.keep a)) : r.toModel none = .ok a := by
  simp only [updateCalls] at h
  split at h <;> [cases h; skip]
  rename_i account hmodel
  split at h <;> [cases h; skip]
  split at h <;> cases h
  rename_i hsame
  rw [hmodel, hsame]

theorem toModel_of_view {r : AccountRow} {nextScan : Option DateTime} {a : CloudAccount}
    (h : (updateCalls clock f).view nextScan r = some a) : r.toModel nextScan = .ok a := by
  simp only [updateCalls] at h
  cases hmodel : r.toModel nextScan with
  | error e =>
    rw [hmodel] at h
    cases h
  | ok a' =>
    rw [hmodel] at h
    cases h
    rfl

theorem shown_of_answered {row : AccountRow} {order : List (Applied ι (Nat × Nat))} {i : ι} {a : CloudAccount}
    (h : Answered (updateCalls clock f) row order i a) :
    ∃ pre post nextScan, order = pre ++ post ∧ i ∈ pre.map (·.call) ∧
      (replay (updateCalls clock f) row pre).toModel nextScan = .ok a := by
  obtain ⟨t, r, ⟨pre, post, horder, hr⟩, hkeep | ⟨r', nextScan, r'', -, hpass, hview⟩⟩ := h
  · refine ⟨pre ++ [⟨i, t⟩], post, none, by simp [horder], by simp, ?_⟩
    rw [replay_append, hr, replay_cons, replay_nil, next, hkeep]
    exact toModel_of_keep hkeep
  · obtain ⟨pre', post', horder', hsub, hr''⟩ := hpass
    refine ⟨pre', post', nextScan, horder', List.mem_map.2 ⟨⟨i, t⟩, hsub List.mem_cons_self, rfl⟩, ?_⟩
    rw [hr'']
    exact toModel_of_view hview

theorem Same.returned {s : Updates ι} {t : State ι AccountRow (Nat × Nat) (Option DateTime) CloudAccount}
    (h : Same id clock f s t) {i : ι} {a : CloudAccount} (hi : s.phase i = .returned a) :
    t.phase i = .returned a := by
  have hphase := h.phase i
  rw [hi] at hphase
  generalize t.phase i = q at hphase
  cases hphase
  rfl

theorem Same.idle {s : Updates ι} {t : State ι AccountRow (Nat × Nat) (Option DateTime) CloudAccount}
    (h : Same id clock f s t) {i : ι} (hi : s.phase i = .idle) : t.phase i = .idle := by
  have hphase := h.phase i
  rw [hi] at hphase
  generalize t.phase i = q at hphase
  cases hphase
  rfl

variable [DecidableEq ι]

/-- What else happens leaves the row and the clock alone. -/
def Updates.step (id : FixCloudAccountId) (f : ι → DateTime → CloudAccount → Except Err CloudAccount) (s : Updates ι) :
    UpdateAct ι → Option (Updates ι)
  | .call i => (updateStep id (f i) s.world (s.phase i)).map fun (p, w) => ⟨w, Function.update s.phase i p⟩
  | .other w =>
    if w.accounts.find id = s.world.accounts.find id then some ⟨{ w with clock := s.world.clock }, s.phase⟩ else none

theorem Same.moves {s : Updates ι} {t : State ι AccountRow (Nat × Nat) (Option DateTime) CloudAccount}
    (h : Same id clock f s t) {i : ι} {p : UpdatePhase}
    {q : Phase AccountRow (Nat × Nat) (Option DateTime) CloudAccount} {w : World} {row : AccountRow}
    {order : List (Applied ι (Nat × Nat))} (hrow : w.accounts.find id = some row) (hclock : w.clock = s.world.clock)
    (hp : SamePhase id clock (f i) p q) :
    Same id clock f ⟨w, Function.update s.phase i p⟩ { t.moves i q with row := row, order := order } := by
  refine ⟨hrow, hclock.trans h.sameClock, fun j => ?_⟩
  by_cases hj : j = i
  · subst hj
    simp only [State.moves, Function.update_self]
    exact hp
  · simp only [State.moves, Function.update_of_ne hj]
    exact h.phase j

theorem Same.call {first : AccountRow} {s : Updates ι}
    {t : State ι AccountRow (Nat × Nat) (Option DateTime) CloudAccount} (h : Same id clock f s t) {i : ι}
    {p : UpdatePhase} {w : World} (hstep : updateStep id (f i) s.world (s.phase i) = some (p, w)) :
    ∃ acts t', run (Optimistic.step (updateCalls clock f) first) t acts = some t' ∧
      Same id clock f ⟨w, Function.update s.phase i p⟩ t' := by
  have hphase := h.phase i
  have hrow := h.row
  generalize hq : t.phase i = q at hphase
  generalize hp : s.phase i = p₀ at hphase hstep
  cases hphase with
  | idle | again =>
    simp only [updateStep, hrow] at hstep
    cases hstep
    refine ⟨[.read i], _, run_one (by simp only [Optimistic.step, hq]; rfl), ?_⟩
    exact h.moves hrow rfl (.loaded _ (Table.key_of_find hrow))
  | loaded r hid =>
    simp only [updateStep] at hstep
    cases hmodel : r.toModel none with
    | error e =>
      rw [hmodel] at hstep
      cases hstep
      refine ⟨[.apply i (0, 0) none], _, run_one (by simp only [Optimistic.step, hq, updateCalls, hmodel]; rfl), ?_⟩
      exact h.moves hrow rfl (.raised e)
    | ok account =>
      rw [hmodel] at hstep
      dsimp only at hstep
      have hnow : s.world.now = clock s.world.ticks := by rw [← h.sameClock, World.now]
      cases hf : f i s.world.now account with
      | error e =>
        rw [hf] at hstep
        cases hstep
        rw [hnow] at hf
        refine ⟨[.apply i (s.world.ticks, 0) none], _,
          run_one (by simp only [Optimistic.step, hq, updateCalls, hmodel, hf]; rfl), ?_⟩
        exact h.moves hrow rfl (.raised e)
      | ok updated =>
        rw [hf] at hstep
        cases hstep
        rw [hnow] at hf
        by_cases hsame : account = updated
        · rw [if_pos hsame]
          refine ⟨[.apply i (s.world.ticks, 0) none], _,
            run_one (by simp only [Optimistic.step, hq, updateCalls, hmodel, hf, if_pos hsame]; rfl), ?_⟩
          exact h.moves hrow rfl (.returned updated)
        · rw [if_neg hsame]
          have hphase : SamePhase id clock (f i) (.applied r updated) (t.phase i) := by
            rw [hq]
            exact .applied r account updated s.world.ticks hid hmodel hf hsame
          have hstay : Same id clock f _ { t.moves i (t.phase i) with row := t.row, order := t.order } :=
            h.moves (w := s.world.tick) hrow rfl hphase
          rw [State.moves, Function.update_eq_self] at hstay
          exact ⟨[], t, rfl, hstay⟩
  | applied r account updated n hid hmodel hf hne =>
    cases hstep
    refine ⟨[.apply i (n, s.world.ticks) ((s.world.nextRuns.find updated.workspaceId).map (·.time))], _,
      run_one (by simp only [Optimistic.step, hq, updateCalls, hmodel, hf, if_neg hne]; rfl), ?_⟩
    have hnow : s.world.now = clock s.world.ticks := by rw [← h.sameClock, World.now]
    rw [hnow]
    exact h.moves hrow rfl (.prepared r _ _ _ hid)
  | prepared r row nextScan time hid =>
    simp only [updateStep, hrow] at hstep
    by_cases hversion : t.row.versionId = r.versionId
    · rw [if_neg (not_not.2 hversion)] at hstep
      split at hstep <;> cases hstep
      · exact ⟨[.refuse i], _, run_one (by simp only [Optimistic.step, hq]; rfl), h.moves hrow rfl (.raised _)⟩
      · refine ⟨[.commit i], _, run_one (by simp only [Optimistic.step, hq]; exact if_pos hversion), ?_⟩
        exact h.moves (World.find_commit hrow hid) rfl (.committed nextScan)
    · rw [if_pos hversion] at hstep
      cases hstep
      refine ⟨[.commit i], _, run_one (by simp only [Optimistic.step, hq]; exact if_neg hversion), ?_⟩
      exact h.moves hrow rfl .again
  | committed nextScan =>
    simp only [updateStep, hrow] at hstep
    cases hmodel : t.row.toModel nextScan with
    | error e =>
      rw [hmodel] at hstep
      cases hstep
      refine ⟨[.answer i], _,
        run_one (by simp only [Optimistic.step, hq, updateCalls, hmodel, Except.toOption]; rfl), ?_⟩
      exact h.moves hrow rfl (.raised e)
    | ok a =>
      rw [hmodel] at hstep
      cases hstep
      refine ⟨[.answer i], _,
        run_one (by simp only [Optimistic.step, hq, updateCalls, hmodel, Except.toOption]; rfl), ?_⟩
      exact h.moves hrow rfl (.returned a)
  | returned a => cases hstep
  | raised e => cases hstep

theorem Same.step (first : AccountRow) {s s' : Updates ι}
    {t : State ι AccountRow (Nat × Nat) (Option DateTime) CloudAccount} (h : Same id clock f s t) {a : UpdateAct ι}
    (hstep : Updates.step id f s a = some s') :
    ∃ acts t', run (Optimistic.step (updateCalls clock f) first) t acts = some t' ∧ Same id clock f s' t' := by
  cases a with
  | call i =>
    obtain ⟨⟨p, w⟩, hcall, rfl⟩ := Option.map_eq_some_iff.1 hstep
    exact h.call hcall
  | other w =>
    simp only [Updates.step] at hstep
    split at hstep <;> cases hstep
    rename_i hfind
    exact ⟨[], t, rfl, hfind.trans h.row, h.sameClock, h.phase⟩

/-- **Updates of one account are serial**: however calls of `update` on a stored account interleave, once all of them
have returned there is a serial order of them, in which a call that had returned before another began comes first. -/
theorem runUpdates_serial (id : FixCloudAccountId) (f : ι → DateTime → CloudAccount → Except Err CloudAccount)
    (w : World) (row : AccountRow) (hrow : w.accounts.find id = some row) (acts : List (UpdateAct ι)) (s : Updates ι)
    (hrun : run (Updates.step id f) (Updates.start w) acts = some s) (hall : ∀ i, ∃ a, s.phase i = .returned a) :
    ∃ order, SerialOrder id f w row s order ∧
      ∀ pre post mid, acts = pre ++ post → run (Updates.step id f) (Updates.start w) pre = some mid →
        ∀ i j a, mid.phase i = .returned a → mid.phase j = .idle → [i, j].Sublist (order.map (·.call)) := by
  have hstart : Same id w.clock f (Updates.start w) (start row) := ⟨hrow, rfl, fun _ => .idle⟩
  obtain ⟨acts', t, hrun', hsame, hcut⟩ :=
    run_simulated (fun _ _ _ _ h hstep => h.step row hstep) hstart hrun
  obtain ⟨hfinal, honce, hanswered⟩ := run_serial hrun'
  have hall' : ∀ i, i ∈ t.order.map (·.call) := by
    intro i
    obtain ⟨a, hi⟩ := hall i
    obtain ⟨time, r, hown, -⟩ := hanswered i a (hsame.returned hi)
    exact List.mem_map.2 ⟨_, hown.mem, rfl⟩
  refine ⟨t.order, ⟨honce, hall', ?_, fun i a hi => shown_of_answered (hanswered i a (hsame.returned hi))⟩, ?_⟩
  · rw [hsame.row, hfinal]
  · intro pre post mid hpre hmid i j a hi hj
    obtain ⟨u, acts₁, acts₂, hu, ht, hmidSame⟩ := hcut pre post mid hpre hmid
    exact run_inTurn hu ht (hmidSame.returned hi) (hmidSame.idle hj) (hall' j)

end Updates

theorem AccountRow.toModel_accountName {r : AccountRow} {nextScan : Option DateTime} {a : CloudAccount}
    (h : r.toModel nextScan = .ok a) : a.accountName = r.apiAccountName := by
  unfold AccountRow.toModel at h
  split at h <;> cases h
  rfl

theorem AccountRow.toModel_isOk {r : AccountRow} {nextScan : Option DateTime} {a : CloudAccount}
    (h : r.toModel nextScan = .ok a) : ∃ a', r.toModel none = .ok a' := by
  unfold AccountRow.toModel at h ⊢
  split at h <;> [cases h; exact ⟨_, rfl⟩]

/-- Two calls of `create_aws_account` that name an account. -/
instance callers_neZero : NeZero 2 := ⟨by decide⟩

def renames (i : Fin 2) : DateTime → CloudAccount → Except Err CloudAccount :=
  renamed (some (if i = 0 then "first" else "second")) ⟨⟨2024, 1, 2, valid_january2⟩, 0, midnight_inDay⟩

theorem accountName_after_rename {clock : Nat → DateTime} {r : AccountRow} {i : Fin 2} {t : Nat × Nat}
    {nextScan : Option DateTime} {a : CloudAccount}
    (h : (next (updateCalls clock renames) r ⟨i, t⟩).toModel nextScan = .ok a) :
    a.accountName = some (if i = 0 then "first" else "second") := by
  rw [AccountRow.toModel_accountName h]
  cases hmodel : r.toModel none with
  | error e =>
    simp only [next, updateCalls, hmodel] at h
    obtain ⟨a', ha'⟩ := AccountRow.toModel_isOk h
    rw [hmodel] at ha'
    cases ha'
  | ok account =>
    simp only [next, updateCalls, hmodel, renames, renamed]
    by_cases hsame : account = { account with
      accountName := some (if i = 0 then "first" else "second"),
      createdAt := ⟨⟨2024, 1, 2, valid_january2⟩, 0, midnight_inDay⟩ }
    · rw [if_pos hsame]
      dsimp only
      rw [← AccountRow.toModel_accountName hmodel, hsame]
    · rw [if_neg hsame]
      rfl

def unnamedRow : AccountRow :=
  .ofModel (newAccount 10 "111111111111" 1 .aws (.discovered (.aws 2 "role") true) none
    ⟨⟨2024, 1, 2, valid_january2⟩, 0, midnight_inDay⟩)

theorem unnamedRow_unique : ([unnamedRow].map AccountRow.id).Nodup := by decide

def unnamedWorld : World where
  accounts := ⟨[unnamedRow], unnamedRow_unique⟩
  organizations := ⟨[], List.nodup_nil⟩
  nextRuns := ⟨[], List.nodup_nil⟩
  clock := fun _ => ⟨⟨2024, 1, 2, valid_january2⟩, 0, midnight_inDay⟩
  ticks := 0
  nextUuid := 11
  accountFailedResourceCount := 0
  published := []
  notices := []
  cfResponses := []
  cfFailures := 0
  commits := []

/-- The second call starts when the first has committed, and has returned when the first reads the account again. -/
def overtakenRename : List (UpdateAct (Fin 2)) :=
  List.replicate 4 (.call 0) ++ List.replicate 5 (.call 1) ++ [.call 0]

theorem overtakenRename_runs : ∃ s a, run (Updates.step 10 renames) (Updates.start unnamedWorld) overtakenRename =
    some s ∧ s.phase 0 = .returned a ∧ a.accountName = some "second" ∧ ∀ i, ∃ a, s.phase i = .returned a := by
  refine ⟨_, _, rfl, rfl, rfl, ?_⟩
  intro i
  fin_cases i <;> exact ⟨_, rfl⟩

theorem runUpdates_serial_overtakenRename : ∃ s order, SerialOrder 10 renames unnamedWorld unnamedRow s order := by
  obtain ⟨s, a, hrun, -, -, hall⟩ := overtakenRename_runs
  obtain ⟨order, horder, -⟩ := runUpdates_serial 10 renames unnamedWorld unnamedRow rfl overtakenRename s hrun hall
  exact ⟨s, order, horder⟩

/-- The first call returns the name the second one gave, so in no order does each call return the account as it was
right after it. -/
theorem overtakenRename_returns_later :
    ∃ s, run (Updates.step 10 renames) (Updates.start unnamedWorld) overtakenRename = some s ∧
      (∀ i, ∃ a, s.phase i = .returned a) ∧
      ¬ ∃ order : List (Applied (Fin 2) (Nat × Nat)), ∀ i a, s.phase i = .returned a →
        ∃ pre post t nextScan, order = pre ++ ⟨i, t⟩ :: post ∧
          (replay (updateCalls unnamedWorld.clock renames) unnamedRow (pre ++ [⟨i, t⟩])).toModel nextScan = .ok a := by
  obtain ⟨s, a, hrun, hreturned, hname, hall⟩ := overtakenRename_runs
  refine ⟨s, hrun, hall, ?_⟩
  rintro ⟨order, hown⟩
  obtain ⟨pre, post, t, nextScan, -, hread⟩ := hown 0 a hreturned
  rw [replay_append, replay_cons, replay_nil] at hread
  have hfirst := accountName_after_rename hread
  rw [hname] at hfirst
  exact absurd hfirst (by decide)

end Fix
