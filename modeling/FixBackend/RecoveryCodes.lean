import FixBackend.Mfa
/-!
# RecoveryCodes — one recovery code presented by several calls

`delete_recovery_code` selects the codes of the user, verifies, deletes the row that matches and commits; calls of
`check_otp` and `disable_mfa` that present one code take these steps in any order.  A delete of a row that another call
has deleted meanwhile affects no row, and nobody looks at that.
-/
namespace Fix

open Calendar Effects Machine

/-! ## The calls -/

/-- Who asks: `check_otp` of a login, or `disable_mfa`. -/
inductive CodeCaller where
  | login
  | disable
deriving DecidableEq

inductive CodePhase where
  | begun
  /-- The codes of the user are selected. -/
  | selected (hashes : List String)
  /-- A row verifies the code. -/
  | verified (codeHash : String)
  /-- The row is deleted in a transaction that is not committed. -/
  | deleting (codeHash : String)
  /-- `disable_mfa` goes on to clear the second factor. -/
  | confirmed
  | returned (result : Bool)

structure CodeCall where
  caller : CodeCaller
  phase : CodePhase

/-- The call succeeds: its check has returned true. -/
def CodeCall.Succeeds (c : CodeCall) : Prop := c.phase = .confirmed ∨ c.phase = .returned true

/-- The store and the calls, of users who were loaded with an active second factor and present the code. -/
structure CodeRun (ι : Type) where
  store : MfaStore
  calls : ι → CodeCall

def CodeCall.next (c : OtpChecks) (code : String) (call : CodeCall) (st : MfaStore) : Option (CodePhase × MfaStore) :=
  match call.phase with
  | .begun => some (.selected st.recoveryCodes.rows, st)
  | .selected hashes =>
    match hashes.find? (c.codeMatches code) with
    | some codeHash => some (.verified codeHash, st)
    | none => some (.returned false, st)
  | .verified codeHash => some (.deleting codeHash, st)
  | .deleting codeHash =>
    let committed := { st with recoveryCodes := st.recoveryCodes.delete codeHash }
    match call.caller with
    | .login => some (.returned true, committed)
    | .disable => some (.confirmed, committed)
  | .confirmed => some (.returned true, (exec UserManager.clearMfa st).2)
  | .returned _ => none

variable {ι : Type} [DecidableEq ι]

def codeStep (c : OtpChecks) (code : String) (r : CodeRun ι) (i : ι) : Option (CodeRun ι) :=
  ((r.calls i).next c code r.store).map fun (phase, st) =>
    ⟨st, Function.update r.calls i { r.calls i with phase := phase }⟩

def CodeRun.begin (st : MfaStore) (callers : ι → CodeCaller) : CodeRun ι := ⟨st, fun i => ⟨callers i, .begun⟩⟩

/-- **The code works at most once**: one call succeeds at most, and the other codes are there. -/
structure WorksOnce (c : OtpChecks) (code : String) (before : MfaStore) (r : CodeRun ι) : Prop where
  once : ∀ i j, (r.calls i).Succeeds → (r.calls j).Succeeds → i = j
  others : ∀ h ∈ before.recoveryCodes.rows, h ∉ r.store.recoveryCodes.rows → c.codeMatches code h = true
  oneRow : ∀ h h', h ∈ before.recoveryCodes.rows → h' ∈ before.recoveryCodes.rows →
    h ∉ r.store.recoveryCodes.rows → h' ∉ r.store.recoveryCodes.rows → h = h'

/-- A delete finds its row. -/
def DeletesStored (r : CodeRun ι) (i : ι) : Prop :=
  ∀ codeHash, (r.calls i).phase = .deleting codeHash → codeHash ∈ r.store.recoveryCodes.rows

/-! ## A call alone -/

/-- **A call alone does what the function does.** -/
theorem call_alone (c : OtpChecks) (code : String) (st : MfaStore) :
    ∃ n, run (codeStep c code) (CodeRun.begin st fun _ : Unit => .login) (List.replicate n ()) = some
      ⟨(exec (UserRepository.deleteRecoveryCode c code) st).2, fun _ =>
        ⟨.login, .returned (st.recoveryCodes.rows.find? (c.codeMatches code)).isSome⟩⟩ ∧
      (exec (UserRepository.deleteRecoveryCode c code) st).1 =
        .ok (st.recoveryCodes.rows.find? (c.codeMatches code)).isSome := by
  have hupdate : ∀ (f : Unit → CodeCall) (x : CodeCall), Function.update f () x = fun _ => x := by
    intro f x
    funext u
    exact Function.update_self ..
  unfold UserRepository.deleteRecoveryCode
  rw [exec_bind, exec_get]
  dsimp only
  cases hfind : st.recoveryCodes.rows.find? (c.codeMatches code) with
  | none =>
    refine ⟨2, ?_, rfl⟩
    simp only [List.replicate, run, codeStep, CodeRun.begin, CodeCall.next, hupdate, hfind, Option.map_some,
      Option.bind_some]
    rfl
  | some codeHash =>
    refine ⟨4, ?_, rfl⟩
    simp only [List.replicate, run, codeStep, CodeRun.begin, CodeCall.next, hupdate, hfind, Option.map_some,
      Option.bind_some]
    rfl

/-! ## Calls in any order -/

/-- What holds of calls that began with these codes, each of which is deleted by one call at most. -/
structure CodesShared (c : OtpChecks) (code : String) (before : MfaStore) (r : CodeRun ι) : Prop where
  stored : ∀ h ∈ r.store.recoveryCodes.rows, h ∈ before.recoveryCodes.rows
  selected : ∀ i hashes, (r.calls i).phase = .selected hashes → ∀ h ∈ hashes, h ∈ before.recoveryCodes.rows
  verified : ∀ i h, (r.calls i).phase = .verified h ∨ (r.calls i).phase = .deleting h →
    h ∈ before.recoveryCodes.rows ∧ c.codeMatches code h = true
  others : ∀ h ∈ before.recoveryCodes.rows, h ∉ r.store.recoveryCodes.rows → c.codeMatches code h = true
  once : ∀ i j, (r.calls i).Succeeds → (r.calls j).Succeeds → i = j
  gone : ∀ i, (r.calls i).Succeeds → ∀ h ∈ r.store.recoveryCodes.rows, c.codeMatches code h = false

variable {c : OtpChecks} {code : String} {before : MfaStore}

theorem phase_update (calls : ι → CodeCall) (i j : ι) (phase : CodePhase) :
    (Function.update calls i { calls i with phase := phase } j).phase = (calls j).phase ∨
      j = i ∧ (Function.update calls i { calls i with phase := phase } j).phase = phase := by
  by_cases hji : j = i
  · subst hji
    exact Or.inr ⟨rfl, by rw [Function.update_self]⟩
  · exact Or.inl (by rw [Function.update_of_ne hji])

/-- A call that neither deletes nor comes to succeed, its new phase after `CodesShared.selected` and `verified`. -/
theorem CodesShared.moves {r : CodeRun ι} (hr : CodesShared c code before r) (i : ι) (phase : CodePhase) (st : MfaStore)
    (hst : st.recoveryCodes = r.store.recoveryCodes)
    (hselected : ∀ hashes, phase = .selected hashes → ∀ h ∈ hashes, h ∈ before.recoveryCodes.rows)
    (hverified : ∀ h, phase = .verified h ∨ phase = .deleting h →
      h ∈ before.recoveryCodes.rows ∧ c.codeMatches code h = true)
    (hsucceeds : phase = .confirmed ∨ phase = .returned true → (r.calls i).Succeeds) :
    CodesShared c code before ⟨st, Function.update r.calls i { r.calls i with phase := phase }⟩ := by
  have hcalls : ∀ j, (Function.update r.calls i { r.calls i with phase := phase } j).Succeeds →
      (r.calls j).Succeeds := by
    intro j hj
    unfold CodeCall.Succeeds at hj
    rcases phase_update r.calls i j phase with hsame | ⟨rfl, hnew⟩
    · rw [hsame] at hj
      exact hj
    · rw [hnew] at hj
      exact hsucceeds hj
  constructor
  · intro h hh
    have hkept : h ∈ st.recoveryCodes.rows := hh
    rw [hst] at hkept
    exact hr.stored h hkept
  · intro j hashes hj
    rcases phase_update r.calls i j phase with hsame | ⟨-, hnew⟩
    · exact hr.selected j hashes (hsame.symm.trans hj)
    · exact hselected hashes (hnew.symm.trans hj)
  · intro j h hj
    rcases phase_update r.calls i j phase with hsame | ⟨-, hnew⟩
    · exact hr.verified j h (hj.imp hsame.symm.trans hsame.symm.trans)
    · exact hverified h (hj.imp hnew.symm.trans hnew.symm.trans)
  · intro h hh hgone
    have hkept : h ∉ st.recoveryCodes.rows := hgone
    rw [hst] at hkept
    exact hr.others h hh hkept
  · exact fun j k hj hk => hr.once j k (hcalls j hj) (hcalls k hk)
  · intro j hj h hh
    have hkept : h ∈ st.recoveryCodes.rows := hh
    rw [hst] at hkept
    exact hr.gone j (hcalls j hj) h hkept

/-- **A delete that finds its row is the first**, and leaves no row that verifies the code. -/
theorem CodesShared.deletes {r : CodeRun ι} (hr : CodesShared c code before r)
    (hunique : ∀ h ∈ before.recoveryCodes.rows, ∀ h' ∈ before.recoveryCodes.rows, c.codeMatches code h = true →
      c.codeMatches code h' = true → h = h') {i : ι} {codeHash : String}
    (hphase : (r.calls i).phase = .deleting codeHash) (hfound : codeHash ∈ r.store.recoveryCodes.rows)
    (phase : CodePhase) (hsucceeds : phase = .confirmed ∨ phase = .returned true) :
    CodesShared c code before ⟨{ r.store with recoveryCodes := r.store.recoveryCodes.delete codeHash },
      Function.update r.calls i { r.calls i with phase := phase }⟩ := by
  obtain ⟨hbefore, hmatches⟩ := hr.verified i codeHash (Or.inr hphase)
  have hfirst : ∀ j, ¬(r.calls j).Succeeds := by
    intro j hj
    have hnot := hr.gone j hj codeHash hfound
    rw [hmatches] at hnot
    cases hnot
  have honly : ∀ j, (Function.update r.calls i { r.calls i with phase := phase } j).Succeeds → j = i := by
    intro j hj
    unfold CodeCall.Succeeds at hj
    rcases phase_update r.calls i j phase with hsame | ⟨hji, -⟩
    · rw [hsame] at hj
      exact absurd hj (hfirst j)
    · exact hji
  constructor
  · exact fun h hh => hr.stored h (Table.mem_delete.1 hh).1
  · intro j hashes hj
    rcases phase_update r.calls i j phase with hsame | ⟨-, hnew⟩
    · exact hr.selected j hashes (hsame.symm.trans hj)
    · have hphase' : phase = .selected hashes := hnew.symm.trans hj
      subst hphase'
      rcases hsucceeds with h | h <;> cases h
  · intro j h hj
    rcases phase_update r.calls i j phase with hsame | ⟨-, hnew⟩
    · exact hr.verified j h (hj.imp hsame.symm.trans hsame.symm.trans)
    · have hphase' : phase = .verified h ∨ phase = .deleting h := hj.imp hnew.symm.trans hnew.symm.trans
      rcases hsucceeds with rfl | rfl <;> rcases hphase' with h' | h' <;> cases h'
  · intro h hh hgone
    by_cases hstored : h ∈ r.store.recoveryCodes.rows
    · have hsame : h = codeHash := by
        by_contra hne
        exact hgone (Table.mem_delete.2 ⟨hstored, hne⟩)
      rw [hsame, hmatches]
    · exact hr.others h hh hstored
  · exact fun j k hj hk => (honly j hj).trans (honly k hk).symm
  · intro j _ h hh
    obtain ⟨hstored, hne⟩ := Table.mem_delete.1 hh
    by_contra hnot
    rw [Bool.not_eq_false] at hnot
    exact hne (hunique h (hr.stored h hstored) codeHash hbefore hnot hmatches)

/-- **One step of a call keeps the codes shared.** -/
theorem CodesShared.step {r r' : CodeRun ι} (hr : CodesShared c code before r)
    (hunique : ∀ h ∈ before.recoveryCodes.rows, ∀ h' ∈ before.recoveryCodes.rows, c.codeMatches code h = true →
      c.codeMatches code h' = true → h = h') {i : ι} (hdeletes : DeletesStored r i)
    (hstep : codeStep c code r i = some r') : CodesShared c code before r' := by
  obtain ⟨⟨phase, st⟩, hnext, rfl⟩ := Option.map_eq_some_iff.1 hstep
  unfold CodeCall.next at hnext
  cases hphase : (r.calls i).phase with
  | begun =>
    rw [hphase] at hnext
    cases hnext
    refine hr.moves i _ _ rfl (fun hashes hsel => ?_) (fun h hv => ?_) (fun hs => ?_)
    · cases hsel
      exact hr.stored
    · rcases hv with hv | hv <;> cases hv
    · rcases hs with hs | hs <;> cases hs
  | selected hashes =>
    rw [hphase] at hnext
    dsimp only at hnext
    cases hfind : hashes.find? (c.codeMatches code) with
    | none =>
      rw [hfind] at hnext
      cases hnext
      refine hr.moves i _ _ rfl (fun hashes hsel => (by cases hsel)) (fun h hv => ?_) (fun hs => ?_)
      · rcases hv with hv | hv <;> cases hv
      · rcases hs with hs | hs <;> cases hs
    | some codeHash =>
      rw [hfind] at hnext
      cases hnext
      have hmem := hr.selected i hashes hphase codeHash (List.mem_of_find?_eq_some hfind)
      refine hr.moves i _ _ rfl (fun hashes hsel => (by cases hsel)) (fun h hv => ?_) (fun hs => ?_)
      · rcases hv with hv | hv <;> cases hv
        exact ⟨hmem, List.find?_some hfind⟩
      · rcases hs with hs | hs <;> cases hs
  | verified codeHash =>
    rw [hphase] at hnext
    cases hnext
    refine hr.moves i _ _ rfl (fun hashes hsel => (by cases hsel)) (fun h hv => ?_) (fun hs => ?_)
    · rcases hv with hv | hv <;> cases hv
      exact hr.verified i codeHash (Or.inl hphase)
    · rcases hs with hs | hs <;> cases hs
  | deleting codeHash =>
    rw [hphase] at hnext
    dsimp only at hnext
    have hfound := hdeletes codeHash hphase
    cases hcaller : (r.calls i).caller with
    | login =>
      rw [hcaller] at hnext
      cases hnext
      exact hr.deletes hunique hphase hfound _ (Or.inr rfl)
    | disable =>
      rw [hcaller] at hnext
      cases hnext
      exact hr.deletes hunique hphase hfound _ (Or.inl rfl)
  | confirmed =>
    rw [hphase] at hnext
    cases hnext
    refine hr.moves i _ _ rfl (fun hashes hsel => (by cases hsel)) (fun h hv => ?_) (fun _ => Or.inl hphase)
    rcases hv with hv | hv <;> cases hv
  | returned result =>
    rw [hphase] at hnext
    cases hnext

omit [DecidableEq ι] in
theorem codesShared_begin (before : MfaStore) (callers : ι → CodeCaller) :
    CodesShared c code before (CodeRun.begin before callers) := by
  constructor
  · exact fun h hh => hh
  · exact fun i hashes hi => (by cases hi)
  · exact fun i h hi => (by rcases hi with hi | hi <;> cases hi)
  · exact fun h hh hgone => absurd hh hgone
  · exact fun i j hi => (by rcases hi with hi | hi <;> cases hi)
  · exact fun i hi => (by rcases hi with hi | hi <;> cases hi)

/-- **A recovery code works at most once**, however many calls present it in whatever order, when every delete finds its
row and the code verifies against one stored hash at most. -/
theorem recoveryCode_worksOnce (callers : ι → CodeCaller)
    (hunique : ∀ h ∈ before.recoveryCodes.rows, ∀ h' ∈ before.recoveryCodes.rows, c.codeMatches code h = true →
      c.codeMatches code h' = true → h = h') {moves : List ι} {r : CodeRun ι}
    (hdeletes : Along (codeStep c code) DeletesStored (CodeRun.begin before callers) moves)
    (hrun : run (codeStep c code) (CodeRun.begin before callers) moves = some r) : WorksOnce c code before r := by
  have hr : CodesShared c code before r :=
    run_along (fun _ _ _ hs hi hstep => hs.step hunique hi hstep) (codesShared_begin before callers) hdeletes hrun
  exact ⟨hr.once, hr.others, fun h h' hh hh' hgone hgone' => hunique h hh h' hh' (hr.others h hh hgone)
    (hr.others h' hh' hgone')⟩

/-! ## Two logins with one code -/

def codeHash : String := "$2a$05$CCCCCCCCCCCCCCCCCCCCC.E5YPO9kmyuRGyh0XouQYb4YMJKvyOeW"

def otherHash : String := "$2a$05$CCCCCCCCCCCCCCCCCCCCC.VGOzA784oUp/Z0DY336zx7pLYAy0lwK"

def twoCodes : MfaStore := ⟨⟨some drawnSecret, true⟩, ⟨[codeHash, otherHash], by decide⟩⟩

/-- What the password helper says about them. -/
def codeChecks : OtpChecks :=
  { periodChecks with
    codeMatches := fun code h => decide (code = "U*U" ∧ h = codeHash) || decide (code = "U*U*" ∧ h = otherHash) }

def twoLogins : CodeRun Bool := CodeRun.begin twoCodes fun _ => .login

/-- The second login selects the codes after the first has committed. -/
def oneAfterTheOther : List Bool := [false, false, false, false, true, true]

theorem recoveryCode_worksOnce_oneAfterTheOther : ∃ r,
    run (codeStep codeChecks "U*U") twoLogins oneAfterTheOther = some r ∧
    (r.calls false).Succeeds ∧ WorksOnce codeChecks "U*U" twoCodes r := by
  have hunique : ∀ h ∈ twoCodes.recoveryCodes.rows, ∀ h' ∈ twoCodes.recoveryCodes.rows,
      codeChecks.codeMatches "U*U" h = true → codeChecks.codeMatches "U*U" h' = true → h = h' := by decide +kernel
  have hbegun : ∀ r : CodeRun Bool, ∀ i, (∀ h, (r.calls i).phase ≠ .deleting h) → DeletesStored r i :=
    fun r i hno h hh => absurd hh (hno h)
  have hdeletes : Along (codeStep codeChecks "U*U") DeletesStored twoLogins oneAfterTheOther := by
    refine along_cons (hbegun _ _ fun h hh => by cases hh) rfl (along_cons (hbegun _ _ fun h hh => by cases hh) rfl
      (along_cons (hbegun _ _ fun h hh => by cases hh) rfl (along_cons ?_ rfl (along_cons
        (hbegun _ _ fun h hh => by cases hh) rfl (along_cons (hbegun _ _ fun h hh => by cases hh) rfl trivial)))))
    intro h hh
    cases hh
    exact List.mem_cons_self
  exact ⟨_, rfl, Or.inr rfl, recoveryCode_worksOnce _ hunique hdeletes rfl⟩

/-- Both logins select the codes, and both succeed. -/
theorem recoveryCode_worksTwice : ¬∀ moves r, run (codeStep codeChecks "U*U") twoLogins moves = some r →
    WorksOnce codeChecks "U*U" twoCodes r := by
  intro h
  have honce := (h [false, true, false, true, false, true, false, true] _ rfl).once false true (Or.inr rfl) (Or.inr rfl)
  cases honce

end Fix
