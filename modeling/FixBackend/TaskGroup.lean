import FixBackend.Machine
/-!
# TaskGroup — tasks that are started together

The tasks of a group go on in any order.  When one of them ends with an exception, those that have not ended are
cancelled where they are; the group is left when no task goes on.
-/
namespace TaskGroup

open Machine

variable {τ α : Type}

/-- What the tasks of a group do: a task has ended when it has no next step. -/
structure Kind (τ α : Type) where
  step : τ → α → Option τ
  ended : τ → Bool
  raised : τ → Bool
  ended_iff : ∀ t, ended t = true ↔ ∀ a, step t a = none
  ended_of_raised : ∀ t, raised t = true → ended t = true

structure Member (τ : Type) where
  task : τ
  cancelled : Bool
  deriving DecidableEq, Repr

variable (K : Kind τ α)

def Member.cancel (m : Member τ) : Member τ := if K.ended m.task then m else { m with cancelled := true }

def create (tasks : List τ) : List (Member τ) := tasks.map (⟨·, false⟩)

/-- A step of one member; a member that raises cancels the others. -/
def step (g : List (Member τ)) (move : Nat × α) : Option (List (Member τ)) :=
  match g[move.1]? with
  | none => none
  | some m =>
    if m.cancelled then none
    else (K.step m.task move.2).map fun t =>
      if K.raised t then (g.set move.1 ⟨t, false⟩).map (Member.cancel K) else g.set move.1 ⟨t, false⟩

/-! ## Steps -/

variable {K} {g g' : List (Member τ)} {i : Nat} {a : α}

theorem step_cases (h : step K g (i, a) = some g') : ∃ m t, g[i]? = some m ∧ m.cancelled = false ∧
    K.step m.task a = some t ∧ ((K.raised t = false ∧ g' = g.set i ⟨t, false⟩) ∨
      (K.raised t = true ∧ g' = (g.set i ⟨t, false⟩).map (Member.cancel K))) := by
  unfold step at h
  dsimp only at h
  cases hm : g[i]? with
  | none => rw [hm] at h; cases h
  | some m =>
    rw [hm] at h
    dsimp only at h
    cases hc : m.cancelled with
    | true => rw [hc, if_pos rfl] at h; cases h
    | false =>
      rw [hc, if_neg (by decide)] at h
      obtain ⟨t, ht, hg⟩ := Option.map_eq_some_iff.1 h
      refine ⟨m, t, rfl, hc, ht, ?_⟩
      cases hr : K.raised t with
      | true => rw [hr, if_pos rfl] at hg; exact .inr ⟨rfl, hg.symm⟩
      | false => rw [hr, if_neg (by decide)] at hg; exact .inl ⟨rfl, hg.symm⟩

theorem step_isSome {m : Member τ} (hm : g[i]? = some m) :
    (step K g (i, a)).isSome ↔ m.cancelled = false ∧ (K.step m.task a).isSome := by
  unfold step
  simp only [hm]
  cases m.cancelled with
  | true => simp
  | false =>
    rw [if_neg (by decide), Option.isSome_map]
    exact ⟨fun h => ⟨rfl, h⟩, And.right⟩

@[simp] theorem cancel_task (m : Member τ) : (m.cancel K).task = m.task := by
  unfold Member.cancel
  split <;> rfl

theorem cancel_cancelled (m : Member τ) : (m.cancel K).cancelled = (m.cancelled || !K.ended m.task) := by
  unfold Member.cancel
  split
  · next h => simp [h]
  · next h => simp [h]

theorem mem_step (h : step K g (i, a) = some g') {m' : Member τ} (hm' : m' ∈ g') :
    (∃ m t, m ∈ g ∧ K.step m.task a = some t ∧ m'.task = t ∧ m'.cancelled = false) ∨
      ∃ m ∈ g, m' = m ∨ m' = m.cancel K := by
  obtain ⟨m, t, hm, hc, ht, ⟨hr, rfl⟩ | ⟨hr, rfl⟩⟩ := step_cases h
  · rcases List.mem_or_eq_of_mem_set hm' with hold | rfl
    · exact .inr ⟨m', hold, .inl rfl⟩
    · exact .inl ⟨m, t, List.mem_of_getElem? hm, ht, rfl, rfl⟩
  · obtain ⟨m₁, hm₁, rfl⟩ := List.mem_map.1 hm'
    rcases List.mem_or_eq_of_mem_set hm₁ with hold | rfl
    · exact .inr ⟨m₁, hold, .inr rfl⟩
    · refine .inl ⟨m, t, List.mem_of_getElem? hm, ht, cancel_task _, ?_⟩
      rw [cancel_cancelled, K.ended_of_raised t hr]
      rfl

/-! ## Invariants of the tasks -/

/-- **What the steps of a task keep, the runs of the group keep of every task.** -/
theorem run_forall {I : τ → Prop} (hstep : ∀ t a t', I t → K.step t a = some t' → I t') {moves : List (Nat × α)}
    (hg : ∀ m ∈ g, I m.task) (hrun : run (step K) g moves = some g') : ∀ m ∈ g', I m.task := by
  refine run_keeps (I := fun g => ∀ m ∈ g, I m.task) (fun g move g' hI h m' hm' => ?_) hg hrun
  rcases mem_step h hm' with ⟨m, t, hm, ht, rfl, -⟩ | ⟨m, hm, rfl | rfl⟩
  · exact hstep m.task move.2 m'.task (hI m hm) ht
  · exact hI m' hm
  · rw [cancel_task]
    exact hI m hm

/-- **What no step of a task changes is the same after a run, member by member.** -/
theorem run_map {β : Type} {f : τ → β} (hstep : ∀ t a t', K.step t a = some t' → f t' = f t)
    {moves : List (Nat × α)} (hrun : run (step K) g moves = some g') :
    g'.map (fun m => f m.task) = g.map (fun m => f m.task) := by
  refine run_keeps (I := fun g₁ => g₁.map (fun m => f m.task) = g.map (fun m => f m.task))
    (fun g₁ move g₂ hI h => ?_) rfl hrun
  refine Eq.trans ?_ hI
  have hset : ∀ {m t}, g₁[move.1]? = some m → K.step m.task move.2 = some t →
      (g₁.set move.1 ⟨t, false⟩).map (fun m => f m.task) = g₁.map (fun m => f m.task) := fun hm ht => by
    obtain ⟨hlt, rfl⟩ := List.getElem?_eq_some_iff.1 hm
    rw [List.map_set, hstep _ _ _ ht]
    exact List.ext_getElem (by simp) fun j _ _ => by by_cases hj : move.1 = j <;> simp [hj]
  obtain ⟨m, t, hm, -, ht, ⟨-, rfl⟩ | ⟨-, rfl⟩⟩ := step_cases h
  · exact hset hm ht
  · rw [List.map_map]
    refine Eq.trans (List.map_congr_left fun m' _ => ?_) (hset hm ht)
    rw [Function.comp_apply, cancel_task]

/-- Only a task that has not ended is cancelled. -/
def CancelledUnfinished (K : Kind τ α) (g : List (Member τ)) : Prop :=
  ∀ m ∈ g, m.cancelled = true → K.ended m.task = false

theorem cancelledUnfinished_step (hg : CancelledUnfinished K g) (h : step K g (i, a) = some g') :
    CancelledUnfinished K g' := by
  intro m' hm' hc
  rcases mem_step h hm' with ⟨m, t, hm, ht, rfl, hlive⟩ | ⟨m, hm, rfl | rfl⟩
  · rw [hlive] at hc
    cases hc
  · exact hg m' hm hc
  · rw [cancel_task]
    rw [cancel_cancelled, Bool.or_eq_true] at hc
    rcases hc with hc | hc
    · exact hg m hm hc
    · simpa using hc

/-! ## Groups in which no task is cancelled -/

def Unhurt (g : List (Member τ)) : Prop := ∀ m ∈ g, m.cancelled = false

/-- A member that raises does so when the others have ended. -/
def RaisesLast (K : Kind τ α) (g : List (Member τ)) (move : Nat × α) : Prop :=
  ∀ m t, g[move.1]? = some m → K.step m.task move.2 = some t → K.raised t = true →
    ∀ j m', j ≠ move.1 → g[j]? = some m' → K.ended m'.task = true

theorem unhurt_create (tasks : List τ) : Unhurt (create tasks) := by
  intro m hm
  obtain ⟨t, -, rfl⟩ := List.mem_map.1 hm
  rfl

theorem mem_set_of_ne {m m' : Member τ} {j : Nat} (hj : j ≠ i) (hm' : g[j]? = some m') : m' ∈ g.set i m := by
  refine List.mem_of_getElem? (i := j) ?_
  rw [List.getElem?_set_ne hj.symm]
  exact hm'

/-- **A step cancels nothing exactly when a member that raises is the last one.** -/
theorem unhurt_step_iff (hg : Unhurt g) (h : step K g (i, a) = some g') : Unhurt g' ↔ RaisesLast K g (i, a) := by
  obtain ⟨m, t, hm, hc, ht, ⟨hr, rfl⟩ | ⟨hr, rfl⟩⟩ := step_cases h
  · constructor
    · intro _ m₁ t₁ hm₁ ht₁ hr₁
      rw [hm] at hm₁
      cases hm₁
      rw [ht] at ht₁
      cases ht₁
      rw [hr] at hr₁
      cases hr₁
    · intro _ m' hm'
      rcases List.mem_or_eq_of_mem_set hm' with hold | rfl
      · exact hg m' hold
      · rfl
  · constructor
    · intro hall _ _ _ _ _ j m' hj hm'
      have hlive := hall _ (List.mem_map_of_mem (mem_set_of_ne hj hm'))
      rw [cancel_cancelled, Bool.or_eq_false_iff] at hlive
      simpa using hlive.2
    · intro hlast m' hm'
      obtain ⟨m₁, hm₁, rfl⟩ := List.mem_map.1 hm'
      obtain ⟨j, hj⟩ := List.mem_iff_getElem?.1 hm₁
      rw [cancel_cancelled]
      by_cases hji : j = i
      · subst hji
        rw [List.getElem?_set_self (List.getElem?_eq_some_iff.1 hm).1] at hj
        cases hj
        rw [K.ended_of_raised t hr]
        rfl
      · rw [List.getElem?_set_ne (Ne.symm hji)] at hj
        rw [hg m₁ (List.mem_of_getElem? hj), hlast m t hm ht hr j m₁ hji hj]
        rfl

theorem unhurt_of_step (h : step K g (i, a) = some g') (hg' : Unhurt g') : Unhurt g := by
  obtain ⟨m, t, hm, hc, -, hto⟩ := step_cases h
  intro m' hm'
  obtain ⟨j, hj⟩ := List.mem_iff_getElem?.1 hm'
  by_cases hji : j = i
  · subst hji
    rw [hm] at hj
    cases hj
    exact hc
  · rcases hto with ⟨-, rfl⟩ | ⟨-, rfl⟩
    · exact hg' m' (mem_set_of_ne hji hj)
    · have hlive := hg' _ (List.mem_map_of_mem (mem_set_of_ne hji hj))
      rw [cancel_cancelled, Bool.or_eq_false_iff] at hlive
      exact hlive.1

/-- **A run cancels nothing exactly when no member raises in it before the others have ended.** -/
theorem unhurt_run_iff : ∀ {moves : List (Nat × α)} {g g' : List (Member τ)}, Unhurt g →
    run (step K) g moves = some g' → (Unhurt g' ↔ Along (step K) (RaisesLast K) g moves)
  | [], g, g', hg, hrun => by
    cases hrun
    exact ⟨fun _ => trivial, fun _ => hg⟩
  | (i, a) :: moves, g, g', hg, hrun => by
    obtain ⟨g₁, h₁, hrun⟩ := run_cons.1 hrun
    have hback : Unhurt g' → Unhurt g₁ := fun h => by
      by_contra hnot
      exact run_keeps (I := fun g => ¬ Unhurt g) (fun _ _ _ hno hstep h => hno (unhurt_of_step hstep h)) hnot hrun h
    constructor
    · intro h
      exact along_cons ((unhurt_step_iff hg h₁).1 (hback h)) h₁ ((unhurt_run_iff (hback h) hrun).1 h)
    · rintro ⟨hlast, hmoves⟩
      exact (unhurt_run_iff ((unhurt_step_iff hg h₁).2 hlast) hrun).2 (hmoves g₁ h₁)

/-! ## Tasks that are carried to their end -/

def Attended (K : Kind τ α) (g : List (Member τ)) : Prop :=
  ∀ i m, g[i]? = some m → K.ended m.task = true ∨ ∃ a, (step K g (i, a)).isSome

theorem attended_iff (hg : CancelledUnfinished K g) : Attended K g ↔ Unhurt g := by
  constructor
  · intro hall m hm
    obtain ⟨i, hi⟩ := List.mem_iff_getElem?.1 hm
    by_contra hc
    rw [Bool.not_eq_false] at hc
    rcases hall i m hi with hend | ⟨a, ha⟩
    · rw [hg m hm hc] at hend
      cases hend
    · rw [((step_isSome hi).1 ha).1] at hc
      cases hc
  · intro hall i m hi
    cases hended : K.ended m.task with
    | true => exact .inl rfl
    | false =>
      obtain ⟨a, ha⟩ := not_forall.1 fun h => Bool.false_ne_true (hended.symm.trans ((K.ended_iff m.task).2 h))
      exact .inr ⟨a, (step_isSome hi).2 ⟨hall m (List.mem_of_getElem? hi), Option.isSome_iff_ne_none.2 ha⟩⟩

/-- **Every member is attended all along a run exactly when none raises in it before the others have ended.** -/
theorem attended_run_iff {tasks : List τ} {moves : List (Nat × α)}
    (hrun : run (step K) (create tasks) moves = some g') :
    (∀ pre post mid, moves = pre ++ post → run (step K) (create tasks) pre = some mid → Attended K mid) ↔
      Along (step K) (RaisesLast K) (create tasks) moves := by
  have hstart : CancelledUnfinished K (create tasks) := fun m hm hc => by
    rw [unhurt_create tasks m hm] at hc
    cases hc
  have hmid : ∀ {pre mid}, run (step K) (create tasks) pre = some mid → CancelledUnfinished K mid :=
    fun h => run_keeps (fun _ _ _ hg hstep => cancelledUnfinished_step hg hstep) hstart h
  constructor
  · intro hall
    have hend := hall moves [] g' (List.append_nil _).symm hrun
    exact (unhurt_run_iff (unhurt_create tasks) hrun).1 ((attended_iff (hmid hrun)).1 hend)
  · intro hlast pre post mid hcut hpre
    subst hcut
    have hto := (along_append hlast hpre).1
    exact (attended_iff (hmid hpre)).2 ((unhurt_run_iff (unhurt_create tasks) hpre).2 hto)

end TaskGroup
