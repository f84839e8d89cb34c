import Mathlib
/-!
# Machine — runs of a machine that takes one action after another

The step of a machine is a partial function of its state and an action; whatever the machine does not decide (who
moves next, what a remote party answers) is part of the action, so a run is a list of actions.
-/
namespace Machine

variable {σ τ α β : Type}

/-- The state after some actions, if each of them is possible when its turn comes. -/
def run (step : σ → α → Option σ) : σ → List α → Option σ
  | s, [] => some s
  | s, a :: as => (step s a).bind (run step · as)

/-- A condition on a state and the action taken there holds all along a run. -/
def Along (step : σ → α → Option σ) (C : σ → α → Prop) : σ → List α → Prop
  | _, [] => True
  | s, a :: as => C s a ∧ ∀ s', step s a = some s' → Along step C s' as

variable {step : σ → α → Option σ}

theorem run_cons {s s' : σ} {a : α} {as : List α} :
    run step s (a :: as) = some s' ↔ ∃ s₁, step s a = some s₁ ∧ run step s₁ as = some s' := by
  rw [run]
  exact Option.bind_eq_some_iff

theorem run_one {s s' : σ} {a : α} (h : step s a = some s') : run step s [a] = some s' := run_cons.2 ⟨s', h, rfl⟩

theorem run_append {s s' : σ} {as bs : List α} :
    run step s (as ++ bs) = some s' ↔ ∃ s₁, run step s as = some s₁ ∧ run step s₁ bs = some s' := by
  induction as generalizing s with
  | nil => simp [run]
  | cons a as ih =>
    rw [List.cons_append, run_cons]
    constructor
    · rintro ⟨s₁, hstep, hrun⟩
      obtain ⟨s₂, h₁, h₂⟩ := ih.1 hrun
      exact ⟨s₂, run_cons.2 ⟨s₁, hstep, h₁⟩, h₂⟩
    · rintro ⟨s₂, h₁, h₂⟩
      obtain ⟨s₁, hstep, hrun⟩ := run_cons.1 h₁
      exact ⟨s₁, hstep, ih.2 ⟨s₂, hrun, h₂⟩⟩

/-- **What every step keeps under its condition, every run keeps along which the condition holds.** -/
theorem run_along {I : σ → Prop} {C : σ → α → Prop} (hstep : ∀ s a s', I s → C s a → step s a = some s' → I s') :
    ∀ {as : List α} {s s' : σ}, I s → Along step C s as → run step s as = some s' → I s'
  | [], s, s', hs, _, hrun => by
    cases hrun
    exact hs
  | a :: as, s, s', hs, hC, hrun => by
    obtain ⟨s₁, h₁, hrun⟩ := run_cons.1 hrun
    exact run_along hstep (hstep s a s₁ hs hC.1 h₁) (hC.2 s₁ h₁) hrun

theorem along_append {C : σ → α → Prop} {s s' : σ} : ∀ {as bs : List α}, Along step C s (as ++ bs) →
    run step s as = some s' → Along step C s as ∧ Along step C s' bs
  | [], bs, h, hrun => by
    cases hrun
    exact ⟨trivial, h⟩
  | a :: as, bs, h, hrun => by
    obtain ⟨s₁, h₁, hrun⟩ := run_cons.1 hrun
    obtain ⟨-, hbs⟩ := along_append (h.2 s₁ h₁) hrun
    refine ⟨⟨h.1, fun s₂ h₂ => ?_⟩, hbs⟩
    rw [h₁] at h₂
    cases h₂
    exact (along_append (h.2 s₁ h₁) hrun).1

theorem along_cons {C : σ → α → Prop} {s s' : σ} {a : α} {as : List α} (ha : C s a) (hstep : step s a = some s')
    (has : Along step C s' as) : Along step C s (a :: as) := by
  refine ⟨ha, fun s₁ h₁ => ?_⟩
  rw [hstep] at h₁
  cases h₁
  exact has

instance decidableAlong {C : σ → α → Prop} [∀ s a, Decidable (C s a)] :
    ∀ (s : σ) (as : List α), Decidable (Along step C s as)
  | _, [] => isTrue trivial
  | s, a :: as =>
    match h : step s a with
    | none => decidable_of_iff (C s a) ⟨fun ha => ⟨ha, fun _ h' => nomatch h.symm.trans h'⟩, And.left⟩
    | some s₁ =>
      have : Decidable (Along step C s₁ as) := decidableAlong s₁ as
      decidable_of_iff (C s a ∧ Along step C s₁ as) ⟨fun ha => along_cons ha.1 h ha.2, fun ha => ⟨ha.1, ha.2 s₁ h⟩⟩

theorem along_true : ∀ (as : List α) (s : σ), Along step (fun _ _ => True) s as
  | [], _ => trivial
  | _ :: as, _ => ⟨trivial, fun s' _ => along_true as s'⟩

theorem along_of_forall {C : α → Prop} : ∀ {as : List α} (_ : ∀ a ∈ as, C a) (s : σ), Along step (fun _ a => C a) s as
  | [], _, _ => trivial
  | _ :: _, h, _ => ⟨h _ List.mem_cons_self, fun s' _ =>
      along_of_forall (fun a ha => h a (List.mem_cons_of_mem _ ha)) s'⟩

theorem along_within {I : σ → Prop} {C C' : σ → α → Prop} (hstep : ∀ s a s', I s → C s a → step s a = some s' → I s')
    (h : ∀ s a, I s → C s a → C' s a) : ∀ {as : List α} {s : σ}, I s → Along step C s as → Along step C' s as
  | [], _, _, _ => trivial
  | _ :: _, _, hs, hC => ⟨h _ _ hs hC.1, fun s' hs' =>
      along_within hstep h (hstep _ _ s' hs hC.1 hs') (hC.2 s' hs')⟩

theorem along_imp {C C' : σ → α → Prop} (h : ∀ s a, C s a → C' s a) {as : List α} {s : σ} (hC : Along step C s as) :
    Along step C' s as :=
  along_within (I := fun _ => True) (fun _ _ _ _ _ _ => trivial) (fun s a _ => h s a) trivial hC

theorem run_keeps {I : σ → Prop} (hstep : ∀ s a s', I s → step s a = some s' → I s') {as : List α} {s s' : σ}
    (hs : I s) (hrun : run step s as = some s') : I s' :=
  run_along (C := fun _ _ => True) (fun s a s' hs _ => hstep s a s' hs) hs (along_true as s) hrun

/-- **What a run has come through**: a statement about the actions so far that each further one keeps. -/
theorem run_history {P : List α → σ → Prop} {s : σ} (hinit : P [] s)
    (hstep : ∀ as a s₁ s₂, run step s as = some s₁ → P as s₁ → step s₁ a = some s₂ → P (as ++ [a]) s₂) {as : List α} :
    ∀ {s' : σ}, run step s as = some s' → P as s' := by
  induction as using List.reverseRecOn with
  | nil =>
    intro s' hrun
    cases hrun
    exact hinit
  | append_singleton as a ih =>
    intro s' hrun
    obtain ⟨s₁, h₁, hlast⟩ := run_append.1 hrun
    obtain ⟨s₂, h₂, hnil⟩ := run_cons.1 hlast
    cases hnil
    exact hstep as a s₁ _ h₁ (ih h₁) h₂

/-- Some action of a run is as the statement says of the actions before it, of the state it was taken in and of
itself. -/
def Happened (step : σ → α → Option σ) (s : σ) (as : List α) (E : List α → σ → α → Prop) : Prop :=
  ∃ before a after mid, as = before ++ a :: after ∧ run step s before = some mid ∧ E before mid a

theorem Happened.append {s : σ} {as : List α} {E : List α → σ → α → Prop} (h : Happened step s as E) (bs : List α) :
    Happened step s (as ++ bs) E := by
  obtain ⟨before, a, after, mid, rfl, hmid, ha⟩ := h
  exact ⟨before, a, after ++ bs, mid, by rw [List.append_assoc, List.cons_append], hmid, ha⟩

theorem Happened.last {s s' : σ} {as : List α} {a : α} {E : List α → σ → α → Prop} (hrun : run step s as = some s')
    (h : E as s' a) : Happened step s (as ++ [a]) E := ⟨as, a, [], s', rfl, hrun, h⟩

/-- **Since**: when a step leaves a statement true exactly if it starts it, or found it true and does not end it, then
the statement is true after a run exactly if some step started it and none after that one ended it. -/
theorem run_since {I Q : σ → Prop} {starts : σ → α → Prop} {ends : α → Prop}
    (hkeeps : ∀ s a s', I s → step s a = some s' → I s')
    (hstep : ∀ s a s', I s → step s a = some s' → (Q s' ↔ (Q s ∧ ¬ends a) ∨ starts s a)) {s : σ} (hI : I s) (hs : ¬Q s)
    {as : List α} : ∀ {s' : σ}, run step s as = some s' → (Q s' ↔ ∃ before a after mid, as = before ++ a :: after ∧
      run step s before = some mid ∧ starts mid a ∧ ∀ b ∈ after, ¬ends b) := by
  intro s' hrun
  refine run_history (P := fun as s' => Q s' ↔ ∃ before a after mid, as = before ++ a :: after ∧
    run step s before = some mid ∧ starts mid a ∧ ∀ b ∈ after, ¬ends b) ?_ ?_ hrun
  · refine ⟨fun h => absurd h hs, ?_⟩
    rintro ⟨before, a, after, mid, heq, -⟩
    exact absurd heq.symm (List.append_ne_nil_of_right_ne_nil _ (List.cons_ne_nil _ _))
  · intro as a s₁ s₂ h₁ ih h₂
    rw [hstep s₁ a s₂ (run_keeps hkeeps hI h₁) h₂]
    constructor
    · rintro (⟨hQ, hends⟩ | hstarts)
      · obtain ⟨before, b, after, mid, heq, hmid, hb, hafter⟩ := ih.1 hQ
        refine ⟨before, b, after ++ [a], mid, by rw [heq, List.append_assoc, List.cons_append], hmid, hb,
          fun c hc => ?_⟩
        obtain hc | hc := List.mem_append.1 hc
        · exact hafter c hc
        · rw [List.mem_singleton.1 hc]
          exact hends
      · exact ⟨as, a, [], s₁, rfl, h₁, hstarts, fun _ h => absurd h List.not_mem_nil⟩
    · rintro ⟨before, b, after, mid, heq, hmid, hb, hafter⟩
      obtain rfl | ⟨rest, c, rfl⟩ := List.eq_nil_or_concat after
      · obtain ⟨rfl, hlast⟩ := List.append_inj' heq rfl
        cases hlast
        rw [h₁] at hmid
        cases hmid
        exact .inr hb
      · rw [List.concat_eq_append] at heq hafter
        rw [← List.cons_append, ← List.append_assoc] at heq
        obtain ⟨rfl, hlast⟩ := List.append_inj' heq rfl
        cases hlast
        exact .inl ⟨ih.2 ⟨before, b, rest, mid, rfl, hmid, hb, fun d hd => hafter d (List.mem_append_left _ hd)⟩,
          hafter _ (List.mem_append_right _ (List.mem_singleton_self _))⟩

/-- **Simulation**: when each step from a related state is answered by a run of the other machine into a related one,
so is each run, and the other run passes a related state wherever this one is cut. -/
theorem run_simulated {step' : τ → β → Option τ} {R : σ → τ → Prop}
    (hstep : ∀ s t a s', R s t → step s a = some s' → ∃ bs t', run step' t bs = some t' ∧ R s' t') :
    ∀ {as : List α} {s s' : σ} {t : τ}, R s t → run step s as = some s' →
      ∃ bs t', run step' t bs = some t' ∧ R s' t' ∧
        ∀ pre post mid, as = pre ++ post → run step s pre = some mid →
          ∃ u bs₁ bs₂, run step' t bs₁ = some u ∧ run step' u bs₂ = some t' ∧ R mid u
  | [], s, s', t, hR, hrun => by
    cases hrun
    refine ⟨[], t, rfl, hR, fun pre post mid hpre hmid => ?_⟩
    rw [(List.append_eq_nil_iff.1 hpre.symm).1] at hmid
    cases hmid
    exact ⟨t, [], [], rfl, rfl, hR⟩
  | a :: as, s, s', t, hR, hrun => by
    obtain ⟨s₁, h₁, hrun⟩ := run_cons.1 hrun
    obtain ⟨bs, t₁, hbs, hR₁⟩ := hstep s t a s₁ hR h₁
    obtain ⟨cs, t', hcs, hR', hcut⟩ := run_simulated hstep hR₁ hrun
    have hall : run step' t (bs ++ cs) = some t' := run_append.2 ⟨t₁, hbs, hcs⟩
    refine ⟨bs ++ cs, t', hall, hR', fun pre post mid hpre hmid => ?_⟩
    cases pre with
    | nil =>
      cases hmid
      exact ⟨t, [], bs ++ cs, rfl, hall, hR⟩
    | cons b pre =>
      rw [List.cons_append, List.cons.injEq] at hpre
      obtain ⟨rfl, hpre⟩ := hpre
      obtain ⟨s₂, h₂, hmid⟩ := run_cons.1 hmid
      rw [h₁] at h₂
      cases h₂
      obtain ⟨u, bs₁, bs₂, hu, ht', hRmid⟩ := hcut pre post mid hpre hmid
      exact ⟨u, bs ++ bs₁, bs₂, run_append.2 ⟨t₁, hbs, hu⟩, ht', hRmid⟩

end Machine
