import Mathlib
/-!
# Effects — calls that change a state and may raise

A `Call ε σ α` runs on a state, returns or raises, and leaves a changed state in both cases, as a service does whose
writes are committed one by one.  A `Triple P m Q E` speaks of every run of `m` from a state of `P`: `Q` holds of the
value and the state it returns with, `E` of the state it raises in.  `Keeps I m` is the triple of an invariant.  There
is one rule for each way to build a call.
-/
namespace Effects

variable {ε σ α β : Type}

abbrev Call (ε σ : Type) := ExceptT ε (StateM σ)

def exec (m : Call ε σ α) (s : σ) : Except ε α × σ := m.run.run s

def lift (x : Except ε α) : Call ε σ α :=
  match x with
  | .ok a => pure a
  | .error e => throw e

@[simp] theorem exec_pure (a : α) (s : σ) : exec (pure a : Call ε σ α) s = (.ok a, s) := rfl

@[simp] theorem exec_throw (e : ε) (s : σ) : exec (throw e : Call ε σ α) s = (.error e, s) := rfl

@[simp] theorem exec_get (s : σ) : exec (get : Call ε σ σ) s = (.ok s, s) := rfl

@[simp] theorem exec_set (s s' : σ) : exec (set s' : Call ε σ PUnit) s = (.ok ⟨⟩, s') := rfl

@[simp] theorem exec_modify (f : σ → σ) (s : σ) : exec (modify f : Call ε σ PUnit) s = (.ok ⟨⟩, f s) := rfl

@[simp] theorem exec_modifyGet (f : σ → α × σ) (s : σ) :
    exec (modifyGet f : Call ε σ α) s = (.ok (f s).1, (f s).2) := rfl

@[simp] theorem exec_lift (x : Except ε α) (s : σ) : exec (lift x : Call ε σ α) s = (x, s) := by
  cases x <;> rfl

theorem exec_bind (m : Call ε σ α) (f : α → Call ε σ β) (s : σ) :
    exec (m >>= f) s = match exec m s with
      | (.ok a, s') => exec (f a) s'
      | (.error e, s') => (.error e, s') := by
  change (ExceptT.bindCont f (m s).1) (m s).2 = match m s with
    | (.ok a, s') => exec (f a) s'
    | (.error e, s') => (.error e, s')
  rcases m s with ⟨_ | a, s'⟩ <;> rfl

theorem exec_discard (m : Call ε σ α) (s : σ) : (exec (m *> pure ⟨⟩ : Call ε σ PUnit) s).2 = (exec m s).2 := by
  have hbind : (m *> pure ⟨⟩ : Call ε σ PUnit) = m >>= fun _ => pure ⟨⟩ := seqRight_eq_bind ..
  rw [hbind, exec_bind]
  rcases exec m s with ⟨_ | a, s'⟩ <;> rfl

theorem exec_tryCatch (m : Call ε σ α) (h : ε → Call ε σ α) (s : σ) :
    exec (tryCatch m h) s = match exec m s with
      | (.ok a, s') => (.ok a, s')
      | (.error e, s') => exec (h e) s' := by
  change (match (m s).1 with
    | .ok a => pure (.ok a)
    | .error e => h e : StateM σ (Except ε α)) (m s).2 = match m s with
    | (.ok a, s') => (.ok a, s')
    | (.error e, s') => exec (h e) s'
  rcases m s with ⟨_ | a, s'⟩ <;> rfl

theorem forM_cons (f : α → Call ε σ PUnit) (x : α) (xs : List α) :
    (x :: xs).forM f = f x >>= fun _ => xs.forM f := rfl

/-- A call on a part of the state: it runs on what `view` shows, and `put` stores what it leaves. -/
def embed {τ : Type} (view : σ → τ) (put : σ → τ → σ) (m : Call ε τ α) : Call ε σ α := do
  let s ← get
  let (r, t) := exec m (view s)
  set (put s t)
  lift r

@[simp] theorem exec_embed {τ : Type} (view : σ → τ) (put : σ → τ → σ) (m : Call ε τ α) (s : σ) :
    exec (embed view put m) s = ((exec m (view s)).1, put s (exec m (view s)).2) := by
  unfold embed
  rw [exec_bind, exec_get]
  dsimp only
  rw [exec_bind, exec_set]
  exact exec_lift _ _

/-- A call as one step of a machine, which goes on or raises. -/
def awaits {π : Type} (m : Call ε σ α) (raised : ε → π) (next : α → π) (s : σ) : π × σ :=
  match exec m s with
  | (.ok a, s') => (next a, s')
  | (.error e, s') => (raised e, s')

/-! ## Lists of values that may be errors -/

theorem mapM_eq_ok_iff {f : α → Except ε β} : ∀ {l : List α} {xs : List β}, l.mapM f = .ok xs ↔ l.map f = xs.map .ok
  | [], xs => by
    cases xs with
    | nil => exact ⟨fun _ => rfl, fun _ => rfl⟩
    | cons x xs => exact ⟨fun h => (by cases h), fun h => (by cases h)⟩
  | a :: l, xs => by
    rw [List.mapM_cons, List.map_cons]
    cases hf : f a with
    | error e =>
      refine ⟨fun h => (by cases h), fun h => ?_⟩
      cases xs <;> cases h
    | ok b =>
      have hread : (Except.ok b >>= fun b => l.mapM f >>= fun bs => pure (b :: bs)) = (l.mapM f).map (b :: ·) := by
        cases l.mapM f <;> rfl
      rw [hread]
      cases xs with
      | nil =>
        refine ⟨fun h => ?_, fun h => (by cases h)⟩
        cases hl : l.mapM f <;> rw [hl] at h <;> cases h
      | cons x xs =>
        rw [List.map_cons, List.cons.injEq, ← mapM_eq_ok_iff]
        constructor
        · intro h
          cases hl : l.mapM f with
          | error e => rw [hl] at h; cases h
          | ok ys =>
            rw [hl] at h
            cases h
            exact ⟨rfl, rfl⟩
        · rintro ⟨hb, hl⟩
          cases hb
          rw [hl]
          rfl

theorem mem_of_mapM_ok {f : α → Except ε β} {l : List α} {xs : List β} (h : l.mapM f = .ok xs) (b : β) :
    b ∈ xs ↔ ∃ a ∈ l, f a = .ok b := by
  have hl := mapM_eq_ok_iff.1 h
  have hmem : b ∈ xs ↔ .ok b ∈ (xs.map .ok : List (Except ε β)) := by
    rw [List.mem_map]
    exact ⟨fun hb => ⟨b, hb, rfl⟩, fun ⟨x, hx, hxb⟩ => Except.ok.inj hxb ▸ hx⟩
  rw [hmem, ← hl, List.mem_map]

theorem exists_mapM_ok_iff {f : α → Except ε β} : ∀ {l : List α}, (∃ xs, l.mapM f = .ok xs) ↔ ∀ a ∈ l, ∃ b, f a = .ok b
  | [] => ⟨fun _ _ h => absurd h List.not_mem_nil, fun _ => ⟨[], rfl⟩⟩
  | a :: l => by
    rw [List.forall_mem_cons, ← exists_mapM_ok_iff]
    constructor
    · rintro ⟨xs, h⟩
      have hl := mapM_eq_ok_iff.1 h
      cases xs with
      | nil => cases hl
      | cons x xs =>
        rw [List.map_cons, List.map_cons, List.cons.injEq] at hl
        exact ⟨⟨x, hl.1⟩, xs, mapM_eq_ok_iff.2 hl.2⟩
    · rintro ⟨⟨b, hb⟩, xs, hxs⟩
      exact ⟨b :: xs, mapM_eq_ok_iff.2 (by rw [List.map_cons, List.map_cons, hb, mapM_eq_ok_iff.1 hxs])⟩

theorem map_of_mapM_ok {γ : Type} {f : α → Except ε β} {g : β → γ} {k : α → γ} : ∀ {l : List α} {xs : List β},
    l.mapM f = .ok xs → (∀ a ∈ l, ∀ b, f a = .ok b → g b = k a) → xs.map g = l.map k
  | [], xs, h, _ => by
    rw [List.map_eq_nil_iff.1 (mapM_eq_ok_iff.1 h).symm]
    rfl
  | a :: l, xs, h, hsame => by
    have hl := mapM_eq_ok_iff.1 h
    cases xs with
    | nil => cases hl
    | cons x xs =>
      rw [List.map_cons, List.map_cons, List.cons.injEq] at hl
      rw [List.map_cons, List.map_cons, hsame a List.mem_cons_self x hl.1,
        map_of_mapM_ok (mapM_eq_ok_iff.2 hl.2) fun b hb => hsame b (List.mem_cons_of_mem a hb)]

/-! ## Triples -/

def Triple (P : σ → Prop) (m : Call ε σ α) (Q : α → σ → Prop) (E : σ → Prop) : Prop :=
  ∀ s, P s → (∀ a s', exec m s = (.ok a, s') → Q a s') ∧ ∀ e s', exec m s = (.error e, s') → E s'

/-- The call keeps the invariant, whether it returns or raises. -/
def Keeps (I : σ → Prop) (m : Call ε σ α) : Prop := Triple I m (fun _ => I) I

variable {P P' E : σ → Prop} {I : σ → Prop}

theorem Triple.after {m : Call ε σ α} (h : Triple P m (fun _ => I) I) {s : σ} (hs : P s) : I (exec m s).2 := by
  obtain ⟨hok, herr⟩ := h s hs
  rcases hr : exec m s with ⟨_ | a, s'⟩
  · exact herr _ _ hr
  · exact hok _ _ hr

theorem Keeps.after {m : Call ε σ α} (h : Keeps I m) {s : σ} (hs : I s) : I (exec m s).2 := Triple.after h hs

theorem Triple.of_exec {m : Call ε σ α} {Q : α → σ → Prop}
    (h : ∀ s, P s → match exec m s with
      | (.ok a, s') => Q a s'
      | (.error _, s') => E s') : Triple P m Q E := by
  intro s hs
  have hm := h s hs
  constructor
  · intro a s' hr
    rw [hr] at hm
    exact hm
  · intro e s' hr
    rw [hr] at hm
    exact hm

theorem Triple.pure {Q : α → σ → Prop} (a : α) (h : ∀ s, P s → Q a s) :
    Triple P (pure a : Call ε σ α) Q E :=
  Triple.of_exec h

theorem Triple.throw {Q : α → σ → Prop} (e : ε) (h : ∀ s, P s → E s) :
    Triple P (throw e : Call ε σ α) Q E :=
  Triple.of_exec h

theorem Triple.lift {Q : α → σ → Prop} (x : Except ε α) (h : ∀ s, P s → ∀ a, x = .ok a → Q a s)
    (hE : ∀ s, P s → E s) : Triple P (lift x : Call ε σ α) Q E := by
  cases x with
  | error e => exact Triple.throw e hE
  | ok a => exact Triple.pure a (fun s hs => h s hs a rfl)

theorem Triple.get {Q : σ → σ → Prop} (h : ∀ s, P s → Q s s) : Triple P (get : Call ε σ σ) Q E :=
  Triple.of_exec h

theorem Triple.modify {Q : PUnit → σ → Prop} (f : σ → σ) (h : ∀ s, P s → Q ⟨⟩ (f s)) :
    Triple P (modify f : Call ε σ PUnit) Q E :=
  Triple.of_exec h

theorem Triple.modifyGet {Q : α → σ → Prop} (f : σ → α × σ) (h : ∀ s, P s → Q (f s).1 (f s).2) :
    Triple P (modifyGet f : Call ε σ α) Q E :=
  Triple.of_exec h

/-- **The rule of sequence**: what the first call establishes is what the second starts from. -/
theorem Triple.bind {m : Call ε σ α} {f : α → Call ε σ β} {R : α → σ → Prop} {Q : β → σ → Prop}
    (hm : Triple P m R E) (hf : ∀ a, Triple (R a) (f a) Q E) : Triple P (m >>= f) Q E := by
  apply Triple.of_exec
  intro s hs
  obtain ⟨hok, herr⟩ := hm s hs
  rw [exec_bind]
  rcases hr : exec m s with ⟨e | a, s'⟩
  · exact herr e s' hr
  · obtain ⟨hok', herr'⟩ := hf a s' (hok a s' hr)
    rcases hr' : exec (f a) s' with ⟨e | b, s''⟩
    · simpa only [hr'] using herr' e s'' hr'
    · simpa only [hr'] using hok' b s'' hr'

theorem Triple.lift_bind {x : Except ε α} {f : α → Call ε σ β} {Q : β → σ → Prop}
    (hf : ∀ a, x = .ok a → Triple P (f a) Q E) (hE : ∀ s, P s → E s) : Triple P (Effects.lift x >>= f) Q E := by
  cases x with
  | error e => exact Triple.bind (R := fun _ _ => False) (Triple.throw e hE) fun _ _ h => h.elim
  | ok a => exact hf a rfl

theorem Triple.get_bind {f : σ → Call ε σ β} {Q : β → σ → Prop}
    (hf : ∀ s, P s → Triple (fun s' => s' = s) (f s) Q E) : Triple P (MonadState.get >>= f) Q E := by
  intro s hs
  exact hf s hs s rfl

theorem Triple.tryCatch {m : Call ε σ α} {h : ε → Call ε σ α} {Q : α → σ → Prop} {E' : σ → Prop}
    (hm : Triple P m Q E') (hh : ∀ e, Triple E' (h e) Q E) : Triple P (tryCatch m h) Q E := by
  apply Triple.of_exec
  intro s hs
  obtain ⟨hok, herr⟩ := hm s hs
  rw [exec_tryCatch]
  rcases hr : exec m s with ⟨e | a, s'⟩
  · obtain ⟨hok', herr'⟩ := hh e s' (herr e s' hr)
    rcases hr' : exec (h e) s' with ⟨e' | b, s''⟩
    · simpa only [hr'] using herr' e' s'' hr'
    · simpa only [hr'] using hok' b s'' hr'
  · exact hok a s' hr

theorem Triple.imp {m : Call ε σ α} {Q Q' : α → σ → Prop} {E' : σ → Prop} (hm : Triple P m Q E)
    (hP : ∀ s, P' s → P s) (hQ : ∀ a s, Q a s → Q' a s) (hE : ∀ s, E s → E' s) : Triple P' m Q' E' :=
  fun s hs => ⟨fun a s' hr => hQ a s' ((hm s (hP s hs)).1 a s' hr), fun e s' hr => hE s' ((hm s (hP s hs)).2 e s' hr)⟩

/-- **The rule of a call on a part of the state.** -/
theorem Triple.embed {τ : Type} {view : σ → τ} {put : σ → τ → σ} {m : Call ε τ α} {Q : α → σ → Prop}
    (h : ∀ s, P s → Triple (fun t => t = view s) m (fun a t => Q a (put s t)) (fun t => E (put s t))) :
    Triple P (embed view put m) Q E := by
  apply Triple.of_exec
  intro s hs
  obtain ⟨hok, herr⟩ := h s hs (view s) rfl
  rw [exec_embed]
  rcases hr : exec m (view s) with ⟨e | a, t⟩
  · exact herr e t hr
  · exact hok a t hr

/-! ## Invariants -/

theorem Keeps.pure (a : α) : Keeps I (pure a : Call ε σ α) := Triple.pure a (fun _ hs => hs)

theorem Keeps.throw (e : ε) : Keeps I (throw e : Call ε σ α) := Triple.throw e (fun _ hs => hs)

theorem Keeps.lift (x : Except ε α) : Keeps I (lift x : Call ε σ α) :=
  Triple.lift x (fun _ hs _ _ => hs) (fun _ hs => hs)

theorem keeps_of_rests {m : Call ε σ α} (hm : ∀ s, (exec m s).2 = s) : Keeps I m := by
  intro s hs
  have h := hm s
  refine ⟨fun a s' hr => ?_, fun e s' hr => ?_⟩ <;> rw [hr] at h <;> subst h <;> exact hs

theorem Keeps.get : Keeps I (get : Call ε σ σ) := Triple.get (fun _ hs => hs)

theorem Keeps.modify (f : σ → σ) (h : ∀ s, I s → I (f s)) : Keeps I (modify f : Call ε σ PUnit) := Triple.modify f h

theorem Keeps.bind {m : Call ε σ α} {f : α → Call ε σ β} (hm : Keeps I m) (hf : ∀ a, Keeps I (f a)) :
    Keeps I (m >>= f) :=
  Triple.bind hm hf

theorem Keeps.tryCatch {m : Call ε σ α} {h : ε → Call ε σ α} (hm : Keeps I m) (hh : ∀ e, Keeps I (h e)) :
    Keeps I (tryCatch m h) :=
  Triple.tryCatch hm hh

theorem Keeps.forM {f : α → Call ε σ PUnit} : ∀ (xs : List α), (∀ x ∈ xs, Keeps I (f x)) → Keeps I (xs.forM f)
  | [], _ => Keeps.pure _
  | x :: xs, h => Keeps.bind (h x List.mem_cons_self) fun _ =>
      Keeps.forM xs fun y hy => h y (List.mem_cons_of_mem _ hy)

theorem Keeps.mapM {f : α → Call ε σ β} : ∀ (xs : List α), (∀ x ∈ xs, Keeps I (f x)) → Keeps I (xs.mapM f)
  | [], _ => Keeps.pure _
  | x :: xs, h => by
    rw [List.mapM_cons]
    exact Keeps.bind (h x List.mem_cons_self) fun _ =>
      Keeps.bind (Keeps.mapM xs fun y hy => h y (List.mem_cons_of_mem _ hy)) fun _ => Keeps.pure _

/-- A condition holds before each pass of a loop that is reached. -/
def AlongLoop (f : α → Call ε σ PUnit) (C : α → σ → Prop) : List α → σ → Prop
  | [], _ => True
  | x :: xs, s => C x s ∧ ∀ s', exec (f x) s = (.ok ⟨⟩, s') → AlongLoop f C xs s'

/-- **A loop keeps what each pass keeps under its condition.** -/
theorem Triple.forM_along {f : α → Call ε σ PUnit} {C : α → σ → Prop}
    (hf : ∀ x, Triple (fun s => I s ∧ C x s) (f x) (fun _ => I) I) :
    ∀ xs : List α, Triple (fun s => I s ∧ AlongLoop f C xs s) (xs.forM f) (fun _ => I) I
  | [] => Triple.pure _ fun _ hs => hs.1
  | x :: xs => by
    apply Triple.of_exec
    rintro s ⟨hs, hC, hrest⟩
    obtain ⟨hok, herr⟩ := hf x s ⟨hs, hC⟩
    rw [forM_cons, exec_bind]
    rcases hr : exec (f x) s with ⟨e | u, s'⟩
    · exact herr e s' hr
    · obtain ⟨hok', herr'⟩ := Triple.forM_along hf xs s' ⟨hok u s' hr, hrest s' hr⟩
      rcases hr' : exec (xs.forM f) s' with ⟨e | u', s''⟩
      · simpa only [hr'] using herr' e s'' hr'
      · simpa only [hr'] using hok' u' s'' hr'

theorem Triple.with_exec {m : Call ε σ α} {Q : α → σ → Prop} (hm : Triple P m Q E) :
    Triple P m (fun a s' => Q a s' ∧ ∃ s, P s ∧ exec m s = (.ok a, s')) E :=
  fun s hs => ⟨fun a s' hr => ⟨(hm s hs).1 a s' hr, s, hs, hr⟩, (hm s hs).2⟩

end Effects
