import FixBackend.Machine
/-!
# Optimistic — many calls on one versioned row

Each call reads the row, computes from it, and either keeps it or writes a new one, which is refused when the row was
written in between; then the call starts over.  After the write the row is read once more for the answer.  The machine
remembers the calls in a serial order, which no step reads: a write goes to its end, a call that keeps the row goes
where the row still was the one it read.  Applied one after another in that order the calls lead to the row
(`run_serial`), and a call that had answered before another began comes first (`run_inTurn`).
-/
namespace Optimistic

open Machine

variable {ι ρ τ κ α : Type}

/-- What a call makes of the row it read. -/
inductive Outcome (ρ α : Type) where
  | keep (answer : α)
  | write (row : ρ)

/-- The calls: `apply i t r` is what call `i` makes of the row `r` at time `t`, none if it raises; `view k r` is its
answer when it finds `r` after its write, `k` being what it had put aside. -/
structure Calls (ι ρ τ κ α : Type) where
  version : ρ → Nat
  apply : ι → τ → ρ → Option (Outcome ρ α)
  view : κ → ρ → Option α
  version_write : ∀ {i t r r'}, apply i t r = some (.write r') → version r' = version r + 1

/-- Where a call stands: not begun, to start over, after its read, before its write, after its write, ended. -/
inductive Phase (ρ τ κ α : Type) where
  | idle
  | again
  | holding (read : ρ)
  | writing (read : ρ) (time : τ) (row : ρ) (aside : κ)
  | written (aside : κ)
  | returned (answer : α)
  | raised

structure Applied (ι τ : Type) where
  call : ι
  time : τ

structure State (ι ρ τ κ α : Type) where
  row : ρ
  phase : ι → Phase ρ τ κ α
  order : List (Applied ι τ)

inductive Act (ι τ κ : Type) where
  | read (i : ι)
  | apply (i : ι) (time : τ) (aside : κ)
  | commit (i : ι)
  | refuse (i : ι)
  | answer (i : ι)

section Serial

variable (C : Calls ι ρ τ κ α)

/-- The row after one call applied alone. -/
def next (r : ρ) (e : Applied ι τ) : ρ :=
  match C.apply e.call e.time r with
  | some (.write r') => r'
  | _ => r

/-- The row after calls applied one after another. -/
def replay (r : ρ) (es : List (Applied ι τ)) : ρ := es.foldl (next C) r

/-- `e` after the last place where the version is at most `v`. -/
def place (e : Applied ι τ) (v : Nat) : ρ → List (Applied ι τ) → List (Applied ι τ)
  | _, [] => [e]
  | r, x :: xs => if C.version (next C r x) ≤ v then x :: place e v (next C r x) xs else e :: x :: xs

variable [DecidableEq ι]

def State.moves (s : State ι ρ τ κ α) (i : ι) (p : Phase ρ τ κ α) : State ι ρ τ κ α :=
  { s with phase := Function.update s.phase i p }

def step (first : ρ) (s : State ι ρ τ κ α) : Act ι τ κ → Option (State ι ρ τ κ α)
  | .read i =>
    match s.phase i with
    | .idle | .again => some (s.moves i (.holding s.row))
    | _ => none
  | .apply i t k =>
    match s.phase i with
    | .holding r =>
      match C.apply i t r with
      | none => some (s.moves i .raised)
      | some (.keep a) =>
        some { s.moves i (.returned a) with order := place C ⟨i, t⟩ (C.version r) first s.order }
      | some (.write r') => some (s.moves i (.writing r t r' k))
    | _ => none
  | .commit i =>
    match s.phase i with
    | .writing r t r' k =>
      if C.version s.row = C.version r then
        some { s.moves i (.written k) with row := r', order := s.order ++ [⟨i, t⟩] }
      else some (s.moves i .again)
    | _ => none
  | .refuse i =>
    match s.phase i with
    | .writing _ _ _ _ => some (s.moves i .raised)
    | _ => none
  | .answer i =>
    match s.phase i with
    | .written k =>
      match C.view k s.row with
      | some a => some (s.moves i (.returned a))
      | none => some (s.moves i .raised)
    | _ => none

def start (first : ρ) : State ι ρ τ κ α := ⟨first, fun _ => .idle, []⟩

end Serial

/-! ## Rows along an order -/

section Replay

variable {C : Calls ι ρ τ κ α}

@[simp] theorem replay_nil (r : ρ) : replay C r [] = r := rfl

@[simp] theorem replay_cons (r : ρ) (e : Applied ι τ) (es : List (Applied ι τ)) :
    replay C r (e :: es) = replay C (next C r e) es := rfl

@[simp] theorem replay_append (r : ρ) (es es' : List (Applied ι τ)) :
    replay C r (es ++ es') = replay C (replay C r es) es' := List.foldl_append

theorem next_eq_or (r : ρ) (e : Applied ι τ) :
    next C r e = r ∨ C.version (next C r e) = C.version r + 1 := by
  unfold next
  split
  · rename_i r' h
    exact .inr (C.version_write h)
  · exact .inl rfl

theorem version_le_replay : ∀ (es : List (Applied ι τ)) (r : ρ), C.version r ≤ C.version (replay C r es)
  | [], r => Nat.le_refl _
  | e :: es, r => by
    have ih := version_le_replay es (next C r e)
    rw [replay_cons]
    rcases next_eq_or (C := C) r e with h | h
    · rw [h] at ih ⊢
      exact ih
    · omega

theorem replay_of_version : ∀ (es : List (Applied ι τ)) (r : ρ), C.version (replay C r es) ≤ C.version r →
    replay C r es = r
  | [], r, _ => rfl
  | e :: es, r, hle => by
    rw [replay_cons] at hle ⊢
    have hmono := version_le_replay (C := C) es (next C r e)
    rcases next_eq_or (C := C) r e with h | h
    · rw [h] at hle ⊢
      exact replay_of_version es r hle
    · omega

theorem place_split (e : Applied ι τ) (v : Nat) : ∀ (es : List (Applied ι τ)) (r : ρ), C.version r ≤ v →
    ∃ pre post, es = pre ++ post ∧ place C e v r es = pre ++ e :: post ∧ C.version (replay C r pre) ≤ v ∧
      ∀ pre' post', es = pre' ++ post' → C.version (replay C r pre') ≤ v → pre' <+: pre
  | [], r, hr => by
    refine ⟨[], [], rfl, rfl, hr, fun pre' post' h _ => ?_⟩
    rw [(List.append_eq_nil_iff.1 h.symm).1]
  | x :: xs, r, hr => by
    by_cases hx : C.version (next C r x) ≤ v
    · obtain ⟨pre, post, hes, hplace, hv, hmax⟩ := place_split e v xs (next C r x) hx
      refine ⟨x :: pre, post, by rw [hes]; rfl, by rw [place, if_pos hx, hplace]; rfl, hv, ?_⟩
      intro pre' post' h hle
      cases pre' with
      | nil => exact List.nil_prefix
      | cons y pre' =>
        rw [List.cons_append, List.cons.injEq] at h
        obtain ⟨rfl, h⟩ := h
        exact (List.prefix_cons_inj x).2 (hmax pre' post' h hle)
    · refine ⟨[], x :: xs, rfl, by rw [place, if_neg hx]; rfl, hr, ?_⟩
      intro pre' post' h hle
      cases pre' with
      | nil => exact List.nil_prefix
      | cons y pre' =>
        rw [List.cons_append, List.cons.injEq] at h
        obtain ⟨rfl, -⟩ := h
        have := version_le_replay (C := C) pre' (next C r x)
        rw [replay_cons] at hle
        omega

def Own (C : Calls ι ρ τ κ α) (first : ρ) (order : List (Applied ι τ)) (e : Applied ι τ) (r : ρ) : Prop :=
  ∃ pre post, order = pre ++ e :: post ∧ replay C first pre = r

/-- Somewhere in the order, the calls `es` being past, the row is `r`. -/
def Passes (C : Calls ι ρ τ κ α) (first : ρ) (order es : List (Applied ι τ)) (r : ρ) : Prop :=
  ∃ pre post, order = pre ++ post ∧ es ⊆ pre ∧ replay C first pre = r

/-- The order grows by `e`, which leaves the row as it is unless it comes last. -/
def Grows (C : Calls ι ρ τ κ α) (first : ρ) (order : List (Applied ι τ)) (e : Applied ι τ)
    (order' : List (Applied ι τ)) : Prop :=
  ∃ pre post, order = pre ++ post ∧ order' = pre ++ e :: post ∧
    (post = [] ∨ next C (replay C first pre) e = replay C first pre)

variable {first r : ρ} {order order' es : List (Applied ι τ)} {e x : Applied ι τ}

theorem grows_append : Grows C first order e (order ++ [e]) := ⟨order, [], by simp, rfl, .inl rfl⟩

theorem place_at (hr : Passes C first order [] r) :
    ∃ pre post, order = pre ++ post ∧ place C e (C.version r) first order = pre ++ e :: post ∧
      replay C first pre = r ∧
      ∀ pre' post', order = pre' ++ post' → C.version (replay C first pre') ≤ C.version r → pre' <+: pre := by
  obtain ⟨pre₁, post₁, horder₁, -, hrow₁⟩ := hr
  have hv : C.version first ≤ C.version r := hrow₁ ▸ version_le_replay pre₁ first
  obtain ⟨pre, post, horder, hplace, hle, hmax⟩ := place_split e (C.version r) order first hv
  obtain ⟨mid, rfl⟩ := hmax pre₁ post₁ horder₁ (by rw [hrow₁])
  refine ⟨_, post, horder, hplace, ?_, hmax⟩
  rw [replay_append, hrow₁] at hle ⊢
  exact replay_of_version mid r hle

theorem Grows.mem (h : Grows C first order e order') : e ∈ order' := by
  obtain ⟨pre, post, -, rfl, -⟩ := h
  simp

theorem Grows.sublist (h : Grows C first order e order') : order.Sublist order' := by
  obtain ⟨pre, post, rfl, rfl, -⟩ := h
  exact List.Sublist.append_left (List.sublist_cons_self e post) pre

theorem Grows.perm (h : Grows C first order e order') : order'.Perm (e :: order) := by
  obtain ⟨pre, post, rfl, rfl, -⟩ := h
  exact List.perm_middle

theorem Grows.own (h : Grows C first order e order') (hx : Own C first order x r) : Own C first order' x r := by
  obtain ⟨pre, post, horder, rfl, hkeep⟩ := h
  obtain ⟨pre₁, post₁, horder₁, hr⟩ := hx
  rcases List.append_eq_append_iff.1 (horder.symm.trans horder₁) with ⟨mid, rfl, rfl⟩ | ⟨mid, rfl, hmid⟩
  · -- `e` comes before `x`
    refine ⟨pre ++ e :: mid, post₁, by simp, ?_⟩
    have hne : mid ++ x :: post₁ ≠ [] := by simp
    rw [replay_append, replay_cons, hkeep.resolve_left hne, ← replay_append, hr]
  · cases mid with
    | nil =>
      rw [List.append_nil] at *
      cases hmid
      refine ⟨pre₁ ++ [e], post₁, by simp, ?_⟩
      rw [replay_append, replay_cons, hkeep.resolve_left (by simp), hr, replay_nil]
    | cons y mid =>
      rw [List.cons_append, List.cons.injEq] at hmid
      obtain ⟨rfl, rfl⟩ := hmid
      exact ⟨pre₁, mid ++ e :: post, by simp, hr⟩

theorem Grows.passes (h : Grows C first order e order') (hes : Passes C first order es r) :
    Passes C first order' es r := by
  obtain ⟨pre, post, horder, rfl, hkeep⟩ := h
  obtain ⟨pre₁, post₁, horder₁, hsub, hr⟩ := hes
  rcases List.append_eq_append_iff.1 (horder.symm.trans horder₁) with ⟨mid, rfl, rfl⟩ | ⟨mid, rfl, rfl⟩
  · cases mid with
    | nil =>
      rw [List.append_nil] at hsub hr
      exact ⟨pre, e :: post₁, rfl, hsub, hr⟩
    | cons y mid =>
      refine ⟨pre ++ e :: y :: mid, post₁, by simp, fun z hz => ?_, ?_⟩
      · rcases List.mem_append.1 (hsub hz) with h | h
        · exact List.mem_append_left _ h
        · exact List.mem_append_right _ (List.mem_cons_of_mem _ h)
      · rw [replay_append, replay_cons, hkeep.resolve_left (by simp), ← replay_append, hr]
  · exact ⟨pre₁, mid ++ e :: post, by simp, hsub, hr⟩

end Replay

/-! ## Runs -/

section Runs

variable {C : Calls ι ρ τ κ α} {first : ρ}

/-- What call `i` answered: what it made of a row it kept, or the row at some place after its own write. -/
def Answered (C : Calls ι ρ τ κ α) (first : ρ) (order : List (Applied ι τ)) (i : ι) (a : α) : Prop :=
  ∃ t r, Own C first order ⟨i, t⟩ r ∧
    (C.apply i t r = some (.keep a) ∨
      ∃ r' k r'', C.apply i t r = some (.write r') ∧ Passes C first order [⟨i, t⟩] r'' ∧ C.view k r'' = some a)

/-- Where call `i` stands in the order, by its phase. -/
def Fits (C : Calls ι ρ τ κ α) (first : ρ) (order : List (Applied ι τ)) (i : ι) : Phase ρ τ κ α → Prop
  | .idle | .again => i ∉ order.map (·.call)
  | .holding r => i ∉ order.map (·.call) ∧ Passes C first order [] r
  | .writing r t r' _ => i ∉ order.map (·.call) ∧ Passes C first order [] r ∧ C.apply i t r = some (.write r')
  | .written _ => ∃ t r r', Own C first order ⟨i, t⟩ r ∧ C.apply i t r = some (.write r')
  | .returned a => Answered C first order i a
  | .raised => True

structure Inv (C : Calls ι ρ τ κ α) (first : ρ) (s : State ι ρ τ κ α) : Prop where
  row : s.row = replay C first s.order
  once : (s.order.map (·.call)).Nodup
  fits : ∀ i, Fits C first s.order i (s.phase i)

theorem Own.mem {order : List (Applied ι τ)} {e : Applied ι τ} {r : ρ} (h : Own C first order e r) : e ∈ order := by
  obtain ⟨pre, post, rfl, -⟩ := h
  simp

theorem Grows.not_mem {order order' : List (Applied ι τ)} {e : Applied ι τ} (h : Grows C first order e order') {j : ι}
    (hj : j ≠ e.call) (hn : j ∉ order.map (·.call)) : j ∉ order'.map (·.call) := by
  rw [(h.perm.map (·.call)).mem_iff, List.map_cons, List.mem_cons]
  rintro (h | h)
  · exact hj h
  · exact hn h

theorem Grows.fits {order order' : List (Applied ι τ)} {e : Applied ι τ} (h : Grows C first order e order') {j : ι}
    (hj : j ≠ e.call) : ∀ {p : Phase ρ τ κ α}, Fits C first order j p → Fits C first order' j p
  | .idle, hp | .again, hp => h.not_mem hj hp
  | .holding _, hp => ⟨h.not_mem hj hp.1, h.passes hp.2⟩
  | .writing _ _ _ _, hp => ⟨h.not_mem hj hp.1, h.passes hp.2.1, hp.2.2⟩
  | .written _, ⟨t, r, r', hown, hw⟩ => ⟨t, r, r', h.own hown, hw⟩
  | .returned _, ⟨t, r, hown, hw⟩ => by
    refine ⟨t, r, h.own hown, hw.imp_right ?_⟩
    rintro ⟨r', k, r'', hwrite, hpass, hview⟩
    exact ⟨r', k, r'', hwrite, h.passes hpass, hview⟩
  | .raised, _ => trivial

theorem Inv.current {s : State ι ρ τ κ α} (hs : Inv C first s) {r : ρ} (hr : Passes C first s.order [] r)
    (hv : C.version s.row = C.version r) : s.row = r := by
  obtain ⟨pre, post, horder, -, rfl⟩ := hr
  rw [hs.row, horder, replay_append] at hv ⊢
  exact replay_of_version post _ (Nat.le_of_eq hv)

theorem Inv.passes_row {s : State ι ρ τ κ α} (hs : Inv C first s) {es : List (Applied ι τ)} (hes : es ⊆ s.order) :
    Passes C first s.order es s.row :=
  ⟨s.order, [], by simp, hes, hs.row.symm⟩

theorem grows_place {order : List (Applied ι τ)} {i : ι} {t : τ} {r : ρ} {a : α} (hr : Passes C first order [] r)
    (h : C.apply i t r = some (.keep a)) :
    Grows C first order ⟨i, t⟩ (place C ⟨i, t⟩ (C.version r) first order) ∧
      Own C first (place C ⟨i, t⟩ (C.version r) first order) ⟨i, t⟩ r ∧
        replay C first (place C ⟨i, t⟩ (C.version r) first order) = replay C first order := by
  obtain ⟨pre, post, horder, hplace, hrow, -⟩ := place_at (e := ⟨i, t⟩) hr
  have hnext : next C r ⟨i, t⟩ = r := by
    unfold next
    rw [h]
  refine ⟨⟨pre, post, horder, hplace, .inr (by rw [hrow, hnext])⟩, ⟨pre, post, hplace, hrow⟩, ?_⟩
  rw [hplace, replay_append, replay_cons, hrow, hnext, horder, replay_append, hrow]

theorem inv_start : Inv C first (start first) := ⟨rfl, List.nodup_nil, fun _ => List.not_mem_nil⟩

variable [DecidableEq ι]

inductive Change (C : Calls ι ρ τ κ α) (first : ρ) (s : State ι ρ τ κ α) : State ι ρ τ κ α → Prop where
  | read (i : ι) (hi : s.phase i = .idle ∨ s.phase i = .again) : Change C first s (s.moves i (.holding s.row))
  | hold (i : ι) (t : τ) (k : κ) (r r' : ρ) (hi : s.phase i = .holding r) (h : C.apply i t r = some (.write r')) :
    Change C first s (s.moves i (.writing r t r' k))
  | keep (i : ι) (t : τ) (r : ρ) (a : α) (hi : s.phase i = .holding r) (h : C.apply i t r = some (.keep a)) :
    Change C first s
      { s.moves i (.returned a) with order := place C ⟨i, t⟩ (C.version r) first s.order }
  | commit (i : ι) (t : τ) (k : κ) (r r' : ρ) (hi : s.phase i = .writing r t r' k)
    (hv : C.version s.row = C.version r) :
    Change C first s { s.moves i (.written k) with row := r', order := s.order ++ [⟨i, t⟩] }
  | stale (i : ι) (t : τ) (k : κ) (r r' : ρ) (hi : s.phase i = .writing r t r' k) :
    Change C first s (s.moves i .again)
  | answer (i : ι) (k : κ) (a : α) (hi : s.phase i = .written k) (h : C.view k s.row = some a) :
    Change C first s (s.moves i (.returned a))
  | raise (i : ι) (hi : s.phase i ≠ .idle) : Change C first s (s.moves i .raised)

theorem step_change {s s' : State ι ρ τ κ α} {a : Act ι τ κ} (h : step C first s a = some s') :
    Change C first s s' := by
  cases a with
  | read i =>
    simp only [step] at h
    split at h <;> cases h
    · exact .read i (.inl (by assumption))
    · exact .read i (.inr (by assumption))
  | apply i t k =>
    simp only [step] at h
    split at h <;> [skip; cases h]
    rename_i r hi
    split at h <;> cases h
    · exact .raise i (by rw [hi]; simp)
    · exact .keep i t r _ hi (by assumption)
    · exact .hold i t k r _ hi (by assumption)
  | commit i =>
    simp only [step] at h
    split at h <;> [skip; cases h]
    rename_i r t r' k hi
    split at h <;> cases h
    · exact .commit i t k r r' hi (by assumption)
    · exact .stale i t k r r' hi
  | refuse i =>
    simp only [step] at h
    split at h <;> cases h
    rename_i r t r' k hi
    exact .raise i (by rw [hi]; simp)
  | answer i =>
    simp only [step] at h
    split at h <;> [skip; cases h]
    rename_i k hi
    split at h <;> cases h
    · exact .answer i k _ hi (by assumption)
    · exact .raise i (by rw [hi]; simp)

theorem Inv.moves {s : State ι ρ τ κ α} (hs : Inv C first s) {i : ι} {p : Phase ρ τ κ α}
    (hp : Fits C first s.order i p) : Inv C first (s.moves i p) := by
  refine ⟨hs.row, hs.once, fun j => ?_⟩
  by_cases hj : j = i
  · subst hj
    simp only [State.moves, Function.update_self]
    exact hp
  · simp only [State.moves, Function.update_of_ne hj]
    exact hs.fits j

theorem Inv.grows {s : State ι ρ τ κ α} (hs : Inv C first s) {i : ι} {t : τ} {p : Phase ρ τ κ α}
    {order' : List (Applied ι τ)} {row' : ρ} (hgrows : Grows C first s.order ⟨i, t⟩ order')
    (hi : i ∉ s.order.map (·.call)) (hrow : row' = replay C first order') (hp : Fits C first order' i p) :
    Inv C first { s.moves i p with row := row', order := order' } := by
  refine ⟨hrow, ?_, fun j => ?_⟩
  · rw [(hgrows.perm.map (·.call)).nodup_iff]
    exact List.nodup_cons.2 ⟨hi, hs.once⟩
  · by_cases hj : j = i
    · subst hj
      simp only [State.moves, Function.update_self]
      exact hp
    · simp only [State.moves, Function.update_of_ne hj]
      exact hgrows.fits hj (hs.fits j)

theorem Inv.step {s s' : State ι ρ τ κ α} (hs : Inv C first s) (h : Change C first s s') : Inv C first s' := by
  cases h with
  | read i hi =>
    have hfits := hs.fits i
    refine hs.moves ⟨?_, hs.passes_row (List.nil_subset _)⟩
    rcases hi with hi | hi <;> rw [hi] at hfits <;> exact hfits
  | hold i t k r r' hi h =>
    have hfits := hs.fits i
    rw [hi] at hfits
    exact hs.moves ⟨hfits.1, hfits.2, h⟩
  | keep i t r a hi h =>
    have hfits := hs.fits i
    rw [hi] at hfits
    obtain ⟨hgrows, hown, hreplay⟩ := grows_place (t := t) hfits.2 h
    exact hs.grows hgrows hfits.1 (hs.row.trans hreplay.symm) ⟨t, r, hown, .inl h⟩
  | commit i t k r r' hi hv =>
    have hfits := hs.fits i
    rw [hi] at hfits
    obtain ⟨hnot, hpass, hwrite⟩ := hfits
    have hr : s.row = r := hs.current hpass hv
    refine hs.grows grows_append hnot ?_ ⟨t, r, r', ⟨s.order, [], rfl, hs.row.symm.trans hr⟩, hwrite⟩
    rw [replay_append, ← hs.row, hr, replay_cons, replay_nil, next, hwrite]
  | stale i t k r r' hi =>
    have hfits := hs.fits i
    rw [hi] at hfits
    exact hs.moves hfits.1
  | answer i k a hi h =>
    have hfits := hs.fits i
    rw [hi] at hfits
    obtain ⟨t, r, r', hown, hwrite⟩ := hfits
    have hsub : [(⟨i, t⟩ : Applied ι τ)] ⊆ s.order := List.cons_subset.2 ⟨hown.mem, List.nil_subset _⟩
    exact hs.moves ⟨t, r, hown, .inr ⟨r', k, s.row, hwrite, hs.passes_row hsub, h⟩⟩
  | raise i hi => exact hs.moves trivial

theorem inv_run {s s' : State ι ρ τ κ α} {acts : List (Act ι τ κ)} (hs : Inv C first s)
    (h : run (Optimistic.step C first) s acts = some s') : Inv C first s' :=
  run_keeps (fun _ _ _ hs h => hs.step (step_change h)) hs h

/-- **Every run is serial**: the row is the first one after the calls of the order, none of which comes twice, and every
call that returned is one of them and answered from there. -/
theorem run_serial {s : State ι ρ τ κ α} {acts : List (Act ι τ κ)}
    (h : run (Optimistic.step C first) (start first) acts = some s) :
    s.row = replay C first s.order ∧ (s.order.map (·.call)).Nodup ∧
      ∀ i a, s.phase i = .returned a → Answered C first s.order i a := by
  obtain ⟨hrow, honce, hfits⟩ := inv_run inv_start h
  refine ⟨hrow, honce, fun i a hi => ?_⟩
  have hfit := hfits i
  rw [hi] at hfit
  exact hfit

def Late (C : Calls ι ρ τ κ α) (v : Nat) : Phase ρ τ κ α → Prop
  | .holding r | .writing r _ _ _ => v ≤ C.version r
  | _ => True

/-- Call `e`, which was over when the version was `v`, and call `j`, which began later. -/
structure Follows (C : Calls ι ρ τ κ α) (first : ρ) (e : Applied ι τ) (v : Nat) (j : ι) (s : State ι ρ τ κ α) :
    Prop where
  inv : Inv C first s
  past : ∃ r, Passes C first s.order [e] r ∧ C.version r ≤ v
  since : v ≤ C.version s.row
  late : Late C v (s.phase j)
  inTurn : j ∈ s.order.map (·.call) → [e.call, j].Sublist (s.order.map (·.call))

theorem late_moves {s : State ι ρ τ κ α} {v : Nat} {i j : ι} {p : Phase ρ τ κ α} (hj : Late C v (s.phase j))
    (hi : i = j → Late C v p) : Late C v ((s.moves i p).phase j) := by
  by_cases hij : j = i
  · subst hij
    simp only [State.moves, Function.update_self]
    exact hi rfl
  · simp only [State.moves, Function.update_of_ne hij]
    exact hj

theorem Follows.moves {s : State ι ρ τ κ α} {e : Applied ι τ} {v : Nat} {i j : ι} {p : Phase ρ τ κ α}
    (hs : Follows C first e v j s) (hinv : Inv C first (s.moves i p)) (hi : i = j → Late C v p) :
    Follows C first e v j (s.moves i p) :=
  ⟨hinv, hs.past, hs.since, late_moves hs.late hi, hs.inTurn⟩

theorem Follows.grows {s : State ι ρ τ κ α} {e x : Applied ι τ} {v : Nat} {j : ι} {p : Phase ρ τ κ α}
    {order' : List (Applied ι τ)} {row' : ρ} (hs : Follows C first e v j s)
    (hinv : Inv C first { s.moves x.call p with row := row', order := order' })
    (hgrows : Grows C first s.order x order') (hrow : v ≤ C.version row') (hp : Late C v p)
    (hturn : x.call = j → [e, x].Sublist order') :
    Follows C first e v j { s.moves x.call p with row := row', order := order' } := by
  obtain ⟨r, hpass, hr⟩ := hs.past
  refine ⟨hinv, ⟨r, hgrows.passes hpass, hr⟩, hrow, late_moves hs.late fun _ => hp, fun hj => ?_⟩
  by_cases hx : x.call = j
  · have := (hturn hx).map (·.call)
    rw [← hx]
    exact this
  · have hmem : j ∈ s.order.map (·.call) := by
      by_contra hn
      exact hgrows.not_mem (Ne.symm hx) hn hj
    exact (hs.inTurn hmem).trans (hgrows.sublist.map _)

theorem Follows.step {s s' : State ι ρ τ κ α} {e : Applied ι τ} {v : Nat} {j : ι} (hs : Follows C first e v j s)
    (h : Change C first s s') : Follows C first e v j s' := by
  have hinv := hs.inv.step h
  cases h with
  | read i hi => exact hs.moves hinv fun _ => hs.since
  | hold i t k r r' hi h =>
    refine hs.moves hinv fun hij => ?_
    have := hs.late
    rw [← hij, hi] at this
    exact this
  | keep i t r a hi h =>
    have hfits := hs.inv.fits i
    rw [hi] at hfits
    obtain ⟨hgrows, -, -⟩ := grows_place (t := t) hfits.2 h
    refine hs.grows (x := ⟨i, t⟩) hinv hgrows hs.since trivial fun hij => ?_
    -- `e` is past at version `v`, and `j` goes after every place of a version up to the one it read
    obtain ⟨pre, post, -, hplace, -, hmax⟩ := place_at (e := ⟨i, t⟩) hfits.2
    obtain ⟨r₁, ⟨pre₁, post₁, horder₁, hsub, rfl⟩, hv⟩ := hs.past
    have hlate := hs.late
    rw [← hij, hi] at hlate
    have he : e ∈ pre := (hmax pre₁ post₁ horder₁ (Nat.le_trans hv hlate)).subset (hsub List.mem_cons_self)
    rw [hplace]
    exact (List.singleton_sublist.2 he).append (List.singleton_sublist.2 List.mem_cons_self)
  | commit i t k r r' hi hv =>
    have hfits := hs.inv.fits i
    rw [hi] at hfits
    have hversion := C.version_write hfits.2.2
    have hsince := hs.since
    refine hs.grows (x := ⟨i, t⟩) hinv grows_append (by omega) trivial fun _ => ?_
    obtain ⟨r₁, ⟨pre₁, post₁, horder₁, hsub, -⟩, -⟩ := hs.past
    have he : e ∈ s.order := by
      rw [horder₁]
      exact List.mem_append_left _ (hsub List.mem_cons_self)
    exact (List.singleton_sublist.2 he).append (List.Sublist.refl _)
  | stale i t k r r' hi => exact hs.moves hinv fun _ => trivial
  | answer i k a hi h => exact hs.moves hinv fun _ => trivial
  | raise i hi => exact hs.moves hinv fun _ => trivial

/-- **A call that had returned before another began comes before it in the order.** -/
theorem run_inTurn {s s' : State ι ρ τ κ α} {before acts : List (Act ι τ κ)}
    (hbefore : run (Optimistic.step C first) (start first) before = some s)
    (h : run (Optimistic.step C first) s acts = some s') {i j : ι} {a : α} (hi : s.phase i = .returned a)
    (hj : s.phase j = .idle) (hmem : j ∈ s'.order.map (·.call)) : [i, j].Sublist (s'.order.map (·.call)) := by
  have hinv := inv_run inv_start hbefore
  have hfitsi := hinv.fits i
  rw [hi] at hfitsi
  have hfitsj := hinv.fits j
  rw [hj] at hfitsj
  obtain ⟨t, r, hown, -⟩ := hfitsi
  have hstart : Follows C first ⟨i, t⟩ (C.version s.row) j s := by
    refine ⟨hinv, ⟨s.row, hinv.passes_row ?_, Nat.le_refl _⟩, Nat.le_refl _, ?_, fun h => absurd h hfitsj⟩
    · exact List.cons_subset.2 ⟨hown.mem, List.nil_subset _⟩
    · rw [hj]
      trivial
  exact (run_keeps (fun _ _ _ hs h => hs.step (step_change h)) hstart h).inTurn hmem

end Runs

end Optimistic
