import FixBackend.Workspaces
/-!
# TierCycle — which tier is active after a history of tier changes

`WorkspaceRepository.update_product_tier` called again and again, and `Workspace.current_product_tier` read later.  The
tier a workspace ought to have is the highest of the last selected one and of those selected in the month of the
question.  Neither the highest tier nor the end of the cycle is reset when a cycle ends, so a month is remembered only
when one of its calls opened the cycle anew: the first call of all, or one above every tier before it.
-/
namespace Fix

open Calendar

/-- A call of `update_product_tier` on the workspace, and its time. -/
structure TierSelection where
  time : DateTime
  newTier : ProductTier
deriving DecidableEq

def selectTiers (orgs : Organizations) (workspaceId : WorkspaceId) (calls : List TierSelection) :
    Except Err Organizations :=
  calls.foldlM (fun orgs c => (·.2) <$> updateProductTier orgs workspaceId c.newTier c.time) orgs

def lastSelected (initial : ProductTier) (calls : List TierSelection) : ProductTier :=
  (calls.getLast?.map (·.newTier)).getD initial

def selectedInMonth (calls : List TierSelection) (t : DateTime) : List ProductTier :=
  (calls.filter (fun c => decide (c.time.sameMonth t))).map (·.newTier)

/-- The tier the workspace ought to have at `t`. -/
def expectedTier (initial : ProductTier) (calls : List TierSelection) (t : DateTime) : ProductTier :=
  (selectedInMonth calls t).foldl max (lastSelected initial calls)

/-- A call that opens the cycle anew: the first of all, or one above the free tier and every tier before it. -/
def opensCycle (before : List TierSelection) (c : TierSelection) : Prop :=
  before = [] ∨ (.free < c.newTier ∧ ∀ b ∈ before, b.newTier < c.newTier)

/-- A call of the month of `t` opened the cycle, and its last instant is still to come. -/
def cycleOpened (calls : List TierSelection) (t : DateTime) : Prop :=
  t < t.endOfMonth ∧ ∃ pre c post, calls = pre ++ c :: post ∧ c.time.sameMonth t ∧ opensCycle pre c

/-- The histories after which no tier of the month is given up. -/
def keepsTiers (initial : ProductTier) (calls : List TierSelection) (t : DateTime) : Prop :=
  (cycleOpened calls t → ∃ tier ∈ selectedInMonth calls t, tier ≠ .trial) ∧
  (¬ cycleOpened calls t → ∀ tier ∈ selectedInMonth calls t, tier ≤ lastSelected initial calls)

/-! ## The running maximum -/

theorem foldl_max_le_iff (b : ProductTier) : ∀ (l : List ProductTier) (a : ProductTier),
    l.foldl max a ≤ b ↔ a ≤ b ∧ ∀ x ∈ l, x ≤ b
  | [], a => by simp
  | x :: l, a => by
    rw [List.foldl_cons, foldl_max_le_iff b l, max_le_iff]
    simp [and_assoc]

theorem foldl_max_lt_iff (b : ProductTier) : ∀ (l : List ProductTier) (a : ProductTier),
    l.foldl max a < b ↔ a < b ∧ ∀ x ∈ l, x < b
  | [], a => by simp
  | x :: l, a => by
    rw [List.foldl_cons, foldl_max_lt_iff b l, max_lt_iff]
    simp [and_assoc]

theorem le_foldl_max (l : List ProductTier) (a : ProductTier) : a ≤ l.foldl max a ∧ ∀ x ∈ l, x ≤ l.foldl max a :=
  (foldl_max_le_iff _ l a).1 (le_refl _)

/-! ## What the calls leave in the row -/

/-- The row after the calls: the last tier, the highest of all, and whether a cycle is running. -/
structure Selected (initial : ProductTier) (calls : List TierSelection) (o : Organization) : Prop where
  subscribed : o.subscriptionId.isSome
  tier : o.tier = lastSelected initial calls
  highest : o.highestCurrentCycleTier =
    if calls = [] then none else some ((calls.map (·.newTier)).foldl max .free)
  running : ∀ t, calls ≠ [] → calls.Pairwise (fun a b => a.time ≤ b.time) → (∀ c ∈ calls, c.time ≤ t) →
    ((∃ cycleEnd, o.currentCycleEndsAt = some cycleEnd ∧ t < cycleEnd) ↔ cycleOpened calls t)

theorem Selected.opensCycle_iff {initial : ProductTier} {calls : List TierSelection} {o : Organization}
    (h : Selected initial calls o) (c : TierSelection) :
    (o.highestCurrentCycleTier = none ∨ o.highestCurrentCycleTier.getD .free < c.newTier) ↔ opensCycle calls c := by
  rw [h.highest]
  unfold opensCycle
  by_cases hc : calls = []
  · simp [hc]
  · simp [hc, foldl_max_lt_iff]

theorem cycleOpened_snoc (calls : List TierSelection) (c : TierSelection) (t : DateTime) :
    cycleOpened (calls ++ [c]) t ↔
      cycleOpened calls t ∨ (t < t.endOfMonth ∧ c.time.sameMonth t ∧ opensCycle calls c) := by
  unfold cycleOpened
  constructor
  · rintro ⟨ht, pre, d, post, heq, hmonth, hopen⟩
    cases post using List.reverseRecOn with
    | nil =>
      obtain ⟨rfl, hcd⟩ := List.append_inj' heq rfl
      rw [List.singleton_inj] at hcd
      subst hcd
      exact Or.inr ⟨ht, hmonth, hopen⟩
    | append_singleton post e =>
      rw [← List.cons_append, ← List.append_assoc] at heq
      obtain ⟨heq, -⟩ := List.append_inj' heq rfl
      exact Or.inl ⟨ht, pre, d, post, heq, hmonth, hopen⟩
  · rintro (⟨ht, pre, d, post, rfl, hmonth, hopen⟩ | ⟨ht, hmonth, hopen⟩)
    · exact ⟨ht, pre, d, post ++ [c], by simp, hmonth, hopen⟩
    · exact ⟨ht, calls, c, [], rfl, hmonth, hopen⟩

theorem lt_endOfMonth_iff {c t : DateTime} (hct : c ≤ t) :
    t < c.endOfMonth ↔ t < t.endOfMonth ∧ c.sameMonth t := by
  constructor
  · intro h
    have hm := DateTime.sameMonth_of_lt_endOfMonth hct h
    exact ⟨DateTime.endOfMonth_congr hm ▸ h, hm⟩
  · rintro ⟨h, hm⟩
    rw [DateTime.endOfMonth_congr hm]
    exact h

/-- **One more call keeps the description of the row.** -/
theorem Selected.snoc {initial : ProductTier} {calls : List TierSelection} {o o' : Organization}
    (h : Selected initial calls o) (c : TierSelection) (hsub : o'.subscriptionId = o.subscriptionId)
    (htier : o'.tier = c.newTier)
    (hhigh : o'.highestCurrentCycleTier = some (max (o.highestCurrentCycleTier.getD .free) c.newTier))
    (hend : o'.currentCycleEndsAt =
      if o.highestCurrentCycleTier = none ∨ o.highestCurrentCycleTier.getD .free < c.newTier
        then some c.time.endOfMonth else o.currentCycleEndsAt) :
    Selected initial (calls ++ [c]) o' where
  subscribed := by rw [hsub]; exact h.subscribed
  tier := by simp [htier, lastSelected]
  highest := by
    rw [hhigh, h.highest]
    by_cases hc : calls = []
    · simp [hc]
    · simp [hc]
  running := by
    intro t _ hsorted hle
    have hct : c.time ≤ t := hle c (by simp)
    have hbefore : ∀ d ∈ calls, d.time ≤ c.time := fun d hd => (List.pairwise_append.1 hsorted).2.2 d hd c (by simp)
    rw [hend, cycleOpened_snoc]
    by_cases hopen : opensCycle calls c
    · rw [if_pos ((h.opensCycle_iff c).2 hopen)]
      have hiff : (∃ cycleEnd, some c.time.endOfMonth = some cycleEnd ∧ t < cycleEnd) ↔ t < c.time.endOfMonth := by
        simp
      rw [hiff, lt_endOfMonth_iff hct]
      constructor
      · rintro ⟨ht, hm⟩
        exact Or.inr ⟨ht, hm, hopen⟩
      · rintro (⟨ht, pre, d, post, rfl, hm, -⟩ | ⟨ht, hm, -⟩)
        · have hdc : d.time ≤ c.time := hbefore d (by simp)
          exact ⟨ht, (DateTime.sameMonth_of_between hdc hct hm).symm.trans hm⟩
        · exact ⟨ht, hm⟩
    · rw [if_neg (fun hc => hopen ((h.opensCycle_iff c).1 hc))]
      have hne : calls ≠ [] := fun hc => hopen (Or.inl hc)
      rw [h.running t hne (List.pairwise_append.1 hsorted).1 (fun d hd => hle d (by simp [hd]))]
      constructor
      · exact Or.inl
      · rintro (hc | ⟨-, -, hc⟩)
        · exact hc
        · exact absurd hc hopen

/-- **The calls succeed and leave the row described**, `o` being the workspace before the first of them. -/
theorem selectTiers_selected {orgs : Organizations} {workspaceId : WorkspaceId} {o : Organization}
    (hfind : orgs.find workspaceId = some o) (hsub : o.subscriptionId.isSome)
    (hnew : o.highestCurrentCycleTier = none) (calls : List TierSelection) :
    ∃ orgs' o', selectTiers orgs workspaceId calls = .ok orgs' ∧ orgs'.find workspaceId = some o' ∧
      Selected o.tier calls o' := by
  induction calls using List.reverseRecOn with
  | nil =>
    refine ⟨orgs, o, rfl, hfind, hsub, rfl, hnew, ?_⟩
    intro t hne
    exact absurd rfl hne
  | append_singleton calls c ih =>
    obtain ⟨orgs', o', hrun, hfind', hsel⟩ := ih
    obtain ⟨o'', hok, hid, htier, hsub', hhigh, hend⟩ := Organization.selectTier_ok hsel.subscribed c.newTier c.time
    obtain ⟨orgs'', hupdate, hfind'', -⟩ := updateProductTier_ok hfind' hok hid
    refine ⟨orgs'', o'', ?_, hfind'', hsel.snoc c hsub' htier hhigh hend⟩
    unfold selectTiers at hrun ⊢
    rw [List.foldlM_append, hrun]
    simp only [List.foldlM_cons, List.foldlM_nil, bind, Except.bind, hupdate, Functor.map, Except.map]
    rfl

/-! ## The active tier -/

theorem currentProductTier_of_running {w : Workspace} {t : DateTime} {highest : ProductTier}
    (hrun : ∃ cycleEnd, w.currentCycleEndsAt = some cycleEnd ∧ t < cycleEnd)
    (hhigh : w.highestCurrentCycleTier = some highest) :
    w.currentProductTier t = max highest w.selectedProductTier := by
  obtain ⟨cycleEnd, hend, ht⟩ := hrun
  unfold Workspace.currentProductTier
  simp only [hend, hhigh, if_pos ht]

theorem currentProductTier_of_not_running {w : Workspace} {t : DateTime}
    (hrun : (¬ ∃ cycleEnd, w.currentCycleEndsAt = some cycleEnd ∧ t < cycleEnd) ∨ w.highestCurrentCycleTier = none) :
    w.currentProductTier t = w.selectedProductTier := by
  unfold Workspace.currentProductTier
  split
  · rename_i cycleEnd hend
    split
    · rename_i ht
      rcases hrun with hrun | hrun
      · exact absurd ⟨cycleEnd, hend, ht⟩ hrun
      · rw [hrun]
    · rfl
  · rfl

theorem mem_selectedInMonth {calls : List TierSelection} {t : DateTime} {tier : ProductTier} :
    tier ∈ selectedInMonth calls t ↔ ∃ c ∈ calls, c.time.sameMonth t ∧ c.newTier = tier := by
  unfold selectedInMonth
  simp [and_assoc]

/-- With a cycle of the month running, the highest tier of all is the highest of the month, or the free tier. -/
theorem highest_of_cycleOpened {calls : List TierSelection} {t : DateTime} (hopen : cycleOpened calls t)
    (hsorted : calls.Pairwise (fun a b => a.time ≤ b.time)) (hle : ∀ c ∈ calls, c.time ≤ t) :
    (calls.map (·.newTier)).foldl max .free = (selectedInMonth calls t).foldl max .free := by
  obtain ⟨-, pre, c, post, rfl, hm, hc⟩ := hopen
  have hmem : c.newTier ∈ selectedInMonth (pre ++ c :: post) t := mem_selectedInMonth.2 ⟨c, by simp, hm, rfl⟩
  apply le_antisymm
  · rw [foldl_max_le_iff]
    refine ⟨(le_foldl_max _ _).1, fun tier htier => ?_⟩
    obtain ⟨d, hd, rfl⟩ := List.mem_map.1 htier
    rcases List.mem_append.1 hd with hpre | hpost
    · rcases hc with rfl | ⟨-, hlt⟩
      · cases hpre
      · exact le_trans (le_of_lt (hlt d hpre)) ((le_foldl_max _ _).2 _ hmem)
    · have hcd : c.time ≤ d.time := by
        rcases List.mem_cons.1 hpost with rfl | hpost
        · exact Nat.le_refl _
        · exact (List.pairwise_cons.1 (List.pairwise_append.1 hsorted).2.1).1 d hpost
      have hdm : d.time.sameMonth t := (DateTime.sameMonth_of_between hcd (hle d hd) hm).symm.trans hm
      exact (le_foldl_max _ _).2 _ (mem_selectedInMonth.2 ⟨d, hd, hdm, rfl⟩)
  · rw [foldl_max_le_iff]
    refine ⟨(le_foldl_max _ _).1, fun tier htier => ?_⟩
    obtain ⟨d, hd, -, rfl⟩ := mem_selectedInMonth.1 htier
    exact (le_foldl_max _ _).2 _ (List.mem_map.2 ⟨d, hd, rfl⟩)

/-- With a cycle of the month running, the last call is of the month. -/
theorem lastSelected_of_cycleOpened {initial : ProductTier} {calls : List TierSelection} {t : DateTime}
    (hopen : cycleOpened calls t) (hsorted : calls.Pairwise (fun a b => a.time ≤ b.time))
    (hle : ∀ c ∈ calls, c.time ≤ t) : lastSelected initial calls ∈ selectedInMonth calls t := by
  obtain ⟨-, pre, c, post, rfl, hm, -⟩ := hopen
  rw [mem_selectedInMonth]
  cases post using List.reverseRecOn with
  | nil => exact ⟨c, by simp, hm, by simp [lastSelected]⟩
  | append_singleton post d =>
    have hcd : c.time ≤ d.time := by
      have := (List.pairwise_cons.1 (List.pairwise_append.1 hsorted).2.1).1 d
      exact this (by simp)
    have hd : d ∈ pre ++ c :: (post ++ [d]) := by simp
    refine ⟨d, hd, (DateTime.sameMonth_of_between hcd (hle d hd) hm).symm.trans hm, ?_⟩
    rw [← List.cons_append, ← List.append_assoc, lastSelected, List.getLast?_concat]
    rfl

theorem foldl_max_of_mem {l : List ProductTier} {a : ProductTier} (b : ProductTier) (h : a ∈ l) :
    max (l.foldl max b) a = l.foldl max b := max_eq_left ((le_foldl_max l b).2 a h)

theorem foldl_max_free_iff {l : List ProductTier} {a : ProductTier} (ha : a ∈ l) :
    l.foldl max .free = l.foldl max a ↔ ∃ tier ∈ l, tier ≠ .trial := by
  constructor
  · intro h
    by_contra hno
    have hno : ∀ tier ∈ l, tier = .trial := by simpa using hno
    have hle : l.foldl max a ≤ .trial := (foldl_max_le_iff _ l a).2
        ⟨le_of_eq (hno a ha), fun x hx => le_of_eq (hno x hx)⟩
    have := le_trans (le_foldl_max l .free).1 (h ▸ hle)
    exact absurd this (by decide)
  · rintro ⟨tier, hmem, htier⟩
    apply le_antisymm
    · rw [foldl_max_le_iff]
      exact ⟨le_trans ((ProductTier.ne_trial_iff tier).1 htier) ((le_foldl_max l a).2 tier hmem), (le_foldl_max l a).2⟩
    · rw [foldl_max_le_iff]
      exact ⟨(le_foldl_max l .free).2 a ha, (le_foldl_max l .free).2⟩

/-- **The active tier is the expected one exactly for the histories that keep the tiers of the month.** -/
theorem currentProductTier_iff {orgs : Organizations} {workspaceId : WorkspaceId} {o : Organization}
    (hfind : orgs.find workspaceId = some o) (hsub : o.subscriptionId.isSome)
    (hnew : o.highestCurrentCycleTier = none) (calls : List TierSelection)
    (hsorted : calls.Pairwise (fun a b => a.time ≤ b.time)) (t : DateTime) (hle : ∀ c ∈ calls, c.time ≤ t) :
    ∃ orgs' w, selectTiers orgs workspaceId calls = .ok orgs' ∧ getWorkspace orgs' workspaceId = some w ∧
      (w.currentProductTier t = expectedTier o.tier calls t ↔ keepsTiers o.tier calls t) := by
  obtain ⟨orgs', o', hrun, hfind', hsel⟩ := selectTiers_selected hfind hsub hnew calls
  refine ⟨orgs', o'.toModel none, hrun, by simp only [getWorkspace, hfind', Option.map_some], ?_⟩
  have htier : (o'.toModel none).selectedProductTier = lastSelected o.tier calls := hsel.tier
  unfold keepsTiers expectedTier
  by_cases hc : calls = []
  · subst hc
    have hno : ¬ cycleOpened [] t := by
      rintro ⟨-, pre, c, post, h, -⟩
      cases pre <;> cases h
    rw [currentProductTier_of_not_running (Or.inr hsel.highest), htier]
    simp [hno, selectedInMonth]
  · have hrunning := hsel.running t hc hsorted hle
    have hhigh := hsel.highest
    rw [if_neg hc] at hhigh
    by_cases hopen : cycleOpened calls t
    · have hlast : lastSelected o.tier calls ∈ selectedInMonth calls t := lastSelected_of_cycleOpened hopen hsorted hle
      rw [currentProductTier_of_running (hrunning.2 hopen) hhigh, htier, highest_of_cycleOpened hopen hsorted hle,
        foldl_max_of_mem _ hlast, foldl_max_free_iff hlast]
      simp only [hopen, not_true, false_implies, and_true, true_implies]
    · rw [currentProductTier_of_not_running (Or.inl (fun h => hopen (hrunning.1 h))), htier]
      simp only [hopen, not_false_eq_true, false_implies, true_and, true_implies]
      constructor
      · intro h tier hmem
        rw [h]
        exact (le_foldl_max _ _).2 tier hmem
      · intro h
        exact le_antisymm (le_foldl_max _ _).1 ((foldl_max_le_iff _ _ _).2 ⟨le_refl _, h⟩)

/-- The workspace with id 1 on the trial, subscribed since the start of 2024. -/
def trialOrganization : Organization where
  id := 1
  slug := "acme"
  name := "acme"
  externalId := 2
  ownerId := 3
  members := [3]
  tier := .trial
  subscriptionId := some 4
  paymentOnHoldSince := none
  createdAt := ⟨⟨2024, 1, 1, valid_newYear⟩, 0, midnight_inDay⟩
  updatedAt := ⟨⟨2024, 1, 1, valid_newYear⟩, 0, midnight_inDay⟩
  highestCurrentCycleTier := none
  currentCycleEndsAt := none
  tierUpdatedAt := none

def trialOrganizations : Organizations := ⟨[trialOrganization], by decide⟩

/-- Enterprise in January, then Business and Free in March. -/
def marchSelections : List TierSelection :=
  [⟨⟨⟨2024, 1, 10, valid_january10⟩, 0, midnight_inDay⟩, .enterprise⟩,
    ⟨⟨⟨2024, 3, 5, by decide⟩, 0, midnight_inDay⟩, .business⟩, ⟨⟨⟨2024, 3, 6, by decide⟩, 0, midnight_inDay⟩, .free⟩]

def midMarch : DateTime := ⟨⟨2024, 3, 15, by decide⟩, 0, midnight_inDay⟩

theorem currentProductTier_iff_midMarch :
    ∃ orgs' w, selectTiers trialOrganizations 1 marchSelections = .ok orgs' ∧ getWorkspace orgs' 1 = some w ∧
      (w.currentProductTier midMarch = expectedTier .trial marchSelections midMarch ↔
        keepsTiers .trial marchSelections midMarch) :=
  currentProductTier_iff (o := trialOrganization) rfl rfl rfl marchSelections (by decide) midMarch (by decide)

/-- The Business tier selected in March is given up in March, the highest tier of all being one of January. -/
theorem business_given_up_in_march :
    ∃ orgs' w, selectTiers trialOrganizations 1 marchSelections = .ok orgs' ∧ getWorkspace orgs' 1 = some w ∧
      w.currentProductTier midMarch = .free ∧ expectedTier .trial marchSelections midMarch = .business :=
  ⟨_, _, rfl, rfl, by decide, by decide⟩

end Fix
