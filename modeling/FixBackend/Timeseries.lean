import FixBackend.Calendar
import FixBackend.CodePoints
import FixBackend.Floats
import FixBackend.Table
/-!
# Timeseries — the points of a time series by group

`InventoryService.timeseries_scattered` of `fixbackend/inventory/inventory_service.py` with `Scatter` and `Scatters` of
`inventory_schemas.py`.  The text of a time is read by `parse_utc_str` of `fixcloudutils`, a parameter.
-/
namespace Fix

open Calendar CodePoints Floats

namespace Timeseries

/-- A value that entries are grouped by.  One that is neither a text nor null is known by what a format string writes.
-/
inductive GroupValue where
  | text (t : Text)
  | null
  | other (written : Text)
deriving DecidableEq

abbrev Group := Dict Text GroupValue

/-- An entry of the cursor.  A key that is missing is `none`, as one with `None`. -/
structure Entry where
  atStr : Option String
  v : Option Number
  group : Option Group

structure Scatter where
  groupName : Text
  group : Group
  values : Dict DateTime Float

def average (values : List Float) : Float :=
  if values.isEmpty then 0 else Floats.sum values / Float.ofNat values.length

def Scatter.avg (s : Scatter) : Float := average (s.values.rows.map Prod.snd)

structure Scatters where
  start : DateTime
  finish : DateTime
  granularity : Nat
  ats : List DateTime
  groups : List Scatter

/-- What is raised: an error of `parse_utc_str`, or the `ValidationError` of a `Scatter`. -/
inductive Raised (ε : Type) where
  | parseUtcStr (e : ε)
  | validationError

/-! ## Sorting -/

def byKey (x y : Text × GroupValue) : Prop := x.1 ≤ y.1

instance : DecidableRel byKey := fun x y => inferInstanceAs (Decidable (x.1 ≤ y.1))
instance : Std.Total byKey := ⟨fun x y => le_total x.1 y.1⟩
instance : IsTrans (Text × GroupValue) byKey := ⟨fun _ _ _ => le_trans⟩

/-- `key=lambda x: x.avg, reverse=True`. -/
def biggestFirst (a b : Scatter) : Prop := ¬a.avg < b.avg

instance : DecidableRel biggestFirst := fun a b => inferInstanceAs (Decidable (¬a.avg < b.avg))

def earlier (a b : DateTime) : Prop := a ≤ b

instance : DecidableRel earlier := fun a b => inferInstanceAs (Decidable (a ≤ b))
instance : Std.Total earlier := ⟨fun a b => Nat.le_total a.toMicros b.toMicros⟩
instance : IsTrans DateTime earlier := ⟨fun _ _ _ => Nat.le_trans⟩

/-! ## The series -/

def GroupValue.format : GroupValue → Text
  | text t => t
  | null => ofString "None"
  | other written => written

/-- `f"{k}={v}"`. -/
def keyValue (x : Text × GroupValue) : Text := x.1 ++ ofString "=" ++ x.2.format

def groupName (groups : Group) : Text :=
  if groups.rows = [] then ofString "all"
  else (ofString "::").intercalate ((groups.rows.insertionSort byKey).map keyValue)

/-- The value is valid for `Optional[str]`. -/
def GroupValue.isText : GroupValue → Bool
  | text _ => true
  | null => true
  | other _ => false

def AllTexts (groups : Group) : Prop := ∀ x ∈ groups.rows, x.2.isText = true

instance (groups : Group) : Decidable (AllTexts groups) :=
  inferInstanceAs (Decidable (∀ x ∈ groups.rows, x.2.isText = true))

/-- The validation of the fields of a `Scatter`: the float of its point, if there is no error. -/
def validate (groups : Group) (v : Number) : Option Float := if AllTexts groups then v.toFloat else none

structure Collected where
  scatters : Dict Text Scatter
  ats : List DateTime

def Collected.add (c : Collected) (time : DateTime) (v : Float) (groups : Group) : Collected :=
  let scatter : Scatter := ⟨groupName groups, groups, Dict.put default time v⟩
  { ats := c.ats.insert time
    scatters :=
      match c.scatters.get scatter.groupName with
      | some existing => c.scatters.put scatter.groupName { existing with values := existing.values.put time v }
      | none => c.scatters.put scatter.groupName scatter }

section Reading

variable {ε : Type} (parseUtcStr : String → Except ε DateTime)

def collect (c : Collected) (entry : Entry) : Except (Raised ε) Collected :=
  match entry.atStr, entry.v with
  | some atStr, some v =>
    -- An empty text is falsy, and so is a zero.
    if atStr = "" ∨ v.falsy = true then .ok c
    else
      match parseUtcStr atStr with
      | .error e => .error (.parseUtcStr e)
      | .ok time =>
        let groups := entry.group.getD default
        match validate groups v with
        | none => .error .validationError
        | some point => .ok (c.add time point groups)
  | _, _ => .ok c

/-- `InventoryService.timeseries_scattered`, `entries` being what the cursor yields. -/
def timeseriesScattered (entries : List Entry) (start finish : DateTime) (granularity : Nat) :
    Except (Raised ε) Scatters := do
  let c ← entries.foldlM (collect parseUtcStr) ⟨default, []⟩
  pure
    { start := start
      finish := finish
      granularity := granularity
      ats := c.ats.insertionSort earlier
      groups := (c.scatters.rows.map Prod.snd).insertionSort biggestFirst }

/-- An entry as it is meant: at a time, a number with a value, of a group. -/
structure Sample where
  time : DateTime
  number : Number
  value : ℚ
  exact : number.exact = some value
  group : Group

/-- The entry has a time and a number, which are those of the sample. -/
structure Reads (entry : Entry) (x : Sample) : Prop where
  time : ∃ atStr, entry.atStr = some atStr ∧ atStr ≠ "" ∧ parseUtcStr atStr = .ok x.time
  number : entry.v = some x.number
  group : entry.group.getD default = x.group

end Reading

def OnePerTime (samples : List Sample) : Prop :=
  samples.Pairwise fun x y => Dict.Same x.group y.group → x.time ≠ y.time

def samplesOf (samples : List Sample) (g : Group) : List Sample :=
  samples.filter fun x => decide (Dict.Same x.group g)

def mean (samples : List Sample) (g : Group) : ℚ :=
  ((samplesOf samples g).map (·.value)).sum / (samplesOf samples g).length

/-- **A series is passed on faithfully**: every group once with the points of its samples and no others, and their
average, the groups in the order of these averages, and every time once. -/
structure Faithful (samples : List Sample) (r : Scatters) : Prop where
  every : ∀ x ∈ samples, ∃ s ∈ r.groups, Dict.Same s.group x.group
  only : ∀ s ∈ r.groups, ∃ x ∈ samples, Dict.Same s.group x.group
  apart : r.groups.Pairwise fun s s' => ¬Dict.Same s.group s'.group
  points : ∀ s ∈ r.groups, ∀ t q,
    (s.values.get t).bind exact = some q ↔ ∃ x ∈ samplesOf samples s.group, x.time = t ∧ x.value = q
  dates : ∀ s ∈ r.groups, ∀ t,
    (∃ point, s.values.get t = some point) ↔ ∃ x ∈ samplesOf samples s.group, x.time = t
  average : ∀ s ∈ r.groups, exact s.avg = some (mean samples s.group)
  ordered : r.groups.Pairwise fun s s' => mean samples s'.group ≤ mean samples s.group
  sorted : r.ats.Pairwise (· < ·)
  times : ∀ t, t ∈ r.ats ↔ ∃ x ∈ samples, x.time = t

/-! ## Names -/

/-- The name of a group does not depend on the order of its keys. -/
theorem groupName_congr {g g' : Group} (h : Dict.Same g g') : groupName g = groupName g' := by
  have hperm := Dict.same_iff_perm.1 h
  have hsorted : g.rows.insertionSort byKey = g'.rows.insertionSort byKey := by
    have hanti : ∀ x y, x ∈ g.rows.insertionSort byKey → y ∈ g'.rows.insertionSort byKey → byKey x y → byKey y x →
        x = y := by
      intro x y hx hy hxy hyx
      rw [List.mem_insertionSort] at hx hy
      exact List.inj_on_of_nodup_map g.unique hx (hperm.mem_iff.2 hy) (le_antisymm hxy hyx)
    have hsame := (List.perm_insertionSort byKey _).trans (hperm.trans (List.perm_insertionSort byKey _).symm)
    exact hsame.eq_of_pairwise hanti (List.pairwise_insertionSort byKey _) (List.pairwise_insertionSort byKey _)
  have hempty : g.rows = [] ↔ g'.rows = [] := by
    rw [← List.length_eq_zero_iff, ← List.length_eq_zero_iff, hperm.length_eq]
  simp only [groupName, hsorted, hempty]

/-! ## The loop over samples -/

def Sample.point (x : Sample) : Float := x.number.toFloat.getD 0

/-- The entry of the sample passes the validation of a `Scatter`. -/
def Sample.Valid (x : Sample) : Prop := validate x.group x.number = some x.point

theorem Sample.valid_of_validate {x : Sample} {point : Float} (h : validate x.group x.number = some point) :
    x.Valid := by
  have hpoint : x.point = point := by
    unfold validate at h
    split_ifs at h
    rw [Sample.point, h, Option.getD_some]
  rw [Sample.Valid, h, hpoint]

def Collected.addSample (c : Collected) (x : Sample) : Collected := c.add x.time x.point x.group

def kept (samples : List Sample) : List Sample := samples.filter fun x => decide (x.value ≠ 0)

theorem collect_eq {ε : Type} {parseUtcStr : String → Except ε DateTime} {e : Entry} {x : Sample}
    (h : Reads parseUtcStr e x) (c : Collected) :
    collect parseUtcStr c e =
      if x.value = 0 then .ok c
      else match validate x.group x.number with
        | none => .error .validationError
        | some point => .ok (c.add x.time point x.group) := by
  obtain ⟨⟨atStr, hatStr, hne, htime⟩, hnumber, hgroup⟩ := h
  unfold collect
  simp only [hatStr, hnumber, hne, false_or, htime, hgroup, Number.falsy_iff x.exact]

/-- **The loop ends when every entry that is kept is valid**, and then it has added these. -/
theorem foldlM_collect_iff {ε : Type} {parseUtcStr : String → Except ε DateTime} {entries : List Entry}
    {samples : List Sample} (h : List.Forall₂ (Reads parseUtcStr) entries samples) (c c' : Collected) :
    entries.foldlM (collect parseUtcStr) c = .ok c' ↔
      (∀ x ∈ kept samples, x.Valid) ∧ (kept samples).foldl Collected.addSample c = c' := by
  induction h generalizing c with
  | nil => simp [kept, pure, Except.pure]
  | @cons e x entries samples hx _ ih =>
    rw [List.foldlM_cons, collect_eq hx]
    by_cases hzero : x.value = 0
    · have hkept : kept (x :: samples) = kept samples := by simp [kept, hzero]
      rw [if_pos hzero, hkept, ← ih]
      rfl
    · have hkept : kept (x :: samples) = x :: kept samples := by simp [kept, hzero]
      rw [if_neg hzero, hkept, List.forall_mem_cons, List.foldl_cons]
      cases hvalidate : validate x.group x.number with
      | none =>
        refine iff_of_false (fun h => nomatch h) fun h => ?_
        rw [Sample.Valid, hvalidate] at h
        cases h.1.1
      | some point =>
        have hvalid := Sample.valid_of_validate hvalidate
        have hpoint : point = x.point := Option.some.inj (hvalidate.symm.trans hvalid)
        change entries.foldlM (collect parseUtcStr) (c.add x.time point x.group) = .ok c' ↔ _
        rw [ih, hpoint]
        simp only [hvalid, true_and]
        rfl

def collected (xs : List Sample) : Collected := xs.foldl Collected.addSample ⟨default, []⟩

def named (k : Text) (xs : List Sample) : List Sample := xs.filter fun x => decide (groupName x.group = k)

def points (xs : List Sample) : List (DateTime × Float) := xs.map fun x => (x.time, x.point)

/-- The scatter under a name: the group of the first sample with the name, the points of all of them. -/
def scatterOf (k : Text) (xs : List Sample) : Option Scatter :=
  (named k xs).head?.map fun x => ⟨k, x.group, Dict.ofList (points (named k xs))⟩

theorem get_add (c : Collected) (x : Sample) (k : Text) :
    (c.addSample x).scatters.get k =
      if groupName x.group = k then
        some (match c.scatters.get k with
          | some existing => { existing with values := existing.values.put x.time x.point }
          | none => ⟨k, x.group, Dict.put default x.time x.point⟩)
      else c.scatters.get k := by
  simp only [Collected.addSample, Collected.add]
  split_ifs with hk
  · subst hk
    split <;> rw [Dict.get_put_self]
  · split <;> rw [Dict.get_put_of_ne _ _ (Ne.symm hk)]

theorem get_collected (k : Text) (xs : List Sample) : (collected xs).scatters.get k = scatterOf k xs := by
  induction xs using List.reverseRecOn with
  | nil => rfl
  | append_singleton xs x ih =>
    have hadd : collected (xs ++ [x]) = (collected xs).addSample x := by simp [collected]
    rw [hadd, get_add, ih]
    by_cases hk : groupName x.group = k
    · have hnamed : named k (xs ++ [x]) = named k xs ++ [x] := by simp [named, hk]
      have hpoints : points (named k xs ++ [x]) = points (named k xs) ++ [(x.time, x.point)] := by simp [points]
      simp only [scatterOf, hk, hnamed, hpoints, Dict.ofList_concat, if_true]
      cases h : named k xs with
      | nil => rfl
      | cons y rest => rfl
    · have hnamed : named k (xs ++ [x]) = named k xs := by simp [named, hk]
      simp [scatterOf, hk, hnamed]

theorem mem_ats (xs : List Sample) (t : DateTime) : t ∈ (collected xs).ats ↔ ∃ x ∈ xs, x.time = t := by
  induction xs using List.reverseRecOn with
  | nil => simp [collected]
  | append_singleton xs x ih =>
    have hadd : (collected (xs ++ [x])).ats = (collected xs).ats.insert x.time := by
      simp [collected, Collected.addSample, Collected.add]
    rw [hadd, List.mem_insert_iff, ih]
    simp only [List.mem_append, List.mem_singleton, or_and_right, exists_or, exists_eq_left]
    rw [or_comm, eq_comm]

theorem nodup_ats (xs : List Sample) : (collected xs).ats.Nodup := by
  induction xs using List.reverseRecOn with
  | nil => exact List.nodup_nil
  | append_singleton xs x ih =>
    have hadd : (collected (xs ++ [x])).ats = (collected xs).ats.insert x.time := by
      simp [collected, Collected.addSample, Collected.add]
    rw [hadd]
    exact ih.insert

theorem scatterOf_eq_some {k : Text} {xs : List Sample} {s : Scatter} (h : scatterOf k xs = some s) :
    (∃ x ∈ xs, groupName x.group = k ∧ s.group = x.group) ∧ s.values = Dict.ofList (points (named k xs)) := by
  obtain ⟨x, hx, rfl⟩ := Option.map_eq_some_iff.1 h
  have hmem : x ∈ named k xs := List.mem_of_mem_head? hx
  rw [named, List.mem_filter, decide_eq_true_eq] at hmem
  exact ⟨⟨x, hmem.1, hmem.2, rfl⟩, rfl⟩

theorem scatterOf_isSome {x : Sample} {xs : List Sample} (hx : x ∈ xs) :
    ∃ s, scatterOf (groupName x.group) xs = some s := by
  have hmem : x ∈ named (groupName x.group) xs := by simp [named, hx]
  cases h : named (groupName x.group) xs with
  | nil => simp [h] at hmem
  | cons y rest => exact ⟨_, by rw [scatterOf, h]; rfl⟩

/-! ## What is returned -/

theorem mem_values {d : Dict Text Scatter} {s : Scatter} :
    s ∈ (d.rows.map Prod.snd).insertionSort biggestFirst ↔ ∃ k, d.get k = some s := by
  rw [List.mem_insertionSort, List.mem_map]
  constructor
  · rintro ⟨⟨k, s⟩, hmem, rfl⟩
    exact ⟨k, (Dict.get_eq_some_iff d k s).2 hmem⟩
  · rintro ⟨k, hk⟩
    exact ⟨(k, s), (Dict.get_eq_some_iff d k s).1 hk, rfl⟩

def scattersOf (samples : List Sample) (start finish : DateTime) (granularity : Nat) : Scatters where
  start := start
  finish := finish
  granularity := granularity
  ats := (collected (kept samples)).ats.insertionSort earlier
  groups := ((collected (kept samples)).scatters.rows.map Prod.snd).insertionSort biggestFirst

theorem timeseriesScattered_iff {ε : Type} {parseUtcStr : String → Except ε DateTime} {entries : List Entry}
    {samples : List Sample} (h : List.Forall₂ (Reads parseUtcStr) entries samples) (start finish : DateTime)
    (granularity : Nat) (r : Scatters) : timeseriesScattered parseUtcStr entries start finish granularity = .ok r ↔
      (∀ x ∈ kept samples, x.Valid) ∧ scattersOf samples start finish granularity = r := by
  have hloop := foldlM_collect_iff h ⟨default, []⟩
  unfold timeseriesScattered
  constructor
  · intro hr
    cases hc : entries.foldlM (collect parseUtcStr) ⟨default, []⟩ with
    | error e =>
      rw [hc] at hr
      cases hr
    | ok c =>
      rw [hc] at hr
      obtain ⟨hvalid, rfl⟩ := (hloop c).1 hc
      exact ⟨hvalid, Except.ok.inj hr⟩
  · rintro ⟨hvalid, rfl⟩
    rw [(hloop _).2 ⟨hvalid, rfl⟩]
    rfl

variable {samples : List Sample} {start finish : DateTime} {granularity : Nat}

theorem mem_groups {s : Scatter} : s ∈ (scattersOf samples start finish granularity).groups ↔
    ∃ k, scatterOf k (kept samples) = some s := by
  simp only [scattersOf, mem_values, get_collected]

theorem scatterOf_groupName {s : Scatter} {k : Text} {xs : List Sample} (h : scatterOf k xs = some s) :
    groupName s.group = k := by
  obtain ⟨⟨x, -, hk, hgroup⟩, -⟩ := scatterOf_eq_some h
  rw [hgroup, hk]

theorem groups_apart : (scattersOf samples start finish granularity).groups.Pairwise
    fun s s' => ¬Dict.Same s.group s'.group := by
  have hsymm : ∀ {s s' : Scatter}, ¬Dict.Same s.group s'.group → ¬Dict.Same s'.group s.group :=
    fun h h' => h h'.symm
  have hnames : (collected (kept samples)).scatters.rows.Pairwise fun x y => ¬Dict.Same x.2.group y.2.group := by
    have hkeys := (collected (kept samples)).scatters.unique
    rw [List.Nodup, List.pairwise_map] at hkeys
    apply hkeys.imp_of_mem
    rintro ⟨k, s⟩ ⟨k', s'⟩ hs hs' hne hsame
    have hget := (Dict.get_eq_some_iff _ k s).2 hs
    have hget' := (Dict.get_eq_some_iff _ k' s').2 hs'
    rw [get_collected] at hget hget'
    apply hne
    rw [← scatterOf_groupName hget, ← scatterOf_groupName hget', groupName_congr hsame]
  exact ((List.perm_insertionSort biggestFirst _).pairwise_iff hsymm).2 (List.pairwise_map.2 hnames)

theorem ats_sorted : (scattersOf samples start finish granularity).ats.Pairwise (· < ·) := by
  have hle := List.pairwise_insertionSort earlier (collected (kept samples)).ats
  have hne : ((collected (kept samples)).ats.insertionSort earlier).Nodup :=
    (List.perm_insertionSort earlier _).nodup_iff.2 (nodup_ats _)
  apply (hle.and hne).imp
  intro a b h
  exact Nat.lt_of_le_of_ne h.1 fun heq => h.2 (DateTime.toMicros_injective heq)

/-- The condition.  No value is zero, and each is that of a float; the groups have texts for values, and names that tell
them apart; and the floats of a group have an average that rounding has not changed. -/
structure Representable (samples : List Sample) : Prop where
  nonzero : ∀ x ∈ samples, x.value ≠ 0
  floats : ∀ x ∈ samples, x.number.toFloat.bind exact = some x.value
  texts : ∀ x ∈ samples, AllTexts x.group
  names : ∀ x ∈ samples, ∀ y ∈ samples, groupName x.group = groupName y.group → Dict.Same x.group y.group
  averages : ∀ x ∈ samples,
    exact (average ((samplesOf samples x.group).map Sample.point)) = some (mean samples x.group)

theorem samplesOf_congr {g g' : Group} (h : Dict.Same g g') : samplesOf samples g = samplesOf samples g' := by
  apply List.filter_congr
  intro x _
  rw [decide_eq_decide]
  exact ⟨fun hx => hx.trans h, fun hx => hx.trans h.symm⟩

theorem mean_congr {g g' : Group} (h : Dict.Same g g') : mean samples g = mean samples g' := by
  rw [mean, samplesOf_congr h, mean]

theorem rows_samplesOf (hone : OnePerTime samples) (g : Group) :
    (Dict.ofList (points (samplesOf samples g))).rows = points (samplesOf samples g) := by
  apply Dict.rows_ofList
  rw [points, List.map_map, List.Nodup, List.pairwise_map]
  apply (hone.filter _).imp_of_mem
  intro x y hx hy hxy
  have hsame : ∀ {z : Sample}, z ∈ samplesOf samples g → Dict.Same z.group g := fun hz =>
    of_decide_eq_true (List.mem_filter.1 hz).2
  exact hxy ((hsame hx).trans (hsame hy).symm)

section Named

variable (hone : OnePerTime samples) (hkept : kept samples = samples)
  (hnames : ∀ x ∈ samples, ∀ y ∈ samples, groupName x.group = groupName y.group → Dict.Same x.group y.group)
include hone hkept hnames

theorem rows_of_named {s : Scatter} (hs : s ∈ (scattersOf samples start finish granularity).groups) :
    (∃ x ∈ samples, Dict.Same s.group x.group) ∧ s.values.rows = points (samplesOf samples s.group) := by
  obtain ⟨k, hk⟩ := mem_groups.1 hs
  rw [hkept] at hk
  obtain ⟨⟨x, hx, hname, hgroup⟩, hvalues⟩ := scatterOf_eq_some hk
  have hnamed : named k samples = samplesOf samples s.group := by
    apply List.filter_congr
    intro y hy
    rw [decide_eq_decide, ← hname, hgroup]
    exact ⟨hnames y hy x hx, groupName_congr⟩
  exact ⟨⟨x, hx, hgroup ▸ Dict.Same.refl _⟩, by rw [hvalues, hnamed, rows_samplesOf hone]⟩

theorem avg_of_named {s : Scatter} (hs : s ∈ (scattersOf samples start finish granularity).groups) :
    s.avg = average ((samplesOf samples s.group).map Sample.point) := by
  rw [Scatter.avg, (rows_of_named hone hkept hnames hs).2, points, List.map_map]
  rfl

theorem get_of_named {s : Scatter} (hs : s ∈ (scattersOf samples start finish granularity).groups) (t : DateTime)
    (point : Float) :
    s.values.get t = some point ↔ ∃ x ∈ samplesOf samples s.group, x.time = t ∧ x.point = point := by
  rw [Dict.get_eq_some_iff, (rows_of_named hone hkept hnames hs).2]
  simp [points]

omit hone in
theorem every_of_named {x : Sample} (hx : x ∈ samples) :
    ∃ s ∈ (scattersOf samples start finish granularity).groups, Dict.Same s.group x.group := by
  obtain ⟨s, hs⟩ := scatterOf_isSome (hkept.symm ▸ hx : x ∈ kept samples)
  refine ⟨s, mem_groups.2 ⟨_, hs⟩, ?_⟩
  obtain ⟨⟨y, hy, hname, hgroup⟩, -⟩ := scatterOf_eq_some hs
  rw [hgroup]
  exact hnames y (hkept ▸ hy) x hx hname

end Named

theorem exact_point {x : Sample} (h : x.number.toFloat.bind exact = some x.value) :
    x.number.toFloat = some x.point ∧ exact x.point = some x.value := by
  obtain ⟨point, hpoint, hexact⟩ := Option.bind_eq_some_iff.1 h
  rw [Sample.point, hpoint]
  exact ⟨rfl, hexact⟩

theorem Representable.kept_eq (h : Representable samples) : kept samples = samples := by
  apply List.filter_eq_self.2
  intro x hx
  exact decide_eq_true (h.nonzero x hx)

theorem Representable.valid (h : Representable samples) {x : Sample} (hx : x ∈ samples) : x.Valid := by
  rw [Sample.Valid, validate, if_pos (h.texts x hx)]
  exact (exact_point (h.floats x hx)).1

theorem pairwise_biggestFirst {l : List Scatter} {value : Scatter → ℚ}
    (hexact : ∀ s ∈ l, exact s.avg = some (value s)) :
    (l.insertionSort biggestFirst).Pairwise fun s s' => value s' ≤ value s := by
  have hmap : (l.insertionSort biggestFirst).map value = (l.map value).insertionSort (· ≥ ·) := by
    apply List.map_insertionSort
    intro s hs s' hs'
    rw [biggestFirst, lt_iff (hexact s hs) (hexact s' hs'), not_lt]
  have hsorted := List.pairwise_insertionSort (· ≥ ·) (l.map value)
  rw [← hmap, List.pairwise_map] at hsorted
  exact hsorted

theorem faithful_of_representable (hone : OnePerTime samples) (h : Representable samples) :
    Faithful samples (scattersOf samples start finish granularity) := by
  have hkept := h.kept_eq
  have hexact : ∀ s ∈ (scattersOf samples start finish granularity).groups,
      exact s.avg = some (mean samples s.group) := by
    intro s hs
    obtain ⟨x, hx, hsame⟩ := (rows_of_named hone hkept h.names hs).1
    rw [avg_of_named hone hkept h.names hs, samplesOf_congr hsame, mean_congr hsame]
    exact h.averages x hx
  have hvalue : ∀ {g : Group} {x : Sample}, x ∈ samplesOf samples g → exact x.point = some x.value := fun hx =>
    (exact_point (h.floats _ (List.mem_of_mem_filter hx))).2
  constructor
  case every => exact fun x hx => every_of_named hkept h.names hx
  case only => exact fun s hs => (rows_of_named hone hkept h.names hs).1
  case apart => exact groups_apart
  case points =>
    intro s hs t q
    rw [Option.bind_eq_some_iff]
    simp only [get_of_named hone hkept h.names hs]
    constructor
    · rintro ⟨_, ⟨x, hx, ht, rfl⟩, hq⟩
      exact ⟨x, hx, ht, Option.some.inj ((hvalue hx).symm.trans hq)⟩
    · rintro ⟨x, hx, ht, rfl⟩
      exact ⟨x.point, ⟨x, hx, ht, rfl⟩, hvalue hx⟩
  case dates =>
    intro s hs t
    simp only [get_of_named hone hkept h.names hs]
    exact ⟨fun ⟨_, x, hx, ht, _⟩ => ⟨x, hx, ht⟩, fun ⟨x, hx, ht⟩ => ⟨x.point, x, hx, ht, rfl⟩⟩
  case average => exact hexact
  case ordered => exact pairwise_biggestFirst fun s hs => hexact s ((List.mem_insertionSort biggestFirst).2 hs)
  case sorted => exact ats_sorted
  case times =>
    intro t
    simp only [scattersOf, List.mem_insertionSort, mem_ats, hkept]

namespace Faithful

variable (h : Faithful samples (scattersOf samples start finish granularity))
include h

/-- Two groups of one name would have been merged. -/
theorem names : ∀ x ∈ samples, ∀ y ∈ samples, groupName x.group = groupName y.group → Dict.Same x.group y.group := by
  intro x hx y hy hname
  obtain ⟨s, hs, hsx⟩ := h.every x hx
  obtain ⟨s', hs', hsy⟩ := h.every y hy
  obtain ⟨k, hk⟩ := mem_groups.1 hs
  obtain ⟨k', hk'⟩ := mem_groups.1 hs'
  have hkk : k = k' := by
    rw [← scatterOf_groupName hk, ← scatterOf_groupName hk', groupName_congr hsx, groupName_congr hsy, hname]
  rw [hkk, hk'] at hk
  obtain rfl := Option.some.inj hk
  exact hsx.symm.trans hsy

/-- A point at the time of a zero is that of another sample of the group, and there is none. -/
theorem nonzero (hone : OnePerTime samples) : ∀ x ∈ samples, x.value ≠ 0 := by
  intro x hx
  obtain ⟨s, hs, hsame⟩ := h.every x hx
  have hmem : x ∈ samplesOf samples s.group := List.mem_filter.2 ⟨hx, decide_eq_true hsame.symm⟩
  obtain ⟨point, hpoint⟩ := (h.dates s hs x.time).2 ⟨x, hmem, rfl⟩
  obtain ⟨k, hk⟩ := mem_groups.1 hs
  rw [(scatterOf_eq_some hk).2] at hpoint
  obtain ⟨y, hy, hy'⟩ := List.mem_map.1 (Dict.mem_of_get_ofList _ hpoint)
  obtain ⟨hykept, hyname⟩ := List.mem_filter.1 hy
  obtain ⟨hysamples, hyvalue⟩ := List.mem_filter.1 hykept
  have hname : groupName x.group = groupName y.group := by
    rw [of_decide_eq_true hyname, ← scatterOf_groupName hk, groupName_congr hsame]
  have htime : x.time = y.time := (congrArg Prod.fst hy').symm
  obtain rfl : x = y := by
    by_contra hne
    have hsymm : Std.Symm fun x y : Sample => Dict.Same x.group y.group → x.time ≠ y.time :=
      ⟨fun x y hxy hyx => (hxy hyx.symm).symm⟩
    exact List.Pairwise.forall hone hx hysamples hne (h.names x hx y hysamples hname) htime
  exact of_decide_eq_true hyvalue

end Faithful

theorem Sample.Valid.parts {x : Sample} (h : x.Valid) : AllTexts x.group ∧ x.number.toFloat = some x.point := by
  unfold Sample.Valid validate at h
  split_ifs at h with htexts
  exact ⟨htexts, h⟩

theorem representable_of_faithful (hone : OnePerTime samples) (hvalid : ∀ x ∈ kept samples, x.Valid)
    (h : Faithful samples (scattersOf samples start finish granularity)) : Representable samples := by
  have hnonzero := h.nonzero hone
  have hnames := h.names
  have hkept : kept samples = samples := by
    apply List.filter_eq_self.2
    intro x hx
    exact decide_eq_true (hnonzero x hx)
  rw [hkept] at hvalid
  refine ⟨hnonzero, fun x hx => ?_, fun x hx => (hvalid x hx).parts.1, hnames, fun x hx => ?_⟩
  · obtain ⟨s, hs, hsame⟩ := h.every x hx
    have hmem : x ∈ samplesOf samples s.group := List.mem_filter.2 ⟨hx, decide_eq_true hsame.symm⟩
    have hexact := (h.points s hs x.time x.value).2 ⟨x, hmem, rfl, rfl⟩
    rw [(get_of_named hone hkept hnames hs x.time x.point).2 ⟨x, hmem, rfl, rfl⟩, Option.bind_some] at hexact
    rw [(hvalid x hx).parts.2, Option.bind_some, hexact]
  · obtain ⟨s, hs, hsame⟩ := every_of_named hkept hnames hx
    have haverage := h.average s hs
    rw [avg_of_named hone hkept hnames hs, samplesOf_congr hsame, mean_congr hsame] at haverage
    exact haverage

/-- The call returns, and what it returns is faithful to the samples. -/
def PassedOn {ε : Type} (parseUtcStr : String → Except ε DateTime) (entries : List Entry) (samples : List Sample)
    (start finish : DateTime) (granularity : Nat) : Prop :=
  ∃ r, timeseriesScattered parseUtcStr entries start finish granularity = .ok r ∧ Faithful samples r

theorem representable_of_passedOn {ε : Type} {parseUtcStr : String → Except ε DateTime} {entries : List Entry}
    (hreads : List.Forall₂ (Reads parseUtcStr) entries samples) (hone : OnePerTime samples)
    (h : PassedOn parseUtcStr entries samples start finish granularity) : Representable samples := by
  obtain ⟨r, hr, hfaithful⟩ := h
  obtain ⟨hvalid, rfl⟩ := (timeseriesScattered_iff hreads start finish granularity r).1 hr
  exact representable_of_faithful hone hvalid hfaithful

def newYear : DateTime := (⟨2024, 1, 1, valid_newYear⟩ : Date).atHour 0

def atOne : DateTime := (⟨2024, 1, 1, valid_newYear⟩ : Date).atHour 1

def parseTime (atStr : String) : Except Unit DateTime :=
  if atStr = "2024-01-01T00:00:00Z" then .ok newYear
  else if atStr = "2024-01-01T01:00:00Z" then .ok atOne
  else .error ()

def sample (n : ℤ) (group : Group) : Sample := ⟨newYear, .int n, n, rfl, group⟩

def newYearEntry (n : ℤ) (group : Group) : Entry := ⟨some "2024-01-01T00:00:00Z", some (.int n), some group⟩

theorem reads_newYear (n : ℤ) (group : Group) : Reads parseTime (newYearEntry n group) (sample n group) :=
  ⟨⟨_, rfl, by decide, by simp [parseTime, sample]⟩, rfl, rfl⟩

def account (name : String) : Group := Dict.ofList [(ofString "account", .text (ofString name))]

def half : Sample := ⟨atOne, .float 0.5, 1 / 2, by decide +kernel, account "a"⟩

theorem reads_half :
    Reads parseTime ⟨some "2024-01-01T01:00:00Z", some (.float 0.5), some (account "a")⟩ half :=
  ⟨⟨_, rfl, by decide, by simp [parseTime, half]⟩, rfl, rfl⟩

def twoAccounts : List Sample := [sample 1 (account "a"), sample 2 default, half]

theorem twoAccounts_representable : Representable twoAccounts := by
  constructor <;> decide +kernel

def twoKeys : Group :=
  Dict.ofList [(ofString "account", .text (ofString "a")), (ofString "region", .text (ofString "eu"))]

/-- One key, whose value reads as the two of `twoKeys`. -/
def joinedKeys : Group := account "a::region=eu"

def numbered : Group := Dict.ofList [(ofString "level", .other (ofString "1"))]

/-- The largest power of ten that is a float, at two times. -/
def huge : List Sample :=
  [⟨newYear, .float 1e308, ((exact 1e308).getD 0), by decide +kernel, default⟩,
    ⟨atOne, .float 1e308, ((exact 1e308).getD 0), by decide +kernel, default⟩]

def hugeEntries : List Entry :=
  [⟨some "2024-01-01T00:00:00Z", some (.float 1e308), none⟩, ⟨some "2024-01-01T01:00:00Z", some (.float 1e308), none⟩]

theorem reads_huge : List.Forall₂ (Reads parseTime) hugeEntries huge :=
  .cons ⟨⟨_, rfl, by decide, by simp [parseTime]⟩, rfl, rfl⟩
    (.cons ⟨⟨_, rfl, by decide, by simp [parseTime]⟩, rfl, rfl⟩ .nil)

end Timeseries

end Fix
