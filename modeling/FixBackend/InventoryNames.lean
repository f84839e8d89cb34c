import FixBackend.CloudAccounts
import FixBackend.Machine
/-!
# InventoryNames — the names of accounts in the inventory

`_process_account_name_changed` of `fixbackend/inventory/inventory_service.py`, from the change of a name to the node
of the account.  A collect writes the name that its job was given, so one that is under way writes an old name, and
the name is written again an hour later.  Only the jobs of AWS accounts carry a name (`trigger_collect` of
`dispatcher/dispatcher_service.py`).  Times are microseconds.
-/
namespace Fix

open Machine

namespace InventoryNames

structure AccountKey where
  tenantId : WorkspaceId
  cloud : CloudName
  accountId : CloudAccountId
deriving DecidableEq

/-- The attributes of `CloudAccountNameChanged` that the service reads. -/
structure NameChanged where
  account : AccountKey
  finalName : Option String
deriving DecidableEq

structure Collect where
  account : AccountKey
  name : Option String
  started : Nat
deriving DecidableEq

/-- The name that a collect writes: the one in its job, or else the one that it has found. -/
def Collect.writes (c : Collect) (found : Option String) : Option String := (truthy c.name).or found

/-- How the calls of the inventory end, for a search and an update: an error may come before the node is written or
after. -/
inductive Attempt where
  | succeeds
  | raises (written : Bool)
deriving DecidableEq

/-- The final names of the accounts, the events to be processed, the jobs to update a name again, each with the time
it is due, the collects under way, and the nodes of the inventory with their names. -/
structure State where
  finalNames : AccountKey → Option String
  events : List NameChanged
  again : List (NameChanged × Nat)
  collecting : List Collect
  nodes : AccountKey → Option (Option String)
  clock : Nat

def updateNameAgainAfter : Nat := 3600000000

section Service

variable (databases : WorkspaceId → Bool)

/-- `_update_cloud_account_name`: whether a node was updated, or none if it raises. -/
def updateCloudAccountName (attempt : Attempt) (event : NameChanged) (s : State) : Option Bool × State :=
  match truthy event.finalName with
  | none => (some false, s)
  | some name =>
    if databases event.account.tenantId then
      match s.nodes event.account, attempt with
      | some _, .succeeds => (some true, { s with nodes := Function.update s.nodes event.account (some (some name)) })
      | some _, .raises true => (none, { s with nodes := Function.update s.nodes event.account (some (some name)) })
      | none, .succeeds => (some false, s)
      | none, .raises _ | some _, .raises false => (none, s)
    else (some false, s)

/-- `_process_account_name_changed`, and whether it returns. -/
def processAccountNameChanged (now : Nat) (attempt : Attempt) (event : NameChanged) (s : State) : Bool × State :=
  match updateCloudAccountName databases attempt event s with
  | (some true, s') => (true, { s' with again := s'.again ++ [(event, now + updateNameAgainAfter)] })
  | (some false, s') => (true, s')
  | (none, s') => (false, s')

inductive Action where
  /-- The final name of an account changes, and the event is published. -/
  | renames (account : AccountKey) (finalName : Option String)
  /-- The next event is processed; it stays when that raises, to be tried again. -/
  | processes (attempt : Attempt)
  /-- The next event was tried often enough. -/
  | givesUp
  /-- The next job that is due runs: `_update_cloud_account_name_again`. -/
  | updatesAgain (attempt : Attempt)
  | triggers (account : AccountKey)
  /-- A collect ends, which has found a name of its own. -/
  | collected (i : Nat) (found : Option String)
deriving DecidableEq

def act (now : Nat) (s : State) : Action → Option State
  | .renames account finalName => some { s with
      finalNames := Function.update s.finalNames account finalName
      events := s.events ++ [⟨account, finalName⟩] }
  | .processes attempt =>
    match s.events with
    | [] => none
    | event :: rest =>
      let (returns, s') := processAccountNameChanged databases now attempt event s
      some (if returns then { s' with events := rest } else s')
  | .givesUp =>
    match s.events with
    | [] => none
    | _ :: rest => some { s with events := rest }
  | .updatesAgain attempt =>
    match s.again with
    | [] => none
    | (event, due) :: rest =>
      if due ≤ now then some (updateCloudAccountName databases attempt event { s with again := rest }).2 else none
  | .triggers account =>
    let name := if account.cloud = .aws then s.finalNames account else none
    some { s with collecting := s.collecting ++ [⟨account, name, now⟩] }
  | .collected i found =>
    match s.collecting[i]? with
    | none => none
    | some c => some { s with
        collecting := s.collecting.eraseIdx i
        nodes := Function.update s.nodes c.account (some (c.writes found)) }

def step (s : State) (a : Nat × Action) : Option State :=
  if a.1 < s.clock then none else (act databases a.1 s a.2).map fun s' => { s' with clock := a.1 }

end Service

/-- No event of the account is given up, and no job of it fails before it has written the name. -/
def Completes (k : AccountKey) (s : State) : Action → Prop
  | .givesUp => ∀ e ∈ s.events.head?, e.account ≠ k
  | .updatesAgain (.raises false) => ∀ d ∈ s.again.head?, d.1.account ≠ k
  | _ => True

instance (k : AccountKey) (s : State) : (a : Action) → Decidable (Completes k s a)
  | .givesUp => inferInstanceAs (Decidable (∀ e ∈ s.events.head?, e.account ≠ k))
  | .updatesAgain (.raises false) => inferInstanceAs (Decidable (∀ d ∈ s.again.head?, d.1.account ≠ k))
  | .renames .. | .processes _ | .updatesAgain .succeeds | .updatesAgain (.raises true) | .triggers _ | .collected .. =>
    instDecidableTrue

/-! ## What stands out for one account -/

/-- An account: its name, the names in its events and in its jobs, the collects under way, and its node. -/
structure Standing where
  finalName : Option String
  events : List (Option String)
  again : List (Option String × Nat)
  collects : List Collect
  node : Option (Option String)

def State.standing (s : State) (k : AccountKey) : Standing where
  finalName := s.finalNames k
  events := (s.events.filter fun e => decide (e.account = k)).map (·.finalName)
  again := (s.again.filter fun d => decide (d.1.account = k)).map fun d => (d.1.finalName, d.2)
  collects := s.collecting.filter fun c => decide (c.account = k)
  node := s.nodes k

def Standing.Writable (v : Standing) (name : Option String) : Prop := truthy name ≠ none ∧ v.node ≠ none

/-- What an action at a time does to an AWS account, whose tenant has a database. -/
inductive Changes (now : Nat) (v : Standing) : Standing → Prop where
  | renamed (name : Option String) : Changes now v { v with finalName := name, events := v.events ++ [name] }
  | processed (name : Option String) (rest : List (Option String)) (h : v.events = name :: rest)
      (hname : v.Writable name) :
      Changes now v { v with
        events := rest
        again := v.again ++ [(name, now + updateNameAgainAfter)]
        node := some name }
  | retried (name : Option String) (rest : List (Option String)) (h : v.events = name :: rest)
      (hname : v.Writable name) :
      Changes now v { v with node := some name }
  | ignored (name : Option String) (rest : List (Option String)) (h : v.events = name :: rest)
      (hname : ¬ v.Writable name) :
      Changes now v { v with events := rest }
  | updated (name : Option String) (due : Nat) (rest : List (Option String × Nat)) (h : v.again = (name, due) :: rest)
      (hdue : due ≤ now) (hname : v.Writable name) : Changes now v { v with again := rest, node := some name }
  | passed (name : Option String) (due : Nat) (rest : List (Option String × Nat)) (h : v.again = (name, due) :: rest)
      (hdue : due ≤ now) (hname : ¬ v.Writable name) : Changes now v { v with again := rest }
  | triggered (c : Collect) (hname : c.name = v.finalName) (hstarted : c.started = now) :
      Changes now v { v with collects := v.collects ++ [c] }
  | collected (c : Collect) (found : Option String) (rest : List Collect) (hc : c ∈ v.collects)
      (hrest : ∀ x ∈ rest, x ∈ v.collects) : Changes now v { v with collects := rest, node := some (c.writes found) }

theorem truthy_eq_some {s : Option String} {name : String} (h : truthy s = some name) : s = some name :=
  (Option.filter_eq_some_iff.1 h).1

variable {databases : WorkspaceId → Bool} {k : AccountKey}

def State.named (s : State) (event : NameChanged) : State :=
  { s with nodes := Function.update s.nodes event.account (some event.finalName) }

/-- **The update of an account** of a tenant with a database writes its name or nothing. -/
inductive Updates (s : State) (event : NameChanged) : Attempt → Option Bool × State → Prop where
  | done (h : (s.standing event.account).Writable event.finalName) :
      Updates s event .succeeds (some true, s.named event)
  | late (h : (s.standing event.account).Writable event.finalName) :
      Updates s event (.raises true) (none, s.named event)
  | nothing (attempt : Attempt) (result : Option Bool) (h : ¬ (s.standing event.account).Writable event.finalName)
      (hresult : result ≠ some true) : Updates s event attempt (result, s)
  | failed : Updates s event (.raises false) (none, s)

theorem updates_updateCloudAccountName (s : State) (attempt : Attempt) (event : NameChanged)
    (hdatabase : databases event.account.tenantId = true) :
    Updates s event attempt (updateCloudAccountName databases attempt event s) := by
  unfold updateCloudAccountName
  cases hname : truthy event.finalName with
  | none => exact .nothing _ _ (fun h => h.1 hname) (by decide)
  | some name =>
    have hnamed : { s with nodes := Function.update s.nodes event.account (some (some name)) } = s.named event := by
      rw [State.named, truthy_eq_some hname]
    dsimp only
    rw [if_pos hdatabase]
    cases hnode : s.nodes event.account with
    | none =>
      have hnot : ¬ (s.standing event.account).Writable event.finalName := fun h => h.2 hnode
      cases attempt with
      | succeeds => exact .nothing _ _ hnot (by decide)
      | raises written => exact .nothing _ _ hnot (by decide)
    | some old =>
      have hwritable : (s.standing event.account).Writable event.finalName := by
        refine ⟨by rw [hname]; exact Option.some_ne_none name, ?_⟩
        rw [State.standing, hnode]
        exact Option.some_ne_none old
      cases attempt with
      | succeeds => exact hnamed ▸ .done hwritable
      | raises written =>
        cases written with
        | true => exact hnamed ▸ .late hwritable
        | false => exact .failed

theorem standing_update_node (s : State) (x : AccountKey) (n : Option (Option String)) :
    ({ s with nodes := Function.update s.nodes x n } : State).standing k =
      if k = x then { s.standing k with node := n } else s.standing k := by
  by_cases hk : k = x
  · rw [if_pos hk, hk]
    simp [State.standing]
  · rw [if_neg hk]
    simp [State.standing, Function.update_of_ne hk]

theorem standing_clock (s : State) (t : Nat) : ({ s with clock := t } : State).standing k = s.standing k := rfl

theorem standing_named (s : State) (event : NameChanged) :
    (s.named event).standing k =
      if k = event.account then { s.standing k with node := some event.finalName } else s.standing k :=
  standing_update_node s event.account _

theorem updateCloudAccountName_eq (databases : WorkspaceId → Bool) (attempt : Attempt)
    (event : NameChanged) (s : State) :
    ∃ result, updateCloudAccountName databases attempt event s = (result, s) ∨
      updateCloudAccountName databases attempt event s = (result, s.named event) := by
  unfold updateCloudAccountName
  split
  · exact ⟨_, .inl rfl⟩
  · rename_i name hname
    rw [State.named, truthy_eq_some hname]
    split
    · split
      · exact ⟨_, .inr rfl⟩
      · exact ⟨_, .inr rfl⟩
      · exact ⟨_, .inl rfl⟩
      · exact ⟨_, .inl rfl⟩
      · exact ⟨_, .inl rfl⟩
    · exact ⟨_, .inl rfl⟩

theorem standing_updateCloudAccountName_of_ne (databases : WorkspaceId → Bool) (attempt : Attempt) {event : NameChanged}
    (s : State) (hk : event.account ≠ k) :
    (updateCloudAccountName databases attempt event s).2.standing k = s.standing k := by
  obtain ⟨result, heq | heq⟩ := updateCloudAccountName_eq databases attempt event s
  · rw [heq]
  · rw [heq, standing_named, if_neg hk.symm]

theorem standing_drop_event {s : State} {event : NameChanged} {rest : List NameChanged} (h : s.events = event :: rest) :
    if event.account = k then
      (s.standing k).events = event.finalName :: (({ s with events := rest } : State).standing k).events
    else ({ s with events := rest } : State).standing k = s.standing k := by
  by_cases hk : event.account = k <;> simp [State.standing, h, hk]

theorem standing_drop_again {s : State} {event : NameChanged} {due : Nat} {rest : List (NameChanged × Nat)}
    (h : s.again = (event, due) :: rest) :
    if event.account = k then
      (s.standing k).again = (event.finalName, due) :: (({ s with again := rest } : State).standing k).again
    else ({ s with again := rest } : State).standing k = s.standing k := by
  by_cases hk : event.account = k <;> simp [State.standing, h, hk]

theorem standing_processes {s s' : State} {now : Nat} {attempt : Attempt} (hdatabase : databases k.tenantId = true)
    (hact : act databases now s (.processes attempt) = some s') :
    s'.standing k = s.standing k ∨ Changes now (s.standing k) (s'.standing k) := by
  simp only [act] at hact
  cases hevents : s.events with
  | nil =>
    rw [hevents] at hact
    cases hact
  | cons event rest =>
    rw [hevents] at hact
    cases hact
    have hdrop := standing_drop_event (k := k) hevents
    unfold processAccountNameChanged
    by_cases hk : event.account = k
    · subst hk
      rw [if_pos rfl] at hdrop
      have hupdates := updates_updateCloudAccountName s attempt event hdatabase
      generalize updateCloudAccountName databases attempt event s = u at hupdates
      cases hupdates with
      | done hw =>
        right
        have hchanges : Changes now (s.standing event.account) _ := .processed _ _ hdrop hw
        simpa [State.standing, State.named, List.filter_append] using hchanges
      | late hw =>
        right
        have hchanges : Changes now (s.standing event.account) _ := .retried _ _ hdrop hw
        simpa [State.standing, State.named] using hchanges
      | nothing _ result hw hresult =>
        cases result with
        | none => exact .inl rfl
        | some updated =>
          cases updated with
          | true => exact absurd rfl hresult
          | false => exact .inr (.ignored _ _ hdrop hw)
      | failed => exact .inl rfl
    · rw [if_neg hk] at hdrop
      left
      obtain ⟨result, heq | heq⟩ := updateCloudAccountName_eq databases attempt event s <;> rw [heq] <;>
        rcases result with _ | _ | _ <;>
        simp [State.standing, State.named, hevents, hk, Function.update_of_ne (Ne.symm hk)]

theorem filter_eraseIdx {α : Type} {p : α → Bool} {x : α} : ∀ {l : List α} {i : Nat}, l[i]? = some x → p x = false →
    (l.eraseIdx i).filter p = l.filter p
  | [], _, _, _ => rfl
  | y :: l, 0, h, hx => by
    cases h
    rw [List.eraseIdx_cons_zero, List.filter_cons_of_neg (Bool.eq_false_iff.1 hx)]
  | y :: l, i + 1, h, hx => by
    have ih := filter_eraseIdx (l := l) (i := i) h hx
    rw [List.eraseIdx_cons_succ, List.filter_cons, List.filter_cons, ih]

theorem standing_updatesAgain {s s' : State} {now : Nat} {attempt : Attempt} (hdatabase : databases k.tenantId = true)
    (hcompletes : Completes k s (.updatesAgain attempt))
    (hact : act databases now s (.updatesAgain attempt) = some s') :
    s'.standing k = s.standing k ∨ Changes now (s.standing k) (s'.standing k) := by
  simp only [act] at hact
  split at hact
  · cases hact
  · rename_i event due rest hagain
    obtain ⟨hdue, hact⟩ := Option.ite_none_right_eq_some.1 hact
    cases hact
    have hdrop := standing_drop_again (k := k) hagain
    by_cases hk : event.account = k
    · subst hk
      rw [if_pos rfl] at hdrop
      right
      have hupdates := updates_updateCloudAccountName { s with again := rest } attempt event hdatabase
      generalize updateCloudAccountName databases attempt event { s with again := rest } = u at hupdates
      cases hupdates with
      | done hw | late hw =>
        rw [standing_named, if_pos rfl]
        exact .updated _ due _ hdrop hdue hw
      | nothing _ result hw hresult => exact .passed _ due _ hdrop hdue hw
      | failed => exact absurd rfl (hcompletes (event, due) (by rw [hagain]; rfl))
    · rw [if_neg hk] at hdrop
      exact .inl ((standing_updateCloudAccountName_of_ne databases attempt { s with again := rest } hk).trans hdrop)

theorem standing_step {s s' : State} {a : Nat × Action} (hdatabase : databases k.tenantId = true)
    (haws : k.cloud = .aws)
    (hcompletes : Completes k s a.2) (hstep : step databases s a = some s') : s.clock ≤ a.1 ∧ s'.clock = a.1 ∧
      (s'.standing k = s.standing k ∨ Changes a.1 (s.standing k) (s'.standing k)) := by
  obtain ⟨now, a⟩ := a
  rw [step] at hstep
  split at hstep
  · cases hstep
  · rename_i hclock
    obtain ⟨s₁, hact, rfl⟩ := Option.map_eq_some_iff.1 hstep
    refine ⟨not_lt.1 hclock, rfl, ?_⟩
    rw [standing_clock]
    cases a with
    | renames account finalName =>
      cases hact
      by_cases hk : account = k
      · refine .inr ?_
        have hchanges : Changes now (s.standing k) _ := .renamed finalName
        simpa [State.standing, hk] using hchanges
      · exact .inl (by simp [State.standing, hk, Function.update_of_ne (Ne.symm hk)])
    | processes attempt => exact standing_processes hdatabase hact
    | givesUp =>
      simp only [act] at hact
      split at hact
      · cases hact
      · rename_i event rest hevents
        cases hact
        have hother : event.account ≠ k := hcompletes event (by rw [hevents]; rfl)
        have hdrop := standing_drop_event (k := k) hevents
        rw [if_neg hother] at hdrop
        exact .inl hdrop
    | updatesAgain attempt => exact standing_updatesAgain hdatabase hcompletes hact
    | triggers account =>
      cases hact
      by_cases hk : account = k
      · refine .inr ?_
        have hchanges : Changes now (s.standing k) _ :=
          .triggered ⟨account, s.finalNames account, now⟩ (by rw [hk]; rfl) rfl
        simpa [State.standing, List.filter_append, hk, haws] using hchanges
      · exact .inl (by simp [State.standing, List.filter_append, hk])
    | collected i found =>
      rw [act] at hact
      split at hact
      · cases hact
      · rename_i c hc
        cases hact
        by_cases hk : c.account = k
        · refine .inr ?_
          have hmem : c ∈ (s.standing k).collects :=
            List.mem_filter.2 ⟨List.mem_of_getElem? hc, decide_eq_true hk⟩
          have hchanges : Changes now (s.standing k) _ := .collected c found
            ((s.collecting.eraseIdx i).filter fun c => decide (c.account = k)) hmem fun x hx =>
              List.mem_filter.2 ⟨List.mem_of_mem_eraseIdx (List.mem_filter.1 hx).1, (List.mem_filter.1 hx).2⟩
          simpa [State.standing, hk] using hchanges
        · refine .inl ?_
          have hcollects := filter_eraseIdx (p := fun c => decide (c.account = k)) hc (decide_eq_false hk)
          simp only [State.standing, Function.update_of_ne (Ne.symm hk), hcollects]

/-! ## The final name reaches the inventory -/

/-- The events of an account are all processed: the last of its jobs has its name, or its node has it if there is none;
and a collect with another name ends before that job is due. -/
structure Standing.Processed (v : Standing) : Prop where
  job : ∀ d, v.again.getLast? = some d → d.1 = v.finalName
  held : v.again = [] → v.node = some v.finalName
  collect : ∀ c ∈ v.collects, c.name = v.finalName ∨
    ∃ d, v.again.getLast? = some d ∧ c.started + updateNameAgainAfter ≤ d.2

/-- **What holds of an account in between**: the last of its events has its name. -/
structure Standing.Settling (v : Standing) (clock : Nat) : Prop where
  node : v.node ≠ none
  started : ∀ c ∈ v.collects, c.started ≤ clock
  event : ∀ name, v.events.getLast? = some name → name = v.finalName
  processed : truthy v.finalName ≠ none → v.events = [] → v.Processed

/-- The collects under way have taken less than an hour. -/
def Standing.Timely (v : Standing) (now : Nat) : Prop := ∀ c ∈ v.collects, now < c.started + updateNameAgainAfter

instance (v : Standing) (now : Nat) : Decidable (v.Timely now) :=
  inferInstanceAs (Decidable (∀ c ∈ v.collects, now < c.started + updateNameAgainAfter))

theorem getLast?_of_cons {α : Type} {x y : α} {l : List α} (h : l.getLast? = some y) : (x :: l).getLast? = some y := by
  rw [List.getLast?_cons, h]
  rfl

theorem Standing.Processed.ran {v : Standing} {now due : Nat} {name : Option String} {rest : List (Option String × Nat)}
    {node : Option (Option String)} (h : v.Processed) (hagain : v.again = (name, due) :: rest) (hdue : due ≤ now)
    (htimely : v.Timely now) (hnode : name = v.finalName → node = some v.finalName) :
    ({ v with again := rest, node := node } : Standing).Processed where
  job d hd := h.job d (by rw [hagain]; exact getLast?_of_cons hd)
  held hrest := by
    cases hrest
    exact hnode (h.job (name, due) (by rw [hagain]; rfl))
  collect c hc := by
    obtain hname | ⟨d, hd, hstarted⟩ := h.collect c hc
    · exact .inl hname
    · cases rest with
      | nil =>
        rw [hagain] at hd
        cases hd
        exact absurd (htimely c hc) (not_lt.2 (hstarted.trans hdue))
      | cons e rest =>
        rw [hagain, List.getLast?_cons_cons] at hd
        exact .inr ⟨d, hd, hstarted⟩

theorem Standing.Settling.changes {v v' : Standing} {clock now : Nat} (h : v.Settling clock) (hclock : clock ≤ now)
    (htimely : v.Timely now) (hchanges : Changes now v v') : v'.Settling now := by
  have hstarted : ∀ c ∈ v.collects, c.started ≤ now := fun c hc => (h.started c hc).trans hclock
  cases hchanges with
  | renamed name =>
    refine ⟨h.node, hstarted, fun n hn => ?_, fun _ hnil => absurd hnil (by simp)⟩
    rw [List.getLast?_concat] at hn
    exact (Option.some.inj hn).symm
  | processed name rest hevents hname =>
    refine ⟨Option.some_ne_none _, hstarted, fun n hn => h.event n (hevents ▸ getLast?_of_cons hn), ?_⟩
    intro _ hnil
    cases hnil
    have hfinal : name = v.finalName := h.event name (by rw [hevents]; rfl)
    refine ⟨fun d hd => ?_, fun hnil => absurd hnil (by simp), fun c hc => .inr ⟨_, List.getLast?_concat, ?_⟩⟩
    · rw [List.getLast?_concat] at hd
      cases hd
      exact hfinal
    · exact Nat.add_le_add_right (hstarted c hc) _
  | ignored name rest hevents hname =>
    refine ⟨h.node, hstarted, fun n hn => h.event n (hevents ▸ getLast?_of_cons hn), ?_⟩
    intro htruthy hnil
    cases hnil
    have hfinal : name = v.finalName := h.event name (by rw [hevents]; rfl)
    exact absurd ⟨hfinal ▸ htruthy, h.node⟩ hname
  | retried name rest hevents hname =>
    exact ⟨Option.some_ne_none _, hstarted, h.event, fun _ hnil => absurd (hevents.symm.trans hnil) (by simp)⟩
  | updated name due rest hagain hdue hname =>
    exact ⟨Option.some_ne_none _, hstarted, h.event, fun htruthy hnil =>
      (h.processed htruthy hnil).ran hagain hdue htimely (congrArg some)⟩
  | passed name due rest hagain hdue hname =>
    refine ⟨h.node, hstarted, h.event, fun htruthy hnil => ?_⟩
    exact (h.processed htruthy hnil).ran hagain hdue htimely fun hfinal => absurd ⟨hfinal ▸ htruthy, h.node⟩ hname
  | triggered c hname hnow =>
    refine ⟨h.node, fun x hx => ?_, h.event, fun htruthy hnil => ?_⟩
    · obtain hx | hx := List.mem_append.1 hx
      · exact hstarted x hx
      · rw [List.mem_singleton.1 hx, hnow]
    · have hp := h.processed htruthy hnil
      refine ⟨hp.job, hp.held, fun x hx => ?_⟩
      obtain hx | hx := List.mem_append.1 hx
      · exact hp.collect x hx
      · rw [List.mem_singleton.1 hx]
        exact .inl hname
  | collected c found rest hc hrest =>
    refine ⟨Option.some_ne_none _, fun x hx => hstarted x (hrest x hx), h.event, fun htruthy hnil => ?_⟩
    have hp := h.processed htruthy hnil
    refine ⟨hp.job, fun hagain => ?_, fun x hx => hp.collect x (hrest x hx)⟩
    obtain hname | ⟨d, hd, -⟩ := hp.collect c hc
    · have hwrites : c.writes found = v.finalName := by
        obtain ⟨name, hname'⟩ := Option.ne_none_iff_exists'.1 htruthy
        rw [Collect.writes, hname, hname', truthy_eq_some hname', Option.some_or]
      exact congrArg some hwrites
    · rw [hagain] at hd
      cases hd

/-- An account that was collected with its name, and nothing is under way. -/
def State.Idle (s : State) (k : AccountKey) : Prop :=
  s.nodes k = some (s.finalNames k) ∧ (∀ e ∈ s.events, e.account ≠ k) ∧ (∀ d ∈ s.again, d.1.account ≠ k) ∧
    ∀ c ∈ s.collecting, c.account ≠ k

theorem standing_events_eq_nil {s : State} : (s.standing k).events = [] ↔ ∀ e ∈ s.events, e.account ≠ k := by
  simp [State.standing]

theorem standing_again_eq_nil {s : State} : (s.standing k).again = [] ↔ ∀ d ∈ s.again, d.1.account ≠ k := by
  simp [State.standing]

theorem standing_collects_eq_nil {s : State} : (s.standing k).collects = [] ↔ ∀ c ∈ s.collecting, c.account ≠ k := by
  simp [State.standing]

theorem settling_of_idle {s : State} (h : s.Idle k) : (s.standing k).Settling s.clock := by
  obtain ⟨hnode, hevents, hagain, hcollects⟩ := h
  rw [← standing_events_eq_nil] at hevents
  rw [← standing_again_eq_nil] at hagain
  rw [← standing_collects_eq_nil] at hcollects
  have hheld : (s.standing k).node = some (s.standing k).finalName := hnode
  refine ⟨by rw [hheld]; exact Option.some_ne_none _, by simp [hcollects], by simp [hevents], fun _ _ => ?_⟩
  exact ⟨by simp [hagain], fun _ => hheld, by simp [hcollects]⟩

def prod : AccountKey := ⟨1, .aws, "123456789012"⟩

/-- The account was collected as `prod`. -/
def collectedOnce : State where
  finalNames := Function.update (fun _ => none) prod (some "prod")
  events := []
  again := []
  collecting := []
  nodes := Function.update (fun _ => none) prod (some (some "prod"))
  clock := 0

/-- A collect with the name `prod` ends after the account was renamed, and the first update fails. -/
def renamedMeanwhile : List (Nat × Action) :=
  [(0, .triggers prod), (5, .renames prod (some "main")), (6, .processes (.raises true)), (7, .processes .succeeds),
    (10, .collected 0 (some "alias")), (3600000007, .updatesAgain .succeeds)]

end InventoryNames

end Fix
