import FixBackend.AccountStandings
import FixBackend.Machine
/-!
# CollectEvents — what the results of a collect make of the accounts

`TenantAccountsCollected` and `TenantAccountsCollectFailed` as `process_domain_event` handles them: the scan of each
account is recorded and its failed scans are counted, and an account is degraded or brought back by the count.
-/
namespace Fix

open Calendar Effects Machine

/-! ## One account of an event -/

/-- A scan failed when it is said so, or when it found too little. -/
def CloudAccountCollectInfo.scanFailed (threshold : Int) (failed : Bool) (info : CloudAccountCollectInfo) : Bool :=
  failed || decide ((info.scannedResources : Int) ≤ threshold)

theorem computeFailedScanCount_eq (threshold : Int) (info : CloudAccountCollectInfo) (a : CloudAccount)
    (failed : Bool) :
    computeFailedScanCount threshold info a failed =
      if info.scanFailed threshold failed then a.failedScanCount + 1 else 0 := by
  unfold computeFailedScanCount CloudAccountCollectInfo.scanFailed
  cases failed <;> simp

def tooManyFailedScans : String := "Too many consecutive failed scans"

/-- What a scan makes of a state, by the count of failed scans after it. -/
def CloudAccountState.scanned (count : Nat) (s : CloudAccountState) : CloudAccountState :=
  if count = 0 then s.restored else if 3 < count then s.degradedBy tooManyFailedScans else s

def Standing.scanned (failed : Bool) : Standing → Standing
  | (.ok s, n) =>
    let count := if failed then n + 1 else 0
    (.ok (s.scanned count), count)
  | (.error e, n) => (.error e, n)

def Standing.degradedByScan (failed : Bool) : Standing → Bool
  | (.ok s, n) => failed && decide (3 < n + 1) && decide (s.stateName ≠ .degraded)
  | (.error _, _) => false

def World.readable (w : World) (id : FixCloudAccountId) : Bool :=
  match w.standing id with
  | some (.ok _, _) => true
  | _ => false

theorem World.readable_iff {w : World} {id : FixCloudAccountId} :
    w.readable id = true ↔ ∃ state n, w.standing id = some (.ok state, n) := by
  unfold readable
  rcases w.standing id with _ | ⟨e | state, n⟩
  · exact ⟨fun h => (by cases h), fun ⟨_, _, h⟩ => (by cases h)⟩
  · exact ⟨fun h => (by cases h), fun ⟨_, _, h⟩ => (by cases h)⟩
  · exact ⟨fun _ => ⟨state, n, rfl⟩, fun _ => rfl⟩

section Account

variable {w : World} {item : FixCloudAccountId × CloudAccountCollectInfo}

theorem update_recordScan_ok (nextRun : Option DateTime) (failed : Bool) {state : CloudAccountState} {n : Nat}
    (hu : w.Unique) (h : w.standing item.1 = some (.ok state, n)) :
    ∃ updated w', exec (CloudAccountRepository.update item.1
        (recordScan w.accountFailedResourceCount item.2 nextRun failed)) w = (.ok updated, w') ∧
      updated.id = item.1 ∧
      updated.failedScanCount = (if item.2.scanFailed w.accountFailedResourceCount failed then n + 1 else 0) ∧
      ChangesOne item.1 (.ok state, updated.failedScanCount) w w' ∧ w'.published = w.published := by
  obtain ⟨r, hfind, hstate, hcount⟩ := World.standing_eq_some h
  obtain ⟨a, ha, hastate⟩ := AccountRow.exists_toModel hstate none
  obtain ⟨-, haid, -, hacloud, -⟩ := AccountRow.toModel_ok ha
  have hacount : a.failedScanCount = n := (AccountRow.toModel_failedScanCount ha).trans hcount
  obtain ⟨recorded, hf, hstorable, hrecordedState, hrecordedCount⟩ :
      ∃ recorded, recordScan w.accountFailedResourceCount item.2 nextRun failed w.now a = .ok recorded ∧
        CloudAccountRepository.Storable r a recorded ∧ recorded.state = state ∧ recorded.failedScanCount =
          if item.2.scanFailed w.accountFailedResourceCount failed then n + 1 else 0 := by
    refine ⟨_, rfl, ⟨rfl, rfl, rfl, rfl, fun access hx => ?_, ?_⟩, hastate, ?_⟩
    · rw [hastate] at hx
      exact (AccountRow.accountState_cloud hstate hx).trans hacloud.symm
    · exact AccountRow.not_unfit_of_state ha rfl (fun _ hx => hx) fun _ he => .inl he
    · rw [← hacount]
      exact computeFailedScanCount_eq _ _ _ _
  obtain ⟨nextScan, updatedAt, w', hexec, hupdated⟩ := CloudAccountRepository.update_ok hu hfind ha hf hstorable
  refine ⟨_, w', hexec, hstorable.id.trans (haid.trans (Table.key_of_find hfind)), hrecordedCount,
    ⟨hupdated.alike, ?_, hupdated.others⟩, hupdated.published⟩
  rw [← hrecordedState]
  exact hupdated.standing

/-- **The scan of a readable account is recorded**, with what follows from the count. -/
theorem processCollected_ok (nextRun : Option DateTime) (failed : Bool) {standing : Standing} (hu : w.Unique)
    (h : w.standing item.1 = some standing) (hread : w.readable item.1 = true) :
    ∃ w', exec (processCollected nextRun failed item) w = (.ok ⟨⟩, w') ∧
      ChangesOne item.1 (standing.scanned (item.2.scanFailed w.accountFailedResourceCount failed)) w w' ∧
      ∀ x, w'.published.countP (·.degrades x) = w.published.countP (·.degrades x) +
        if x = item.1 ∧ standing.degradedByScan (item.2.scanFailed w.accountFailedResourceCount failed) = true then 1
        else 0 := by
  obtain ⟨state, n, hstanding⟩ := World.readable_iff.1 hread
  rw [h] at hstanding
  cases hstanding
  obtain ⟨updated, w₁, hrecord, hid, hcount, hone, hpublished⟩ := update_recordScan_ok nextRun failed hu h
  have hu₁ : w₁.Unique := hu.of_alike hone.alike
  unfold processCollected recordCollected
  rw [exec_bind, exec_bind, exec_get]
  dsimp only
  rw [exec_bind, hrecord]
  dsimp only
  cases hfail : item.2.scanFailed w.accountFailedResourceCount failed with
  | false =>
    have hcount0 : updated.failedScanCount = 0 := by rw [hcount, hfail]; rfl
    have hcollected : failed = false := (Bool.or_eq_false_iff.1 hfail).1
    obtain ⟨a, w₂, hback, hone₂, hpublished₂⟩ := undegradeAccount_ok hu₁ hone.standing
    have hscanned : Standing.scanned false (.ok state, n) = (.ok state.restored, updated.failedScanCount) := by
      rw [hcount0]
      rfl
    rw [hcount0, hcollected, if_neg (by decide)]
    refine ⟨w₂, ?_, ?_, fun x => ?_⟩
    · rw [exec_pure]
      dsimp only
      rw [hcount0, if_pos (by decide), exec_bind, hid, hback]
      rfl
    · rw [hscanned]
      exact hone.trans hone₂
    · rw [hpublished₂, hpublished, if_neg (fun hx => by cases hx.2), Nat.add_zero]
  | true =>
    have hcountn : updated.failedScanCount = n + 1 := by rw [hcount, hfail]; rfl
    have hstays : (!failed && n + 1 == 0) = false := by cases failed <;> rfl
    have hscanned : Standing.scanned true (.ok state, n) = (.ok (state.scanned (n + 1)), n + 1) := rfl
    rw [hscanned]
    unfold CloudAccountState.scanned
    rw [if_neg (Nat.succ_ne_zero n), hcountn]
    by_cases hmany : 3 < n + 1
    · rw [hcountn] at hone
      obtain ⟨a, w₂, hdegrade, hone₂, hpublished₂⟩ :=
        degradeAccount_ok hu₁ hone.standing tooManyFailedScans (by decide) .other
      rw [if_pos hmany, if_pos hmany]
      refine ⟨w₂, ?_, hone.trans hone₂, fun x => ?_⟩
      · rw [exec_bind, hid]
        have hexec : exec (degradeAccount item.1 "Too many consecutive failed scans" .other) w₁ = (.ok a, w₂) :=
          hdegrade
        rw [hexec]
        dsimp only
        rw [exec_pure]
        dsimp only
        rw [hcountn, hstays]
        rfl
      · have hdegraded : Standing.degradedByScan true (.ok state, n) = true ↔ state.stateName ≠ .degraded := by
          unfold Standing.degradedByScan
          simp only [hmany, decide_true, Bool.and_self, Bool.true_and, decide_eq_true_eq]
        rw [hpublished₂, hpublished]
        simp only [hdegraded]
    · rw [if_neg hmany, if_neg hmany]
      rw [hcountn] at hone
      refine ⟨w₁, ?_, hone, fun x => ?_⟩
      · rw [exec_pure]
        dsimp only
        rw [hcountn, hstays]
        rfl
      · have hdegraded : Standing.degradedByScan true (.ok state, n) = false := by
          unfold Standing.degradedByScan
          simp only [hmany, decide_false, Bool.and_false, Bool.false_and]
        rw [hpublished, if_neg (fun hx => by rw [hdegraded] at hx; cases hx.2), Nat.add_zero]

theorem processCollected_error (nextRun : Option DateTime) (failed : Bool) (hread : w.readable item.1 = false) :
    ∃ e, exec (processCollected nextRun failed item) w = (.error e, w) := by
  have hupdate : ∀ f, ∃ e, exec (CloudAccountRepository.update item.1 f) w = (.error e, w) := by
    intro f
    cases hfind : w.accounts.find item.1 with
    | none => exact ⟨_, CloudAccountRepository.exec_update_missing hfind⟩
    | some r =>
      cases hstate : r.accountState with
      | error e => exact ⟨e, CloudAccountRepository.exec_update_unreadable hfind (AccountRow.toModel_error hstate none)⟩
      | ok state =>
        unfold World.readable World.standing AccountRow.standing at hread
        rw [hfind, Option.map_some, hstate] at hread
        cases hread
  obtain ⟨e, hexec⟩ := hupdate (recordScan w.accountFailedResourceCount item.2 nextRun failed)
  refine ⟨e, ?_⟩
  unfold processCollected recordCollected
  rw [exec_bind, exec_bind, exec_get]
  dsimp only
  rw [exec_bind, hexec]

end Account

/-! ## The accounts of an event -/

abbrev CollectEntry := FixCloudAccountId × CloudAccountCollectInfo

def scannedBy (threshold : Int) (failed : Bool) (entries : List CollectEntry) (id : FixCloudAccountId)
    (standing : Standing) : Standing :=
  match entries.lookup id with
  | some info => standing.scanned (info.scanFailed threshold failed)
  | none => standing

def degradedByEntries (threshold : Int) (failed : Bool) (entries : List CollectEntry) (id : FixCloudAccountId)
    (standing : Standing) : Bool :=
  match entries.lookup id with
  | some info => standing.degradedByScan (info.scanFailed threshold failed)
  | none => false

/-- The entries up to the first account that is not stored or cannot be read. -/
def World.reaches (w : World) (entries : List CollectEntry) : List CollectEntry :=
  entries.takeWhile fun item => w.readable item.1

theorem Standing.scanned_readable {standing : Standing} {failed : Bool} :
    (∃ state n, standing.scanned failed = (.ok state, n)) ↔ ∃ state n, standing = (.ok state, n) := by
  rcases standing with ⟨e | state, n⟩
  · exact ⟨fun ⟨_, _, h⟩ => (by cases h), fun ⟨_, _, h⟩ => (by cases h)⟩
  · exact ⟨fun _ => ⟨state, n, rfl⟩, fun _ => ⟨_, _, rfl⟩⟩

theorem ChangesOne.readable {id : FixCloudAccountId} {standing : Standing} {w w' : World} {failed : Bool}
    (h : ChangesOne id (standing.scanned failed) w w') (hstanding : w.standing id = some standing)
    (x : FixCloudAccountId) : w'.readable x = w.readable x := by
  by_cases hx : x = id
  · subst hx
    rw [Bool.eq_iff_iff, World.readable_iff, World.readable_iff, h.standing, hstanding]
    simp only [Option.some.injEq]
    exact Standing.scanned_readable
  · unfold World.readable
    rw [h.standing_of_ne hx]

theorem lookup_eq_none_of_notMem {entries : List CollectEntry} {id : FixCloudAccountId}
    (h : id ∉ entries.map Prod.fst) : entries.lookup id = none := by
  rw [List.lookup_eq_none_iff]
  intro p hp
  simp only [bne_iff_ne, ne_eq]
  rintro rfl
  exact h (List.mem_map_of_mem hp)

theorem lookup_eq_some_of_mem : ∀ {entries : List CollectEntry}, (entries.map Prod.fst).Nodup →
    ∀ {item : CollectEntry}, item ∈ entries → entries.lookup item.1 = some item.2
  | head :: rest, hkeys, item, hitem => by
    rw [List.map_cons, List.nodup_cons] at hkeys
    rcases List.mem_cons.1 hitem with rfl | hrest
    · exact List.lookup_cons_self
    · have hne : item.1 ≠ head.1 := fun h => hkeys.1 (h ▸ List.mem_map_of_mem hrest)
      rw [List.lookup_cons, beq_false_of_ne hne]
      exact lookup_eq_some_of_mem hkeys.2 hrest

theorem notMem_reaches {w : World} {entries : List CollectEntry} {id : FixCloudAccountId}
    (h : id ∉ entries.map Prod.fst) : id ∉ (w.reaches entries).map Prod.fst := by
  intro hmem
  obtain ⟨p, hp, hid⟩ := List.mem_map.1 hmem
  exact h (List.mem_map.2 ⟨p, (List.takeWhile_sublist _).subset hp, hid⟩)

/-- **The loop over the accounts of an event** records the scans up to the first account that cannot be read, and raises
when there is one. -/
theorem forM_processCollected (nextRun : Option DateTime) (failed : Bool) : ∀ (entries : List CollectEntry) {w : World},
    w.Unique → (entries.map Prod.fst).Nodup →
    ∃ r w', exec (entries.forM (processCollected nextRun failed)) w = (r, w') ∧ w.Alike w' ∧
      (r = .ok ⟨⟩ ↔ ∀ item ∈ entries, w.readable item.1 = true) ∧
      (∀ x, w'.readable x = w.readable x) ∧
      (∀ x, w'.standing x =
        (w.standing x).map (scannedBy w.accountFailedResourceCount failed (w.reaches entries) x)) ∧
      ∀ x, w'.published.countP (·.degrades x) = w.published.countP (·.degrades x) +
        if (w.standing x).any (degradedByEntries w.accountFailedResourceCount failed (w.reaches entries) x)
          then 1 else 0
  | [], w, _, _ => by
    refine ⟨.ok ⟨⟩, w, rfl, World.Alike.refl w, ⟨fun _ _ h => absurd h List.not_mem_nil, fun _ => rfl⟩, fun _ => rfl,
      fun x => ?_, fun x => ?_⟩
    · cases w.standing x <;> rfl
    · cases w.standing x <;> rfl
  | item :: rest, w, hu, hnodup => by
    rw [forM_cons, exec_bind]
    cases hread : w.readable item.1 with
    | false =>
      obtain ⟨e, hexec⟩ := processCollected_error nextRun failed hread
      have hnone : w.reaches (item :: rest) = [] := by
        unfold World.reaches
        rw [List.takeWhile_cons, hread]
        rfl
      rw [hexec, hnone]
      refine ⟨.error e, w, rfl, World.Alike.refl w, ⟨fun h => (by cases h), fun h => ?_⟩, fun _ => rfl, fun x => ?_,
        fun x => ?_⟩
      · rw [h item List.mem_cons_self] at hread
        cases hread
      · cases w.standing x <;> rfl
      · cases w.standing x <;> rfl
    | true =>
      obtain ⟨state, n, hstanding⟩ := World.readable_iff.1 hread
      obtain ⟨w₁, hexec, hone, hpublished⟩ := processCollected_ok nextRun failed hu hstanding hread
      rw [List.map_cons, List.nodup_cons] at hnodup
      obtain ⟨hnotin, hnodup⟩ := hnodup
      obtain ⟨r, w', hrest, halike, hok, hreadable, hstandings, hevents⟩ :=
        forM_processCollected nextRun failed rest (hu.of_alike hone.alike) hnodup
      have hsame : ∀ x, w₁.readable x = w.readable x := hone.readable hstanding
      have hreaches : w₁.reaches rest = w.reaches rest := by
        unfold World.reaches
        simp only [hsame]
      have hnext : w.reaches (item :: rest) = item :: w.reaches rest := by
        unfold World.reaches
        rw [List.takeWhile_cons, hread]
        rfl
      have hthreshold : w₁.accountFailedResourceCount = w.accountFailedResourceCount :=
        hone.alike.accountFailedResourceCount
      rw [hreaches, hthreshold] at hstandings hevents
      have hgone : (w.reaches rest).lookup item.1 = none := lookup_eq_none_of_notMem (notMem_reaches hnotin)
      rw [hexec, hnext]
      refine ⟨r, w', hrest, hone.alike.trans halike, ?_, fun x => (hreadable x).trans (hsame x),
        fun x => ?_, fun x => ?_⟩
      · rw [hok, List.forall_mem_cons]
        simp only [hsame, hread, true_and]
      · by_cases hx : x = item.1
        · subst hx
          rw [hstandings, hone.standing, hstanding]
          unfold scannedBy
          rw [List.lookup_cons_self, hgone]
          rfl
        · rw [hstandings, hone.standing_of_ne hx]
          unfold scannedBy
          rw [List.lookup_cons, beq_false_of_ne hx]
      · rw [hevents, hpublished, Nat.add_assoc]
        refine congrArg _ ?_
        unfold degradedByEntries
        by_cases hx : x = item.1
        · subst hx
          rw [hone.standing, hstanding, List.lookup_cons_self, hgone]
          simp only [Option.any_some, true_and, Bool.false_eq_true, if_false, Nat.add_zero]
        · rw [hone.standing_of_ne hx, List.lookup_cons, beq_false_of_ne hx, if_neg (fun h => hx h.1), Nat.zero_add]

/-! ## The events -/

inductive CollectEvent where
  | collected (tenantId : WorkspaceId) (cloudAccounts cloudAccountsFailed : List CollectEntry)
      (nextRun : Option DateTime)
  | collectFailed (cloudAccounts : List CollectEntry) (nextRun : Option DateTime)

namespace CollectEvent

def handle : CollectEvent → Service PUnit
  | collected tenantId cloudAccounts cloudAccountsFailed nextRun =>
    processTenantAccountsCollected tenantId cloudAccounts cloudAccountsFailed nextRun
  | collectFailed cloudAccounts nextRun => processTenantAccountsCollectFailed cloudAccounts nextRun

def entries : CollectEvent → List CollectEntry
  | collected _ cloudAccounts cloudAccountsFailed _ => unionDict cloudAccounts cloudAccountsFailed
  | collectFailed cloudAccounts _ => cloudAccounts

def failed : CollectEvent → Bool
  | collected .. => false
  | collectFailed .. => true

def record (entries : List CollectEntry) : CollectEvent → Service PUnit
  | collected _ cloudAccounts _ nextRun => do
    let _ ← CloudAccountRepository.list (cloudAccounts.map Prod.fst)
    entries.forM (processCollected nextRun false)
  | collectFailed _ nextRun => entries.forM (processCollected nextRun true)

def Dictionaries : CollectEvent → Prop
  | collected _ cloudAccounts cloudAccountsFailed _ =>
    (cloudAccounts.map Prod.fst).Nodup ∧ (cloudAccountsFailed.map Prod.fst).Nodup
  | collectFailed cloudAccounts _ => (cloudAccounts.map Prod.fst).Nodup

def listable (w : World) : CollectEvent → Bool
  | collected _ cloudAccounts _ _ => cloudAccounts.all fun item => (w.standing item.1).isNone || w.readable item.1
  | collectFailed .. => true

def reached (e : CollectEvent) (w : World) (entries : List CollectEntry) : List CollectEntry :=
  if e.listable w then w.reaches entries else []

end CollectEvent

theorem unionDict_keys_nodup {left right : List CollectEntry} (hleft : (left.map Prod.fst).Nodup)
    (hright : (right.map Prod.fst).Nodup) : ((unionDict left right).map Prod.fst).Nodup := by
  unfold unionDict
  rw [List.map_append, List.map_map]
  refine List.Nodup.append hleft (hright.sublist (List.filter_sublist.map _)) fun x hx hx' => ?_
  obtain ⟨p, hp, rfl⟩ := List.mem_map.1 hx'
  have hnotin : p.1 ∉ left.map Prod.fst := of_decide_eq_true (List.mem_filter.1 hp).2
  exact hnotin hx

theorem CollectEvent.entries_nodup {e : CollectEvent} (h : e.Dictionaries) : (e.entries.map Prod.fst).Nodup := by
  cases e with
  | collected tenantId cloudAccounts cloudAccountsFailed nextRun => exact unionDict_keys_nodup h.1 h.2
  | collectFailed cloudAccounts nextRun => exact h

theorem exec_list_ok_iff (ids : List FixCloudAccountId) (w : World) :
    (∃ accounts, exec (CloudAccountRepository.list ids) w = (.ok accounts, w)) ↔
      ∀ id ∈ ids, w.standing id = none ∨ w.readable id = true := by
  have hexec : exec (CloudAccountRepository.list ids) w =
      ((w.accounts.rows.filter fun r => decide (r.id ∈ ids)).mapM (·.toModel none), w) := by
    unfold CloudAccountRepository.list
    rw [exec_bind, exec_get]
    exact exec_lift _ _
  have hread : ∀ {r : AccountRow}, r ∈ w.accounts.rows →
      ((∃ a, r.toModel none = .ok a) ↔ w.readable r.id = true) := by
    intro r hr
    have hfind := (Table.find_eq_some_iff w.accounts r.id r).2 ⟨hr, rfl⟩
    rw [World.readable_iff]
    unfold World.standing
    rw [hfind]
    constructor
    · rintro ⟨a, ha⟩
      exact ⟨a.state, r.failedScanCount, congrArg some (Prod.ext (AccountRow.toModel_ok ha).1 rfl)⟩
    · rintro ⟨state, n, h⟩
      obtain ⟨a, ha, -⟩ := AccountRow.exists_toModel (congrArg Prod.fst (Option.some.inj h)) none
      exact ⟨a, ha⟩
  have hvalue : (∃ accounts, exec (CloudAccountRepository.list ids) w = (.ok accounts, w)) ↔
      ∃ accounts, (w.accounts.rows.filter fun r => decide (r.id ∈ ids)).mapM (·.toModel none) = .ok accounts := by
    rw [hexec]
    simp only [Prod.mk.injEq, and_true]
  rw [hvalue, exists_mapM_ok_iff]
  constructor
  · intro h id hid
    cases hfind : w.accounts.find id with
    | none => exact Or.inl (congrArg (Option.map _) hfind)
    | some r =>
      right
      have hkey : r.id = id := Table.key_of_find hfind
      have hr := Table.mem_of_find hfind
      rw [← hkey] at hid ⊢
      exact (hread hr).1 (h r (List.mem_filter.2 ⟨hr, decide_eq_true hid⟩))
  · intro h r hr
    obtain ⟨hr, hid⟩ := List.mem_filter.1 hr
    refine (hread hr).2 ((h r.id (of_decide_eq_true hid)).resolve_left fun hnone => ?_)
    have hfind := (Table.find_eq_some_iff w.accounts r.id r).2 ⟨hr, rfl⟩
    unfold World.standing at hnone
    rw [hfind] at hnone
    cases hnone

/-- What the handling of an event leaves, when it comes to the entries `reached`. -/
structure Recorded (failed : Bool) (reached : List CollectEntry) (w w' : World) : Prop where
  alike : w.Alike w'
  readable : ∀ x, w'.readable x = w.readable x
  standing : ∀ x, w'.standing x = (w.standing x).map (scannedBy w.accountFailedResourceCount failed reached x)
  degraded : ∀ x, w'.published.countP (·.degrades x) = w.published.countP (·.degrades x) +
    if (w.standing x).any (degradedByEntries w.accountFailedResourceCount failed reached x) then 1 else 0

theorem recorded_nil (failed : Bool) (w : World) : Recorded failed [] w w := by
  refine ⟨World.Alike.refl w, fun _ => rfl, fun x => ?_, fun x => ?_⟩
  · cases w.standing x <;> rfl
  · cases w.standing x <;> rfl

theorem Recorded.standing_none {failed : Bool} {reached : List CollectEntry} {w w' : World}
    (h : Recorded failed reached w w') (x : FixCloudAccountId) : w'.standing x = none ↔ w.standing x = none := by
  rw [h.standing, Option.map_eq_none_iff]

theorem exec_forM_notify (ns : List Notice) (w : World) :
    exec (ns.forM notify) w = (.ok ⟨⟩, { w with notices := w.notices ++ ns }) := by
  induction ns generalizing w with
  | nil => exact congrArg _ (by rw [List.append_nil])
  | cons n ns ih =>
    rw [forM_cons, exec_bind, notify, exec_modify]
    dsimp only
    rw [ih]
    dsimp only
    rw [List.append_assoc]
    rfl

theorem exec_announceCollected_notices (tenantId : WorkspaceId) (cloudAccounts cloudAccountsFailed : List CollectEntry)
    (nextRun : Option DateTime) (accounts : List CloudAccount) (w : World) :
    exec (announceCollected tenantId cloudAccounts cloudAccountsFailed nextRun accounts) w =
      (.ok ⟨⟩, { w with
        notices :=
          w.notices ++ [.pubSub (.tenantAccountsCollected tenantId cloudAccounts cloudAccountsFailed nextRun)] ++
          ((if accounts.all (·.lastScanStartedAt.isNone) then
              [.firstWorkspaceCollectFinished tenantId, .securityScanFinished tenantId] else []) ++
            if accounts.any (·.lastScanStartedAt.isNone) then [.firstAccountCollectFinished tenantId] else []) ++
          [.workspaceCollectFinished tenantId cloudAccounts.length
            (cloudAccounts.map (·.2.scannedResources)).sum] }) := by
  unfold announceCollected
  dsimp only
  rw [exec_bind, notify, exec_modify]
  dsimp only
  rw [exec_bind, exec_forM_notify]
  rfl

theorem exec_announceCollected (tenantId : WorkspaceId) (cloudAccounts cloudAccountsFailed : List CollectEntry)
    (nextRun : Option DateTime) (accounts : List CloudAccount) (w : World) :
    ∃ notices, exec (announceCollected tenantId cloudAccounts cloudAccountsFailed nextRun accounts) w =
      (.ok ⟨⟩, { w with notices := notices }) :=
  ⟨_, exec_announceCollected_notices tenantId cloudAccounts cloudAccountsFailed nextRun accounts w⟩

namespace CollectEvent

variable {e : CollectEvent} {w : World}

theorem listable_iff {tenantId : WorkspaceId} {cloudAccounts cloudAccountsFailed : List CollectEntry}
    {nextRun : Option DateTime} : (collected tenantId cloudAccounts cloudAccountsFailed nextRun).listable w = true ↔
      ∃ accounts, exec (CloudAccountRepository.list (cloudAccounts.map Prod.fst)) w = (.ok accounts, w) := by
  rw [exec_list_ok_iff]
  unfold listable
  simp only [List.all_eq_true, Bool.or_eq_true, Option.isNone_iff_eq_none, List.forall_mem_map]

theorem record_recorded (hu : w.Unique) {entries : List CollectEntry} (hkeys : (entries.map Prod.fst).Nodup) :
    ∃ r w', exec (e.record entries) w = (r, w') ∧ Recorded e.failed (e.reached w entries) w w' ∧
      (r = .ok ⟨⟩ ↔ e.listable w = true ∧ ∀ item ∈ entries, w.readable item.1 = true) := by
  unfold reached
  cases e with
  | collectFailed cloudAccounts nextRun =>
    obtain ⟨r, w', hexec, halike, hok, hreadable, hstanding, hdegraded⟩ :=
      forM_processCollected nextRun true entries hu hkeys
    exact ⟨r, w', hexec, ⟨halike, hreadable, hstanding, hdegraded⟩, fun h => ⟨rfl, hok.1 h⟩, fun h => hok.2 h.2⟩
  | collected tenantId cloudAccounts cloudAccountsFailed nextRun =>
    unfold record
    dsimp only
    rw [exec_bind]
    cases hlist : (collected tenantId cloudAccounts cloudAccountsFailed nextRun).listable w with
    | true =>
      obtain ⟨accounts, hread⟩ := listable_iff.1 hlist
      obtain ⟨r, w', hexec, halike, hok, hreadable, hstanding, hdegraded⟩ :=
        forM_processCollected nextRun false entries hu hkeys
      rw [hread]
      exact ⟨r, w', hexec, ⟨halike, hreadable, hstanding, hdegraded⟩, fun h => ⟨rfl, hok.1 h⟩, fun h => hok.2 h.2⟩
    | false =>
      have hworld := CloudAccountRepository.list_reads (cloudAccounts.map Prod.fst) w
      rcases hread : exec (CloudAccountRepository.list (cloudAccounts.map Prod.fst)) w with ⟨err | accounts, w'⟩
      · rw [hread] at hworld
        cases hworld
        exact ⟨.error err, w', rfl, recorded_nil _ w', fun h => (by cases h), fun h => (by cases h.1)⟩
      · rw [hread] at hworld
        cases hworld
        rw [listable_iff.2 ⟨accounts, hread⟩] at hlist
        cases hlist

theorem handle_recorded (hu : w.Unique) (hkeys : (e.entries.map Prod.fst).Nodup) :
    ∃ r w', exec e.handle w = (r, w') ∧ Recorded e.failed (e.reached w e.entries) w w' ∧
      (r = .ok ⟨⟩ ↔ e.listable w = true ∧ ∀ item ∈ e.entries, w.readable item.1 = true) := by
  obtain ⟨r, w', hexec, hrecorded, hok⟩ := record_recorded (e := e) hu hkeys
  cases e with
  | collectFailed cloudAccounts nextRun => exact ⟨r, w', hexec, hrecorded, hok⟩
  | collected tenantId cloudAccounts cloudAccountsFailed nextRun =>
    -- after the accounts only notices are sent
    have hhandle : ∃ r' notices, exec (handle (collected tenantId cloudAccounts cloudAccountsFailed nextRun)) w =
        (r', { w' with notices := notices }) ∧ (r' = .ok ⟨⟩ ↔ r = .ok ⟨⟩) := by
      unfold handle processTenantAccountsCollected
      unfold record at hexec
      dsimp only at hexec ⊢
      rw [exec_bind] at hexec ⊢
      rcases hread : exec (CloudAccountRepository.list (cloudAccounts.map Prod.fst)) w with ⟨err | accounts, w₁⟩
      · rw [hread] at hexec
        cases hexec
        exact ⟨.error err, w'.notices, rfl, Iff.rfl⟩
      · rw [hread] at hexec
        dsimp only at hexec ⊢
        rw [exec_bind]
        have hloop : exec ((unionDict cloudAccounts cloudAccountsFailed).forM (processCollected nextRun false)) w₁ =
          (r, w') := hexec
        rw [hloop]
        rcases r with err | u
        · exact ⟨.error err, w'.notices, rfl, Iff.rfl⟩
        · obtain ⟨notices, hannounce⟩ :=
            exec_announceCollected tenantId cloudAccounts cloudAccountsFailed nextRun accounts w'
          exact ⟨.ok ⟨⟩, notices, hannounce, Iff.rfl⟩
    obtain ⟨r', notices, hhandle, hok'⟩ := hhandle
    refine ⟨r', _, hhandle, ?_, hok'.trans hok⟩
    exact ⟨hrecorded.alike.trans (World.Alike.of_accounts rfl rfl rfl rfl rfl), hrecorded.readable, hrecorded.standing,
      hrecorded.degraded⟩

/-! ## Redelivery -/

/-- A delivery of an event, undisturbed or cut off after some accounts. -/
def delivery (e : CollectEvent) : Option Nat → Service PUnit
  | none => e.handle
  | some n => e.record (e.entries.take n)

/-- The world after some deliveries of an event; an exception ends the delivery it is raised in. -/
def deliveries (e : CollectEvent) (ds : List (Option Nat)) (w : World) : World :=
  ds.foldl (fun w d => (exec (e.delivery d) w).2) w

def recovered (standing : Standing) : Standing := standing.scanned false

theorem recovered_recovered (standing : Standing) : recovered (recovered standing) = recovered standing := by
  rcases standing with ⟨e | state, n⟩
  · rfl
  · cases state <;> rfl

/-- No entry that the handling of the event comes to is a failed scan. -/
def AllScanned (e : CollectEvent) (w : World) : Prop :=
  ∀ item ∈ e.reached w e.entries, item.2.scanFailed w.accountFailedResourceCount e.failed = false

/-- The accounts of a world after some deliveries without a failed scan: each is as it was, or recovered, and recovered
after an undisturbed delivery when it is reached. -/
structure Redelivered (e : CollectEvent) (whole : Bool) (w w' : World) : Prop where
  alike : w.Alike w'
  readable : ∀ x, w'.readable x = w.readable x
  standing : ∀ x, w'.standing x = w.standing x ∧
      (whole = true → x ∉ (e.reached w e.entries).map Prod.fst) ∨
    x ∈ (e.reached w e.entries).map Prod.fst ∧ w'.standing x = (w.standing x).map recovered

theorem reached_congr {w' : World} (hreadable : ∀ x, w'.readable x = w.readable x)
    (hstanding : ∀ x, w'.standing x = none ↔ w.standing x = none) (entries : List CollectEntry) :
    e.reached w' entries = e.reached w entries := by
  have hlistable : e.listable w' = e.listable w := by
    cases e with
    | collectFailed => rfl
    | collected tenantId cloudAccounts cloudAccountsFailed nextRun =>
      unfold listable
      have hnone : ∀ x, (w'.standing x).isNone = (w.standing x).isNone := by
        intro x
        rw [Bool.eq_iff_iff, Option.isNone_iff_eq_none, Option.isNone_iff_eq_none]
        exact hstanding x
      simp only [hnone, hreadable]
  unfold reached World.reaches
  simp only [hlistable, hreadable]

theorem mem_takeWhile_take {α : Type} {p : α → Bool} {a : α} (n : Nat) {l : List α}
    (h : a ∈ (l.take n).takeWhile p) : a ∈ l.takeWhile p := by
  obtain ⟨rest, hrest⟩ := List.take_prefix n l
  rw [← hrest, List.takeWhile_append]
  split
  · rename_i hwhole
    have heq : (l.take n).takeWhile p = l.take n :=
      (List.takeWhile_prefix p).eq_of_length hwhole
    rw [heq] at h
    exact List.mem_append_left _ h
  · exact h

theorem mem_reached_of_take (n : Nat) {item : CollectEntry} (h : item ∈ e.reached w (e.entries.take n)) :
    item ∈ e.reached w e.entries := by
  unfold reached at h ⊢
  split at h
  · rename_i hl
    rw [if_pos hl]
    exact mem_takeWhile_take n h
  · cases h

theorem delivery_recorded (hu : w.Unique) (hkeys : (e.entries.map Prod.fst).Nodup) (d : Option Nat) :
    ∃ entries, Recorded e.failed (e.reached w entries) w (exec (e.delivery d) w).2 ∧ (d = none → entries = e.entries) ∧
      ∀ item ∈ e.reached w entries, item ∈ e.reached w e.entries := by
  cases d with
  | none =>
    obtain ⟨r, w', hexec, hrecorded, -⟩ := handle_recorded hu hkeys
    refine ⟨e.entries, ?_, fun _ => rfl, fun _ h => h⟩
    unfold delivery
    rw [hexec]
    exact hrecorded
  | some n =>
    obtain ⟨r, w', hexec, hrecorded, -⟩ := record_recorded (e := e) hu
      (hkeys.sublist ((List.take_sublist n e.entries).map Prod.fst))
    refine ⟨e.entries.take n, ?_, fun h => (by cases h), fun _ => mem_reached_of_take n⟩
    unfold delivery
    rw [hexec]
    exact hrecorded

theorem scannedBy_eq {threshold : Int} {failed : Bool} {entries : List CollectEntry}
    (h : ∀ item ∈ entries, item.2.scanFailed threshold failed = false) (x : FixCloudAccountId) (standing : Standing) :
    scannedBy threshold failed entries x standing =
      if x ∈ entries.map Prod.fst then recovered standing else standing := by
  unfold scannedBy
  by_cases hx : x ∈ entries.map Prod.fst
  · rw [if_pos hx]
    cases hlookup : entries.lookup x with
    | none =>
      obtain ⟨p, hp, hpx⟩ := List.mem_map.1 hx
      have hne := List.lookup_eq_none_iff.1 hlookup p hp
      rw [hpx] at hne
      simp at hne
    | some info =>
      obtain ⟨l₁, l₂, hsplit, -⟩ := List.lookup_eq_some_iff.1 hlookup
      have hmem : (x, info) ∈ entries := by
        rw [hsplit]
        exact List.mem_append_right _ List.mem_cons_self
      dsimp only
      rw [h _ hmem]
      rfl
  · rw [if_neg hx, lookup_eq_none_of_notMem hx]

theorem Redelivered.step {w₀ : World} {whole : Bool} (hall : e.AllScanned w₀) (hu : w₀.Unique)
    (hkeys : (e.entries.map Prod.fst).Nodup) (h : e.Redelivered whole w₀ w) (d : Option Nat) :
    e.Redelivered d.isNone w₀ (exec (e.delivery d) w).2 := by
  obtain ⟨entries, hrecorded, hwhole, hsub⟩ := delivery_recorded (hu.of_alike h.alike) hkeys d
  have hnone : ∀ x, w.standing x = none ↔ w₀.standing x = none := by
    intro x
    rcases h.standing x with ⟨hx, -⟩ | ⟨-, hx⟩
    · rw [hx]
    · rw [hx, Option.map_eq_none_iff]
  have hreached : ∀ entries, e.reached w entries = e.reached w₀ entries := reached_congr h.readable hnone
  rw [hreached] at hrecorded hsub
  rw [hreached] at hsub
  have hscanned : ∀ item ∈ e.reached w₀ entries, item.2.scanFailed w.accountFailedResourceCount e.failed = false := by
    intro item hitem
    rw [h.alike.accountFailedResourceCount]
    exact hall item (hsub item hitem)
  refine ⟨h.alike.trans hrecorded.alike, fun x => (hrecorded.readable x).trans (h.readable x), fun x => ?_⟩
  rw [hrecorded.standing]
  by_cases hx : x ∈ (e.reached w₀ entries).map Prod.fst
  · right
    obtain ⟨item, hitem, rfl⟩ := List.mem_map.1 hx
    refine ⟨List.mem_map_of_mem (hsub item hitem), ?_⟩
    have hmap : (w.standing item.1).map
        (scannedBy w.accountFailedResourceCount e.failed (e.reached w₀ entries) item.1) =
        (w.standing item.1).map recovered := by
      refine congrArg (Option.map · _) (funext fun standing => ?_)
      rw [scannedBy_eq hscanned, if_pos hx]
    rw [hmap]
    rcases h.standing item.1 with ⟨hw, -⟩ | ⟨-, hw⟩
    · rw [hw]
    · rw [hw, Option.map_map]
      exact congrArg (Option.map · _) (funext recovered_recovered)
  · have hmap : (w.standing x).map (scannedBy w.accountFailedResourceCount e.failed (e.reached w₀ entries) x) =
        w.standing x := by
      have hid : scannedBy w.accountFailedResourceCount e.failed (e.reached w₀ entries) x = id :=
        funext fun standing => by rw [scannedBy_eq hscanned, if_neg hx, id]
      rw [hid, Option.map_id]
      rfl
    rw [hmap]
    rcases h.standing x with ⟨hw, -⟩ | hw
    · refine Or.inl ⟨hw, fun hd => ?_⟩
      rw [hwhole (Option.isNone_iff_eq_none.1 hd)] at hx
      exact hx
    · exact Or.inr hw

theorem deliveries_redelivered {w₀ : World} (hall : e.AllScanned w₀) (hu : w₀.Unique)
    (hkeys : (e.entries.map Prod.fst).Nodup) : ∀ (ds : List (Option Nat)) {whole : Bool} {w : World},
    e.Redelivered whole w₀ w → ∃ whole', e.Redelivered whole' w₀ (e.deliveries ds w)
  | [], whole, _, h => ⟨whole, h⟩
  | d :: ds, _, _, h => deliveries_redelivered hall hu hkeys ds (h.step hall hu hkeys d)

/-- After an undisturbed delivery the accounts are where every other undisturbed delivery takes them. -/
theorem Redelivered.standing_eq {w₀ w w' : World} (h : e.Redelivered true w₀ w) (h' : e.Redelivered true w₀ w')
    (x : FixCloudAccountId) : w.standing x = w'.standing x := by
  rcases h.standing x with ⟨hx, hout⟩ | ⟨hin, hx⟩
  · rcases h'.standing x with ⟨hx', -⟩ | ⟨hin, -⟩
    · rw [hx, hx']
    · exact absurd hin (hout rfl)
  · rcases h'.standing x with ⟨-, hout⟩ | ⟨-, hx'⟩
    · exact absurd hin (hout rfl)
    · rw [hx, hx']

theorem reached_sublist (entries : List CollectEntry) : (e.reached w entries).Sublist entries := by
  unfold reached
  split
  · exact List.takeWhile_sublist _
  · exact List.nil_sublist _

theorem reached_keys_nodup (hkeys : (e.entries.map Prod.fst).Nodup) : ((e.reached w e.entries).map Prod.fst).Nodup :=
  hkeys.sublist ((reached_sublist _).map Prod.fst)

theorem readable_of_reached {entries : List CollectEntry} {item : CollectEntry} (h : item ∈ e.reached w entries) :
    w.readable item.1 = true := by
  unfold reached at h
  split at h
  · exact List.mem_takeWhile_imp (p := fun item : CollectEntry => w.readable item.1) h
  · cases h

/-- **When redelivery is harmless**: exactly when no scan of the event that is come to failed. -/
theorem redelivery_harmless_iff (e : CollectEvent) (w : World) (hu : w.Unique) (hdict : e.Dictionaries) :
    (∀ ds x, (e.deliveries (ds ++ [none]) w).standing x = (e.deliveries [none] w).standing x) ↔ e.AllScanned w := by
  have hkeys := entries_nodup hdict
  constructor
  · intro h item hitem
    by_contra hfailed
    rw [Bool.not_eq_false] at hfailed
    obtain ⟨r, w₁, hexec, hfirst, -⟩ := handle_recorded hu hkeys
    obtain ⟨r', w₂, hexec', hsecond, -⟩ := handle_recorded (hu.of_alike hfirst.alike) hkeys
    have hone : e.deliveries [none] w = w₁ := congrArg Prod.snd hexec
    have htwo : e.deliveries ([none] ++ [none]) w = w₂ := by
      have h₁ : e.deliveries ([none] ++ [none]) w = (exec e.handle (exec e.handle w).2).2 := rfl
      rw [h₁, hexec]
      exact congrArg Prod.snd hexec'
    have hsame := h [none] item.1
    rw [hone, htwo] at hsame
    -- the second delivery comes to the failed scan again and counts it again
    have hagain : e.reached w₁ e.entries = e.reached w e.entries := reached_congr hfirst.readable hfirst.standing_none _
    have hlookup : (e.reached w e.entries).lookup item.1 = some item.2 :=
      lookup_eq_some_of_mem (reached_keys_nodup hkeys) hitem
    obtain ⟨state, n, hstanding⟩ := World.readable_iff.1 (readable_of_reached hitem)
    have hscanned : ∀ standing, scannedBy w.accountFailedResourceCount e.failed
        (e.reached w e.entries) item.1 standing =
        standing.scanned true := by
      intro standing
      unfold scannedBy
      rw [hlookup]
      dsimp only
      rw [hfailed]
    rw [hsecond.standing, hagain, hfirst.alike.accountFailedResourceCount, hfirst.standing, hstanding, Option.map_some,
      Option.map_some, hscanned, hscanned] at hsame
    have hcount : n + 1 + 1 = n + 1 := congrArg Prod.snd (Option.some.inj hsame)
    omega
  · intro hall ds x
    have hstart : e.Redelivered false w w :=
      ⟨World.Alike.refl w, fun _ => rfl, fun x => Or.inl ⟨rfl, fun h => (by cases h)⟩⟩
    obtain ⟨whole, hds⟩ := deliveries_redelivered hall hu hkeys ds hstart
    have hmany : e.Redelivered true w (e.deliveries (ds ++ [none]) w) := by
      unfold deliveries at hds ⊢
      rw [List.foldl_append]
      exact hds.step hall hu hkeys none
    have hone : e.Redelivered true w (e.deliveries [none] w) := hstart.step hall hu hkeys none
    exact hmany.standing_eq hone x

end CollectEvent

def configuredWorld : World :=
  { unnamedWorld with
    accounts := ⟨[.ofModel (newAccount 10 "111111111111" 1 .aws (.configured (.aws 2 "role") true true) none
      ⟨⟨2024, 1, 2, valid_january2⟩, 0, midnight_inDay⟩)], by decide⟩ }

theorem configuredWorld_unique : configuredWorld.Unique := by
  unfold World.Unique
  decide

/-- The collect of that account has found some resources, or failed. -/
def collectOf (scannedResources : Nat) : CollectEvent :=
  .collected 1
    [(10, ⟨"111111111111", scannedResources, 60, ⟨⟨2024, 1, 2, valid_january2⟩, 0, midnight_inDay⟩, none, []⟩)] [] none

def failedCollect : CollectEvent :=
  .collectFailed [(10, ⟨"111111111111", 0, 0, ⟨⟨2024, 1, 2, valid_january2⟩, 0, midnight_inDay⟩, none, []⟩)] none

namespace CollectEvent

theorem redelivery_harmless_iff_collect :
    (∀ ds x, ((collectOf 100).deliveries (ds ++ [none]) configuredWorld).standing x =
      ((collectOf 100).deliveries [none] configuredWorld).standing x) ↔ (collectOf 100).AllScanned configuredWorld :=
  redelivery_harmless_iff (collectOf 100) configuredWorld configuredWorld_unique ⟨by decide, by decide⟩

/-- The failed collect of one run is counted once for each delivery. -/
theorem failedCollect_counted_again :
    ¬∀ ds x, (failedCollect.deliveries (ds ++ [none]) configuredWorld).standing x =
      (failedCollect.deliveries [none] configuredWorld).standing x := by
  intro h
  have hcounts : some 2 = some 1 := congrArg (Option.map Prod.snd) (h [none] 10)
  exact absurd hcounts (by decide)

end CollectEvent

end Fix
