import FixBackend.Calendar
import FixBackend.Ids
import FixBackend.Table
/-!
# CloudCredentials — the credentials of the workspaces for two clouds

`GcpServiceAccountKeyRepository` and `AzureSubscriptionCredentialsRepository` of `fixbackend/cloud_accounts`.  Both keep
one row for each workspace, under the same operations; they differ in what an upload leaves of the row that it replaces.
The database keeps times exactly, and `now` is the time of the call, which is also its default for a new row.
-/
namespace Fix

open Calendar

namespace CloudCredentials

/-- A row of one of the two tables: the credential `ν` and what is known about its validity, `σ`. -/
structure Entity (ν σ : Type) where
  id : Uuid
  tenantId : WorkspaceId
  value : ν
  status : σ
  createdAt : DateTime
  updatedAt : DateTime
deriving DecidableEq

abbrev Entities (ν σ : Type) := Table (Entity.tenantId : Entity ν σ → WorkspaceId)

/-- What one of the repositories has of its own: the status of a new row, what an upload changes of a row, and what
`update_status` stores. -/
structure Repository (ν σ : Type) where
  unknown : σ
  change : ν → DateTime → Entity ν σ → Entity ν σ
  keepsTenant : ∀ value now e, (change value now e).tenantId = e.tenantId
  status : Bool → Option String → σ

section Operations

variable {ν σ : Type} [DecidableEq ν] [DecidableEq σ] (r : Repository ν σ)

/-- The update of a row, of which the database keeps the time when it changes something. -/
def touch (existing changed : Entity ν σ) (now : DateTime) : Entity ν σ :=
  if changed = existing then existing else { changed with updatedAt := now }

/-- `upsert`.  The model that it returns for a changed row was read before the database touched the row. -/
def Repository.upsert (tenantId : WorkspaceId) (value : ν) (now : DateTime) (uid : Uuid) (t : Entities ν σ) :
    Entity ν σ × Entities ν σ :=
  match t.find tenantId with
  | some existing => (r.change value now existing, t.replace (touch existing (r.change value now existing) now))
  | none =>
    let entity : Entity ν σ := ⟨uid, tenantId, value, r.unknown, now, now⟩
    (entity, t.put entity)

/-- `get`. -/
def getKey (keyId : Uuid) (t : Entities ν σ) : Option (Entity ν σ) := t.rows.find? fun e => decide (e.id = keyId)

def Repository.updateStatus (keyId : Uuid) (canAccess : Bool) (error : Option String) (now : DateTime)
    (t : Entities ν σ) : Except Err (Entity ν σ × Entities ν σ) :=
  match getKey keyId t with
  | none => .error (.resourceNotFound s!"Service account json with id {keyId} not found")
  | some e =>
    let changed := touch e { e with status := r.status canAccess error } now
    .ok (changed, t.replace changed)

/-- `delete`. -/
def deleteKey (keyId : Uuid) (t : Entities ν σ) : Entities ν σ :=
  match getKey keyId t with
  | none => t
  | some e => t.delete e.tenantId

/-- `list_created_after`, of the rows with a selected status. -/
def createdAfter (selected : σ → Bool) (time : DateTime) (t : Entities ν σ) : List (Entity ν σ) :=
  t.rows.filter fun e => decide (time < e.createdAt) && selected e.status

inductive Op (ν : Type) where
  | upsert (tenantId : WorkspaceId) (value : ν) (now : DateTime) (uid : Uuid)
  | updateStatus (keyId : Uuid) (canAccess : Bool) (error : Option String) (now : DateTime)
  | delete (keyId : Uuid)

/-- The rows after an operation; one that raises leaves them. -/
def Repository.apply (t : Entities ν σ) : Op ν → Entities ν σ
  | .upsert tenantId value now uid => (r.upsert tenantId value now uid t).2
  | .updateStatus keyId canAccess error now =>
    match r.updateStatus keyId canAccess error now t with
    | .ok (_, t') => t'
    | .error _ => t
  | .delete keyId => deleteKey keyId t

end Operations

/-! ## The two repositories -/

/-- `can_access_sa` and `error`. -/
structure GcpStatus where
  canAccessSa : Option Bool
  error : Option String
deriving DecidableEq

namespace GcpServiceAccountKeyRepository

def repository : Repository String GcpStatus where
  unknown := ⟨none, none⟩
  change value now e := { e with value := value, status := ⟨none, none⟩, createdAt := now }
  keepsTenant _ _ _ := rfl
  status canAccessSa error := ⟨some canAccessSa, error⟩

def upsert := repository.upsert
def updateStatus := repository.updateStatus

def listCreatedAfter (onlyValidKeys : Bool) (time : DateTime) (t : Entities String GcpStatus) :
    List (Entity String GcpStatus) :=
  createdAfter (fun status => !onlyValidKeys || status.canAccessSa != some false) time t

end GcpServiceAccountKeyRepository

structure AzureValue where
  azureTenantId : String
  clientId : String
  clientSecret : String
deriving DecidableEq

namespace AzureSubscriptionCredentialsRepository

/-- The status is `can_access_azure_account`; an upload leaves it, and the time of the creation. -/
def repository : Repository AzureValue (Option Bool) where
  unknown := none
  change value _ e := { e with value := value }
  keepsTenant _ _ _ := rfl
  status canAccessAccounts _ := some canAccessAccounts

def upsert := repository.upsert
def updateStatus (keyId : Uuid) (canAccessAccounts : Bool) := repository.updateStatus keyId canAccessAccounts none

def listCreatedAfter (time : DateTime) (t : Entities AzureValue (Option Bool)) :
    List (Entity AzureValue (Option Bool)) := createdAfter (fun _ => true) time t

end AzureSubscriptionCredentialsRepository

/-! ## New credentials -/

section PickedUp

variable {ν σ : Type} [DecidableEq ν] [DecidableEq σ]

/-- The half hour for which a new credential is pinged. -/
def pinged : Nat := 30 * 60 * 1000000

/-- An operation that neither replaces the credential of a workspace nor marks it invalid nor deletes it. -/
def Op.Leaves (tenantId : WorkspaceId) (id : Uuid) : Op ν → Prop
  | .upsert tenantId' _ _ _ => tenantId' ≠ tenantId
  | .updateStatus keyId canAccess _ _ => keyId = id → canAccess = true
  | .delete keyId => keyId ≠ id

/-- **A new credential is picked up**: nothing is known about it when it is uploaded, and for half an hour, whatever
happens besides, it is one of those created in the last half hour. -/
def PickedUp (r : Repository ν σ) (listed : DateTime → Entities ν σ → List (Entity ν σ)) (t : Entities ν σ)
    (tenantId : WorkspaceId) (value : ν) (now : DateTime) (uid : Uuid) : Prop :=
  ∃ e, (r.upsert tenantId value now uid t).2.find tenantId = some e ∧ e.value = value ∧ e.status = r.unknown ∧
    ∀ later : List (Op ν), (∀ op ∈ later, op.Leaves tenantId e.id) →
      ∀ s time : DateTime, s = time.addMicros pinged → now ≤ s → s < now.addMicros pinged →
        ∃ e' ∈ listed time (later.foldl r.apply (r.upsert tenantId value now uid t).2),
          e'.tenantId = tenantId ∧ e'.value = value

def Holds (selected : σ → Bool) (tenantId : WorkspaceId) (id : Uuid) (value : ν) (created : DateTime)
    (t : Entities ν σ) : Prop :=
  ∃ e, t.find tenantId = some e ∧ e.id = id ∧ e.value = value ∧ e.createdAt = created ∧ selected e.status = true

theorem touch_tenantId (existing changed : Entity ν σ) (now : DateTime) (h : changed.tenantId = existing.tenantId) :
    (touch existing changed now).tenantId = existing.tenantId := by
  unfold touch
  split_ifs
  · rfl
  · exact h

theorem touch_fields (existing changed : Entity ν σ) (now : DateTime) :
    (touch existing changed now).id = changed.id ∧ (touch existing changed now).value = changed.value ∧
      (touch existing changed now).status = changed.status ∧
      (touch existing changed now).createdAt = changed.createdAt := by
  unfold touch
  split_ifs with h
  · rw [h]
    exact ⟨rfl, rfl, rfl, rfl⟩
  · exact ⟨rfl, rfl, rfl, rfl⟩

variable (r : Repository ν σ)

theorem find_upsert_of_ne {tenantId tenantId' : WorkspaceId} (h : tenantId ≠ tenantId') (value : ν) (now : DateTime)
    (uid : Uuid) (t : Entities ν σ) : (r.upsert tenantId' value now uid t).2.find tenantId = t.find tenantId := by
  unfold Repository.upsert
  split
  · rename_i existing hexisting
    apply Table.find_replace_of_ne
    rw [touch_tenantId _ _ _ (r.keepsTenant _ _ _), Table.key_of_find hexisting]
    exact h
  · exact Table.find_put_of_ne _ h

omit [DecidableEq ν] [DecidableEq σ] in
theorem find_of_getKey {keyId : Uuid} {t : Entities ν σ} {x : Entity ν σ} (h : getKey keyId t = some x) :
    x.id = keyId ∧ t.find x.tenantId = some x := by
  have hid : x.id = keyId := by simpa using List.find?_some h
  exact ⟨hid, (t.find_eq_some_iff _ _).2 ⟨List.mem_of_find?_eq_some h, rfl⟩⟩

section Holds

variable {selected : σ → Bool} {tenantId : WorkspaceId} {id : Uuid} {value : ν} {created : DateTime} {t : Entities ν σ}

/-- A check that the credential is valid, or any check of another one, leaves it. -/
theorem holds_updateStatus (hvalid : ∀ error, selected (r.status true error) = true)
    (h : Holds selected tenantId id value created t) {keyId : Uuid} {canAccess : Bool}
    (hop : keyId = id → canAccess = true) (error : Option String) (now : DateTime) :
    Holds selected tenantId id value created (r.apply t (.updateStatus keyId canAccess error now)) := by
  obtain ⟨e, hfind, hid, hvalue, hcreated, hselected⟩ := h
  simp only [Repository.apply, Repository.updateStatus]
  cases hkey : getKey keyId t with
  | none => exact ⟨e, hfind, hid, hvalue, hcreated, hselected⟩
  | some x =>
    obtain ⟨hx, hxfind⟩ := find_of_getKey hkey
    let changed := touch x { x with status := r.status canAccess error } now
    have htenant : changed.tenantId = x.tenantId := touch_tenantId _ _ _ rfl
    by_cases hsame : tenantId = x.tenantId
    · -- The row is the one of the workspace, which is set to valid.
      subst hsame
      obtain rfl : x = e := Option.some.inj (hxfind.symm.trans hfind)
      obtain ⟨hid', hvalue', hstatus', hcreated'⟩ := touch_fields x { x with status := r.status canAccess error } now
      refine ⟨changed, ?_, hid'.trans hid, hvalue'.trans hvalue, hcreated'.trans hcreated, ?_⟩
      · have hreplaced := Table.find_replace_self (r := changed) (htenant ▸ hxfind)
        rwa [htenant] at hreplaced
      · rw [hstatus', hop (hx.symm.trans hid)]
        exact hvalid error
    · refine ⟨e, ?_, hid, hvalue, hcreated, hselected⟩
      exact (Table.find_replace_of_ne t (by rw [htenant]; exact hsame)).trans hfind

omit [DecidableEq ν] [DecidableEq σ] in
theorem holds_deleteKey (h : Holds selected tenantId id value created t) {keyId : Uuid} (hop : keyId ≠ id) :
    Holds selected tenantId id value created (deleteKey keyId t) := by
  obtain ⟨e, hfind, hid, hvalue, hcreated, hselected⟩ := h
  refine ⟨e, ?_, hid, hvalue, hcreated, hselected⟩
  unfold deleteKey
  cases hkey : getKey keyId t with
  | none => exact hfind
  | some x =>
    obtain ⟨hx, hxfind⟩ := find_of_getKey hkey
    obtain ⟨hemem, hetenant⟩ := (t.find_eq_some_iff _ _).1 hfind
    refine (Table.find_eq_some_iff _ _ _).2 ⟨Table.mem_delete.2 ⟨hemem, fun hsame => ?_⟩, hetenant⟩
    rw [← hetenant, hsame, hxfind] at hfind
    obtain rfl := Option.some.inj hfind
    exact hop (hx.symm.trans hid)

/-- An operation that leaves a credential leaves its row, but for a status that is set to valid. -/
theorem holds_apply (hvalid : ∀ error, selected (r.status true error) = true)
    (h : Holds selected tenantId id value created t) {op : Op ν} (hop : op.Leaves tenantId id) :
    Holds selected tenantId id value created (r.apply t op) := by
  cases op with
  | upsert tenantId' value' now uid =>
    obtain ⟨e, hfind, hid, hvalue, hcreated, hselected⟩ := h
    refine ⟨e, ?_, hid, hvalue, hcreated, hselected⟩
    exact (find_upsert_of_ne r (Ne.symm hop) value' now uid t).trans hfind
  | updateStatus keyId canAccess error now => exact holds_updateStatus r hvalid h hop error now
  | delete keyId => exact holds_deleteKey h hop

end Holds

theorem holds_foldl {selected : σ → Bool} (hvalid : ∀ error, selected (r.status true error) = true)
    {tenantId : WorkspaceId} {id : Uuid} {value : ν} {created : DateTime} (later : List (Op ν)) {t : Entities ν σ}
    (h : Holds selected tenantId id value created t) (hlater : ∀ op ∈ later, op.Leaves tenantId id) :
    Holds selected tenantId id value created (later.foldl r.apply t) := by
  induction later generalizing t with
  | nil => exact h
  | cons op later ih =>
    apply ih (holds_apply r hvalid h (hlater op List.mem_cons_self))
    exact fun op' hop' => hlater op' (List.mem_cons_of_mem _ hop')

omit [DecidableEq ν] [DecidableEq σ] in
theorem mem_createdAfter {selected : σ → Bool} {tenantId : WorkspaceId} {id : Uuid} {value : ν} {created : DateTime}
    {t : Entities ν σ} (h : Holds selected tenantId id value created t) {time : DateTime} (htime : time < created) :
    ∃ e ∈ createdAfter selected time t, e.tenantId = tenantId ∧ e.value = value := by
  obtain ⟨e, hfind, -, hvalue, rfl, hselected⟩ := h
  refine ⟨e, List.mem_filter.2 ⟨Table.mem_of_find hfind, ?_⟩, Table.key_of_find hfind, hvalue⟩
  rw [decide_eq_true htime, hselected]
  rfl

variable {t : Entities ν σ} {tenantId : WorkspaceId} {value : ν} {now : DateTime} {uid : Uuid}

theorem find_upsert_new (h : t.find tenantId = none) :
    (r.upsert tenantId value now uid t).2.find tenantId = some ⟨uid, tenantId, value, r.unknown, now, now⟩ := by
  unfold Repository.upsert
  rw [h]
  exact Table.find_put_self t (⟨uid, tenantId, value, r.unknown, now, now⟩ : Entity ν σ)

theorem find_upsert_old {existing : Entity ν σ} (h : t.find tenantId = some existing) :
    (r.upsert tenantId value now uid t).2.find tenantId = some (touch existing (r.change value now existing) now) := by
  unfold Repository.upsert
  rw [h]
  have htenant : (touch existing (r.change value now existing) now).tenantId = tenantId :=
    (touch_tenantId _ _ _ (r.keepsTenant _ _ _)).trans (Table.key_of_find h)
  have hreplaced := Table.find_replace_self (r := touch existing (r.change value now existing) now) (htenant ▸ h)
  rwa [htenant] at hreplaced

theorem pickedUp_of_fresh {selected : σ → Bool} (hunknown : selected r.unknown = true)
    (hvalid : ∀ error, selected (r.status true error) = true) {e : Entity ν σ}
    (hfind : (r.upsert tenantId value now uid t).2.find tenantId = some e) (hvalue : e.value = value)
    (hstatus : e.status = r.unknown) (hcreated : now ≤ e.createdAt) :
    PickedUp r (createdAfter selected) t tenantId value now uid := by
  refine ⟨e, hfind, hvalue, hstatus, fun later hlater s time hs _ hbefore => ?_⟩
  have hholds : Holds selected tenantId e.id value e.createdAt (r.upsert tenantId value now uid t).2 :=
    ⟨e, hfind, rfl, hvalue, rfl, hstatus ▸ hunknown⟩
  apply mem_createdAfter (holds_foldl r hvalid later hholds hlater)
  subst hs
  simp only [DateTime.lt_def, DateTime.le_def, DateTime.toMicros_addMicros] at hbefore hcreated ⊢
  omega

end PickedUp

/-! ## The two clouds -/

theorem gcp_pickedUp (onlyValidKeys : Bool) (t : Entities String GcpStatus) (tenantId : WorkspaceId) (value : String)
    (now : DateTime) (uid : Uuid) :
    PickedUp GcpServiceAccountKeyRepository.repository (GcpServiceAccountKeyRepository.listCreatedAfter onlyValidKeys) t
      tenantId value now uid := by
  have hunknown : (!onlyValidKeys || (none : Option Bool) != some false) = true := by
    cases onlyValidKeys <;> rfl
  have hvalid : (!onlyValidKeys || some true != some false) = true := by
    cases onlyValidKeys <;> rfl
  cases h : t.find tenantId with
  | none => exact pickedUp_of_fresh _ hunknown (fun _ => hvalid) (find_upsert_new _ h) rfl rfl (Nat.le_refl _)
  | some existing =>
    obtain ⟨-, hvalue, hstatus, hcreated⟩ :=
      touch_fields existing (GcpServiceAccountKeyRepository.repository.change value now existing) now
    exact pickedUp_of_fresh _ hunknown (fun _ => hvalid) (find_upsert_old _ h) hvalue hstatus
      (hcreated ▸ Nat.le_refl now.toMicros)

/-- An upload that replaces no row, or one as new as itself whose validity is not known. -/
def NothingOld (t : Entities AzureValue (Option Bool)) (tenantId : WorkspaceId) (now : DateTime) : Prop :=
  ∀ e, t.find tenantId = some e → e.status = none ∧ now ≤ e.createdAt

theorem azure_pickedUp {t : Entities AzureValue (Option Bool)} {tenantId : WorkspaceId} {now : DateTime}
    (h : NothingOld t tenantId now) (value : AzureValue) (uid : Uuid) :
    PickedUp AzureSubscriptionCredentialsRepository.repository AzureSubscriptionCredentialsRepository.listCreatedAfter t
      tenantId value now uid := by
  cases hfind : t.find tenantId with
  | none => exact pickedUp_of_fresh _ rfl (fun _ => rfl) (find_upsert_new _ hfind) rfl rfl (Nat.le_refl _)
  | some existing =>
    obtain ⟨hnone, hnew⟩ := h existing hfind
    obtain ⟨-, hvalue, hstatus, hcreated⟩ :=
      touch_fields existing (AzureSubscriptionCredentialsRepository.repository.change value now existing) now
    exact pickedUp_of_fresh _ rfl (fun _ => rfl) (find_upsert_old _ hfind) hvalue (hstatus.trans hnone)
      (hcreated.symm ▸ hnew)

theorem nothingOld_of_pickedUp {t : Entities AzureValue (Option Bool)} {tenantId : WorkspaceId} {value : AzureValue}
    {now : DateTime} {uid : Uuid}
    (h : PickedUp AzureSubscriptionCredentialsRepository.repository
      AzureSubscriptionCredentialsRepository.listCreatedAfter t tenantId value now uid) :
    NothingOld t tenantId now := by
  intro existing hexisting
  obtain ⟨e, hfind, -, hstatus, hlisted⟩ := h
  obtain ⟨-, -, hkept, hcreated⟩ :=
    touch_fields existing (AzureSubscriptionCredentialsRepository.repository.change value now existing) now
  rw [find_upsert_old _ hexisting] at hfind
  obtain rfl := Option.some.inj hfind
  refine ⟨hkept.symm.trans hstatus, ?_⟩
  by_contra hold
  -- The last instant before the call, half an hour later.
  let time := existing.createdAt.addMicros (now.toMicros - existing.createdAt.toMicros - 1)
  simp only [DateTime.le_def, not_le] at hold
  have htime : time.toMicros = now.toMicros - 1 := by
    simp only [time, DateTime.toMicros_addMicros]
    omega
  obtain ⟨e', he', htenant, -⟩ := hlisted [] (fun _ hop => nomatch hop) _ time rfl
    (by simp only [DateTime.le_def, DateTime.toMicros_addMicros, htime, pinged]; omega)
    (by simp only [DateTime.lt_def, DateTime.toMicros_addMicros, htime, pinged]; omega)
  obtain ⟨hmem, hafter⟩ := List.mem_filter.1 he'
  have hfind' := (Table.find_eq_some_iff _ _ _).2 ⟨hmem, htenant⟩
  rw [List.foldl_nil, find_upsert_old _ hexisting] at hfind'
  obtain rfl := Option.some.inj hfind'
  rw [Bool.and_eq_true, decide_eq_true_eq, hcreated] at hafter
  have hlate : time < existing.createdAt := hafter.1
  simp only [DateTime.lt_def, htime] at hlate
  omega

/-- **New credentials are picked up**: after any history for GCP, and for Azure exactly when the upload replaces no row,
or one as new as itself whose validity is not known. -/
theorem newCredentials_pickedUp_iff (onlyValidKeys : Bool) (gcp : List (Op String)) (azure : List (Op AzureValue))
    (tenantId : WorkspaceId) (serviceAccountKey : String) (principal : AzureValue) (now : DateTime) (uid : Uuid) :
    PickedUp GcpServiceAccountKeyRepository.repository (GcpServiceAccountKeyRepository.listCreatedAfter onlyValidKeys)
        (gcp.foldl GcpServiceAccountKeyRepository.repository.apply default) tenantId serviceAccountKey now uid ∧
      (PickedUp AzureSubscriptionCredentialsRepository.repository
          AzureSubscriptionCredentialsRepository.listCreatedAfter
          (azure.foldl AzureSubscriptionCredentialsRepository.repository.apply default) tenantId principal now uid ↔
        NothingOld (azure.foldl AzureSubscriptionCredentialsRepository.repository.apply default) tenantId now) :=
  ⟨gcp_pickedUp onlyValidKeys _ tenantId serviceAccountKey now uid,
    nothingOld_of_pickedUp, fun h => azure_pickedUp h principal uid⟩

def firstUpload : DateTime := (⟨2024, 6, 1, by decide⟩ : Date).atHour 9

def secondUpload : DateTime := (⟨2024, 6, 2, by decide⟩ : Date).atHour 9

def invalidCredential : List (Op AzureValue) :=
  [.upsert 1 ⟨"tenant", "client", "wrong"⟩ firstUpload 71, .updateStatus 71 false none firstUpload]

/-- The second upload of a workspace is not picked up. -/
theorem azureUpload_not_pickedUp :
    ¬PickedUp AzureSubscriptionCredentialsRepository.repository AzureSubscriptionCredentialsRepository.listCreatedAfter
      (invalidCredential.foldl AzureSubscriptionCredentialsRepository.repository.apply default) 1
      ⟨"tenant", "client", "secret"⟩ secondUpload 72 := by
  intro h
  have hfind : (invalidCredential.foldl AzureSubscriptionCredentialsRepository.repository.apply default).find 1 =
      some ⟨71, 1, ⟨"tenant", "client", "wrong"⟩, some false, firstUpload, firstUpload⟩ := by decide +kernel
  obtain ⟨hstatus, -⟩ := nothingOld_of_pickedUp h _ hfind
  cases hstatus

end CloudCredentials

end Fix
