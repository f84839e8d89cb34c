import FixBackend.ApiTokens
import FixBackend.Machine
import FixBackend.Texts
/-!
# ApiTokenStore — API tokens from their creation to their deletion

`ApiTokenService` over the table `api_token`.  The text of a token is shown once; the table keeps a hash of it, which is
made anew when the scheme of the hashes changes.
-/
namespace Fix

open Calendar Effects Machine Texts

/-- The context of `passlib`.  The hash of a text depends on a salt. -/
structure CryptContext (Hash : Type) where
  hash : Nat → String → Hash
  /-- Whether the text is the one of the hash, and the hash to keep instead. -/
  verifyAndUpdate : String → Hash → Bool × Option Hash
  verify_hash : ∀ salt token text, token.toList.length = 68 → text.toList.length = 68 →
    ((verifyAndUpdate text (hash salt token)).1 = true ↔ text = token)
  verify_updated : ∀ token old new, verifyAndUpdate token old = (true, some new) →
    ∀ text, (verifyAndUpdate text new).1 = (verifyAndUpdate text old).1

/-! ## The table -/

structure ApiTokenEntity (Hash : Type) where
  id : Uuid
  name : String
  hash : Hash
  userId : UserId
  workspaceId : Option WorkspaceId
  permission : Option Int
  lastUsedAt : Option DateTime

variable {Hash : Type}

def ApiTokenEntity.toModel (row : ApiTokenEntity Hash) : ApiToken :=
  ⟨row.id, row.name, row.userId, row.workspaceId, row.permission⟩

/-- The hash and the time, each of which stays if there is none to take its place. -/
def ApiTokenEntity.touched (hash : Option Hash) (lastUsedAt : Option DateTime) (row : ApiTokenEntity Hash) :
    ApiTokenEntity Hash :=
  { row with hash := hash.getD row.hash, lastUsedAt := lastUsedAt.or row.lastUsedAt }

structure ApiTokenTable (Hash : Type) where
  table : Table (@ApiTokenEntity.id Hash)
  /-- `unique_user_token_name` -/
  names : (table.rows.map fun row => (row.userId, row.name)).Nodup

namespace ApiTokenTable

def empty : ApiTokenTable Hash := ⟨default, List.nodup_nil⟩

/-- `none` where one of the constraints is violated. -/
def add (t : ApiTokenTable Hash) (row : ApiTokenEntity Hash) : Option (ApiTokenTable Hash) :=
  if h : t.table.find row.id = none ∧ (row.userId, row.name) ∉ t.table.rows.map fun row => (row.userId, row.name) then
    some
      { table := t.table.insert row h.1
        names := by
          unfold Table.insert
          rw [List.map_append, List.map_singleton, List.nodup_append]
          refine ⟨t.names, List.nodup_singleton _, fun a ha b hb hab => h.2 ?_⟩
          rw [List.mem_singleton.1 hb] at hab
          exact hab ▸ ha }
  else none

def touch (t : ApiTokenTable Hash) (id : Uuid) (hash : Option Hash) (lastUsedAt : Option DateTime) :
    ApiTokenTable Hash where
  table := t.table.updateWhere (fun row => decide (row.id = id)) (.touched hash lastUsedAt) fun _ => rfl
  names := by
    have hname : ∀ row : ApiTokenEntity Hash, (fun row : ApiTokenEntity Hash => (row.userId, row.name))
        (if decide (row.id = id) then row.touched hash lastUsedAt else row) = (row.userId, row.name) := by
      intro row
      split <;> rfl
    unfold Table.updateWhere
    rw [Table.map_key_map hname]
    exact t.names

def delete (t : ApiTokenTable Hash) (id : Uuid) : ApiTokenTable Hash where
  table := t.table.delete id
  names := t.names.sublist (List.filter_sublist.map _)

end ApiTokenTable

/-! ## The service -/

namespace ApiTokenService

/-- What `_create_token` draws, and the salt of the hash. -/
structure Drawn where
  tokenId : Uuid
  tokenId_lt : tokenId < 2 ^ 128
  password : Nat
  salt : Nat

def Drawn.token (d : Drawn) : String :=
  String.ofList (['f', 'i', 'x', '_'] ++ writeDigits 16 32 d.tokenId ++ writeDigits 16 32 d.password)

abbrev Service (Hash : Type) := Call LoginErr (ApiTokenTable Hash)

section Calls

variable (crypt : CryptContext Hash)

/-- The time is the one of the use that is to be stored, if there is one. -/
def getUserToken (lastUsedAt : Option DateTime) (apiToken : String) : Service Hash ApiToken := do
  let cs := apiToken.toList
  if cs.length ≠ 68 ∨ cs.take 4 ≠ ['f', 'i', 'x', '_'] then throw (.notAllowed "Invalid token")
  else
    match uuidOfHex ((cs.drop 4).take 32) with
    | none => throw .valueError
    | some tokenId =>
      let t ← get
      match t.table.find tokenId with
      | none => throw (.notAllowed "Invalid token")
      | some row =>
        let verified := crypt.verifyAndUpdate apiToken row.hash
        if verified.1 then
          set (t.touch tokenId verified.2 lastUsedAt)
          return row.toModel
        else throw (.notAllowed "Invalid token")

/-- `workspaces` are those of `list_workspaces`. -/
def createToken (workspaces : List WorkspaceId) (userId : UserId) (name : String) (permission : Option Int)
    (workspaceId : Option WorkspaceId) (d : Drawn) : Service Hash (ApiToken × String) := do
  if workspaceId.any fun id => decide (id ∉ workspaces) then
    throw (.assertionError "User is not a member of the workspace")
  else
    let row : ApiTokenEntity Hash := ⟨d.tokenId, name, crypt.hash d.salt d.token, userId, workspaceId, permission, none⟩
    match (← get).add row with
    | none => throw (.assertionError "Token name already exists")
    | some t =>
      set t
      return (row.toModel, d.token)

def tokenInfo (userId : UserId) (apiTokenName apiToken : Option String) : Service Hash (Option ApiToken) :=
  match truthy apiToken with
  | some apiToken => do
    let result ← getUserToken crypt none apiToken
    return if result.userId = userId then some result else none
  | none =>
    match truthy apiTokenName with
    | some name => do
      let t ← get
      return (t.table.rows.find? fun row => decide (row.name = name ∧ row.userId = userId)).map (·.toModel)
    | none => return none

def deleteToken (userId : UserId) (apiTokenName apiToken : Option String) : Service Hash PUnit := do
  match ← tokenInfo crypt userId apiTokenName apiToken with
  | some info => modify (·.delete info.id)
  | none => return ()

def listTokens (t : ApiTokenTable Hash) (userId : UserId) : List ApiToken :=
  (t.table.rows.filter fun row => decide (row.userId = userId)).map (·.toModel)

def login (lifetimeSeconds : Option Nat) (access : AccessStore) (now : DateTime) (apiToken : String) :
    Service Hash SessionToken := do
  let tkn ← getUserToken crypt (some now) apiToken
  lift (loginAs lifetimeSeconds access now tkn)

/-! ## Runs -/

inductive Action where
  | creates (workspaces : List WorkspaceId) (userId : UserId) (name : String) (permission : Option Int)
    (workspaceId : Option WorkspaceId) (d : Drawn)
  | asks (userId : UserId) (apiTokenName apiToken : Option String)
  | deletes (userId : UserId) (apiTokenName apiToken : Option String)
  | logsIn (access : AccessStore) (now : DateTime) (apiToken : String)

def step (lifetimeSeconds : Option Nat) (t : ApiTokenTable Hash) : Action → Option (ApiTokenTable Hash)
  | .creates workspaces userId name permission workspaceId d =>
    some (exec (createToken crypt workspaces userId name permission workspaceId d) t).2
  | .asks userId apiTokenName apiToken => some (exec (tokenInfo crypt userId apiTokenName apiToken) t).2
  | .deletes userId apiTokenName apiToken => some (exec (deleteToken crypt userId apiTokenName apiToken) t).2
  | .logsIn access now apiToken => some (exec (login crypt lifetimeSeconds access now apiToken) t).2

/-- The text is accepted, as the token. -/
def Opens (t : ApiTokenTable Hash) (apiToken : String) (tkn : ApiToken) : Prop :=
  (exec (getUserToken crypt none apiToken) t).1 = .ok tkn

/-- The action returns the token with its text. -/
def Issues (t : ApiTokenTable Hash) (apiToken : String) (tkn : ApiToken) : Action → Prop
  | .creates workspaces userId name permission workspaceId d =>
    (exec (createToken crypt workspaces userId name permission workspaceId d) t).1 = .ok (tkn, apiToken)
  | _ => False

end Calls

def Revokes (apiToken : String) (tkn : ApiToken) : Action → Prop
  | .deletes userId apiTokenName byText => userId = tkn.userId ∧
    match truthy byText with
    | some text => text = apiToken
    | none => truthy apiTokenName = some tkn.name
  | _ => False

/-! ## Texts of tokens -/

/-- A character of the number: a hexadecimal digit in ASCII and nothing else. -/
structure IsDigit (c : Char) (d : Nat) : Prop where
  digit : hexDigit c = some d
  ascii : asciiDigit c = c
  blank : isBlank c = false
  other : c ≠ '_' ∧ c ≠ '+' ∧ c ≠ 'x' ∧ c ≠ 'X'

instance (c : Char) (d : Nat) : Decidable (IsDigit c d) :=
  decidable_of_iff (hexDigit c = some d ∧ asciiDigit c = c ∧ isBlank c = false ∧ c ≠ '_' ∧ c ≠ '+' ∧ c ≠ 'x' ∧ c ≠ 'X')
    ⟨fun h => ⟨h.1, h.2.1, h.2.2.1, h.2.2.2⟩, fun h => ⟨h.digit, h.ascii, h.blank, h.other⟩⟩

theorem isDigit_digitChar {d : Nat} (h : d < 16) : IsDigit d.digitChar d := by
  have hall : ∀ d : Fin 16, IsDigit (Nat.digitChar d) d.val := by decide
  exact hall ⟨d, h⟩

theorem readHexDigits_digitChar : ∀ (ds : List Nat) (n : Nat), (∀ d ∈ ds, d < 16) →
    readHexDigits n (ds.map Nat.digitChar) = some (ds.foldl (fun n d => n * 16 + d) n)
  | [], _, _ => rfl
  | d :: ds, n, hds => by
    have hdigit := isDigit_digitChar (hds d List.mem_cons_self)
    rw [List.map_cons, List.foldl_cons, readHexDigits.eq_3 _ _ _ fun c cs h _ => hdigit.other.1 h, hdigit.digit,
      Option.bind_some, Nat.mul_comm 16 n]
    exact readHexDigits_digitChar ds _ fun x hx => hds x (List.mem_cons_of_mem _ hx)

theorem stripBlanks_eq {cs : List Char} (h : ∀ c ∈ cs, isBlank c = false) : stripBlanks cs = cs := by
  have hdrop : ∀ cs : List Char, (∀ c ∈ cs, isBlank c = false) → cs.dropWhile isBlank = cs := by
    intro cs hcs
    cases cs with
    | nil => rfl
    | cons c cs => rw [List.dropWhile_cons_of_neg (Bool.eq_false_iff.1 (hcs c List.mem_cons_self))]
  unfold stripBlanks
  rw [hdrop cs h, hdrop cs.reverse fun c hc => h c (List.mem_reverse.1 hc), List.reverse_reverse]

theorem withoutSign_eq {cs : List Char} (h : ∀ c ∈ cs, c ≠ '+') : withoutSign cs = cs := by
  unfold withoutSign
  split
  · exact absurd rfl (h _ List.mem_cons_self)
  · rfl

theorem withoutPrefix_eq {cs : List Char} (h : ∀ c ∈ cs, c ≠ 'x' ∧ c ≠ 'X') : withoutPrefix cs = cs := by
  have hsecond : ∀ {a b : Char} {cs}, (∀ c ∈ a :: b :: cs, c ≠ 'x' ∧ c ≠ 'X') → b ≠ 'x' ∧ b ≠ 'X' := fun h =>
    h _ (List.mem_cons_of_mem _ List.mem_cons_self)
  unfold withoutPrefix
  split
  · exact absurd rfl (hsecond h).1
  · exact absurd rfl (hsecond h).2
  · exact absurd rfl (hsecond h).1
  · exact absurd rfl (hsecond h).2
  · rfl

theorem intOfHex_digitChar {d : Nat} {ds : List Nat} (hds : ∀ x ∈ d :: ds, x < 16) :
    intOfHex ((d :: ds).map Nat.digitChar) = some (ds.foldl (fun n d => n * 16 + d) d) := by
  have hdigit : ∀ c ∈ (d :: ds).map Nat.digitChar, ∃ x, IsDigit c x := by
    intro c hc
    obtain ⟨x, hx, rfl⟩ := List.mem_map.1 hc
    exact ⟨x, isDigit_digitChar (hds x hx)⟩
  have hstrip := stripBlanks_eq fun c hc => (hdigit c hc).elim fun _ h => h.blank
  have hascii : ((d :: ds).map Nat.digitChar).map asciiDigit = (d :: ds).map Nat.digitChar := by
    conv_rhs => rw [← List.map_id ((d :: ds).map Nat.digitChar)]
    exact List.map_congr_left fun c hc => (hdigit c hc).elim fun _ h => h.ascii
  have hsign := withoutSign_eq fun c hc => (hdigit c hc).elim fun _ h => h.other.2.1
  have hprefix := withoutPrefix_eq fun c hc => (hdigit c hc).elim fun _ h => h.other.2.2
  unfold intOfHex
  rw [hstrip, hascii, hsign, hprefix, List.map_cons]
  dsimp only
  rw [(isDigit_digitChar (hds d List.mem_cons_self)).digit]
  exact readHexDigits_digitChar ds d fun x hx => hds x (List.mem_cons_of_mem _ hx)

theorem uuidOfHex_writeDigits {n : Nat} (h : n < 2 ^ 128) : uuidOfHex (writeDigits 16 32 n) = some n := by
  have hwidth : n < 16 ^ 32 := h
  have hread := ofDigits_digits hwidth
  have hlt : ∀ d ∈ digits 16 32 n, d < 16 := fun d hd => digits_lt (by decide) hd
  have hlength := length_digits 16 32 n
  unfold ofDigits at hread
  unfold uuidOfHex writeDigits
  cases hds : digits 16 32 n with
  | nil =>
    rw [hds] at hlength
    cases hlength
  | cons d ds =>
    rw [hds] at hread hlt
    rw [intOfHex_digitChar hlt, ← hread, List.foldl_cons, Nat.zero_mul, Nat.zero_add]

theorem toList_token (d : Drawn) :
    d.token.toList = ['f', 'i', 'x', '_'] ++ (writeDigits 16 32 d.tokenId ++ writeDigits 16 32 d.password) := by
  unfold Drawn.token
  rw [String.toList_ofList, List.append_assoc]

theorem length_token (d : Drawn) : d.token.toList.length = 68 := by
  rw [toList_token, List.length_append, List.length_append, length_writeDigits, length_writeDigits]
  decide

theorem take_token (d : Drawn) : d.token.toList.take 4 = ['f', 'i', 'x', '_'] := by
  rw [toList_token, List.take_left' (by decide)]

theorem uuidOfHex_token (d : Drawn) : uuidOfHex ((d.token.toList.drop 4).take 32) = some d.tokenId := by
  rw [toList_token, List.drop_left' (by decide), List.take_left' (length_writeDigits 16 32 d.tokenId),
    uuidOfHex_writeDigits d.tokenId_lt]

section Lives

variable {crypt : CryptContext Hash}

/-! ## Which text a row is for -/

variable (crypt) in
/-- The text is the one that the row was made with. -/
def IsFor (row : ApiTokenEntity Hash) (apiToken : String) : Prop :=
  ∃ d : Drawn, d.tokenId = row.id ∧ apiToken = d.token ∧ ∀ text : String, text.toList.length = 68 →
    ((crypt.verifyAndUpdate text row.hash).1 = true ↔ text = d.token)

variable {t t' : ApiTokenTable Hash} {row : ApiTokenEntity Hash} {apiToken : String} {tkn : ApiToken}

theorem IsFor.eq {other : String} (h : IsFor crypt row apiToken) (hother : IsFor crypt row other) :
    apiToken = other := by
  obtain ⟨d, -, rfl, hd⟩ := h
  obtain ⟨d', -, rfl, hd'⟩ := hother
  exact (hd' d.token (length_token d)).1 ((hd d.token (length_token d)).2 rfl)

theorem isFor_touched {text : String} {updated : Option Hash}
    (h : crypt.verifyAndUpdate text row.hash = (true, updated))
    (lastUsedAt : Option DateTime) : IsFor crypt (row.touched updated lastUsedAt) apiToken ↔
      IsFor crypt row apiToken := by
  cases updated with
  | none => rfl
  | some new =>
    have hsame := crypt.verify_updated text row.hash new h
    unfold IsFor ApiTokenEntity.touched
    dsimp only [Option.getD_some]
    simp only [hsame]

variable (crypt) in
def Inv (t : ApiTokenTable Hash) : Prop := ∀ row ∈ t.table.rows, ∃ apiToken, IsFor crypt row apiToken

variable (crypt) in
def Holds (t : ApiTokenTable Hash) (apiToken : String) (tkn : ApiToken) : Prop :=
  ∃ row ∈ t.table.rows, IsFor crypt row apiToken ∧ row.toModel = tkn

theorem Holds.id_eq_iff {other : String} {tkn' : ApiToken} (h : Holds crypt t apiToken tkn)
    (h' : Holds crypt t other tkn') : tkn.id = tkn'.id ↔ apiToken = other := by
  obtain ⟨row, hrow, hfor, rfl⟩ := h
  obtain ⟨row', hrow', hfor', rfl⟩ := h'
  constructor
  · intro hid
    cases List.inj_on_of_nodup_map t.table.unique hrow hrow' hid
    exact hfor.eq hfor'
  · rintro rfl
    obtain ⟨d, hd, heq, -⟩ := hfor
    obtain ⟨d', hd', heq', -⟩ := hfor'
    have hid := uuidOfHex_token d
    rw [← heq, heq', uuidOfHex_token d', Option.some.injEq] at hid
    exact (hd.symm.trans hid.symm).trans hd'

theorem Holds.eq {tkn' : ApiToken} (h : Holds crypt t apiToken tkn) (h' : Holds crypt t apiToken tkn') :
    tkn = tkn' := by
  have hid := (h.id_eq_iff h').2 rfl
  obtain ⟨row, hrow, -, rfl⟩ := h
  obtain ⟨row', hrow', -, rfl⟩ := h'
  cases List.inj_on_of_nodup_map t.table.unique hrow hrow' hid
  rfl

variable (crypt) in
def Refreshed (t t' : ApiTokenTable Hash) : Prop :=
  ∃ f : ApiTokenEntity Hash → ApiTokenEntity Hash, t'.table.rows = t.table.rows.map f ∧
    ∀ row ∈ t.table.rows, (f row).toModel = row.toModel ∧ ∀ apiToken, IsFor crypt (f row) apiToken ↔
      IsFor crypt row apiToken

theorem Refreshed.refl (t : ApiTokenTable Hash) : Refreshed crypt t t :=
  ⟨id, (List.map_id _).symm, fun _ _ => ⟨rfl, fun _ => Iff.rfl⟩⟩

theorem Refreshed.holds_iff (h : Refreshed crypt t t') : Holds crypt t' apiToken tkn ↔ Holds crypt t apiToken tkn := by
  obtain ⟨f, hrows, hf⟩ := h
  unfold Holds
  rw [hrows]
  constructor
  · rintro ⟨row', hrow', hfor, hmodel⟩
    obtain ⟨row, hrow, rfl⟩ := List.mem_map.1 hrow'
    exact ⟨row, hrow, ((hf row hrow).2 apiToken).1 hfor, (hf row hrow).1 ▸ hmodel⟩
  · rintro ⟨row, hrow, hfor, hmodel⟩
    exact ⟨f row, List.mem_map_of_mem hrow, ((hf row hrow).2 apiToken).2 hfor, (hf row hrow).1.trans hmodel⟩

theorem Refreshed.inv (h : Refreshed crypt t t') (ht : Inv crypt t) : Inv crypt t' := by
  obtain ⟨f, hrows, hf⟩ := h
  intro row' hrow'
  rw [hrows] at hrow'
  obtain ⟨row, hrow, rfl⟩ := List.mem_map.1 hrow'
  obtain ⟨apiToken, hfor⟩ := ht row hrow
  exact ⟨apiToken, ((hf row hrow).2 apiToken).2 hfor⟩

theorem refreshed_touch {text : String} {updated : Option Hash} (hrow : row ∈ t.table.rows)
    (h : crypt.verifyAndUpdate text row.hash = (true, updated)) (lastUsedAt : Option DateTime) :
    Refreshed crypt t (t.touch row.id updated lastUsedAt) := by
  refine ⟨_, rfl, fun other hother => ?_⟩
  dsimp only
  split
  · rename_i hid
    cases List.inj_on_of_nodup_map t.table.unique hother hrow (of_decide_eq_true hid)
    exact ⟨rfl, fun apiToken => isFor_touched h lastUsedAt⟩
  · exact ⟨rfl, fun _ => Iff.rfl⟩

theorem holds_delete (id : Uuid) : Holds crypt (t.delete id) apiToken tkn ↔ Holds crypt t apiToken tkn ∧
    tkn.id ≠ id := by
  constructor
  · rintro ⟨row, hrow, hfor, rfl⟩
    obtain ⟨hmem, hid⟩ := Table.mem_delete.1 hrow
    exact ⟨⟨row, hmem, hfor, rfl⟩, hid⟩
  · rintro ⟨⟨row, hrow, hfor, rfl⟩, hid⟩
    exact ⟨row, Table.mem_delete.2 ⟨hrow, hid⟩, hfor, rfl⟩

/-! ## What the calls do -/

theorem exec_getUserToken (ht : Inv crypt t) (lastUsedAt : Option DateTime) (apiToken : String) :
    (∃ e, exec (getUserToken crypt lastUsedAt apiToken) t = (.error e, t) ∧ ∀ tkn, ¬Holds crypt t apiToken tkn) ∨
      ∃ tkn t', exec (getUserToken crypt lastUsedAt apiToken) t = (.ok tkn, t') ∧ Holds crypt t apiToken tkn ∧
        Refreshed crypt t t' := by
  unfold getUserToken
  dsimp only
  by_cases hshape : apiToken.toList.length ≠ 68 ∨ apiToken.toList.take 4 ≠ ['f', 'i', 'x', '_']
  · rw [if_pos hshape]
    refine .inl ⟨_, rfl, ?_⟩
    rintro tkn ⟨row, -, ⟨d, -, rfl, -⟩, -⟩
    exact hshape.elim (fun h => h (length_token d)) fun h => h (take_token d)
  · rw [if_neg hshape]
    have hlength : apiToken.toList.length = 68 := Decidable.of_not_not fun h => hshape (.inl h)
    cases huuid : uuidOfHex ((apiToken.toList.drop 4).take 32) with
    | none =>
      refine .inl ⟨_, rfl, ?_⟩
      rintro tkn ⟨row, -, ⟨d, -, rfl, -⟩, -⟩
      rw [uuidOfHex_token d] at huuid
      cases huuid
    | some tokenId =>
      have hid : ∀ {row : ApiTokenEntity Hash}, IsFor crypt row apiToken → row.id = tokenId := by
        rintro row ⟨d, hd, rfl, -⟩
        rw [uuidOfHex_token d] at huuid
        exact hd.symm.trans (Option.some.inj huuid)
      dsimp only
      rw [exec_bind, exec_get]
      dsimp only
      cases hfind : t.table.find tokenId with
      | none =>
        refine .inl ⟨_, rfl, ?_⟩
        rintro tkn ⟨row, hrow, hfor, -⟩
        exact (t.table.find_eq_none_iff tokenId).1 hfind row hrow (hid hfor)
      | some row =>
        have hrow := Table.mem_of_find hfind
        obtain ⟨text, d, hd, rfl, hverify⟩ := ht row hrow
        dsimp only
        rcases hv : crypt.verifyAndUpdate apiToken row.hash with ⟨verified, updated⟩
        have hiff := hverify apiToken hlength
        rw [hv] at hiff
        cases verified with
        | false =>
          refine .inl ⟨_, rfl, ?_⟩
          rintro tkn ⟨other, hother, hfor, -⟩
          have hsame := List.inj_on_of_nodup_map t.table.unique hother hrow
              ((hid hfor).trans (Table.key_of_find hfind).symm)
          rw [hsame] at hfor
          exact Bool.false_ne_true (hiff.2 (hfor.eq ⟨d, hd, rfl, hverify⟩))
        | true =>
          have hkey : row.id = tokenId := Table.key_of_find hfind
          refine .inr ⟨row.toModel, t.touch row.id updated lastUsedAt, ?_, ⟨row, hrow, ?_, rfl⟩,
            refreshed_touch hrow hv lastUsedAt⟩
          · rw [if_pos rfl, exec_bind, exec_set, hkey]
            rfl
          · rw [hiff.1 rfl]
            exact ⟨d, hd, rfl, hverify⟩

/-- **A call authenticates a token exactly when the table holds it.** -/
theorem opens_iff (ht : Inv crypt t) : Opens crypt t apiToken tkn ↔ Holds crypt t apiToken tkn := by
  unfold Opens
  obtain ⟨e, hexec, hnot⟩ | ⟨tkn', t', hexec, hholds, -⟩ := exec_getUserToken ht none apiToken
  · rw [hexec]
    exact ⟨nofun, fun h => absurd h (hnot tkn)⟩
  · rw [hexec]
    constructor
    · intro h
      cases h
      exact hholds
    · exact fun h => congrArg Except.ok (hholds.eq h)

variable (crypt t) in
theorem exec_createToken {workspaces : List WorkspaceId} {userId : UserId} {name : String} {permission : Option Int}
    {workspaceId : Option WorkspaceId} {d : Drawn} :
    (∃ e, exec (createToken crypt workspaces userId name permission workspaceId d) t = (.error e, t)) ∨
      ∃ row t', exec (createToken crypt workspaces userId name permission workspaceId d) t =
        (.ok (row.toModel, d.token), t') ∧
        t'.table.rows = t.table.rows ++ [row] ∧ IsFor crypt row d.token := by
  unfold createToken
  split
  · exact .inl ⟨_, rfl⟩
  · rw [exec_bind, exec_get]
    dsimp only
    unfold ApiTokenTable.add
    split
    · rename_i hnone
      exact .inl ⟨_, rfl⟩
    · rename_i t' hadd
      split_ifs at hadd with h
      cases hadd
      refine .inr ⟨_, _, rfl, rfl, d, rfl, rfl, fun text htext => ?_⟩
      exact crypt.verify_hash d.salt d.token text (length_token d) htext

theorem exec_tokenInfo (ht : Inv crypt t) (userId : UserId) (apiTokenName byText : Option String) :
    ∃ t', (exec (tokenInfo crypt userId apiTokenName byText) t).2 = t' ∧ Refreshed crypt t t' ∧
      ∀ apiToken tkn, Holds crypt t apiToken tkn →
        ((∃ info, (exec (tokenInfo crypt userId apiTokenName byText) t).1 = .ok (some info) ∧ tkn.id = info.id) ↔
          Revokes apiToken tkn (.deletes userId apiTokenName byText)) := by
  unfold tokenInfo Revokes
  dsimp only
  cases truthy byText with
  | some text =>
    dsimp only
    rw [exec_bind]
    obtain ⟨e, hexec, hnot⟩ | ⟨found, t', hexec, hholds, hrefreshed⟩ := exec_getUserToken ht none text
    · rw [hexec]
      refine ⟨t, rfl, Refreshed.refl t, fun apiToken tkn htkn => ?_⟩
      constructor
      · rintro ⟨info, hinfo, -⟩
        cases hinfo
      · rintro ⟨-, rfl⟩
        exact absurd htkn (hnot tkn)
    · rw [hexec]
      refine ⟨t', rfl, hrefreshed, fun apiToken tkn htkn => ?_⟩
      dsimp only
      rw [exec_pure]
      constructor
      · rintro ⟨info, hinfo, hid⟩
        split_ifs at hinfo with huser
        · cases hinfo
          have htext := (htkn.id_eq_iff hholds).1 hid
          exact ⟨(congrArg ApiToken.userId ((htext ▸ htkn).eq hholds)).trans huser |>.symm, htext.symm⟩
        · cases hinfo
      · rintro ⟨huser, rfl⟩
        cases htkn.eq hholds
        exact ⟨found, by rw [if_pos huser.symm], rfl⟩
  | none =>
    dsimp only
    cases truthy apiTokenName with
    | none =>
      refine ⟨t, rfl, Refreshed.refl t, fun apiToken tkn htkn => ?_⟩
      constructor
      · rintro ⟨info, hinfo, -⟩
        cases hinfo
      · rintro ⟨-, hname⟩
        cases hname
    | some name =>
      refine ⟨t, rfl, Refreshed.refl t, fun apiToken tkn htkn => ?_⟩
      obtain ⟨row, hrow, hfor, rfl⟩ := htkn
      dsimp only
      rw [exec_bind, exec_get]
      dsimp only
      rw [exec_pure]
      constructor
      · rintro ⟨info, hinfo, hid⟩
        obtain ⟨found, hfound, rfl⟩ := Option.map_eq_some_iff.1 (Except.ok.inj hinfo)
        have hsame : found.name = name ∧ found.userId = userId := by simpa using List.find?_some hfound
        cases List.inj_on_of_nodup_map t.table.unique hrow (List.mem_of_find?_eq_some hfound) hid
        exact ⟨hsame.2.symm, congrArg some hsame.1.symm⟩
      · rintro ⟨rfl, hname⟩
        cases hname
        cases hfind : t.table.rows.find? fun other => decide (other.name = row.name ∧ other.userId = row.userId) with
        | none => exact absurd (decide_eq_true ⟨rfl, rfl⟩) (List.find?_eq_none.1 hfind row hrow)
        | some found =>
          have hsame : found.name = row.name ∧ found.userId = row.userId := by simpa using List.find?_some hfind
          cases List.inj_on_of_nodup_map t.names (List.mem_of_find?_eq_some hfind) hrow (Prod.ext hsame.2 hsame.1)
          have hfound : (t.table.rows.find? fun other =>
              decide (other.name = row.toModel.name ∧ other.userId = row.toModel.userId)) = some row := hfind
          exact ⟨row.toModel, by rw [hfound]; rfl, rfl⟩

theorem exec_deleteToken (ht : Inv crypt t) (userId : UserId) (apiTokenName byText : Option String) :
    Inv crypt (exec (deleteToken crypt userId apiTokenName byText) t).2 ∧ ∀ apiToken tkn,
      (Holds crypt (exec (deleteToken crypt userId apiTokenName byText) t).2 apiToken tkn ↔
        Holds crypt t apiToken tkn ∧ ¬Revokes apiToken tkn (.deletes userId apiTokenName byText)) := by
  obtain ⟨t', hstate, hrefreshed, hinfo⟩ := exec_tokenInfo ht userId apiTokenName byText
  unfold deleteToken
  rw [exec_bind]
  rcases hexec : exec (tokenInfo crypt userId apiTokenName byText) t with ⟨e | found, t₁⟩
  · rw [hexec] at hstate hinfo
    cases hstate
    refine ⟨hrefreshed.inv ht, fun apiToken tkn => ?_⟩
    dsimp only
    rw [hrefreshed.holds_iff]
    refine ⟨fun h => ⟨h, fun hrevokes => ?_⟩, fun h => h.1⟩
    obtain ⟨info, hok, -⟩ := (hinfo apiToken tkn h).2 hrevokes
    cases hok
  · rw [hexec] at hstate hinfo
    cases hstate
    cases found with
    | none =>
      refine ⟨hrefreshed.inv ht, fun apiToken tkn => ?_⟩
      dsimp only
      rw [exec_pure, hrefreshed.holds_iff]
      refine ⟨fun h => ⟨h, fun hrevokes => ?_⟩, fun h => h.1⟩
      obtain ⟨info, hok, -⟩ := (hinfo apiToken tkn h).2 hrevokes
      cases hok
    | some info =>
      dsimp only
      rw [exec_modify]
      refine ⟨fun row hrow => hrefreshed.inv ht row (Table.mem_delete.1 hrow).1, fun apiToken tkn => ?_⟩
      rw [holds_delete, hrefreshed.holds_iff]
      refine and_congr_right fun h => not_congr ?_
      rw [← hinfo apiToken tkn h]
      constructor
      · exact fun hid => ⟨info, rfl, hid⟩
      · rintro ⟨other, hok, hid⟩
        cases hok
        exact hid

/-! ### The check against the stored hash -/

def models (t : ApiTokenTable Hash) : Table ApiToken.id where
  rows := t.table.rows.map (·.toModel)
  unique := by
    rw [List.map_map]
    exact t.table.unique

def verifiedIn (crypt : CryptContext Hash) (t : ApiTokenTable Hash) (apiToken : String) (tkn : ApiToken) : Bool :=
  (t.table.find tkn.id).any fun row => (crypt.verifyAndUpdate apiToken row.hash).1

theorem getUserToken_eq (crypt : CryptContext Hash) (t : ApiTokenTable Hash) (access : AccessStore)
    (lastUsedAt : Option DateTime) (apiToken : String) : (exec (getUserToken crypt lastUsedAt apiToken) t).1 =
      Fix.getUserToken (verifiedIn crypt t) ⟨access, models t⟩ apiToken := by
  unfold getUserToken Fix.getUserToken
  dsimp only
  split
  · rfl
  · cases huuid : uuidOfHex ((apiToken.toList.drop 4).take 32) with
    | none => rfl
    | some tokenId =>
      have hmodels : (models t).find tokenId = (t.table.find tokenId).map (·.toModel) := List.find?_map
      dsimp only
      rw [exec_bind, exec_get, hmodels]
      dsimp only
      cases hfind : t.table.find tokenId with
      | none => rfl
      | some row =>
        have hrow : row.id = tokenId := Table.key_of_find hfind
        have hkey : row.toModel.id = tokenId := hrow
        have hverified : verifiedIn crypt t apiToken row.toModel = (crypt.verifyAndUpdate apiToken row.hash).1 := by
          unfold verifiedIn
          rw [hkey, hfind, Option.any_some]
        rw [Option.map_some]
        dsimp only
        rw [hverified]
        split
        · rw [exec_bind, exec_set]
          rfl
        · rfl

/-- **The login over the table is that of its tokens**, whether or not the time of use is written. -/
theorem login_eq (crypt : CryptContext Hash) (t : ApiTokenTable Hash) (lifetimeSeconds : Option Nat)
    (access : AccessStore) (now : DateTime) (apiToken : String) :
    (exec (login crypt lifetimeSeconds access now apiToken) t).1 =
      Fix.login (verifiedIn crypt t) lifetimeSeconds ⟨access, models t⟩ now apiToken := by
  unfold login Fix.login
  rw [exec_bind, ← getUserToken_eq crypt t access (some now)]
  rcases exec (getUserToken crypt (some now) apiToken) t with ⟨e | tkn, t'⟩
  · rfl
  · dsimp only
    rw [exec_lift]

/-! ## Tokens over runs -/

variable {lifetimeSeconds : Option Nat}

variable (lifetimeSeconds) in
theorem exec_login (ht : Inv crypt t) (access : AccessStore) (now : DateTime) (apiToken : String) :
    ∃ t', (exec (login crypt lifetimeSeconds access now apiToken) t).2 = t' ∧ Refreshed crypt t t' ∧ ∀ session,
      ((exec (login crypt lifetimeSeconds access now apiToken) t).1 = .ok session ↔
        ∃ tkn, Holds crypt t apiToken tkn ∧ loginAs lifetimeSeconds access now tkn = .ok session) := by
  unfold login
  rw [exec_bind]
  obtain ⟨e, hexec, hnot⟩ | ⟨tkn, t', hexec, hholds, hrefreshed⟩ := exec_getUserToken ht (some now) apiToken
  · rw [hexec]
    refine ⟨t, rfl, Refreshed.refl t, fun session => ⟨nofun, ?_⟩⟩
    rintro ⟨tkn, htkn, -⟩
    exact absurd htkn (hnot tkn)
  · rw [hexec]
    dsimp only
    rw [exec_lift]
    refine ⟨t', rfl, hrefreshed, fun session => ⟨fun h => ⟨tkn, hholds, h⟩, ?_⟩⟩
    rintro ⟨other, hother, h⟩
    rw [hholds.eq hother]
    exact h

/-- **What an action leaves of the tokens**: the ones that it does not revoke, and the one that it issues. -/
theorem holds_step (ht : Inv crypt t) {a : Action} (hstep : step crypt lifetimeSeconds t a = some t') : Inv crypt t' ∧
    ∀ apiToken tkn, (Holds crypt t' apiToken tkn ↔
      (Holds crypt t apiToken tkn ∧ ¬Revokes apiToken tkn a) ∨ Issues crypt t apiToken tkn a) := by
  cases a with
  | creates workspaces userId name permission workspaceId d =>
    cases hstep
    unfold Issues Revokes
    dsimp only
    obtain ⟨e, hexec⟩ | ⟨row, t', hexec, hrows, hfor⟩ := exec_createToken crypt t
    · rw [hexec]
      exact ⟨ht, fun apiToken tkn => by simp⟩
    · rw [hexec]
      dsimp only
      constructor
      · intro other hother
        rw [hrows] at hother
        obtain hold | hnew := List.mem_append.1 hother
        · exact ht other hold
        · rw [List.mem_singleton.1 hnew]
          exact ⟨d.token, hfor⟩
      · intro apiToken tkn
        unfold Holds
        rw [hrows]
        constructor
        · rintro ⟨other, hother, hother', rfl⟩
          obtain hold | hnew := List.mem_append.1 hother
          · exact .inl ⟨⟨other, hold, hother', rfl⟩, id⟩
          · cases List.mem_singleton.1 hnew
            rw [hfor.eq hother']
            exact .inr rfl
        · rintro (⟨⟨other, hother, hother', hmodel⟩, -⟩ | hissued)
          · exact ⟨other, List.mem_append_left _ hother, hother', hmodel⟩
          · cases hissued
            exact ⟨row, List.mem_append_right _ (List.mem_singleton_self _), hfor, rfl⟩
  | asks userId apiTokenName byText =>
    cases hstep
    obtain ⟨t', hstate, hrefreshed, -⟩ := exec_tokenInfo ht userId apiTokenName byText
    rw [hstate]
    refine ⟨hrefreshed.inv ht, fun apiToken tkn => hrefreshed.holds_iff.trans ?_⟩
    unfold Issues Revokes
    simp
  | deletes userId apiTokenName byText =>
    cases hstep
    obtain ⟨hinv, hholds⟩ := exec_deleteToken ht userId apiTokenName byText
    refine ⟨hinv, fun apiToken tkn => (hholds apiToken tkn).trans ?_⟩
    unfold Issues
    simp
  | logsIn access now text =>
    cases hstep
    obtain ⟨t', hstate, hrefreshed, -⟩ := exec_login lifetimeSeconds ht access now text
    rw [hstate]
    refine ⟨hrefreshed.inv ht, fun apiToken tkn => hrefreshed.holds_iff.trans ?_⟩
    unfold Issues Revokes
    simp

variable (crypt lifetimeSeconds) in
def Issued (actions : List Action) (apiToken : String) (tkn : ApiToken) : Prop :=
  ∃ before a after mid, actions = before ++ a :: after ∧
    run (step crypt lifetimeSeconds) ApiTokenTable.empty before = some mid ∧ Issues crypt mid apiToken tkn a ∧
      ∀ b ∈ after, ¬Revokes apiToken tkn b

theorem inv_empty : Inv crypt ApiTokenTable.empty := fun _ h => absurd h List.not_mem_nil

theorem inv_of_run {actions : List Action} (h : run (step crypt lifetimeSeconds) ApiTokenTable.empty actions = some t) :
    Inv crypt t := run_keeps (fun _ _ _ ht hstep => (holds_step ht hstep).1) inv_empty h

theorem holds_iff_issued {actions : List Action}
    (h : run (step crypt lifetimeSeconds) ApiTokenTable.empty actions = some t) :
    Holds crypt t apiToken tkn ↔ Issued crypt lifetimeSeconds actions apiToken tkn := by
  have hinit : ¬Holds crypt ApiTokenTable.empty apiToken tkn := fun ⟨_, hrow, _⟩ => absurd hrow List.not_mem_nil
  have hkeeps : ∀ s a s', Inv crypt s → step crypt lifetimeSeconds s a = some s' → Inv crypt s' :=
    fun _ _ _ ht hstep => (holds_step ht hstep).1
  exact run_since hkeeps (Q := fun t => Holds crypt t apiToken tkn)
    (fun _ _ _ ht hstep => (holds_step ht hstep).2 apiToken tkn) inv_empty hinit h

/-- **A token opens sessions from its creation to its deletion**: after any run a login succeeds exactly with a text
that was issued and that the user of the token has not revoked since, and the session is the one of that token. -/
theorem login_iff_issued {actions : List Action}
    (h : run (step crypt lifetimeSeconds) ApiTokenTable.empty actions = some t) (access : AccessStore) (now : DateTime)
    (apiToken : String) (session : SessionToken) :
    (exec (login crypt lifetimeSeconds access now apiToken) t).1 = .ok session ↔
      ∃ tkn, Issued crypt lifetimeSeconds actions apiToken tkn ∧ loginAs lifetimeSeconds access now tkn =
        .ok session := by
  obtain ⟨t', -, -, hsession⟩ := exec_login lifetimeSeconds (inv_of_run h) access now apiToken
  rw [hsession]
  exact exists_congr fun tkn => and_congr_left fun _ => holds_iff_issued h

/-- **A user sees the own tokens that open sessions, and no others.** -/
theorem mem_listTokens_iff {actions : List Action}
    (h : run (step crypt lifetimeSeconds) ApiTokenTable.empty actions = some t) (userId : UserId) (tkn : ApiToken) :
    tkn ∈ listTokens t userId ↔ tkn.userId = userId ∧
      ∃ apiToken, Issued crypt lifetimeSeconds actions apiToken tkn := by
  have hissued : (∃ apiToken, Issued crypt lifetimeSeconds actions apiToken tkn) ↔
      ∃ apiToken, Holds crypt t apiToken tkn := exists_congr fun _ => (holds_iff_issued h).symm
  rw [hissued]
  unfold listTokens
  rw [List.mem_map]
  constructor
  · rintro ⟨row, hrow, rfl⟩
    obtain ⟨hmem, huser⟩ := List.mem_filter.1 hrow
    obtain ⟨apiToken, hfor⟩ := inv_of_run h row hmem
    exact ⟨of_decide_eq_true huser, apiToken, row, hmem, hfor, rfl⟩
  · rintro ⟨huser, apiToken, row, hrow, -, rfl⟩
    exact ⟨row, List.mem_filter.2 ⟨hrow, decide_eq_true huser⟩, rfl⟩

end Lives

/-! ### A token that another user cannot delete -/

/-- A hash is the text with the number of its scheme, and the first scheme is given up. -/
def schemes : CryptContext (String × Bool) where
  hash salt token := (token, decide (salt = 0))
  verifyAndUpdate token old :=
    (decide (token = old.1), if token = old.1 ∧ old.2 = true then some (old.1, false) else none)
  verify_hash _ _ _ _ _ := decide_eq_true_iff
  verify_updated token old new h text := by
    obtain ⟨-, hnew⟩ := Prod.mk.inj h
    split_ifs at hnew
    rw [← Option.some.inj hnew]

def drawn : Drawn := ⟨51, by decide, 7, 0⟩

/-- User 11 creates the token and logs in with it, and user 12 tries to delete it. -/
def readerActions : List Action :=
  [.creates [1, 2] 11 "reader" readerToken.permission (some 1) drawn, .logsIn twoWorkspacesOwned january drawn.token,
    .deletes 12 none (some drawn.token)]

def readerIssued : ApiTokenTable (String × Bool) :=
  (run (step schemes (some 86400)) ApiTokenTable.empty readerActions).get (by decide +kernel)

theorem run_readerActions : run (step schemes (some 86400)) ApiTokenTable.empty readerActions = some readerIssued :=
  (Option.some_get _).symm

theorem login_iff_issued_reader :
    (exec (login schemes (some 86400) twoWorkspacesOwned january drawn.token) readerIssued).1 = .ok readerSession ↔
      ∃ tkn, Issued schemes (some 86400) readerActions drawn.token tkn ∧
        loginAs (some 86400) twoWorkspacesOwned january tkn = .ok readerSession :=
  login_iff_issued run_readerActions twoWorkspacesOwned january drawn.token readerSession

theorem mem_listTokens_iff_reader : readerToken ∈ listTokens readerIssued 11 ↔
    readerToken.userId = 11 ∧ ∃ apiToken, Issued schemes (some 86400) readerActions apiToken readerToken :=
  mem_listTokens_iff run_readerActions 11 readerToken

end ApiTokenService

end Fix
