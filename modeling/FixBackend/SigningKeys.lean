import FixBackend.ApiTokens
import FixBackend.Machine
import FixBackend.Table
/-!
# SigningKeys — tokens under keys that are replaced

`certificates/cert_store.py` and `fix_jwt/__init__.py`.  Two pairs of a certificate and a key lie in files, and every
process reads them through a cache that holds an entry for a minute.  Tokens are signed with the key of the certificate
that expires last and are accepted under either key.  Times are microseconds.
-/
namespace Fix

open Machine

/-! ## Tokens -/

/-- RSA keys and `RS256`.  A signature is verified by the public key of the key that made it, and no other one is. -/
structure Rs256 (PrivateKey PublicKey Signature Message : Type) where
  publicKey : PrivateKey → PublicKey
  /-- The first eight digits of the hash of the key. -/
  kid : PublicKey → String
  sign : PrivateKey → Message → Signature
  verify : PublicKey → Message → Signature → Bool
  verify_iff : ∀ key m signature, verify (publicKey key) m signature = true ↔ signature = sign key m

/-- What is signed: the audience, when it expires, and the rest. -/
structure Claims (δ : Type) where
  aud : List String
  exp : Option Nat
  data : δ
deriving DecidableEq

structure Jwt (Signature δ : Type) where
  kid : Option String
  claims : Claims δ
  signature : Signature
deriving DecidableEq

variable {PrivateKey PublicKey Signature δ : Type}

abbrev SignedPart (δ : Type) := Option String × Claims δ

namespace FixJwt

section Codec

variable (rsa : Rs256 PrivateKey PublicKey Signature (SignedPart δ))

def kid (key : PrivateKey) : String := rsa.kid (rsa.publicKey key)

def encodeToken (exp : Option Nat) (data : δ) (audience : List String) (privateKey : PrivateKey) : Jwt Signature δ :=
  let claims : Claims δ := ⟨audience, exp, data⟩
  ⟨some (kid rsa privateKey), claims, rsa.sign privateKey (some (kid rsa privateKey), claims)⟩

/-- `jwt.decode`: the signature, then the time, then the audience. -/
def jwtDecode (now : Nat) (token : Jwt Signature δ) (key : PublicKey) (audience : List String) : Option (Claims δ) :=
  if rsa.verify key (token.kid, token.claims) token.signature = true ∧
      (∀ exp ∈ token.claims.exp, now < exp * secondMicros) ∧ ∃ a ∈ audience, a ∈ token.claims.aud then some token.claims
  else none

/-- `none` for a text that is no token. -/
def decodeToken (now : Nat) (token : Option (Jwt Signature δ)) (audience : List String) (publicKeys : List PublicKey) :
    Option (Claims δ) :=
  match token with
  | none => none
  | some token =>
    let availableKeys := Dict.ofList (publicKeys.map fun key => (rsa.kid key, key))
    match token.kid.bind availableKeys.get with
    | none => none
    | some publicKey => jwtDecode rsa now token publicKey audience

end Codec

end FixJwt

/-! ## The store -/

inductive Slot where
  | first
  | second
deriving DecidableEq

def Slot.other : Slot → Slot
  | first => second
  | second => first

@[simp] theorem Slot.other_other (slot : Slot) : slot.other.other = slot := by cases slot <;> rfl

@[simp] theorem Slot.other_ne (slot : Slot) : slot.other ≠ slot := by cases slot <;> decide

theorem Slot.eq_or_other (a b : Slot) : a = b ∨ a = b.other := by
  cases a <;> cases b <;> decide

structure CertKeyPair (PrivateKey : Type) where
  notValidAfter : Nat
  privateKey : PrivateKey
deriving DecidableEq

abbrev ProcessId := Nat

namespace CertificateStore

/-- `ttl=60` -/
def cacheTtl : Nat := 60 * secondMicros

abbrev Entry (PrivateKey : Type) := CertKeyPair PrivateKey × Nat

/-- The entry that the cache has afterwards. -/
def loadCertKeyPair (now : Nat) (file : CertKeyPair PrivateKey) (cached : Option (Entry PrivateKey)) :
    Entry PrivateKey :=
  match cached with
  | some entry => if now < entry.2 + cacheTtl then entry else (file, now)
  | none => (file, now)

def newest (pairs : Slot → CertKeyPair PrivateKey) : Slot :=
  if (pairs .first).notValidAfter < (pairs .second).notValidAfter then .second else .first

def getSigningCertKeyPair (pairs : Slot → CertKeyPair PrivateKey) : List (CertKeyPair PrivateKey) :=
  [pairs (newest pairs), pairs (newest pairs).other]

def privateKey (pairs : Slot → CertKeyPair PrivateKey) : PrivateKey := (pairs (newest pairs)).privateKey

def publicKeys (rsa : Rs256 PrivateKey PublicKey Signature (SignedPart δ)) (pairs : Slot → CertKeyPair PrivateKey) :
    List PublicKey := (getSigningCertKeyPair pairs).map fun pair => rsa.publicKey pair.privateKey

/-- The files, the cache of each process, and the last replacement: the slot, the pair it held and the time. -/
structure State (PrivateKey : Type) where
  files : Slot → CertKeyPair PrivateKey
  caches : ProcessId → Slot → Option (Entry PrivateKey)
  rotated : Option (Slot × CertKeyPair PrivateKey × Nat)
  clock : Nat

def init (files : Slot → CertKeyPair PrivateKey) : State PrivateKey := ⟨files, fun _ _ => none, none, 0⟩

namespace State

/-- What the process has in its cache after a call. -/
def load (s : State PrivateKey) (p : ProcessId) (now : Nat) (slot : Slot) : Entry PrivateKey :=
  loadCertKeyPair now (s.files slot) (s.caches p slot)

def pairs (s : State PrivateKey) (p : ProcessId) (now : Nat) (slot : Slot) : CertKeyPair PrivateKey :=
  (s.load p now slot).1

def loaded (s : State PrivateKey) (p : ProcessId) (now : Nat) : State PrivateKey :=
  { s with caches := Function.update s.caches p fun slot => some (s.load p now slot), clock := now }

def replaced (s : State PrivateKey) (slot : Slot) (pair : CertKeyPair PrivateKey) (now : Nat) : State PrivateKey :=
  { s with files := Function.update s.files slot pair, rotated := some (slot, s.files slot, now), clock := now }

end State

inductive Action (PrivateKey : Type) where
  /-- A process encodes or decodes a token. -/
  | loads (p : ProcessId)
  /-- The files of a slot are replaced. -/
  | replaces (slot : Slot) (pair : CertKeyPair PrivateKey)
deriving DecidableEq

def step (s : State PrivateKey) (a : Nat × Action PrivateKey) : Option (State PrivateKey) :=
  if a.1 < s.clock then none
  else match a.2 with
    | .loads p => some (s.loaded p a.1)
    | .replaces slot pair => some (s.replaced slot pair a.1)

end CertificateStore

namespace JwtService

open CertificateStore

variable (rsa : Rs256 PrivateKey PublicKey Signature (SignedPart δ))

def encode (s : State PrivateKey) (p : ProcessId) (now : Nat) (exp : Option Nat) (data : δ) (audience : List String) :
    Jwt Signature δ := FixJwt.encodeToken rsa exp data audience (privateKey (s.pairs p now))

def decode (s : State PrivateKey) (p : ProcessId) (now : Nat) (token : Option (Jwt Signature δ))
    (audience : List String) :
    Option (Claims δ) := FixJwt.decodeToken rsa now token audience (publicKeys rsa (s.pairs p now))

end JwtService

/-! ## Which tokens are accepted -/

namespace FixJwt

variable (rsa : Rs256 PrivateKey PublicKey Signature (SignedPart δ))

structure Accepts (now : Nat) (audience : List String) (key : PrivateKey) (token : Jwt Signature δ) : Prop where
  kid : token.kid = some (kid rsa key)
  signature : token.signature = rsa.sign key (token.kid, token.claims)
  inTime : ∀ exp ∈ token.claims.exp, now < exp * secondMicros
  addressed : ∃ a ∈ audience, a ∈ token.claims.aud

theorem accepts_encodeToken {now : Nat} {exp : Option Nat} {audience : List String} (key : PrivateKey) (data : δ)
    (hexp : ∀ e ∈ exp, now < e * secondMicros) (haudience : audience ≠ []) :
    Accepts rsa now audience key (encodeToken rsa exp data audience key) := by
  obtain ⟨a, ha⟩ := List.exists_mem_of_ne_nil audience haudience
  exact ⟨rfl, rfl, hexp, a, ha, ha⟩

variable {rsa}

theorem accepts_of_decodeToken {now : Nat} {token : Jwt Signature δ} {audience : List String} {keys : List PrivateKey}
    {claims : Claims δ} (h : decodeToken rsa now (some token) audience (keys.map rsa.publicKey) = some claims) :
    claims = token.claims ∧ ∃ key ∈ keys, Accepts rsa now audience key token := by
  unfold decodeToken at h
  dsimp only at h
  cases hkid : token.kid with
  | none =>
    rw [hkid] at h
    cases h
  | some id =>
    rw [hkid, Option.bind_some] at h
    cases hget : (Dict.ofList ((keys.map rsa.publicKey).map fun key => (rsa.kid key, key))).get id with
    | none =>
      rw [hget] at h
      cases h
    | some publicKey =>
      rw [hget] at h
      obtain ⟨_, hpublic, heq⟩ := List.mem_map.1 (Dict.mem_of_get_ofList _ hget)
      obtain ⟨key, hkey, rfl⟩ := List.mem_map.1 hpublic
      cases heq
      unfold jwtDecode at h
      dsimp only at h
      split_ifs at h with hchecks
      obtain ⟨hverify, hexp, haudience⟩ := hchecks
      exact ⟨(Option.some.inj h).symm, key, hkey, hkid, (rsa.verify_iff _ _ _).1 hverify, hexp, haudience⟩

theorem decodeToken_of_accepts {now : Nat} {token : Jwt Signature δ} {audience : List String} {keys : List PrivateKey}
    {key : PrivateKey} (hnodup : (keys.map (kid rsa)).Nodup) (hkey : key ∈ keys)
    (h : Accepts rsa now audience key token) :
    decodeToken rsa now (some token) audience (keys.map rsa.publicKey) = some token.claims := by
  have hkeys : ((keys.map rsa.publicKey).map fun key => (rsa.kid key, key)).map Prod.fst = keys.map (kid rsa) := by
    rw [List.map_map, List.map_map]
    rfl
  have hget : (Dict.ofList ((keys.map rsa.publicKey).map fun key => (rsa.kid key, key))).get (kid rsa key) =
      some (rsa.publicKey key) := by
    rw [Dict.get_eq_some_iff, Dict.rows_ofList _ (hkeys ▸ hnodup)]
    exact List.mem_map.2 ⟨_, List.mem_map.2 ⟨key, hkey, rfl⟩, rfl⟩
  unfold decodeToken
  dsimp only
  rw [h.kid, Option.bind_some, hget]
  dsimp only [jwtDecode]
  rw [if_pos ⟨(rsa.verify_iff _ _ _).2 h.signature, h.inTime, h.addressed⟩]

end FixJwt

/-! ## A key that was removed -/

namespace CertificateStore

theorem step_cases {s s' : State PrivateKey} {now : Nat} {action : Action PrivateKey}
    (h : step s (now, action) = some s') : s.clock ≤ now ∧
      ((∃ p, action = .loads p ∧ s' = s.loaded p now) ∨
        ∃ slot pair, action = .replaces slot pair ∧ s' = s.replaced slot pair now) := by
  unfold step at h
  dsimp only at h
  split_ifs at h with hclock
  refine ⟨Nat.le_of_not_lt hclock, ?_⟩
  cases action with
  | loads p => exact .inl ⟨p, rfl, (Option.some.inj h).symm⟩
  | replaces slot pair => exact .inr ⟨slot, pair, rfl, (Option.some.inj h).symm⟩

theorem loads_of_le {s : State PrivateKey} {now : Nat} (hclock : s.clock ≤ now) (p : ProcessId) :
    step s (now, .loads p) = some (s.loaded p now) := by
  unfold step
  rw [if_neg (Nat.not_lt.2 hclock)]

theorem load_cases (s : State PrivateKey) (p : ProcessId) (now : Nat) (slot : Slot) :
    (∃ entry, s.caches p slot = some entry ∧ now < entry.2 + cacheTtl ∧ s.load p now slot = entry) ∨
      s.load p now slot = (s.files slot, now) := by
  unfold State.load loadCertKeyPair
  cases hcache : s.caches p slot with
  | none => exact .inr rfl
  | some entry =>
    dsimp only
    split_ifs with hfresh
    · exact .inl ⟨entry, rfl, hfresh, rfl⟩
    · exact .inr rfl

theorem caches_loaded {s : State PrivateKey} {p q : ProcessId} {now : Nat} {slot : Slot} {entry : Entry PrivateKey}
    (h : (s.loaded p now).caches q slot = some entry) :
    s.caches q slot = some entry ∨ q = p ∧ entry = s.load p now slot := by
  unfold State.loaded at h
  dsimp only at h
  by_cases hq : q = p
  · subst hq
    rw [Function.update_self] at h
    exact .inr ⟨rfl, (Option.some.inj h).symm⟩
  · rw [Function.update_of_ne hq] at h
    exact .inl h

/-- The key lies in no file, and what a cache has of it was read by the time. -/
structure Forgotten (key : PrivateKey) (time : Nat) (s : State PrivateKey) : Prop where
  files : ∀ slot, (s.files slot).privateKey ≠ key
  caches : ∀ p slot entry, s.caches p slot = some entry → entry.1.privateKey = key → entry.2 ≤ time

def Installs (key : PrivateKey) (a : Nat × Action PrivateKey) : Prop :=
  ∃ slot pair, a.2 = .replaces slot pair ∧ pair.privateKey = key

theorem forgotten_step {key : PrivateKey} {time : Nat} {s s' : State PrivateKey} {a : Nat × Action PrivateKey}
    (hs : Forgotten key time s) (ha : ¬ Installs key a) (h : step s a = some s') : Forgotten key time s' := by
  obtain ⟨now, action⟩ := a
  obtain ⟨-, ⟨p, rfl, rfl⟩ | ⟨slot, pair, rfl, rfl⟩⟩ := step_cases h
  · refine ⟨hs.files, fun q slot entry hentry hkey => ?_⟩
    obtain hold | ⟨rfl, rfl⟩ := caches_loaded hentry
    · exact hs.caches q slot entry hold hkey
    · obtain ⟨entry, hcache, -, hload⟩ | hload := load_cases s q now slot
      · rw [hload] at hkey ⊢
        exact hs.caches q slot entry hcache hkey
      · rw [hload] at hkey
        exact absurd hkey (hs.files slot)
  · refine ⟨fun slot' => ?_, hs.caches⟩
    unfold State.replaced
    dsimp only
    by_cases hslot : slot' = slot
    · subst hslot
      rw [Function.update_self]
      exact fun hkey => ha ⟨slot', pair, rfl, hkey⟩
    · rw [Function.update_of_ne hslot]
      exact hs.files slot'

theorem read_loaded {s : State PrivateKey} (hs : ∀ p slot entry, s.caches p slot = some entry → entry.2 ≤ s.clock)
    (p : ProcessId) {now : Nat} (hnow : s.clock ≤ now) :
    ∀ q slot entry, (s.loaded p now).caches q slot = some entry → entry.2 ≤ now := by
  intro q slot entry hentry
  obtain hold | ⟨rfl, rfl⟩ := caches_loaded hentry
  · exact Nat.le_trans (hs q slot entry hold) hnow
  · obtain ⟨entry, hcache, -, hload⟩ | hload := load_cases s q now slot
    · rw [hload]
      exact Nat.le_trans (hs q slot entry hcache) hnow
    · rw [hload]

theorem read_le_clock {files : Slot → CertKeyPair PrivateKey} {actions : List (Nat × Action PrivateKey)}
    {s : State PrivateKey} (h : run step (init files) actions = some s) :
    ∀ p slot entry, s.caches p slot = some entry → entry.2 ≤ s.clock := by
  refine run_keeps (I := fun s => ∀ p slot entry, s.caches p slot = some entry → entry.2 ≤ s.clock) ?_ ?_ h
  · rintro s ⟨now, action⟩ s' hs hstep
    obtain ⟨hclock, ⟨p, rfl, rfl⟩ | ⟨slot, pair, rfl, rfl⟩⟩ := step_cases hstep
    · exact read_loaded hs p hclock
    · exact fun q slot' entry hentry => Nat.le_trans (hs q slot' entry hentry) hclock
  · intro p slot entry hentry
    cases hentry

theorem publicKeys_eq (rsa : Rs256 PrivateKey PublicKey Signature (SignedPart δ))
    (pairs : Slot → CertKeyPair PrivateKey) :
    publicKeys rsa pairs =
      [(pairs (newest pairs)).privateKey, (pairs (newest pairs).other).privateKey].map rsa.publicKey := rfl

theorem mem_keys {pairs : Slot → CertKeyPair PrivateKey} {key : PrivateKey} :
    key ∈ [(pairs (newest pairs)).privateKey, (pairs (newest pairs).other).privateKey] ↔
      ∃ slot, (pairs slot).privateKey = key := by
  constructor
  · intro h
    obtain rfl | h := List.mem_cons.1 h
    · exact ⟨_, rfl⟩
    · exact ⟨_, (List.mem_singleton.1 h).symm⟩
  · rintro ⟨slot, rfl⟩
    obtain rfl | rfl := Slot.eq_or_other slot (newest pairs)
    · exact List.mem_cons_self
    · exact List.mem_cons_of_mem _ List.mem_cons_self

end CertificateStore

namespace JwtService

open CertificateStore FixJwt

variable {rsa : Rs256 PrivateKey PublicKey Signature (SignedPart δ)}

theorem accepts_of_decode {s : State PrivateKey} {p : ProcessId} {now : Nat} {token : Jwt Signature δ}
    {audience : List String} {claims : Claims δ} (h : decode rsa s p now (some token) audience = some claims) :
    claims = token.claims ∧ ∃ slot, Accepts rsa now audience (s.pairs p now slot).privateKey token := by
  unfold decode at h
  rw [publicKeys_eq] at h
  obtain ⟨hclaims, key, hkey, haccepts⟩ := accepts_of_decodeToken h
  obtain ⟨slot, rfl⟩ := mem_keys.1 hkey
  exact ⟨hclaims, slot, haccepts⟩

/-- **A key that was removed is dead after a minute**: from then on a token is accepted, by any process, only under
another key, which has signed it, in time and for the audience. -/
theorem accepted_after_removal {files : Slot → CertKeyPair PrivateKey} {before after : List (Nat × Action PrivateKey)}
    {removed s : State PrivateKey} {key : PrivateKey} (hbefore : run step (init files) before = some removed)
    (hkey : ∀ slot, (removed.files slot).privateKey ≠ key) (hafter : run step removed after = some s)
    (hkept : ∀ a ∈ after, ¬ Installs key a) {p : ProcessId} {now : Nat} (hnow : removed.clock + cacheTtl ≤ now)
    {token : Jwt Signature δ} {audience : List String} {claims : Claims δ}
    (hdecode : decode rsa s p now (some token) audience = some claims) :
    claims = token.claims ∧ ∃ other, other ≠ key ∧ Accepts rsa now audience other token := by
  have hforgotten : Forgotten key removed.clock s := by
    refine run_along (C := fun _ a => ¬ Installs key a) (fun _ _ _ hs ha h => forgotten_step hs ha h)
      ⟨hkey, fun p slot entry hentry _ => read_le_clock hbefore p slot entry hentry⟩
      (along_of_forall hkept removed) hafter
  obtain ⟨hclaims, slot, haccepts⟩ := accepts_of_decode hdecode
  refine ⟨hclaims, _, fun heq => ?_, haccepts⟩
  unfold State.pairs at heq
  obtain ⟨entry, hcache, hfresh, hload⟩ | hload := load_cases s p now slot
  · rw [hload] at heq
    have hread := hforgotten.caches p slot entry hcache heq
    omega
  · rw [hload] at heq
    exact hforgotten.files slot heq

end JwtService

/-! ## Replacing the older key -/

namespace CertificateStore

/-- The older pair is replaced by one that expires after the other, under another `kid`, and not before the tokens that
were signed before the last replacement took hold have expired. -/
def ReplacesOlder (kid : PrivateKey → String) (lifetime : Nat) (s : State PrivateKey)
    (a : Nat × Action PrivateKey) : Prop :=
  ∀ slot pair, a.2 = .replaces slot pair → slot = (newest s.files).other ∧
    (s.files slot.other).notValidAfter < pair.notValidAfter ∧
      kid pair.privateKey ≠ kid (s.files slot.other).privateKey ∧
    ∀ x ∈ s.rotated, x.2.2 + cacheTtl + lifetime ≤ a.1

/-- What is in the cache of a process, of the pair it takes now, was replaced. -/
def Stale (s : State PrivateKey) (p : ProcessId) (now : Nat) : Prop :=
  ∃ slot entry, s.caches p slot = some entry ∧ now < entry.2 + cacheTtl ∧ entry.1 ≠ s.files slot

/-- The two keys can be told apart, the last slot to be replaced has the newer pair, and a cache holds what lies in the
files or what the last replacement took from them. -/
structure Rotated (kid : PrivateKey → String) (s : State PrivateKey) : Prop where
  read : ∀ p slot entry, s.caches p slot = some entry → entry.2 ≤ s.clock
  distinct : ∀ slot, kid (s.files slot).privateKey ≠ kid (s.files slot.other).privateKey
  caches : ∀ p slot entry, s.caches p slot = some entry → s.clock < entry.2 + cacheTtl →
    entry.1 = s.files slot ∨ ∃ time, s.rotated = some (slot, entry.1, time) ∧ entry.2 ≤ time
  rotated : ∀ slot old time, s.rotated = some (slot, old, time) → slot = newest s.files ∧
    newest (Function.update s.files slot old) = slot.other ∧ kid old.privateKey ≠ kid (s.files slot.other).privateKey

theorem newest_update {pairs : Slot → CertKeyPair PrivateKey} {slot : Slot} {pair : CertKeyPair PrivateKey}
    (h : (pairs slot.other).notValidAfter < pair.notValidAfter) : newest (Function.update pairs slot pair) = slot := by
  unfold newest
  cases slot with
  | first =>
    rw [Function.update_self, Function.update_of_ne (by decide), if_neg]
    exact Nat.not_lt.2 (Nat.le_of_lt h)
  | second =>
    rw [Function.update_self, Function.update_of_ne (by decide), if_pos]
    exact h

theorem pairs_cases {kid : PrivateKey → String} {s : State PrivateKey} (hs : Rotated kid s) (p : ProcessId) {now : Nat}
    (hnow : s.clock ≤ now) (slot : Slot) : s.pairs p now slot = s.files slot ∨
      (Stale s p now ∧ ∃ time, s.rotated = some (slot, s.pairs p now slot, time) ∧ now < time + cacheTtl) := by
  unfold State.pairs
  obtain ⟨entry, hcache, hfresh, hload⟩ | hload := load_cases s p now slot
  · rw [hload]
    by_cases hfile : entry.1 = s.files slot
    · exact .inl hfile
    · obtain hcurrent | ⟨time, hrotated, htime⟩ := hs.caches p slot entry hcache (by omega)
      · exact .inl hcurrent
      · exact .inr ⟨⟨slot, entry, hcache, hfresh, hfile⟩, time, hrotated, by omega⟩
  · rw [hload]
    exact .inl rfl

theorem rotated_loaded {kid : PrivateKey → String} {s : State PrivateKey} (hs : Rotated kid s)
    (p : ProcessId) {now : Nat}
    (hnow : s.clock ≤ now) : Rotated kid (s.loaded p now) := by
  refine ⟨read_loaded hs.read p hnow, hs.distinct, fun q slot entry hentry hfresh => ?_, hs.rotated⟩
  change now < entry.2 + cacheTtl at hfresh
  obtain hold | ⟨rfl, rfl⟩ := caches_loaded hentry
  · exact hs.caches q slot entry hold (by omega)
  · obtain ⟨entry, hcache, -, hload⟩ | hload := load_cases s q now slot
    · rw [hload] at hfresh ⊢
      exact hs.caches q slot entry hcache (by omega)
    · rw [hload]
      exact .inl rfl

theorem rotated_replaced {kid : PrivateKey → String} {lifetime : Nat} {s : State PrivateKey} (hs : Rotated kid s)
    {slot : Slot} {pair : CertKeyPair PrivateKey} {now : Nat} (hnow : s.clock ≤ now)
    (h : ReplacesOlder kid lifetime s (now, .replaces slot pair)) : Rotated kid (s.replaced slot pair now) := by
  obtain ⟨hslot, hnewer, hkid, hlast⟩ := h slot pair rfl
  refine ⟨fun q slot' entry hentry => Nat.le_trans (hs.read q slot' entry hentry) hnow, fun slot' => ?_,
    fun q slot' entry hentry hfresh => ?_, ?_⟩
  · unfold State.replaced
    dsimp only
    obtain rfl | rfl := Slot.eq_or_other slot' slot
    · rw [Function.update_self, Function.update_of_ne (Slot.other_ne _)]
      exact hkid
    · rw [Slot.other_other, Function.update_self, Function.update_of_ne (Slot.other_ne _)]
      exact hkid.symm
  · -- The entries from before the last replacement have gone.
    change now < entry.2 + cacheTtl at hfresh
    obtain hcurrent | ⟨time, hrotated, htime⟩ := hs.caches q slot' entry hentry (by omega)
    · unfold State.replaced
      dsimp only
      obtain rfl | rfl := Slot.eq_or_other slot' slot
      · exact .inr ⟨now, by rw [hcurrent], Nat.le_trans (hs.read q slot' entry hentry) hnow⟩
      · rw [Function.update_of_ne (Slot.other_ne _)]
        exact .inl hcurrent
    · have hpassed := hlast _ hrotated
      dsimp only at hpassed
      omega
  · rintro slot' old time heq
    obtain ⟨rfl, rfl, rfl⟩ : slot = slot' ∧ s.files slot = old ∧ now = time := by
      have := Option.some.inj heq
      simpa using this
    unfold State.replaced
    dsimp only
    rw [newest_update hnewer, Function.update_idem, Function.update_eq_self, Function.update_of_ne (Slot.other_ne _)]
    exact ⟨rfl, by rw [hslot, Slot.other_other], hs.distinct slot⟩

theorem rotated_step {kid : PrivateKey → String} {lifetime : Nat} {s s' : State PrivateKey}
    {a : Nat × Action PrivateKey}
    (hs : Rotated kid s) (ha : ReplacesOlder kid lifetime s a) (h : step s a = some s') : Rotated kid s' := by
  obtain ⟨now, action⟩ := a
  obtain ⟨hclock, ⟨p, rfl, rfl⟩ | ⟨slot, pair, rfl, rfl⟩⟩ := step_cases h
  · exact rotated_loaded hs p hclock
  · exact rotated_replaced hs hclock ha

theorem rotated_init {kid : PrivateKey → String} {files : Slot → CertKeyPair PrivateKey}
    (h : kid (files .first).privateKey ≠ kid (files .second).privateKey) : Rotated kid (init files) where
  read _ _ _ h := by cases h
  distinct
    | .first => h
    | .second => h.symm
  caches _ _ _ h := by cases h
  rotated _ _ _ h := by cases h

/-- While the tokens that were signed then may be in use, their pair lies in a file: in the newer one, which the
process that signed reads, or in the other, when the last replacement had not taken hold. -/
structure Carried (lifetime : Nat) (p : ProcessId) (signedAt : Nat) (pair : CertKeyPair PrivateKey)
    (s : State PrivateKey) :
    Prop where
  signed : signedAt ≤ s.clock
  held : s.clock < signedAt + lifetime → ∃ slot, s.files slot = pair ∧
    ((slot = newest s.files ∧ ∀ entry, s.caches p slot = some entry → s.clock < entry.2 + cacheTtl → entry.1 = pair) ∨
      (slot = (newest s.files).other ∧ ∃ x ∈ s.rotated, signedAt < x.2.2 + cacheTtl))

theorem carried_signed {kid : PrivateKey → String} {s : State PrivateKey} (hs : Rotated kid s) (lifetime : Nat)
    (p : ProcessId) {now : Nat} (hnow : s.clock ≤ now) :
    Carried lifetime p now (s.pairs p now (newest (s.pairs p now))) (s.loaded p now) := by
  refine ⟨Nat.le_refl now, fun _ => ?_⟩
  by_cases hstale : ∃ slot, s.pairs p now slot ≠ s.files slot
  · -- It still has the pair that was replaced, so the other one is the newer of its two.
    obtain ⟨slot, hslot⟩ := hstale
    obtain hfile | ⟨-, time, hrotated, htime⟩ := pairs_cases hs p hnow slot
    · exact absurd hfile hslot
    · obtain ⟨hnewest, hother, -⟩ := hs.rotated _ _ _ hrotated
      have hview : s.pairs p now slot.other = s.files slot.other := by
        obtain hfile | ⟨-, time', hrotated', -⟩ := pairs_cases hs p hnow slot.other
        · exact hfile
        · rw [hrotated] at hrotated'
          have heq := congrArg Prod.fst (Option.some.inj hrotated')
          exact absurd heq.symm (Slot.other_ne slot)
      have hpairs : s.pairs p now = Function.update s.files slot (s.pairs p now slot) := by
        funext slot'
        obtain rfl | rfl := Slot.eq_or_other slot' slot
        · rw [Function.update_self]
        · rw [Function.update_of_ne (Slot.other_ne _), hview]
      rw [hpairs, hother, ← hpairs, hview]
      exact ⟨slot.other, rfl, .inr ⟨by rw [hnewest]; rfl, _, hrotated, htime⟩⟩
  · have hpairs : s.pairs p now = s.files := funext fun slot => not_not.1 fun hne => hstale ⟨slot, hne⟩
    refine ⟨newest s.files, by rw [hpairs]; rfl, .inl ⟨rfl, fun entry hentry _ => ?_⟩⟩
    unfold State.loaded at hentry
    dsimp only at hentry
    rw [Function.update_self] at hentry
    rw [← Option.some.inj hentry, hpairs]
    exact congrFun hpairs _

theorem carried_loaded {lifetime : Nat} {p : ProcessId} {signedAt : Nat} {pair : CertKeyPair PrivateKey}
    {s : State PrivateKey} (hs : Carried lifetime p signedAt pair s) (q : ProcessId) {now : Nat}
    (hnow : s.clock ≤ now) :
    Carried lifetime p signedAt pair (s.loaded q now) := by
  refine ⟨Nat.le_trans hs.signed hnow, fun halive => ?_⟩
  change now < signedAt + lifetime at halive
  obtain ⟨slot, hslot, ⟨hnewest, hreads⟩ | ⟨hother, hlast⟩⟩ := hs.held (by omega)
  · refine ⟨slot, hslot, .inl ⟨hnewest, fun entry hentry hfresh => ?_⟩⟩
    change now < entry.2 + cacheTtl at hfresh
    obtain hold | ⟨rfl, rfl⟩ := caches_loaded hentry
    · exact hreads entry hold (by omega)
    · obtain ⟨entry, hcache, hunexpired, hload⟩ | hload := load_cases s p now slot
      · rw [hload]
        exact hreads entry hcache (by omega)
      · rw [hload]
        exact hslot
  · exact ⟨slot, hslot, .inr ⟨hother, hlast⟩⟩

theorem carried_replaced {kid : PrivateKey → String} {lifetime : Nat} {p : ProcessId} {signedAt : Nat}
    {pair : CertKeyPair PrivateKey} {s : State PrivateKey} (hs : Carried lifetime p signedAt pair s) {slot : Slot}
    {new : CertKeyPair PrivateKey} {now : Nat} (hnow : s.clock ≤ now)
    (h : ReplacesOlder kid lifetime s (now, .replaces slot new)) :
    Carried lifetime p signedAt pair (s.replaced slot new now) := by
  refine ⟨Nat.le_trans hs.signed hnow, fun halive => ?_⟩
  change now < signedAt + lifetime at halive
  obtain ⟨hslot, hnewer, -, hlast⟩ := h slot new rfl
  obtain ⟨held, hheld, ⟨rfl, -⟩ | ⟨-, x, hx, hsigned⟩⟩ := hs.held (by omega)
  · -- The pair that was the newer one is the older one now, and it was signed before.
    refine ⟨newest s.files, ?_, .inr ⟨?_, _, rfl, ?_⟩⟩
    · unfold State.replaced
      dsimp only
      rw [hslot, Function.update_of_ne (Slot.other_ne _).symm]
      exact hheld
    · unfold State.replaced
      dsimp only
      rw [newest_update hnewer, hslot, Slot.other_other]
    · have hsigned := hs.signed
      have hpos : 0 < cacheTtl := by decide
      dsimp only
      omega
  · have hpassed := hlast x hx
    dsimp only at hpassed
    omega

theorem carried_step {kid : PrivateKey → String} {lifetime : Nat} {p : ProcessId} {signedAt : Nat}
    {pair : CertKeyPair PrivateKey} {s s' : State PrivateKey} {a : Nat × Action PrivateKey}
    (hs : Carried lifetime p signedAt pair s) (ha : ReplacesOlder kid lifetime s a) (h : step s a = some s') :
    Carried lifetime p signedAt pair s' := by
  obtain ⟨now, action⟩ := a
  obtain ⟨hclock, ⟨q, rfl, rfl⟩ | ⟨slot, new, rfl, rfl⟩⟩ := step_cases h
  · exact carried_loaded hs q hclock
  · exact carried_replaced hs hclock ha

theorem pairs_of_carried {kid : PrivateKey → String} {lifetime : Nat} {p q : ProcessId} {signedAt : Nat}
    {pair : CertKeyPair PrivateKey} {s : State PrivateKey} (hs : Rotated kid s)
    (hpair : Carried lifetime p signedAt pair s)
    {now : Nat} (hnow : s.clock ≤ now) (halive : now < signedAt + lifetime) (hq : q = p ∨ ¬ Stale s q now) :
    ∃ slot, s.pairs q now slot = pair ∧ kid (s.pairs q now slot.other).privateKey ≠ kid pair.privateKey := by
  obtain ⟨slot, hslot, hreads⟩ := hpair.held (by omega)
  have hfile : s.pairs q now slot = s.files slot := by
    obtain hfile | ⟨hstale, time, hrotated, htime⟩ := pairs_cases hs q hnow slot
    · exact hfile
    · obtain rfl | hcurrent := hq
      · obtain ⟨hnewest, hreads⟩ | ⟨hother, -⟩ := hreads
        · -- It has read the file since it signed.
          unfold State.pairs
          obtain ⟨entry, hcache, hfresh, hload⟩ | hload := load_cases s q now slot
          · rw [hload, hslot]
            exact hreads entry hcache (by omega)
          · rw [hload]
        · rw [(hs.rotated _ _ _ hrotated).1] at hother
          exact absurd hother.symm (Slot.other_ne _)
      · exact absurd hstale hcurrent
  refine ⟨slot, hfile.trans hslot, ?_⟩
  rw [← hslot]
  obtain hother | ⟨-, time, hrotated, -⟩ := pairs_cases hs q hnow slot.other
  · rw [hother]
    exact (hs.distinct slot).symm
  · have hkid := (hs.rotated _ _ _ hrotated).2.2
    rw [Slot.other_other] at hkid
    exact hkid

end CertificateStore

namespace JwtService

open CertificateStore FixJwt

variable {rsa : Rs256 PrivateKey PublicKey Signature (SignedPart δ)}

theorem decode_of_accepts {s : State PrivateKey} {p : ProcessId} {now : Nat} {slot : Slot} {token : Jwt Signature δ}
    {audience : List String} (h : Accepts rsa now audience (s.pairs p now slot).privateKey token)
    (hkid : kid rsa (s.pairs p now slot.other).privateKey ≠ kid rsa (s.pairs p now slot).privateKey) :
    decode rsa s p now (some token) audience = some token.claims := by
  unfold decode
  rw [publicKeys_eq]
  refine decodeToken_of_accepts ?_ (mem_keys.2 ⟨slot, rfl⟩) h
  rw [List.map_cons, List.map_singleton, List.nodup_cons, List.mem_singleton]
  refine ⟨?_, List.nodup_singleton _⟩
  obtain hslot | hslot := Slot.eq_or_other slot (newest (s.pairs p now))
  · rw [← hslot]
    exact hkid.symm
  · rw [hslot, Slot.other_other] at hkid
    exact hkid

/-- **A token is accepted until it expires**, when the older key is replaced each time and not again before the tokens
of the one before have expired: by the process that signed it always, and by any other one but for the minute in which
it has the pair in its cache that was replaced. -/
theorem decode_encode {files : Slot → CertKeyPair PrivateKey} {lifetime : Nat}
    {before after : List (Nat × Action PrivateKey)}
    {signing s : State PrivateKey} (hfiles : kid rsa (files .first).privateKey ≠ kid rsa (files .second).privateKey)
    (hbefore : run step (init files) before = some signing)
    (hbeforeC : Along step (ReplacesOlder (kid rsa) lifetime) (init files) before)
    {p : ProcessId} {signedAt : Nat} (hclock : signing.clock ≤ signedAt) {exp : Nat}
    (hexp : exp * secondMicros ≤ signedAt + lifetime) (data : δ) {audience : List String} (haudience : audience ≠ [])
    (hafter : run step (signing.loaded p signedAt) after = some s)
    (hafterC : Along step (ReplacesOlder (kid rsa) lifetime) (signing.loaded p signedAt) after)
    {q : ProcessId} {now : Nat} (hnow : s.clock ≤ now) (halive : now < exp * secondMicros)
    (hq : q = p ∨ ¬ Stale s q now) :
    decode rsa s q now (some (encode rsa signing p signedAt (some exp) data audience)) audience =
      some ⟨audience, some exp, data⟩ := by
  have hsigning : Rotated (kid rsa) signing :=
    run_along (fun _ _ _ hs ha h => rotated_step hs ha h) (rotated_init hfiles) hbeforeC hbefore
  have hboth : Rotated (kid rsa) s ∧ Carried lifetime p signedAt
      (signing.pairs p signedAt (newest (signing.pairs p signedAt))) s :=
    run_along (I := fun s => Rotated (kid rsa) s ∧ Carried lifetime p signedAt
        (signing.pairs p signedAt (newest (signing.pairs p signedAt))) s)
      (fun _ _ _ hs ha h => ⟨rotated_step hs.1 ha h, carried_step hs.2 ha h⟩)
      ⟨rotated_loaded hsigning p hclock, carried_signed hsigning lifetime p hclock⟩ hafterC hafter
  obtain ⟨hrotated, hcarried⟩ := hboth
  obtain ⟨slot, hpair, hother⟩ := pairs_of_carried hrotated hcarried hnow (Nat.lt_of_lt_of_le halive hexp) hq
  have haccepts : Accepts rsa now audience (s.pairs q now slot).privateKey
      (encodeToken rsa (some exp) data audience (s.pairs q now slot).privateKey) :=
    accepts_encodeToken rsa _ data (fun e he => by rw [← Option.some.inj he]; exact halive) haudience
  rw [← hpair] at hother
  have hdecode := decode_of_accepts haccepts hother
  rw [hpair] at hdecode
  exact hdecode

/-! ## Tokens of an application -/

variable (rsa) in
/-- Nobody but the application, which issued some tokens, signs with the keys that the process has. -/
def Unforged (issued : List (Jwt Signature δ)) (s : State PrivateKey) (p : ProcessId) (now : Nat)
    (token : Option (Jwt Signature δ)) : Prop := ∀ t, token = some t → ∀ slot,
  t.signature = rsa.sign (s.pairs p now slot).privateKey (t.kid, t.claims) → t ∈ issued

theorem issued_of_decode {issued : List (Jwt Signature δ)} {s : State PrivateKey} {p : ProcessId} {now : Nat}
    {token : Option (Jwt Signature δ)} (hunforged : Unforged rsa issued s p now token) {audience : List String}
    {claims : Claims δ} (h : decode rsa s p now token audience = some claims) :
    ∃ t ∈ issued, token = some t ∧ claims = t.claims ∧ ∃ a ∈ audience, a ∈ t.claims.aud := by
  cases token with
  | none => cases h
  | some t =>
    obtain ⟨hclaims, slot, haccepts⟩ := accepts_of_decode h
    exact ⟨t, hunforged t rfl slot haccepts.signature, rfl, hclaims, haccepts.addressed⟩

variable (rsa) in
/-- The process still has the key that signed the token, and its other key is told from it. -/
def Held (s : State PrivateKey) (p : ProcessId) (now : Nat) (token : Jwt Signature δ) : Prop :=
  ∃ slot, token = encodeToken rsa token.claims.exp token.claims.data token.claims.aud (s.pairs p now slot).privateKey ∧
    kid rsa (s.pairs p now slot.other).privateKey ≠ kid rsa (s.pairs p now slot).privateKey

/-- A token without a time is accepted for ever by a process that has its key. -/
theorem decode_of_held {s : State PrivateKey} {p : ProcessId} {now : Nat} {token : Jwt Signature δ}
    (h : Held rsa s p now token) (hexp : token.claims.exp = none) (haudience : token.claims.aud ≠ []) :
    decode rsa s p now (some token) token.claims.aud = some token.claims := by
  obtain ⟨slot, htoken, hkid⟩ := h
  have hinTime : ∀ e ∈ token.claims.exp, now < e * secondMicros := by
    intro e he
    rw [hexp] at he
    cases he
  have haccepts : Accepts rsa now token.claims.aud (s.pairs p now slot).privateKey (encodeToken rsa token.claims.exp
      token.claims.data token.claims.aud (s.pairs p now slot).privateKey) :=
    accepts_encodeToken rsa _ token.claims.data hinTime haudience
  rw [← htoken] at haccepts
  exact decode_of_accepts haccepts hkid

/-! ### Keys 1 and 2, of which the first is replaced by key 3 -/

/-- A signature is the message with the key. -/
def plainRsa (δ : Type) [DecidableEq δ] : Rs256 Nat Nat (Nat × SignedPart δ) (SignedPart δ) where
  publicKey := id
  kid key := String.ofList (List.replicate key 'k')
  sign := Prod.mk
  verify key m signature := decide (signature = (key, m))
  verify_iff _ _ _ := decide_eq_true_iff

def twoPairs : Slot → CertKeyPair Nat
  | .first => ⟨1000, 1⟩
  | .second => ⟨2000, 2⟩

/-- Process 0 has both pairs in its cache when the older one is replaced. -/
def replaces : List (Nat × Action Nat) :=
  [(10 * secondMicros, .loads 0), (20 * secondMicros, .replaces .first ⟨3000, 3⟩)]

def replacedFirst : State Nat := ((init twoPairs).loaded 0 (10 * secondMicros)).replaced .first ⟨3000, 3⟩
    (20 * secondMicros)

theorem run_replaces : run step (init twoPairs) replaces = some replacedFirst := rfl

theorem accepted_after_removal_first :
    (⟨["login"], some 100, "user"⟩ : Claims String) = ⟨["login"], some 100, "user"⟩ ∧
      ∃ other, other ≠ 1 ∧ Accepts (plainRsa String) (80 * secondMicros) ["login"] other
        (encode (plainRsa String) replacedFirst 0 (30 * secondMicros) (some 100) "user" ["login"]) := by
  have hafter : run step replacedFirst [(30 * secondMicros, .loads 0)] =
      some (replacedFirst.loaded 0 (30 * secondMicros)) := rfl
  have hdecode : decode (plainRsa String) (replacedFirst.loaded 0 (30 * secondMicros)) 1 (80 * secondMicros)
      (some (encode (plainRsa String) replacedFirst 0 (30 * secondMicros) (some 100) "user" ["login"])) ["login"] =
        some ⟨["login"], some 100, "user"⟩ := by decide +kernel
  refine accepted_after_removal run_replaces ?_ hafter ?_ (by decide) hdecode
  · intro slot
    cases slot <;> decide
  · intro a ha
    rw [List.mem_singleton.1 ha]
    rintro ⟨slot, pair, h, -⟩
    cases h

theorem along_replaces : Along step (ReplacesOlder (kid (plainRsa String)) (100 * secondMicros))
    (init twoPairs) replaces := by
  refine along_cons (fun slot pair h => by cases h) rfl (along_cons (fun slot pair h => ?_) rfl trivial)
  cases h
  exact ⟨rfl, by decide, by decide, fun x hx => by cases hx⟩

/-- Process 0 signs with key 2 still; process 1 accepts the token. -/
theorem decode_encode_replaced :
    decode (plainRsa String) (replacedFirst.loaded 0 (30 * secondMicros)) 1 (90 * secondMicros)
      (some (encode (plainRsa String) replacedFirst 0 (30 * secondMicros) (some 100) "user" ["login"])) ["login"] =
        some ⟨["login"], some 100, "user"⟩ := by
  have hafter : run step (replacedFirst.loaded 0 (30 * secondMicros)) [] = some _ := rfl
  refine decode_encode (by decide) run_replaces along_replaces (by decide) (by decide) "user" (by decide) hafter trivial
    (by decide) (by decide) (.inr ?_)
  rintro ⟨slot, entry, hentry, -⟩
  cases hentry

end JwtService

end Fix
