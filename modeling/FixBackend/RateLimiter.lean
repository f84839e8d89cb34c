import FixBackend.TokenBucket
import Mathlib.Data.Rat.Cast.Order
import Mathlib.Tactic.FieldSimp
import Mathlib.Tactic.Positivity
/-!
# RateLimiter — how often a login may be tried

`fixbackend/auth/rate_limiter.py`: a script in Redis that counts the tokens of a key down and derives the refill from
the remaining life of the key.  The limiter never admits more than a token bucket (`admitted_within_bucket`), but it
forgets the refill with every call it admits (`keepsUp_iff`).  A history of calls is a list, the latest call first.
-/
namespace Fix

open TokenBucket

/-! ## The commands of Redis -/

/-- The value of a key and the time at which it expires. -/
structure RedisEntry where
  value : Int
  expiresAt : Option Nat
deriving DecidableEq

abbrev RedisKeys := String → Option RedisEntry

namespace RedisKeys

def live (r : RedisKeys) (now : Nat) (key : String) : Option RedisEntry :=
  (r key).filter fun e => e.expiresAt.all fun expiry => decide (now < expiry)

def get (r : RedisKeys) (now : Nat) (key : String) : Option Int := (live r now key).map (·.value)

/-- The remaining whole seconds, -1 without an expiry and -2 without the key. -/
def ttl (r : RedisKeys) (now : Nat) (key : String) : Int :=
  match live r now key with
  | none => -2
  | some ⟨_, none⟩ => -1
  | some ⟨_, some expiry⟩ => expiry - now

def set (r : RedisKeys) (key : String) (value : Int) : RedisKeys := Function.update r key (some ⟨value, none⟩)

/-- The expiry stays; a missing key counts as zero. -/
def decr (r : RedisKeys) (now : Nat) (key : String) : RedisKeys :=
  match live r now key with
  | none => Function.update r key (some ⟨-1, none⟩)
  | some e => Function.update r key (some { e with value := e.value - 1 })

def expire (r : RedisKeys) (now : Nat) (key : String) (seconds : Nat) : RedisKeys :=
  match live r now key with
  | none => r
  | some e => Function.update r key (some { e with expiresAt := some (now + seconds) })

section Others

variable {r : RedisKeys} {now : Nat} {key key' : String}

theorem set_of_ne (h : key' ≠ key) (value : Int) : set r key value key' = r key' := Function.update_of_ne h _ _

theorem decr_of_ne (h : key' ≠ key) : decr r now key key' = r key' := by
  unfold decr
  cases live r now key with
  | none => exact Function.update_of_ne h _ _
  | some e => exact Function.update_of_ne h _ _

theorem expire_of_ne (h : key' ≠ key) (seconds : Nat) : expire r now key seconds key' = r key' := by
  unfold expire
  cases live r now key with
  | none => rfl
  | some e => exact Function.update_of_ne h _ _

end Others

end RedisKeys

/-! ## The limiter -/

/-- `window` is the whole seconds of the time span. -/
structure LoginRateLimiter where
  limit : Nat
  window : Nat

def rateLimitScript (bucketKey : String) (limit window now : Nat) (r : RedisKeys) : Nat × RedisKeys :=
  let refillRate : ℚ := limit / window
  -- get or create the bucket and ttl
  let (tokens, ttl, r) : ℚ × ℚ × RedisKeys :=
    match RedisKeys.get r now bucketKey with
    | none => (limit, window, RedisKeys.set r bucketKey limit)
    | some tokens => (tokens, RedisKeys.ttl r now bucketKey, r)
  -- calculate the new number of tokens
  let timePassed := window - ttl
  let newTokens := min (limit : ℚ) (tokens + timePassed * refillRate)
  if newTokens < 1 then (0, r)
  else (1, RedisKeys.expire (RedisKeys.decr r now bucketKey) now bucketKey window)

namespace LoginRateLimiter

def bucketKey (key : String) : String := "rate_limit:" ++ key

def consume (l : LoginRateLimiter) (key : String) (now : Nat) (r : RedisKeys) : Bool × RedisKeys :=
  let (allowed, r) := rateLimitScript (bucketKey key) l.limit l.window now r
  (allowed != 0, r)

/-! ## Histories of calls -/

structure Attempt where
  key : String
  now : Nat
deriving DecidableEq

variable (l : LoginRateLimiter)

def redis : List Attempt → RedisKeys
  | [] => fun _ => none
  | a :: earlier => (l.consume a.key a.now (redis earlier)).2

def allows (earlier : List Attempt) (a : Attempt) : Bool := (l.consume a.key a.now (l.redis earlier)).1

def admitted (key : String) : List Attempt → List Nat
  | [] => []
  | a :: earlier =>
    if a.key = key ∧ l.allows earlier a = true then a.now :: admitted key earlier else admitted key earlier

def bucket : Bucket ℚ := ⟨l.limit, l.limit / l.window⟩

/-- The times of charges as instants of the bucket. -/
def seconds (ts : List Nat) : List ℚ := ts.map fun (t : Nat) => (t : ℚ)

/-- The times at which the bucket alone admits the calls for a key. -/
def granted (key : String) : List Attempt → List Nat
  | [] => []
  | a :: earlier =>
    if a.key = key ∧ l.bucket.Admits (seconds (granted key earlier)) a.now then a.now :: granted key earlier
    else granted key earlier

/-! ## What is stored for a key -/

/-- How many charges there are since the last pause of a window. -/
def streak (window : Nat) : List Nat → Nat
  | [] => 0
  | [_] => 1
  | t :: s :: earlier => if s + window ≤ t then 1 else streak window (s :: earlier) + 1

def stored : List Nat → Option RedisEntry
  | [] => none
  | last :: earlier => some ⟨l.limit - streak l.window (last :: earlier), some (last + l.window)⟩

/-- There is room for a charge: the key is new or has paused for a window, or the tokens and the refill since the last
charge suffice. -/
def Room (now : Nat) : List Nat → Prop
  | [] => True
  | last :: earlier => last + l.window ≤ now ∨
    1 ≤ (l.limit - streak l.window (last :: earlier) + (now - last) * (l.limit / l.window) : ℚ)

variable {l} {r : RedisKeys} {key : String} {now : Nat} {ts : List Nat}

theorem consume_of_not_live (hlimit : 1 ≤ l.limit) (hlive : RedisKeys.live r now (bucketKey key) = none) :
    l.consume key now r =
      (true, Function.update r (bucketKey key) (some ⟨l.limit - 1, some (now + l.window)⟩)) := by
  have hone : ¬ min (l.limit : ℚ) (l.limit + (l.window - l.window) * (l.limit / l.window)) < 1 := by
    rw [sub_self, zero_mul, add_zero, min_self, not_lt]
    exact_mod_cast hlimit
  unfold consume rateLimitScript RedisKeys.get
  rw [hlive]
  dsimp only [Option.map_none]
  rw [if_neg hone]
  have hset : RedisKeys.live (RedisKeys.set r (bucketKey key) l.limit) now (bucketKey key) = some ⟨l.limit, none⟩ := by
    simp [RedisKeys.live, RedisKeys.set]
  have hdecr : RedisKeys.decr (RedisKeys.set r (bucketKey key) l.limit) now (bucketKey key) =
      Function.update r (bucketKey key) (some ⟨l.limit - 1, none⟩) := by
    unfold RedisKeys.decr
    rw [hset]
    exact Function.update_idem _ _ _
  have hlive' : RedisKeys.live (Function.update r (bucketKey key) (some ⟨(l.limit : Int) - 1, none⟩)) now
      (bucketKey key) = some ⟨l.limit - 1, none⟩ := by simp [RedisKeys.live]
  rw [hdecr]
  unfold RedisKeys.expire
  rw [hlive']
  dsimp only
  rw [Function.update_idem]
  rfl

theorem consume_of_live {value : Int} {expiry : Nat} (hlive : now < expiry)
    (hr : r (bucketKey key) = some ⟨value, some expiry⟩) :
    l.consume key now r =
      if min (l.limit : ℚ) (value + (l.window - ((expiry : Int) - now : Int)) * (l.limit / l.window)) < 1 then
        (false, r)
      else (true, Function.update r (bucketKey key) (some ⟨value - 1, some (now + l.window)⟩)) := by
  have hread : RedisKeys.live r now (bucketKey key) = some ⟨value, some expiry⟩ := by
    simp [RedisKeys.live, hr, hlive]
  unfold consume rateLimitScript RedisKeys.get RedisKeys.ttl
  rw [hread]
  dsimp only [Option.map_some]
  split
  · rfl
  · have hdecr : RedisKeys.decr r now (bucketKey key) =
        Function.update r (bucketKey key) (some ⟨value - 1, some expiry⟩) := by
      unfold RedisKeys.decr
      rw [hread]
    have hlive' : RedisKeys.live (Function.update r (bucketKey key) (some ⟨value - 1, some expiry⟩)) now
        (bucketKey key) = some ⟨value - 1, some expiry⟩ := by simp [RedisKeys.live, hlive]
    rw [hdecr]
    unfold RedisKeys.expire
    rw [hlive']
    dsimp only
    rw [Function.update_idem]
    rfl

theorem live_of_pause {last : Nat} {earlier : List Nat} (hr : r (bucketKey key) = l.stored (last :: earlier))
    (hpause : last + l.window ≤ now) : RedisKeys.live r now (bucketKey key) = none := by
  unfold RedisKeys.live
  rw [hr]
  simp [stored, Nat.not_lt.2 hpause]

theorem refill_eq {last : Nat} {earlier : List Nat} :
    (((l.limit - streak l.window (last :: earlier) : Int) : ℚ) +
        (l.window - (((last + l.window : Nat) : Int) - now : Int)) * (l.limit / l.window)) =
      l.limit - streak l.window (last :: earlier) + (now - last) * (l.limit / l.window) := by
  push_cast
  ring

theorem min_lt_one_iff (hlimit : 1 ≤ l.limit) {x : ℚ} : min (l.limit : ℚ) x < 1 ↔ ¬ 1 ≤ x := by
  have hone : ¬ (l.limit : ℚ) < 1 := not_lt.2 (by exact_mod_cast hlimit)
  rw [min_lt_iff, not_le]
  exact or_iff_right hone

/-- **A call with room is charged.** -/
theorem consume_of_room (hlimit : 1 ≤ l.limit) (hr : r (bucketKey key) = l.stored ts) (hroom : l.Room now ts) :
    l.consume key now r = (true, Function.update r (bucketKey key) (l.stored (now :: ts))) := by
  cases ts with
  | nil =>
    have hlive : RedisKeys.live r now (bucketKey key) = none := by
      unfold RedisKeys.live
      rw [hr]
      rfl
    rw [consume_of_not_live hlimit hlive]
    rfl
  | cons last earlier =>
    by_cases hpause : last + l.window ≤ now
    · rw [consume_of_not_live hlimit (live_of_pause hr hpause)]
      simp [stored, streak, hpause]
    · have henough := hroom.resolve_left hpause
      rw [consume_of_live (Nat.lt_of_not_le hpause) hr, refill_eq, if_neg (by rwa [min_lt_one_iff hlimit, not_not])]
      have hcount : streak l.window (now :: last :: earlier) = streak l.window (last :: earlier) + 1 := by
        rw [streak, if_neg hpause]
      simp only [stored, hcount, Nat.cast_add, Nat.cast_one]
      rw [sub_sub]

/-- **A call without room leaves the key alone.** -/
theorem consume_of_no_room (hlimit : 1 ≤ l.limit) (hr : r (bucketKey key) = l.stored ts) (hroom : ¬ l.Room now ts) :
    l.consume key now r = (false, r) := by
  cases ts with
  | nil => exact absurd trivial hroom
  | cons last earlier =>
    obtain ⟨hpause, hfew⟩ := not_or.1 hroom
    rw [consume_of_live (Nat.lt_of_not_le hpause) hr, refill_eq, if_pos ((min_lt_one_iff hlimit).2 hfew)]

/-! ## What the histories store -/

theorem bucketKey_injective : Function.Injective bucketKey := by
  intro key key' h
  unfold bucketKey at h
  exact (String.append_right_inj _).1 h

theorem consume_other {key' : String} (h : key' ≠ key) :
    (l.consume key now r).2 (bucketKey key') = r (bucketKey key') := by
  have hne : bucketKey key' ≠ bucketKey key := bucketKey_injective.ne h
  unfold consume rateLimitScript
  cases RedisKeys.get r now (bucketKey key) with
  | none =>
    dsimp only
    split
    · exact RedisKeys.set_of_ne hne _
    · exact (RedisKeys.expire_of_ne hne _).trans ((RedisKeys.decr_of_ne hne).trans (RedisKeys.set_of_ne hne _))
  | some tokens =>
    dsimp only
    split
    · rfl
    · exact (RedisKeys.expire_of_ne hne _).trans (RedisKeys.decr_of_ne hne)

/-- **What is stored for a key** follows from the times at which its calls were admitted. -/
theorem redis_eq (hlimit : 1 ≤ l.limit) (key : String) :
    ∀ calls : List Attempt, l.redis calls (bucketKey key) = l.stored (l.admitted key calls)
  | [] => rfl
  | a :: earlier => by
    have ih := redis_eq hlimit key earlier
    rw [redis, admitted]
    by_cases hkey : a.key = key
    · subst hkey
      by_cases hroom : l.Room a.now (l.admitted a.key earlier)
      · have hconsume := consume_of_room hlimit ih hroom
        have hallows : l.allows earlier a = true := congrArg Prod.fst hconsume
        rw [hconsume, if_pos ⟨rfl, hallows⟩]
        exact Function.update_self _ _ _
      · have hconsume := consume_of_no_room hlimit ih hroom
        have hallows : l.allows earlier a = false := congrArg Prod.fst hconsume
        rw [hconsume, hallows, if_neg (fun h => absurd h.2 Bool.false_ne_true)]
        exact ih
    · rw [if_neg fun h => hkey h.1, consume_other (Ne.symm hkey)]
      exact ih

theorem allows_iff (hlimit : 1 ≤ l.limit) {earlier : List Attempt} {a : Attempt} :
    l.allows earlier a = true ↔ l.Room a.now (l.admitted a.key earlier) := by
  have hr := redis_eq hlimit a.key earlier
  unfold allows
  by_cases hroom : l.Room a.now (l.admitted a.key earlier)
  · rw [consume_of_room hlimit hr hroom]
    exact iff_of_true rfl hroom
  · rw [consume_of_no_room hlimit hr hroom]
    exact iff_of_false Bool.false_ne_true hroom

/-! ## The limiter and the bucket -/

variable (l) in
/-- There was room for every charge. -/
def Rooms : List Nat → Prop
  | [] => True
  | t :: earlier => l.Room t earlier ∧ Rooms earlier

def Backward (ts : List Nat) : Prop := ts.Pairwise fun t s => s ≤ t

theorem rate_nonneg (l : LoginRateLimiter) : 0 ≤ l.bucket.rate := by
  unfold bucket
  positivity

theorem capacity_nonneg (l : LoginRateLimiter) : 0 ≤ l.bucket.capacity := Nat.cast_nonneg _

theorem window_refill (hwindow : 0 < l.window) {s t : Nat} (hpause : s + l.window ≤ t) :
    (l.limit : ℚ) ≤ (t - s) * l.bucket.rate := by
  have hW : (0 : ℚ) < l.window := by exact_mod_cast hwindow
  have hgap : (l.window : ℚ) ≤ t - s := by
    have h : ((s + l.window : Nat) : ℚ) ≤ t := by exact_mod_cast hpause
    push_cast at h
    linarith
  calc (l.limit : ℚ) = l.window * l.bucket.rate := by
        unfold bucket
        field_simp
    _ ≤ (t - s) * l.bucket.rate := mul_le_mul_of_nonneg_right hgap (rate_nonneg l)

/-- The bucket holds what the counter does, and what it kept of the refill. -/
structure Covers (l : LoginRateLimiter) (ts : List Nat) : Prop where
  counter : (l.limit - streak l.window ts : ℚ) ≤ (l.bucket.level (seconds ts)).tokens
  nonneg : 0 ≤ (l.bucket.level (seconds ts)).tokens

theorem Covers.admits (h : Covers l ts) (hlimit : 1 ≤ l.limit) (hwindow : 0 < l.window) (hroom : l.Room now ts) :
    l.bucket.Admits (seconds ts) now := by
  have hone : (1 : ℚ) ≤ l.limit := by exact_mod_cast hlimit
  refine le_min hone ?_
  cases ts with
  | nil =>
    have hgain : 0 ≤ ((now : ℚ) - 0) * l.bucket.rate :=
      mul_nonneg (by rw [sub_zero]; exact Nat.cast_nonneg _) (rate_nonneg l)
    exact hone.trans (le_add_of_nonneg_right hgain)
  | cons last earlier =>
    rcases hroom with hpause | henough
    · have hfull := window_refill hwindow hpause
      have hnonneg := h.nonneg
      change 1 ≤ (l.bucket.level (seconds (last :: earlier))).tokens + (now - last) * l.bucket.rate
      linarith
    · have hcounter := h.counter
      change 1 ≤ (l.bucket.level (seconds (last :: earlier))).tokens + (now - last) * l.bucket.rate
      have hrate : l.bucket.rate = l.limit / l.window := rfl
      rw [hrate]
      linarith

/-- **The simulation**: with room for every charge the bucket covers the counter. -/
theorem covers_of_rooms (hlimit : 1 ≤ l.limit) (hwindow : 0 < l.window) :
    ∀ {ts : List Nat}, l.Rooms ts → Backward ts → Covers l ts
  | [], _, _ => ⟨by simp [streak, seconds, Bucket.level, bucket], by simp [seconds, Bucket.level, bucket]⟩
  | t :: earlier, hrooms, hback => by
    obtain ⟨hbefore, hrest⟩ := List.pairwise_cons.1 hback
    have ih := covers_of_rooms hlimit hwindow hrooms.2 hrest
    have hadmits := ih.admits hlimit hwindow hrooms.1
    have hlevel : (l.bucket.level (seconds (t :: earlier))).tokens =
        l.bucket.refilled (l.bucket.level (seconds earlier)) t - 1 := rfl
    refine ⟨?_, ?_⟩
    · rw [hlevel]
      cases earlier with
      | nil =>
        have hgain : 0 ≤ ((t : ℚ) - 0) * l.bucket.rate :=
          mul_nonneg (by rw [sub_zero]; exact Nat.cast_nonneg _) (rate_nonneg l)
        have hfull : (l.limit : ℚ) ≤ l.bucket.refilled (l.bucket.level (seconds [])) t :=
          le_min le_rfl (le_add_of_nonneg_right hgain)
        rw [streak, Nat.cast_one]
        exact sub_le_sub_right hfull 1
      | cons s earlier =>
        have hgain : 0 ≤ ((t : ℚ) - s) * l.bucket.rate := by
          refine mul_nonneg (sub_nonneg.2 ?_) (rate_nonneg l)
          exact_mod_cast hbefore s List.mem_cons_self
        rw [streak]
        by_cases hpause : s + l.window ≤ t
        · have hfull : (l.limit : ℚ) ≤ l.bucket.refilled (l.bucket.level (seconds (s :: earlier))) t :=
            le_min le_rfl ((window_refill hwindow hpause).trans (le_add_of_nonneg_left ih.nonneg))
          rw [if_pos hpause, Nat.cast_one]
          exact sub_le_sub_right hfull 1
        · have hsame : (l.limit - streak l.window (s :: earlier) : ℚ) ≤
              l.bucket.refilled (l.bucket.level (seconds (s :: earlier))) t :=
            le_min (sub_le_self _ (Nat.cast_nonneg _)) (ih.counter.trans (le_add_of_nonneg_right hgain))
          rw [if_neg hpause, Nat.cast_add, Nat.cast_one, ← sub_sub]
          exact sub_le_sub_right hsame 1
    · rw [hlevel]
      exact sub_nonneg.2 hadmits

theorem admitted_rooms (hlimit : 1 ≤ l.limit) (key : String) : ∀ calls : List Attempt, l.Rooms (l.admitted key calls)
  | [] => trivial
  | a :: earlier => by
    have ih := admitted_rooms hlimit key earlier
    rw [admitted]
    split
    · rename_i h
      obtain ⟨rfl, hallows⟩ := h
      exact ⟨(allows_iff hlimit).1 hallows, ih⟩
    · exact ih

def InOrder (calls : List Attempt) : Prop := calls.Pairwise fun a b => b.now ≤ a.now

theorem admitted_sublist (key : String) :
    ∀ calls : List Attempt, (l.admitted key calls).Sublist (calls.map (·.now))
  | [] => List.Sublist.refl _
  | a :: earlier => by
    rw [admitted]
    split
    · exact (admitted_sublist key earlier).cons_cons a.now
    · exact (admitted_sublist key earlier).cons a.now

theorem admitted_backward {calls : List Attempt} (h : InOrder calls) (key : String) :
    Backward (l.admitted key calls) := by
  have hmap : Backward (calls.map (·.now)) := List.pairwise_map.2 h
  exact hmap.sublist (admitted_sublist key calls)

theorem seconds_backward (h : Backward ts) : (seconds ts).Pairwise fun x y => y ≤ x := by
  unfold seconds
  rw [List.pairwise_map]
  exact h.imp fun hle => by exact_mod_cast hle

theorem admitted_of_rooms (hlimit : 1 ≤ l.limit) (hwindow : 0 < l.window) :
    ∀ {ts : List Nat}, l.Rooms ts → Backward ts → l.bucket.Admitted (seconds ts)
  | [], _, _ => trivial
  | t :: earlier, hrooms, hback => by
    have hrest := (List.pairwise_cons.1 hback).2
    exact ⟨(covers_of_rooms hlimit hwindow hrooms.2 hrest).admits hlimit hwindow hrooms.1,
      admitted_of_rooms hlimit hwindow hrooms.2 hrest⟩

/-- **The limiter never admits more than a token bucket.**  Each call that is admitted has a token of the bucket that
was charged for the calls admitted before it, and so any interval holds no more of them than the bucket and its
refill. -/
theorem admitted_within_bucket (l : LoginRateLimiter) (hlimit : 1 ≤ l.limit) (hwindow : 0 < l.window)
    (calls : List Attempt) (horder : InOrder calls) (key : String) :
    (∀ later (now : Nat) earlier, calls = later ++ ⟨key, now⟩ :: earlier → l.allows earlier ⟨key, now⟩ = true →
      l.bucket.Admits (seconds (l.admitted key earlier)) now) ∧
    ∀ start duration : ℚ, 0 ≤ duration →
      ((Bucket.between (seconds (l.admitted key calls)) start (start + duration)).length : ℚ) ≤
        l.limit + duration * (l.limit / l.window) := by
  constructor
  · rintro later now earlier rfl hallows
    have hearlier : InOrder earlier := (List.pairwise_cons.1 (List.pairwise_append.1 horder).2.1).2
    have hcovers := covers_of_rooms hlimit hwindow (admitted_rooms hlimit key earlier) (admitted_backward hearlier key)
    exact hcovers.admits hlimit hwindow ((allows_iff hlimit).1 hallows)
  · intro start duration hduration
    have hadmitted := admitted_of_rooms hlimit hwindow (admitted_rooms hlimit key calls) (admitted_backward horder key)
    exact hadmitted.length_between_le (capacity_nonneg l) (rate_nonneg l) hduration
      (seconds_backward (admitted_backward horder key))

/-! ## The refill that is forgotten -/

/-- The limiter admits every call that the bucket alone would admit. -/
def KeepsUp (l : LoginRateLimiter) (key : String) (calls : List Attempt) : Prop :=
  ∀ later (now : Nat) earlier, calls = later ++ ⟨key, now⟩ :: earlier →
    l.bucket.Admits (seconds (l.granted key earlier)) now → l.allows earlier ⟨key, now⟩ = true

/-- Whenever the bucket alone would admit a call, its streak is short enough: the tokens that are left of the limit
after it and the refill since its last charge make up one token, or there was a pause of a window. -/
def ShortStreaks (l : LoginRateLimiter) (key : String) (calls : List Attempt) : Prop :=
  ∀ later (now : Nat) earlier, calls = later ++ ⟨key, now⟩ :: earlier →
    l.bucket.Admits (seconds (l.granted key earlier)) now → l.Room now (l.granted key earlier)

theorem admitted_eq_granted {calls : List Attempt}
    (h : ∀ later (now : Nat) earlier, calls = later ++ ⟨key, now⟩ :: earlier →
      l.admitted key earlier = l.granted key earlier →
      (l.allows earlier ⟨key, now⟩ = true ↔ l.bucket.Admits (seconds (l.granted key earlier)) now)) :
    ∀ later earlier, calls = later ++ earlier → l.admitted key earlier = l.granted key earlier
  | _, [], _ => rfl
  | later, a :: earlier, hcalls => by
    have ih := admitted_eq_granted h (later ++ [a]) earlier (by rw [hcalls, List.append_assoc]; rfl)
    rw [admitted, granted]
    by_cases hkey : a.key = key
    · subst hkey
      have hagree := h later a.now earlier hcalls ih
      by_cases hallows : l.allows earlier a = true
      · rw [if_pos ⟨rfl, hallows⟩, if_pos ⟨rfl, hagree.1 hallows⟩, ih]
      · rw [if_neg fun hx => hallows hx.2, if_neg fun hx => hallows (hagree.2 hx.2), ih]
    · rw [if_neg fun hx => hkey hx.1, if_neg fun hx => hkey hx.1, ih]

/-- **The limiter keeps up with the bucket, exactly while the streaks are short**: a charge resets the life of the key,
and the refill before it is lost to the counter. -/
theorem keepsUp_iff (l : LoginRateLimiter) (hlimit : 1 ≤ l.limit) (hwindow : 0 < l.window) (calls : List Attempt)
    (horder : InOrder calls) (key : String) : KeepsUp l key calls ↔ ShortStreaks l key calls := by
  -- where both have admitted the same, the limiter admits no more than the bucket
  have hwithin : ∀ later (now : Nat) earlier, calls = later ++ ⟨key, now⟩ :: earlier →
      l.admitted key earlier = l.granted key earlier → l.allows earlier ⟨key, now⟩ = true →
        l.bucket.Admits (seconds (l.granted key earlier)) now := by
    rintro later now earlier rfl hsame hallows
    have hearlier : InOrder earlier := (List.pairwise_cons.1 (List.pairwise_append.1 horder).2.1).2
    have hcovers := covers_of_rooms hlimit hwindow (admitted_rooms hlimit key earlier) (admitted_backward hearlier key)
    rw [← hsame]
    exact hcovers.admits hlimit hwindow ((allows_iff hlimit).1 hallows)
  constructor
  · intro h later now earlier hcalls hadmits
    have hsame := admitted_eq_granted
      (fun later now earlier hcalls hsame => ⟨hwithin later now earlier hcalls hsame, h later now earlier hcalls⟩)
      (later ++ [⟨key, now⟩]) earlier (by rw [hcalls, List.append_assoc]; rfl)
    have hroom := (allows_iff hlimit).1 (h later now earlier hcalls hadmits)
    rwa [hsame] at hroom
  · intro h later now earlier hcalls hadmits
    have hallows : ∀ later (now : Nat) earlier, calls = later ++ ⟨key, now⟩ :: earlier →
        l.admitted key earlier = l.granted key earlier →
          l.bucket.Admits (seconds (l.granted key earlier)) now → l.allows earlier ⟨key, now⟩ = true := by
      intro later now earlier hcalls hsame hadmits
      rw [allows_iff hlimit, hsame]
      exact h later now earlier hcalls hadmits
    have hsame := admitted_eq_granted
      (fun later now earlier hcalls hsame => ⟨hwithin later now earlier hcalls hsame,
        hallows later now earlier hcalls hsame⟩)
      (later ++ [⟨key, now⟩]) earlier (by rw [hcalls, List.append_assoc]; rfl)
    exact hallows later now earlier hcalls hsame hadmits

/-! ## A login every fifteen seconds -/

def perMinute : LoginRateLimiter := ⟨4, 60⟩

/-- A client that waits a quarter of a minute between its calls. -/
def steady : List Attempt :=
  [⟨"user", 75⟩, ⟨"user", 60⟩, ⟨"user", 45⟩, ⟨"user", 30⟩, ⟨"user", 15⟩, ⟨"user", 0⟩]

theorem steady_inOrder : InOrder steady := by
  unfold InOrder
  decide

theorem steady_within_bucket :
    perMinute.bucket.Admits (seconds (perMinute.admitted "user" (steady.drop 2))) ((60 : Nat) : ℚ) ∧
      ((Bucket.between (seconds (perMinute.admitted "user" steady)) 0 (0 + 60)).length : ℚ) ≤
        (4 : Nat) + 60 * ((4 : Nat) / (60 : Nat)) := by
  have h := admitted_within_bucket perMinute (by decide) (by decide) steady steady_inOrder "user"
  exact ⟨h.1 [⟨"user", 75⟩] 60 (steady.drop 2) rfl (by decide +kernel), h.2 0 60 (by decide)⟩

theorem paused_keepsUp : KeepsUp perMinute "user" [⟨"user", 75⟩, ⟨"user", 0⟩] := by
  refine (keepsUp_iff perMinute (by decide) (by decide) _ (by unfold InOrder; decide) "user").2 ?_
  rintro later now earlier hcalls -
  rcases later with _ | ⟨a, _ | ⟨b, later⟩⟩
  · simp only [List.nil_append, List.cons.injEq, Attempt.mk.injEq, true_and] at hcalls
    obtain ⟨rfl, rfl⟩ := hcalls
    have hgranted : perMinute.granted "user" [⟨"user", 0⟩] = [0] := by decide +kernel
    rw [hgranted]
    exact Or.inl (by decide)
  · simp only [List.cons_append, List.nil_append, List.cons.injEq, Attempt.mk.injEq, true_and] at hcalls
    obtain ⟨-, rfl, rfl⟩ := hcalls
    exact trivial
  · simp at hcalls

/-- The sixth call of the steady client has a token of the bucket and is denied. -/
theorem steady_denied : steady.map (·.now) = [75, 60, 45, 30, 15, 0] ∧
    perMinute.allows (steady.drop 1) ⟨"user", 75⟩ = false ∧ ¬ KeepsUp perMinute "user" steady := by
  have hdenied : perMinute.allows (steady.drop 1) ⟨"user", 75⟩ = false := by decide +kernel
  refine ⟨rfl, hdenied, fun h => ?_⟩
  have hallows := h [] 75 (steady.drop 1) rfl (by decide +kernel)
  rw [hdenied] at hallows
  exact absurd hallows Bool.false_ne_true

end LoginRateLimiter

end Fix
