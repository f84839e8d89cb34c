import FixBackend.Table
import FixBackend.TaskGroup
/-!
# EventHandlers — the handlers of a domain event, `domain_events/subscriber.py`

The handlers of one event are the tasks of one group, each called by a backoff of its own.  A handler is attempted to
its end exactly when no other one gives up before it.
-/
namespace Fix

open Machine TaskGroup

/-- The policy of `with_backoff` is `again`: whether there is another attempt when attempt `n` has failed. -/
structure Callback (Handler Backoff : Type) where
  callback : Handler
  name : String
  backoff : Backoff
  deriving DecidableEq, Repr

structure EventClass (Json Event Exception : Type) where
  kind : String
  fromJson : Json → Except Exception Event

/-- Where `with_backoff` is, and how many attempts have failed. -/
inductive CallPhase where
  | scheduled
  | attempts (failed : Nat)
  | sleeps (failed : Nat)
  | returned (failed : Nat)
  | raised (failed : Nat)
  deriving DecidableEq, Repr

structure CallbackCall (Handler Backoff Event : Type) where
  callback : Callback Handler Backoff
  event : Event
  phase : CallPhase
  deriving DecidableEq, Repr

inductive CallMove where
  | starts
  | returns
  | raises
  | wakes
  deriving DecidableEq, Repr

variable {Json Event Exception Handler Backoff : Type}

def Callback.call (c : Callback Handler Backoff) (event : Event) : CallbackCall Handler Backoff Event :=
  ⟨c, event, .scheduled⟩

structure HandlerDescriptor (Json Event Exception Handler Backoff : Type) where
  callbacks : List (Callback Handler Backoff)
  eventCls : EventClass Json Event Exception

namespace HandlerDescriptor

def create (eventCls : EventClass Json Event Exception) : HandlerDescriptor Json Event Exception Handler Backoff :=
  ⟨[], eventCls⟩

def withCallback (h : HandlerDescriptor Json Event Exception Handler Backoff) (callback : Handler) (name : String)
    (backoff : Backoff) : HandlerDescriptor Json Event Exception Handler Backoff :=
  ⟨h.callbacks ++ [⟨callback, name, backoff⟩], h.eventCls⟩

def call (h : HandlerDescriptor Json Event Exception Handler Backoff) (event : Event) :
    List (Member (CallbackCall Handler Backoff Event)) := TaskGroup.create (h.callbacks.map (·.call event))

end HandlerDescriptor

/-! ## One callback -/

section Call

variable (again : Backoff → Nat → Bool)

def CallbackCall.step (c : CallbackCall Handler Backoff Event) (move : CallMove) :
    Option (CallbackCall Handler Backoff Event) :=
  match c.phase, move with
  | .scheduled, .starts => some { c with phase := .attempts 0 }
  | .attempts n, .returns => some { c with phase := .returned n }
  | .attempts n, .raises =>
    some { c with phase := if again c.callback.backoff n then .sleeps (n + 1) else .raised (n + 1) }
  | .sleeps n, .wakes => some { c with phase := .attempts n }
  | _, _ => none

def CallbackCall.ended (c : CallbackCall Handler Backoff Event) : Bool :=
  match c.phase with
  | .returned _ | .raised _ => true
  | _ => false

def CallbackCall.raised (c : CallbackCall Handler Backoff Event) : Bool :=
  match c.phase with
  | .raised _ => true
  | _ => false

theorem CallbackCall.ended_iff (c : CallbackCall Handler Backoff Event) :
    c.ended = true ↔ ∀ move, c.step again move = none := by
  obtain ⟨callback, event, phase⟩ := c
  cases phase with
  | scheduled => exact ⟨fun h => (nomatch h), fun h => (nomatch h .starts)⟩
  | attempts n => exact ⟨fun h => (nomatch h), fun h => (nomatch h .returns)⟩
  | sleeps n => exact ⟨fun h => (nomatch h), fun h => (nomatch h .wakes)⟩
  | returned n => exact ⟨fun _ move => by cases move <;> rfl, fun _ => rfl⟩
  | raised n => exact ⟨fun _ move => by cases move <;> rfl, fun _ => rfl⟩

theorem CallbackCall.ended_of_raised (c : CallbackCall Handler Backoff Event) (h : c.raised = true) :
    c.ended = true := by
  obtain ⟨callback, event, phase⟩ := c
  cases phase <;> first | rfl | cases h

def callKind : Kind (CallbackCall Handler Backoff Event) CallMove where
  step := CallbackCall.step again
  ended := CallbackCall.ended
  raised := CallbackCall.raised
  ended_iff := CallbackCall.ended_iff again
  ended_of_raised := CallbackCall.ended_of_raised

end Call

/-! ## The subscriber -/

namespace DomainEventSubscriber

structure Subscription (Json Event Exception Handler Backoff : Type) where
  eventCls : EventClass Json Event Exception
  handler : Handler
  name : String
  backoff : Option Backoff

abbrev Subscribers (Json Event Exception Handler Backoff : Type) :=
  Dict String (HandlerDescriptor Json Event Exception Handler Backoff)

section Subscribe

variable (defaultBackoff : Backoff)

def subscribe (subscribers : Subscribers Json Event Exception Handler Backoff)
    (s : Subscription Json Event Exception Handler Backoff) : Subscribers Json Event Exception Handler Backoff :=
  let existing := (subscribers.get s.eventCls.kind).getD (.create s.eventCls)
  subscribers.put s.eventCls.kind (existing.withCallback s.handler s.name (s.backoff.getD defaultBackoff))

def subscribeAll (subscriptions : List (Subscription Json Event Exception Handler Backoff)) :
    Subscribers Json Event Exception Handler Backoff := subscriptions.foldl (subscribe defaultBackoff) default

/-- `None` when nobody listens to the kind. -/
def processDomainEvent (subscribers : Subscribers Json Event Exception Handler Backoff) (kind : String)
    (message : Json) : Except Exception (Option (List (Member (CallbackCall Handler Backoff Event)))) :=
  match subscribers.get kind with
  | none => .ok none
  | some handler =>
    match handler.eventCls.fromJson message with
    | .error e => .error e
    | .ok event => .ok (some (handler.call event))

def subscribedTo (kind : String) (subscriptions : List (Subscription Json Event Exception Handler Backoff)) :
    List (Callback Handler Backoff) :=
  (subscriptions.filter (·.eventCls.kind = kind)).map fun s => ⟨s.handler, s.name, s.backoff.getD defaultBackoff⟩

def callbacksOf (subscribers : Subscribers Json Event Exception Handler Backoff) (kind : String) :
    List (Callback Handler Backoff) := ((subscribers.get kind).map (·.callbacks)).getD []

theorem callbacksOf_subscribe (subscribers : Subscribers Json Event Exception Handler Backoff) (kind : String)
    (s : Subscription Json Event Exception Handler Backoff) :
    callbacksOf (subscribe defaultBackoff subscribers s) kind =
      callbacksOf subscribers kind ++ subscribedTo defaultBackoff kind [s] := by
  unfold callbacksOf subscribe subscribedTo
  by_cases hk : s.eventCls.kind = kind
  · subst hk
    rw [Dict.get_put_self, List.filter_cons_of_pos (by simp)]
    cases subscribers.get s.eventCls.kind <;> rfl
  · rw [Dict.get_put_of_ne _ _ (Ne.symm hk), List.filter_cons_of_neg (by simpa using hk)]
    simp

theorem callbacksOf_subscribeAll (kind : String)
    (subscriptions : List (Subscription Json Event Exception Handler Backoff)) :
    callbacksOf (subscribeAll defaultBackoff subscriptions) kind = subscribedTo defaultBackoff kind subscriptions := by
  have hfold : ∀ subscribers : Subscribers Json Event Exception Handler Backoff,
      callbacksOf (subscriptions.foldl (subscribe defaultBackoff) subscribers) kind =
        callbacksOf subscribers kind ++ subscribedTo defaultBackoff kind subscriptions := by
    induction subscriptions with
    | nil => intro subscribers; simp [subscribedTo]
    | cons s rest ih =>
      intro subscribers
      rw [List.foldl_cons, ih, callbacksOf_subscribe, List.append_assoc]
      unfold subscribedTo
      rw [← List.map_append, ← List.filter_append, List.singleton_append]
  rw [subscribeAll, hfold]
  rfl

theorem processDomainEvent_some {subscriptions : List (Subscription Json Event Exception Handler Backoff)}
    {kind : String} {message : Json} {g : List (Member (CallbackCall Handler Backoff Event))}
    (h : processDomainEvent (subscribeAll defaultBackoff subscriptions) kind message = .ok (some g)) :
    ∃ event, g = TaskGroup.create ((subscribedTo defaultBackoff kind subscriptions).map (·.call event)) := by
  rw [← callbacksOf_subscribeAll]
  unfold processDomainEvent at h
  unfold callbacksOf
  cases hget : (subscribeAll defaultBackoff subscriptions).get kind with
  | none => rw [hget] at h; cases h
  | some handler =>
    rw [hget] at h
    dsimp only at h
    cases hevent : handler.eventCls.fromJson message with
    | error e => rw [hevent] at h; cases h
    | ok event =>
      rw [hevent] at h
      cases h
      exact ⟨event, rfl⟩

end Subscribe

/-! ## What becomes of the callbacks -/

section Attempts

variable (again : Backoff → Nat → Bool)

def Succeeded (c : CallbackCall Handler Backoff Event) : Prop := ∃ n, c.phase = .returned n

/-- All attempts that the backoff allows have failed. -/
def Exhausted (c : CallbackCall Handler Backoff Event) : Prop :=
  ∃ n, c.phase = .raised (n + 1) ∧ (∀ k < n, again c.callback.backoff k = true) ∧ again c.callback.backoff n = false

/-- Each of the callbacks is called with the event, and in every state that the calls reach it has succeeded, has
exhausted its own backoff, or goes on. -/
structure AttemptedToTheEnd (callbacks : List (Callback Handler Backoff))
    (g : List (Member (CallbackCall Handler Backoff Event))) (moves : List (Nat × CallMove)) : Prop where
  called : ∃ event, g = TaskGroup.create (callbacks.map (·.call event))
  toTheEnd : ∀ pre post mid, moves = pre ++ post → run (TaskGroup.step (callKind again)) g pre = some mid →
    ∀ i c, callbacks[i]? = some c → ∃ m, mid[i]? = some m ∧ m.task.callback = c ∧
      (Succeeded m.task ∨ Exhausted again m.task ∨ ∃ move, (TaskGroup.step (callKind again) mid (i, move)).isSome)

def CallbackCall.lastAttempt (c : CallbackCall Handler Backoff Event) : Bool :=
  match c.phase with
  | .attempts n => !again c.callback.backoff n
  | _ => false

/-- A callback whose last attempt fails does so when the others have ended. -/
def ExhaustsLast (g : List (Member (CallbackCall Handler Backoff Event))) (move : Nat × CallMove) : Prop :=
  move.2 = .raises → ∀ m ∈ g[move.1]?, CallbackCall.lastAttempt again m.task = true →
    ∀ j < g.length, j ≠ move.1 → ∀ m' ∈ g[j]?, m'.task.ended = true

instance decidableExhaustsLast (g : List (Member (CallbackCall Handler Backoff Event))) (move : Nat × CallMove) :
    Decidable (ExhaustsLast again g move) := by unfold ExhaustsLast; infer_instance

/-- The attempts so far are those that the backoff allows. -/
def Followed (c : CallbackCall Handler Backoff Event) : Prop :=
  match c.phase with
  | .scheduled => True
  | .attempts n | .sleeps n | .returned n => ∀ k < n, again c.callback.backoff k = true
  | .raised _ => Exhausted again c

theorem followed_step (c : CallbackCall Handler Backoff Event) (move : CallMove)
    (c' : CallbackCall Handler Backoff Event) (hc : Followed again c) (h : c.step again move = some c') :
    Followed again c' := by
  obtain ⟨callback, event, phase⟩ := c
  cases phase <;> cases move <;> try cases h
  case scheduled.starts => exact fun k hk => absurd hk (Nat.not_lt_zero k)
  case sleeps.wakes n => exact hc
  case attempts.returns n => exact hc
  case attempts.raises n =>
    cases hagain : again callback.backoff n with
    | true =>
      simp only [if_true]
      intro k hk
      rcases Nat.lt_succ_iff_lt_or_eq.1 hk with hlt | rfl
      · exact hc k hlt
      · exact hagain
    | false =>
      simp only [Bool.false_eq_true, if_false]
      exact ⟨n, rfl, hc, hagain⟩

theorem callback_step (c : CallbackCall Handler Backoff Event) (move : CallMove)
    (c' : CallbackCall Handler Backoff Event) (h : c.step again move = some c') : c'.callback = c.callback := by
  obtain ⟨callback, event, phase⟩ := c
  cases phase <;> cases move <;> cases h <;> rfl

theorem ended_iff_of_followed {c : CallbackCall Handler Backoff Event} (hc : Followed again c) :
    c.ended = true ↔ Succeeded c ∨ Exhausted again c := by
  obtain ⟨callback, event, phase⟩ := c
  cases phase with
  | returned n => exact ⟨fun _ => .inl ⟨n, rfl⟩, fun _ => rfl⟩
  | raised n => exact ⟨fun _ => .inr hc, fun _ => rfl⟩
  | scheduled | attempts n | sleeps n =>
    refine ⟨fun h => (nomatch h), ?_⟩
    rintro (⟨n, h⟩ | ⟨n, h, -⟩) <;> cases h

variable {again}

/-- Only the failure of the last attempt ends a call with an exception. -/
theorem step_raised {c c' : CallbackCall Handler Backoff Event} {move : CallMove} (h : c.step again move = some c')
    (hraised : c'.raised = true) : move = .raises ∧ CallbackCall.lastAttempt again c = true := by
  obtain ⟨callback, event, phase⟩ := c
  cases phase <;> cases move <;> cases h
  case scheduled.starts.refl | sleeps.wakes.refl n | attempts.returns.refl n => cases hraised
  case attempts.raises.refl n =>
    refine ⟨rfl, ?_⟩
    unfold CallbackCall.lastAttempt
    cases hagain : again callback.backoff n with
    | false =>
      dsimp only
      rw [hagain]
      rfl
    | true =>
      dsimp only at hraised
      rw [hagain, if_pos rfl] at hraised
      cases hraised

theorem step_lastAttempt {c : CallbackCall Handler Backoff Event} (h : CallbackCall.lastAttempt again c = true) :
    ∃ c', c.step again .raises = some c' ∧ c'.raised = true := by
  obtain ⟨callback, event, phase⟩ := c
  cases phase <;> try cases h
  case attempts n =>
    unfold CallbackCall.lastAttempt at h
    refine ⟨_, rfl, ?_⟩
    rw [if_neg (by simpa using h)]
    rfl

theorem raisesLast_iff (g : List (Member (CallbackCall Handler Backoff Event))) (move : Nat × CallMove) :
    RaisesLast (callKind again) g move ↔ ExhaustsLast again g move := by
  constructor
  · intro hlast hraises m hm hattempt j _ hj m' hm'
    obtain ⟨c', hc', hraised⟩ := step_lastAttempt hattempt
    rw [← hraises] at hc'
    exact hlast m c' hm hc' hraised j m' hj hm'
  · intro hlast m t hm ht hraised j m' hj hm'
    obtain ⟨hmove, hattempt⟩ := step_raised ht hraised
    exact hlast hmove m hm hattempt j (List.getElem?_eq_some_iff.1 hm').1 hj m' hm'

theorem along_raisesLast_iff {g : List (Member (CallbackCall Handler Backoff Event))} {moves : List (Nat × CallMove)} :
    Along (TaskGroup.step (callKind again)) (RaisesLast (callKind again)) g moves ↔
      Along (TaskGroup.step (callKind again)) (ExhaustsLast again) g moves :=
  ⟨along_imp fun g move => (raisesLast_iff g move).1, along_imp fun g move => (raisesLast_iff g move).2⟩

theorem followed_run {callbacks : List (Callback Handler Backoff)} {event : Event}
    {mid : List (Member (CallbackCall Handler Backoff Event))} {pre : List (Nat × CallMove)}
    (hpre : run (TaskGroup.step (callKind again)) (TaskGroup.create (callbacks.map (·.call event))) pre = some mid) :
    ∀ m ∈ mid, Followed again m.task := by
  refine run_forall (followed_step again) (fun m hm => ?_) hpre
  obtain ⟨c, hc, rfl⟩ := List.mem_map.1 hm
  obtain ⟨callback, -, rfl⟩ := List.mem_map.1 hc
  trivial

theorem callbacks_run {callbacks : List (Callback Handler Backoff)} {event : Event}
    {mid : List (Member (CallbackCall Handler Backoff Event))} {pre : List (Nat × CallMove)}
    (hpre : run (TaskGroup.step (callKind again)) (TaskGroup.create (callbacks.map (·.call event))) pre = some mid)
    (i : Nat) : mid[i]?.map (·.task.callback) = callbacks[i]? := by
  have hmap := run_map (callback_step again) hpre
  have hstart : (TaskGroup.create (callbacks.map (·.call event))).map (fun m => m.task.callback) = callbacks := by
    unfold TaskGroup.create
    rw [List.map_map, List.map_map]
    exact List.map_id callbacks
  rw [← List.getElem?_map, hmap, hstart]

end Attempts

/-- **A handler is attempted to its end, whatever the others do, exactly when a handler that exhausts its backoff is the
last one to end.** -/
theorem attemptedToTheEnd_iff (again : Backoff → Nat → Bool) (defaultBackoff : Backoff)
    (subscriptions : List (Subscription Json Event Exception Handler Backoff)) (kind : String) (message : Json)
    {g g' : List (Member (CallbackCall Handler Backoff Event))} {moves : List (Nat × CallMove)}
    (h : processDomainEvent (subscribeAll defaultBackoff subscriptions) kind message = .ok (some g))
    (hrun : run (TaskGroup.step (callKind again)) g moves = some g') :
    AttemptedToTheEnd again (subscribedTo defaultBackoff kind subscriptions) g moves ↔
      Along (TaskGroup.step (callKind again)) (ExhaustsLast again) g moves := by
  obtain ⟨event, rfl⟩ := processDomainEvent_some defaultBackoff h
  rw [← along_raisesLast_iff, ← attended_run_iff hrun]
  constructor
  · intro hall pre post mid hcut hpre i m hm
    have hcallback := callbacks_run hpre i
    rw [hm, Option.map_some] at hcallback
    obtain ⟨m', hm', -, hend⟩ := hall.toTheEnd pre post mid hcut hpre i _ hcallback.symm
    rw [hm] at hm'
    cases hm'
    rw [← or_assoc, ← ended_iff_of_followed again (followed_run hpre m (List.mem_of_getElem? hm))] at hend
    exact hend
  · intro hall
    refine ⟨⟨event, rfl⟩, fun pre post mid hcut hpre i c hc => ?_⟩
    have hcallback := callbacks_run hpre i
    rw [hc] at hcallback
    obtain ⟨m, hm, hmc⟩ := Option.map_eq_some_iff.1 hcallback
    refine ⟨m, hm, hmc, ?_⟩
    rw [← or_assoc, ← ended_iff_of_followed again (followed_run hpre m (List.mem_of_getElem? hm))]
    exact hall pre post mid hcut hpre i m hm

/-! ### Two handlers of `UserRegistered`, one of them without a second attempt -/

def userRegistered : EventClass String String Unit := ⟨"user_registered", .ok⟩

def twoHandlers : List (Subscription String String Unit String Nat) :=
  [⟨userRegistered, "handler1", "handler1", some 0⟩, ⟨userRegistered, "handler2", "handler2", none⟩]

def retries (backoff n : Nat) : Bool := decide (n < backoff)

/-- The second handler fails once, and the first one for good when the second has ended. -/
theorem retried_attemptedToTheEnd : AttemptedToTheEnd retries (subscribedTo 5 "user_registered" twoHandlers)
    (TaskGroup.create ((subscribedTo 5 "user_registered" twoHandlers).map (·.call "{}")))
    [(0, .starts), (1, .starts), (1, .raises), (1, .wakes), (1, .returns), (0, .raises)] :=
  (attemptedToTheEnd_iff retries 5 twoHandlers "user_registered" "{}" rfl
    (Option.some_get (by decide +kernel)).symm).2 (by decide +kernel)

def failsForGood : List (Nat × CallMove) := [(0, .starts), (1, .starts), (0, .raises)]

def interrupted : List (Member (CallbackCall String Nat String)) :=
  [⟨⟨⟨"handler1", "handler1", 0⟩, "{}", .raised 1⟩, false⟩, ⟨⟨⟨"handler2", "handler2", 5⟩, "{}", .attempts 0⟩, true⟩]

/-- The first handler fails for good: the second one is left in its first attempt. -/
theorem failed_not_attemptedToTheEnd :
    processDomainEvent (subscribeAll 5 twoHandlers) "user_registered" "{}" =
        .ok (some (TaskGroup.create ((subscribedTo 5 "user_registered" twoHandlers).map (·.call "{}")))) ∧
      run (TaskGroup.step (callKind retries))
        (TaskGroup.create ((subscribedTo 5 "user_registered" twoHandlers).map (·.call "{}"))) failsForGood =
          some interrupted ∧
      ¬ AttemptedToTheEnd retries (subscribedTo 5 "user_registered" twoHandlers)
        (TaskGroup.create ((subscribedTo 5 "user_registered" twoHandlers).map (·.call "{}"))) failsForGood := by
  have hrun : run (TaskGroup.step (callKind retries))
      (TaskGroup.create ((subscribedTo 5 "user_registered" twoHandlers).map (·.call "{}"))) failsForGood =
        some interrupted := by decide +kernel
  refine ⟨rfl, hrun, fun h => ?_⟩
  obtain ⟨m, hm, -, hend⟩ := h.toTheEnd failsForGood [] interrupted (List.append_nil _).symm hrun 1 _ rfl
  cases hm
  rcases hend with ⟨n, hn⟩ | ⟨n, hn, -⟩ | ⟨move, hmove⟩
  · cases hn
  · cases hn
  · cases hmove

end DomainEventSubscriber

end Fix
