import FixBackend.Ids
/-!
# Sqs — messages over a queue, `sqs.py`

A publisher wraps a message into an envelope, a listener unwraps what it receives for its processor.  The texts of JSON
and of times come from the standard library and from `fixcloudutils`; they are parameters.
-/
namespace Fix

open Calendar

namespace Sqs

inductive Json where
  | null
  | bool (b : Bool)
  | number (q : ℚ)
  | string (s : String)
  | array (elements : List Json)
  | object (fields : List (String × Json))

/-- What the handler raises: at a text that is no JSON, a missing key or a value of another type. -/
inductive HandlerError where
  | decodeError
  | keyError (key : String)
  | typeError
deriving DecidableEq

def Json.field (key : String) : Json → Except HandlerError Json
  | .object fields =>
    match fields.lookup key with
    | some value => .ok value
    | none => .error (.keyError key)
  | _ => .error .typeError

/-- A message of `receive_message`, with the attribute `ApproximateReceiveCount`. -/
structure Received where
  messageId : String
  body : String
  receiptHandle : String
  receiveCount : Nat

/-- The kind and the publisher are what the envelope says, of whatever type. -/
structure MessageContext where
  id : String
  kind : Json
  publisher : Json
  sentAt : DateTime
  receivedAt : DateTime

abbrev ProcessorCall := Json × MessageContext

section Texts

variable (dumps : Json → String) (loads : String → Except HandlerError Json) (utcStr : DateTime → String)
  (parseUtcStr : String → Except HandlerError DateTime)

/-! ## The publisher -/

def envelope (publisherName kind : String) (message : Json) (now : DateTime) : Json :=
  .object [("at", .string (utcStr now)), ("publisher", .string publisherName), ("kind", .string kind),
    ("data", .string (dumps message))]

def publish (publisherName kind : String) (message : Json) (now : DateTime) : String :=
  dumps (envelope dumps utcStr publisherName kind message now)

/-! ## The listener -/

def sentTime : Json → Except HandlerError DateTime
  | .string s => parseUtcStr s
  | _ => .error .typeError

def contextHandler (message : Received) (now : DateTime) : Except HandlerError ProcessorCall := do
  let body ← loads message.body
  let kind ← body.field "kind"
  let publisher ← body.field "publisher"
  let sentAt ← sentTime parseUtcStr (← body.field "at")
  let data ← body.field "data"
  return (data, ⟨message.messageId, kind, publisher, sentAt, now⟩)

/-- What becomes of a message of a response: the calls of the processor, and whether the message is deleted. -/
structure Handling where
  message : Received
  calls : List ProcessorCall
  deleted : Bool

/-- `backoff.with_backoff` around the handler: `succeeds n` is the outcome of the processor in attempt `n`, and each
attempt reads the clock. -/
def withBackoff (succeeds : Nat → Bool) (clock : Nat → DateTime) (message : Received) :
    Nat → Nat → List ProcessorCall × Bool
  | 0, n =>
    match contextHandler loads parseUtcStr message (clock n) with
    | .error _ => ([], false)
    | .ok call => ([call], succeeds n)
  | retries + 1, n =>
    match contextHandler loads parseUtcStr message (clock n) with
    | .error _ => withBackoff succeeds clock message retries (n + 1)
    | .ok call =>
      if succeeds n then ([call], true)
      else
        let (calls, done) := withBackoff succeeds clock message retries (n + 1)
        (call :: calls, done)

/-- A pass of `SQSRawListener._listen` over the messages of a response, `i` of them handled; `overdue` says when
`consider_failed_after` has passed. -/
def listen (doNotRetryMessageMoreThan retries : Nat) (overdue : Nat → Bool) (succeeds : Nat → Nat → Bool)
    (clock : Nat → Nat → DateTime) : Nat → List Received → List Handling
  | _, [] => []
  | i, message :: rest =>
    if overdue i then []
    else
      let handling :=
        if message.receiveCount ≤ doNotRetryMessageMoreThan then
          let (calls, done) := withBackoff loads parseUtcStr (succeeds i) (clock i) message retries 0
          ⟨message, calls, done⟩
        else ⟨message, [], true⟩
      handling :: listen doNotRetryMessageMoreThan retries overdue succeeds clock (i + 1) rest

/-! ## What the processor is called with -/

structure Delivers (publisherName kind : String) (message : Json) (call : ProcessorCall) : Prop where
  kind : call.2.kind = .string kind
  publisher : call.2.publisher = .string publisherName
  message : call.1 = message

structure DeliversText (publisherName kind : String) (message : Json) (call : ProcessorCall) : Prop where
  kind : call.2.kind = .string kind
  publisher : call.2.publisher = .string publisherName
  message : call.1 = .string (dumps message)

variable {dumps loads utcStr parseUtcStr} {publisherName kind : String} {message : Json} {sent : DateTime}

/-- The envelope is read back, and its time is one. -/
structure ReadBack (dumps : Json → String) (loads : String → Except HandlerError Json) (utcStr : DateTime → String)
    (parseUtcStr : String → Except HandlerError DateTime) (envelope : Json) (sent : DateTime) : Prop where
  json : loads (dumps envelope) = .ok envelope
  time : ∃ sentAt, parseUtcStr (utcStr sent) = .ok sentAt

theorem contextHandler_publish
    (h : ReadBack dumps loads utcStr parseUtcStr (envelope dumps utcStr publisherName kind message sent) sent)
    {received : Received} (hbody : received.body = publish dumps utcStr publisherName kind message sent)
    (now : DateTime) : ∃ call, contextHandler loads parseUtcStr received now = .ok call ∧
      DeliversText dumps publisherName kind message call := by
  obtain ⟨sentAt, hsentAt⟩ := h.time
  refine ⟨(.string (dumps message), ⟨received.messageId, .string kind, .string publisherName, sentAt, now⟩), ?_,
    rfl, rfl, rfl⟩
  unfold contextHandler
  rw [hbody, publish, h.json]
  change (do
    let sentAt ← parseUtcStr (utcStr sent)
    return (_, _)) = _
  rw [hsentAt]
  rfl

theorem withBackoff_calls {P : ProcessorCall → Prop} {received : Received}
    (hcall : ∀ now, ∃ call, contextHandler loads parseUtcStr received now = .ok call ∧ P call)
    (succeeds : Nat → Bool) (clock : Nat → DateTime) : ∀ retries n,
      (withBackoff loads parseUtcStr succeeds clock received retries n).1 ≠ [] ∧
        ∀ call ∈ (withBackoff loads parseUtcStr succeeds clock received retries n).1, P call
  | 0, n => by
    obtain ⟨call, hok, hP⟩ := hcall (clock n)
    rw [withBackoff, hok]
    refine ⟨List.cons_ne_nil _ _, fun c hc => ?_⟩
    rw [List.mem_singleton.1 hc]
    exact hP
  | retries + 1, n => by
    obtain ⟨call, hok, hP⟩ := hcall (clock n)
    rw [withBackoff, hok]
    dsimp only
    split
    · refine ⟨List.cons_ne_nil _ _, fun c hc => ?_⟩
      rw [List.mem_singleton.1 hc]
      exact hP
    · refine ⟨List.cons_ne_nil _ _, fun c hc => ?_⟩
      rcases List.mem_cons.1 hc with rfl | hc
      · exact hP
      · exact (withBackoff_calls hcall succeeds clock retries (n + 1)).2 c hc

/-- What the listener has handled: the attempts, unless the message was received too often. -/
theorem mem_listen {limit retries : Nat} {overdue : Nat → Bool} {succeeds : Nat → Nat → Bool}
    {clock : Nat → Nat → DateTime} : ∀ {batch : List Received} {i : Nat} {handling : Handling},
      handling ∈ listen loads parseUtcStr limit retries overdue succeeds clock i batch →
      ∃ j, handling.calls = if handling.message.receiveCount ≤ limit then
        (withBackoff loads parseUtcStr (succeeds j) (clock j) handling.message retries 0).1 else []
  | [], i, handling, h => by cases h
  | message :: rest, i, handling, h => by
    rw [listen] at h
    split at h
    · cases h
    · rcases List.mem_cons.1 h with rfl | h
      · refine ⟨i, ?_⟩
        by_cases hcount : message.receiveCount ≤ limit
        · rw [if_pos hcount]
          exact (if_pos hcount).symm
        · rw [if_neg hcount]
          exact (if_neg hcount).symm
      · exact mem_listen h

/-- **A published message arrives as its text**: each time that its processor is called, and it is called. -/
theorem listen_publish
    (h : ReadBack dumps loads utcStr parseUtcStr (envelope dumps utcStr publisherName kind message sent) sent)
    {limit retries : Nat} {overdue : Nat → Bool} {succeeds : Nat → Nat → Bool} {clock : Nat → Nat → DateTime}
    {batch : List Received} {i : Nat} {handling : Handling}
    (hmem : handling ∈ listen loads parseUtcStr limit retries overdue succeeds clock i batch)
    (hbody : handling.message.body = publish dumps utcStr publisherName kind message sent) :
    (handling.message.receiveCount ≤ limit → handling.calls ≠ []) ∧
      ∀ call ∈ handling.calls, DeliversText dumps publisherName kind message call := by
  obtain ⟨j, hcalls⟩ := mem_listen hmem
  obtain ⟨hne, hall⟩ := withBackoff_calls (contextHandler_publish h hbody) (succeeds j) (clock j) retries 0
  rw [hcalls]
  split
  · exact ⟨fun _ => hne, hall⟩
  · rename_i hcount
    exact ⟨fun hle => absurd hle hcount, fun call hcall => absurd hcall List.not_mem_nil⟩

/-- **No object arrives as it was published.** -/
theorem listen_never_delivers (publisherName kind : String) (fields : List (String × Json)) (sent : DateTime)
    (limit retries : Nat) (overdue : Nat → Bool) (succeeds : Nat → Nat → Bool) (clock : Nat → Nat → DateTime)
    (batch : List Received) (handling : Handling)
    (h : ReadBack dumps loads utcStr parseUtcStr (envelope dumps utcStr publisherName kind (.object fields) sent) sent)
    (hmem : handling ∈ listen loads parseUtcStr limit retries overdue succeeds clock 0 batch)
    (hbody : handling.message.body = publish dumps utcStr publisherName kind (.object fields) sent) :
    ¬ ∃ call ∈ handling.calls, Delivers publisherName kind (.object fields) call := by
  rintro ⟨call, hcall, hdelivers⟩
  have htext := ((listen_publish h hmem hbody).2 call hcall).message
  cases hdelivers.message.symm.trans htext

end Texts

/-! ## The empty object -/

def newYear : DateTime := ⟨⟨2024, 1, 1, valid_newYear⟩, 0, midnight_inDay⟩

def sampleDumps : Json → String
  | .object [] => "\x7b\x7d"
  | _ =>
    "\x7b\"at\": \"2024-01-01T00:00:00Z\", \"publisher\": \"fix\", \"kind\": \"created\", \"data\": \"\x7b\x7d\"\x7d"

def sampleUtcStr (_ : DateTime) : String := "2024-01-01T00:00:00Z"

def sampleEnvelope : Json := envelope sampleDumps sampleUtcStr "fix" "created" (.object []) newYear

def sampleLoads (s : String) : Except HandlerError Json :=
  if s = sampleDumps sampleEnvelope then .ok sampleEnvelope
  else if s = sampleDumps (.object []) then .ok (.object [])
  else .error .decodeError

def sampleParse (s : String) : Except HandlerError DateTime :=
  if s = sampleUtcStr newYear then .ok newYear else .error .decodeError

theorem sample_readBack : ReadBack sampleDumps sampleLoads sampleUtcStr sampleParse sampleEnvelope newYear :=
  ⟨if_pos rfl, newYear, if_pos rfl⟩

def sampleReceived : Received := ⟨"1", publish sampleDumps sampleUtcStr "fix" "created" (.object []) newYear, "r", 1⟩

def sampleHandling : Handling :=
  ⟨sampleReceived, [(.string "\x7b\x7d", ⟨"1", .string "created", .string "fix", newYear, newYear⟩)], true⟩

theorem sample_listen : listen sampleLoads sampleParse 5 10 (fun _ => false) (fun _ _ => true) (fun _ _ => newYear) 0
    [sampleReceived] = [sampleHandling] := by
  have hcontext : contextHandler sampleLoads sampleParse sampleReceived newYear = .ok
      (.string "\x7b\x7d", ⟨"1", .string "created", .string "fix", newYear, newYear⟩) := by
    unfold contextHandler
    rw [show sampleLoads sampleReceived.body = .ok sampleEnvelope from sample_readBack.json]
    rfl
  rw [listen, if_neg Bool.false_ne_true, if_pos (by decide), withBackoff, hcontext]
  rfl

theorem sample_never_delivers : sampleHandling ∈ listen sampleLoads sampleParse 5 10 (fun _ => false)
      (fun _ _ => true) (fun _ _ => newYear) 0 [sampleReceived] ∧
    ¬ ∃ call ∈ sampleHandling.calls, Delivers "fix" "created" (.object []) call := by
  have hmem : sampleHandling ∈ listen sampleLoads sampleParse 5 10 (fun _ => false) (fun _ _ => true)
      (fun _ _ => newYear) 0 [sampleReceived] := by
    rw [sample_listen]
    exact List.mem_singleton_self _
  exact ⟨hmem, listen_never_delivers "fix" "created" [] newYear 5 10 _ _ _ [sampleReceived] sampleHandling
    sample_readBack hmem rfl⟩

/-- The processor is called with a string where an object was published. -/
theorem emptyObject_arrives_as_text : ∃ handling ∈ listen sampleLoads sampleParse 5 10 (fun _ => false)
      (fun _ _ => true) (fun _ _ => newYear) 0 [sampleReceived],
    handling.message.body = publish sampleDumps sampleUtcStr "fix" "created" (.object []) newYear ∧
    handling.calls ≠ [] ∧ ∀ call ∈ handling.calls, call.1 ≠ .object [] := by
  rw [sample_listen]
  refine ⟨sampleHandling, List.mem_singleton_self _, rfl, List.cons_ne_nil _ _, fun call hcall hmessage => ?_⟩
  rw [List.mem_singleton.1 hcall] at hmessage
  cases hmessage

end Sqs

end Fix
