import FixBackend.CodePoints
/-!
# StreamingResponse — a response that waits for its first chunk

`fixbackend/streaming_response.py`.  The status of a response is sent with the first chunk, so that an error before it
has a status of its own.  The serializer of a JSON array sends its bracket before it asks for an element, and hides the
error of a producer that has none; and the lines of a table break off at a text that has no encoding
(`answersErrors_iff`).

What an asynchronous iterator has yielded so far is a list.  An iterator that goes on for ever is seen through its
finite parts, which are all pending.
-/
namespace Fix

open CodePoints

namespace StreamingResponse

/-! ## Iterators and serializers -/

/-- The classes of `fixbackend/errors.py`: `clientError` is `ClientError` itself, `other` any other exception. -/
inductive ErrorClass where
  | notAllowed
  | resourceNotFound
  | wrongState
  | clientError
  | other
deriving DecidableEq

structure Exc where
  errorClass : ErrorClass
  text : Text
deriving DecidableEq

/-- How an iterator goes on after what it has yielded. -/
inductive Ending where
  | stop
  | raised (e : Exc)
  | pending
deriving DecidableEq

structure Iterated (α : Type) where
  items : List α
  ending : Ending

inductive Serializer where
  | json
  | ndjson
  | csv
deriving DecidableEq

def streamingResponse (accept : String) : Serializer × String :=
  if accept ∈ ["application/x-ndjson", "application/ndjson"] then (.ndjson, "application/ndjson")
  else if accept = "application/json" then (.json, "application/json")
  else if accept = "text/csv" then (.csv, "text/csv")
  else (.json, "application/json")

section Serializers

/- `json.dumps` writes ASCII only; `str` of an element may have no encoding. -/
variable {α : Type} (dumps : α → String) (str : α → Text)

/-- The elements of an array, with a comma before each but the first. -/
def jsonItems : Bool → List α → List String
  | _, [] => []
  | flag, item :: items => ((if flag then "," else "") ++ dumps item) :: jsonItems true items

def jsonSerializer (input : Iterated α) : Iterated Text :=
  ⟨("[" :: (jsonItems dumps false input.items ++ if input.ending = .stop then ["]"] else [])).map ofString,
    input.ending⟩

def ndjsonSerializer (input : Iterated α) : Iterated Text :=
  ⟨input.items.map fun item => ofString (dumps item ++ "\n"), input.ending⟩

def csvSerializer (input : Iterated α) : Iterated Text :=
  ⟨input.items.map fun item => str item ++ ofString "\n", input.ending⟩

def Serializer.serialize : Serializer → Iterated α → Iterated Text
  | json => jsonSerializer dumps
  | ndjson => ndjsonSerializer dumps
  | csv => csvSerializer str

/-- The `stream` of a route: the result of the inventory is opened and then serialized. -/
def stream (serializer : Serializer) : Except Exc (Iterated α) → Iterated Text
  | .error e => ⟨[], .raised e⟩
  | .ok result => serializer.serialize dumps str result

end Serializers

/-! ## The response -/

abbrev Headers := List (String × String)

/-- What is sent: `http.response.start` and `http.response.body`. -/
inductive Sent where
  | start (status : Nat) (headers : Headers)
  | body (body : String) (moreBody : Bool)
deriving DecidableEq

/-- `additionalHeaders` is what `init_headers` makes of the additional headers when they are needed. -/
structure StreamOnSuccessResponse where
  statusCode : Nat
  rawHeaders : Headers
  additionalHeaders : Option Headers

/-- What `stream_response` does in the end: it returns, raises or waits for the next chunk.  What it raises comes from
the producer, or is the `UnicodeEncodeError` of a text. -/
inductive Outcome where
  | returned
  | raises (e : Exc)
  | unencodable (text : Text)
  | waiting
deriving DecidableEq

def Outcome.Raises : Outcome → Prop
  | returned => False
  | raises _ => True
  | unencodable _ => True
  | waiting => False

def errorStatus : ErrorClass → Nat
  | .notAllowed => 403
  | .resourceNotFound => 404
  | .wrongState => 409
  | .clientError => 400
  | .other => 500

namespace StreamOnSuccessResponse

variable (r : StreamOnSuccessResponse)

def successStart : Sent := .start r.statusCode (r.additionalHeaders.getD r.rawHeaders)

def streamChunks : Bool → List Text → Ending → List Sent × Outcome
  | first, chunk :: chunks, ending =>
    -- response code and headers are sent only when the first element is ready
    let start := if first then [r.successStart] else []
    match encode chunk with
    | none => (start, .unencodable chunk)
    | some body =>
      let (sent, outcome) := streamChunks false chunks ending
      (start ++ .body body true :: sent, outcome)
  | first, [], .stop =>
    let start := if first then [r.successStart] else []
    (start ++ [.body "" false], .returned)
  | true, [], .raised e =>
    let start := .start (errorStatus e.errorClass) r.rawHeaders
    match encode e.text with
    | none => ([start], .unencodable e.text)
    | some body => ([start, .body body false], .returned)
  | false, [], .raised e => ([], .raises e)
  | _, [], .pending => ([], .waiting)

def streamResponse (bodyIterator : Iterated Text) : List Sent × Outcome :=
  r.streamChunks true bodyIterator.items bodyIterator.ending

/-! ## What is sent -/

variable {r}

theorem streamResponse_cons (chunk : Text) (chunks : List Text) (ending : Ending) :
    r.streamResponse ⟨chunk :: chunks, ending⟩ =
      (r.successStart :: (r.streamChunks false (chunk :: chunks) ending).1,
        (r.streamChunks false (chunk :: chunks) ending).2) := by
  unfold streamResponse
  simp only [streamChunks]
  split <;> rfl

theorem streamChunks_bodies {chunks : List Text} {ending : Ending} {m : Sent}
    (hm : m ∈ (r.streamChunks false chunks ending).1) : ∃ text moreBody, m = .body text moreBody := by
  induction chunks with
  | nil =>
    cases ending with
    | stop => exact ⟨_, _, List.mem_singleton.1 hm⟩
    | raised e => cases hm
    | pending => cases hm
  | cons chunk chunks ih =>
    rw [streamChunks] at hm
    split at hm
    · cases hm
    · rcases List.mem_cons.1 hm with rfl | hm
      · exact ⟨_, _, rfl⟩
      · exact ih hm

theorem streamChunks_encodable {chunks : List Text} (h : ∀ chunk ∈ chunks, Encodable chunk) (ending : Ending) :
    ∃ bodies : List String, r.streamChunks false chunks ending =
      (bodies.map (.body · true) ++ if ending = .stop then [.body "" false] else [],
        match ending with
        | .stop => .returned
        | .raised e => .raises e
        | .pending => .waiting) := by
  induction chunks with
  | nil => exact ⟨[], by cases ending <;> rfl⟩
  | cons chunk chunks ih =>
    obtain ⟨hchunk, hchunks⟩ := List.forall_mem_cons.1 h
    obtain ⟨body, hbody⟩ := exists_encode_iff.2 hchunk
    obtain ⟨bodies, hbodies⟩ := ih hchunks
    refine ⟨body :: bodies, ?_⟩
    rw [streamChunks, hbody, hbodies]
    rfl

theorem streamChunks_unencodable {chunks : List Text} (h : ¬∀ chunk ∈ chunks, Encodable chunk) (ending : Ending) :
    ∃ text, (r.streamChunks false chunks ending).2 = .unencodable text := by
  induction chunks with
  | nil => exact absurd (fun _ hm => nomatch hm) h
  | cons chunk chunks ih =>
    rw [streamChunks]
    cases hencode : encode chunk with
    | none => exact ⟨chunk, rfl⟩
    | some body =>
      have hchunk := exists_encode_iff.1 ⟨body, hencode⟩
      exact ih fun hchunks => h (List.forall_mem_cons.2 ⟨hchunk, hchunks⟩)

theorem streamResponse_stop {chunks : List Text} (h : ∀ chunk ∈ chunks, Encodable chunk) :
    ∃ bodies : List String, r.streamResponse ⟨chunks, .stop⟩ =
      (r.successStart :: bodies.map (.body · true) ++ [.body "" false], .returned) := by
  cases chunks with
  | nil => exact ⟨[], rfl⟩
  | cons chunk chunks =>
    obtain ⟨bodies, hbodies⟩ := streamChunks_encodable (r := r) h .stop
    exact ⟨bodies, by rw [streamResponse_cons, hbodies]; rfl⟩

theorem streamResponse_pending {chunks : List Text} (h : ∀ chunk ∈ chunks, Encodable chunk) :
    (r.streamResponse ⟨chunks, .pending⟩).2 = .waiting := by
  cases chunks with
  | nil => rfl
  | cons chunk chunks =>
    obtain ⟨bodies, hbodies⟩ := streamChunks_encodable (r := r) h .pending
    rw [streamResponse_cons, hbodies]

theorem streamResponse_raised (chunk : Text) (chunks : List Text) (e : Exc) :
    (r.streamResponse ⟨chunk :: chunks, .raised e⟩).2.Raises := by
  rw [streamResponse_cons]
  by_cases h : ∀ c ∈ chunk :: chunks, Encodable c
  · obtain ⟨bodies, hbodies⟩ := streamChunks_encodable (r := r) h (.raised e)
    rw [hbodies]
    trivial
  · obtain ⟨text, htext⟩ := streamChunks_unencodable (r := r) h (.raised e)
    rw [htext]
    trivial

theorem streamResponse_unencodable {chunks : List Text} (h : ¬∀ chunk ∈ chunks, Encodable chunk) (ending : Ending) :
    ∃ text, (r.streamResponse ⟨chunks, ending⟩).2 = .unencodable text := by
  cases chunks with
  | nil => exact absurd (fun _ hm => nomatch hm) h
  | cons chunk chunks =>
    rw [streamResponse_cons]
    exact streamChunks_unencodable h ending

end StreamOnSuccessResponse

/-! ## How a request is answered -/

section Answers

variable {α : Type}

/-- The producer raises before its first element: when it is opened or when it is asked for the element. -/
def RaisesEarly (opened : Except Exc (Iterated α)) (e : Exc) : Prop :=
  opened = .error e ∨ ∃ result, opened = .ok result ∧ result.items = [] ∧ result.ending = .raised e

def RaisesLater (opened : Except Exc (Iterated α)) (e : Exc) : Prop :=
  ∃ result, opened = .ok result ∧ result.items ≠ [] ∧ result.ending = .raised e

def Ends (opened : Except Exc (Iterated α)) : Prop := ∃ result, opened = .ok result ∧ result.ending = .stop

/-- One start before all bodies, with the status of the error when there is one before the first element and with the
status of success otherwise; the response raises when the producer does so later, and in no other case. -/
structure Answers (r : StreamOnSuccessResponse) (opened : Except Exc (Iterated α)) (reply : List Sent × Outcome) :
    Prop where
  started : reply = ([], .waiting) ∨ ∃ status headers bodies, reply.1 = .start status headers :: bodies ∧
    ∀ m ∈ bodies, ∃ text moreBody, m = .body text moreBody
  early : ∀ e, RaisesEarly opened e →
    (∃ headers bodies, reply.1 = .start (errorStatus e.errorClass) headers :: bodies) ∧
      ∀ text moreBody, .body text moreBody ∈ reply.1 → text ∈ ["", "["] ∨ encode e.text = some text
  later : ∀ e, RaisesLater opened e → reply.2.Raises
  ends : Ends opened → reply.2 = .returned ∧
    ∃ headers bodies, reply.1 = .start r.statusCode headers :: bodies ++ [.body "" false]
  goesOn : ∀ result, opened = .ok result → result.ending = .pending → reply.2 = .waiting

variable {r : StreamOnSuccessResponse}

open StreamOnSuccessResponse

/-- **The response itself sends one start before all bodies.** -/
theorem streamResponse_started (bodyIterator : Iterated Text) :
    r.streamResponse bodyIterator = ([], .waiting) ∨
      ∃ status headers bodies, (r.streamResponse bodyIterator).1 = .start status headers :: bodies ∧
        ∀ m ∈ bodies, ∃ text moreBody, m = .body text moreBody := by
  obtain ⟨chunks, ending⟩ := bodyIterator
  cases chunks with
  | nil =>
    cases ending with
    | stop => exact Or.inr ⟨_, _, _, rfl, fun m hm => ⟨_, _, List.mem_singleton.1 hm⟩⟩
    | raised e =>
      simp only [streamResponse, streamChunks]
      split
      · exact Or.inr ⟨_, _, _, rfl, fun m hm => nomatch hm⟩
      · exact Or.inr ⟨_, _, _, rfl, fun m hm => ⟨_, _, List.mem_singleton.1 hm⟩⟩
    | pending => exact Or.inl rfl
  | cons chunk chunks =>
    rw [streamResponse_cons]
    exact Or.inr ⟨_, _, _, rfl, fun m hm => streamChunks_bodies hm⟩

theorem answers_early {opened : Except Exc (Iterated α)} {e : Exc} (h : RaisesEarly opened e) :
    Answers r opened (r.streamResponse ⟨[], .raised e⟩) := by
  have hsame : ∀ e', RaisesEarly opened e' → e' = e := by
    rintro e' (h' | ⟨result', h', -, hending'⟩) <;> rcases h with h | ⟨result, h, -, hending⟩ <;>
      rw [h] at h' <;> cases h'
    · rfl
    · rw [hending] at hending'
      cases hending'
      rfl
  -- A result that was opened has no element and raises.
  have hopened : ∀ result, opened = .ok result → result.items = [] ∧ result.ending = .raised e := by
    rintro result hok
    rcases h with h | ⟨result', h, hitems, hending⟩ <;> rw [h] at hok <;> cases hok
    exact ⟨hitems, hending⟩
  refine ⟨streamResponse_started _, fun e' he' => ?_, ?_, ?_, ?_⟩
  · cases hsame e' he'
    simp only [streamResponse, streamChunks]
    split
    · refine ⟨⟨_, _, rfl⟩, fun text moreBody hm => ?_⟩
      cases List.mem_singleton.1 hm
    · rename_i body hbody
      refine ⟨⟨_, _, rfl⟩, fun text moreBody hm => Or.inr ?_⟩
      rcases List.mem_cons.1 hm with hm | hm
      · cases hm
      · cases List.mem_singleton.1 hm
        exact hbody
  · rintro e' ⟨result, hok, hne, -⟩
    exact absurd (hopened result hok).1 hne
  · rintro ⟨result, hok, hstop⟩
    cases (hopened result hok).2.symm.trans hstop
  · intro result hok hpending
    cases (hopened result hok).2.symm.trans hpending

/-- Without an error before the first element nothing depends on the serializer but that it sends a chunk for one, and
chunks that have an encoding when the producer does not raise. -/
theorem answers_of_not_early {result : Iterated α} {bodyIterator : Iterated Text}
    (hearly : ∀ e, result.items = [] → result.ending ≠ .raised e) (hending : bodyIterator.ending = result.ending)
    (hitems : result.items ≠ [] → bodyIterator.items ≠ [])
    (hencodable : (∀ e, result.ending ≠ .raised e) → ∀ chunk ∈ bodyIterator.items, Encodable chunk) :
    Answers r (.ok result) (r.streamResponse bodyIterator) := by
  obtain ⟨chunks, ending⟩ := bodyIterator
  obtain rfl : ending = result.ending := hending
  refine ⟨streamResponse_started _, ?_, ?_, ?_, ?_⟩
  · rintro e (he | ⟨_, ⟨⟩, hnil, hraised⟩)
    · cases he
    · exact absurd hraised (hearly e hnil)
  · rintro e ⟨_, ⟨⟩, hne, hraised⟩
    rw [hraised]
    cases chunks with
    | nil => exact absurd rfl (hitems hne)
    | cons chunk chunks => exact streamResponse_raised chunk chunks e
  · rintro ⟨_, ⟨⟩, hstop⟩
    have hnever : ∀ e, result.ending ≠ .raised e := fun e => by simp [hstop]
    rw [hstop]
    obtain ⟨bodies, hbodies⟩ := streamResponse_stop (r := r) (hencodable hnever)
    rw [hbodies]
    exact ⟨rfl, _, _, rfl⟩
  · rintro _ ⟨⟩ hpending
    have hnever : ∀ e, result.ending ≠ .raised e := fun e => by simp [hpending]
    rw [hpending]
    exact streamResponse_pending (hencodable hnever)

theorem encodable_of_answers {result : Iterated α} {chunks : List Text}
    (h : Answers r (.ok result) (r.streamResponse ⟨chunks, result.ending⟩)) (hnever : ∀ e, result.ending ≠ .raised e) :
    ∀ chunk ∈ chunks, Encodable chunk := by
  by_contra hbroken
  obtain ⟨text, htext⟩ := streamResponse_unencodable (r := r) hbroken result.ending
  cases hending : result.ending with
  | stop =>
    have hreturned := (h.ends ⟨result, rfl, hending⟩).1
    rw [htext] at hreturned
    cases hreturned
  | raised e => exact hnever e hending
  | pending =>
    have hwaiting := h.goesOn result rfl hending
    rw [htext] at hwaiting
    cases hwaiting

/-- **A serializer of one chunk for each element** hides no error, and breaks off at an element that has no encoding. -/
theorem answers_map_iff (result : Iterated α) (g : α → Text) :
    Answers r (.ok result) (r.streamResponse ⟨result.items.map g, result.ending⟩) ↔
      ((∀ e, result.ending ≠ .raised e) → ∀ item ∈ result.items, Encodable (g item)) := by
  constructor
  · intro h hnever item hitem
    exact encodable_of_answers h hnever _ (List.mem_map_of_mem hitem)
  · intro h
    by_cases hearly : ∃ e, result.items = [] ∧ result.ending = .raised e
    · obtain ⟨e, hitems, hending⟩ := hearly
      rw [hitems, hending]
      exact answers_early (Or.inr ⟨result, rfl, hitems, hending⟩)
    · refine answers_of_not_early (fun e hitems hraised => hearly ⟨e, hitems, hraised⟩) rfl (by simp) ?_
      intro hnever chunk hchunk
      obtain ⟨item, hitem, rfl⟩ := List.mem_map.1 hchunk
      exact h hnever item hitem

/-- **The serializer of an array** sends its bracket first: an error before the first element keeps its status only when
it is the one of success. -/
theorem answers_json_iff (dumps : α → String) (result : Iterated α) :
    Answers r (.ok result) (r.streamResponse (jsonSerializer dumps result)) ↔
      ∀ e, result.items = [] → result.ending = .raised e → r.statusCode = errorStatus e.errorClass := by
  constructor
  · intro h e hitems hending
    obtain ⟨⟨headers, bodies, hstart⟩, -⟩ := h.early e (Or.inr ⟨result, rfl, hitems, hending⟩)
    unfold jsonSerializer at hstart
    rw [List.map_cons, streamResponse_cons] at hstart
    exact (Sent.start.inj (List.cons.inj hstart).1).1
  · intro h
    by_cases hearly : ∃ e, result.items = [] ∧ result.ending = .raised e
    · obtain ⟨e, hitems, hending⟩ := hearly
      have hbracket : encode (ofString "[") = some "[" := encode_ofString _
      have hreply : r.streamResponse (jsonSerializer dumps result) =
          ([r.successStart, .body "[" true], .raises e) := by
        unfold jsonSerializer
        rw [List.map_cons, streamResponse_cons, hitems, hending, streamChunks, hbracket]
        rfl
      refine ⟨streamResponse_started _, ?_, ?_, ?_, ?_⟩
      · rintro e' (he' | ⟨_, ⟨⟩, -, hending'⟩)
        · cases he'
        · cases hending.symm.trans hending'
          rw [hreply, ← h e hitems hending]
          refine ⟨⟨_, _, rfl⟩, fun text moreBody hm => Or.inl ?_⟩
          simp only [successStart, List.mem_cons, reduceCtorEq, Sent.body.injEq, List.not_mem_nil, or_false,
            false_or] at hm
          rw [hm.1]
          simp
      · rintro e' ⟨_, ⟨⟩, hne, -⟩
        exact absurd hitems hne
      · rintro ⟨_, ⟨⟩, hstop⟩
        cases hending.symm.trans hstop
      · rintro _ ⟨⟩ hpending
        cases hending.symm.trans hpending
    · refine answers_of_not_early (fun e hitems hraised => hearly ⟨e, hitems, hraised⟩) rfl
        (fun _ => List.cons_ne_nil _ _) ?_
      intro _ chunk hchunk
      obtain ⟨s, -, rfl⟩ := List.mem_map.1 hchunk
      exact encodable_ofString s

/-- **Errors before the first element keep their status**, for every producer and every serializer, except that the
array of JSON hides the error of a producer that was opened and yields nothing, and that a table whose producer does not
raise breaks off at an element that has no encoding. -/
theorem answersErrors_iff (r : StreamOnSuccessResponse) (dumps : α → String) (str : α → Text) (accept : String)
    (opened : Except Exc (Iterated α)) :
    Answers r opened (r.streamResponse (stream dumps str (streamingResponse accept).1 opened)) ↔
      (∀ result e, (streamingResponse accept).1 = .json → opened = .ok result → result.items = [] →
        result.ending = .raised e → r.statusCode = errorStatus e.errorClass) ∧
      ∀ result, (streamingResponse accept).1 = .csv → opened = .ok result → (∀ e, result.ending ≠ .raised e) →
        ∀ item ∈ result.items, Encodable (str item) := by
  cases opened with
  | error e =>
    exact iff_of_true (answers_early (Or.inl rfl)) ⟨fun _ _ _ hok => (nomatch hok), fun _ _ hok => (nomatch hok)⟩
  | ok result =>
    cases hserializer : (streamingResponse accept).1 with
    | json =>
      refine (answers_json_iff dumps result).trans ⟨fun h => ⟨?_, fun _ hcsv => (nomatch hcsv)⟩, fun h e => ?_⟩
      · rintro _ e - ⟨⟩
        exact h e
      · exact h.1 result e rfl rfl
    | ndjson =>
      refine iff_of_true ((answers_map_iff result _).2 fun _ _ _ => encodable_ofString _) ⟨fun _ _ hjson => ?_, ?_⟩
      · cases hjson
      · exact fun _ hcsv => (nomatch hcsv)
    | csv =>
      refine (answers_map_iff result _).trans ⟨fun h => ⟨fun _ _ hjson => (nomatch hjson), ?_⟩,
        fun h hnever item hi => ?_⟩
      · rintro _ - ⟨⟩ hnever item hitem
        exact (encodable_append.1 (h hnever item hitem)).1
      · exact encodable_append.2 ⟨h.2 result rfl rfl hnever item hi, encodable_ofString _⟩

end Answers

/-! ## A search that is not allowed, and a name that has no encoding -/

def success : StreamOnSuccessResponse := ⟨200, [("content-type", "application/json")], none⟩

def refusedSearch : Except Exc (Iterated Text) := .ok ⟨[], .raised ⟨.notAllowed, ofString "not allowed"⟩⟩

/-- A row that is a surrogate. -/
def brokenName : Except Exc (Iterated Text) := .ok ⟨[[0xd800]], .stop⟩

/-- The request for JSON is answered with 200 and breaks off, the one for lines with 403; and the table with a text that
has no encoding has started with 200 and never ends. -/
theorem refusedSearch_hidden :
    success.streamResponse (stream (fun _ => "") id (streamingResponse "application/json").1 refusedSearch) =
        ([.start 200 [("content-type", "application/json")], .body "[" true],
          .raises ⟨.notAllowed, ofString "not allowed"⟩) ∧
      success.streamResponse (stream (fun _ => "") id (streamingResponse "application/ndjson").1 refusedSearch) =
        ([.start 403 [("content-type", "application/json")], .body "not allowed" false], .returned) ∧
      ¬ Answers success refusedSearch
        (success.streamResponse (stream (fun _ => "") id (streamingResponse "application/json").1 refusedSearch)) ∧
      success.streamResponse (stream (fun _ => "") id (streamingResponse "text/csv").1 brokenName) =
        ([.start 200 [("content-type", "application/json")]], .unencodable [0xd800, 10]) ∧
      ¬ Answers success brokenName
        (success.streamResponse (stream (fun _ => "") id (streamingResponse "text/csv").1 brokenName)) := by
  refine ⟨by decide +kernel, by decide +kernel, fun h => ?_, by decide +kernel, fun h => ?_⟩
  · obtain ⟨⟨headers, bodies, hstart⟩, -⟩ := h.early ⟨.notAllowed, ofString "not allowed"⟩ (Or.inr ⟨_, rfl, rfl, rfl⟩)
    have hstatus : (success.streamResponse
        (stream (fun _ => "") id (streamingResponse "application/json").1 refusedSearch)).1.head? =
          some (.start 200 [("content-type", "application/json")]) := by decide +kernel
    rw [hstart] at hstatus
    cases hstatus
  · have hreturned := (h.ends ⟨_, rfl, rfl⟩).1
    revert hreturned
    decide +kernel

end StreamingResponse

end Fix
