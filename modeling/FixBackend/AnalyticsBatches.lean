import FixBackend.Chunks
import FixBackend.Effects
import FixBackend.Ids
import FixBackend.Table
/-!
# AnalyticsBatches — the requests that carry the buffered analytics events

`GoogleAnalyticsEventSender.send_events` of `analytics/analytics_event_sender.py` and `group_by` of `utils.py`.  The
sender looks at the user of an event only, so it is modelled for events of any type.
-/
namespace Fix

open Effects Chunks

/-! ## Groups -/

section GroupBy

variable {α β κ : Type} [DecidableEq κ]

def groupBy (f : α → κ) (iterable : List α) : Dict κ (List α) :=
  iterable.foldl (fun v item => v.put (f item) ((v.get (f item)).getD [] ++ [item])) default

theorem groupBy_append_singleton (f : α → κ) (l : List α) (a : α) : groupBy f (l ++ [a]) =
    (groupBy f l).put (f a) (((groupBy f l).get (f a)).getD [] ++ [a]) := by
  unfold groupBy
  rw [List.foldl_append]
  rfl

theorem eraseDups_append_singleton (l : List κ) (k : κ) :
    (l ++ [k]).eraseDups = if k ∈ l then l.eraseDups else l.eraseDups ++ [k] := by
  rw [List.eraseDups_append]
  by_cases hk : k ∈ l
  · simp [List.removeAll, hk]
  · simp [List.removeAll, hk, List.eraseDups_cons]

/-- **The groups come in the order of their first elements, each with its elements in their order.** -/
theorem rows_groupBy (f : α → κ) (l : List α) :
    (groupBy f l).rows = (l.map f).eraseDups.map fun k => (k, l.filter fun a => decide (f a = k)) := by
  induction l using List.reverseRecOn with
  | nil => rfl
  | append_singleton l a ih =>
    have hkeys : ∀ k, k ∈ (groupBy f l).rows.map Prod.fst ↔ k ∈ l.map f := fun k => by
      rw [ih, List.map_map]
      simp [Function.comp_def]
    have hother : ∀ k, k ≠ f a → (l ++ [a]).filter (fun x => decide (f x = k)) = l.filter fun x => decide (f x = k) :=
      fun k hk => by simp [List.filter_append, Ne.symm hk]
    rw [groupBy_append_singleton, List.map_append, List.map_singleton, eraseDups_append_singleton]
    by_cases hmem : f a ∈ l.map f
    · have hget : (groupBy f l).get (f a) = some (l.filter fun x => decide (f x = f a)) := by
        rw [Dict.get_eq_some_iff, ih]
        exact List.mem_map.2 ⟨f a, List.mem_eraseDups.2 hmem, rfl⟩
      rw [if_pos hmem, Dict.rows_put_old _ (by rw [hget]; exact nofun), hget, ih, List.map_map]
      apply List.map_congr_left
      intro k _
      rw [Function.comp_apply]
      by_cases hk : k = f a
      · subst hk
        simp [List.filter_append]
      · rw [if_neg hk, hother k hk]
    · have hget : (groupBy f l).get (f a) = none := (Dict.get_eq_none_iff _ _).2 fun h => hmem ((hkeys _).1 h)
      rw [if_neg hmem, Dict.rows_put_new _ hget, hget, ih, List.map_append, List.map_singleton]
      have hnone : l.filter (fun x => decide (f x = f a)) = [] := List.filter_eq_nil_iff.2 fun x hx h =>
        hmem (List.mem_map.2 ⟨x, hx, of_decide_eq_true h⟩)
      congr 1
      · apply List.map_congr_left
        intro k hk
        rw [hother k fun h => hmem (h ▸ List.mem_eraseDups.1 hk)]
      · simp [List.filter_append, hnone]

theorem mem_rows_groupBy {f : α → κ} {l : List α} {a : α} (ha : a ∈ l) :
    (f a, l.filter fun x => decide (f x = f a)) ∈ (groupBy f l).rows := by
  rw [rows_groupBy]
  exact List.mem_map.2 ⟨f a, List.mem_eraseDups.2 (List.mem_map_of_mem ha), rfl⟩

theorem rows_groupBy_const {f : α → κ} {l : List α} {k : κ} (hl : l ≠ []) (hk : ∀ a ∈ l, f a = k) :
    (groupBy f l).rows = [(k, l)] := by
  have hfilter : l.filter (fun a => decide (f a = k)) = l := List.filter_eq_self.2 fun a ha => decide_eq_true (hk a ha)
  have hkeys : (l.map f).eraseDups = [k] := by
    cases l with
    | nil => exact absurd rfl hl
    | cons a as =>
      have hnone : (as.map f).filter (fun b => !b == k) = [] := List.filter_eq_nil_iff.2 fun b hb => by
        obtain ⟨x, hx, rfl⟩ := List.mem_map.1 hb
        simp [hk x (List.mem_cons_of_mem _ hx)]
      rw [List.map_cons, List.eraseDups_cons, hk a List.mem_cons_self, hnone]
      rfl
  rw [rows_groupBy, hkeys, List.map_singleton, hfilter]

end GroupBy

/-! ## The sender -/

structure AnalyticsEvent where
  kind : String
  userId : UserId
  json : List (String × String)
deriving DecidableEq

namespace GoogleAnalyticsEventSender

def eventToJson (event : AnalyticsEvent) : String × List (String × String) :=
  (event.kind, event.json.filter fun x => x.1 != "user_id")

structure Request (ε : Type) where
  clientId : String
  events : List ε
deriving DecidableEq

/-- What becomes of a request. -/
inductive Answer where
  | status (code : Nat)
  | raises

/-- The buffered events, and the requests that are made. -/
structure Sender (ε : Type) where
  events : List ε
  posted : List (Request ε)

section Sends

variable {ε : Type} (userId : ε → UserId) (md5 : UserId → String) (answers : Nat → Answer)

def post (request : Request ε) : Call PUnit (Sender ε) Nat := do
  let s ← get
  set { s with posted := s.posted ++ [request] }
  match answers s.posted.length with
  | .status code => return code
  | .raises => throw ⟨⟩

/-- The pass of the loop for one batch; another status than 204, and an exception, are logged. -/
def sendBatch (clientId : String) (batch : List ε) : Call PUnit (Sender ε) PUnit :=
  tryCatch (do let _ ← post answers ⟨clientId, batch⟩; return) fun _ => return

def sendEvents : Call PUnit (Sender ε) PUnit := do
  let s ← get
  if s.events.isEmpty then return
  else
    let events := s.events
    set { s with events := [] }
    (groupBy userId events).rows.forM fun (user, userEvents) =>
      -- `range(0, len(user_events), 25)`
      ((List.range ((userEvents.length + 25 - 1) / 25)).map (25 * ·)).forM fun i =>
        sendBatch answers (md5 user) ((events.drop i).take 25)

/-- The requests that one call makes for the buffered events, each event with its place in the buffer: two equal events
are two events. -/
def requests (events : List ε) : List (Request (ε × Nat)) :=
  (exec (sendEvents (fun e => userId e.1) md5 answers) ⟨events.zipIdx, []⟩).2.posted

/-- Every buffered event is in one request, a request has at most 25 events of one user under the md5 of this user's id,
and the events of a user keep their order. -/
structure Batched (events : List ε) (posted : List (Request (ε × Nat))) : Prop where
  once : (posted.flatMap (·.events)).Perm events.zipIdx
  size : ∀ r ∈ posted, r.events.length ≤ 25
  user : ∀ r ∈ posted, ∃ user, r.clientId = md5 user ∧ ∀ e ∈ r.events, userId e.1 = user
  order : ∀ user, ((posted.flatMap (·.events)).filter fun e => decide (userId e.1 = user)) =
    events.zipIdx.filter fun e => decide (userId e.1 = user)

/-! ### The requests of one call -/

def userRequests (events : List ε) (user : UserId) (count : Nat) : List (Request ε) :=
  ((List.range ((count + 25 - 1) / 25)).map (25 * ·)).map fun i => ⟨md5 user, (events.drop i).take 25⟩

theorem exec_sendBatch (clientId : String) (batch : List ε) (s : Sender ε) :
    exec (sendBatch answers clientId batch) s = (.ok ⟨⟩, { s with posted := s.posted ++ [⟨clientId, batch⟩] }) := by
  unfold sendBatch post
  rw [exec_tryCatch, exec_bind, exec_bind, exec_get]
  dsimp only
  rw [exec_bind, exec_set]
  dsimp only
  cases answers s.posted.length <;> rfl

theorem exec_forM_posts {α : Type} {f : α → Call PUnit (Sender ε) PUnit} {g : α → List (Request ε)}
    (hf : ∀ a s, exec (f a) s = (.ok ⟨⟩, { s with posted := s.posted ++ g a })) : ∀ (l : List α) (s : Sender ε),
      exec (l.forM f) s = (.ok ⟨⟩, { s with posted := s.posted ++ l.flatMap g })
  | [], s => by
    rw [List.flatMap_nil, List.append_nil]
    rfl
  | a :: l, s => by
    show exec (f a >>= fun _ => l.forM f) s = _
    rw [exec_bind, hf]
    dsimp only
    rw [exec_forM_posts hf l, List.flatMap_cons, List.append_assoc]

/-- **A call empties the buffer and makes the requests of each user**, whatever the answers are. -/
theorem exec_sendEvents (s : Sender ε) : exec (sendEvents userId md5 answers) s = (.ok ⟨⟩, {
    events := []
    posted := s.posted ++ (groupBy userId s.events).rows.flatMap fun x =>
      userRequests md5 s.events x.1 x.2.length }) := by
  unfold sendEvents
  rw [exec_bind, exec_get]
  dsimp only
  split
  · rename_i hempty
    obtain ⟨events, posted⟩ := s
    cases List.isEmpty_iff.1 hempty
    exact (congrArg (fun posted => (Except.ok _, (⟨[], posted⟩ : Sender ε))) (List.append_nil posted)).symm
  · rw [exec_bind, exec_set]
    dsimp only
    rw [exec_forM_posts (g := fun x => userRequests md5 s.events x.1 x.2.length)]
    intro x s'
    rw [exec_forM_posts fun i s' => exec_sendBatch answers (md5 x.1) ((s.events.drop i).take 25) s']
    exact congrArg (fun posted => (Except.ok _, ({ s' with posted := s'.posted ++ posted } : Sender ε)))
      List.map_eq_flatMap.symm

theorem requests_eq (events : List ε) : requests userId md5 answers events =
    (groupBy (fun e => userId e.1) events.zipIdx).rows.flatMap fun x =>
      userRequests md5 events.zipIdx x.1 x.2.length := by
  unfold requests
  rw [exec_sendEvents, List.nil_append]

/-- **Without the places, these are the requests that the call makes.** -/
theorem requests_forget (events : List ε) :
    (exec (sendEvents userId md5 answers) ⟨events, []⟩).2.posted =
      (requests userId md5 answers events).map fun r => ⟨r.clientId, r.events.map Prod.fst⟩ := by
  have hfst : events.zipIdx.map Prod.fst = events := List.zipIdx_map_fst 0 events
  rw [exec_sendEvents, requests_eq, List.nil_append, List.map_flatMap, rows_groupBy, rows_groupBy, List.flatMap_map,
    List.flatMap_map]
  have hkeys : events.zipIdx.map (fun e => userId e.1) = events.map userId := by
    conv_rhs => rw [← hfst, List.map_map]
    rfl
  rw [hkeys]
  dsimp only
  congr 1
  funext user
  have hcount : (events.filter fun e => decide (userId e = user)).length =
      (events.zipIdx.filter fun e => decide (userId e.1 = user)).length := by
    conv_lhs => rw [← hfst, List.filter_map, List.length_map]
    rfl
  unfold userRequests
  rw [hcount, List.map_map (g := fun r : Request (ε × Nat) => (⟨r.clientId, r.events.map Prod.fst⟩ : Request ε))]
  apply List.map_congr_left
  intro i _
  rw [Function.comp_apply, List.map_take, List.map_drop, hfst]

/-- **No request carries the id of a user.** -/
theorem userId_not_sent (event : AnalyticsEvent) : ∀ x ∈ (eventToJson event).2, x.1 ≠ "user_id" := by
  intro x hx
  simpa using (List.mem_filter.1 hx).2

/-! ### When the requests are right -/

theorem flatMap_userRequests (events : List ε) (user : UserId) (count : Nat) :
    (userRequests md5 events user count).flatMap (·.events) =
      ((List.range ((count + 25 - 1) / 25)).map fun i => (events.drop (25 * i)).take 25).flatten := by
  unfold userRequests
  rw [List.map_map, List.flatMap_map, List.flatMap]
  rfl

theorem user_of_mem_zipIdx {events : List ε} {user : UserId} (huser : ∀ e ∈ events, userId e = user) :
    ∀ e ∈ events.zipIdx, userId e.1 = user := fun _ he => huser _ (List.fst_mem_of_mem_zipIdx he)

theorem batched_of_one {events : List ε} {user : UserId} (huser : ∀ e ∈ events, userId e = user) :
    Batched userId md5 events (requests userId md5 answers events) := by
  rw [requests_eq]
  by_cases hnil : events.zipIdx = []
  · cases List.zipIdx_eq_nil_iff.1 hnil
    exact ⟨List.Perm.refl _, nofun, nofun, fun _ => rfl⟩
  · have hall := user_of_mem_zipIdx userId huser
    have hflat : (userRequests md5 events.zipIdx user events.zipIdx.length).flatMap (·.events) = events.zipIdx := by
      rw [flatMap_userRequests]
      exact flatten_slices (by decide) events.zipIdx
    rw [rows_groupBy_const hnil hall, List.flatMap_singleton]
    refine ⟨List.Perm.of_eq hflat, fun r hr => ?_, fun r hr => ⟨user, ?_⟩, fun u => by rw [hflat]⟩
    · obtain ⟨i, -, rfl⟩ := List.mem_map.1 hr
      exact List.length_take_le 25 _
    · obtain ⟨i, -, rfl⟩ := List.mem_map.1 hr
      exact ⟨rfl, fun e he => hall e (List.mem_of_mem_drop (List.mem_of_mem_take he))⟩

/-- **The first buffered event is posted for every user.** -/
theorem first_mem_userRequests {first : ε × Nat} {rest : List (ε × Nat)} (user : UserId) {count : Nat}
    (hcount : 0 < count) : first ∈ (userRequests md5 (first :: rest) user count).flatMap (·.events) := by
  rw [flatMap_userRequests]
  refine List.mem_flatten.2 ⟨(first :: rest).take 25, List.mem_map.2 ⟨0, List.mem_range.2 (by omega), rfl⟩, ?_⟩
  exact List.mem_cons_self

theorem one_of_batched {events : List ε} (h : Batched userId md5 events (requests userId md5 answers events)) :
    ∀ e ∈ events, ∀ e' ∈ events, userId e = userId e' := by
  intro e he e' he'
  by_contra hne
  have hplaces : events.zipIdx.Nodup := List.Nodup.of_map Prod.snd (by
    rw [List.zipIdx_map_snd]
    exact List.nodup_range')
  have hposted := h.once.nodup_iff.2 hplaces
  rw [requests_eq, List.flatMap_assoc, List.nodup_flatMap] at hposted
  cases events with
  | nil => exact absurd he List.not_mem_nil
  | cons first rest =>
    -- the groups of the two users both have the first slice of the buffer
    have hgroup : ∀ x ∈ first :: rest, ∃ row ∈ (groupBy (fun e => userId e.1) (first :: rest).zipIdx).rows,
        row.1 = userId x ∧
          (first, 0) ∈ (userRequests md5 (first :: rest).zipIdx row.1 row.2.length).flatMap (·.events) := by
      intro x hx
      obtain ⟨i, hi⟩ := List.mem_iff_getElem?.1 hx
      have hplace : (x, i) ∈ (first :: rest).zipIdx := List.mem_zipIdx_iff_getElem?.2 hi
      refine ⟨_, mem_rows_groupBy hplace, rfl, ?_⟩
      refine first_mem_userRequests md5 _ (List.length_pos_of_mem (List.mem_filter.2 ⟨hplace, decide_eq_true rfl⟩))
    obtain ⟨row, hrow, huser, hfirst⟩ := hgroup e he
    obtain ⟨row', hrow', huser', hfirst'⟩ := hgroup e' he'
    have hrows : row ≠ row' := fun hsame => hne (huser.symm.trans ((congrArg Prod.fst hsame).trans huser'))
    have hdisjoint := @List.Pairwise.forall _ _ _ ⟨fun _ _ hd => List.Disjoint.symm hd⟩ hposted.2 row hrow
        row' hrow' hrows
    exact hdisjoint hfirst hfirst'

/-- **The requests are right exactly when all buffered events are of one user.** -/
theorem batched_iff (events : List ε) : Batched userId md5 events (requests userId md5 answers events) ↔
    ∀ e ∈ events, ∀ e' ∈ events, userId e = userId e' := by
  constructor
  · exact one_of_batched userId md5 answers
  · intro h
    cases events with
    | nil => exact @batched_of_one ε userId md5 answers [] 0 fun e he => absurd he List.not_mem_nil
    | cons first rest => exact batched_of_one userId md5 answers fun e he => h e he first List.mem_cons_self

end Sends

/-! ### Two users -/

def logins : List AnalyticsEvent :=
  [⟨"fix_user_logged_in", 11, [("id", "a"), ("user_id", "11")]⟩,
    ⟨"fix_user_logged_in", 12, [("id", "b"), ("user_id", "12")]⟩]

theorem logins_not_batched : ¬ Batched AnalyticsEvent.userId toString logins
    (requests AnalyticsEvent.userId toString (fun _ => .status 204) logins) := by
  intro h
  exact absurd h.once (by decide +kernel)

end GoogleAnalyticsEventSender

end Fix
