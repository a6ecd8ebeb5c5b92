import Gatehouse.Proofs.Limiter.Admission
import Gatehouse.Proofs.Service.Outcomes

/-!
When a client is let in again that has been told how many seconds to wait.

The limiter knows the wait to the nanosecond, and the client is told the whole seconds of it, but at least
one. So what the client is told may be less than what it has to wait for.

* `screen_after_silence`: a client that has been silent finds the limiter as it has left it.
* `OpensAt`: the moment from which on such a client is let in. `opensAt_of_limited` is that moment after it
  has been turned away.
* `retry_after`: how that moment compares with what the client is told.
-/

namespace Gatehouse

/-! ### Seconds that are told -/

namespace Problem

/-- One second more than a client is told is always enough. -/
theorem le_retrySeconds_succ (wait : Duration) : wait ≤ Duration.ofSecs (retrySeconds wait + 1) := by
  show wait.nanos ≤ (max (wait.nanos / 1000000000) 1 + 1) * 1000000000
  omega

/-- **The seconds that a client is told are enough** for a wait of whole seconds, and for one of a second at
most, and for no other. -/
theorem le_retrySeconds_iff (wait : Duration) :
    wait ≤ Duration.ofSecs (retrySeconds wait) ↔ wait.subsec = 0 ∨ wait ≤ Duration.ofSecs 1 := by
  show wait.nanos ≤ max (wait.nanos / 1000000000) 1 * 1000000000 ↔
    wait.nanos % 1000000000 = 0 ∨ wait.nanos ≤ 1 * 1000000000
  omega

/-- The header fields of a request that is turned away tell the seconds. -/
theorem first?_retryAfter (wait : Duration) :
    (rateLimited wait).response.headers.first? "retry-after" =
      some (Bytes.utf8 (toString (retrySeconds wait))) := rfl

end Problem

namespace Service.Gate

open Http (Request Response)

variable {g : Gate} {l : Limiter} {client : String} {r : Request}

/-- A field that a response has of its own stays the first of its name. -/
theorem first?_dispatch (draws : Draws) (now : Instant) (r : Request) {x : Response} {name : String}
    {value : Bytes} (own : x.headers.first? name = some value) :
    (dispatch draws now r x).headers.first? name = some value := by
  have kept {x : Response} (own : x.headers.first? name = some value) (other : String) (value' : Bytes) :
      (x.withHeader other value').headers.first? name = some value := by
    rw [Http.Headers.first?, List.lookup_eq_some_iff] at own ⊢
    obtain ⟨before, after, fields, first⟩ := own
    refine ⟨before, after ++ [(other, value')], ?_, first⟩
    rw [Response.withHeader, fields, List.append_assoc, List.cons_append]
  unfold dispatch
  dsimp only
  split <;> split <;> simp [kept, own]

/-! ### Silence -/

theorem hearings_concat (g : Gate) (os : List Occurrence) (o : Occurrence) :
    g.hearings (os ++ [o]) = g.hearings os ++ ((os.foldl next g).hearing? o).toList := by
  induction os generalizing g with
  | nil =>
    rw [List.nil_append, hearings_cons]
    exact List.append_nil _
  | cons o' os ih => rw [List.cons_append, hearings_cons, hearings_cons, ih, List.append_assoc, List.foldl_cons]

/-- **A client that has been silent finds the limiter as it has left it**, whatever else has happened. -/
theorem screen_after_silence (limited : g.admission = .windows l) (apart : l.windows.Apart)
    {os : List Occurrence} (silent : ∀ h ∈ g.hearings os, h.client ≠ client)
    (counts : Credential.clientKey r.headers r.peer = client) :
    ((g.run os).2.screen r).1 = (l.check (g.run os).2.world.clock.now client).1 := by
  have none' : (g.hearings os).filter (fun h => h.client = client) = [] := by
    rw [List.filter_eq_nil_iff]
    exact fun h mem same => silent h mem (of_decide_eq_true same)
  have own : (((os.foldl next g).hearing? (.request default r)).toList).filter (fun h => h.client = client) =
      [⟨(os.foldl next g).world.clock.now, ((os.foldl next g).screen r).1,
        (os.foldl next g).exchange default r⟩] :=
    List.filter_eq_self.mpr fun h mem => by
      rw [List.mem_singleton.mp mem]
      exact decide_eq_true counts
  have decided := decisions_on limited apart (os ++ [.request default r]) client
  rw [hearings_concat, List.filter_append, none', own] at decided
  rw [run_eq]
  exact (List.cons.inj decided).1

/-! ### Turned away -/

/-- From a moment on, and not before, a client is let in that sends nothing up to then, whatever else
happens. -/
def OpensAt (g : Gate) (client : String) (moment : Nat) : Prop :=
  ∀ os, (∀ h ∈ g.hearings os, h.client ≠ client) →
    ∀ r : Request, Credential.clientKey r.headers r.peer = client →
      (((g.run os).2.screen r).1 = .allowed ↔ moment ≤ (g.run os).2.world.clock.now)

/-- A gate is passed again when the full window of a client has ended. -/
theorem opensAt_of_full {w : Limiter.Window} (limited : g.admission = .windows l) (apart : l.windows.Apart)
    (positive : 1 ≤ l.limit) (full : l.Full client w) (going : 0 < l.window.nanos) :
    g.OpensAt client (w.started + l.window.nanos) := by
  intro os silent r counts
  rw [screen_after_silence limited apart silent counts]
  generalize (g.run os).2.world.clock.now = now
  constructor
  · intro allowed
    by_contra early
    have away := (full.check (show now - w.started < l.window.nanos by omega)).1
    cases away.symm.trans allowed
  · intro late
    exact Limiter.check_of_ended full.1 positive (by omega)

variable (draws : Draws)

/-- **A client that is turned away** has a full window, and is let in again when it has ended. -/
theorem opensAt_of_limited (limited : g.admission = .windows l) (apart : l.windows.Apart)
    (positive : 1 ≤ l.limit) (counts : Credential.clientKey r.headers r.peer = client) {wait : Duration}
    (away : (g.screen r).1 = .limited wait) :
    ∃ w, l.windows.find? client = some w ∧
      wait.nanos = l.window.nanos - (g.world.clock.now - w.started) ∧
      (g.handle draws r).2.OpensAt client (max g.world.clock.now w.started + wait.nanos) := by
  have screened := screen_eq limited r counts
  rw [screened] at away
  obtain ⟨w, full, going, told⟩ := Limiter.full_of_limited positive away
  have stays := (full.check going).2
  have after : (g.handle draws r).2.admission = .windows (l.check g.world.clock.now client).2 := by
    rw [g.handle_of_limited draws (by rw [screened]; exact away), screened]
  have opens := opensAt_of_full after (Limiter.apart_check apart _ _) positive stays
    (by rw [Limiter.check_window]; omega)
  refine ⟨w, full.1, told, ?_⟩
  have same : w.started + l.window.nanos = max g.world.clock.now w.started + wait.nanos := by omega
  exact same ▸ opens

/-- **What a client is told and what it has to wait for.** Take a gate with a limiter that admits anything,
in any state and any world, and a request that is answered with the status 429. -/
theorem retry_after (limited : g.admission = .windows l) (apart : l.windows.Apart) (positive : 1 ≤ l.limit)
    (r : Request) (away : (g.handle draws r).1.status = 429) :
    let client := Credential.clientKey r.headers r.peer
    ∃ (w : Limiter.Window) (wait : Duration), l.windows.find? client = some w ∧
      -- The response tells the whole seconds of the wait, but at least one.
      (g.handle draws r).1.headers.first? "retry-after" =
        some (Bytes.utf8 (toString (Problem.retrySeconds wait))) ∧
      -- If the client sends nothing in between, it is let in again when the wait is over, and not before,
      -- whatever else happens. (If its window has started at a later moment than the one that was read for
      -- the request, the wait is counted from there.)
      (g.handle draws r).2.OpensAt client (max g.world.clock.now w.started + wait.nanos) ∧
      -- One second more than the client is told is always enough. The seconds that it is told are enough if
      -- the wait is one of whole seconds, or of a second at most, and otherwise they are not.
      wait ≤ Duration.ofSecs (Problem.retrySeconds wait + 1) ∧
      (wait ≤ Duration.ofSecs (Problem.retrySeconds wait) ↔
        wait.subsec = 0 ∨ wait ≤ Duration.ofSecs 1) := by
  intro client
  have turned := (g.status_eq_limited_iff draws).mp away
  cases decided : (g.screen r).1 with
  | allowed => exact absurd decided turned
  | limited wait =>
    obtain ⟨w, stored, -, opens⟩ := opensAt_of_limited draws limited apart positive rfl decided
    refine ⟨w, wait, stored, ?_, opens, Problem.le_retrySeconds_succ wait, Problem.le_retrySeconds_iff wait⟩
    rw [g.handle_of_limited draws decided]
    exact first?_dispatch _ _ _ (Problem.first?_retryAfter wait)

/-- A second request in the first half of a window of five seconds: it is let in again after four and a half
seconds, of which the client is told four. -/
theorem retry_after_half :
    let auth : Token.Authority := ⟨[1], "agora", Duration.ofSecs 60, by decide⟩
    let l : Limiter := ⟨1, Duration.ofSecs 5, Table.empty.insert "unknown" ⟨0, 1⟩⟩
    let g : Gate := ⟨⟨auth, .plain, ⟨"operator", "secret"⟩, defaultInvitationTtl, ""⟩, .windows l,
      ⟨Clock.start.advance (Duration.ofMillis 500), fun _ => default, default⟩⟩
    let r : Request := ⟨"GET", "/v1/health".toList, [], [], none⟩
    (g.admission = .windows l ∧ l.windows.Apart ∧ 1 ≤ l.limit ∧ (g.handle default r).1.status = 429) ∧
      ∃ wait, (g.handle default r).1.headers.first? "retry-after" =
          some (Bytes.utf8 (toString (Problem.retrySeconds wait))) ∧
        (g.handle default r).2.OpensAt "unknown" (500000000 + wait.nanos) ∧
        wait ≤ Duration.ofSecs (Problem.retrySeconds wait + 1) := by
  intro auth l g r
  have apart : l.windows.Apart := Table.apart_empty.insert _ _
  have away : (g.handle default r).1.status = 429 := by decide +kernel
  obtain ⟨w, wait, stored, told, opens, enough, -⟩ := retry_after default rfl apart (by decide) r away
  have counted : l.windows.find? (Credential.clientKey r.headers r.peer) = some ⟨0, 1⟩ := by decide
  obtain rfl := Option.some.inj (counted.symm.trans stored)
  exact ⟨⟨rfl, apart, by decide, away⟩, wait, told, opens, enough⟩

/-- The same client obeys, and is turned away once more: it asks at the start of a window of five seconds,
half a second later, when it is told to wait four seconds, and after these four seconds. -/
theorem retry_after_obeyed :
    let auth : Token.Authority := ⟨[1], "agora", Duration.ofSecs 60, by decide⟩
    let g : Gate := ⟨⟨auth, .plain, ⟨"operator", "secret"⟩, defaultInvitationTtl, ""⟩,
      .windows (.new 1 (Duration.ofSecs 5)), ⟨.start, fun _ => default, default⟩⟩
    let r : Request := ⟨"GET", "/v1/health".toList, [], [], none⟩
    let os : List Occurrence := [.request default r, .wait (Duration.ofMillis 500), .request default r,
      .wait (Duration.ofSecs 4), .request default r]
    (g.hearings os).map (fun h => (h.now, h.client)) =
        [(0, "unknown"), (500000000, "unknown"), (4500000000, "unknown")] ∧
      (g.run os).1.map (fun x => (x.response.status, x.response.headers.first? "retry-after")) =
        [(200, none), (429, some (Bytes.utf8 "4")), (429, some (Bytes.utf8 "1"))] := by
  decide +kernel

end Service.Gate
end Gatehouse
