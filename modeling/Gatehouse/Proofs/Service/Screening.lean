import Gatehouse.Proofs.Credential.Client
import Gatehouse.Proofs.Job.Calm
import Gatehouse.Proofs.Limiter.Spells
import Gatehouse.Proofs.Service.Conversation

/-!
The limiter in front of a service takes requests out, and does nothing else.

A service with a limiter is compared with one that admits everyone and has only those requests that the
first one has admitted. Both meet the same occurrences in the same worlds, so a step of the first is a step
of the second, or none.

* `trail`: what happens to a gate, each occurrence with the gate that it meets. `hearings` are the
  requests in it, `passing` is what is left without the requests that are turned away.
* `next_unlimited`, `next_of_turnedAway`: one step.
* `run_passing`: any number of steps.
* `decisions_on`: whether a request is admitted depends on when its client has sent requests.
* `limiter_only_filters`: all of it.
-/

namespace Gatehouse.Service

open Http (Request Response)
open Limiter (decisionsFor alone verdicts)

/-- A request that a gate has heard: the moment that was then read from the running clock, the decision on
it, and how it was served. -/
structure Hearing where
  now : Nat
  decision : Limiter.Decision
  exchange : Exchange

namespace Hearing

/-- The key under which the request is counted. -/
def client (h : Hearing) : String := Credential.clientKey h.exchange.request.headers h.exchange.request.peer

def admitted (h : Hearing) : Bool := h.decision = .allowed

end Hearing

namespace Gate

/-! ### What happens to a gate -/

/-- A gate after one occurrence. -/
def next (g : Gate) (o : Occurrence) : Gate := (proceed ([], g) o).2

/-- What happens to a gate: each occurrence with the gate that it meets. -/
def trail : Gate → List Occurrence → List (Gate × Occurrence)
  | _, [] => []
  | g, o :: os => (g, o) :: trail (g.next o) os

/-- Whether an occurrence is anything but a request that is turned away. -/
def lets (g : Gate) : Occurrence → Bool
  | .request _ r => (g.screen r).1 = .allowed
  | .wait _ | .sweep => true

/-- The request that an occurrence is, as it is heard. -/
def hearing? (g : Gate) : Occurrence → Option Hearing
  | .request draws r => some ⟨g.world.clock.now, (g.screen r).1, g.exchange draws r⟩
  | .wait _ | .sweep => none

/-- What a limiter notices of an occurrence. -/
def moment? (g : Gate) : Occurrence → Option Limiter.Moment
  | .request _ r => some ⟨g.world.clock.now, .ask (Credential.clientKey r.headers r.peer)⟩
  | .wait _ => none
  | .sweep => some ⟨g.world.clock.now, .sweep⟩

/-- The requests, admitted or not. -/
def hearings (g : Gate) (os : List Occurrence) : List Hearing :=
  (g.trail os).filterMap fun m => m.1.hearing? m.2

/-- What happens if the requests are taken out that are turned away. -/
def passing (g : Gate) (os : List Occurrence) : List Occurrence :=
  ((g.trail os).filter fun m => m.1.lets m.2).map Prod.snd

/-- What a limiter notices. -/
def noticed (g : Gate) (os : List Occurrence) : List Limiter.Moment :=
  (g.trail os).filterMap fun m => m.1.moment? m.2

/-- The same service, with everyone admitted. -/
def unlimited (g : Gate) : Gate := { g with admission := .everyone }

variable (g : Gate) (o : Occurrence) (os : List Occurrence)

theorem hearings_cons : g.hearings (o :: os) = (g.hearing? o).toList ++ (g.next o).hearings os := by
  simp only [hearings, trail, List.filterMap_cons]
  cases g.hearing? o <;> rfl

theorem noticed_cons : g.noticed (o :: os) = (g.moment? o).toList ++ (g.next o).noticed os := by
  simp only [noticed, trail, List.filterMap_cons]
  cases g.moment? o <;> rfl

theorem passing_cons_of_lets (lets : g.lets o = true) :
    g.passing (o :: os) = o :: (g.next o).passing os := by
  simp only [passing, trail, List.filter_cons, lets, if_true, List.map_cons]

theorem passing_cons_of_turnedAway (away : g.lets o = false) :
    g.passing (o :: os) = (g.next o).passing os := by
  simp only [passing, trail, List.filter_cons, away, Bool.false_eq_true, if_false]

theorem foldl_proceed (log : List Exchange) :
    os.foldl proceed (log, g) = (log ++ (g.hearings os).map Hearing.exchange, os.foldl next g) := by
  induction os generalizing g log with
  | nil => exact congrArg (·, g) (List.append_nil log).symm
  | cons o os ih =>
    have step : proceed (log, g) o = (log ++ (g.hearing? o).toList.map Hearing.exchange, g.next o) := by
      cases o with
      | request draws r => rfl
      | wait d => exact congrArg (·, _) (List.append_nil log).symm
      | sweep => exact congrArg (·, _) (List.append_nil log).symm
    rw [List.foldl_cons, step, ih, hearings_cons, List.map_append, List.append_assoc]
    rfl

/-- **A run is made of its steps**: its log holds the requests as they are heard. -/
theorem run_eq : g.run os = ((g.hearings os).map Hearing.exchange, os.foldl next g) :=
  foldl_proceed g os []

/-! ### A service with a limiter and one without -/

variable {g o}

/-- **What is admitted** happens to a service without a limiter in the same way. -/
theorem next_unlimited (lets : g.lets o = true) :
    g.unlimited.next o = (g.next o).unlimited ∧ g.unlimited.hearing? o = g.hearing? o := by
  cases o with
  | wait d => exact ⟨rfl, rfl⟩
  | sweep =>
    refine ⟨?_, rfl⟩
    show g.unlimited = g.sweep.unlimited
    unfold sweep
    split <;> rfl
  | request draws r =>
    have admitted : (g.screen r).1 = .allowed := of_decide_eq_true lets
    rcases ran : (g.service.answer draws r).run (some (g.world.clock.timer patience)) g.world with ⟨x, w⟩
    have here := g.handle_of_allowed draws admitted ran
    have there := g.unlimited.handle_of_allowed draws rfl ran
    constructor
    · show (g.unlimited.handle draws r).2 = (g.handle draws r).2.unlimited
      rw [here, there]
      rfl
    · show some (Hearing.mk _ _ ⟨_, _, _, (g.unlimited.handle draws r).1⟩) =
        some ⟨_, (g.screen r).1, ⟨_, _, _, (g.handle draws r).1⟩⟩
      rw [here, there, admitted]
      rfl

/-- A request that is turned away is answered by the limiter alone. -/
theorem handle_of_turnedAway (g : Gate) (draws : Draws) {r : Request} (away : (g.screen r).1 ≠ .allowed) :
    ∃ wait, g.handle draws r =
      (dispatch draws g.world.today r (Problem.rateLimited wait).response, (g.screen r).2) := by
  cases decided : (g.screen r).1 with
  | allowed => exact absurd decided away
  | limited wait => exact ⟨wait, g.handle_of_limited draws decided⟩

/-- **What is turned away** happens to the limiter alone. -/
theorem next_of_turnedAway (away : g.lets o = false) : (g.next o).unlimited = g.unlimited := by
  cases o with
  | wait d => cases away
  | sweep => cases away
  | request draws r =>
    obtain ⟨wait, limited⟩ := g.handle_of_turnedAway draws (of_decide_eq_false away)
    show (g.handle draws r).2.unlimited = g.unlimited
    rw [limited]
    rfl

/-- What is let through is heard as admitted, if it is a request. -/
theorem admitted_hearing? (g : Gate) (o : Occurrence) :
    ∀ h ∈ g.hearing? o, h.admitted = g.lets o := by
  cases o with
  | wait d => exact fun h heard => nomatch heard
  | sweep => exact fun h heard => nomatch heard
  | request draws r =>
    intro h heard
    obtain rfl := Option.some.inj heard
    rfl

/-- **A run without the requests that are turned away.** -/
theorem run_passing (g : Gate) (os : List Occurrence) :
    g.unlimited.hearings (g.passing os) = (g.hearings os).filter Hearing.admitted ∧
      (g.passing os).foldl next g.unlimited = (os.foldl next g).unlimited := by
  induction os generalizing g with
  | nil => exact ⟨rfl, rfl⟩
  | cons o os ih =>
    obtain ⟨heard, ended⟩ := ih (g.next o)
    have admitted := g.admitted_hearing? o
    cases lets : g.lets o with
    | true =>
      obtain ⟨stepped, hears⟩ := next_unlimited lets
      have all : (g.hearing? o).toList.filter Hearing.admitted = (g.hearing? o).toList :=
        List.filter_eq_self.mpr fun h mem => (admitted h (Option.mem_toList.mp mem)).trans lets
      rw [g.passing_cons_of_lets o os lets, hearings_cons, hearings_cons, stepped, hears, heard,
        List.filter_append, all, List.foldl_cons, stepped, ended]
      exact ⟨rfl, rfl⟩
    | false =>
      have none : (g.hearing? o).toList.filter Hearing.admitted = [] :=
        List.filter_eq_nil_iff.mpr fun h mem =>
          Bool.eq_false_iff.mp ((admitted h (Option.mem_toList.mp mem)).trans lets)
      rw [next_of_turnedAway lets] at heard ended
      rw [g.passing_cons_of_turnedAway o os lets, hearings_cons, List.filter_append, none, heard, ended]
      exact ⟨rfl, rfl⟩

/-! ### What the limiter notices -/

theorem now_le_next (g : Gate) (o : Occurrence) : g.world.clock.now ≤ (g.next o).world.clock.now := by
  cases o with
  | wait d => exact Nat.le_add_right ..
  | sweep =>
    show g.world.clock.now ≤ g.sweep.world.clock.now
    rw [sweep_world]
  | request draws r =>
    show g.world.clock.now ≤ (g.handle draws r).2.world.clock.now
    rcases g.handle_cases draws r with ⟨wait, limited⟩ | admitted
    · rw [limited]
      exact Nat.le_refl _
    · rw [admitted]
      exact Job.now_le_run _ _ _

/-- Requests come at moments that never go back. -/
theorem noticed_ordered (g : Gate) (os : List Occurrence) :
    (g.noticed os).Pairwise (fun x y => x.now ≤ y.now) ∧ ∀ x ∈ g.noticed os, g.world.clock.now ≤ x.now := by
  induction os generalizing g with
  | nil => exact ⟨.nil, fun x mem => nomatch mem⟩
  | cons o os ih =>
    obtain ⟨ordered, later⟩ := ih (g.next o)
    replace later := fun x mem => Nat.le_trans (g.now_le_next o) (later x mem)
    rw [noticed_cons]
    have now : ∀ x ∈ (g.moment? o).toList, x.now = g.world.clock.now := by
      intro x mem
      cases o with
      | wait d => cases mem
      | sweep => rw [List.mem_singleton.mp mem]
      | request draws r => rw [List.mem_singleton.mp mem]
    refine ⟨List.pairwise_append.mpr ⟨?_, ordered, fun x mem y after => ?_⟩, fun x mem => ?_⟩
    · cases g.moment? o with
      | none => exact .nil
      | some x => exact List.pairwise_singleton _ x
    · rw [now x mem]
      exact later y after
    · rcases List.mem_append.mp mem with mem | mem
      · exact (now x mem).ge
      · exact later x mem

theorem screen_eq {l : Limiter} (limited : g.admission = .windows l) (r : Request) {key : String}
    (counts : Credential.clientKey r.headers r.peer = key) :
    g.screen r = ((l.check g.world.clock.now key).1,
      { g with admission := .windows (l.check g.world.clock.now key).2 }) := by
  subst counts
  simp only [screen, limited, Admission.check]

/-- The decisions are those of the limiter on what it notices. -/
theorem hearings_run {g : Gate} {l : Limiter} (limited : g.admission = .windows l) (os : List Occurrence) :
    (g.hearings os).map (fun h => (h.client, h.decision)) = (l.run (g.noticed os)).1 := by
  induction os generalizing g l with
  | nil => rfl
  | cons o os ih =>
    rw [hearings_cons, noticed_cons]
    cases o with
    | wait d => exact ih limited
    | sweep =>
      have swept : (g.next .sweep).admission = .windows (l.sweep g.world.clock.now) := by
        show g.sweep.admission = _
        simp only [sweep, limited]
      exact ih swept
    | request draws r =>
      generalize counts : Credential.clientKey r.headers r.peer = key
      have screened := screen_eq limited r counts
      have counted : (g.next (.request draws r)).admission =
          .windows (l.check g.world.clock.now key).2 := by
        show (g.handle draws r).2.admission = _
        rcases g.handle_cases draws r with ⟨wait, limited⟩ | admitted
        · rw [limited, screened]
        · rw [admitted, screened]
      have heard : (g.hearing? (.request draws r)).toList.map (fun h => (h.client, h.decision)) =
          [(key, (l.check g.world.clock.now key).1)] := by
        show [(Credential.clientKey r.headers r.peer, (g.screen r).1)] = _
        rw [counts, screened]
      have noticed : (g.moment? (.request draws r)).toList = [⟨g.world.clock.now, .ask key⟩] := by
        rw [← counts]
        rfl
      rw [List.map_append, heard, noticed, ih counted]
      rfl

/-- The moments at which a client has sent requests. -/
theorem moments_of (g : Gate) (os : List Occurrence) (client : String) :
    ((g.hearings os).filter fun h => h.client = client).map Hearing.now =
      (alone client (g.noticed os)).map Limiter.Moment.now := by
  induction os generalizing g with
  | nil => rfl
  | cons o os ih =>
    rw [hearings_cons, noticed_cons, List.filter_append, List.map_append, ih, alone, alone,
      List.filter_append, List.map_append]
    congr 1
    cases o with
    | wait d => rfl
    | sweep => rfl
    | request draws r =>
      by_cases same : Credential.clientKey r.headers r.peer = client <;>
        simp [hearing?, moment?, Hearing.client, Limiter.Moment.isOf, exchange, same]

/-- **Whether a request is admitted depends on the moments at which its client has sent requests**, and on
the window that was stored for the client. -/
theorem decisions_on {g : Gate} {l : Limiter} (limited : g.admission = .windows l)
    (apart : l.windows.Apart) (os : List Occurrence) (client : String) :
    ((g.hearings os).filter fun h => h.client = client).map Hearing.decision =
      verdicts l.limit l.window (l.windows.find? client)
        (((g.hearings os).filter fun h => h.client = client).map Hearing.now) := by
  rw [moments_of, ← Limiter.decisionsFor_run (g.noticed_ordered os).1 apart, ← hearings_run limited,
    decisionsFor, List.filter_map, List.map_map]
  rfl

/-- **The limiter only filters.** Take a gate with a limiter, in any state and any world, and whatever
happens to it. -/
theorem limiter_only_filters (g : Gate) {l : Limiter} (limited : g.admission = .windows l)
    (apart : l.windows.Apart) (os : List Occurrence) :
    -- Have everyone admitted, and take out the requests that the limiter turns away: the others are heard
    -- at the same moments and answered alike, and in the end the world is the same.
    ((g.run os).1 = (g.hearings os).map Hearing.exchange ∧
      (g.unlimited.run (g.passing os)).1 =
        ((g.hearings os).filter Hearing.admitted).map Hearing.exchange ∧
      g.unlimited.hearings (g.passing os) = (g.hearings os).filter Hearing.admitted ∧
      (g.unlimited.run (g.passing os)).2.world = (g.run os).2.world) ∧
    -- Whatever is turned away is told so. Whoever stands behind the gate is not asked, and nothing changes
    -- there.
    ((∀ h ∈ g.hearings os, h.admitted = false → h.exchange.response.status = 429) ∧
      ∀ (t : Gate) (draws : Draws) (r : Request), (t.screen r).1 ≠ .allowed →
        (t.handle draws r).1.status = 429 ∧ (t.handle draws r).2.world = t.world ∧
        ∀ (s : Service) (b : Backend),
          ({ t with service := s, world := { t.world with backend := b } }.handle draws r).1 =
            (t.handle draws r).1) ∧
    -- The decisions on a client follow from the moments at which it sends requests.
    (∀ client, ((g.hearings os).filter fun h => h.client = client).map Hearing.decision =
      verdicts l.limit l.window (l.windows.find? client)
        (((g.hearings os).filter fun h => h.client = client).map Hearing.now)) ∧
    ∀ (h : Hearing) (client : String),
      h.client = client ↔ Credential.CountsAs h.exchange.request.headers h.exchange.request.peer client := by
  obtain ⟨heard, ended⟩ := run_passing g os
  refine ⟨⟨?_, ?_, heard, ?_⟩, ⟨?_, ?_⟩, decisions_on limited apart os,
    fun h client => Credential.countsAs_iff.symm⟩
  · rw [run_eq]
  · rw [run_eq, heard]
  · rw [run_eq, run_eq, ended]
    rfl
  · intro h mem away
    obtain ⟨⟨t, o⟩, -, hears⟩ := List.mem_filterMap.mp mem
    have turned := (t.admitted_hearing? o h hears).symm.trans away
    cases o with
    | wait d => cases turned
    | sweep => cases turned
    | request draws r =>
      obtain rfl := Option.some.inj hears
      obtain ⟨wait, limited⟩ := t.handle_of_turnedAway draws (of_decide_eq_false turned)
      show (t.handle draws r).1.status = 429
      rw [limited, status_dispatch]
      rfl
  · intro t draws r away
    cases decided : (t.screen r).1 with
    | allowed => exact absurd decided away
    | limited wait =>
      rw [t.handle_of_limited draws decided]
      refine ⟨status_dispatch .., rfl, fun s b => ?_⟩
      have elsewhere : ({ t with service := s, world := { t.world with backend := b } }.screen r).1 =
          .limited wait := decided
      rw [Gate.handle_of_limited _ draws elsewhere]
      rfl

/-- Two requests of one client, for different things: the second one is turned away, though there is nothing
to be found where it is sent. -/
theorem limiter_only_filters_second :
    let auth : Token.Authority := ⟨[1], "agora", Duration.ofSecs 60, by decide⟩
    let s : Service := ⟨auth, .plain, ⟨"operator", "secret"⟩, defaultInvitationTtl, ""⟩
    let l : Limiter := .new 1 (Duration.ofSecs 5)
    let g : Gate := ⟨s, .windows l, ⟨.start, fun _ => default, default⟩⟩
    let os : List Occurrence := [.request default ⟨"GET", "/v1/health".toList, [], [], none⟩,
      .request default ⟨"POST", "/nowhere".toList, [], [], none⟩]
    (g.admission = .windows l ∧ l.windows.Apart) ∧
      ((g.hearings os).filter fun h => h.client = "unknown").map Hearing.decision =
        [.allowed, .limited (Duration.ofSecs 5)] := by
  intro auth s l g os
  refine ⟨⟨rfl, Table.apart_empty⟩, ?_⟩
  rw [(limiter_only_filters g rfl Table.apart_empty os).2.2.1 "unknown"]
  decide

end Gate
end Gatehouse.Service
