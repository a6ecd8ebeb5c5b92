import Gatehouse.Proofs.Job.Commits
import Gatehouse.Proofs.Service.Conversation

/-!
A request that does not succeed leaves the data as it was.

Every action looks up first what it needs. At most one of its calls changes something, and after that
call nothing is left to do but to report the success.

* `perform_commits`: so does every action.
* `refusals_change_nothing`: what follows for calls, for requests among others, and for requests that
  are answered one at a time.
-/

namespace Gatehouse.Service

open Http (Request Response)
open Store (Memory)

/-- A response reports success. -/
def Succeeds (x : Response) : Prop := 200 ≤ x.status ∧ x.status < 300

theorem Succeeds.json {status : Nat} (success : 200 ≤ status ∧ status < 300) (body : Json) :
    Succeeds (.json status body) := success

theorem Succeeds.empty {status : Nat} (success : 200 ≤ status ∧ status < 300) :
    Succeeds (.empty status) := success

theorem LooksUp.not_writes {e : Effect} (looks : LooksUp e) : ¬ e.Writes := by
  cases e with
  | store c => exact fun writes => writes looks
  | cache c => exact id

/-! ### Attempts -/

namespace Attempt

variable {α β ε : Type} {mid : α → Prop} {good : β → Prop}

/-- Once an attempt has changed something, all that is left of it is a result of a kind. -/
def Commits (good : α → Prop) (x : Attempt α) : Prop := x.run.Commits fun r => ∃ a, r = .ok a ∧ good a

theorem Commits.bind {x : Attempt α} {f : α → Attempt β} (first : x.Commits mid)
    (next : ∀ a, (f a).Commits good) (ends : ∀ a, mid a → ∃ b, f a = pure b ∧ good b) :
    (x >>= f).Commits good := by
  rw [Commits, run_bind]
  refine Job.Commits.bind first ?_ ?_
  · intro r
    cases r with
    | ok a => exact next a
    | error e => trivial
  · rintro _ ⟨a, rfl, result⟩
    obtain ⟨b, same, result⟩ := ends a result
    exact ⟨.ok b, congrArg ExceptT.run same, b, rfl, result⟩

/-- What only looks things up may come before anything else. -/
theorem Commits.after_reads {x : Attempt α} {f : α → Attempt β} (reads : x.run.Only LooksUp)
    (next : ∀ a, (f a).Commits good) : (x >>= f).Commits good := by
  have nothing : x.Commits fun _ => False := reads.commits fun _ => LooksUp.not_writes
  exact .bind nothing next fun _ never => never.elim

/-- A call, or a job that makes one, may come last. -/
theorem Commits.last {problem : ε → Problem} {j : Job (Except ε α)}
    (first : j.Commits fun r => ∃ a, r = .ok a) {f : α → β} (result : ∀ a, good (f a)) :
    (do let a ← Attempt.ofFallible problem j; return f a : Attempt β).Commits good := by
  have once : (Attempt.ofFallible problem j).Commits fun _ => True := by
    refine Job.Commits.bind first (fun _ => trivial) ?_
    rintro _ ⟨a, rfl⟩
    exact ⟨.ok a, rfl, a, rfl, trivial⟩
  exact .bind once (fun _ => trivial) fun a _ => ⟨f a, rfl, result a⟩

theorem Commits.last_store {c : Store.Call} {f : c.Answer → β} (result : ∀ a, good (f a)) :
    (do let a ← Attempt.store c; return f a : Attempt β).Commits good := by
  refine .last ?_ result
  intro r
  exact ⟨trivial, fun a _ answer => ⟨r, rfl, a, answer⟩⟩

theorem Commits.respond {x : Attempt Response} (commits : x.Commits Succeeds) :
    x.respond.Commits Succeeds := by
  refine Job.Commits.bind commits ?_ ?_
  · intro r
    cases r <;> trivial
  · rintro _ ⟨x, rfl, success⟩
    exact ⟨x, rfl, success⟩

end Attempt

/-! ### Actions -/

open Attempt (Commits only_bind only_ofFallible only_store)

theorem register_commits (random : Bytes) (n : Store.Newcomer) (ttl : Duration) :
    (Invitation.register random n ttl).Commits fun r => ∃ a, r = .ok a := by
  intro now
  dsimp only
  split
  · trivial
  · intro r
    cases r with
    | ok u => exact ⟨trivial, fun _ _ _ => ⟨_, rfl, _, rfl⟩⟩
    | error e => exact ⟨trivial, fun a _ answer => by cases answer⟩

theorem activate_commits (text : String) :
    (Invitation.activate text).Commits fun r => ∃ a, r = .ok a := by
  intro now r
  match r with
  | .ok id => exact ⟨trivial, fun _ _ _ => ⟨_, rfl, _, rfl⟩⟩
  | .error e => exact ⟨by cases e <;> trivial, fun a _ answer => by cases answer⟩

/-- **Every action changes something by its last call only**, and then reports success. -/
theorem perform_commits (s : Service) (draws : Draws) (r : Request) (a : Action) :
    (s.perform draws r a).Commits Succeeds := by
  have forUser {f : User → Attempt Response} (next : ∀ u, (f u).Commits Succeeds) :=
    Commits.after_reads (principal_looksUp s r) next
  have created (body : Json) : Succeeds (.json 201 body) := .json (by decide) body
  have shown (body : Json) : Succeeds (.json 200 body) := .json (by decide) body
  have emptied : Succeeds (.empty 204) := .empty (by decide)
  cases a with
  | health => trivial
  | register =>
    exact .after_reads (payload_idle _ r).only fun p => .after_reads (keep_idle _).only fun _ =>
      .last (register_commits _ _ _) fun _ => created _
  | logIn =>
    refine .after_reads (payload_idle _ r).only fun p => .after_reads (keep_idle _).only fun _ =>
      .after_reads (only_ofFallible ⟨trivial, fun _ => trivial⟩) fun c => ?_
    split
    · exact .after_reads (fun _ => trivial) fun _ => trivial
    · trivial
  | activate segment =>
    exact .after_reads (segmentText_idle segment).only fun text =>
      .last (activate_commits text) fun _ => emptied
  | showUser id =>
    refine forUser fun u => .after_reads (segmentId_idle id).only fun id => ?_
    split
    · trivial
    · exact .after_reads (only_ofFallible (resolve_looksUp s.resolver id)) fun _ => trivial
  | follow id =>
    exact forUser fun u => .after_reads (segmentId_idle id).only fun id => .last_store fun _ => emptied
  | unfollow id =>
    exact forUser fun u => .after_reads (segmentId_idle id).only fun id => .last_store fun _ => emptied
  | createPost =>
    exact forUser fun u => .after_reads (payload_idle _ r).only fun p =>
      .after_reads (keep_idle _).only fun _ => .last_store fun _ => created _
  | showPost id =>
    exact forUser fun _ => .after_reads (segmentId_idle id).only fun id => .last_store fun _ => shown _
  | editPost id =>
    exact forUser fun u => .after_reads (segmentId_idle id).only fun id =>
      .after_reads (payload_idle _ r).only fun patch => .after_reads (ownPost_looksUp u id _) fun _ =>
      .after_reads (keep_idle _).only fun _ => .last_store fun _ => shown _
  | deletePost id =>
    exact forUser fun u => .after_reads (segmentId_idle id).only fun id =>
      .after_reads (ownPost_looksUp u id _) fun _ => .last_store fun _ => emptied
  | showDocument =>
    show (s.showDocument r).Commits _
    unfold showDocument
    split <;> trivial

theorem answer_commits (s : Service) (draws : Draws) (r : Request) :
    (s.answer draws r).Commits Succeeds := by
  rcases s.answer_cases draws r with ⟨status, -, none⟩ | ⟨a, -, acts⟩
  · rw [none]
    trivial
  · rw [acts]
    exact (perform_commits s draws r a).respond

/-! ### Requests -/

/-- A request that is answered with anything but success leaves the data as it was. -/
theorem Gate.store_handle (g : Gate) (draws : Draws) (r : Request)
    (failed : ¬ Succeeds (g.handle draws r).1) : (g.handle draws r).2.store = g.store := by
  rcases g.handle_cases draws r with ⟨wait, limited⟩ | admitted
  · rw [limited]
    rfl
  · rcases (answer_commits g.service draws r).run (some (g.world.clock.timer patience)) g.world with
      same | ⟨x, result, success⟩
    · rw [admitted]
      exact same
    · refine absurd ?_ failed
      rw [admitted, Succeeds, status_dispatch, result]
      exact success

/-- **What is refused changes nothing.** -/
theorem refusals_change_nothing :
    -- A call that fails leaves the data as it is.
    (∀ (m : Memory) (now : Instant) (c : Store.Call) (e : Store.Error),
      (m.perform now c).1 = .error e → (m.perform now c).2 = m) ∧
    -- Take a request among any others, whatever befalls their calls. What it is told leaves the data as
    -- it is, unless it then has its response, and that reports success. So it may be given up at any
    -- point before.
    (∀ (s : Service) (draws : Draws) (r : Request) (ι : Type) [DecidableEq ι] (jobs : ι → Job Response)
      (store : Memory) (σ : Pool Memory ι Response) (i : ι), jobs i = s.answer draws r →
      Pool.Runs Memory.Tells (.start jobs store) σ →
      ∀ (x : Event) (j : Job Response) (m : Memory), Job.Moves (σ.job i) x j → σ.shared.Tells x m →
        m = σ.shared ∨ ∃ response, j = .done response ∧ Succeeds response) ∧
    -- Where requests are answered one at a time, under any limiter and any mishaps, one that is answered
    -- with anything but success leaves the data as it was.
    ∀ (g : Gate) (draws : Draws) (r : Request), ¬ Succeeds (g.handle draws r).1 →
      (g.handle draws r).2.store = g.store := by
  refine ⟨?_, ?_, Gate.store_handle⟩
  · intro m now c e failed
    exact m.perform_error now failed
  · intro s draws r ι _ jobs store σ i starts run x j m move tells
    have commits := answer_commits s draws r
    rw [← starts] at commits
    exact ((run.after i).commits commits).told move tells

/-- An invitation is to be used, but storage does not answer before the time of the request is over. -/
theorem refusals_change_nothing_late :
    let auth : Token.Authority := ⟨[1], "agora", Duration.ofSecs 60, by decide⟩
    let mishaps : Script := Table.empty.insert "invitations.activate" [some .hang]
    let g : Gate := ⟨⟨auth, .plain, ⟨"operator", "secret"⟩, defaultInvitationTtl, ""⟩, .everyone,
      ⟨.start, fun _ => default, { Backend.ofStore .seeded with script := mishaps }⟩⟩
    let r : Request := ⟨"PUT", "/v1/users/activate/abc".toList, [], [], none⟩
    ((g.handle default r).1.status = 408 ∧ (g.handle default r).2.store = .seeded) ∧
      ((Memory.seeded.perform default (.deletePost 7)).1 = .error .notFound ∧
        (Memory.seeded.perform default (.deletePost 7)).2 = .seeded) ∧
      ∃ j, Job.Moves (g.service.answer default r) (.read default) j ∧
        (Memory.seeded = Memory.seeded ∨ ∃ response, j = .done response ∧ Succeeds response) := by
  intro auth mishaps g r
  obtain ⟨calls, others, requests⟩ := refusals_change_nothing
  refine ⟨?_, ?_, ?_⟩
  · have late : (g.handle default r).1.status = 408 := by decide +kernel
    refine ⟨late, requests g default r ?_⟩
    intro success
    have := success.2
    omega
  · have missing : (Memory.seeded.perform default (.deletePost 7)).1 = .error .notFound := rfl
    exact ⟨missing, calls _ _ _ _ missing⟩
  · have aimed : aim r = .action (.activate "abc".toList) := by decide +kernel
    have text : Http.Percent.decodeText? "abc".toList = some "abc" := by decide +kernel
    have starts : g.service.perform default r (.activate "abc".toList) =
        (do Attempt.ofFallible .ofInvitation (Invitation.activate "abc"); return .empty 204) := by
      show activate _ = _
      rw [activate, segmentText, text]
      rfl
    have move : ∃ j, Job.Moves (g.service.answer default r) (.read default) j := by
      rw [answer_eq_respond _ _ aimed, starts]
      exact ⟨_, .read _ _⟩
    obtain ⟨j, move⟩ := move
    exact ⟨j, move, others g.service default r Unit (fun _ => g.service.answer default r) .seeded _ () rfl
      .refl _ j _ move (.read default)⟩

end Gatehouse.Service
