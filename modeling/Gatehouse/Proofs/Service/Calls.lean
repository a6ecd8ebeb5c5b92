import Gatehouse.Proofs.Service.PostAuthorization

/-!
The calls that requests make.

* `Attempt.only_bind`: the calls of an attempt that goes on are those of its parts. `Idle.only_bind` is the
  same after a part that calls nothing and tells what it has found.
* `Makes`: what an action may call, and with what of its request.
* `perform_makes`, `answer_makes`: nothing else is called, whatever is answered.
-/

namespace Gatehouse.Service

open Http (Request Response)

/-! ### Attempts that make calls of a kind -/

namespace Attempt

variable {α β ε : Type} {p : Effect → Prop}

theorem only_bind {x : Attempt α} {f : α → Attempt β} (first : x.run.Only p)
    (next : ∀ a, (f a).run.Only p) : (x >>= f).run.Only p := by
  rw [Attempt.run_bind]
  refine first.bind fun r => ?_
  cases r with
  | ok a => exact next a
  | error e => trivial

theorem only_ofFallible {problem : ε → Problem} {j : Job (Except ε α)} (only : j.Only p) :
    (ofFallible problem j).run.Only p :=
  only.bind fun _ => trivial

theorem only_store {c : Store.Call} (allowed : p (.store c)) : (Attempt.store c).run.Only p :=
  only_ofFallible ⟨allowed, fun _ => trivial⟩

theorem Idle.only {x : Attempt α} (idle : x.Idle) : x.run.Only p := by
  obtain ⟨r, done, -⟩ := idle
  rw [done]
  trivial

/-- What goes on after a step that is decided at once knows what the step has come to. -/
theorem Idle.only_bind {x : Attempt α} (idle : x.Idle) {f : α → Attempt β}
    (next : ∀ a, x.run = .done (.ok a) → (f a).run.Only p) : (x >>= f).run.Only p := by
  obtain ⟨r, done, -⟩ := idle
  rw [run_bind, done]
  cases r with
  | ok a => exact next a done
  | error e => trivial

theorem only_respond {x : Attempt Response} (only : x.run.Only p) : x.respond.Only p := by
  refine only.bind fun r => ?_
  cases r <;> trivial

end Attempt

open Attempt (only_bind only_ofFallible only_store)

/-! ### What steps have found -/

theorem segmentId_of_names {segment : List Char} {id : Int64} (names : Names segment id) :
    (segmentId segment).run = .done (.ok id) := by
  unfold segmentId
  rw [Names] at names
  rw [names]
  rfl

/-- A record that is taken from a body is the one that the body holds. -/
theorem decode_of_payload {α : Type} {shape : Json.Shape α} {r : Request} {a : α}
    (taken : (payload shape r).run = .done (.ok a)) : shape.decode r.body = .ok a := by
  unfold payload at taken
  split at taken
  · cases taken
  split at taken
  · cases taken
  split at taken
  · next held =>
    rw [held]
    exact congrArg Except.ok (Except.ok.inj (Job.done.inj taken))
  · cases taken

/-- A form that goes on has kept its rules. -/
theorem rules_of_keep {rules : Except Form.Violation Unit} {a : Unit}
    (kept : (keep rules).run = .done (.ok a)) : rules = .ok () := by
  cases rules with
  | ok _ => rfl
  | error v => cases kept

/-- Whether a principal may touch a post is found out by a look at the post and one at a role. -/
theorem ownPost_only {p : Effect → Prop} (u : User) (id : Int64) (role : String)
    (post : p (.store (.postById id))) (asked : p (.store (.roleByName role))) :
    (ownPost u id role).run.Only p := by
  refine only_bind (only_store post) fun post => only_bind (only_ofFallible ?_) fun allowed => ?_
  · unfold Authorization.authorize
    split
    · trivial
    · refine ⟨asked, fun answer => ?_⟩
      cases answer with
      | ok role => trivial
      | error e => cases e <;> trivial
  · cases allowed <;> trivial

theorem ownPost_looksUp (u : User) (id : Int64) (role : String) : (ownPost u id role).run.Only LooksUp :=
  ownPost_only u id role trivial trivial

/-! ### Calls -/

/-- What an action may call: it looks something up, or makes the one call that it is there for. A post is
created as the rules for new posts allow, and changed by what its request holds, as the rules for changes
allow. -/
inductive Makes (r : Request) : Action → Effect → Prop where
  | looksUp {a : Action} {e : Effect} (looks : LooksUp e) : Makes r a e
  | register (n : Store.Newcomer) (i : Invitation) : Makes r .register (.store (.createAndInvite n i))
  | activate (segment : List Char) (digest : String) (now : Instant) :
    Makes r (.activate segment) (.store (.activate digest now))
  | follow {segment : List Char} {id : Int64} (names : Names segment id) (follower : Int64) :
    Makes r (.follow segment) (.store (.follow follower id))
  | unfollow {segment : List Char} {id : Int64} (names : Names segment id) (follower : Int64) :
    Makes r (.unfollow segment) (.store (.unfollow follower id))
  | createPost {d : Post.Draft} (kept : Form.newPost d.title d.content = .ok ()) :
    Makes r .createPost (.store (.createPost d))
  | editPost {segment : List Char} {id : Int64} {patch : Post.Patch} (names : Names segment id)
    (held : patchShape.decode r.body = .ok patch)
    (kept : Form.postPatch patch.title patch.content = .ok ()) :
    Makes r (.editPost segment) (.store (.updatePost id patch))
  | deletePost {segment : List Char} {id : Int64} (names : Names segment id) :
    Makes r (.deletePost segment) (.store (.deletePost id))

/-- **An action makes the calls that it is there for**, and otherwise looks things up. -/
theorem perform_makes (s : Service) (draws : Draws) (r : Request) (a : Action) :
    (s.perform draws r a).run.Only (Makes r a) := by
  have looks {α : Type} {x : Attempt α} (only : x.run.Only LooksUp) : x.run.Only (Makes r a) :=
    only.mono fun _ => .looksUp
  have forUser {f : User → Attempt Response} (next : ∀ u, (f u).run.Only (Makes r a)) :
      (s.principal r >>= f).run.Only (Makes r a) :=
    only_bind (looks (principal_looksUp s r)) next
  have last {c : Store.Call} {f : c.Answer → Response} (made : Makes r a (.store c)) :
      (do let x ← Attempt.store c; return f x : Attempt Response).run.Only (Makes r a) :=
    only_bind (only_store made) fun _ => trivial
  cases a with
  | health => trivial
  | register =>
    refine only_bind (payload_idle _ r).only fun p => only_bind (keep_idle _).only fun _ =>
      only_bind (only_ofFallible fun now => ?_) fun _ => trivial
    dsimp only
    split
    · trivial
    · refine ⟨.register .., fun x => ?_⟩
      cases x <;> trivial
  | logIn =>
    refine only_bind (payload_idle _ r).only fun p => only_bind (keep_idle _).only fun _ =>
      only_bind (only_ofFallible ⟨.looksUp trivial, fun _ => trivial⟩) fun c => ?_
    split
    · exact only_bind (fun _ => trivial) fun _ => trivial
    · trivial
  | activate segment =>
    refine only_bind (segmentText_idle segment).only fun text =>
      only_bind (only_ofFallible fun now => ⟨.activate .., fun x => ?_⟩) fun _ => trivial
    match x with
    | .ok _ => trivial
    | .error e => cases e <;> trivial
  | showUser segment =>
    refine forUser fun u => only_bind (segmentId_idle segment).only fun id => ?_
    split
    · trivial
    · exact only_bind (only_ofFallible
        ((resolve_looksUp s.resolver id).mono fun _ => .looksUp)) fun _ => trivial
  | follow segment =>
    exact forUser fun u => (segmentId_idle segment).only_bind fun id found =>
      last (.follow (names_of_run found) u.id)
  | unfollow segment =>
    exact forUser fun u => (segmentId_idle segment).only_bind fun id found =>
      last (.unfollow (names_of_run found) u.id)
  | createPost =>
    exact forUser fun u => only_bind (payload_idle _ r).only fun p =>
      (keep_idle _).only_bind fun _ kept => last (.createPost (rules_of_keep kept))
  | showPost segment =>
    exact forUser fun _ => only_bind (segmentId_idle segment).only fun id => last (.looksUp trivial)
  | editPost segment =>
    exact forUser fun u => (segmentId_idle segment).only_bind fun id found =>
      (payload_idle _ r).only_bind fun patch taken => only_bind (looks (ownPost_looksUp u id _)) fun _ =>
      (keep_idle _).only_bind fun _ kept =>
      last (.editPost (names_of_run found) (decode_of_payload taken) (rules_of_keep kept))
  | deletePost segment =>
    exact forUser fun u => (segmentId_idle segment).only_bind fun id found =>
      only_bind (looks (ownPost_looksUp u id _)) fun _ => last (.deletePost (names_of_run found))
  | showDocument =>
    show (s.showDocument r).run.Only _
    unfold showDocument
    split <;> trivial

/-- **A request makes the calls of the action that it asks for**, whatever is answered to it. -/
theorem answer_makes (s : Service) (draws : Draws) (r : Request) :
    (s.answer draws r).Only fun e => ∃ a, aim r = .action a ∧ Makes r a e := by
  rcases s.answer_cases draws r with ⟨status, -, none⟩ | ⟨a, aimed, acts⟩
  · rw [none]
    trivial
  · rw [acts]
    exact Attempt.only_respond ((perform_makes s draws r a).mono fun e makes => ⟨a, aimed, makes⟩)

end Gatehouse.Service
