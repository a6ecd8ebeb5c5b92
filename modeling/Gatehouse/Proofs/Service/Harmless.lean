import Gatehouse.Proofs.Resolver
import Gatehouse.Proofs.Service.Attempt

/-!
Actions that leave the posts of others alone.

* `Harmless`: an attempt never changes or deletes a post, whatever it is told, and is never refused as
  forbidden.
* `perform_harmless`: every action but two is harmless.
-/

namespace Gatehouse.Service

open Http (Request Response)

/-- The calls that neither change nor delete a post. -/
def SparesPosts : Effect → Prop
  | .store (.updatePost _ _) | .store (.deletePost _) => False
  | _ => True

theorem ofStore_ne_forbidden (e : Store.Error) : Problem.ofStore e ≠ .forbidden := by
  cases e <;> simp [Problem.ofStore]

theorem ofInvitation_ne_forbidden (e : Invitation.Error) : Problem.ofInvitation e ≠ .forbidden := by
  cases e with
  | store cause => exact ofStore_ne_forbidden cause
  | _ => simp [Problem.ofInvitation]

namespace Attempt

variable {α β ε : Type}

/-- An attempt that changes and deletes no post and is not refused as forbidden; its result, if it has
one, is of a kind. -/
def Harmless (ends : α → Prop) (x : Attempt α) : Prop :=
  ∀ h, x.Abides (fun _ e => SparesPosts e) (fun _ e => e ≠ .problem .forbidden) (fun _ a => ends a) h

variable {ends : α → Prop}

theorem Harmless.pure {a : α} (result : ends a) : (Pure.pure a : Attempt α).Harmless ends :=
  fun _ => Abides.pure result

theorem Harmless.refuse {e : Refusal} (other : e ≠ .problem .forbidden) :
    (Attempt.refuse e : Attempt α).Harmless ends :=
  fun _ => Abides.refuse other

theorem Harmless.bind {x : Attempt α} {f : α → Attempt β} {ends : β → Prop}
    (first : x.Harmless fun _ => True) (next : ∀ a, (f a).Harmless ends) : (x >>= f).Harmless ends :=
  fun h => (first h).bind fun h a _ => next a h

theorem Harmless.ofExcept {problem : ε → Problem} (r : Except ε α)
    (other : ∀ e, problem e ≠ .forbidden) :
    (Attempt.ofExcept problem r).Harmless fun _ => True :=
  fun _ => Abides.ofExcept (fun _ _ => trivial) fun e eq => other e (Refusal.problem.inj eq)

theorem Harmless.ofFallible {problem : ε → Problem} {j : Job (Except ε α)}
    (only : j.Only SparesPosts) (other : ∀ e, problem e ≠ .forbidden) :
    (Attempt.ofFallible problem j).Harmless fun _ => True := by
  intro h
  refine Abides.ofFallible ((only.abides h).mono (fun _ _ spares => spares) fun h r _ => ?_)
  cases r with
  | ok a => trivial
  | error e => exact fun eq => other e (Refusal.problem.inj eq)

theorem Harmless.store {c : Store.Call} (spares : SparesPosts (.store c)) :
    (Attempt.store c).Harmless fun _ => True :=
  .ofFallible ⟨spares, fun _ => trivial⟩ ofStore_ne_forbidden

/-- An attempt that is decided at once, and not refused as forbidden. -/
def Idle (x : Attempt α) : Prop := ∃ r, x.run = .done r ∧ r ≠ .error (.problem .forbidden)

theorem Idle.abides {x : Attempt α} (idle : x.Idle) {calls : History → Effect → Prop}
    {stop : History → Refusal → Prop} {h : History} (other : ∀ e, e ≠ .problem .forbidden → stop h e) :
    x.Abides calls stop (fun h' a => h' = h ∧ x.run = .done (.ok a)) h := by
  obtain ⟨r, done, allowed⟩ := idle
  rw [Abides, done]
  cases r with
  | ok a => exact ⟨rfl, rfl⟩
  | error e => exact other e fun eq => allowed (eq ▸ rfl)

theorem Idle.harmless {x : Attempt α} (idle : x.Idle) : x.Harmless fun _ => True :=
  fun h => (idle.abides (h := h) fun _ other => other).mono (fun _ _ calls => calls) fun _ r ended => by
    cases r with
    | ok a => trivial
    | error e => exact ended

end Attempt

/-! ### What actions read -/

open Attempt (Harmless Idle)

theorem today_harmless : today.Harmless fun _ => True := fun _ _ => trivial

theorem resolve_spares (r : Resolver) (id : Int64) : (r.resolve id).Only SparesPosts := by
  refine (r.resolve_only id).mono fun e consults => ?_
  cases e with
  | store c =>
    cases consults
    trivial
  | cache c => trivial

theorem principal_harmless (s : Service) (r : Request) :
    (s.principal r).Harmless fun _ => True := by
  refine .bind (.ofExcept _ fun e => ?_) fun token => .bind today_harmless fun now =>
    .bind (.ofExcept _ fun e => ?_) fun claims => .ofFallible ?_ fun e => ?_
  · cases e <;> simp [Problem.ofCredential]
  · cases e <;> simp [Problem.ofToken]
  · exact resolve_spares s.resolver claims.sub
  · unfold Problem.ofResolution
    split <;> simp

theorem segmentText_idle (segment : List Char) : (segmentText segment).Idle := by
  unfold segmentText
  split
  · exact ⟨_, rfl, by simp⟩
  · exact ⟨_, rfl, by simp⟩

theorem segmentId_idle (segment : List Char) : (segmentId segment).Idle := by
  unfold segmentId
  split
  · exact ⟨_, rfl, by simp⟩
  · exact ⟨_, rfl, by simp⟩

theorem payload_idle {α : Type} (shape : Json.Shape α) (r : Request) : (payload shape r).Idle := by
  unfold payload
  split
  · exact ⟨_, rfl, by simp⟩
  split
  · exact ⟨_, rfl, by simp⟩
  split
  · exact ⟨_, rfl, by simp⟩
  · exact ⟨_, rfl, by simp⟩

theorem keep_idle (rules : Except Form.Violation Unit) : (keep rules).Idle := by
  cases rules with
  | ok _ => exact ⟨_, rfl, by simp [Except.mapError]⟩
  | error e => exact ⟨_, rfl, by simp [Except.mapError]⟩

/-! ### Actions -/

/-- The responses that report no refusal for want of rights. -/
def NotForbidden (x : Response) : Prop := x.status ≠ 403

theorem NotForbidden.json {status : Nat} (h : status ≠ 403) (body : Json) :
    NotForbidden (.json status body) := h

theorem NotForbidden.empty {status : Nat} (h : status ≠ 403) : NotForbidden (.empty status) := h

theorem register_harmless (s : Service) (draws : Draws) (r : Request) :
    (s.register draws r).Harmless NotForbidden := by
  refine .bind (payload_idle _ r).harmless fun p => .bind (keep_idle _).harmless fun _ =>
    .bind (.ofFallible ?_ fun e => ?_) fun x => .pure (.json (by decide) _)
  · intro now
    dsimp only
    split
    · trivial
    · refine ⟨trivial, fun answer => ?_⟩
      cases answer <;> trivial
  · exact ofInvitation_ne_forbidden e

theorem logIn_harmless (s : Service) (r : Request) : (s.logIn r).Harmless NotForbidden := by
  refine .bind (payload_idle _ r).harmless fun p => .bind (keep_idle _).harmless fun _ =>
    .bind (.ofFallible ⟨trivial, fun _ => trivial⟩ fun e => ?_) fun c => ?_
  · cases e <;> simp [Problem.ofStore]
  · split
    · exact .bind today_harmless fun now => .pure (.json (by decide) _)
    · exact .refuse (by simp)

theorem activate_harmless (segment : List Char) : (activate segment).Harmless NotForbidden := by
  refine .bind (segmentText_idle segment).harmless fun token =>
    .bind (.ofFallible ?_ fun e => ?_) fun _ => .pure (.empty (by decide))
  · refine fun now => ⟨trivial, fun answer => ?_⟩
    match answer with
    | .ok _ => trivial
    | .error e => cases e <;> trivial
  · exact ofInvitation_ne_forbidden e

theorem showUser_harmless (s : Service) (u : User) (segment : List Char) :
    (s.showUser u segment).Harmless NotForbidden := by
  refine .bind (segmentId_idle segment).harmless fun id => ?_
  split
  · exact .pure (.json (by decide) _)
  · refine .bind (.ofFallible (resolve_spares s.resolver id) fun e => ?_) fun u =>
      .pure (.json (by decide) _)
    cases e with
    | store cause => exact ofStore_ne_forbidden cause
    | cache cause => simp

theorem follow_harmless (u : User) (segment : List Char) :
    (Service.follow u segment).Harmless NotForbidden :=
  .bind (segmentId_idle segment).harmless fun _ => .bind (.store trivial) fun _ =>
    .pure (.empty (by decide))

theorem unfollow_harmless (u : User) (segment : List Char) :
    (Service.unfollow u segment).Harmless NotForbidden :=
  .bind (segmentId_idle segment).harmless fun _ => .bind (.store trivial) fun _ =>
    .pure (.empty (by decide))

theorem createPost_harmless (u : User) (r : Request) :
    (Service.createPost u r).Harmless NotForbidden :=
  .bind (payload_idle _ r).harmless fun _ => .bind (keep_idle _).harmless fun _ => .bind (.store trivial) fun _ =>
    .pure (.json (by decide) _)

theorem showPost_harmless (segment : List Char) :
    (Service.showPost segment).Harmless NotForbidden :=
  .bind (segmentId_idle segment).harmless fun _ => .bind (.store trivial) fun _ =>
    .pure (.json (by decide) _)

theorem showDocument_harmless (s : Service) (r : Request) :
    (s.showDocument r).Harmless NotForbidden := by
  unfold showDocument
  split
  · exact .pure (.json (by decide) _)
  · exact .refuse (by simp)

/-- **Every action but two leaves the posts that are stored alone**, and is not forbidden to anyone. -/
theorem perform_harmless (s : Service) (draws : Draws) (r : Request) {a : Action}
    (noEdit : ∀ id, a ≠ .editPost id) (noDeletion : ∀ id, a ≠ .deletePost id) :
    (s.perform draws r a).Harmless NotForbidden := by
  have forUser {f : User → Attempt Response} (next : ∀ u, (f u).Harmless NotForbidden) :=
    Harmless.bind (principal_harmless s r) next
  cases a with
  | health => exact .pure (by simp [NotForbidden, health, Http.Response.json])
  | register => exact register_harmless s draws r
  | logIn => exact logIn_harmless s r
  | activate token => exact activate_harmless token
  | showUser id => exact forUser fun u => showUser_harmless s u id
  | follow id => exact forUser fun u => follow_harmless u id
  | unfollow id => exact forUser fun u => unfollow_harmless u id
  | createPost => exact forUser fun u => createPost_harmless u r
  | showPost id => exact forUser fun _ => showPost_harmless id
  | editPost id => exact absurd rfl (noEdit id)
  | deletePost id => exact absurd rfl (noDeletion id)
  | showDocument => exact showDocument_harmless s r

end Gatehouse.Service
