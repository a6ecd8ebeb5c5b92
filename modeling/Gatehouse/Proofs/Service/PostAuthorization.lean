import Gatehouse.Proofs.Service.BearerGate
import Gatehouse.Proofs.Service.Harmless
import Gatehouse.Proofs.Store.Posts

/-!
What a request is told before it changes or deletes a post.

An action asks for a post, compares its owner with the principal, perhaps asks for a role, and only
then makes the call that changes or deletes the post.

* `PrincipalAfter`: the user on whose behalf a request is carried out, once enough has been told.
* `Cleared`, `Denied`: what allows a request to touch a post, and what forbids it.
* `answer_abides`: no request changes or deletes a post before it has been told what allows that, and
  none is forbidden before it has been told what forbids it.
-/

namespace Gatehouse.Service

open Http (Request Response)

/-! ### Principals -/

/-- The user on whose behalf a request is carried out, when enough has been told to know it. -/
def PrincipalAfter (s : Service) (r : Request) (h : History) (u : User) : Prop :=
  ∃ told, told <+: h ∧ Job.After (s.principal r).run told (.done (.ok u))

variable {s : Service} {r : Request} {u : User} {h h' : History}

theorem PrincipalAfter.mono (principal : PrincipalAfter s r h u) (pre : h <+: h') :
    PrincipalAfter s r h' u := by
  obtain ⟨told, before, after⟩ := principal
  exact ⟨told, before.trans pre, after⟩

/-- A request has one principal. -/
theorem PrincipalAfter.unique {u' : User} (one : PrincipalAfter s r h u)
    (two : PrincipalAfter s r h u') : u = u' := by
  obtain ⟨told, pre, after⟩ := one
  obtain ⟨told', pre', after'⟩ := two
  exact Except.ok.inj (after.result_unique pre after' pre')

/-! ### What allows a call and what forbids it -/

/-- A request has been told that a post is its principal's own, or that its principal has a role of
the level of another one. -/
def Cleared (s : Service) (r : Request) (name : String) (id : Int64) (h : History) : Prop :=
  ∃ u p, PrincipalAfter s r h u ∧ .answered (.store (.postById id)) (.ok p) ∈ h ∧
    (u.id = p.userId ∨ ∃ role, .answered (.store (.roleByName name)) (.ok role) ∈ h ∧
      role.level ≤ u.role.level)

/-- The calls that a request may make after a history: a post is changed or deleted only with the
rights to do so. -/
def Permits (s : Service) (r : Request) (h : History) : Effect → Prop
  | .store (.updatePost id _) => Cleared s r editors id h
  | .store (.deletePost id) => Cleared s r deleters id h
  | _ => True

/-- The calls that only look something up. -/
def LooksUp : Effect → Prop
  | .store c => c.Reads
  | .cache _ => True

/-- Nothing has been done but looking things up. -/
def OnlyLookedUp (h : History) : Prop := ∀ e x, .answered e x ∈ h → LooksUp e

theorem OnlyLookedUp.concat (before : OnlyLookedUp h) {e : Effect} (now : LooksUp e) (x : e.Result) :
    OnlyLookedUp (h ++ [.answered e x]) := by
  intro e' x' mem
  rcases List.mem_append.mp mem with mem | mem
  · exact before e' x' mem
  · cases List.mem_singleton.mp mem
    exact now

/-- A request has been told that a post is not its principal's own and that the level of its
principal's role is too low, and has done nothing but look things up. -/
def Denied (s : Service) (r : Request) (name : String) (id : Int64) (h : History) : Prop :=
  (∃ u p role, PrincipalAfter s r h u ∧ .answered (.store (.postById id)) (.ok p) ∈ h ∧
    u.id ≠ p.userId ∧ .answered (.store (.roleByName name)) (.ok role) ∈ h ∧
    ¬ role.level ≤ u.role.level) ∧
  OnlyLookedUp h

theorem SparesPosts.permits {e : Effect} (spares : SparesPosts e) (h : History) :
    Permits s r h e := by
  cases e with
  | store c => cases c <;> first | exact spares.elim | trivial
  | cache c => trivial

theorem resolve_looksUp (resolver : Resolver) (id : Int64) : (resolver.resolve id).Only LooksUp := by
  refine (resolver.resolve_only id).mono fun e consults => ?_
  cases e with
  | store call =>
    cases consults
    trivial
  | cache call => trivial

theorem principal_looksUp (s : Service) (r : Request) : (s.principal r).run.Only LooksUp := by
  rw [principal_run]
  cases Credential.bearer r.headers with
  | error e => trivial
  | ok token =>
    intro t
    dsimp only
    cases s.authority.validate token (Int64.ofInt t.secs) with
    | error e => trivial
    | ok c =>
      exact Job.Only.bind (resolve_looksUp s.resolver c.sub) fun _ => trivial

/-- Once the principal is found, the history shows who it is, and nothing has been done but looking
things up. -/
theorem principal_abides (s : Service) (r : Request) :
    (s.principal r).Abides (Permits s r) (fun _ e => e ≠ .problem .forbidden)
      (fun h u => PrincipalAfter s r h u ∧ OnlyLookedUp h) [] := by
  have told := (principal_looksUp s r).told (h := []) fun e x mem => nomatch mem
  have traced := (Job.After.start (j := (s.principal r).run)).traced
  have ends := (principal_harmless s r []).and (told.and traced)
  refine ends.mono (fun h e spares => SparesPosts.permits spares h) fun h x ended => ?_
  obtain ⟨harmless, lookedUp, after⟩ := ended
  cases x with
  | ok u => exact ⟨⟨h, List.prefix_rfl, after⟩, lookedUp⟩
  | error e => exact harmless

/-! ### The check -/

section Check

variable (name : String) (id : Int64)

/-- The question of authorization is answered by what has been told of the post and of the role. -/
theorem authorize_abides {p : Post} (principal : PrincipalAfter s r h u) (lookedUp : OnlyLookedUp h)
    (post : .answered (.store (.postById id)) (.ok p) ∈ h) :
    (Authorization.authorize u p.userId name).Abides (Permits s r)
      (fun h x => ∀ allowed, x = .ok allowed →
        if allowed then Cleared s r name id h else Denied s r name id h) h := by
  unfold Authorization.authorize
  by_cases owner : u.id = p.userId
  · rw [if_pos owner]
    rintro allowed ⟨⟩
    exact ⟨u, p, principal, post, .inl owner⟩
  rw [if_neg owner]
  refine ⟨trivial, fun answer => ?_⟩
  cases answer with
  | error e => cases e <;> exact fun allowed eq => nomatch eq
  | ok role =>
    have pre : h <+: h ++ [.answered (.store (.roleByName name)) (.ok role)] := List.prefix_append ..
    have told : .answered (.store (.roleByName name)) (.ok role) ∈
      h ++ [.answered (.store (.roleByName name)) (.ok role)] := by simp
    rintro allowed ⟨⟩
    by_cases level : role.level ≤ u.role.level
    · rw [if_pos (by simpa using level)]
      exact ⟨u, p, principal.mono pre, pre.subset post, .inr ⟨role, told, level⟩⟩
    · rw [if_neg (by simpa using level)]
      exact ⟨⟨u, p, role, principal.mono pre, pre.subset post, owner, told, level⟩,
        lookedUp.concat (e := .store (.roleByName name)) trivial _⟩

/-- **The check lets nobody through who has not been cleared**, and turns nobody away who has not
been denied. -/
theorem ownPost_abides (principal : PrincipalAfter s r h u) (lookedUp : OnlyLookedUp h) :
    (ownPost u id name).Abides (Permits s r)
      (fun h e => e = .problem .forbidden → Denied s r name id h)
      (fun h _ => Cleared s r name id h) h := by
  have read : (Attempt.store (.postById id)).Abides (Permits s r)
      (fun h e => e = .problem .forbidden → Denied s r name id h)
      (fun h' p => h' = h ++ [.answered (.store (.postById id)) (.ok p)]) h := by
    refine .store trivial (fun p => rfl) fun e eq => ?_
    exact absurd (Refusal.problem.inj eq) (ofStore_ne_forbidden e)
  refine read.bind ?_
  rintro _ p rfl
  have asked : (Attempt.ofFallible .ofAuthorization
      (Authorization.authorize u p.userId name)).Abides (Permits s r)
      (fun h e => e = .problem .forbidden → Denied s r name id h)
      (fun h allowed => if allowed then Cleared s r name id h else Denied s r name id h)
      (h ++ [.answered (.store (.postById id)) (.ok p)]) := by
    have answered := authorize_abides name id (principal.mono (List.prefix_append ..))
      (lookedUp.concat (e := .store (.postById id)) trivial (.ok p)) (List.mem_append_right _ (.head _))
    refine .ofFallible (answered.mono (fun _ _ calls => calls) fun h x ended => ?_)
    cases x with
    | ok allowed => exact ended allowed rfl
    | error e => exact fun eq => by simp [Problem.ofAuthorization] at eq
  refine asked.bind fun h allowed decided => ?_
  cases allowed with
  | true => exact .pure decided
  | false => exact .refuse fun _ => decided

end Check

/-! ### The two actions -/

/-- The id that a segment of the path stands for. -/
def Names (segment : List Char) (id : Int64) : Prop :=
  (Http.Percent.decodeText? segment).bind number? = some id

theorem names_of_run {segment : List Char} {id : Int64}
    (done : (segmentId segment).run = .done (.ok id)) : Names segment id := by
  unfold segmentId at done
  split at done
  · next found =>
    cases done
    exact found
  · cases done

section Actions

variable (segment : List Char)

/-- A permitted call of the store is not refused as forbidden. -/
theorem call_abides (c : Store.Call) {denied : History → Prop} (permitted : Permits s r h (.store c)) :
    (Attempt.store c).Abides (Permits s r) (fun h e => e = .problem .forbidden → denied h)
      (fun _ _ => True) h :=
  .store permitted (fun _ => trivial) fun e eq =>
    absurd (Refusal.problem.inj eq) (ofStore_ne_forbidden e)

theorem editPost_abides (principal : PrincipalAfter s r h u) (lookedUp : OnlyLookedUp h) :
    (Service.editPost u segment r).Abides (Permits s r)
      (fun h e => e = .problem .forbidden → ∃ id, Names segment id ∧ Denied s r editors id h)
      (fun _ x => NotForbidden x) h := by
  refine ((segmentId_idle segment).abides fun e other eq => absurd eq other).bind ?_
  rintro _ id ⟨rfl, done⟩
  refine ((payload_idle _ r).abides fun e other eq => absurd eq other).bind ?_
  rintro _ patch ⟨rfl, -⟩
  refine ((ownPost_abides editors id principal lookedUp).weaken fun h e denied eq => ?_).bind
    fun h _ cleared => ?_
  · exact ⟨id, names_of_run done, denied eq⟩
  refine ((keep_idle _).abides fun e other eq => absurd eq other).bind ?_
  rintro _ _ ⟨rfl, -⟩
  exact (call_abides (.updatePost id patch) cleared).bind fun h post _ => .pure (.json (by decide) _)

theorem deletePost_abides (principal : PrincipalAfter s r h u) (lookedUp : OnlyLookedUp h) :
    (Service.deletePost u segment).Abides (Permits s r)
      (fun h e => e = .problem .forbidden → ∃ id, Names segment id ∧ Denied s r deleters id h)
      (fun _ x => NotForbidden x) h := by
  refine ((segmentId_idle segment).abides fun e other eq => absurd eq other).bind ?_
  rintro _ id ⟨rfl, done⟩
  refine ((ownPost_abides deleters id principal lookedUp).weaken fun h e denied eq => ?_).bind
    fun h _ cleared => ?_
  · exact ⟨id, names_of_run done, denied eq⟩
  exact (call_abides (.deletePost id) cleared).bind fun h _ _ => .pure (.empty (by decide))

end Actions

/-! ### All requests -/

theorem eq_forbidden_of_status {e : Refusal} (status : e.response.status = 403) :
    e = .problem .forbidden := by
  cases e with
  | problem p =>
    have status : p.status = 403 := status
    cases p <;> first | rfl | simp [Problem.status] at status
  | body fault => cases fault <;> exact absurd status (by decide)
  | _ => exact absurd status (by decide)

/-- A request that acts for its principal is answered 403 only when its principal has been denied. -/
theorem acting_abides (name : String) (segment : List Char) {body : User → Attempt Response}
    (acts : ∀ h u, PrincipalAfter s r h u → OnlyLookedUp h →
      (body u).Abides (Permits s r)
        (fun h e => e = .problem .forbidden → ∃ id, Names segment id ∧ Denied s r name id h)
        (fun _ x => NotForbidden x) h) :
    (s.principal r >>= body).respond.Abides (Permits s r)
      (fun h x => x.status = 403 → ∃ id, Names segment id ∧ Denied s r name id h) [] := by
  have acted := ((principal_abides s r).weaken fun h e other eq => absurd eq other).bind
    fun h u found => acts h u found.1 found.2
  refine acted.respond (fun h x other eq => absurd eq other) ?_
  intro h e denied status
  exact denied (eq_forbidden_of_status status)

/-- What a request has been told that is answered 403. -/
def DeniedFor (s : Service) (r : Request) (h : History) : Prop :=
  ∃ segment id, Names segment id ∧
    (aim r = .action (.editPost segment) ∧ Denied s r editors id h ∨
      aim r = .action (.deletePost segment) ∧ Denied s r deleters id h)

/-- **No request changes or deletes a post before it has been told what allows it**, and none is
answered 403 unless it has been told what forbids it. -/
theorem answer_abides (s : Service) (draws : Draws) (r : Request) :
    (s.answer draws r).Abides (Permits s r) (fun h x => x.status = 403 → DeniedFor s r h) [] := by
  rcases s.answer_cases draws r with ⟨status, missing, none⟩ | ⟨a, aimed, acts⟩
  · rw [none]
    intro forbidden
    have forbidden : status = 403 := forbidden
    omega
  · rw [acts]
    by_cases edit : ∃ segment, a = .editPost segment
    · obtain ⟨segment, rfl⟩ := edit
      refine (acting_abides editors segment fun h u => editPost_abides segment).mono
        (fun h e permits => permits) fun h x denied status => ?_
      obtain ⟨id, names, denied⟩ := denied status
      exact ⟨segment, id, names, .inl ⟨aimed, denied⟩⟩
    by_cases deletion : ∃ segment, a = .deletePost segment
    · obtain ⟨segment, rfl⟩ := deletion
      refine (acting_abides deleters segment fun h u => deletePost_abides segment).mono
        (fun h e permits => permits) fun h x denied status => ?_
      obtain ⟨id, names, denied⟩ := denied status
      exact ⟨segment, id, names, .inr ⟨aimed, denied⟩⟩
    have harmless := s.perform_harmless draws r (fun id eq => edit ⟨id, eq⟩)
      (fun id eq => deletion ⟨id, eq⟩) []
    refine (harmless.respond (fun h x other eq => absurd eq other) fun h e other status =>
      absurd (eq_forbidden_of_status status) other).mono (fun h e spares => ?_) fun h x ended => ended
    exact SparesPosts.permits spares h

end Gatehouse.Service
