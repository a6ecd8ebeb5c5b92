import Gatehouse.Proofs.Account.User
import Gatehouse.Proofs.Json.Texts
import Gatehouse.Proofs.Service.Enrolment
import Gatehouse.Proofs.Token.RoundTrip

/-!
Snapshots: what is written down of the service's own values.

Roles, users, posts, and the claims and headers of tokens are written as JSON and read back from it. Whatever
is written of a user goes to the cache and to clients, and holds nothing but the six fields of a user.

* `Role.decode_encode`, `Post.decode_encode`: roles and posts survive their text, too.
* `User.toJson_eq`, `User.readRecord_other`: the fields of a user, and that there are no others.
* `showUser_shows`, `register_shows`: what clients are sent of users.
* `snapshots_settle`: every value is read back from its text, and every text that is accepted settles once
  it is written again; of a user, six fields are all that the cache and the clients get.
-/

namespace Gatehouse

open Json (Kind Slot)

/-! ### Values -/

/-- **A role is read back from its text.** -/
theorem Role.decode_encode (r : Role) : Role.shape.decode (Role.shape.encode r) = .ok r := by
  apply Json.Shape.decode_encode
  · exact r.reads
  · decide
  · rfl

/-- **A post is read back from its text.** -/
theorem Post.decode_encode (p : Post) : Post.shape.decode (Post.shape.encode p) = .ok p := by
  apply Json.Shape.decode_encode
  · exact .cons (Kind.reads_int64 _) (.cons (Kind.reads_int64 _) (.cons (Kind.reads_text _)
      (.cons (Kind.reads_text _) (.cons (Kind.reads_texts _) (.cons (Kind.reads_int32 _)
        (.cons (Kind.reads_instant _) (.cons (Kind.reads_instant _) .nil)))))))
  · decide
  · rfl

/-! ### What is written of a user -/

/-- The fields of a user. -/
theorem User.toJson_eq (u : User) : User.shape.toJson u = .obj
    [("id", .int u.id.toInt), ("username", .str u.username), ("email", .str u.email),
      ("role", .obj [("id", .int u.role.id.toInt), ("name", .str u.role.name),
        ("description", .str u.role.description), ("level", .int u.role.level.toInt)]),
      ("is_active", .bool u.isActive), ("created_at", .str (Stamp.write u.createdAt))] := rfl

/-- **There are no others**: whoever asks for one more does not find it. -/
theorem User.readRecord_other (u : User) {slot : Slot} (required : slot.missing = none) :
    Json.readRecord (User.shape.slots ++ [slot]) (User.shape.encode u) = .error .mismatch := by
  have read := Json.readRecord_other u.reads (by decide) required []
  rwa [List.append_nil] at read

/-- The password record of an account is not seen where its user is looked up. -/
theorem Store.Memory.user?_rehashed {m : Store.Memory} {id : Int64} {c : Credentials}
    (stored : m.accounts.find? id = some c) (hash : String) (id' : Int64) :
    ({ m with accounts := m.accounts.insert id { c with passwordHash := hash } } : Store.Memory).user? id' =
      m.user? id' := by
  simp only [Store.Memory.user?, Table.find?_insert]
  split
  · next same =>
    subst same
    rw [stored]
    rfl
  · rfl

namespace Service

open Http (Request Response)

/-- Whoever is shown to a client is shown as a user is written. -/
theorem showUser_shows (s : Service) (viewer : User) (segment : List Char) (h : History) :
    (s.showUser viewer segment).Abides (fun _ _ => True) (fun _ _ => True)
      (fun _ x => ∃ u : User, x.body = User.shape.encode u) h := by
  apply Attempt.Abides.bind ((segmentId_idle segment).abides fun _ _ => trivial)
  intro h id _
  split
  · exact .pure ⟨viewer, rfl⟩
  have found : ∀ problem, (Attempt.ofFallible problem (s.resolver.resolve id)).Abides (fun _ _ => True)
      (fun _ _ => True) (fun _ _ => True) h := by
    intro problem
    apply Attempt.Abides.ofFallible
    refine ((s.resolver.resolve_only id).abides h).mono (fun _ _ _ => trivial) ?_
    intro h x _
    cases x <;> trivial
  exact (found _).bind fun h u _ => .pure ⟨u, rfl⟩

/-- Whoever registers is shown the account as a user is written, and the plaintext of its invitation. -/
theorem register_shows (s : Service) (draws : Draws) (r : Request) (deadline : Option Nat) (w : World) :
    (∃ u w', (s.register draws r).respond.run deadline w =
      (some (.json 201 (.obj [("user", User.shape.toJson u),
        ("token", .str (Invitation.plaintext draws.invitation))])), w')) ∨
    Attempt.Failed w ((s.register draws r).respond.run deadline w) := by
  rcases run_register deadline s draws with ⟨p, i, now, u, w', -, -, -, ran⟩ | failed
  · exact .inl ⟨u, w', ran⟩
  · exact .inr failed

end Service

/-! ### All snapshots -/

open Http (Request) in
/-- **Snapshots settle.**

* Users, roles, posts, claims and headers are read back from their texts. Any text that is accepted for one
  of them, whatever its form, holds the same value when it is written again, and then stays as it is.
* The text of a user has its six fields and no other one, whatever a reader asks for. The password of an
  account makes no difference to its user.
* The cache holds such texts only, and answers with the user that was put in while the entry lives.
* Clients are shown such texts only. -/
theorem snapshots_settle :
    (User.shape.Settles ∧ Role.shape.Settles ∧ Post.shape.Settles ∧ Token.Claims.shape.Settles ∧
      Token.Header.shape.Settles) ∧
    (∀ u : User, User.shape.toJson u = .obj
      [("id", .int u.id.toInt), ("username", .str u.username), ("email", .str u.email),
        ("role", .obj [("id", .int u.role.id.toInt), ("name", .str u.role.name),
          ("description", .str u.role.description), ("level", .int u.role.level.toInt)]),
        ("is_active", .bool u.isActive), ("created_at", .str (Stamp.write u.createdAt))]) ∧
    (∀ (u : User) (slot : Slot), slot.missing = none →
      Json.readRecord (User.shape.slots ++ [slot]) (User.shape.encode u) = .error .mismatch) ∧
    (∀ (m : Store.Memory) (id : Int64) (c : Credentials) (hash : String) (id' : Int64),
      m.accounts.find? id = some c →
      ({ m with accounts := m.accounts.insert id { c with passwordHash := hash } } : Store.Memory).user? id' =
        m.user? id') ∧
    (∀ (m : Cache.Memory) (now : Nat) (c : Cache.Call) (k : String) (e : Cache.Entry),
      (k, e) ∈ (m.perform now c).2.entries → (k, e) ∈ m.entries ∨
        ∃ u ttl, c = .set u ttl ∧ k = Cache.key u.id ∧ e.text = User.shape.encode u) ∧
    (∀ (m : Cache.Memory) (now now' t : Nat) (u : User) (ttl : Duration), Clock.later? now ttl = some t →
      now' < t → ((m.set now u ttl).2.get now' u.id).1 = .ok (some u)) ∧
    (∀ (s : Service) (viewer : User) (segment : List Char) (h : History),
      (s.showUser viewer segment).Abides (fun _ _ => True) (fun _ _ => True)
        (fun _ x => ∃ u : User, x.body = User.shape.encode u) h) ∧
    (∀ (s : Service) (draws : Service.Draws) (r : Request) (deadline : Option Nat) (w : World),
      (∃ u w', (s.register draws r).respond.run deadline w =
        (some (.json 201 (.obj [("user", User.shape.toJson u),
          ("token", .str (Invitation.plaintext draws.invitation))])), w')) ∨
      Service.Attempt.Failed w ((s.register draws r).respond.run deadline w)) := by
  refine ⟨⟨?_, ?_, ?_, ?_, ?_⟩, User.toJson_eq, ?_, ?_, ?_, ?_, Service.showUser_shows,
    Service.register_shows⟩
  · exact Json.Shape.settles_of_back User.decode_encode
  · exact Json.Shape.settles_of_back Role.decode_encode
  · exact Json.Shape.settles_of_back Post.decode_encode
  · exact Json.Shape.settles_of_back Token.decode_encode_claims
  · exact Json.Shape.settles_of_back Token.decode_encode_header
  · intro u slot required
    exact u.readRecord_other required
  · intro m id c hash id' stored
    exact Store.Memory.user?_rehashed stored hash id'
  · intro m now c k e stands
    rcases m.mem_entries_perform now c stands with before | ⟨u, ttl, called, -, key, text⟩
    · exact .inl before
    · exact .inr ⟨u, ttl, called, key, text⟩
  · intro m now now' t u ttl told early
    refine congrArg Prod.fst (Cache.Memory.get_of_find? ?_ early)
    simp only [Cache.Memory.set, told, Table.find?_insert, if_true]

/-- A text with its fields out of order, a field that nobody knows, a role as an array and a time at an
offset settles as the text of the user that it holds. -/
theorem snapshots_settle_loose : ∃ s t,
    s = Bytes.utf8 ("\x7b\"created_at\":\"2024-01-01 01:30:00.5+01:30\",\"x\":[1,\x7b\x7d]," ++
      "\"role\":[1,\"user\",\"\",1],\"is_active\":true,\"id\":7,\"email\":\"e\",\"username\":\"n\"\x7d") ∧
    t = Bytes.utf8 ("\x7b\"id\":7,\"username\":\"n\",\"email\":\"e\"," ++
      "\"role\":\x7b\"id\":1,\"name\":\"user\",\"description\":\"\",\"level\":1\x7d," ++
      "\"is_active\":true,\"created_at\":\"2024-01-01T00:00:00.500Z\"\x7d") ∧
    User.shape.rewrite s = .ok t ∧ User.shape.rewrite t = .ok t := by
  refine ⟨_, _, rfl, rfl, ?_⟩
  rw [and_iff_left_of_imp fun accepted => (snapshots_settle.1.1.again _ _ accepted).2]
  decide +kernel

end Gatehouse
