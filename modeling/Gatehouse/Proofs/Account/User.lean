import Gatehouse.Account.Basic
import Gatehouse.Proofs.Json.Record
import Gatehouse.Proofs.Time.Stamp

/-!
Users survive their JSON text.

* `User.decode_encode`: a user is read back from the text that the cache keeps of it.
-/

namespace Gatehouse

theorem Json.Kind.reads_instant (t : Instant) : Json.Kind.instant.Reads (.instant t) := by
  intro s _
  simp only [Json.Kind.instant, Json.render_str, Json.readText_quoted, Json.refine, Stamp.read?_write,
    Option.map_some]

/-- The data of a role are read back, each in its slot. -/
theorem Role.reads (r : Role) :
    List.Forall₂ (fun slot d => slot.kind.Reads d) Role.shape.slots (Role.shape.data r) :=
  .cons (Json.Kind.reads_int64 _) (.cons (Json.Kind.reads_text _) (.cons (Json.Kind.reads_text _)
    (.cons (Json.Kind.reads_int32 _) .nil)))

/-- The data of a user are read back, each in its slot. -/
theorem User.reads (u : User) :
    List.Forall₂ (fun slot d => slot.kind.Reads d) User.shape.slots (User.shape.data u) :=
  .cons (Json.Kind.reads_int64 _) (.cons (Json.Kind.reads_text _) (.cons (Json.Kind.reads_text _)
    (.cons (Json.Kind.reads_record u.role.reads (by decide)) (.cons (Json.Kind.reads_flag _)
      (.cons (Json.Kind.reads_instant _) .nil)))))

/-- **A user is read back from its text.** -/
theorem User.decode_encode (u : User) : User.shape.decode (User.shape.encode u) = .ok u := by
  apply Json.Shape.decode_encode
  · exact u.reads
  · decide
  · rfl

end Gatehouse
