import Gatehouse.Proofs.Json.Record
import Gatehouse.Proofs.Text.Base64
import Gatehouse.Proofs.Text.Pieces
import Gatehouse.Token.Authority

/-!
What an authority makes of its own tokens.

* `readSegment_segment`: a record is read back from its segment.
* `validate_segments`: what is decided on a token of three segments, check by check.
* `validate_generate`: the answer to a token that the authority itself issued depends on the claims and
  the instant alone. It is the first of four reasons that applies, or the claims as they were.
-/

namespace Gatehouse.Token

open Text (Base64)

/-! ### Records -/

theorem decode_encode_header (h : Header) : Header.shape.decode (Header.shape.encode h) = .ok h := by
  apply Json.Shape.decode_encode
  · exact .cons (Json.Kind.reads_text _) (.cons (Json.Kind.reads_text _) .nil)
  · decide
  · rfl

theorem decode_encode_claims (c : Claims) : Claims.shape.decode (Claims.shape.encode c) = .ok c := by
  apply Json.Shape.decode_encode
  · exact .cons (Json.Kind.reads_int64 _) (.cons (Json.Kind.reads_int64 _)
      (.cons (Json.Kind.reads_int64 _) (.cons (Json.Kind.reads_int64 _)
        (.cons (Json.Kind.reads_text _) (.cons (Json.Kind.reads_text _) .nil)))))
  · decide
  · rfl

/-! ### Claims -/

/-- Claims that are read are accepted as they are, or refused for one of four reasons. -/
theorem Claims.check_eq_ok_or (c : Claims) (service : String) (now : Int64) :
    c.check service now = .ok c ∨
      ∃ e ∈ [Error.expired, .notYetValid, .issuerMismatch, .audienceMismatch],
        c.check service now = .error e := by
  unfold Claims.check
  split
  · exact .inr ⟨.expired, by simp, rfl⟩
  split
  · exact .inr ⟨.notYetValid, by simp, rfl⟩
  split
  · exact .inr ⟨.issuerMismatch, by simp, rfl⟩
  split
  · exact .inr ⟨.audienceMismatch, by simp, rfl⟩
  · exact .inl rfl

namespace Authority

/-! ### Segments -/

/-- No segment holds a dot. -/
theorem dot_not_mem_encodeChars (b : Bytes) : '.' ∉ Base64.url.encodeChars b :=
  Base64.separator_not_mem Base64.lawful_url rfl (by decide) b

theorem dot_not_mem_segment {α : Type} (shape : Json.Shape α) (a : α) : '.' ∉ segment shape a :=
  dot_not_mem_encodeChars _

/-- A segment is read as a record iff it is the one text of bytes that hold the record. -/
theorem readSegment_eq_ok_iff {α : Type} {shape : Json.Shape α} {cs : List Char} {a : α} :
    readSegment shape cs = .ok a ↔
      ∃ b, cs = Base64.url.encodeChars b ∧ shape.decode b = .ok a := by
  unfold readSegment
  constructor
  · intro h
    cases hb : Base64.url.decodeChars? cs with
    | none => simp [hb] at h
    | some b =>
      refine ⟨b, (Base64.decodeChars?_eq_some_iff Base64.lawful_url).mp hb, ?_⟩
      simp only [hb] at h
      cases ha : shape.decode b with
      | error f => simp [ha] at h
      | ok a' => simpa [ha] using h
  · rintro ⟨b, rfl, hb⟩
    simp [Base64.decodeChars?_encodeChars Base64.lawful_url, hb]

/-- A segment that is not read is malformed. -/
theorem readSegment_eq_ok_or (α : Type) (shape : Json.Shape α) (cs : List Char) :
    (∃ a, readSegment shape cs = .ok a) ∨ readSegment shape cs = .error .malformed := by
  unfold readSegment
  split
  · exact .inr rfl
  · split
    · exact .inl ⟨_, rfl⟩
    · exact .inr rfl

theorem readSegment_segment {α : Type} {shape : Json.Shape α} {a : α}
    (h : shape.decode (shape.encode a) = .ok a) :
    readSegment shape (segment shape a) = .ok a :=
  readSegment_eq_ok_iff.mpr ⟨_, rfl, h⟩

variable (auth : Authority)

/-- A signature is good iff it is the one text of the code over the first two segments. -/
theorem signed_eq_true_iff {header claims signature : List Char} :
    auth.signed header claims signature = true ↔
      signature = Base64.url.encodeChars (auth.code header claims) := by
  rw [signed, beq_iff_eq, Base64.decodeChars?_eq_some_iff Base64.lawful_url]

/-- A text of three segments. -/
def join (header claims signature : List Char) : String :=
  String.ofList (header ++ '.' :: claims ++ '.' :: signature)

variable {auth}

/-- What is decided on a token of three segments. -/
theorem validate_segments {header claims signature : List Char} (hh : '.' ∉ header)
    (hc : '.' ∉ claims) (hs : '.' ∉ signature) (now : Int64) :
    auth.validate (join header claims signature) now =
      match readSegment Header.shape header with
      | .error e => .error e
      | .ok h =>
        if h.alg ≠ Header.algorithm then .error .invalidSignature
        else if !auth.signed header claims signature then .error .invalidSignature
        else match readSegment Claims.shape claims with
          | .error e => .error e
          | .ok c => c.check auth.service now := by
  have three : Text.split '.' (join header claims signature).toList = [header, claims, signature] := by
    rw [Text.split_eq_three_iff]
    exact ⟨by simp [join], hh, hc, hs⟩
  unfold validate
  generalize Text.split '.' (join header claims signature).toList = segments at three ⊢
  subst three
  rfl

/-! ### Tokens of one's own -/

variable (auth)

/-- The segments of a token that the authority issues. -/
theorem generate_eq_join (c : Claims) :
    auth.generate c = join (segment Header.shape Header.issued) (segment Claims.shape c)
      (Base64.url.encodeChars
        (auth.code (segment Header.shape Header.issued) (segment Claims.shape c))) := rfl

/-- A token has characters, and they are visible ASCII. -/
theorem generate_visible (c : Claims) :
    (auth.generate c).toList ≠ [] ∧
      ∀ x ∈ (auth.generate c).toList, 0x21 ≤ x.toNat ∧ x.toNat ≤ 0x7e := by
  rw [generate_eq_join, join, String.toList_ofList]
  refine ⟨by simp, fun x hx => ?_⟩
  simp only [List.mem_append, List.mem_cons] at hx
  rcases hx with (hx | rfl | hx) | rfl | hx
  · exact Base64.visible_of_mem_url hx
  · decide
  · exact Base64.visible_of_mem_url hx
  · decide
  · exact Base64.visible_of_mem_url hx

/-- A token of one's own passes every check but those of its claims. -/
theorem validate_generate_eq_check (c : Claims) (now : Int64) :
    auth.validate (auth.generate c) now = c.check auth.service now := by
  have header : readSegment Header.shape (segment Header.shape Header.issued) = .ok Header.issued :=
    readSegment_segment (decode_encode_header _)
  have claims : readSegment Claims.shape (segment Claims.shape c) = .ok c :=
    readSegment_segment (decode_encode_claims c)
  have algorithm : ¬ Header.issued.alg ≠ Header.algorithm := fun h => h rfl
  rw [generate_eq_join, validate_segments (dot_not_mem_segment _ _) (dot_not_mem_segment _ _)
    (dot_not_mem_encodeChars _), header, claims]
  simp only [if_neg algorithm, (signed_eq_true_iff auth).mpr rfl, Bool.not_true, Bool.false_eq_true,
    if_false]

/-- A secret that is not empty makes an authority of the given service. -/
theorem make_eq_ok {secret : String} (h : secret ≠ "") (service : String) (ttl : Duration) :
    ∃ auth, make secret service ttl = .ok auth ∧ auth.key = Bytes.utf8 secret ∧
      auth.service = service ∧ auth.ttl = ttl := by
  have key : Bytes.utf8 secret ≠ [] := by
    intro e
    apply h
    have := Bytes.ofUtf8?_utf8 secret
    rw [e] at this
    exact (Option.some.inj this).symm
  exact ⟨⟨Bytes.utf8 secret, service, ttl, key⟩, by simp [make, key], rfl, rfl, rfl⟩

/-- **The answer to a token of one's own.** Whatever the secret, the service and the claims, the token
that is issued for the claims is refused as expired from its end on, else as not valid yet before its
beginning, else for its issuer, else for its audience, and is else accepted with the same claims. It
is never malformed, and its signature is never wrong. -/
theorem validate_generate {secret : String} (hsecret : secret ≠ "") (service : String)
    (ttl : Duration) :
    ∃ auth, make secret service ttl = .ok auth ∧ ∀ (c : Claims) (now : Int64),
      auth.validate (auth.generate c) now =
        (if c.exp ≤ now then .error .expired
        else if now < c.nbf then .error .notYetValid
        else if c.iss ≠ service then .error .issuerMismatch
        else if c.aud ≠ service then .error .audienceMismatch
        else .ok c) ∧
      auth.validate (auth.generate c) now ≠ .error .malformed ∧
      auth.validate (auth.generate c) now ≠ .error .invalidSignature := by
  obtain ⟨auth, hmake, -, rfl, -⟩ := make_eq_ok hsecret service ttl
  refine ⟨auth, hmake, fun c now => ?_⟩
  rw [validate_generate_eq_check]
  refine ⟨rfl, ?_⟩
  rcases c.check_eq_ok_or auth.service now with h | ⟨e, he, h⟩
  · simp [h]
  · rw [h]
    exact ⟨fun eq => by cases eq; simp at he, fun eq => by cases eq; simp at he⟩

/-- Names with quotes, a backslash, a dot and a control character come back as they were. -/
theorem validate_generate_escapes :
    "s" ≠ "" ∧ ∃ auth, make "s" "a.\"b\\\n" ⟨0⟩ = .ok auth ∧
      auth.validate (auth.generate ⟨-7, 0, -1, 9, "a.\"b\\\n", "a.\"b\\\n"⟩) 8 =
        .ok ⟨-7, 0, -1, 9, "a.\"b\\\n", "a.\"b\\\n"⟩ := by
  obtain ⟨auth, hmake, answer⟩ := validate_generate (show "s" ≠ "" by decide) "a.\"b\\\n" ⟨0⟩
  refine ⟨by decide, auth, hmake, ?_⟩
  rw [(answer _ _).1]
  decide

end Authority

end Gatehouse.Token
