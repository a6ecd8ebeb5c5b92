import Gatehouse.Proofs.Token.RoundTrip

/-!
Which tokens an authority accepts.

`Acceptable` states what makes a token acceptable from the side of the writer: its segments are the
canonical texts of a header, of the claims and of the code over the first two of them. Since no byte
string has two canonical texts, this fixes the third segment.

* `validate_eq_ok_iff`: exactly the acceptable tokens are accepted.
* `acceptance_exact`: so no two signatures fit the same two segments, and every other signature under
  the first two segments of an issued token is refused as such.
-/

namespace Gatehouse.Token

open Text (Base64)

/-- Claims hold within their period, for a service that is both issuer and audience. -/
theorem Claims.check_eq_ok_iff {c c' : Claims} {service : String} {now : Int64} :
    c.check service now = .ok c' ↔
      c = c' ∧ (c.nbf ≤ now ∧ now < c.exp) ∧ c.iss = service ∧ c.aud = service := by
  unfold Claims.check
  constructor
  · intro h
    split at h
    · cases h
    split at h
    · cases h
    split at h
    · cases h
    split at h
    · cases h
    rename_i late early iss aud
    cases h
    exact ⟨rfl, ⟨Int64.not_lt.mp early, Int64.not_le.mp late⟩, Decidable.not_not.mp iss,
      Decidable.not_not.mp aud⟩
  · rintro ⟨rfl, ⟨early, late⟩, iss, aud⟩
    rw [if_neg (Int64.not_le.mpr late), if_neg (Int64.not_lt.mpr early),
      if_neg (Decidable.not_not.mpr iss), if_neg (Decidable.not_not.mpr aud)]

namespace Authority

/-- A token of three given segments that states claims which hold at an instant. -/
structure Acceptable (auth : Authority) (token : String) (now : Int64) (c : Claims)
    (header claims signature : List Char) : Prop where
  /-- Dots stand between the three segments and nowhere else. -/
  segments : token = String.ofList (header ++ '.' :: claims ++ '.' :: signature)
  dotless : '.' ∉ header ∧ '.' ∉ claims ∧ '.' ∉ signature
  /-- The first one is the base64 of a header that names the one algorithm. -/
  header_text : ∃ b h, header = Base64.url.encodeChars b ∧ Header.shape.decode b = .ok h ∧
    h.alg = "HS256"
  /-- The second one is the base64 of the claims. -/
  claims_text : ∃ b, claims = Base64.url.encodeChars b ∧ Claims.shape.decode b = .ok c
  /-- The third one is the base64 of the code over the first two as they were received. -/
  signature_text : signature = Base64.url.encodeChars
    (Digest.Sha256.hmac auth.key (Bytes.utf8 (String.ofList (header ++ '.' :: claims))))
  period : c.nbf ≤ now ∧ now < c.exp
  parties : c.iss = auth.service ∧ c.aud = auth.service

variable {auth : Authority}

theorem join_injective {h h' c c' s s' : List Char} (hh : '.' ∉ h) (hc : '.' ∉ c) (hs : '.' ∉ s)
    (hh' : '.' ∉ h') (hc' : '.' ∉ c') (hs' : '.' ∉ s') (e : join h c s = join h' c' s') :
    h = h' ∧ c = c' ∧ s = s' := by
  have cut : ∀ {a b x : List Char}, '.' ∉ a → '.' ∉ b → '.' ∉ x →
      Text.split '.' (join a b x).toList = [a, b, x] := fun ha hb hx =>
    Text.split_eq_three_iff.mpr ⟨by simp [join], ha, hb, hx⟩
  have := (cut hh hc hs).symm.trans (e ▸ cut hh' hc' hs')
  simpa using this

/-- A token of another number of segments than three is not accepted. -/
theorem exists_segments_of_validate {token : String} {now : Int64} {c : Claims}
    (h : auth.validate token now = .ok c) :
    ∃ header claims signature, token = join header claims signature ∧
      '.' ∉ header ∧ '.' ∉ claims ∧ '.' ∉ signature := by
  unfold validate at h
  split at h
  · rename_i header claims signature three
    obtain ⟨token_eq, dotless⟩ := Text.split_eq_three_iff.mp three
    refine ⟨header, claims, signature, ?_, dotless⟩
    rw [join, ← token_eq, String.ofList_toList]
  · cases h

/-- **Exactly the acceptable tokens are accepted.** -/
theorem validate_eq_ok_iff {token : String} {now : Int64} {c : Claims} :
    auth.validate token now = .ok c ↔
      ∃ header claims signature, auth.Acceptable token now c header claims signature := by
  constructor
  · intro h
    obtain ⟨header, claims, signature, rfl, hh, hc, hs⟩ := exists_segments_of_validate h
    rw [validate_segments hh hc hs] at h
    cases hr : readSegment Header.shape header with
    | error e => simp [hr] at h
    | ok x =>
      simp only [hr] at h
      split at h
      · cases h
      rename_i algorithm
      split at h
      · cases h
      rename_i sign
      cases hk : readSegment Claims.shape claims with
      | error e => simp [hk] at h
      | ok y =>
        simp only [hk] at h
        obtain ⟨rfl, period, parties⟩ := Claims.check_eq_ok_iff.mp h
        obtain ⟨b, hb, hx⟩ := readSegment_eq_ok_iff.mp hr
        refine ⟨header, claims, signature, rfl, ⟨hh, hc, hs⟩, ⟨b, x, hb, hx, ?_⟩,
          readSegment_eq_ok_iff.mp hk, (signed_eq_true_iff auth).mp (by simpa using sign), period,
          parties⟩
        exact Decidable.not_not.mp algorithm
  · rintro ⟨header, claims, signature, a⟩
    obtain ⟨hh, hc, hs⟩ := a.dotless
    obtain ⟨b, x, hb, hx, algorithm⟩ := a.header_text
    have hr : readSegment Header.shape header = .ok x := readSegment_eq_ok_iff.mpr ⟨b, hb, hx⟩
    have hk : readSegment Claims.shape claims = .ok c := readSegment_eq_ok_iff.mpr a.claims_text
    have sign := (signed_eq_true_iff auth).mpr a.signature_text
    have algorithm' : ¬ x.alg ≠ Header.algorithm := Decidable.not_not.mpr algorithm
    rw [show token = join header claims signature from a.segments, validate_segments hh hc hs, hr, hk]
    simp only [if_neg algorithm', sign, Bool.not_true, Bool.false_eq_true, if_false]
    exact Claims.check_eq_ok_iff.mpr ⟨rfl, a.period, a.parties⟩

/-- The signature of an accepted token is the code over what stands in front of it, wherever the
segments are cut. -/
theorem signature_of_validate {h c s : List Char} {now : Int64} {x : Claims}
    (ok : auth.validate (join h c s) now = .ok x) :
    s = Base64.url.encodeChars (auth.code h c) := by
  obtain ⟨h', c', s', a⟩ := validate_eq_ok_iff.mp ok
  -- With a dot inside of them, `h`, `c` and `s` would make more than three segments.
  have count := congrArg (fun t => t.toList.count '.') a.segments
  obtain ⟨hh', hc', hs'⟩ := a.dotless
  simp only [join, String.toList_ofList, List.count_append, List.count_cons, beq_self_eq_true, if_true,
    List.count_eq_zero.mpr hh', List.count_eq_zero.mpr hc', List.count_eq_zero.mpr hs'] at count
  have hh : '.' ∉ h := List.count_eq_zero.mp (by omega)
  have hc : '.' ∉ c := List.count_eq_zero.mp (by omega)
  have hs : '.' ∉ s := List.count_eq_zero.mp (by omega)
  obtain ⟨rfl, rfl, rfl⟩ := join_injective hh hc hs hh' hc' hs' a.segments
  exact a.signature_text

/-- Another signature under the first two segments of an issued token is refused as such. -/
theorem validate_other_signature {c : Claims} {s : List Char} (hs : '.' ∉ s)
    (other : s ≠ Base64.url.encodeChars
      (auth.code (segment Header.shape Header.issued) (segment Claims.shape c))) (now : Int64) :
    auth.validate (join (segment Header.shape Header.issued) (segment Claims.shape c) s) now =
      .error .invalidSignature := by
  have header : readSegment Header.shape (segment Header.shape Header.issued) = .ok Header.issued :=
    readSegment_segment (decode_encode_header _)
  have wrong : auth.signed (segment Header.shape Header.issued) (segment Claims.shape c) s = false :=
    Bool.eq_false_iff.mpr fun h => other ((signed_eq_true_iff auth).mp h)
  rw [validate_segments (dot_not_mem_segment _ _) (dot_not_mem_segment _ _) hs, header]
  simp [wrong]

/-- **Acceptance is exact, and signatures are not malleable.** A token is accepted iff it is
acceptable. For the same two segments at most one signature is ever accepted. An issued token has
three segments, and with any other text without a dot in place of the third its signature is
wrong. -/
theorem acceptance_exact (auth : Authority) :
    (∀ (token : String) (now : Int64) (c : Claims), auth.validate token now = .ok c ↔
      ∃ header claims signature, auth.Acceptable token now c header claims signature) ∧
    (∀ (h c s s' : List Char) (now now' : Int64) (x x' : Claims),
      auth.validate (String.ofList (h ++ '.' :: c ++ '.' :: s)) now = .ok x →
      auth.validate (String.ofList (h ++ '.' :: c ++ '.' :: s')) now' = .ok x' → s = s') ∧
    ∀ c : Claims, ∃ header claims signature : List Char,
      auth.generate c = String.ofList (header ++ '.' :: claims ++ '.' :: signature) ∧
      '.' ∉ header ∧ '.' ∉ claims ∧ '.' ∉ signature ∧
      signature = Base64.url.encodeChars
        (Digest.Sha256.hmac auth.key (Bytes.utf8 (String.ofList (header ++ '.' :: claims)))) ∧
      ∀ (s : List Char) (now : Int64), '.' ∉ s → s ≠ signature →
        auth.validate (String.ofList (header ++ '.' :: claims ++ '.' :: s)) now =
          .error .invalidSignature := by
  refine ⟨fun _ _ _ => validate_eq_ok_iff, ?_, ?_⟩
  · intro h c s s' now now' x x' ok ok'
    exact (signature_of_validate ok).trans (signature_of_validate ok').symm
  · intro c
    exact ⟨_, _, _, generate_eq_join auth c, dot_not_mem_segment _ _, dot_not_mem_segment _ _,
      dot_not_mem_encodeChars _, rfl, fun s now hs other => validate_other_signature hs other now⟩

/-- An issued token from which the signature is cut off has a wrong signature. -/
theorem acceptance_exact_unsigned :
    ∃ header claims signature : List Char,
      (Authority.mk [1] "a" ⟨0⟩ (by decide)).generate ⟨1, 0, 0, 9, "a", "a"⟩ =
        String.ofList (header ++ '.' :: claims ++ '.' :: signature) ∧
      '.' ∉ ([] : List Char) ∧ [] ≠ signature ∧
      (Authority.mk [1] "a" ⟨0⟩ (by decide)).validate
        (String.ofList (header ++ '.' :: claims ++ ['.'])) 5 = .error .invalidSignature := by
  obtain ⟨header, claims, signature, issued, -, -, -, code, refused⟩ :=
    (acceptance_exact (Authority.mk [1] "a" ⟨0⟩ (by decide))).2.2 ⟨1, 0, 0, 9, "a", "a"⟩
  have signature_ne : [] ≠ signature := by
    intro e
    have empty := Base64.encodeChars_injective Base64.lawful_url
      (show Base64.url.encodeChars [] = _ from e.trans code)
    have := congrArg List.length empty
    rw [Digest.Sha256.length_hmac] at this
    cases this
  exact ⟨header, claims, signature, issued, by simp, signature_ne,
    refused [] 5 (by simp) signature_ne⟩

end Authority

end Gatehouse.Token
