import Gatehouse.Proofs.Credential.Bearer
import Gatehouse.Proofs.Text.Base64
import Gatehouse.Proofs.Text.Blank

/-!
Which header fields present a name and a password.

* `BasicField`: the word Basic, one space, and base64 of the two with a colon between them.
* `basic_eq_ok_iff`: a name and a password are taken from exactly the fields that present them, but a name
  with a colon never is.
* `Basic.matches_eq_true_iff`: the operator is known by both.
-/

namespace Gatehouse

/-! ### Bytes that spell a text -/

/-- A text is spelled by its UTF-8 form and by nothing else. -/
theorem Bytes.ofUtf8?_eq_some_iff {b : Bytes} {t : String} : ofUtf8? b = some t ↔ b = utf8 t := by
  constructor
  · intro read
    unfold ofUtf8? String.fromUTF8? at read
    split at read
    · obtain rfl := Option.some.inj read
      rfl
    · cases read
  · rintro rfl
    exact ofUtf8?_utf8 t

theorem Bytes.utf8_injective {s t : String} (same : utf8 s = utf8 t) : s = t :=
  Option.some.inj ((ofUtf8?_utf8 s).symm.trans (ofUtf8?_eq_some_iff.mpr same))

namespace Credential

open Http (Headers)
open Text (isBlank trimChars trimChars_eq_iff isBlank_of_visible)
open Text.Base64 (standard)

/-! ### Blanks in a field -/

/-- Of what may stand in a field, the space and the tab are blank. -/
theorem isBlank_iff {b : UInt8} (printable : (0x20 ≤ b ∧ b ≤ 0x7e) ∨ b = 0x09) :
    isBlank (Char.ofNat b.toNat) = true ↔ b = 0x20 ∨ b = 0x09 := by
  constructor
  · intro blank
    by_contra other
    obtain ⟨notSpace, notTab⟩ := not_or.mp other
    have visible : 0x21 ≤ b.toNat ∧ b.toNat ≤ 0x7e := by
      rcases printable with ⟨low, high⟩ | tab
      · rw [UInt8.le_iff_toNat_le] at low high
        have notCode : 0x20 ≠ b.toNat := fun same => notSpace (UInt8.toNat_inj.mp (Eq.symm same))
        exact ⟨Nat.lt_of_le_of_ne low notCode, high⟩
      · exact absurd tab notTab
    rw [← Bytes.toNat_ofNat_toNat] at visible
    exact Bool.false_ne_true ((isBlank_of_visible visible).symm.trans blank)
  · rintro (rfl | rfl) <;> decide

/-- What is written in a field with blanks around it, as bytes. -/
theorem trimChars_toChars_iff {b : Bytes} (printable : ∀ x ∈ b, (0x20 ≤ x ∧ x ≤ 0x7e) ∨ x = 0x09) {s : String}
    (visible : ∀ c ∈ s.toList, 0x21 ≤ c.toNat ∧ c.toNat ≤ 0x7e) :
    trimChars (Bytes.toChars b) = s.toList ↔
      ∃ lead trail : Bytes, (∀ x ∈ lead ++ trail, x = 0x20 ∨ x = 0x09) ∧
        b = lead ++ Json.ascii s ++ trail := by
  have spelled : Bytes.toChars (Json.ascii s) = s.toList :=
    Bytes.toChars_ascii fun c hc => Nat.lt_of_le_of_lt (visible c hc).2 (by decide)
  rw [trimChars_eq_iff fun c hc => isBlank_of_visible (visible c hc)]
  constructor
  · rintro ⟨before, after, cut, blanks⟩
    obtain ⟨front, trail, rfl, hfront, rfl⟩ := List.map_eq_append_iff.mp cut
    obtain ⟨lead, mid, rfl, rfl, hmid⟩ := List.map_eq_append_iff.mp hfront
    obtain rfl : mid = Json.ascii s := Bytes.toChars_injective (hmid.trans spelled.symm)
    refine ⟨lead, trail, ?_, rfl⟩
    intro x hx
    have among : x ∈ lead ++ Json.ascii s ++ trail := by
      rcases List.mem_append.mp hx with hx | hx <;> simp [hx]
    refine (isBlank_iff (printable x among)).mp (blanks _ ?_)
    rw [← List.map_append]
    exact List.mem_map_of_mem hx
  · rintro ⟨lead, trail, blanks, rfl⟩
    refine ⟨Bytes.toChars lead, Bytes.toChars trail, ?_, ?_⟩
    · rw [← spelled]
      simp only [Bytes.toChars, List.map_append]
    · rw [Bytes.toChars, Bytes.toChars, ← List.map_append]
      intro c hc
      obtain ⟨x, hx, rfl⟩ := List.mem_map.mp hc
      have among : x ∈ lead ++ Json.ascii s ++ trail := by
        rcases List.mem_append.mp hx with hx | hx <;> simp [hx]
      exact (isBlank_iff (printable x among)).mpr (blanks x hx)

/-! ### Names and passwords -/

/-- The first authorization field presents a name and a password: the word Basic, one space, and then, with
nothing around it but spaces and tabs, base64 of the two with a colon between them. -/
def BasicField (h : Headers) (name password : String) : Prop :=
  ∃ lead trail : Bytes, (∀ x ∈ lead ++ trail, x = 0x20 ∨ x = 0x09) ∧
    h.first? "authorization" = some (Json.ascii "Basic " ++
      (lead ++ Json.ascii (standard.encode (Bytes.utf8 (name ++ ":" ++ password))) ++ trail))

variable {h : Headers} {name password : String}

theorem encode_visible (b : Bytes) : ∀ c ∈ (standard.encode b).toList, 0x21 ≤ c.toNat ∧ c.toNat ≤ 0x7e := by
  intro c hc
  rw [Text.Base64.encode, String.toList_ofList] at hc
  exact Text.Base64.visible_of_mem_standard hc

/-- What is presented, by what follows the scheme: the first colon ends the name. -/
theorem basic_eq_ok_iff_trimmed : basic h = .ok ⟨name, password⟩ ↔
    ∃ cs, schemeValue "Basic" h = .ok cs ∧
      trimChars cs = (standard.encode (Bytes.utf8 (name ++ ":" ++ password))).toList ∧ ':' ∉ name.toList := by
  have spelled (text : String) : text.toList = name.toList ++ ':' :: password.toList ↔
      text = name ++ ":" ++ password := by
    rw [← String.toList_inj]
    simp
  unfold basic
  cases schemeValue "Basic" h with
  | error e => simp
  | ok cs =>
    dsimp only
    rw [Text.Base64.encode, String.toList_ofList]
    constructor
    · intro ok
      split at ok
      · cases ok
      · next u p pair =>
        obtain ⟨rfl, rfl⟩ := Basic.mk.inj (Except.ok.inj ok)
        obtain ⟨bytes, decoded, pair⟩ := Option.bind_eq_some_iff.mp pair
        obtain ⟨text, read, pair⟩ := Option.bind_eq_some_iff.mp pair
        obtain ⟨cut, free⟩ := Text.splitOnce_eq_some_iff.mp pair
        obtain rfl := Bytes.ofUtf8?_eq_some_iff.mp read
        rw [Text.Base64.decodeChars?_eq_some_iff Text.Base64.lawful_standard] at decoded
        refine ⟨cs, rfl, ?_, by simpa using free⟩
        rw [decoded, (spelled text).mp (by simpa using cut)]
    · rintro ⟨_, same, trimmed, free⟩
      obtain rfl := Except.ok.inj same
      rw [trimmed, Text.Base64.decodeChars?_encodeChars Text.Base64.lawful_standard]
      simp [Bytes.ofUtf8?_utf8, Text.splitOnce_append free]

/-- **A name and a password are taken from exactly the fields that present them**, but no name with a
colon. -/
theorem basic_eq_ok_iff : basic h = .ok ⟨name, password⟩ ↔ BasicField h name password ∧ ':' ∉ name.toList := by
  have scheme : ∀ c ∈ "Basic".toList, 0x21 ≤ c.toNat ∧ c.toNat ≤ 0x7e := by simp
  have visible := encode_visible (Bytes.utf8 (name ++ ":" ++ password))
  rw [basic_eq_ok_iff_trimmed]
  constructor
  · rintro ⟨cs, follows, trimmed, free⟩
    obtain ⟨rest, first, printable, rfl⟩ := (schemeValue_visible_iff scheme).mp follows
    obtain ⟨lead, trail, blanks, rfl⟩ := (trimChars_toChars_iff printable visible).mp trimmed
    exact ⟨⟨lead, trail, blanks, first⟩, free⟩
  · rintro ⟨⟨lead, trail, blanks, first⟩, free⟩
    have printable : ∀ x ∈ lead ++ Json.ascii (standard.encode (Bytes.utf8 (name ++ ":" ++ password))) ++ trail,
        (0x20 ≤ x ∧ x ≤ 0x7e) ∨ x = 0x09 := by
      have digits : ∀ x ∈ Json.ascii (standard.encode (Bytes.utf8 (name ++ ":" ++ password))),
          0x21 ≤ x ∧ x ≤ 0x7e := Bytes.between_of_ascii visible
      intro x hx
      rw [List.append_assoc, List.mem_append, List.mem_append, or_left_comm, ← List.mem_append] at hx
      rcases hx with digit | around
      · exact .inl ⟨UInt8.le_trans (by decide) (digits x digit).1, (digits x digit).2⟩
      · rcases blanks x around with rfl | tab
        · decide
        · exact .inr tab
    exact ⟨_, (schemeValue_visible_iff scheme).mpr ⟨_, first, printable, rfl⟩,
      (trimChars_toChars_iff printable visible).mpr ⟨lead, trail, blanks, rfl⟩, free⟩

/-- **The operator is known by the name and the password**, and by nothing less. -/
theorem Basic.matches_eq_true_iff {operator presented : Basic} :
    operator.matches presented = true ↔ presented = operator := by
  rw [Basic.matches, Bool.and_eq_true, beq_iff_eq, beq_iff_eq]
  constructor
  · rintro ⟨names, passwords⟩
    obtain ⟨_, _⟩ := operator
    obtain ⟨_, _⟩ := presented
    exact congrArg₂ Basic.mk (Bytes.utf8_injective names.symm) (Bytes.utf8_injective passwords.symm)
  · rintro rfl
    exact ⟨rfl, rfl⟩

end Credential

end Gatehouse
