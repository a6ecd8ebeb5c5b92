import Gatehouse.Credential
import Gatehouse.Json.Value
import Gatehouse.Proofs.Text.Pieces

/-!
Which header fields present a bearer token.

* `bearer_eq_ok_iff`: a token is taken from the first authorization field iff its value is the word
  Bearer, one space, and one or more visible ASCII characters.
* `headerText?_eq_some_iff`: what the text of a value is, if it is text.
-/

namespace Gatehouse

/-! ### Bytes read as characters -/

theorem Bytes.toNat_ofNat_toNat (b : UInt8) : (Char.ofNat b.toNat).toNat = b.toNat := by
  have valid : b.toNat.isValidChar := Or.inl (Nat.lt_trans b.toNat_lt (by decide))
  rw [Char.ofNat, dif_pos valid]
  rfl

/-- A byte that is read as a character is the byte of that character. -/
theorem Bytes.byte_ofNat (b : UInt8) : Bytes.byte (Char.ofNat b.toNat) = b := by
  rw [Bytes.byte, Bytes.toNat_ofNat_toNat, UInt8.ofNat_toNat]

theorem Bytes.map_byte_toChars (b : Bytes) : (Bytes.toChars b).map Bytes.byte = b := by
  induction b with
  | nil => rfl
  | cons x b ih => simpa [Bytes.toChars, Bytes.byte_ofNat] using ih

/-- Texts that are read as one character a byte have one form only. -/
theorem Bytes.toChars_injective {a b : Bytes} (same : Bytes.toChars a = Bytes.toChars b) : a = b := by
  rw [← Bytes.map_byte_toChars a, same, Bytes.map_byte_toChars]

/-- Small characters survive their way through bytes. -/
theorem Bytes.toChars_ascii {s : String} (small : ∀ c ∈ s.toList, c.toNat < 256) :
    Bytes.toChars (Json.ascii s) = s.toList := by
  have same : ∀ c ∈ s.toList, Char.ofNat (Bytes.byte c).toNat = c := fun c hc => by
    rw [Bytes.byte, UInt8.toNat_ofNat_of_lt' (small c hc), Char.ofNat_toNat]
  rw [Json.ascii, Bytes.toChars, List.map_map]
  exact (List.map_congr_left same).trans (List.map_id _)

/-- The bytes of printable characters lie where the characters do. -/
theorem Bytes.between_of_ascii {s : String} {lo : UInt8}
    (chars : ∀ c ∈ s.toList, lo.toNat ≤ c.toNat ∧ c.toNat ≤ 0x7e) : ∀ x ∈ Json.ascii s, lo ≤ x ∧ x ≤ 0x7e := by
  intro x hx
  obtain ⟨c, hc, rfl⟩ := List.mem_map.mp hx
  obtain ⟨low, high⟩ := chars c hc
  have code : (Bytes.byte c).toNat = c.toNat :=
    UInt8.toNat_ofNat_of_lt' (Nat.lt_of_le_of_lt high (by decide))
  exact ⟨UInt8.le_iff_toNat_le.mpr (code ▸ low), UInt8.le_iff_toNat_le.mpr (code ▸ high)⟩

namespace Credential

open Http

/-- The first authorization field presents a token: the word Bearer, one space, and then nothing but
visible ASCII characters, at least one of them. -/
def BearerField (h : Headers) (token : String) : Prop :=
  ∃ value : Bytes, value ≠ [] ∧ (∀ b ∈ value, 0x21 ≤ b ∧ b ≤ 0x7e) ∧
    h.first? "authorization" = some (Json.ascii "Bearer " ++ value) ∧
    token = String.ofList (Bytes.toChars value)

/-- A field presents the visible text that it names. -/
theorem bearerField_of_visible {h : Headers} {token : String} (chars : token.toList ≠ [])
    (visible : ∀ c ∈ token.toList, 0x21 ≤ c.toNat ∧ c.toNat ≤ 0x7e)
    (first : h.first? "authorization" = some (Json.ascii "Bearer " ++ Json.ascii token)) :
    BearerField h token := by
  refine ⟨Json.ascii token, ?_, Bytes.between_of_ascii visible, first, ?_⟩
  · simpa [Json.ascii] using chars
  · rw [Bytes.toChars_ascii fun c hc => Nat.lt_of_le_of_lt (visible c hc).2 (by decide),
      String.ofList_toList]

theorem headerText?_eq_some_iff {b : Bytes} {cs : List Char} :
    headerText? b = some cs ↔
      (∀ x ∈ b, (0x20 ≤ x ∧ x ≤ 0x7e) ∨ x = 0x09) ∧ cs = Bytes.toChars b := by
  unfold headerText?
  split
  · rename_i h
    simp only [List.all_eq_true, Bool.or_eq_true, Bool.and_eq_true, decide_eq_true_eq, beq_iff_eq] at h
    exact ⟨fun e => ⟨h, (Option.some.inj e).symm⟩, fun e => by rw [e.2]⟩
  · rename_i h
    refine ⟨fun e => (nomatch e), fun e => absurd ?_ h⟩
    simpa [List.all_eq_true] using e.1

/-- What follows the scheme of the first authorization field. -/
theorem schemeValue_eq_ok_iff {scheme : String} {h : Headers} {cs : List Char} :
    schemeValue scheme h = .ok cs ↔
      ∃ value, h.first? "authorization" = some value ∧
        (∀ x ∈ value, (0x20 ≤ x ∧ x ≤ 0x7e) ∨ x = 0x09) ∧
        Bytes.toChars value = scheme.toList ++ ' ' :: cs ∧ ' ' ∉ scheme.toList := by
  unfold schemeValue
  cases h.first? "authorization" with
  | none => simp
  | some value =>
    constructor
    · intro ok
      simp only at ok
      cases ht : (headerText? value).bind (Text.splitOnce ' ') with
      | none => simp [ht] at ok
      | some p =>
        obtain ⟨x, rest⟩ := p
        simp only [ht] at ok
        split at ok
        · rename_i hx
          obtain rfl := Except.ok.inj ok
          obtain ⟨text, htext, hcut⟩ := Option.bind_eq_some_iff.mp ht
          obtain ⟨printable, rfl⟩ := headerText?_eq_some_iff.mp htext
          obtain ⟨cut, free⟩ := Text.splitOnce_eq_some_iff.mp hcut
          exact ⟨value, rfl, printable, hx ▸ cut, hx ▸ free⟩
        · cases ok
    · rintro ⟨v, hv, printable, cut, free⟩
      obtain rfl := Option.some.inj hv
      have text := headerText?_eq_some_iff.mpr ⟨printable, rfl⟩
      simp [text, Text.splitOnce_eq_some_iff.mpr ⟨cut, free⟩]

/-- What follows a scheme of visible ASCII, as bytes. -/
theorem schemeValue_visible_iff {scheme : String} {h : Headers} {cs : List Char}
    (visible : ∀ c ∈ scheme.toList, 0x21 ≤ c.toNat ∧ c.toNat ≤ 0x7e) :
    schemeValue scheme h = .ok cs ↔
      ∃ rest : Bytes, h.first? "authorization" = some (Json.ascii (scheme ++ " ") ++ rest) ∧
        (∀ x ∈ rest, (0x20 ≤ x ∧ x ≤ 0x7e) ∨ x = 0x09) ∧ cs = Bytes.toChars rest := by
  have printable : ∀ c ∈ (scheme ++ " ").toList, 0x20 ≤ c.toNat ∧ c.toNat ≤ 0x7e := by
    intro c hc
    rcases List.mem_append.mp (String.toList_append ▸ hc) with hc | hc
    · exact ⟨Nat.le_of_succ_le (visible c hc).1, (visible c hc).2⟩
    · obtain rfl := List.mem_singleton.mp hc
      decide
  have word : Bytes.toChars (Json.ascii (scheme ++ " ")) = scheme.toList ++ [' '] := by
    rw [Bytes.toChars_ascii fun c hc => Nat.lt_of_le_of_lt (printable c hc).2 (by decide),
      String.toList_append]
    rfl
  rw [schemeValue_eq_ok_iff]
  constructor
  · rintro ⟨value, first, text, cut, -⟩
    -- The value is cut where its text is.
    have cut' : Bytes.toChars value = (scheme.toList ++ [' ']) ++ cs := by simpa using cut
    obtain ⟨front, rest, rfl, hfront, hrest⟩ := List.map_eq_append_iff.mp cut'
    obtain rfl : front = Json.ascii (scheme ++ " ") := Bytes.toChars_injective (hfront.trans word.symm)
    exact ⟨rest, first, fun x hx => text x (List.mem_append_right _ hx), hrest.symm⟩
  · rintro ⟨rest, first, text, rfl⟩
    refine ⟨_, first, ?_, ?_, ?_⟩
    · intro x hx
      rcases List.mem_append.mp hx with hx | hx
      · exact .inl (Bytes.between_of_ascii printable x hx)
      · exact text x hx
    · show List.map _ _ = _
      rw [List.map_append]
      exact (congrArg (· ++ _) word).trans (by simp [Bytes.toChars])
    · intro blank
      exact absurd (visible ' ' blank).1 (by decide)

/-- A printable byte is no blank iff it is visible. -/
theorem isAsciiBlank_eq_false_iff {b : UInt8} (printable : (0x20 ≤ b ∧ b ≤ 0x7e) ∨ b = 0x09) :
    isAsciiBlank (Char.ofNat b.toNat) = false ↔ 0x21 ≤ b ∧ b ≤ 0x7e := by
  have blanks : isAsciiBlank (Char.ofNat b.toNat) = true ↔
      b = 0x20 ∨ b = 0x09 ∨ b = 0x0a ∨ b = 0x0c ∨ b = 0x0d := by
    have char : ∀ c : Char, Char.ofNat b.toNat = c ↔ b = Bytes.byte c ∧ c.toNat < 256 := by
      intro c
      constructor
      · rintro rfl
        exact ⟨(Bytes.byte_ofNat b).symm, by rw [Bytes.toNat_ofNat_toNat]; exact b.toNat_lt⟩
      · rintro ⟨rfl, small⟩
        have : (UInt8.ofNat c.toNat).toNat = c.toNat := UInt8.toNat_ofNat_of_lt' small
        rw [Bytes.byte, this, Char.ofNat_toNat]
    simp only [isAsciiBlank, Bool.or_eq_true, beq_iff_eq, char]
    simp [Bytes.byte, or_assoc]
  rw [Bool.eq_false_iff, ne_eq, blanks]
  simp only [UInt8.le_iff_toNat_le, ← UInt8.toNat_inj, UInt8.reduceToNat] at printable ⊢
  omega

/-- **A token is taken from exactly the fields that present one.** -/
theorem bearer_eq_ok_iff {h : Headers} {token : String} :
    bearer h = .ok token ↔ BearerField h token := by
  have visibleScheme : ∀ c ∈ "Bearer".toList, 0x21 ≤ c.toNat ∧ c.toNat ≤ 0x7e := by simp
  unfold bearer
  constructor
  · intro ok
    cases hs : schemeValue "Bearer" h with
    | error e => simp [hs] at ok
    | ok cs =>
      simp only [hs] at ok
      split at ok
      · cases ok
      rename_i accepted
      simp only [Bool.or_eq_true, not_or, Bool.not_eq_true] at accepted
      obtain ⟨v, first, printable, rfl⟩ := (schemeValue_visible_iff visibleScheme).mp hs
      refine ⟨v, ?_, ?_, first, ?_⟩
      · rintro rfl
        simp [Bytes.toChars] at accepted
      · intro b hb
        have blank := accepted.2
        rw [Bytes.toChars, List.any_map, List.any_eq_false] at blank
        exact (isAsciiBlank_eq_false_iff (printable b hb)).mp (by simpa using blank b hb)
      · exact (Except.ok.inj ok).symm
  · rintro ⟨v, hne, visible, first, rfl⟩
    have printable : ∀ x ∈ v, (0x20 ≤ x ∧ x ≤ 0x7e) ∨ x = 0x09 := by
      intro x hx
      obtain ⟨low, high⟩ := visible x hx
      exact .inl ⟨UInt8.le_trans (by decide) low, high⟩
    have value := (schemeValue_visible_iff visibleScheme).mpr ⟨v, first, printable, rfl⟩
    have noBlank : (Bytes.toChars v).any isAsciiBlank = false := by
      rw [Bytes.toChars, List.any_map, List.any_eq_false]
      intro b hb
      have := (isAsciiBlank_eq_false_iff (printable b hb)).mpr (visible b hb)
      simpa using this
    have some : (Bytes.toChars v).isEmpty = false := by
      cases v with
      | nil => exact absurd rfl hne
      | cons b v => rfl
    simp [value, noBlank, some]

end Credential

end Gatehouse
