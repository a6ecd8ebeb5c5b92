import Gatehouse.Account.Invitation
import Gatehouse.Http.Percent
import Gatehouse.Proofs.Text.Base64

/-!
The plaintexts of invitations and their digests.

* `decodeText?_plaintext`: a plaintext stands for itself in a path, and holds no slash.
* `length_plaintext`, `mem_plaintext`: how long a plaintext is, and of which characters.
* `plaintext_injective`: no two random byte strings make one plaintext.
* `length_digestOf`, `mem_digestOf`: the same of digests. No plaintext is its own digest (`digestOf_ne_plaintext`).
* `hash_eq_of_digestOf`: two texts have one digest only if their hashes are the same.
-/

namespace Gatehouse

theorem Bytes.utf8_ofList (cs : List Char) :
    Bytes.utf8 (String.ofList cs) = cs.flatMap String.utf8EncodeChar := by
  simp [Bytes.utf8, List.utf8Encode]

/-- The UTF-8 form of an ASCII text has a byte for each character. -/
theorem Bytes.utf8_of_ascii {s : String} (ascii : ∀ c ∈ s.toList, c.toNat < 128) :
    Bytes.utf8 s = s.toList.map Bytes.byte := by
  have one : ∀ c ∈ s.toList, String.utf8EncodeChar c = [Bytes.byte c] := by
    intro c mem
    have small : c.val.toNat ≤ 0x7f := Nat.le_of_lt_succ (ascii c mem)
    simp only [String.utf8EncodeChar, small, if_true]
    rfl
  have bytes := Bytes.utf8_ofList s.toList
  rw [String.ofList_toList] at bytes
  rw [bytes, List.flatMap_def, List.map_congr_left one, ← List.flatMap_def, List.map_eq_flatMap]

namespace Text.Hex

theorem value?_digit {n : Nat} (h : n < 16) : value? (digit n) = some n := by
  have all : ∀ n : Fin 16, value? (digit n.val) = some n.val := by decide
  exact all ⟨n, h⟩

theorem digit_injective {m n : Nat} (hm : m < 16) (hn : n < 16) (same : digit m = digit n) : m = n := by
  have values := congrArg value? same
  rwa [value?_digit hm, value?_digit hn, Option.some.injEq] at values

theorem mem_digits {b : Bytes} {c : Char} (mem : c ∈ digits b) : c ∈ "0123456789abcdef".toList := by
  have all : ∀ n : Fin 16, digit n.val ∈ "0123456789abcdef".toList := by decide
  obtain ⟨x, -, mem⟩ := List.mem_flatMap.mp mem
  have upper := x.toNat_lt
  rcases List.mem_cons.mp mem with rfl | mem
  · exact all ⟨x.toNat / 16, by omega⟩
  · obtain rfl := List.mem_singleton.mp mem
    exact all ⟨x.toNat % 16, by omega⟩

/-- **No two byte strings have one hexadecimal text.** -/
theorem encode_injective {a b : Bytes} (same : encode a = encode b) : a = b := by
  have chars : digits a = digits b := by
    have := congrArg String.toList same
    rwa [encode, encode, String.toList_ofList, String.toList_ofList] at this
  clear same
  induction a generalizing b with
  | nil =>
    cases b with
    | nil => rfl
    | cons y b => cases chars
  | cons x a ih =>
    cases b with
    | nil => cases chars
    | cons y b =>
      obtain ⟨high, rest⟩ := List.cons.inj chars
      obtain ⟨low, rest⟩ := List.cons.inj rest
      have hx := x.toNat_lt
      have hy := y.toNat_lt
      have highs := digit_injective (by omega) (by omega) high
      have lows := digit_injective (by omega) (by omega) low
      have bytes : x = y := UInt8.toNat_inj.mp (by omega)
      rw [bytes, ih rest]

end Text.Hex

namespace Invitation

open Text (Base64)

/-! ### Digests -/

/-- Two texts have one digest only if their hashes are the same. -/
theorem hash_eq_of_digestOf {a b : String} (same : digestOf a = digestOf b) :
    Digest.Sha256.hash (Bytes.utf8 a) = Digest.Sha256.hash (Bytes.utf8 b) :=
  Text.Hex.encode_injective same

theorem toList_digestOf (text : String) :
    (digestOf text).toList = Text.Hex.digits (Digest.Sha256.hash (Bytes.utf8 text)) :=
  String.toList_ofList

/-- A digest has 64 characters. -/
theorem length_digestOf (text : String) : (digestOf text).toList.length = 64 := by
  rw [toList_digestOf, Text.Hex.length_digits, Digest.Sha256.length_hash]

/-- They are small hexadecimal digits. -/
theorem mem_digestOf {text : String} {c : Char} (mem : c ∈ (digestOf text).toList) :
    c ∈ "0123456789abcdef".toList :=
  Text.Hex.mem_digits (toList_digestOf text ▸ mem)

/-! ### Plaintexts -/

variable (random : Bytes)

theorem toList_plaintext : (plaintext random).toList = Base64.url.encodeChars random :=
  String.toList_ofList

variable {random}

/-- A plaintext of 32 bytes has 43 characters. -/
theorem length_plaintext (drawn : random.length = 32) : (plaintext random).toList.length = 43 := by
  rw [toList_plaintext, Base64.length_encodeChars rfl, drawn]

/-- They are letters and decimal digits of ASCII, hyphens and underscores. -/
theorem mem_plaintext {c : Char} (mem : c ∈ (plaintext random).toList) :
    c.isAlphanum = true ∨ c = '-' ∨ c = '_' := by
  have all : ∀ v : Fin 64, (Base64.url.digit v).isAlphanum = true ∨ Base64.url.digit v = '-' ∨
      Base64.url.digit v = '_' := by decide
  rw [toList_plaintext] at mem
  rcases Base64.mem_encodeChars mem with ⟨padded, -⟩ | ⟨v, small, rfl⟩
  · cases padded
  · exact all ⟨v, small⟩

/-- No plaintext of 32 bytes is its own digest. -/
theorem digestOf_ne_plaintext (drawn : random.length = 32) : digestOf (plaintext random) ≠ plaintext random := by
  intro same
  have lengths := length_digestOf (plaintext random)
  rw [same, length_plaintext drawn] at lengths
  cases lengths

/-- No two random byte strings make one plaintext. -/
theorem plaintext_injective {random' : Bytes} (same : plaintext random = plaintext random') :
    random = random' := by
  have chars := congrArg String.toList same
  rw [toList_plaintext, toList_plaintext] at chars
  exact Base64.encodeChars_injective Base64.lawful_url chars

theorem slash_not_mem_plaintext : '/' ∉ (plaintext random).toList :=
  toList_plaintext random ▸ Base64.separator_not_mem Base64.lawful_url rfl (by decide) random

theorem plaintext_ne_nil (some : random ≠ []) : (plaintext random).toList ≠ [] := by
  rw [toList_plaintext]
  intro none
  exact some (Base64.encodeChars_injective Base64.lawful_url none)

/-- **A plaintext stands for itself in a path.** -/
theorem decodeText?_plaintext :
    Http.Percent.decodeText? (plaintext random).toList = some (plaintext random) := by
  have percent : '%' ∉ (plaintext random).toList :=
    toList_plaintext random ▸ Base64.separator_not_mem Base64.lawful_url rfl (by decide) random
  have ascii : ∀ c ∈ (plaintext random).toList, c.toNat < 128 := fun c mem =>
    Nat.lt_of_le_of_lt (Base64.visible_of_mem_url (toList_plaintext random ▸ mem)).2 (by decide)
  rw [Http.Percent.decodeText?, Http.Percent.decode_eq_map percent, ← Bytes.utf8_of_ascii ascii,
    Bytes.ofUtf8?_utf8]

end Invitation

end Gatehouse
