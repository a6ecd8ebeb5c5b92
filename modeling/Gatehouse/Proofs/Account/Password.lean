import Gatehouse.Account.Password
import Gatehouse.Proofs.Text.Base64
import Gatehouse.Proofs.Text.Pieces

/-!
A password is the one of its own record.

* `length_tag`: tags have the length that is asked for.
* `Checker`: what checks passwords, with any function for the one that hashes, and whatever it assumes where a
  record says nothing.
* `parse?_hashBy`: the text under which a password is stored holds the record that it was made from.
* `verify_hashBy`: a password passes for such a text exactly if it has the same tag under the same salt.
* `verify_hash`: so the password passes that it was made from.
-/

namespace Gatehouse

/-! ### Lengths -/

namespace Digest

theorem Blake2b.length_absorbAll (h : List UInt64) (count : Nat) (blocks : List Bytes) :
    (absorbAll h count blocks).length = 8 := by
  fun_induction absorbAll h count blocks with
  | case1 => rfl
  | case2 => rfl
  | case3 h count block blocks _ ih => exact ih

theorem Blake2b.length_wordBytes (ws : List UInt64) : (wordBytes ws).length = 8 * ws.length := by
  induction ws with
  | nil => rfl
  | cons w ws ih =>
    rw [wordBytes] at ih ⊢
    rw [List.flatMap_cons, List.length_append, ih, Bytes.length_ofNatLE, List.length_cons]
    omega

/-- A hash of up to 64 bytes has the length that is asked for. -/
theorem Blake2b.length_hash {size : Nat} (h : size ≤ 64) (message : Bytes) :
    (hash size message).length = size := by
  simp only [hash, List.length_take, length_wordBytes, length_absorbAll]
  omega

/-- **A tag** of up to 64 bytes has the length that is asked for. -/
theorem Argon2.Input.length_tag (x : Input) (h : x.size ≤ 64) : x.tag.length = x.size := by
  simp only [tag, longHash, if_pos h]
  exact Blake2b.length_hash h _

end Digest

namespace Password

open Digest.Argon2 (Version Cost Input)
open Text (Base64)

/-- The digits of a salt may stand in one. -/
theorem isValueChar_of_mem {b : Bytes} {c : Char} (hc : c ∈ Base64.bare.encodeChars b) :
    isValueChar c = true := by
  have digit := Base64.value?_isSome_of_mem Base64.lawful_bare rfl hc
  unfold Base64.value? at digit
  split at digit
  · next h =>
    have upper : c.isUpper = true := decide_eq_true h
    have letter : c.isAlpha = true := Bool.or_eq_true_iff.mpr (.inl upper)
    simp [isValueChar, Char.isAlphanum, letter]
  split at digit
  · next h =>
    have lower : c.isLower = true := Bool.and_eq_true_iff.mpr ⟨decide_eq_true h.1, decide_eq_true h.2⟩
    have letter : c.isAlpha = true := Bool.or_eq_true_iff.mpr (.inr lower)
    simp [isValueChar, Char.isAlphanum, letter]
  split at digit
  · next h =>
    have numeral : c.isDigit = true :=
      Bool.and_eq_true_iff.mpr ⟨decide_eq_true h.1, decide_eq_true h.2⟩
    simp [isValueChar, Char.isAlphanum, numeral]
  split at digit
  · next plus => subst plus; decide
  split at digit
  · next slash => subst slash; decide
  · cases digit

/-! ### Records that are made by any function -/

/-- What is hashed for the record of a password. -/
def ownInput (salt : Bytes) (password : String) : Input :=
  ⟨.id, .v19, defaultCost, Bytes.utf8 password, salt, [], 32⟩

/-- The record of a password under a salt, if passwords are hashed by some function. -/
def recordBy (digest : Input → Bytes) (salt : Bytes) (password : String) : Record :=
  { record salt password with output := some (digest (ownInput salt password)) }

/-- The text of this record. -/
def hashBy (digest : Input → Bytes) (salt : Bytes) (password : String) : String :=
  (recordBy digest salt password).text

theorem hash_eq_hashBy : hash = hashBy Input.tag := rfl

theorem length_tag_ownInput (salt : Bytes) (password : String) : (ownInput salt password).tag.length = 32 :=
  Input.length_tag _ (show 32 ≤ 64 by decide)

variable {digest : Input → Bytes} {salt : Bytes} (password : String)

/-! ### Reading a record -/

/-- The text under which a password is stored, in its five fields. -/
theorem split_hashBy (digest : Input → Bytes) (salt : Bytes) :
    Text.split '$' (hashBy digest salt password).toList =
      [[], "argon2id".toList, "v=19".toList, "m=19456,t=2,p=1".toList, Base64.bare.encodeChars salt,
        Base64.bare.encodeChars (digest (ownInput salt password))] := by
  have free (b : Bytes) : '$' ∉ Base64.bare.encodeChars b :=
    Base64.separator_not_mem Base64.lawful_bare rfl (by decide) b
  generalize tag : digest (ownInput salt password) = t
  have text : (hashBy digest salt password).toList =
      [] ++ '$' :: ("argon2id".toList ++ '$' :: ("v=19".toList ++ '$' :: ("m=19456,t=2,p=1".toList ++
        '$' :: (Base64.bare.encodeChars salt ++ '$' :: Base64.bare.encodeChars t)))) := by
    have params : ",".intercalate ([("m", toString 19456), ("t", toString 2), ("p", toString 1)].map
        paramText) = "m=19456,t=2,p=1" := by decide
    have joined : hashBy digest salt password = String.join ["$" ++ "argon2id", "$" ++ "v=19",
        "$" ++ "m=19456,t=2,p=1", "$" ++ Base64.bare.encode salt, "$" ++ Base64.bare.encode t] := by
      rw [← params, ← tag]
      rfl
    simp [joined, String.join, Base64.encode]
  rw [text, Text.split_append (by decide), Text.split_append (by decide), Text.split_append (by decide),
    Text.split_append (by decide), Text.split_append (free salt), Text.split_of_not_mem (free t)]

theorem takeVersion_v19 (fields : List (List Char)) :
    takeVersion ("v=19".toList :: fields) = some (some 19, fields) := rfl

theorem takeParams_default (fields : List (List Char)) :
    takeParams ("m=19456,t=2,p=1".toList :: fields) =
      some ([("m", "19456"), ("t", "2"), ("p", "1")], fields) := rfl

theorem salt?_encodeChars (length : salt.length = 16) :
    salt? (Base64.bare.encodeChars salt) = some (Base64.bare.encode salt) := by
  have size := Base64.length_encodeChars (d := Base64.bare) rfl salt
  have plain : (Base64.bare.encodeChars salt).all isValueChar = true :=
    List.all_eq_true.mpr fun _ => isValueChar_of_mem
  rw [length] at size
  simp [salt?, size, plain, Base64.encode]

theorem output?_encodeChars {tag : Bytes} (length : tag.length = 32) :
    output? (Base64.bare.encodeChars tag) = some tag := by
  simp [output?, Base64.decodeChars?_encodeChars Base64.lawful_bare, length]

/-- A salt can be read from its written form. -/
theorem decode?_encode (b : Bytes) : Base64.bare.decode? (Base64.bare.encode b) = some b := by
  rw [Base64.decode?, Base64.encode, String.toList_ofList,
    Base64.decodeChars?_encodeChars Base64.lawful_bare]

section Own

variable (length : salt.length = 16) (sized : (digest (ownInput salt password)).length = 32)

include length sized

/-- **The text under which a password is stored** holds the record that it was made from. -/
theorem parse?_hashBy : parse? (hashBy digest salt password) = some (recordBy digest salt password) := by
  have name : (guard (isName "argon2id".toList = true) : Option Unit) = some () := if_pos (by decide)
  have ends : takeSalt [Base64.bare.encodeChars salt,
      Base64.bare.encodeChars (digest (ownInput salt password))] =
      some (some (Base64.bare.encode salt), some (digest (ownInput salt password))) := by
    rw [takeSalt, salt?_encodeChars length, output?_encodeChars sized]
    rfl
  rw [parse?, split_hashBy]
  simp only [↓name, Option.pure_def, Option.bind_eq_bind, Option.bind_some,
    takeVersion_v19, takeParams_default, ends]
  rfl

end Own

/-! ### Verifying -/

/-- What checks passwords: a function that hashes, and the cost and the version that it assumes where a record
states none. -/
structure Checker where
  digest : Input → Bytes
  cost : Cost
  version : Version

namespace Checker

/-- What checks the passwords of accounts. -/
def standard : Checker := ⟨Input.tag, defaultCost, .v19⟩

variable (k : Checker)

/-- What the parameters of a record amount to. -/
def params? (r : Record) : Option Params := do
  let p ← r.params.foldlM Params.set ⟨k.cost, []⟩
  if isFeasible p.cost then some p else none

/-- The version that a record asks for. -/
def version? : Option Nat → Option Version
  | none => some k.version
  | some n => Password.version? (some n)

/-- The hash that a record asks for, of a password. -/
def input? (r : Record) (password : String) : Option Input := do
  let p ← k.params? r
  let variant ← variant? r.algorithm
  let version ← k.version? r.version
  let salt ← r.salt.bind Base64.bare.decode?
  let output ← r.output
  guard (8 ≤ salt.length)
  return ⟨variant, version, p.cost, Bytes.utf8 password, salt, p.associated, output.length⟩

/-- Whether a password is the one of a stored text. -/
def verify (password stored : String) : Bool :=
  match parse? stored with
  | none => false
  | some r =>
    match k.input? r password with
    | none => false
    | some input => r.output == some (k.digest input)

/-- The passwords of accounts are checked in this way. -/
theorem verify_standard : Password.verify = standard.verify := by
  have version (n : Option Nat) : standard.version? n = Password.version? n := by
    cases n <;> rfl
  have input (r : Record) (password : String) : standard.input? r password = r.input? password := by
    rw [input?, version, Record.input?]
    rfl
  funext password stored
  rw [verify, Password.verify]
  simp only [input]
  rfl

section Own

variable (length : salt.length = 16) (sized : (k.digest (ownInput salt password)).length = 32)

include length sized

/-- **A record says all that is needed** to hash a password in its way. -/
theorem input?_recordBy (q : String) :
    k.input? (recordBy k.digest salt password) q = some (ownInput salt q) := by
  have params : k.params? (recordBy k.digest salt password) = some ⟨defaultCost, []⟩ := rfl
  have variant : variant? (recordBy k.digest salt password).algorithm = some .id := rfl
  have version : k.version? (recordBy k.digest salt password).version = some .v19 := rfl
  have salted : (recordBy k.digest salt password).salt.bind Base64.bare.decode? = some salt :=
    decode?_encode salt
  have output : (recordBy k.digest salt password).output = some (k.digest (ownInput salt password)) := rfl
  have long : (guard (8 ≤ salt.length) : Option Unit) = some () := if_pos (by omega)
  rw [input?, params, variant, version, salted, output]
  show ((guard (8 ≤ salt.length) : Option Unit) >>= fun _ => some (Input.mk ..)) = _
  rw [long, sized]
  rfl

/-- **Who passes for a stored password** has the same tag under the same salt. -/
theorem verify_hashBy (q : String) : k.verify q (hashBy k.digest salt password) = true ↔
    k.digest (ownInput salt q) = k.digest (ownInput salt password) := by
  rw [verify, parse?_hashBy password length sized]
  simp only [k.input?_recordBy password length sized]
  show (some (k.digest (ownInput salt password)) == some (k.digest (ownInput salt q))) = true ↔ _
  rw [beq_iff_eq, Option.some_inj]
  exact eq_comm

end Own

end Checker

/-- **A password is the one of its own record**, whatever 16 bytes it is salted with. -/
theorem verify_hash (length : salt.length = 16) : verify password (hash salt password) = true := by
  rw [Checker.verify_standard, hash_eq_hashBy]
  exact (Checker.standard.verify_hashBy password length (length_tag_ownInput salt password) password).mpr rfl

end Password

end Gatehouse
