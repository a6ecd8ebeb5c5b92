import Gatehouse.Cache.Memory
import Gatehouse.Proofs.Account.User
import Gatehouse.Proofs.Table

/-!
What the cache of users holds.

* `Faithful.perform`: whatever is called, every entry holds the text of a user with the id under which
  it stands.
* `Faithful.get`: so a look-up finds nothing, or a user with the id that was asked for. It never fails.
* `get_found`, `get_missed`, `get_set`: what a look-up or a user that is put in leaves to be found.
-/

namespace Gatehouse.Cache

/-! ### Keys -/

/-- Two numbers with the same decimal digits are the same. -/
theorem toDigits_injective {m n : Nat} (same : Nat.toDigits 10 m = Nat.toDigits 10 n) : m = n := by
  have numbers := congrArg (Nat.ofDigitChars 10 · 0) same
  simpa only [Nat.ofDigitChars_toDigits (by decide : 1 < 10) (by decide : 10 ≤ 10)] using numbers

/-- No digits begin with a minus sign. -/
theorem toDigits_ne_minus (n : Nat) (cs : List Char) : Nat.toDigits 10 n ≠ '-' :: cs := by
  intro same
  have minus : '-' ∈ Nat.toDigits 10 n := same ▸ .head _
  exact absurd (Nat.isDigit_of_mem_toDigits (by decide) (by decide) minus) (by decide)

/-- Two whole numbers with the same text are the same. -/
theorem toString_injective {i j : Int} (same : toString i = toString j) : i = j := by
  have texts := congrArg String.toList same
  simp only [Int.toString_eq_repr, Int.repr_eq_if] at texts
  split at texts <;> split at texts
  · have := toDigits_injective (by simpa only [Nat.toList_repr] using texts)
    omega
  · exact absurd (by simpa using texts) (toDigits_ne_minus i.toNat _)
  · exact absurd (by simpa using texts.symm) (toDigits_ne_minus j.toNat _)
  · have := toDigits_injective (by simpa using texts)
    omega

/-- No two users have one key. -/
theorem key_injective {i j : Int64} (same : key i = key j) : i = j :=
  Int64.toInt_inj.mp (toString_injective ((String.append_right_inj _).mp same))

/-! ### Entries -/

namespace Memory

/-- Every entry stands under the key of the user whose text it holds. -/
def Faithful (m : Memory) : Prop :=
  ∀ k e, (k, e) ∈ m.entries → ∃ u : User, k = key u.id ∧ e.text = User.shape.encode u

variable {m : Memory}

theorem faithful_empty : Faithful .empty := fun _ _ mem => absurd mem List.not_mem_nil

theorem mem_entries_evict {now : Nat} {id : Int64} {k : String} {e : Entry}
    (mem : (k, e) ∈ (m.evict now id).entries) : (k, e) ∈ m.entries := by
  unfold evict at mem
  split at mem
  · exact mem
  split at mem
  · exact List.mem_of_mem_filter mem
  · exact mem

/-- **What a call does to entries**: it adds one at most, which holds the user that is put in. All others
have been there before. -/
theorem mem_entries_perform (m : Memory) (now : Nat) (c : Call) {k : String} {e : Entry}
    (mem : (k, e) ∈ (m.perform now c).2.entries) :
    (k, e) ∈ m.entries ∨ ∃ u ttl, c = .set u ttl ∧ Clock.later? now ttl = some e.expiresAt ∧
      k = key u.id ∧ e.text = User.shape.encode u := by
  cases c with
  | get id =>
    refine .inl ?_
    simp only [Memory.perform, get] at mem
    split at mem
    · exact mem
    · exact mem_entries_evict mem
    · exact mem
  | set u ttl =>
    simp only [Memory.perform, set] at mem
    split at mem
    · next t ends =>
      rcases Table.mem_entries_insert mem with ⟨rfl, rfl⟩ | mem
      · exact .inr ⟨u, ttl, rfl, ends, rfl, rfl⟩
      · exact .inl (List.mem_of_mem_filter mem)
    · exact .inl (List.mem_of_mem_filter mem)

/-- **Whatever is called, a cache stays faithful.** -/
theorem Faithful.perform (faithful : m.Faithful) (now : Nat) (c : Call) :
    (m.perform now c).2.Faithful := by
  intro k e mem
  rcases m.mem_entries_perform now c mem with mem | ⟨u, ttl, -, -, same, text⟩
  · exact faithful k e mem
  · exact ⟨u, same, text⟩

/-- As long as an entry lives, its user is found. -/
theorem get_of_find? {now t : Nat} {id : Int64} {u : User}
    (stands : m.find? (key id) = some ⟨User.shape.encode u, t⟩) (early : now < t) :
    m.get now id = (.ok (some u), m) := by
  simp only [Memory.get, lookup, stands, if_pos early, readUser, User.decode_encode]

/-- A user that is looked up is read from an entry that is live. -/
theorem get_eq_some {now : Nat} {id : Int64} {u : User} (found : (m.get now id).1 = .ok (some u)) :
    ∃ e, (key id, e) ∈ m.entries ∧ now < e.expiresAt ∧ readUser e.text = .ok (some u) := by
  unfold Memory.get at found
  split at found
  · next text live =>
    unfold lookup at live
    split at live
    · cases live
    next e stands =>
      split at live
      · next early =>
        cases live
        exact ⟨e, Table.mem_of_find? stands, early, found⟩
      · cases live
  · cases found
  · cases found

/-- **A look-up** finds nothing, or the user that was asked for. -/
theorem Faithful.get (faithful : m.Faithful) (now : Nat) (id : Int64) :
    (m.get now id).1 = .ok none ∨ ∃ u, u.id = id ∧ (m.get now id).1 = .ok (some u) := by
  unfold Memory.get
  split
  · next text live =>
    unfold lookup at live
    split at live
    · cases live
    next e found =>
      split at live
      · cases live
        obtain ⟨u, same, text⟩ := faithful _ e (Table.mem_of_find? found)
        refine .inr ⟨u, (key_injective same).symm, ?_⟩
        simp only [text, readUser, User.decode_encode]
      · cases live
  · exact .inl rfl
  · exact .inl rfl

/-- Nothing but a missing answer keeps a user out of the cache. -/
theorem set_eq_ok (m : Memory) (now : Nat) (u : User) (ttl : Duration) : (m.set now u ttl).1 = .ok () := by
  unfold set
  dsimp only
  split <;> rfl

/-! ### Look-ups one after another -/

theorem readUser_ne_none (text : Bytes) : readUser text ≠ .ok none := by
  unfold readUser
  cases User.shape.decode text <;> simp

/-- A look-up that finds a user leaves the data as they are. -/
theorem get_found {now : Nat} {id : Int64} {u : User} (found : (m.get now id).1 = .ok (some u)) :
    (m.get now id).2 = m := by
  unfold Memory.get at found ⊢
  generalize m.lookup now id = looked at found ⊢
  cases looked with
  | live text => rfl
  | expired => cases found
  | nothing => rfl

/-- A look-up that finds nothing leaves nothing to be found. -/
theorem get_missed {now : Nat} {id : Int64} (missed : (m.get now id).1 = .ok none) :
    (m.get now id).2.find? (key id) = none := by
  unfold Memory.get at missed ⊢
  cases stood : m.find? (key id) with
  | none =>
    simp only [lookup, stood]
  | some e =>
    by_cases live : now < e.expiresAt
    · simp only [lookup, stood, if_pos live] at missed
      exact absurd missed (readUser_ne_none _)
    · simp only [lookup, stood, if_neg live, evict, if_pos (Nat.not_lt.mp live)]
      exact (Table.find?_erase ..).trans (if_pos rfl)

theorem get_of_absent {now : Nat} {id : Int64} (absent : m.find? (key id) = none) :
    (m.get now id).1 = .ok none := by
  simp only [Memory.get, lookup, absent]

/-- A user who is put in where nobody was is found, or nobody is. -/
theorem get_set {u : User} (absent : m.find? (key u.id) = none) (now : Nat) (ttl : Duration) :
    ((m.set now u ttl).2.get now u.id).1 = .ok none ∨
      ((m.set now u ttl).2.get now u.id).1 = .ok (some u) := by
  unfold set
  cases Clock.later? now ttl with
  | none => exact .inl (get_of_absent (Table.find?_filter_of_absent absent _))
  | some t =>
    have stands : ((m.purge now).insert (key u.id) ⟨User.shape.encode u, t⟩).find? (key u.id) =
        some ⟨User.shape.encode u, t⟩ := Table.find?_insert_self ..
    by_cases early : now < t
    · exact .inr (congrArg Prod.fst (get_of_find? stands early))
    · refine .inl ?_
      simp only [Memory.get, lookup, stands, if_neg early]

end Memory

end Gatehouse.Cache
