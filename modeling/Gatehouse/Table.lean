/-!
Tables: keys with a value each.

A table is seen through `find?`. `insert` and `erase` touch the key they are given and no other, and
keep the order of the rest.
-/

namespace Gatehouse

/-- Keys with a value each. Of two entries with one key the first counts. -/
structure Table (κ α : Type) where
  entries : List (κ × α)
deriving DecidableEq, Repr

namespace Table

variable {κ α : Type} [DecidableEq κ]

/-- The table without entries. -/
def empty : Table κ α := ⟨[]⟩

instance : Inhabited (Table κ α) := ⟨empty⟩

/-- The value of the first entry with a key. -/
def findIn (k : κ) : List (κ × α) → Option α
  | [] => none
  | (k', a) :: r => if k' = k then some a else findIn k r

/-- The value of a key. -/
def find? (t : Table κ α) (k : κ) : Option α := findIn k t.entries

/-- The entries with a key set to a value: in its place if it is there, else at the end. -/
def insertIn (k : κ) (a : α) : List (κ × α) → List (κ × α)
  | [] => [(k, a)]
  | (k', b) :: r => if k' = k then (k, a) :: r else (k', b) :: insertIn k a r

/-- The table with a key set to a value. -/
def insert (t : Table κ α) (k : κ) (a : α) : Table κ α := ⟨insertIn k a t.entries⟩

/-- The table without a key. -/
def erase (t : Table κ α) (k : κ) : Table κ α := ⟨t.entries.filter fun e => e.1 ≠ k⟩

/-- The entries that pass a test. -/
def filter (t : Table κ α) (p : κ → α → Bool) : Table κ α := ⟨t.entries.filter fun e => p e.1 e.2⟩

/-- Whether a key has a value. -/
def contains (t : Table κ α) (k : κ) : Bool := (t.find? k).isSome

/-- The values, in the order of the entries. -/
def values (t : Table κ α) : List α := t.entries.map (·.2)

/-- The number of entries. -/
def size (t : Table κ α) : Nat := t.entries.length

@[simp] theorem find?_empty (k : κ) : (empty : Table κ α).find? k = none := rfl

theorem findIn_insertIn (k : κ) (a : α) (k' : κ) (r : List (κ × α)) :
    findIn k' (insertIn k a r) = if k = k' then some a else findIn k' r := by
  induction r with
  | nil => simp [insertIn, findIn]
  | cons e r ih =>
    obtain ⟨k₀, b⟩ := e
    by_cases h : k₀ = k <;> by_cases h' : k = k' <;> simp_all [insertIn, findIn]

/-- What a key holds after an insertion. -/
theorem find?_insert (t : Table κ α) (k : κ) (a : α) (k' : κ) :
    (t.insert k a).find? k' = if k = k' then some a else t.find? k' :=
  findIn_insertIn k a k' t.entries

theorem find?_insert_self (t : Table κ α) (k : κ) (a : α) : (t.insert k a).find? k = some a := by
  rw [find?_insert, if_pos rfl]

theorem find?_insert_of_ne {k k' : κ} (other : k ≠ k') (t : Table κ α) (a : α) :
    (t.insert k a).find? k' = t.find? k' := by
  rw [find?_insert, if_neg other]

theorem findIn_filter_ne (k k' : κ) (r : List (κ × α)) :
    findIn k' (r.filter fun e => e.1 ≠ k) = if k = k' then none else findIn k' r := by
  induction r with
  | nil => simp [findIn]
  | cons e r ih =>
    obtain ⟨k₀, b⟩ := e
    by_cases h : k₀ = k <;> by_cases h' : k = k' <;> simp_all [findIn]

/-- What a key holds after an erasure. -/
theorem find?_erase (t : Table κ α) (k k' : κ) :
    (t.erase k).find? k' = if k = k' then none else t.find? k' :=
  findIn_filter_ne k k' t.entries

theorem find?_erase_self (t : Table κ α) (k : κ) : (t.erase k).find? k = none := by
  rw [find?_erase, if_pos rfl]

theorem find?_erase_of_ne {k k' : κ} (other : k ≠ k') (t : Table κ α) :
    (t.erase k).find? k' = t.find? k' := by
  rw [find?_erase, if_neg other]

end Table
end Gatehouse
