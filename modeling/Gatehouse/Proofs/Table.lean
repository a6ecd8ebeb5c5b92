import Mathlib.Data.List.Nodup
import Gatehouse.Table

/-!
Tables whose keys differ.

A table that has grown from the empty one by insertions, erasures and filters holds no key twice. Then
its entries say no more than `find?` does.

* `mem_keys_iff`: the keys of a table are those under which something is found.
* `find?_filter`: a filter keeps what is found exactly if it passes.
* `Apart.insert`, `Apart.filter`: how the keys stay apart.
-/

namespace Gatehouse.Table

variable {κ α : Type}

/-- The keys of a table, in the order of its entries. -/
def keys (t : Table κ α) : List κ := t.entries.map Prod.fst

/-- No key of a table stands in two of its entries. -/
def Apart (t : Table κ α) : Prop := t.keys.Nodup

theorem apart_empty : (empty : Table κ α).Apart := List.nodup_nil

theorem length_keys (t : Table κ α) : t.keys.length = t.size := List.length_map ..

variable [DecidableEq κ] {t : Table κ α} {k : κ} {a : α}

/-! ### What is found -/

theorem findIn_eq_none_iff {r : List (κ × α)} : findIn k r = none ↔ k ∉ r.map Prod.fst := by
  induction r with
  | nil => simp [findIn]
  | cons e r ih =>
    obtain ⟨k', b⟩ := e
    by_cases same : k' = k
    · simp [findIn, same]
    · simp [findIn, same, ih, Ne.symm same]

theorem mem_of_findIn {r : List (κ × α)} (found : findIn k r = some a) : (k, a) ∈ r := by
  induction r with
  | nil => cases found
  | cons e r ih =>
    obtain ⟨k', b⟩ := e
    simp only [findIn] at found
    split at found
    · next same =>
      cases found
      exact same ▸ .head _
    · exact .tail _ (ih found)

/-- What is found stands in an entry. -/
theorem mem_of_find? (found : t.find? k = some a) : (k, a) ∈ t.entries := mem_of_findIn found

/-- **The keys of a table** are those under which something is found. -/
theorem mem_keys_iff : k ∈ t.keys ↔ ∃ a, t.find? k = some a := by
  rw [← Option.ne_none_iff_exists', ne_eq]
  exact not_not.symm.trans (not_congr findIn_eq_none_iff.symm)

theorem findIn_of_mem {r : List (κ × α)} (apart : (r.map Prod.fst).Nodup) (mem : (k, a) ∈ r) :
    findIn k r = some a := by
  induction r with
  | nil => cases mem
  | cons e r ih =>
    obtain ⟨k', b⟩ := e
    obtain ⟨fresh, rest⟩ := List.nodup_cons.mp apart
    rcases List.mem_cons.mp mem with same | mem
    · cases same
      simp [findIn]
    · have other : k' ≠ k := by
        rintro rfl
        exact fresh (List.mem_map.mpr ⟨_, mem, rfl⟩)
      rw [findIn, if_neg other]
      exact ih rest mem

/-- Where no key stands twice, every entry is found. -/
theorem Apart.find?_of_mem (apart : t.Apart) (mem : (k, a) ∈ t.entries) : t.find? k = some a :=
  findIn_of_mem apart mem

/-! ### Insertions, filters, erasures -/

theorem mem_insertIn {r : List (κ × α)} {k' : κ} {b : α} (mem : (k', b) ∈ insertIn k a r) :
    (k' = k ∧ b = a) ∨ (k', b) ∈ r := by
  induction r with
  | nil => simpa [insertIn] using mem
  | cons e r ih =>
    obtain ⟨k₀, c⟩ := e
    simp only [insertIn] at mem
    split at mem
    · rcases List.mem_cons.mp mem with same | mem
      · exact .inl (Prod.mk.inj same)
      · exact .inr (.tail _ mem)
    · rcases List.mem_cons.mp mem with same | mem
      · exact .inr (same ▸ .head _)
      · exact (ih mem).imp_right (.tail _)

/-- An insertion adds no other entry than its own. -/
theorem mem_entries_insert {k' : κ} {b : α} (mem : (k', b) ∈ (t.insert k a).entries) :
    (k' = k ∧ b = a) ∨ (k', b) ∈ t.entries := mem_insertIn mem

/-- What is found after an insertion is what has been inserted, or was found before. -/
theorem find?_insert_eq_some {k' : κ} {b : α} (found : (t.insert k a).find? k' = some b) :
    (k' = k ∧ b = a) ∨ (k' ≠ k ∧ t.find? k' = some b) := by
  rw [find?_insert] at found
  split at found
  · next same => exact .inl ⟨same.symm, (Option.some.inj found).symm⟩
  · next other => exact .inr ⟨Ne.symm other, found⟩

/-- What is found after an erasure was found before. -/
theorem find?_erase_eq_some {k' : κ} {b : α} (found : (t.erase k).find? k' = some b) :
    t.find? k' = some b := by
  rw [find?_erase] at found
  split at found
  · cases found
  · exact found

/-- A key that is found is still found after any insertion. -/
theorem exists_find?_insert (found : t.find? k = some a) (k' : κ) (b : α) :
    ∃ a', (t.insert k' b).find? k = some a' := by
  rw [find?_insert]
  split
  · exact ⟨b, rfl⟩
  · exact ⟨a, found⟩

theorem insertIn_fst (r : List (κ × α)) :
    (insertIn k a r).map Prod.fst =
      if k ∈ r.map Prod.fst then r.map Prod.fst else r.map Prod.fst ++ [k] := by
  induction r with
  | nil => rfl
  | cons e r ih =>
    obtain ⟨k', b⟩ := e
    by_cases same : k' = k
    · simp [insertIn, same]
    · simp only [insertIn, if_neg same, List.map_cons, ih, List.mem_cons, Ne.symm same, false_or]
      split <;> rfl

/-- An insertion keeps the keys, or puts a new one behind them. -/
theorem keys_insert (t : Table κ α) (k : κ) (a : α) :
    (t.insert k a).keys = if k ∈ t.keys then t.keys else t.keys ++ [k] := insertIn_fst t.entries

theorem Apart.insert (apart : t.Apart) (k : κ) (a : α) : (t.insert k a).Apart := by
  rw [Apart, keys_insert]
  split
  · exact apart
  · next fresh => exact List.nodup_append_comm.mp (List.nodup_cons.mpr ⟨fresh, apart⟩)

omit [DecidableEq κ] in
theorem Apart.filter (apart : t.Apart) (p : κ → α → Bool) : (t.filter p).Apart :=
  List.Nodup.sublist (List.filter_sublist.map _) apart

/-- What has no value has none among the entries that pass a test. -/
theorem find?_filter_of_absent (absent : t.find? k = none) (p : κ → α → Bool) :
    (t.filter p).find? k = none := by
  rw [find?, findIn_eq_none_iff] at absent ⊢
  intro mem
  obtain ⟨e, passes, rfl⟩ := List.mem_map.mp mem
  exact absent (List.mem_map.mpr ⟨e, List.mem_of_mem_filter passes, rfl⟩)

/-- **What a filter leaves of a table**, where no key stands twice. -/
theorem Apart.find?_filter (apart : t.Apart) (p : κ → α → Bool) (k : κ) :
    (t.filter p).find? k = (t.find? k).filter (p k) := by
  ext a
  constructor
  · intro found
    have mem := List.mem_filter.mp (mem_of_find? found)
    exact Option.filter_eq_some_iff.mpr ⟨apart.find?_of_mem mem.1, mem.2⟩
  · intro found
    obtain ⟨found, passes⟩ := Option.filter_eq_some_iff.mp found
    exact (apart.filter p).find?_of_mem (List.mem_filter.mpr ⟨mem_of_find? found, passes⟩)

end Gatehouse.Table
