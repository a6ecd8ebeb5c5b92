import Mathlib.Data.List.Induction
import Gatehouse.Proofs.Form

/-!
Posts that are changed again and again.

* `Reflects`: what is left of a post after changes, said without the order in which the post went through
  them but for each part apart: the last change that carries a part counts.
* `amendAll_reflects`: so it is after any list of changes.
* `latest_swap`: two changes one after the other that do not carry the same part can change places.
-/

namespace Gatehouse

/-- No instant lies before itself. -/
theorem Instant.before_self (t : Instant) : t.before t = false := by
  simp [before]

namespace Post

/-- A change that has been made to a post, and when. -/
structure Edit where
  now : Instant
  patch : Patch
deriving DecidableEq

/-- A post after changes, the first of which was made first. -/
def amendAll (p : Post) (edits : List Edit) : Post := edits.foldl (fun q e => q.amend e.patch e.now) p

/-- What the last of the patches puts in the place of a part that puts anything there. -/
def latest (part : Part) (patches : List Patch) : Option String := (patches.filterMap (·.text? part)).getLast?

/-- What is left of a post after changes. Whose it is, its tags and its birth are as before, each of its texts
is the last one that was put there, and each change has made its version larger by one. -/
structure Reflects (p : Post) (edits : List Edit) (q : Post) : Prop where
  id : q.id = p.id
  owner : q.userId = p.userId
  tags : q.tags = p.tags
  createdAt : q.createdAt = p.createdAt
  text : ∀ part, q.text part = (latest part (edits.map Edit.patch)).getD (p.text part)
  version : q.version = p.version + Int32.ofNat edits.length
  updatedAt : q.updatedAt = ((edits.map Edit.now).getLast?).getD p.updatedAt

theorem amendAll_append (p : Post) (edits edits' : List Edit) :
    p.amendAll (edits ++ edits') = (p.amendAll edits).amendAll edits' :=
  List.foldl_append

theorem amendAll_concat (p : Post) (edits : List Edit) (e : Edit) :
    p.amendAll (edits ++ [e]) = (p.amendAll edits).amend e.patch e.now :=
  p.amendAll_append edits [e]

theorem latest_concat (part : Part) (patches : List Patch) (patch : Patch) :
    latest part (patches ++ [patch]) = (patch.text? part).or (latest part patches) := by
  cases text : patch.text? part <;> simp [latest, List.filterMap_append, text]

/-- **A post that is changed reflects all of its changes.** -/
theorem amendAll_reflects (p : Post) (edits : List Edit) : p.Reflects edits (p.amendAll edits) := by
  induction edits using List.reverseRecOn with
  | nil => exact ⟨rfl, rfl, rfl, rfl, fun _ => rfl, (Int32.add_zero _).symm, rfl⟩
  | append_singleton edits e ih =>
    rw [amendAll_concat]
    refine ⟨ih.id, ih.owner, ih.tags, ih.createdAt, fun part => ?_, ?_, by simp [amend]⟩
    · rw [text_amend, ih.text, List.map_append, List.map_singleton, latest_concat]
      cases e.patch.text? part <;> rfl
    · show (p.amendAll edits).version + 1 = _
      rw [ih.version, Int32.add_assoc, List.length_append, List.length_singleton, Int32.ofNat_add]
      rfl

/-- **Two changes can change places** if no part is carried by both of them. -/
theorem latest_swap {part : Part} {a b : Patch} (apart : a.text? part = none ∨ b.text? part = none)
    (before after : List Patch) :
    latest part (before ++ a :: b :: after) = latest part (before ++ b :: a :: after) := by
  rcases apart with nothing | nothing <;> simp [latest, List.filterMap_append, nothing]

namespace Reflects

variable {p q q' : Post} {edits edits' : List Edit}

/-- **The version counts the changes**, as long as there are numbers left to count them. -/
theorem toInt_version (reflects : p.Reflects edits q)
    (more : p.version.toInt + edits.length ≤ Int32.maxValue.toInt) :
    q.version.toInt = p.version.toInt + edits.length := by
  have largest : Int32.maxValue.toInt = 2147483647 := rfl
  rw [reflects.version, Int32.toInt_add, Int32.toInt_ofNat', Int.add_bmod_bmod]
  have size : Int32.size = 4294967296 := rfl
  have low : -2147483648 ≤ p.version.toInt := p.version.le_toInt
  exact Int.bmod_eq_of_le (by omega) (by omega)

/-- A new post has been changed as often as its version tells. -/
theorem toInt_version_of_new (reflects : p.Reflects edits q) (new : p.version = 0)
    (few : edits.length ≤ Int32.maxValue.toInt) : q.version.toInt = edits.length := by
  have zero : p.version.toInt = 0 := congrArg Int32.toInt new
  rw [reflects.toInt_version (by omega), zero, Int.zero_add]

/-- **Changes that do not both carry the same part can be made in either order.** -/
theorem swap (reflects : p.Reflects edits q) (reflects' : p.Reflects edits' q') {a b : Patch}
    (apart : ∀ part, a.text? part = none ∨ b.text? part = none) {first last : List Patch}
    (order : edits.map Edit.patch = first ++ a :: b :: last)
    (order' : edits'.map Edit.patch = first ++ b :: a :: last) :
    (∀ part, q'.text part = q.text part) ∧ q'.version = q.version := by
  refine ⟨fun part => ?_, ?_⟩
  · rw [reflects.text, reflects'.text, order, order', latest_swap (apart part)]
  · have count := congrArg List.length order
    have count' := congrArg List.length order'
    simp only [List.length_map, List.length_append, List.length_cons] at count count'
    rw [reflects.version, reflects'.version, count, count']

/-- The last change is that of one of them, if there are any. -/
theorem updatedAt_mem (reflects : p.Reflects edits q) :
    q.updatedAt = p.updatedAt ∨ ∃ e ∈ edits, q.updatedAt = e.now := by
  rw [reflects.updatedAt]
  cases last : (edits.map Edit.now).getLast? with
  | none => exact .inl rfl
  | some t =>
    obtain ⟨e, mem, same⟩ := List.mem_map.mp (List.mem_of_getLast? last)
    exact .inr ⟨e, mem, same.symm⟩

end Reflects

end Post

end Gatehouse
