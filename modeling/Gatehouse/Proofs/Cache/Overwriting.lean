import Gatehouse.Proofs.Cache.Expiry

/-!
What becomes of a user in the cache when the same user is put in anew.

* `run`: the data after whole calls, one after the other; `run_eq_after` takes them apart into steps.
* `set_supersedes`: what is answered after a user has been put in, whatever was there before. An older entry
  shows through exactly if the end of the new one cannot be told.
-/

namespace Gatehouse.Cache.Memory

variable {m : Memory} {s now : Nat} {id : Int64} {u v : User} {ttl : Duration} {calls later : List (Nat × Call)}

/-- The data after calls, each at its moment. -/
def run (m : Memory) (calls : List (Nat × Call)) : Memory :=
  calls.foldl (fun m x => (m.perform x.1 x.2).2) m

/-- The steps by which calls change the data, at the moments of the calls. -/
def movesOf (calls : List (Nat × Call)) : List (Nat × Move) := calls.map fun x => (x.1, x.2.move)

theorem movesOf_append (calls later : List (Nat × Call)) :
    movesOf (calls ++ later) = movesOf calls ++ movesOf later := List.map_append

theorem movesOf_cons (x : Nat × Call) (calls : List (Nat × Call)) :
    movesOf (x :: calls) = (x.1, x.2.move) :: movesOf calls := rfl

theorem run_eq_after (m : Memory) (calls : List (Nat × Call)) : m.run calls = m.after (movesOf calls) := by
  rw [after, movesOf, List.foldl_map, run]
  simp only [perform_eq_move]

/-- After calls, too, the live entries are the latest ones. -/
theorem mirrors_run (ordered : (calls.map Prod.fst).Pairwise (· ≤ ·)) (late : ∀ x ∈ calls, x.1 ≤ now) :
    (run .empty calls).Mirrors now (latest (movesOf calls)) := by
  have moments : (movesOf calls).map Prod.fst = calls.map Prod.fst := List.map_map
  rw [run_eq_after]
  refine mirrors_after (moments ▸ ordered) ?_
  intro x mem
  obtain ⟨y, among, rfl⟩ := List.mem_map.mp mem
  exact late y among

theorem faithful_run (calls : List (Nat × Call)) : (run .empty calls).Faithful := by
  induction calls using List.reverseRecOn with
  | nil => exact faithful_empty
  | append_singleton calls x ih =>
    rw [run, List.foldl_append]
    exact Faithful.perform ih x.1 x.2

/-- What a look-up answers, it has answered before, as long as the data were the same. -/
theorem get_earlier (found : (m.get now id).1 = .ok (some u)) (before : s ≤ now) :
    (m.get s id).1 = .ok (some u) := by
  rw [get_eq, answer_lookup] at found ⊢
  cases stands : m.find? (key id) with
  | none =>
    rw [stands] at found
    cases found
  | some e =>
    rw [stands, answerOf] at found
    split at found
    · next live => exact (if_pos (Nat.lt_of_le_of_lt before live)).trans found
    · cases found

/-- **A user that is put in supersedes what was there before**, if the end of its span can be told. Take any
calls, at moments that do not go back, the last of which to put in a user with an id puts in `u`; and a look-up
of that id after them. -/
theorem set_supersedes
    (ordered : ((calls ++ (s, Call.set u ttl) :: later).map Prod.fst).Pairwise (· ≤ ·))
    (late : ∀ x ∈ calls ++ (s, Call.set u ttl) :: later, x.1 ≤ now)
    (others : ∀ t v d, (t, Call.set v d) ∈ later → v.id ≠ u.id) :
    let before := run .empty calls
    let answer := ((run .empty (calls ++ (s, .set u ttl) :: later)).get now u.id).1
    (before.perform s (.set u ttl)).1 = .ok () ∧
    -- The end can be told: the user is answered as long as its span lasts, and nobody afterwards.
    (s + ttl.nanos ≤ Clock.horizon → answer = .ok (if now < s + ttl.nanos then some u else none)) ∧
    -- It cannot be told: the answer is the one that there would be if the call had not been made.
    (Clock.horizon < s + ttl.nanos → answer = (before.get now u.id).1) ∧
    -- So whoever is answered is `u`, or was in the cache until then and is not superseded by it.
    (answer = .ok none ∨ answer = .ok (some u) ∨
      Clock.horizon < s + ttl.nanos ∧ ∃ v, answer = .ok (some v) ∧ (before.get s u.id).1 = .ok (some v)) := by
  intro before answer
  have ended : ∀ x ∈ movesOf later, x.2.sets u.id = false := by
    intro x mem
    obtain ⟨⟨t, c⟩, among, rfl⟩ := List.mem_map.mp mem
    cases c with
    | get id => rfl
    | set v d => exact beq_false_of_ne (others t v d among)
  have all := mirrors_run ordered late
  have answered : answer = answerOf now (latest (movesOf (calls ++ (s, .set u ttl) :: later)) u.id) :=
    (congrArg Prod.fst (get_eq ..)).trans (all.answer u.id)
  rw [movesOf_append, movesOf_cons, Call.move, latest_of_last ended] at answered
  -- What was there before, at the same moment.
  obtain ⟨earlier, -, -⟩ := List.pairwise_append.mp (List.map_append ▸ ordered)
  have old : before.Mirrors now (latest (movesOf calls)) :=
    mirrors_run earlier fun x mem => late x (List.mem_append_left _ mem)
  have remembered : (before.get now u.id).1 = answerOf now (latest (movesOf calls) u.id) :=
    (congrArg Prod.fst (get_eq ..)).trans (old.answer u.id)
  have told (short : s + ttl.nanos ≤ Clock.horizon) :
      answer = .ok (if now < s + ttl.nanos then some u else none) := by
    rw [answered, Clock.later?_eq_some_iff.mpr ⟨short, rfl⟩]
    exact answerOf_encode u _
  have untold (long : Clock.horizon < s + ttl.nanos) : answer = (before.get now u.id).1 := by
    rw [answered, remembered, Clock.later?, if_neg (Nat.not_le.mpr long)]
  refine ⟨before.set_eq_ok s u ttl, told, untold, ?_⟩
  rcases Nat.lt_or_ge Clock.horizon (s + ttl.nanos) with long | short
  · rcases (faithful_run calls).get now u.id with missed | ⟨v, -, found⟩
    · exact .inl ((untold long).trans missed)
    · have before_now : s ≤ now := late (s, .set u ttl) (by simp)
      exact .inr (.inr ⟨long, v, (untold long).trans found, get_earlier found before_now⟩)
  · rw [told short]
    split
    · exact .inr (.inl rfl)
    · exact .inl rfl

/-- A user is put in for five moments, and with another name for nine; it is looked up in between and afterwards. -/
theorem set_supersedes_renamed :
    let a : User := ⟨1, "a", "a@b.c", ⟨1, "user", "", 1⟩, true, .epoch⟩
    let b : User := { a with username := "b" }
    let calls := [(0, Call.set a ⟨5⟩)] ++ (1, .set b ⟨9⟩) :: [(4, .get 1)]
    (calls.map Prod.fst).Pairwise (· ≤ ·) ∧ (∀ x ∈ calls, x.1 ≤ 8) ∧
      (∀ t v d, (t, Call.set v d) ∈ [(4, Call.get 1)] → v.id ≠ b.id) ∧
      ((run .empty calls).get 8 1).1 = .ok (some b) := by
  intro a b calls
  have ordered : (calls.map Prod.fst).Pairwise (· ≤ ·) := by decide
  have late : ∀ x ∈ calls, x.1 ≤ 8 := by simp [calls]
  have others : ∀ t v d, (t, Call.set v d) ∈ [(4, Call.get 1)] → v.id ≠ b.id := by simp
  exact ⟨ordered, late, others, (set_supersedes ordered late others).2.1 (by decide)⟩

/-- **An older user shows through** the longest span: a user is put in for a minute, and at once with another name
for as long as a span can be. That succeeds, and yet a look-up answers the old name. -/
theorem set_supersedes_untellable :
    let a : User := ⟨1, "a", "a@b.c", ⟨1, "user", "", 1⟩, true, .epoch⟩
    let b : User := { a with username := "b" }
    ((run .empty [(0, .set a (.ofSecs 60))]).perform 0 (.set b .max)).1 = .ok () ∧
      ((run .empty [(0, .set a (.ofSecs 60)), (0, .set b .max)]).get 0 1).1 = .ok (some a) ∧ a ≠ b := by
  intro a b
  obtain ⟨t, ends, early⟩ : ∃ t, Clock.later? 0 (.ofSecs 60) = some t ∧ 0 < t := ⟨_, rfl, by decide⟩
  have long : Clock.later? 0 .max = none := by decide
  let before : Memory := (Memory.set .empty 0 a (.ofSecs 60)).2
  have apart : before.Apart := apart_move Table.apart_empty 0 (.set a (.ofSecs 60))
  have first : before.find? (key 1) = some ⟨User.shape.encode a, t⟩ :=
    (find?_set Table.apart_empty a (.ofSecs 60)).mpr (.inl ⟨rfl, t, ends, rfl⟩)
  have second : (before.set 0 b .max).2.find? (key 1) = some ⟨User.shape.encode a, t⟩ :=
    (find?_set apart b .max).mpr (.inr ⟨fun _ => long, first, early⟩)
  refine ⟨before.set_eq_ok 0 b .max, congrArg Prod.fst (get_of_find? second early), ?_⟩
  intro same
  have names := congrArg User.username same
  exact absurd names (by decide)

end Gatehouse.Cache.Memory
