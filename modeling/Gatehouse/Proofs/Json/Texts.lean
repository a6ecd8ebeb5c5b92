import Gatehouse.Proofs.Json.Record

/-!
Lists of texts survive their JSON text.

The loop over the items of an array keeps what it has read so far, and what is left of the text is what is
left of the items (`textsLoop_items`).

* `Kind.reads_texts`: a list of texts is read back, whatever follows it.
-/

namespace Gatehouse.Json

/-- The text of the items that are left, from behind an item on. -/
def restItems : List Json → Bytes
  | [] => [0x5d]
  | x :: xs => 0x2c :: renderItems (x :: xs)

/-- The text of items, from behind the opening bracket or from behind an item on. -/
def openItems (first : Bool) (xs : List Json) : Bytes :=
  if first then renderItems xs else restItems xs

theorem renderItems_cons (x : Json) (xs : List Json) :
    renderItems (x :: xs) = render x ++ restItems xs := by
  cases xs with
  | nil => rfl
  | cons y ys => rfl

theorem nextElement_nil (first : Bool) (s : Bytes) :
    nextElement first (openItems first [] ++ s) = .ok none := by
  cases first <;> rfl

theorem closeArray_nil (first : Bool) (s : Bytes) : closeArray (openItems first [] ++ s) = .ok s := by
  cases first <;> rfl

theorem nextElement_cons (first : Bool) (t : String) (xs : List Json) (s : Bytes) :
    nextElement first (openItems first (.str t :: xs) ++ s) =
      .ok (some (quoted t ++ (restItems xs ++ s))) := by
  have items : renderItems (.str t :: xs) ++ s = quoted t ++ (restItems xs ++ s) := by
    rw [renderItems_cons, render_str, List.append_assoc]
  cases first with
  | true =>
    show nextElement true (renderItems (.str t :: xs) ++ s) = _
    rw [items]
    rfl
  | false =>
    show nextElement false (0x2c :: (renderItems (.str t :: xs) ++ s)) = _
    rw [items]
    rfl

/-- Every item takes at least a byte of text. -/
theorem length_le_renderItems (xs : List Json) : xs.length ≤ (renderItems xs).length := by
  induction xs with
  | nil => exact Nat.zero_le _
  | cons x xs ih =>
    have rest : xs.length < (restItems xs).length := by
      cases xs with
      | nil => exact Nat.zero_lt_one
      | cons y ys => exact Nat.lt_succ_of_le ih
    rw [renderItems_cons, List.length_append, List.length_cons]
    omega

/-- From items that are left, the texts that are left are read. -/
theorem textsLoop_items (l done : List String) {fuel : Nat} (enough : l.length < fuel) (s : Bytes) :
    textsLoop fuel done (openItems done.isEmpty (l.map .str) ++ s) = .ok (done.reverse ++ l, s) := by
  induction l generalizing done fuel with
  | nil =>
    obtain ⟨fuel, rfl⟩ := Nat.exists_eq_add_one_of_ne_zero (Nat.ne_of_gt enough)
    rw [textsLoop, List.map_nil, nextElement_nil, closeArray_nil, List.append_nil]
    rfl
  | cons t l ih =>
    obtain ⟨fuel, rfl⟩ := Nat.exists_eq_add_one_of_ne_zero (Nat.ne_of_gt (Nat.zero_lt_of_lt enough))
    -- What is read is put before what has been read, so some text has been read from here on.
    have rest := ih (t :: done) (Nat.lt_of_succ_lt_succ enough)
    rw [show openItems (t :: done).isEmpty (l.map .str) = restItems (l.map .str) from rfl] at rest
    rw [textsLoop, List.map_cons, nextElement_cons]
    simp only [readText_quoted, rest, List.reverse_cons, List.append_assoc, List.singleton_append]

/-- **A list of texts is read back**, whatever follows it. -/
theorem Kind.reads_texts (l : List String) : Kind.texts.Reads (.texts l) := by
  intro s _
  have enough : l.length < (renderItems (l.map .str) ++ s).length + 1 := by
    have := length_le_renderItems (l.map .str)
    rw [List.length_map] at this
    rw [List.length_append]
    omega
  have loop : textsLoop ((renderItems (l.map .str) ++ s).length + 1) [] (renderItems (l.map .str) ++ s) =
      .ok (l, s) := textsLoop_items l [] enough s
  exact congrArg (refine fun l => some (Datum.texts l)) loop

end Gatehouse.Json
