import Gatehouse.Proofs.Json.Number
import Gatehouse.Proofs.Json.Text
import Mathlib.Data.List.Forall2

/-!
Records survive their JSON text.

A record is read back if the value of each of its fields is (`Kind.Reads`) and no two fields share a
name. The loop over the members of an object keeps this invariant: after some members, exactly the
slots in front hold their values, and what is left of the text is what is left of the members
(`membersLoop_members`).

* `readRecord_render`: a record is read back, whatever follows it.
* `readRecord_other`: nothing is found in it but its fields.
* `Shape.decode_encode`: a value is read back from its text.
* `Shape.Settles`: and so any text is that holds a value, once it is written again.
-/

namespace Gatehouse.Json

/-! ### Texts -/

theorem render_str (t : String) : (Json.str t).render = quoted t := rfl

theorem render_int (n : Int) : (Json.int n).render = number n := rfl

theorem render_obj (ms : List (String × Json)) :
    (Json.obj ms).render = 0x7b :: renderMembers ms := rfl

/-! ### Kinds -/

/-- A value is read back from its written form, whatever may follow it. -/
def Kind.Reads (k : Kind) (d : Datum) : Prop :=
  ∀ s, Ends s → k.read ((k.write d).render ++ s) = .ok (d, s)

theorem Kind.reads_text (t : String) : Kind.text.Reads (.text t) := by
  intro s _
  simp only [Kind.text, render_str, readText_quoted, refine]

theorem Kind.reads_int64 (n : Int64) : Kind.int64.Reads (.int64 n) := by
  intro s hs
  have low := n.minValue_le_toInt
  have high := n.toInt_le
  have highWord : n.toInt ≤ maxWord := Int.le_trans high (by decide)
  simp only [Kind.int64, render_int, readWhole_number low highWord hs, refine,
    if_pos (And.intro low high), Int64.ofInt_toInt]

theorem Kind.reads_int32 (n : Int32) : Kind.int32.Reads (.int32 n) := by
  intro s hs
  have low := n.minValue_le_toInt
  have high := n.toInt_le
  have lowWord : -0x8000000000000000 ≤ n.toInt := Int.le_trans (by decide) low
  have highWord : n.toInt ≤ maxWord := Int.le_trans high (by decide)
  simp only [Kind.int32, render_int, readWhole_number lowWord highWord hs, refine,
    if_pos (And.intro low high), Int32.ofInt_toInt]

theorem Kind.reads_flag (b : Bool) : Kind.flag.Reads (.flag b) := by
  intro s _
  cases b <;> rfl

/-! ### Members -/

/-- The text of the members that are left, from behind a value on. -/
def restMembers : List (String × Json) → Bytes
  | [] => [0x7d]
  | m :: ms => 0x2c :: renderMembers (m :: ms)

/-- The text of members, from behind the opening brace or from behind a value on. -/
def openMembers (first : Bool) (ms : List (String × Json)) : Bytes :=
  if first then renderMembers ms else restMembers ms

theorem renderMembers_cons (k : String) (x : Json) (ms : List (String × Json)) :
    renderMembers ((k, x) :: ms) = quoted k ++ 0x3a :: (render x ++ restMembers ms) := by
  cases ms <;> simp [renderMembers, restMembers]

theorem ends_restMembers (ms : List (String × Json)) (s : Bytes) : Ends (restMembers ms ++ s) := by
  cases ms with
  | nil => exact ends_brace s
  | cons m ms => exact ends_comma _

theorem nextKey_nil (first : Bool) (s : Bytes) : nextKey first (openMembers first [] ++ s) = .ok none := by
  cases first <;> rfl

theorem nextKey_cons (first : Bool) (k : String) (x : Json) (ms : List (String × Json)) (s : Bytes) :
    nextKey first (openMembers first ((k, x) :: ms) ++ s) =
      .ok (some ((Bytes.utf8 k).flatMap escape ++ 0x22 :: 0x3a ::
        (render x ++ (restMembers ms ++ s)))) := by
  cases first <;>
    simp [openMembers, restMembers, renderMembers_cons, quoted, nextKey, skipBlanks, isBlank]

/-- A slot that stands behind others of other names is found. -/
theorem findSlot_append {pre post : List Slot} {slot : Slot} {vs : List Datum}
    {rest : List (Option Datum)} (hlen : pre.length = vs.length)
    (fresh : ∀ s ∈ pre, s.name ≠ slot.name) :
    findSlot slot.name (pre ++ slot :: post) (vs.map some ++ none :: rest) =
      some (pre.length, slot, none) := by
  induction pre generalizing vs with
  | nil =>
    cases vs with
    | nil => simp [findSlot]
    | cons v vs => simp at hlen
  | cons p pre ih =>
    cases vs with
    | nil => simp at hlen
    | cons v vs =>
      have hp : ¬ p.name = slot.name := fresh p (by simp)
      have tail : pre.length = vs.length := by simpa using hlen
      have found := ih tail fun s hs => fresh s (by simp [hs])
      simp [findSlot, hp, found]

/-- The members of a record. -/
def members (slots : List Slot) (ds : List Datum) : List (String × Json) :=
  (slots.zip ds).map fun p => (p.1.name, p.1.kind.write p.2)

theorem members_cons (slot : Slot) (slots : List Slot) (d : Datum) (ds : List Datum) :
    members (slot :: slots) (d :: ds) =
      (slot.name, slot.kind.write d) :: members slots ds := rfl

/-- From members that are left, the values of their slots are read; nothing is found for slots behind
these. -/
theorem membersLoop_members {post : List Slot} {ds : List Datum}
    (reads : List.Forall₂ (fun slot d => slot.kind.Reads d) post ds) (more pre : List Slot)
    (vs : List Datum) (hlen : pre.length = vs.length)
    (names : ((pre ++ post).map Slot.name).Nodup) {fuel : Nat} (hfuel : post.length < fuel)
    (first : Bool) (s : Bytes) :
    membersLoop (pre ++ (post ++ more)) fuel first (vs.map some ++ (post ++ more).map fun _ => none)
        (openMembers first (members post ds) ++ s) =
      .ok ((vs ++ ds).map some ++ more.map fun _ => none, 0x7d :: s) := by
  induction reads generalizing pre vs fuel first with
  | nil =>
    obtain ⟨fuel, rfl⟩ := Nat.exists_eq_add_one_of_ne_zero (Nat.ne_of_gt hfuel)
    have key : nextKey first (openMembers first (members [] []) ++ s) = .ok none :=
      nextKey_nil first s
    have closing : openMembers first (members [] []) ++ s = 0x7d :: s := by cases first <;> rfl
    rw [membersLoop, key, closing]
    simp [bind, Except.bind, pure, Except.pure]
  | @cons slot d post ds head tail ih =>
    obtain ⟨fuel, rfl⟩ := Nat.exists_eq_add_one_of_ne_zero (Nat.ne_of_gt (Nat.zero_lt_of_lt hfuel))
    have fresh : ∀ p ∈ pre, p.name ≠ slot.name := by
      rw [List.map_append, List.nodup_append] at names
      intro p hp
      exact names.2.2 p.name (List.mem_map_of_mem hp) slot.name (by simp)
    have value := head (restMembers (members post ds) ++ s) (ends_restMembers _ s)
    -- The value of this slot is put in its place, which is the next one.
    have place : (vs.map some ++ none :: (post ++ more).map fun _ => (none : Option Datum)).set pre.length
        (some d) = (vs ++ [d]).map some ++ (post ++ more).map fun _ => none := by
      rw [List.set_append_right _ _ (by simp [hlen])]
      simp [hlen]
    have rest := ih (pre ++ [slot]) (vs ++ [d]) (by simp [hlen])
      (by simpa using names) (show post.length < fuel by simpa using hfuel) false
    have split : openMembers false (members post ds) = restMembers (members post ds) := rfl
    rw [split, List.append_assoc, List.append_assoc] at rest
    rw [membersLoop, members_cons, nextKey_cons]
    simp only [bind, Except.bind, stringTail_quoted, List.cons_append, List.map_cons,
      findSlot_append hlen fresh]
    rw [show colon (0x3a :: (render (slot.kind.write d) ++ (restMembers (members post ds) ++ s))) =
      .ok (render (slot.kind.write d) ++ (restMembers (members post ds) ++ s)) from rfl]
    simp only [value, place]
    simpa using rest

/-- Values that were found for slots are values of the record. -/
theorem settle_map_some {slots : List Slot} {ds : List Datum} (hlen : slots.length = ds.length)
    (more : List Slot) (found : List (Option Datum)) :
    settle (slots ++ more) (ds.map some ++ found) = (settle more found).map (ds ++ ·) := by
  induction slots generalizing ds with
  | nil =>
    cases ds with
    | nil => cases h : settle more found <;> simp [h, Except.map]
    | cons d ds => simp at hlen
  | cons slot slots ih =>
    cases ds with
    | nil => simp at hlen
    | cons d ds =>
      simp only [List.cons_append, List.map_cons, settle, ih (by simpa using hlen)]
      cases settle more found <;> rfl

/-! ### Records -/

section Record

variable {slots : List Slot} {ds : List Datum}

/-- Every member takes at least a byte of text. -/
theorem length_le_renderMembers (ms : List (String × Json)) : ms.length < (renderMembers ms).length := by
  induction ms with
  | nil => simp [renderMembers]
  | cons m ms ih =>
    obtain ⟨k, x⟩ := m
    have step : (renderMembers ms).length ≤ (restMembers ms).length := by
      cases ms <;> simp [restMembers, renderMembers]
    rw [renderMembers_cons]
    simp only [List.length_append, List.length_cons, quoted]
    omega

/-- **What a reader makes of a written record** that asks for its fields and perhaps for more of them: the
record, and of the others what they hold when they are not named. -/
theorem readRecord_append (reads : List.Forall₂ (fun slot d => slot.kind.Reads d) slots ds)
    (names : (slots.map Slot.name).Nodup) (more : List Slot) (s : Bytes) :
    readRecord (slots ++ more) ((writeRecord slots ds).render ++ s) =
      (settle more (more.map fun _ => none)).map fun others => (ds ++ others, s) := by
  have render : (writeRecord slots ds).render = 0x7b :: renderMembers (members slots ds) := by
    simp [writeRecord, render_obj, members]
  have enough : slots.length < (renderMembers (members slots ds) ++ s).length + 1 := by
    have := length_le_renderMembers (members slots ds)
    have hlen : (members slots ds).length = slots.length := by
      simp [members, reads.length_eq]
    rw [List.length_append]
    omega
  have loop := membersLoop_members reads more [] [] rfl (by simpa using names) enough true s
  simp only [List.nil_append, List.map_nil] at loop
  have open' : openMembers true (members slots ds) = renderMembers (members slots ds) := rfl
  rw [open'] at loop
  have object : readObject (slots ++ more) (renderMembers (members slots ds) ++ s) =
      (settle more (more.map fun _ => none)).map fun others => (ds ++ others, s) := by
    simp only [readObject, loop, bind, Except.bind, settle_map_some reads.length_eq]
    cases settle more (more.map fun _ => none) <;> rfl
  rw [render]
  simpa [readRecord, readFrom, skipBlanks, isBlank] using object

/-- **A written record is read back**, whatever follows it. -/
theorem readRecord_render (reads : List.Forall₂ (fun slot d => slot.kind.Reads d) slots ds)
    (names : (slots.map Slot.name).Nodup) (s : Bytes) :
    readRecord slots ((writeRecord slots ds).render ++ s) = .ok (ds, s) := by
  have read := readRecord_append reads names [] s
  simpa [settle, Except.map] using read

/-- **A written record has no other fields**: a reader that asks for one more does not find it. -/
theorem readRecord_other (reads : List.Forall₂ (fun slot d => slot.kind.Reads d) slots ds)
    (names : (slots.map Slot.name).Nodup) {slot : Slot} (required : slot.missing = none) (s : Bytes) :
    readRecord (slots ++ [slot]) ((writeRecord slots ds).render ++ s) = .error .mismatch := by
  have read := readRecord_append reads names [slot] s
  rw [read]
  simp [settle, required, Except.map]

/-- A record inside of another one is read back like any other value. -/
theorem Kind.reads_record (reads : List.Forall₂ (fun slot d => slot.kind.Reads d) slots ds)
    (names : (slots.map Slot.name).Nodup) : (Kind.record slots).Reads (.record ds) := by
  intro s _
  simp only [Kind.record, readRecord_render reads names, refine]

/-- **A value is read back from its text.** -/
theorem Shape.decode_encode {α : Type} {shape : Shape α} {a : α}
    (reads : List.Forall₂ (fun slot d => slot.kind.Reads d) shape.slots (shape.data a))
    (names : (shape.slots.map Slot.name).Nodup) (data : shape.ofData? (shape.data a) = some a) :
    shape.decode (shape.encode a) = .ok a := by
  have := readRecord_render reads names []
  rw [List.append_nil] at this
  simp only [Shape.decode, Shape.encode, Shape.toJson, this, bind, Except.bind, data]
  rfl

end Record

/-! ### Texts that are written again -/

namespace Shape

variable {α : Type}

/-- The text of the value that a text holds. -/
def rewrite (shape : Shape α) (s : Bytes) : Except Fault Bytes :=
  (shape.decode s).map shape.encode

/-- A shape whose values and texts settle at once. -/
structure Settles (shape : Shape α) : Prop where
  /-- A value is read back from its text. -/
  back : ∀ a, shape.decode (shape.encode a) = .ok a
  /-- A text that is accepted, in whatever form, holds the same value when it is written again, and from
  then on it stays as it is. -/
  again : ∀ s t, shape.rewrite s = .ok t → shape.decode t = shape.decode s ∧ shape.rewrite t = .ok t

theorem settles_of_back {shape : Shape α} (back : ∀ a, shape.decode (shape.encode a) = .ok a) :
    shape.Settles := by
  refine ⟨back, ?_⟩
  intro s t accepted
  unfold rewrite at accepted ⊢
  cases read : shape.decode s with
  | error f =>
    rw [read] at accepted
    cases accepted
  | ok a =>
    rw [read] at accepted
    cases accepted
    rw [back]
    exact ⟨rfl, rfl⟩

end Shape

end Gatehouse.Json
