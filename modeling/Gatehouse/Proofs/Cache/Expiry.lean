import Mathlib.Data.List.Induction
import Gatehouse.Proofs.Cache

/-!
The cache of users is a map whose entries expire.

Whoever uses the cache puts users in and looks users up. A look-up that meets an expired entry removes it
later, in a step of its own, and others may have done anything in between. So the steps of all of them come
in any order; only time does not go back.

* `Move`: one step, and `Memory.after`: the data after any number of them. `get_eq` and `perform_eq_move` say
  how whole calls are made of steps.
* `latest`: the entry that was put in last under an id, told without the cache.
* `Mirrors`: the live entries of a cache are the latest ones. `Mirrors.move` is one more step, `mirrors_after`
  any number of them.
* `expiring_map`: what look-ups answer after any steps, and what is removed.
-/

namespace Gatehouse

/-- The end of a span can be told up to the horizon of the clock. -/
theorem Clock.later?_eq_some_iff {now t : Nat} {d : Duration} :
    Clock.later? now d = some t ↔ now + d.nanos ≤ horizon ∧ t = now + d.nanos := by
  unfold later?
  split
  · next told => simp [told, eq_comm]
  · next untold => simp [untold]

namespace Cache

/-! ### Steps -/

/-- One step of a call: a user is put in, a user is looked up, or what a look-up has found expired is removed.
The last one may come at any moment, whether a look-up has led to it or not. -/
inductive Move where
  | set (user : User) (ttl : Duration)
  | lookup (id : Int64)
  | evict (id : Int64)

/-- Whether a step puts in a user with an id. -/
def Move.sets (id : Int64) : Move → Bool
  | .set u _ => u.id == id
  | _ => false

/-- What a look-up answers, by what it has found. -/
def Found.answer : Found → Except Error (Option User)
  | .live text => Memory.readUser text
  | .nothing | .expired => .ok none

/-- The step by which a call changes the data. -/
def Call.move : Call → Move
  | .get id => .evict id
  | .set u ttl => .set u ttl

namespace Memory

/-- The data after a step. -/
def move (m : Memory) (now : Nat) : Move → Memory
  | .set u ttl => (m.set now u ttl).2
  | .lookup _ => m
  | .evict id => m.evict now id

/-- The data after steps, each at its moment. -/
def after (m : Memory) (moves : List (Nat × Move)) : Memory := moves.foldl (fun m x => m.move x.1 x.2) m

variable {m : Memory} {now : Nat} {id : Int64} {k : String} {e : Entry}

theorem after_concat (m : Memory) (moves : List (Nat × Move)) (x : Nat × Move) :
    m.after (moves ++ [x]) = (m.after moves).move x.1 x.2 := by
  rw [after, List.foldl_append]
  rfl

/-- **A whole look-up** is its two steps at one moment: the second one removes nothing unless the first one has
found an expired entry. -/
theorem get_eq (m : Memory) (now : Nat) (id : Int64) :
    m.get now id = ((m.lookup now id).answer, m.evict now id) := by
  unfold Memory.get lookup evict
  cases m.find? (key id) with
  | none => rfl
  | some e =>
    dsimp only
    by_cases live : now < e.expiresAt
    · rw [if_pos live, if_neg (Nat.not_le.mpr live)]
      rfl
    · rw [if_neg live, if_pos (Nat.not_lt.mp live)]
      rfl

/-- A call changes the data by one step. -/
theorem perform_eq_move (m : Memory) (now : Nat) (c : Call) : (m.perform now c).2 = m.move now c.move := by
  cases c with
  | get id => exact congrArg Prod.snd (m.get_eq now id)
  | set u ttl => rfl

/-! ### What is removed -/

/-- What is left of a cache when expired entries are removed. -/
theorem find?_purge (apart : m.Apart) : (m.purge now).find? k = some e ↔
    m.find? k = some e ∧ now < e.expiresAt := by
  rw [purge, apart.find?_filter, Option.filter_eq_some_iff, decide_eq_true_eq]

/-- A removal spares whatever is live. -/
theorem find?_evict (live : now < e.expiresAt) :
    (m.evict now id).find? k = some e ↔ m.find? k = some e := by
  unfold evict
  cases stands : m.find? (key id) with
  | none => rfl
  | some e' =>
    dsimp only
    split
    · next expired =>
      rw [Table.find?_erase]
      split
      · next same =>
        subst same
        rw [stands]
        constructor
        · intro found
          cases found
        · intro found
          -- The entry that is removed has expired, so it is not the live one.
          obtain rfl := Option.some.inj found
          exact absurd live (Nat.not_lt.mpr expired)
      · rfl
    · rfl

/-- **Putting a user in** sets its own entry, if the end of its span can be told, and otherwise leaves exactly
what is live. -/
theorem find?_set (apart : m.Apart) (u : User) (ttl : Duration) : (m.set now u ttl).2.find? k = some e ↔
    (k = key u.id ∧ ∃ t, Clock.later? now ttl = some t ∧ e = ⟨User.shape.encode u, t⟩) ∨
      (k = key u.id → Clock.later? now ttl = none) ∧ m.find? k = some e ∧ now < e.expiresAt := by
  unfold set
  cases ends : Clock.later? now ttl with
  | none => simp [find?_purge apart]
  | some t =>
    dsimp only
    rw [Table.find?_insert]
    by_cases own : key u.id = k
    · simp [own, eq_comm]
    · simp [own, Ne.symm own, find?_purge apart]

theorem apart_move (apart : m.Apart) (now : Nat) (mv : Move) : (m.move now mv).Apart := by
  cases mv with
  | set u ttl =>
    show (m.set now u ttl).2.Apart
    unfold set
    cases Clock.later? now ttl with
    | none => exact apart.filter _
    | some t => exact (apart.filter _).insert _ _
  | lookup id => exact apart
  | evict id =>
    show (m.evict now id).Apart
    unfold evict
    split
    · exact apart
    · split
      · exact apart.filter fun k' _ => k' ≠ key id
      · exact apart

end Memory

/-! ### The latest entries -/

/-- What a step makes of the entry that was put in last under an id. A user whose end cannot be told is not
put in. -/
def Move.renews (id : Int64) (now : Nat) (latest : Option Entry) : Move → Option Entry
  | .set u ttl =>
    if u.id = id then
      match Clock.later? now ttl with
      | some t => some ⟨User.shape.encode u, t⟩
      | none => latest
    else latest
  | _ => latest

/-- The entry that was put in last under an id, whether it has expired or not. -/
def latest (moves : List (Nat × Move)) (id : Int64) : Option Entry :=
  moves.foldl (fun e x => x.2.renews id x.1 e) none

theorem latest_concat (moves : List (Nat × Move)) (x : Nat × Move) (id : Int64) :
    latest (moves ++ [x]) id = x.2.renews id x.1 (latest moves id) := by
  rw [latest, List.foldl_append]
  rfl

theorem Move.renews_of_other {id : Int64} {mv : Move} (other : mv.sets id = false) (now : Nat)
    (e : Option Entry) : mv.renews id now e = e := by
  cases mv with
  | set u ttl => exact if_neg (ne_of_beq_false other)
  | lookup id => rfl
  | evict id => rfl

/-- Steps that put in no user with an id leave its latest entry. -/
theorem latest_append {moves since : List (Nat × Move)} {id : Int64}
    (others : ∀ x ∈ since, x.2.sets id = false) : latest (moves ++ since) id = latest moves id := by
  induction since using List.reverseRecOn with
  | nil => rw [List.append_nil]
  | append_singleton since x ih =>
    rw [← List.append_assoc, latest_concat, Move.renews_of_other (others x (by simp))]
    exact ih fun y mem => others y (List.mem_append_left _ mem)

/-- **The latest entry** holds the user that was put in last, if the end of its span can be told; otherwise it is
the one from before. -/
theorem latest_of_last {earlier since : List (Nat × Move)} {s : Nat} {u : User} {ttl : Duration}
    (others : ∀ x ∈ since, x.2.sets u.id = false) :
    latest (earlier ++ (s, .set u ttl) :: since) u.id =
      match Clock.later? s ttl with
      | some t => some ⟨User.shape.encode u, t⟩
      | none => latest earlier u.id := by
  have split : earlier ++ (s, Move.set u ttl) :: since = (earlier ++ [(s, Move.set u ttl)]) ++ since := by simp
  rw [split, latest_append others, latest_concat]
  exact if_pos rfl

namespace Memory

/-- The entries of a cache that live at a moment are the latest ones that do. -/
structure Mirrors (m : Memory) (now : Nat) (latest : Int64 → Option Entry) : Prop where
  apart : m.Apart
  live : ∀ id e, now < e.expiresAt → (m.find? (key id) = some e ↔ latest id = some e)

variable {m : Memory} {now : Nat} {id : Int64} {kept : Int64 → Option Entry} {moves : List (Nat × Move)}

/-- Entries only expire as time passes. -/
theorem Mirrors.later (mirrors : m.Mirrors now kept) {now' : Nat} (le : now ≤ now') : m.Mirrors now' kept where
  apart := mirrors.apart
  live id e alive := mirrors.live id e (Nat.lt_of_le_of_lt le alive)

/-- **One more step**, whichever it is, leaves the live entries and the latest ones the same. -/
theorem Mirrors.move (mirrors : m.Mirrors now kept) (mv : Move) :
    (m.move now mv).Mirrors now fun id => mv.renews id now (kept id) where
  apart := apart_move mirrors.apart now mv
  live id e alive := by
    cases mv with
    | lookup id' => exact mirrors.live id e alive
    | evict id' => exact (find?_evict alive).trans (mirrors.live id e alive)
    | set u ttl =>
      refine (find?_set mirrors.apart u ttl).trans ?_
      rw [Move.renews]
      by_cases own : u.id = id
      · subst own
        cases Clock.later? now ttl with
        | none => simp [alive, mirrors.live u.id e alive]
        | some t => simp [eq_comm]
      · have other : key id ≠ key u.id := fun keys => own (key_injective keys).symm
        simp [own, other, alive, mirrors.live id e alive]

/-- **After any steps** the live entries of a cache that began empty are the latest ones. -/
theorem mirrors_after (ordered : (moves.map Prod.fst).Pairwise (· ≤ ·)) (late : ∀ x ∈ moves, x.1 ≤ now) :
    (after .empty moves).Mirrors now (latest moves) := by
  induction moves using List.reverseRecOn generalizing now with
  | nil => exact ⟨Table.apart_empty, fun id e _ => iff_of_false nofun nofun⟩
  | append_singleton moves x ih =>
    rw [List.map_append, List.pairwise_append] at ordered
    obtain ⟨ordered, -, before⟩ := ordered
    have mirrors := ih ordered fun y mem =>
      before y.1 (List.mem_map_of_mem mem) x.1 (List.mem_singleton.mpr rfl)
    rw [after_concat, funext (latest_concat moves x)]
    exact (mirrors.move x.2).later (late x (by simp))

/-! ### Look-ups -/

/-- What a look-up answers at a moment, by the entry that it is about. -/
def answerOf (now : Nat) : Option Entry → Except Error (Option User)
  | some e => if now < e.expiresAt then readUser e.text else .ok none
  | none => .ok none

theorem answer_lookup (m : Memory) (now : Nat) (id : Int64) :
    (m.lookup now id).answer = answerOf now (m.find? (key id)) := by
  unfold lookup
  cases m.find? (key id) with
  | none => rfl
  | some e =>
    dsimp only [answerOf]
    split <;> rfl

/-- An entry that does not live is as good as none. -/
theorem answerOf_of_expired {e : Option Entry} (expired : ∀ e', e = some e' → ¬ now < e'.expiresAt) :
    answerOf now e = .ok none := by
  cases e with
  | none => rfl
  | some e => exact if_neg (expired e rfl)

theorem answerOf_encode (u : User) (t : Nat) :
    answerOf now (some ⟨User.shape.encode u, t⟩) = .ok (if now < t then some u else none) := by
  simp only [answerOf, readUser, User.decode_encode]
  split <;> rfl

/-- **A look-up answers the latest entry**, while it lives. -/
theorem Mirrors.answer (mirrors : m.Mirrors now kept) (id : Int64) :
    (m.lookup now id).answer = answerOf now (kept id) := by
  rw [answer_lookup]
  by_cases live : ∃ e, now < e.expiresAt ∧ kept id = some e
  · obtain ⟨e, alive, stands⟩ := live
    rw [stands, (mirrors.live id e alive).mpr stands]
  · have expired (e : Entry) (stands : kept id = some e) : ¬ now < e.expiresAt :=
      fun alive => live ⟨e, alive, stands⟩
    rw [answerOf_of_expired expired, answerOf_of_expired]
    intro e found alive
    exact expired e ((mirrors.live id e alive).mp found) alive

/-- **The cache is a map whose entries expire.** Take any steps of any number of calls in any order, at moments
that do not go back, where the end of every span can be told; and the cache that they leave, at any moment
after them. -/
theorem expiring_map (ordered : (moves.map Prod.fst).Pairwise (· ≤ ·)) (late : ∀ x ∈ moves, x.1 ≤ now)
    (tellable : ∀ s u d, (s, Move.set u d) ∈ moves → s + d.nanos ≤ Clock.horizon) :
    let m := after .empty moves
    -- A look-up answers exactly the user that was put in last under its id, as long as that one's span lasts,
    -- and nobody afterwards or before the first one.
    (∀ id,
      (∀ earlier s u d since, moves = earlier ++ (s, .set u d) :: since → u.id = id →
        (∀ x ∈ since, x.2.sets id = false) →
        (m.lookup now id).answer = .ok (if now < s + d.nanos then some u else none)) ∧
      ((∀ x ∈ moves, x.2.sets id = false) → (m.lookup now id).answer = .ok none)) ∧
    -- No entry that is live is removed: not by a look-up's second step, however long ago the first one was,
    -- nor when expired entries are cleared away, and a user that is put in replaces its own entry only.
    (∀ k e, m.find? k = some e → now < e.expiresAt →
      (∀ id, (m.evict now id).find? k = some e) ∧ (m.purge now).find? k = some e ∧
        ∀ u d, k ≠ key u.id → (m.set now u d).2.find? k = some e) ∧
    -- After a user has been put in, no expired entry is left but its own, if it has no span at all.
    ∀ u d k e, (k, e) ∈ (m.set now u d).2.entries →
      now < e.expiresAt ∨ d.nanos = 0 ∧ k = key u.id ∧ e = ⟨User.shape.encode u, now⟩ := by
  intro m
  have mirrors : m.Mirrors now (latest moves) := mirrors_after ordered late
  refine ⟨fun id => ⟨?_, ?_⟩, ?_, ?_⟩
  · rintro earlier s u d since rfl rfl others
    have told : Clock.later? s d = some (s + d.nanos) :=
      Clock.later?_eq_some_iff.mpr ⟨tellable s u d (by simp), rfl⟩
    rw [mirrors.answer, latest_of_last others, told]
    exact answerOf_encode u _
  · intro others
    have nobody : latest moves id = none := by
      rw [← List.nil_append moves, latest_append others]
      rfl
    rw [mirrors.answer, nobody]
    rfl
  · intro k e found live
    refine ⟨?_, ?_, ?_⟩
    · intro id
      exact (find?_evict live).mpr found
    · exact (find?_purge mirrors.apart).mpr ⟨found, live⟩
    · intro u d other
      exact (find?_set mirrors.apart u d).mpr (.inr ⟨fun own => absurd own other, found, live⟩)
  · intro u d k e mem
    have apart : (m.set now u d).2.Apart := apart_move mirrors.apart now (.set u d)
    rcases (find?_set mirrors.apart u d).mp (apart.find?_of_mem mem) with ⟨own, t, ends, rfl⟩ | ⟨-, -, live⟩
    · obtain ⟨-, rfl⟩ := Clock.later?_eq_some_iff.mp ends
      rcases Nat.eq_zero_or_pos d.nanos with none' | long
      · refine .inr ⟨none', own, ?_⟩
        rw [none', Nat.add_zero]
      · exact .inl (Nat.lt_add_of_pos_right long)
    · exact .inl live

/-- A look-up finds an entry just expired, and another user is put in under the id before it is removed. -/
theorem expiring_map_refreshed :
    let a : User := ⟨1, "a", "a@b.c", ⟨1, "user", "", 1⟩, true, .epoch⟩
    let b : User := { a with username := "b" }
    let moves := [(0, Move.set a ⟨5⟩), (5, .lookup 1), (5, .set b ⟨4⟩), (6, .evict 1)]
    (moves.map Prod.fst).Pairwise (· ≤ ·) ∧ (∀ x ∈ moves, x.1 ≤ 8) ∧
      (∀ s u d, (s, Move.set u d) ∈ moves → s + d.nanos ≤ Clock.horizon) ∧
      ((after .empty (moves.take 1)).lookup 5 1).answer = .ok none ∧
      ((after .empty moves).lookup 8 1).answer = .ok (some b) := by
  intro a b moves
  have ordered : (moves.map Prod.fst).Pairwise (· ≤ ·) := by decide
  have late : ∀ x ∈ moves, x.1 ≤ 8 := by simp [moves]
  have tellable : ∀ s u d, (s, Move.set u d) ∈ moves → s + d.nanos ≤ Clock.horizon := by
    intro s u d mem
    have short : s + d.nanos ≤ 9 := by
      have both : s = 0 ∧ u = a ∧ d = ⟨5⟩ ∨ s = 5 ∧ u = b ∧ d = ⟨4⟩ := by simpa [moves] using mem
      rcases both with ⟨rfl, -, rfl⟩ | ⟨rfl, -, rfl⟩ <;> decide
    exact Nat.le_trans short (by decide)
  have early : ∀ x ∈ moves.take 1, x.1 ≤ 5 := by simp [moves]
  have first := (expiring_map (by decide) early fun s u d mem => tellable s u d (List.mem_of_mem_take mem)).1 1
  have all := (expiring_map ordered late tellable).1 1
  exact ⟨ordered, late, tellable, first.1 [] 0 a ⟨5⟩ [] rfl rfl (by simp),
    all.1 [(0, .set a ⟨5⟩), (5, .lookup 1)] 5 b ⟨4⟩ [(6, .evict 1)] rfl rfl (by simp [Move.sets])⟩

end Memory

end Cache

end Gatehouse
