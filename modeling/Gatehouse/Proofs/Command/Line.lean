import Gatehouse.Command.Line

/-!
What the command line and the environment come to.

* `Legible`: every value was read from a text as its option reads it.
* `parse_legible`: whatever the words and the variables are, the values that are accepted are legible.
* `contained_of_legible`: so every number lies in the range of its option.
-/

namespace Gatehouse.Command

/-- Every value was read from a text as its option reads it. -/
def Legible (m : Matches) : Prop := ∀ k v, m.find? k = some v → ∃ text, k.read text = .ok v

theorem legible_empty : Legible .empty := by
  intro k v found
  rw [Table.find?_empty] at found
  cases found

/-- A number lies in the range of its option. -/
theorem contained_of_legible {m : Matches} (legible : Legible m) {k : Key} {range : Range}
    (kind : k.kind = .number range) {n : Int} (found : m.find? k = some (.number n)) :
    range.contains n = true := by
  obtain ⟨text, read⟩ := legible k _ found
  rw [Key.read, kind] at read
  dsimp only at read
  split at read
  · next n' got =>
    cases read
    exact Range.contains_of_read got
  · cases read

/-- What goes on was not refused before. -/
theorem exists_of_bind {ε α β : Type} {x : Except ε α} {f : α → Except ε β} {b : β}
    (ended : x >>= f = .ok b) : ∃ a, x = .ok a ∧ f a = .ok b := by
  cases x with
  | error e => cases ended
  | ok a => exact ⟨a, rfl, ended⟩

namespace Scan

/-- So far, everything was read. -/
def Reads (s : Scan) : Prop := Legible s.found

variable {m m' : Matches} {s s' : Scan} {k : Key}

/-! ### One option -/

theorem store_legible (legible : Legible m) {text : String} (stored : store m k text = .ok m') :
    Legible m' := by
  unfold store at stored
  split at stored
  · next v read =>
    cases stored
    intro k' v' found
    rw [Table.find?_insert] at found
    split at found
    · next same =>
      subst same
      cases found
      exact ⟨text, read⟩
    · exact legible k' v' found
  · cases stored

/-- **An option that is accepted** has its value read from a text. -/
theorem accept_legible (legible : Legible m) {text : Option String} (accepted : accept m k text = .ok m') :
    Legible m' := by
  unfold accept at accepted
  split at accepted
  · cases accepted
  · cases accepted
  · exact store_legible legible accepted
  · split at accepted
    · cases accepted
    · exact store_legible legible accepted
  all_goals
    split at accepted
    · cases accepted
    split at accepted
    · cases accepted
    · exact store_legible legible accepted

theorem settle_legible (reads : s.Reads) (settled : s.settle = .ok m) : Legible m := by
  unfold settle at settled
  split at settled
  · cases settled
    exact reads
  · exact accept_legible reads settled

theorem take_reads (reads : s.Reads) {text : Option String} (taken : s.take k text = .ok s') : s'.Reads := by
  obtain ⟨m, settled, taken⟩ := exists_of_bind taken
  obtain ⟨m', accepted, taken⟩ := exists_of_bind taken
  cases taken
  exact accept_legible (settle_legible reads settled) accepted

theorem await_reads (reads : s.Reads) (waits : s.await k = .ok s') : s'.Reads := by
  obtain ⟨m, settled, waits⟩ := exists_of_bind waits
  cases waits
  exact settle_legible reads settled

/-! ### One word -/

theorem long_reads (reads : s.Reads) {cs : List Char} (read : s.long cs = .ok s') : s'.Reads := by
  unfold long at read
  dsimp only at read
  split at read
  · cases read
  · split at read
    · exact take_reads reads read
    · exact await_reads reads read
    · cases read
    · exact take_reads reads read

/-- Short options, from left to right. -/
theorem short_reads {cs : List Char} (reads : s.Reads) (read : s.short cs = .ok s') : s'.Reads := by
  induction cs generalizing s with
  | nil =>
    cases read
    exact reads
  | cons c r ih =>
    unfold short at read
    split at read
    · cases read
    next k _ =>
      split at read
      · split at read
        · exact await_reads reads read
        · exact take_reads reads read
        · exact take_reads reads read
      · obtain ⟨s₁, taken, read⟩ := exists_of_bind read
        exact ih (take_reads reads taken) read

theorem step_reads (reads : s.Reads) {w : String} (read : s.step w = .ok s') : s'.Reads := by
  unfold step at read
  split at read
  · exact long_reads reads read
  · exact short_reads reads read
  · unfold word at read
    split at read
    · cases read
      exact reads
    · cases read

/-! ### All words -/

/-- Every word leaves what was read legible, so the whole line does. -/
theorem line_legible {ws : List String} (reads : s.Reads) (read : s.line ws = .ok m) : Legible m := by
  induction ws generalizing s with
  | nil => exact settle_legible reads read
  | cons w ws ih =>
    unfold line at read
    split at read
    · next same => cases same
    · next same =>
      cases same
      split at read
      · exact settle_legible reads read
      · cases read
    · next w' ws' _ same =>
      cases same
      obtain ⟨s₁, stepped, read⟩ := exists_of_bind read
      exact ih (step_reads reads stepped) read

end Scan

/-! ### The environment -/

/-- Every variable that is taken leaves what was read legible. -/
theorem fillFrom_legible {env : String → Option String} {ks : List Key} {m m' : Matches}
    (legible : Legible m) (filled : fillFrom env ks m = .ok m') : Legible m' := by
  induction ks generalizing m with
  | nil =>
    cases filled
    exact legible
  | cons k ks ih =>
    unfold fillFrom at filled
    split at filled
    · exact ih legible filled
    · obtain ⟨m₁, accepted, filled⟩ := exists_of_bind filled
      exact ih (Scan.accept_legible legible accepted) filled

/-- **What is accepted was read**, whatever the words and the variables are. -/
theorem parse_legible {env : String → Option String} {words : List String} {m : Matches}
    (accepted : parse env words = .ok m) : Legible m := by
  obtain ⟨m₀, read, accepted⟩ := exists_of_bind accepted
  obtain ⟨m₁, filled, accepted⟩ := exists_of_bind accepted
  have start : Scan.start.Reads := legible_empty
  dsimp only at accepted
  split at accepted
  · cases accepted
    exact fillFrom_legible (Scan.line_legible start read) filled
  · cases accepted

end Gatehouse.Command
