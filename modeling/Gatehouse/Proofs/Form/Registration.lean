import Gatehouse.Proofs.Form

/-!
What an account is opened with.

The address is matched against a pattern whose runs may end anywhere, so a text can be cut in many ways or
in none. Here the form is described without the matcher: what each of its texts has to hold, and what is
reported of a form that breaks a rule.

* `Piece.matchAll_run_iff`: the matcher finds the end of a run whenever there is one.
* `isAddress_iff`: what has the shape of an address.
* `registration_exact`: a form is accepted exactly if its three texts are as they should be; otherwise the
  first rule that it breaks is reported.
-/

namespace Gatehouse.Form

/-! ### Patterns -/

theorem Piece.matchAll_nil_iff {cs : List Char} : matchAll [] cs = true ↔ cs = [] := by
  simp [matchAll]

/-- A mark is found at the front. -/
theorem Piece.matchAll_mark_iff {m : Char} {ps : List Piece} {cs : List Char} :
    matchAll (.mark m :: ps) cs = true ↔ ∃ rest, cs = m :: rest ∧ matchAll ps rest = true := by
  cases cs with
  | nil => simp [matchAll]
  | cons c cs => simp [matchAll, and_assoc]

/-- **A run is found at the front** exactly if there are plain characters behind some of which the rest of
the pattern matches. -/
theorem Piece.matchAll_run_iff {ps : List Piece} {cs : List Char} :
    matchAll (.run :: ps) cs = true ↔ ∃ taken rest, cs = taken ++ rest ∧ taken ≠ [] ∧
      (∀ c ∈ taken, isPlain c = true) ∧ matchAll ps rest = true := by
  induction cs with
  | nil => simp +contextual [matchAll]
  | cons c cs ih =>
    rw [matchAll, Bool.and_eq_true_iff, Bool.or_eq_true_iff, ih]
    constructor
    · rintro ⟨plain, here | ⟨taken, rest, rfl, -, plains, matched⟩⟩
      · exact ⟨[c], cs, rfl, by simp, by simpa using plain, here⟩
      · exact ⟨c :: taken, rest, rfl, by simp, by simpa using ⟨plain, plains⟩, matched⟩
    · rintro ⟨taken, rest, same, some, plains, matched⟩
      cases taken with
      | nil => exact absurd rfl some
      | cons d taken =>
        obtain ⟨rfl, rfl⟩ := List.cons.inj same
        refine ⟨plains c (.head _), ?_⟩
        cases taken with
        | nil => exact .inl matched
        | cons d taken =>
          exact .inr ⟨d :: taken, rest, rfl, by simp, fun e mem => plains e (.tail _ mem), matched⟩

/-! ### Addresses -/

theorem isPlain_iff {c : Char} : isPlain c = true ↔ c ≠ '@' ∧ Text.isBlank c = false := by
  simp [isPlain]

/-- Characters that are all plain: there is neither an at sign nor a blank among them. -/
theorem plains_iff {cs : List Char} :
    (∀ c ∈ cs, isPlain c = true) ↔ '@' ∉ cs ∧ ∀ c ∈ cs, Text.isBlank c = false := by
  simp only [isPlain_iff, forall_and]
  exact and_congr_left' ⟨fun other mem => other _ mem rfl, fun free c mem same => free (same ▸ mem)⟩

/-- The shape of an address: no blanks, and one at sign, which stands behind a name and in front of a host
with a dot that is neither its first nor its last character. -/
structure IsAddress (cs : List Char) : Prop where
  solid : ∀ c ∈ cs, Text.isBlank c = false
  single : cs.count '@' = 1
  parts : ∃ name host, cs = name ++ '@' :: host ∧ name ≠ [] ∧
    ∃ front back, host = front ++ '.' :: back ∧ front ≠ [] ∧ back ≠ []

/-- **What is taken for an address.** -/
theorem isAddress_iff {s : String} : isAddress s = true ↔ IsAddress s.toList := by
  rw [isAddress, addressPattern]
  simp only [Piece.matchAll_run_iff, Piece.matchAll_mark_iff, Piece.matchAll_nil_iff, plains_iff]
  constructor
  · rintro ⟨name, _, cut, filled, ⟨noneIn, solidName⟩, _, rfl, front, _, rfl, filledFront,
      ⟨noneInFront, solidFront⟩, _, rfl, back, _, rfl, filledBack, ⟨noneInBack, solidBack⟩, rfl⟩
    rw [List.append_nil] at cut
    rw [cut]
    refine ⟨?_, ?_, name, _, rfl, filled, front, back, rfl, filledFront, filledBack⟩
    · have marks : Text.isBlank '@' = false ∧ Text.isBlank '.' = false := by decide
      simpa [or_imp, forall_and, marks] using ⟨solidName, solidFront, solidBack⟩
    · simp [List.count_eq_zero.mpr noneIn, List.count_eq_zero.mpr noneInFront,
        List.count_eq_zero.mpr noneInBack]
  · rintro ⟨solid, single, name, _, cut, filled, front, back, rfl, filledFront, filledBack⟩
    rw [cut] at solid single ⊢
    -- One at sign stands behind the name, so that none is left for the three runs.
    simp only [List.count_append, List.count_cons_self, List.count_cons_of_ne (show '.' ≠ '@' by decide)]
      at single
    have noneIn : '@' ∉ name := List.count_eq_zero.mp (by omega)
    have noneInFront : '@' ∉ front := List.count_eq_zero.mp (by omega)
    have noneInBack : '@' ∉ back := List.count_eq_zero.mp (by omega)
    simp only [List.mem_append, List.mem_cons, or_imp, forall_and] at solid
    obtain ⟨solidName, -, solidFront, -, solidBack⟩ := solid
    exact ⟨name, _, rfl, filled, ⟨noneIn, solidName⟩, _, rfl, front, _, rfl, filledFront,
      ⟨noneInFront, solidFront⟩, _, rfl, back, [], (List.append_nil _).symm, filledBack,
      ⟨noneInBack, solidBack⟩, rfl⟩

-- Dots may stand next to each other and next to the at sign, as long as one stands further inside.
example : isAddress "a@.b..c." = true ∧ isAddress "a@.bc." = false := by decide

/-! ### The three texts -/

/-- A text holds a character that is no blank. -/
def IsFilled (s : String) : Prop := ∃ c ∈ s.toList, Text.isBlank c = false

/-- What a username has to be. -/
structure IsUsername (s : String) : Prop where
  filled : IsFilled s
  short : s.toList.length ≤ 100

/-- What an email address has to be. -/
structure IsEmail (s : String) : Prop where
  short : s.toList.length ≤ 255
  address : IsAddress s.toList

/-- What a new password has to be. -/
structure IsPassword (s : String) : Prop where
  long : 3 ≤ s.toList.length
  short : s.toList.length ≤ 72

/-- What is reported of a form that breaks a rule: the sentence for the first rule that is broken, where
those for the username come first, then those for the address, then the one for the password. -/
inductive Reported (username address password : String) : String → Prop where
  | usernameMissing (blank : ¬ IsFilled username) : Reported username address password "username is required"
  | usernameTooLong (filled : IsFilled username) (long : 100 < username.toList.length) :
    Reported username address password "username must be at most 100 characters"
  | emailMissing (kept : IsUsername username) (blank : ¬ IsFilled address) :
    Reported username address password "email is required"
  | emailTooLong (kept : IsUsername username) (filled : IsFilled address)
    (long : 255 < address.toList.length) :
    Reported username address password "email must be at most 255 characters"
  | notAnAddress (kept : IsUsername username) (filled : IsFilled address)
    (short : address.toList.length ≤ 255) (shapeless : ¬ IsAddress address.toList) :
    Reported username address password "email is not a valid address"
  | passwordLength (kept : IsUsername username) (kept' : IsEmail address) (wrong : ¬ IsPassword password) :
    Reported username address password "password must be between 3 and 72 characters"

theorem isFilled_iff {s : String} : IsFilled s ↔ Text.isBlankText s = false := by
  simp [IsFilled, Text.isBlankText]

/-- An address holds more than blanks. -/
theorem IsAddress.filled {s : String} (address : IsAddress s.toList) : IsFilled s := by
  have mem : '@' ∈ s.toList := List.count_pos_iff.mp (by rw [address.single]; decide)
  exact ⟨'@', mem, address.solid _ mem⟩

/-! ### Rules -/

theorem demand_error_iff {condition : Bool} {v v' : Violation} :
    demand condition v = .error v' ↔ condition = false ∧ v' = v := by
  cases condition <;> simp [demand, eq_comm]

/-- Of rules that are read one after the other, the first one that is broken is reported. -/
theorem bind_error_iff {x y : Except Violation Unit} {v : Violation} :
    (do x; y) = .error v ↔ x = .error v ∨ x = .ok () ∧ y = .error v := by
  cases x <;> simp [bind, Except.bind]

/-- A report is the sentence for a violation. -/
theorem reports_iff {rules : Except Violation Unit} {sentence : String} :
    rules.mapError Violation.message = .error sentence ↔ ∃ v, rules = .error v ∧ v.message = sentence := by
  cases rules with
  | ok _ => exact ⟨fun reported => (nomatch reported), fun ⟨_, broken, _⟩ => (nomatch broken)⟩
  | error v =>
    constructor
    · intro reported
      exact ⟨v, rfl, Except.error.inj reported⟩
    · rintro ⟨w, broken, rfl⟩
      obtain rfl := Except.error.inj broken
      rfl

variable {f : Field} {s : String} {v : Violation}

theorem required_ok_iff : required f s = .ok () ↔ IsFilled s := by
  rw [required_eq_ok_iff, isFilled_iff]

theorem required_error_iff : required f s = .error v ↔ ¬ IsFilled s ∧ v = .missing f := by
  rw [required, demand_error_iff, isFilled_iff, Bool.not_eq_false, Bool.not_eq_false']

theorem bounded_ok_iff : bounded f s = .ok () ↔ s.toList.length ≤ f.limit := by
  rw [bounded, demand_eq_ok_iff, decide_eq_true_iff]

theorem bounded_error_iff : bounded f s = .error v ↔ f.limit < s.toList.length ∧ v = .tooLong f := by
  rw [bounded, demand_error_iff, decide_eq_false_iff_not, Nat.not_le]

/-- **The rules for an address** are kept by addresses that are not too long. -/
theorem email_ok_iff : email s = .ok () ↔ IsEmail s := by
  rw [email, bind_eq_ok_iff, bind_eq_ok_iff, required_ok_iff, bounded_ok_iff, demand_eq_ok_iff, isAddress_iff]
  constructor
  · rintro ⟨-, short, address⟩
    exact ⟨short, address⟩
  · rintro ⟨short, address⟩
    exact ⟨address.filled, short, address⟩

theorem email_error_iff :
    email s = .error v ↔ ¬ IsFilled s ∧ v = .missing .email ∨
      IsFilled s ∧ (255 < s.toList.length ∧ v = .tooLong .email ∨
        s.toList.length ≤ 255 ∧ ¬ IsAddress s.toList ∧ v = .notAnAddress) := by
  rw [email, bind_error_iff, bind_error_iff, required_ok_iff, required_error_iff, bounded_ok_iff,
    bounded_error_iff, demand_error_iff, ← Bool.not_eq_true, isAddress_iff]
  rfl

/-- The password is long enough and not too long. -/
theorem isPassword_iff :
    (decide (passwordMinimum ≤ s.toList.length) && decide (s.toList.length ≤ Field.password.limit)) = true ↔
      IsPassword s := by
  rw [Bool.and_eq_true_iff, decide_eq_true_iff, decide_eq_true_iff]
  exact ⟨fun ⟨long, short⟩ => ⟨long, short⟩, fun ⟨long, short⟩ => ⟨long, short⟩⟩

variable {username address password : String}

theorem registration_ok_iff :
    registration username address password = .ok () ↔
      IsUsername username ∧ IsEmail address ∧ IsPassword password := by
  rw [registration, bind_eq_ok_iff, bind_eq_ok_iff, bind_eq_ok_iff, required_ok_iff, bounded_ok_iff,
    email_ok_iff, demand_eq_ok_iff, isPassword_iff, ← and_assoc]
  exact and_congr_left' ⟨fun ⟨filled, short⟩ => ⟨filled, short⟩, fun ⟨filled, short⟩ => ⟨filled, short⟩⟩

theorem registration_error_iff :
    registration username address password = .error v ↔
      ¬ IsFilled username ∧ v = .missing .username ∨
      IsFilled username ∧ (100 < username.toList.length ∧ v = .tooLong .username ∨
        username.toList.length ≤ 100 ∧ (email address = .error v ∨
          IsEmail address ∧ ¬ IsPassword password ∧ v = .passwordLength)) := by
  rw [registration, bind_error_iff, bind_error_iff, bind_error_iff, required_ok_iff, required_error_iff,
    bounded_ok_iff, bounded_error_iff, email_ok_iff, demand_error_iff, ← Bool.not_eq_true, isPassword_iff]
  rfl

/-- **What an account can be opened with.** A form is accepted exactly if each of its three texts is as it
should be. If it is not accepted, the first rule that is broken is reported, in the order username, email,
password. -/
theorem registration_exact (username address password : String) :
    (registration username address password = .ok () ↔
      IsUsername username ∧ IsEmail address ∧ IsPassword password) ∧
    ∀ sentence, (registration username address password).mapError Violation.message = .error sentence ↔
      Reported username address password sentence := by
  refine ⟨registration_ok_iff, fun sentence => ?_⟩
  rw [reports_iff]
  constructor
  · rintro ⟨v, broken, rfl⟩
    rcases registration_error_iff.mp broken with ⟨blank, rfl⟩ | ⟨filled, ⟨long, rfl⟩ | ⟨short, broken | wrong⟩⟩
    · exact .usernameMissing blank
    · exact .usernameTooLong filled long
    · rcases email_error_iff.mp broken with ⟨blank, rfl⟩ | ⟨filled', ⟨long, rfl⟩ | ⟨short', shapeless, rfl⟩⟩
      · exact .emailMissing ⟨filled, short⟩ blank
      · exact .emailTooLong ⟨filled, short⟩ filled' long
      · exact .notAnAddress ⟨filled, short⟩ filled' short' shapeless
    · obtain ⟨kept, wrong, rfl⟩ := wrong
      exact .passwordLength ⟨filled, short⟩ kept wrong
  · intro reported
    simp only [registration_error_iff, email_error_iff]
    cases reported with
    | usernameMissing blank => exact ⟨.missing .username, by simp [blank], rfl⟩
    | usernameTooLong filled long => exact ⟨.tooLong .username, by simp [filled, long], rfl⟩
    | emailMissing kept blank => exact ⟨.missing .email, by simp [kept.filled, kept.short, blank], rfl⟩
    | emailTooLong kept filled long =>
      exact ⟨.tooLong .email, by simp [kept.filled, kept.short, filled, long], rfl⟩
    | notAnAddress kept filled short shapeless =>
      exact ⟨.notAnAddress, by simp [kept.filled, kept.short, filled, short, shapeless], rfl⟩
    | passwordLength kept kept' wrong =>
      exact ⟨.passwordLength, by simp [kept.filled, kept.short, kept', wrong], rfl⟩

end Gatehouse.Form
