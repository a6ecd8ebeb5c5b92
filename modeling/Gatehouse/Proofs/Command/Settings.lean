import Gatehouse.Command.Settings
import Gatehouse.Proofs.Command.Line

/-!
What settings can be.

* `number_contained`: a number that is set, or stands by default, lies in the range of its option.
* `workable_of_parse`: settings from a command line and an environment that were accepted have a secret, spans
  of life from a second to a year, and a window in which at least one request is admitted.
-/

namespace Gatehouse.Settings

open Command (Key Legible Matches Range)

/-! ### Numbers -/

theorem contains_unsigned_iff {lo : Nat} {hi : Option Nat} {n : Nat} :
    (Range.unsigned lo hi).contains n = true ↔ lo ≤ n ∧ ∀ h, hi = some h → n ≤ h := by
  cases hi with
  | none => simp [Range.contains]
  | some h => simp [Range.contains]

/-- No option takes negative numbers. -/
theorem lower_nonneg {k : Key} {lo hi : Int} (kind : k.kind = .number (.signed lo hi)) : 0 ≤ lo := by
  cases k <;> cases kind <;> decide

/-- **A number of settings lies in the range of its option**, if the one by default does. -/
theorem number_contained {m : Matches} (legible : Legible m) {k : Key} {range : Range}
    (kind : k.kind = .number range) {byDefault : Nat} (default : range.contains byDefault = true) :
    range.contains (number m k byDefault) = true := by
  unfold number
  split
  · next n found =>
    have contained := Command.contained_of_legible legible kind found
    cases range with
    | signed lo hi =>
      have nonneg := lower_nonneg kind
      simp only [Range.contains, Bool.and_eq_true, decide_eq_true_eq] at contained ⊢
      omega
    | unsigned lo hi =>
      have same : ((n.toNat : Nat) : Int) = n := by
        simp only [Range.contains, Bool.and_eq_true, decide_eq_true_eq] at contained
        omega
      rwa [same]
    | anyUnsigned => rfl
  · exact default

/-! ### Settings -/

/-- Settings that a service can work with. -/
structure Workable (s : Settings) : Prop where
  secret : s.tokenSecret ≠ ""
  tokenTtl : ∃ n, 1 ≤ n ∧ n ≤ Key.maxTtl ∧ s.tokenTtl = .ofSecs n
  invitationTtl : ∃ n, 1 ≤ n ∧ n ≤ Key.maxTtl ∧ s.invitationTtl = .ofSecs n
  requests : 0 < s.limiter.requests
  window : ∃ n, 1 ≤ n ∧ s.limiter.window = .ofSecs n

/-- What is demanded is not empty. -/
theorem ne_empty_of_demand {m : Matches} {k : Key} {text : String} (demanded : demand m k = .ok text) :
    text ≠ "" := by
  unfold demand at demanded
  split at demanded
  · next s solid =>
    cases demanded
    rintro rfl
    have notBlank := (Option.filter_eq_some_iff.mp solid).2
    cases notBlank
  · cases demanded

/-- **Settings that are accepted can be worked with.** -/
theorem workable_of_parse {env : String → Option String} {words : List String} {m : Matches} {s : Settings}
    (accepted : Command.parse env words = .ok m) (taken : ofMatches m = .ok s) : s.Workable := by
  have legible : Legible m := Command.parse_legible accepted
  obtain ⟨dsn, -, taken⟩ := Command.exists_of_bind taken
  obtain ⟨secret, demanded, taken⟩ := Command.exists_of_bind taken
  obtain ⟨password, -, taken⟩ := Command.exists_of_bind taken
  cases taken
  have life : ∀ k : Key, k.kind = .number (.unsigned 1 (some Key.maxTtl)) →
      1 ≤ number m k 259200 ∧ number m k 259200 ≤ Key.maxTtl := by
    intro k kind
    have contained := number_contained legible kind (by decide : Range.contains _ (259200 : Nat) = true)
    obtain ⟨lower, upper⟩ := contains_unsigned_iff.mp contained
    exact ⟨lower, upper _ rfl⟩
  constructor
  · exact ne_empty_of_demand demanded
  · obtain ⟨lower, upper⟩ := life .tokenTtl rfl
    exact ⟨_, lower, upper, rfl⟩
  · obtain ⟨lower, upper⟩ := life .invitationTtl rfl
    exact ⟨_, lower, upper, rfl⟩
  · have contained := number_contained legible (k := .limitRequests) rfl
      (by decide : Range.contains _ (20 : Nat) = true)
    simp only [Key.positive32, Range.contains, Bool.and_eq_true, decide_eq_true_eq] at contained
    show 0 < number m .limitRequests 20
    omega
  · have contained := number_contained legible (k := .limitWindow) rfl
      (by decide : Range.contains _ (5 : Nat) = true)
    exact ⟨_, (contains_unsigned_iff.mp contained).1, rfl⟩

end Gatehouse.Settings
