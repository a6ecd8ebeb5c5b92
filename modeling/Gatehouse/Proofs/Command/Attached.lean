import Mathlib.Logic.Basic
import Gatehouse.Proofs.Command.Settings
import Gatehouse.Proofs.Table

/-!
Lines on which every value is attached to its option.

* `Scan.step_attached`: one such word sets its option, whatever characters the value has.
* `Scan.line_attached`, `parse_attached`: a line of such words sets each option to its own text.
* `Settings.operator_of_ofMatches`: whom settings take for the operator.
* `Settings.exists_operator`: every name, and every password that is not blank, can be the operator's.
-/

namespace Gatehouse

namespace Command

/-- A word that sets an option: the long name, an equals sign, and the value. -/
def attached (o : Key × String) : String := "--" ++ o.1.long ++ "=" ++ o.2

variable {m : Matches} {k : Key} {os : List (Key × String)}

theorem toList_attached (o : Key × String) :
    (attached o).toList = '-' :: '-' :: (o.1.long.toList ++ '=' :: o.2.toList) := by
  simp [attached]

theorem Key.isRequired_iff : k.isRequired = true ↔ k = .dsn ∨ k = .tokenSecret ∨ k = .operatorPassword := by
  cases k <;> simp [isRequired]

namespace Scan

/-- **A value that is attached is taken as it is**, whatever its characters are. -/
theorem step_attached (takes : k.takesValue = true) (s : Scan) (v : String) :
    s.step (attached (k, v)) = s.take k (some v) := by
  have plain : ∀ c ∈ k.long.toList, (c != '=') = true := by cases k <;> simp [Key.long]
  have named : Key.ofLong? k.long = some k := by cases k <;> decide
  have name : (k.long.toList ++ '=' :: v.toList).takeWhile (· != '=') = k.long.toList := by
    rw [List.takeWhile_append_of_pos plain, List.takeWhile_cons_of_neg (by decide), List.append_nil]
  have value : (k.long.toList ++ '=' :: v.toList).dropWhile (· != '=') = '=' :: v.toList := by
    rw [List.dropWhile_append_of_pos plain, List.dropWhile_cons_of_neg (by decide)]
  rw [step, toList_attached]
  simp only [long, name, value, String.ofList_toList, named, takes]

/-- An option that takes a text is set to it, if it is not set yet. -/
theorem take_text (kind : k.kind = .text) (fresh : m.find? k = none) (v : String) :
    take ⟨m, none⟩ k (some v) = .ok ⟨m.insert k (.text v), none⟩ := by
  have absent : m.contains k = false := by rw [Table.contains, fresh, Option.isSome_none]
  have accepted : accept m k (some v) = .ok (m.insert k (.text v)) := by
    simp only [accept, store, Key.read, kind, absent, Bool.false_eq_true, if_false]
  show (accept m k (some v)).bind _ = _
  rw [accepted]
  rfl

/-- **Options that take texts, each set once**, are set to these texts, and no others are set. -/
theorem line_attached (kinds : ∀ o ∈ os, o.1.kind = .text) (once : (os.map Prod.fst).Nodup)
    (fresh : ∀ o ∈ os, m.find? o.1 = none) :
    ∃ m', line ⟨m, none⟩ (os.map attached) = .ok m' ∧
      (∀ o ∈ os, m'.find? o.1 = some (.text o.2)) ∧ ∀ k, k ∉ os.map Prod.fst → m'.find? k = m.find? k := by
  induction os generalizing m with
  | nil => exact ⟨m, rfl, nofun, fun _ _ => rfl⟩
  | cons o os ih =>
    obtain ⟨k, v⟩ := o
    obtain ⟨first, once⟩ := List.nodup_cons.mp once
    have kind : k.kind = .text := kinds (k, v) (.head _)
    have takes : k.takesValue = true := by rw [Key.takesValue, kind]
    have notEnd : attached (k, v) ≠ "--" := by
      intro same
      have lengths := congrArg (fun w => w.toList.length) same
      simp [toList_attached] at lengths
    have other {k' : Key} (rest : k' ∈ os.map Prod.fst) : k ≠ k' := fun same => first (same ▸ rest)
    have stillFresh : ∀ o ∈ os, (m.insert k (.text v)).find? o.1 = none := by
      intro o mem
      rw [Table.find?_insert, if_neg (other (List.mem_map_of_mem mem))]
      exact fresh o (.tail _ mem)
    obtain ⟨m', read, found, kept⟩ := ih (fun o mem => kinds o (.tail _ mem)) once stillFresh
    refine ⟨m', ?_, ?_, ?_⟩
    · rw [List.map_cons, line, step_attached takes, take_text kind (fresh (k, v) (.head _))]
      · exact read
      · exact notEnd
    · intro o mem
      rcases List.mem_cons.mp mem with rfl | mem
      · rw [kept k first, Table.find?_insert, if_pos rfl]
      · exact found o mem
    · intro k' absent
      obtain ⟨notFirst, absent⟩ := not_or.mp (List.mem_cons.not.mp absent)
      rw [kept k' absent, Table.find?_insert, if_neg (Ne.symm notFirst)]

end Scan

theorem fillFrom_of_empty (ks : List Key) (m : Matches) : fillFrom (fun _ => none) ks m = .ok m := by
  induction ks with
  | nil => rfl
  | cons k ks ih =>
    have unset : (if m.contains k = true then none else k.envName?.bind fun _ => (none : Option String)) = none := by
      simp
    rw [fillFrom, unset]
    exact ih

/-- A line that sets texts, each one once and all that are required, is accepted without an environment. -/
theorem parse_attached (kinds : ∀ o ∈ os, o.1.kind = .text) (once : (os.map Prod.fst).Nodup)
    (required : ∀ k : Key, k.isRequired = true → k ∈ os.map Prod.fst) :
    ∃ m, parse (fun _ => none) (os.map attached) = .ok m ∧ ∀ o ∈ os, m.find? o.1 = some (.text o.2) := by
  obtain ⟨m, read, found, -⟩ := Scan.line_attached kinds once fun _ _ => Table.find?_empty _
  have complete : missingFrom m = [] := by
    rw [missingFrom, List.filter_eq_nil_iff]
    intro k _ missing
    obtain ⟨must, absent⟩ : k.isRequired = true ∧ m.contains k = false := by simpa using missing
    obtain ⟨o, mem, rfl⟩ := List.mem_map.mp (required k must)
    rw [Table.contains, found o mem] at absent
    cases absent
  refine ⟨m, ?_, found⟩
  show (Scan.line ⟨.empty, none⟩ (os.map attached)).bind _ = _
  rw [read]
  show (fillFrom (fun _ => none) Key.all m).bind _ = _
  rw [fillFrom_of_empty]
  show (if (missingFrom m).isEmpty then _ else _) = _
  rw [complete]
  rfl

end Command

namespace Settings

open Command (Key Matches)

/-- What is demanded is a text that is not blank, and it is taken as it is. -/
theorem demand_eq_ok_iff {m : Matches} {k : Key} {text : String} :
    demand m k = .ok text ↔ text? m k = some text ∧ Text.isBlankText text = false := by
  rw [demand, solid?]
  cases text? m k with
  | none => simp
  | some t =>
    rw [Option.filter_some]
    cases blank : Text.isBlankText t with
    | true =>
      refine iff_of_false nofun ?_
      rintro ⟨same, solid⟩
      obtain rfl := Option.some.inj same
      exact Bool.false_ne_true (solid.symm.trans blank)
    | false =>
      constructor
      · intro ok
        obtain rfl := Except.ok.inj ok
        exact ⟨rfl, blank⟩
      · rintro ⟨same, -⟩
        exact congrArg Except.ok (Option.some.inj same)

/-- **The operator of settings** has the name that is given, or the one by default, and the password that is
given, which is not blank. -/
theorem operator_of_ofMatches {m : Matches} {s : Settings} (taken : ofMatches m = .ok s) :
    s.operator.username = (text? m .operatorName).getD "admin" ∧
      text? m .operatorPassword = some s.operator.password ∧ Text.isBlankText s.operator.password = false := by
  obtain ⟨dsn, -, taken⟩ := Command.exists_of_bind taken
  obtain ⟨secret, -, taken⟩ := Command.exists_of_bind taken
  obtain ⟨password, demanded, taken⟩ := Command.exists_of_bind taken
  cases taken
  exact ⟨rfl, demand_eq_ok_iff.mp demanded⟩

/-- **Every name, and every password that is not blank, can be the operator's.** -/
theorem exists_operator (name : String) {password : String} (solid : Text.isBlankText password = false) :
    ∃ m s, Command.parse (fun _ => none) ["--dsn=db", "--token-secret=x", "--basic-auth-user=" ++ name,
        "--basic-auth-pass=" ++ password] = .ok m ∧
      ofMatches m = .ok s ∧ s.operator = ⟨name, password⟩ := by
  let os := [(Key.dsn, "db"), (.tokenSecret, "x"), (.operatorName, name), (.operatorPassword, password)]
  have kinds : ∀ o ∈ os, o.1.kind = .text := by simp [os, Key.kind]
  have once : (os.map Prod.fst).Nodup := by simp [os]
  have required : ∀ k : Key, k.isRequired = true → k ∈ os.map Prod.fst := by
    intro k must
    rcases Key.isRequired_iff.mp must with rfl | rfl | rfl <;> simp [os]
  obtain ⟨m, accepted, found⟩ := Command.parse_attached kinds once required
  have text : ∀ k t, (k, t) ∈ os → text? m k = some t := by
    intro k t mem
    rw [text?, found (k, t) mem]
  have dsn : demand m .dsn = .ok "db" := demand_eq_ok_iff.mpr ⟨text _ _ (by simp [os]), by decide⟩
  have secret : demand m .tokenSecret = .ok "x" := demand_eq_ok_iff.mpr ⟨text _ _ (by simp [os]), by decide⟩
  have chosen : demand m .operatorPassword = .ok password :=
    demand_eq_ok_iff.mpr ⟨text _ _ (by simp [os]), solid⟩
  obtain ⟨s, taken⟩ : ∃ s, ofMatches m = .ok s := by
    rw [ofMatches, dsn, secret, chosen]
    exact ⟨_, rfl⟩
  obtain ⟨named, asked, -⟩ := operator_of_ofMatches taken
  rw [text .operatorName name (by simp [os])] at named
  rw [text .operatorPassword password (by simp [os])] at asked
  exact ⟨m, s, accepted, taken, congrArg₂ Credential.Basic.mk named (Option.some.inj asked).symm⟩

end Settings

end Gatehouse
