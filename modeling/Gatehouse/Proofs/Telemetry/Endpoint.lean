import Mathlib.Data.List.Basic
import Gatehouse.Proofs.Text.Blank
import Gatehouse.Telemetry.Endpoint

/-!
The normal form of a collector's address.

An address is normal if it begins with one of the two schemes, stands between no blanks and ends with no slash.
Blanks are taken away before slashes and not afterwards, so that a blank that stands before the slashes at the
end of an address comes to stand at the end itself.

* `Normal`, `Ragged`: what a normal address is, and which addresses are not brought into that form.
* `stem_eq_iff`: what is left of an address before it gets a scheme. `getLast?_stem_blank_iff` says when that ends
  with a blank.
* `normal_normalize_iff`: which addresses are brought into normal form. `normalize_eq_self_iff`: which ones are left as
  they are.
* `addresses_normalized`: what becomes of every address. `addresses_normalized_ragged` is one that is not brought
  into normal form.
-/

namespace Gatehouse.Telemetry.Endpoint

open Text (isBlank trimChars dropEndWhile_eq_iff trimChars_eq_iff_edges)

/-! ### Forms -/

/-- An address begins with one of the two schemes. -/
def Schemed (address : String) : Prop :=
  "http://".toList <+: address.toList ∨ "https://".toList <+: address.toList

/-- An address has a scheme, no blank at either end, and no slash at its end. -/
structure Normal (address : String) : Prop where
  schemed : Schemed address
  front : ∀ c ∈ address.toList.head?, isBlank c = false
  back : ∀ c ∈ address.toList.getLast?, isBlank c = false
  slashless : address.toList.getLast? ≠ some '/'

/-- A blank stands before the slashes at the end of an address, and something else before that. More blanks may
follow. -/
def Ragged (address : String) : Prop :=
  ∃ front b slashes trail, address.toList = front ++ b :: (slashes ++ trail) ∧
    (∃ c ∈ front, isBlank c = false) ∧ isBlank b = true ∧ slashes ≠ [] ∧ (∀ c ∈ slashes, c = '/') ∧
    ∀ c ∈ trail, isBlank c = true

/-- What is left of an address when the blanks around it are taken away, and then the slashes at its end. -/
def stem (address : String) : List Char :=
  Text.dropEndWhile (· == '/') (trimChars address.toList)

variable {address : String} {cs : List Char}

theorem hasScheme_iff : hasScheme cs = true ↔ "http://".toList <+: cs ∨ "https://".toList <+: cs := by
  rw [hasScheme, Bool.or_eq_true, List.isPrefixOf_iff_prefix, List.isPrefixOf_iff_prefix]

theorem Schemed.head? (schemed : Schemed address) : address.toList.head? = some 'h' := by
  rcases schemed with ⟨rest, whole⟩ | ⟨rest, whole⟩
  · rw [← whole]
    rfl
  · rw [← whole]
    rfl

/-- No address that has a scheme begins with a blank. -/
theorem Schemed.front (schemed : Schemed address) : ∀ c ∈ address.toList.head?, isBlank c = false := by
  rw [schemed.head?]
  rintro _ ⟨⟩
  decide

/-- The local collector's address is normal. -/
theorem normal_fallback : Normal fallback := by
  have schemed : Schemed fallback := hasScheme_iff.mp (by decide)
  have last : fallback.toList.getLast? = some '7' := by decide
  refine ⟨schemed, schemed.front, ?_, ?_⟩
  · rw [last]
    rintro _ ⟨⟩
    decide
  · rw [last]
    decide

/-- An address is the local collector's, or what is left of the one that was given, with a scheme before it if it
has none. -/
theorem normalize_cases (address : String) :
    stem address = [] ∧ normalize address = fallback ∨
      stem address ≠ [] ∧ ((normalize address).toList = stem address ∧ hasScheme (stem address) = true ∨
        (normalize address).toList = "http://".toList ++ stem address ∧ hasScheme (stem address) = false) := by
  have unfolded : normalize address = if (stem address).isEmpty then fallback
      else if hasScheme (stem address) then String.ofList (stem address)
      else "http://" ++ String.ofList (stem address) := rfl
  rw [unfolded]
  cases stem address with
  | nil => exact .inl ⟨rfl, rfl⟩
  | cons c cs =>
    refine .inr ⟨List.cons_ne_nil c cs, ?_⟩
    cases hasScheme (c :: cs) with
    | true => exact .inl ⟨String.toList_ofList, rfl⟩
    | false => exact .inr ⟨String.toList_append.trans (congrArg _ String.toList_ofList), rfl⟩

/-- **What is left of an address** ends with no slash, has slashes after it and blanks around both, and there is
no blank at either end of both. -/
theorem stem_eq_iff :
    stem address = cs ↔ ∃ lead slashes trail, address.toList = lead ++ (cs ++ slashes) ++ trail ∧
      (∀ c ∈ lead ++ trail, isBlank c = true) ∧ (∀ c ∈ slashes, c = '/') ∧
      (∀ c ∈ (cs ++ slashes).head?, isBlank c = false) ∧
      (∀ c ∈ (cs ++ slashes).getLast?, isBlank c = false) ∧ cs.getLast? ≠ some '/' := by
  have slash : ∀ c : Char, (c == '/') = true ↔ c = '/' := fun c => beq_iff_eq
  have other : (∀ c ∈ cs.getLast?, (c == '/') = false) ↔ cs.getLast? ≠ some '/' := by
    simp only [Option.mem_def, beq_eq_false_iff_ne]
    exact ⟨fun differs last => differs '/' last rfl, fun differs c last same => differs (same ▸ last)⟩
  rw [stem, dropEndWhile_eq_iff]
  simp only [slash, other, trimChars_eq_iff_edges]
  constructor
  · rintro ⟨slashes, ⟨lead, trail, whole, around, first, last⟩, all, ends⟩
    exact ⟨lead, slashes, trail, whole, around, all, first, last, ends⟩
  · rintro ⟨lead, slashes, trail, whole, around, all, first, last, ends⟩
    exact ⟨slashes, ⟨lead, trail, whole, around, first, last⟩, all, ends⟩

/-! ### What is always so -/

/-- The end of an address is the end of what is left of the one that was given. -/
theorem getLast?_normalize (filled : stem address ≠ []) :
    (normalize address).toList.getLast? = (stem address).getLast? := by
  rcases normalize_cases address with ⟨empty, -⟩ | ⟨-, ⟨same, -⟩ | ⟨more, -⟩⟩
  · exact absurd empty filled
  · rw [same]
  · rw [more, List.getLast?_append_of_ne_nil _ filled]

/-- **Every address gets a scheme.** -/
theorem schemed_normalize (address : String) : Schemed (normalize address) := by
  rcases normalize_cases address with ⟨-, same⟩ | ⟨-, ⟨same, named⟩ | ⟨more, -⟩⟩
  · rw [same]
    exact normal_fallback.schemed
  · rw [Schemed, same]
    exact hasScheme_iff.mp named
  · rw [Schemed, more]
    exact .inl (List.prefix_append ..)

/-- **No address keeps a slash at its end.** -/
theorem getLast?_normalize_ne_slash (address : String) : (normalize address).toList.getLast? ≠ some '/' := by
  rcases normalize_cases address with ⟨-, same⟩ | ⟨filled, -⟩
  · rw [same]
    exact normal_fallback.slashless
  · obtain ⟨-, -, -, -, -, -, -, -, ends⟩ := stem_eq_iff.mp (rfl : stem address = _)
    rwa [getLast?_normalize filled]

/-! ### Blanks at the end -/

/-- **What is left of an address ends with a blank** if one stands before the slashes at its end, and only then. -/
theorem getLast?_stem_blank_iff :
    (∃ b, (stem address).getLast? = some b ∧ isBlank b = true) ↔ Ragged address := by
  constructor
  · rintro ⟨b, last, blank⟩
    obtain ⟨front, ends⟩ := List.getLast?_eq_some_iff.mp last
    obtain ⟨lead, slashes, trail, whole, around, all, first, solid, -⟩ := stem_eq_iff.mp ends
    refine ⟨lead ++ front, b, slashes, trail, by rw [whole]; simp, ?_, blank, ?_, all, ?_⟩
    · -- The first character that is left is no blank, so the last one is not the only one.
      cases front with
      | nil => exact absurd (first b rfl) (by simp [blank])
      | cons c front => exact ⟨c, List.mem_append_right _ (.head _), first c rfl⟩
    · rintro rfl
      exact absurd (solid b (by rw [List.append_nil, List.getLast?_concat]; rfl)) (by simp [blank])
    · exact fun c mem => around c (List.mem_append_right _ mem)
  · rintro ⟨front, b, slashes, trail, whole, ⟨c, mem, said⟩, blank, some, all, after⟩
    -- The blanks at the very front go.
    obtain ⟨lead, split, before, first⟩ := Text.dropWhile_eq_iff.mp (rfl : front.dropWhile isBlank = _)
    have filled : front.dropWhile isBlank ≠ [] := by
      intro none
      exact absurd (List.dropWhile_eq_nil_iff.mp none c mem) (by simp [said])
    generalize front.dropWhile isBlank = core at split first filled
    subst split
    have left : stem address = core ++ [b] := by
      refine stem_eq_iff.mpr ⟨lead, slashes, trail, by rw [whole]; simp, ?_, all, ?_, ?_, ?_⟩
      · intro c mem
        rcases List.mem_append.mp mem with mem | mem
        · exact before c mem
        · exact after c mem
      · rwa [List.append_assoc, List.head?_append_of_ne_nil _ filled]
      · rw [List.getLast?_append_of_ne_nil _ some]
        intro c last
        rw [all c (List.mem_of_mem_getLast? last)]
        decide
      · rw [List.getLast?_concat]
        rintro ⟨⟩
        exact absurd blank (by decide)
    exact ⟨b, by rw [left, List.getLast?_concat], blank⟩

/-- **An address is brought into normal form** unless a blank stands before the slashes at its end. -/
theorem normal_normalize_iff : Normal (normalize address) ↔ ¬ Ragged address := by
  have schemed := schemed_normalize address
  rw [← getLast?_stem_blank_iff]
  rcases normalize_cases address with ⟨empty, same⟩ | ⟨filled, -⟩
  · rw [same]
    exact iff_of_true normal_fallback (by simp [empty])
  · have last := getLast?_normalize filled
    constructor
    · rintro normal ⟨b, ends, blank⟩
      exact absurd (normal.back b (last.trans ends)) (by simp [blank])
    · intro solid
      refine ⟨schemed, schemed.front, ?_, getLast?_normalize_ne_slash address⟩
      intro c ends
      exact Bool.eq_false_iff.mpr fun blank => solid ⟨c, last.symm.trans ends, blank⟩

/-! ### What is left as it is -/

/-- A normal address loses nothing. -/
theorem Normal.stem_eq (normal : Normal address) : stem address = address.toList :=
  stem_eq_iff.mpr ⟨[], [], [], by simp, nofun, nofun, by simpa using normal.front, by simpa using normal.back,
    normal.slashless⟩

/-- What loses nothing does not end with a blank. -/
theorem back_of_stem_eq (same : stem address = address.toList) :
    ∀ c ∈ address.toList.getLast?, isBlank c = false := by
  obtain ⟨lead, slashes, trail, whole, -, -, -, last, -⟩ := stem_eq_iff.mp same
  have none : slashes = [] := by
    have lengths := congrArg List.length whole
    simp only [List.length_append] at lengths
    exact List.length_eq_zero_iff.mp (by omega)
  rwa [none, List.append_nil] at last

/-- What is left of an address that has a scheme is a beginning of it. -/
theorem Schemed.stem_prefix (schemed : Schemed address) : stem address <+: address.toList := by
  obtain ⟨lead, slashes, trail, whole, around, -⟩ := stem_eq_iff.mp (rfl : stem address = _)
  cases lead with
  | nil => exact ⟨slashes ++ trail, by rw [whole]; simp⟩
  | cons c lead =>
    have first := schemed.front c (by rw [whole]; rfl)
    exact absurd (around c (.head _)) (by simp [first])

/-- What is left of an address that gets back what it has lost as a scheme does not end with a blank. -/
theorem back_of_schemed_stem (more : address.toList = "http://".toList ++ stem address)
    (filled : stem address ≠ []) (nameless : hasScheme (stem address) = false) :
    ∀ c ∈ address.toList.getLast?, isBlank c = false := by
  have scheme : "http://".toList <+: address.toList := ⟨stem address, more.symm⟩
  -- Both the scheme and what is left are beginnings of the address; the latter is the shorter one.
  have short : stem address <+: "http://".toList := by
    rcases List.prefix_or_prefix_of_prefix scheme (Schemed.stem_prefix (.inl scheme)) with long | short
    · exact absurd (hasScheme_iff.mpr (.inl long)) (by simp [nameless])
    · exact short
  have solid : "http://".toList.any isBlank = false := by decide
  intro c last
  rw [more, List.getLast?_append_of_ne_nil _ filled] at last
  exact Bool.eq_false_iff.mpr (List.any_eq_false.mp solid c (short.subset (List.mem_of_mem_getLast? last)))

/-- **The normal addresses are those that are left as they are.** -/
theorem normalize_eq_self_iff : normalize address = address ↔ Normal address := by
  constructor
  · intro same
    have schemed := schemed_normalize address
    have slashless := getLast?_normalize_ne_slash address
    have cases := normalize_cases address
    rw [same] at schemed slashless cases
    rcases cases with ⟨-, fixed⟩ | ⟨filled, ⟨whole, -⟩ | ⟨more, nameless⟩⟩
    · rw [fixed]
      exact normal_fallback
    · exact ⟨schemed, schemed.front, back_of_stem_eq whole.symm, slashless⟩
    · exact ⟨schemed, schemed.front, back_of_schemed_stem more filled nameless, slashless⟩
  · intro normal
    rcases normalize_cases address with ⟨empty, -⟩ | ⟨-, ⟨whole, -⟩ | ⟨-, nameless⟩⟩
    · have first := normal.schemed.head?
      rw [← normal.stem_eq, empty] at first
      cases first
    · exact String.toList_inj.mp (whole.trans normal.stem_eq)
    · rw [normal.stem_eq, hasScheme_iff.mpr normal.schemed] at nameless
      cases nameless

/-! ### What becomes of an address -/

/-- **What becomes of an address.** It gets a scheme, and keeps neither a blank at its front nor a slash at its end.
It keeps no blank at its end, and is left as it is when it is brought into form once more, unless a blank stands
before the slashes at the end of what was given. -/
theorem addresses_normalized (address : String) :
    ("http://".toList <+: (normalize address).toList ∨ "https://".toList <+: (normalize address).toList) ∧
    (∀ c ∈ (normalize address).toList.head?, isBlank c = false) ∧
    (normalize address).toList.getLast? ≠ some '/' ∧
    ((∀ c ∈ (normalize address).toList.getLast?, isBlank c = false) ↔ ¬ Ragged address) ∧
    (normalize (normalize address) = normalize address ↔ ¬ Ragged address) ∧
    -- So nothing but an address in normal form is ever left as it is.
    (normalize address = address ↔ Normal address) := by
  have schemed := schemed_normalize address
  have slashless := getLast?_normalize_ne_slash address
  have back : (∀ c ∈ (normalize address).toList.getLast?, isBlank c = false) ↔ Normal (normalize address) :=
    ⟨fun back => ⟨schemed, schemed.front, back, slashless⟩, fun normal => normal.back⟩
  exact ⟨schemed, schemed.front, slashless, back.trans normal_normalize_iff,
    normalize_eq_self_iff.trans normal_normalize_iff, normalize_eq_self_iff⟩

/-- **A blank comes to stand at the end** of an address that has one before its last slash. Once more brought into
form, the address loses it. -/
theorem addresses_normalized_ragged :
    normalize "collector:4317 /" = "http://collector:4317 " ∧
      normalize (normalize "collector:4317 /") = "http://collector:4317" ∧
      ¬ Normal (normalize "collector:4317 /") ∧
      normalize (normalize "collector:4317 /") ≠ normalize "collector:4317 /" := by
  have once : normalize "collector:4317 /" = "http://collector:4317 " := by decide
  have twice : normalize "http://collector:4317 " = "http://collector:4317" := by decide
  rw [once, twice]
  exact ⟨rfl, rfl, fun normal => absurd (normal.back ' ' rfl) (by decide), by decide⟩

end Gatehouse.Telemetry.Endpoint
