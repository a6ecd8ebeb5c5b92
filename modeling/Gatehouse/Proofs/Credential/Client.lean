import Gatehouse.Credential
import Gatehouse.Proofs.Text.Blank

/-!
The key under which a client is counted.

* `CountsAs`: who counts under which key, told without the function that finds it.
* `countsAs_iff`: the function finds that key.
-/

namespace Gatehouse.Credential

open Gatehouse.Http (Address Headers headerText?)

/-! ### Who counts under a key -/

/-- The first field of a name is text, and what stands in it up to a stop is not blank. -/
structure Hop (h : Headers) (name : String) (stop : Option Char) (hop : List Char) : Prop where
  text : ∃ value rest, h.first? name = some value ∧ headerText? value = some (hop ++ rest) ∧
    (∀ c ∈ hop, stop ≠ some c) ∧ ∀ c ∈ rest.head?, stop = some c
  said : ∃ c ∈ hop, Text.isBlank c = false

/-- Who counts under a key: whoever is forwarded for the same first hop, else whoever is named by a proxy
alike, else whoever connects from the same address. All others count under one key. -/
inductive CountsAs (h : Headers) (peer : Option Address) : String → Prop where
  | forwarded {hop} (named : Hop h "x-forwarded-for" (some ',') hop) :
      CountsAs h peer (String.ofList (Text.trimChars hop))
  | proxied {hop} (direct : ∀ hop, ¬ Hop h "x-forwarded-for" (some ',') hop)
      (named : Hop h "x-real-ip" none hop) : CountsAs h peer (String.ofList (Text.trimChars hop))
  | connected {address} (direct : ∀ hop, ¬ Hop h "x-forwarded-for" (some ',') hop)
      (unnamed : ∀ hop, ¬ Hop h "x-real-ip" none hop) (known : peer = some address) :
      CountsAs h peer address.text
  | unknown (direct : ∀ hop, ¬ Hop h "x-forwarded-for" (some ',') hop)
      (unnamed : ∀ hop, ¬ Hop h "x-real-ip" none hop) (nowhere : peer = none) :
      CountsAs h peer "unknown"

/-! ### What a field names -/

/-- What stands in a text up to a stop. -/
def upTo : Option Char → List Char → List Char
  | some c, text => text.takeWhile (· != c)
  | none, text => text

theorem upTo_eq_iff {stop : Option Char} {text hop : List Char} :
    upTo stop text = hop ↔
      ∃ rest, text = hop ++ rest ∧ (∀ c ∈ hop, stop ≠ some c) ∧ ∀ c ∈ rest.head?, stop = some c := by
  cases stop with
  | none =>
    constructor
    · rintro rfl
      exact ⟨[], (List.append_nil _).symm, by simp, by simp⟩
    · rintro ⟨rest, rfl, -, ends⟩
      cases rest with
      | nil => exact (List.append_nil _)
      | cons c rest => exact absurd (ends c rfl) (by simp)
  | some s =>
    constructor
    · rintro rfl
      refine ⟨text.dropWhile (· != s), List.takeWhile_append_dropWhile.symm, ?_, ?_⟩
      · rintro c mem same
        obtain rfl := Option.some.inj same
        simpa using List.mem_takeWhile_imp mem
      · intro c first
        have stops := List.head?_dropWhile_not (· != s) text
        rw [Option.mem_def.mp first] at stops
        have same : c = s := by simpa using stops
        rw [same]
    · rintro ⟨rest, rfl, before, ends⟩
      have takes : hop.takeWhile (· != s) = hop :=
        List.takeWhile_eq_self_iff.mpr fun c mem =>
          bne_iff_ne.mpr fun same => before c mem (congrArg some same.symm)
      cases rest with
      | nil => rw [List.append_nil, upTo, takes]
      | cons c rest =>
        obtain rfl : s = c := Option.some.inj (ends c rfl)
        simp [upTo, List.takeWhile_append, takes]

theorem namedClient_eq (name : String) (stop : Option Char) (h : Headers) :
    namedClient name stop h = ((h.first? name).bind headerText?).bind fun text =>
      if (Text.trimChars (upTo stop text)).isEmpty then none
      else some (String.ofList (Text.trimChars (upTo stop text))) := by
  cases stop <;> rfl

/-- **What a field names**, trimmed, is what is read from it. -/
theorem namedClient_eq_some_iff {h : Headers} {name key : String} {stop : Option Char} :
    namedClient name stop h = some key ↔
      ∃ hop, Hop h name stop hop ∧ String.ofList (Text.trimChars hop) = key := by
  simp only [namedClient_eq, Option.bind_eq_some_iff]
  constructor
  · rintro ⟨text, ⟨value, first, isText⟩, read⟩
    generalize reads : upTo stop text = hop at read
    obtain ⟨rest, rfl, before, ends⟩ := upTo_eq_iff.mp reads
    by_cases empty : (Text.trimChars hop).isEmpty = true
    · rw [if_pos empty] at read
      cases read
    · rw [if_neg empty] at read
      exact ⟨hop, ⟨⟨value, rest, first, isText, before, ends⟩,
        Text.trimChars_isEmpty.mp (Bool.eq_false_iff.mpr empty)⟩, Option.some.inj read⟩
  · rintro ⟨hop, ⟨⟨value, rest, first, isText, before, ends⟩, said⟩, rfl⟩
    refine ⟨hop ++ rest, ⟨value, first, isText⟩, ?_⟩
    rw [upTo_eq_iff.mpr ⟨rest, rfl, before, ends⟩, Text.trimChars_isEmpty.mpr said]
    rfl

theorem namedClient_eq_none_iff {h : Headers} {name : String} {stop : Option Char} :
    namedClient name stop h = none ↔ ∀ hop, ¬ Hop h name stop hop := by
  rw [Option.eq_none_iff_forall_not_mem]
  constructor
  · exact fun none hop named => none _ (namedClient_eq_some_iff.mpr ⟨hop, named, rfl⟩)
  · rintro unnamed key named
    obtain ⟨hop, named, -⟩ := namedClient_eq_some_iff.mp named
    exact unnamed hop named

/-- A field names one client at most. -/
theorem Hop.namedClient {h : Headers} {name : String} {stop : Option Char} {hop : List Char}
    (named : Hop h name stop hop) :
    namedClient name stop h = some (String.ofList (Text.trimChars hop)) :=
  namedClient_eq_some_iff.mpr ⟨hop, named, rfl⟩

/-- **The key that is found is the one under which a client counts.** -/
theorem countsAs_iff {h : Headers} {peer : Option Address} {key : String} :
    CountsAs h peer key ↔ clientKey h peer = key := by
  constructor
  · intro counts
    unfold clientKey
    cases counts with
    | forwarded named => rw [named.namedClient]
    | proxied direct named => rw [namedClient_eq_none_iff.mpr direct, named.namedClient]
    | connected direct unnamed known =>
      rw [namedClient_eq_none_iff.mpr direct, namedClient_eq_none_iff.mpr unnamed, known]
      rfl
    | unknown direct unnamed nowhere =>
      rw [namedClient_eq_none_iff.mpr direct, namedClient_eq_none_iff.mpr unnamed, nowhere]
      rfl
  · rintro rfl
    unfold clientKey
    cases forwarded : Credential.namedClient "x-forwarded-for" (some ',') h with
    | some key =>
      obtain ⟨hop, named, rfl⟩ := namedClient_eq_some_iff.mp forwarded
      exact .forwarded named
    | none =>
      have direct := namedClient_eq_none_iff.mp forwarded
      cases proxied : Credential.namedClient "x-real-ip" none h with
      | some key =>
        obtain ⟨hop, named, rfl⟩ := namedClient_eq_some_iff.mp proxied
        exact .proxied direct named
      | none =>
        have unnamed := namedClient_eq_none_iff.mp proxied
        cases peer with
        | none => exact .unknown direct unnamed rfl
        | some address => exact .connected direct unnamed rfl

end Gatehouse.Credential
