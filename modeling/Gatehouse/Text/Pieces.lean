/-!
Cutting a text at a separator.

`split` keeps every piece, empty ones too, so joining its pieces with the separator gives the text
back; `splitOnce` cuts at the first separator only.
-/

namespace Gatehouse.Text

/-- The pieces between the occurrences of a separator; there is always at least one. -/
def split (sep : Char) : List Char → List (List Char)
  | [] => [[]]
  | c :: cs =>
    if c = sep then [] :: split sep cs
    else match split sep cs with
      | [] => [[c]]
      | p :: ps => (c :: p) :: ps

/-- What stands before and after the first occurrence of a separator, if there is one. -/
def splitOnce (sep : Char) : List Char → Option (List Char × List Char)
  | [] => none
  | c :: cs =>
    if c = sep then some ([], cs)
    else (splitOnce sep cs).map fun p => (c :: p.1, p.2)

/-- A piece and the piece after it are separated by exactly one separator. -/
theorem splitOnce_append {sep : Char} {a b : List Char} (h : sep ∉ a) :
    splitOnce sep (a ++ sep :: b) = some (a, b) := by
  induction a with
  | nil => simp [splitOnce]
  | cons c a ih =>
    have hc : ¬ c = sep := fun e => h (by simp [e])
    have ha : sep ∉ a := fun m => h (by simp [m])
    simp [splitOnce, hc, ih ha]

end Gatehouse.Text
