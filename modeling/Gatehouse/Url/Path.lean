import Gatehouse.Text.Pieces

/-!
Paths of URLs.

A path is a list of segments. A segment of one dot stands for nothing, and one of two dots takes back
the segment in front of it; either leaves an empty segment at the end of a path.
-/

namespace Gatehouse.Url.Path

/-- A segment in which dots that are written with a percent sign stand as dots. -/
def plainDots : List Char → List Char
  | '%' :: '2' :: c :: r => if c.toLower == 'e' then '.' :: plainDots r else '%' :: '2' :: plainDots (c :: r)
  | c :: r => c :: plainDots r
  | [] => []

/-- Whether a segment stands for the place where it is. -/
def isHere (s : List Char) : Bool := plainDots s == ['.']

/-- Whether a segment takes back the one in front of it. -/
def isUp (s : List Char) : Bool := plainDots s == ['.', '.']

/-- The segments that are left of a path behind others, which are given last one first. -/
def settle (done : List (List Char)) : List (List Char) → List (List Char)
  | [] => done.reverse
  | [s] =>
    if isUp s then ([] :: done.tail).reverse
    else if isHere s then ([] :: done).reverse
    else (s :: done).reverse
  | s :: t :: r =>
    settle (if isUp s then done.tail else if isHere s then done else s :: done) (t :: r)

/-- A path without the empty segments at its start, unless it is nothing else. -/
def dropEmpty : List (List Char) → List (List Char)
  | [] :: s :: r => dropEmpty (s :: r)
  | path => path

end Gatehouse.Url.Path
