import Gatehouse.Text.Bytes
import Gatehouse.Text.Hex

/-!
JSON values and their compact text.

Members of an object keep the order in which they are listed. Text is written in UTF-8 with the two
characters that JSON reserves and the control characters escaped, and nothing else.
-/

namespace Gatehouse

/-- A JSON value. Numbers are whole. -/
inductive Json where
  | null
  | bool (b : Bool)
  | int (n : Int)
  | str (s : String)
  | arr (items : List Json)
  | obj (members : List (String × Json))
deriving Inhabited

namespace Json

/-- The bytes of an ASCII text. -/
abbrev ascii (s : String) : Bytes := s.toList.map Bytes.byte

/-- A byte as it is written inside quotes. -/
def escape (b : UInt8) : Bytes :=
  if b = 0x22 then [0x5c, 0x22]
  else if b = 0x5c then [0x5c, 0x5c]
  else if b = 0x08 then [0x5c, 0x62]
  else if b = 0x0c then [0x5c, 0x66]
  else if b = 0x0a then [0x5c, 0x6e]
  else if b = 0x0d then [0x5c, 0x72]
  else if b = 0x09 then [0x5c, 0x74]
  else if b < 0x20 then [0x5c, 0x75, 0x30, 0x30] ++ (Text.Hex.digits [b]).map Bytes.byte
  else [b]

/-- A text in quotes. -/
def quoted (s : String) : Bytes :=
  0x22 :: ((Bytes.utf8 s).flatMap escape ++ [0x22])

/-- The decimal digits of a whole number, after a minus sign if it is negative. -/
def number (n : Int) : Bytes :=
  let ds := (Nat.toDigits 10 n.natAbs).map Bytes.byte
  if n < 0 then 0x2d :: ds else ds

mutual

/-- The compact text of a value. -/
def render : Json → Bytes
  | .null => ascii "null"
  | .bool true => ascii "true"
  | .bool false => ascii "false"
  | .int n => number n
  | .str s => quoted s
  | .arr items => 0x5b :: renderItems items
  | .obj members => 0x7b :: renderMembers members

/-- Items with commas between them, up to the bracket that closes them. -/
def renderItems : List Json → Bytes
  | [] => [0x5d]
  | [x] => render x ++ [0x5d]
  | x :: y :: r => render x ++ 0x2c :: renderItems (y :: r)

/-- Members with commas between them, up to the brace that closes them. -/
def renderMembers : List (String × Json) → Bytes
  | [] => [0x7d]
  | [(k, x)] => quoted k ++ 0x3a :: (render x ++ [0x7d])
  | (k, x) :: y :: r => quoted k ++ 0x3a :: (render x ++ 0x2c :: renderMembers (y :: r))

end

/-- The value at a path of names and positions, if there is one. A position is written in decimal
digits without a zero in front. -/
def at? (v : Json) : List String → Option Json
  | [] => some v
  | step :: path =>
    match v with
    | .obj members =>
      match members.lookup step with
      | some x => x.at? path
      | none => none
    | .arr items =>
      match step.toNat? with
      | some i => if step = toString i then (items[i]?).bind fun x => x.at? path else none
      | none => none
    | _ => none

end Json
end Gatehouse
