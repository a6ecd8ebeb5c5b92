import Gatehouse.Text.Lossy
import Gatehouse.Text.Pieces
import Gatehouse.Url.Punycode

/-!
Domain names in URLs.

A name is brought to the form in which names are compared: small letters, plain dots, and without
the characters that have no say in a name. What then holds a character that no name may have is no
name. A label that is written in Punycode has to stand for one that could have been written without.
-/

namespace Gatehouse.Url.Domain

/-- Whether a character lies in one of some ranges. -/
def isIn (ranges : List (UInt32 × UInt32)) (c : Char) : Bool :=
  ranges.any fun r => r.1 ≤ c.val && c.val ≤ r.2

/-- The characters beyond ASCII that no name has: controls, blanks, marks of direction, joiners,
characters for private use, what is no character, and what stands for a text with a blank, a full
stop or another character that no name has. -/
def refused : List (UInt32 × UInt32) :=
  [(0x80, 0xa0), (0xa8, 0xa8), (0xaf, 0xaf), (0xb4, 0xb4), (0xb8, 0xb8), (0x2d8, 0x2dd),
   (0x37a, 0x37a), (0x384, 0x385), (0x600, 0x605), (0x61c, 0x61c), (0x6dd, 0x6dd), (0x70f, 0x70f),
   (0x890, 0x891), (0x8e2, 0x8e2), (0x1680, 0x1680), (0x1fbd, 0x1fbd), (0x1fbf, 0x1fc1),
   (0x1fcd, 0x1fcf), (0x1fdd, 0x1fdf), (0x1fed, 0x1fee), (0x1ffd, 0x1ffe), (0x2000, 0x200a),
   (0x200c, 0x200f), (0x2017, 0x2017), (0x2024, 0x2026), (0x2028, 0x202f), (0x203e, 0x203e),
   (0x2047, 0x2049), (0x205f, 0x205f), (0x2065, 0x206f), (0x2100, 0x2101), (0x2105, 0x2106),
   (0x2488, 0x249b), (0x2a74, 0x2a74), (0x2ff0, 0x3000), (0x309b, 0x309c), (0x33c2, 0x33c2),
   (0x33c7, 0x33c7), (0x33d8, 0x33d8), (0xe000, 0xf8ff), (0xfc5e, 0xfc63), (0xfdd0, 0xfdef),
   (0xfdfa, 0xfdfb), (0xfe13, 0xfe13), (0xfe16, 0xfe16), (0xfe19, 0xfe19), (0xfe30, 0xfe30),
   (0xfe47, 0xfe4c), (0xfe52, 0xfe52), (0xfe55, 0xfe56), (0xfe5f, 0xfe5f), (0xfe64, 0xfe65),
   (0xfe68, 0xfe68), (0xfe6a, 0xfe6b), (0xfe70, 0xfe70), (0xfe72, 0xfe72), (0xfe74, 0xfe74),
   (0xfe76, 0xfe76), (0xfe78, 0xfe78), (0xfe7a, 0xfe7a), (0xfe7c, 0xfe7c), (0xfe7e, 0xfe7e),
   (0xffe3, 0xffe3), (0xfff0, 0xffff), (0x110bd, 0x110bd), (0x110cd, 0x110cd),
   (0x13430, 0x1343f), (0x1d173, 0x1d17a), (0x1f100, 0x1f100), (0x1fffe, 0x1ffff),
   (0x2fa1e, 0x2ffff), (0x323b0, 0xe00ff), (0xe01f0, 0x10ffff)]

/-- The characters that are passed over: soft hyphens and other marks that are not seen. -/
def ignored : List (UInt32 × UInt32) :=
  [(0xad, 0xad), (0x34f, 0x34f), (0x180b, 0x180f), (0x200b, 0x200b), (0x2060, 0x2064),
   (0xfe00, 0xfe0f), (0xfeff, 0xfeff), (0xe0100, 0xe01ef)]

/-- The blocks that hold nothing but marks for the character in front of them. -/
def marks : List (UInt32 × UInt32) :=
  [(0x300, 0x36f), (0x1ab0, 0x1aff), (0x1dc0, 0x1dff), (0x20d0, 0x20ff), (0xfe20, 0xfe2f)]

/-- Ranges of characters that stand for digits, each with the value of its first character. Behind a
nine, the digits start over. -/
def digitForms : List (UInt32 × UInt32 × UInt32) :=
  [(0xb2, 0xb3, 2), (0xb9, 0xb9, 1), (0x2070, 0x2070, 0), (0x2074, 0x2079, 4), (0x2080, 0x2089, 0),
   (0x2460, 0x2468, 1), (0x24ea, 0x24ea, 0), (0x1d7ce, 0x1d7ff, 0), (0x1fbf0, 0x1fbf9, 0)]

/-- The digit that a character stands for. -/
def digit? (c : Char) : Option Char :=
  (digitForms.find? fun (low, high, _) => low ≤ c.val && c.val ≤ high).map
    fun (low, _, first) => Char.ofNat (0x30 + ((first + (c.val - low)) % 10).toNat)

/-- Whether a character is a full stop of another script. -/
def isDot (c : Char) : Bool := c == '\u3002' || c == '\uff61'

/-- A character in the form in which names are compared. Characters of full width stand for those of
ASCII. -/
def fold (c : Char) : Char :=
  if isDot c then '.'
  else if isIn [(0xff01, 0xff5e)] c then (Char.ofNat (c.toNat - 0xfee0)).toLower
  else (digit? c).getD c.toLower

/-- Whether a character may stand in a name. -/
def isNameChar (c : Char) : Bool :=
  if c.toNat < 0x80 then ' ' < c && c != '\x7f' && !"#%/:<>?@[\\]^|".toList.contains c
  else !isIn refused c

/-- Whether a label holds only what may stand in a name, and does not start with a mark. -/
def isPlainLabel (cs : List Char) : Bool :=
  cs.all isNameChar && !cs.head?.any (isIn marks)

/-- Whether a label is well-formed. In Punycode, it stands for a label with a character beyond
ASCII. -/
def isLabel (cs : List Char) : Bool :=
  isPlainLabel cs &&
    match cs with
    | 'x' :: 'n' :: '-' :: '-' :: coded =>
      match Punycode.decode? coded with
      | some plain => plain.any (·.toNat ≥ 0x80) && isPlainLabel plain &&
          plain.all fun c => fold c == c && !isIn ignored c
      | none => false
    | _ => true

/-- The name that a text stands for. -/
def ofChars? (cs : List Char) : Option (List Char) :=
  let name := (cs.filter fun c => !isIn ignored c).map fold
  if !name.isEmpty && (Text.split '.' name).all isLabel then some name else none

end Gatehouse.Url.Domain
