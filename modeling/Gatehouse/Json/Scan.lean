import Gatehouse.Json.Value

/-!
Reading JSON from bytes: blanks, literals, numbers, strings, and values that nobody wants.

A reader takes what it needs off the front of the input and hands on the rest, or stops at the first
fault it meets. There are three faults: the text is not JSON, the text ends too early, or the value
is not of the kind that was asked for. Values that are skipped are looked at for their form only, so
that they may hold text that is no valid UTF-8 and numbers that are too large.
-/

namespace Gatehouse.Json

/-- How reading can fail. -/
inductive Fault where
  | malformed
  | cutShort
  | mismatch
deriving DecidableEq, Repr

/-- Reads a value off the front of the input. -/
abbrev Reader (α : Type) := Bytes → Except Fault (α × Bytes)

/-- The blanks that JSON allows between its parts. -/
def isBlank (b : UInt8) : Bool :=
  b == 0x20 || b == 0x09 || b == 0x0a || b == 0x0d

/-- The input from its first byte on that is not blank. -/
def skipBlanks (s : Bytes) : Bytes := s.dropWhile isBlank

def isDigit (b : UInt8) : Bool := 0x30 ≤ b && b ≤ 0x39

/-- The fault of an input that goes on with something unexpected, or not at all. -/
def unexpected (s : Bytes) : Fault :=
  if s.isEmpty then .cutShort else .malformed

/-- The rest of the input after the bytes of a literal. -/
def literal : Bytes → Bytes → Except Fault Bytes
  | [], s => .ok s
  | _ :: _, [] => .error .cutShort
  | l :: ls, b :: s => if b = l then literal ls s else .error .malformed

/-! ### Numbers -/

/-- A number: whole, or one that needs a fraction, an exponent or more than 64 bits. -/
inductive Number where
  | whole (n : Int)
  | real
deriving DecidableEq, Repr

/-- The largest number of 64 bits. -/
def maxWord : Nat := 0xffffffffffffffff

def digitValue (b : UInt8) : Nat := b.toNat - 0x30

/-- A number rounded to 53 binary digits, half to even. -/
def round53 (n : Nat) : Nat :=
  let k := Nat.log2 n - 52
  let q := n >>> k
  let r := n % Nat.pow 2 k
  let up := 2 * r > Nat.pow 2 k || (2 * r == Nat.pow 2 k && k > 0 && q % 2 == 1)
  (if up then q + 1 else q) <<< k

/-- Whether `significand · 10 ^ exponent` lies beyond the largest real number of 64 bits. -/
def overflows (significand : Nat) (exponent : Int) : Bool :=
  significand != 0 && exponent ≥ 0 &&
    (exponent > 308 ||
      round53 significand * round53 (Nat.pow 10 exponent.toNat) ≥ Nat.pow 2 1024 - Nat.pow 2 970)

/-- A real number with the given parts. -/
def real (significand : Nat) (exponent : Int) (s : Bytes) : Except Fault (Number × Bytes) :=
  if overflows significand exponent then .error .malformed else .ok (.real, s)

/-- The exponent of a number whose significand is read, from behind its mark on. -/
def exponentPart (significand : Nat) (exponent : Int) (s : Bytes) :
    Except Fault (Number × Bytes) :=
  let (negative, s) := match s with
    | b :: r => if b = 0x2b then (false, r) else if b = 0x2d then (true, r) else (false, s)
    | [] => (false, s)
  let ds := s.takeWhile isDigit
  if ds.isEmpty then .error (unexpected s)
  else
    let e := ds.foldl (fun n b => n * 10 + digitValue b) 0
    let rest := s.drop ds.length
    if e > 0x7fffffff then
      if significand ≠ 0 ∧ !negative then .error .malformed else .ok (.real, rest)
    else real significand (if negative then exponent - e else exponent + e) rest

/-- What may follow the digits of a real number: an exponent or nothing. -/
def exponentOrEnd (significand : Nat) (exponent : Int) (s : Bytes) :
    Except Fault (Number × Bytes) :=
  match s with
  | b :: r =>
    if b = 0x65 ∨ b = 0x45 then exponentPart significand exponent r
    else real significand exponent s
  | [] => real significand exponent s

/-- One more digit of a fraction, as long as the significand has room for it. -/
def fractionDigit (acc : Nat × Int × Bool) (b : UInt8) : Nat × Int × Bool :=
  let (n, e, full) := acc
  let m := n * 10 + digitValue b
  if full || m > maxWord then (n, e, true) else (m, e - 1, false)

/-- The fraction of a number, from behind its point on. -/
def fractionPart (significand : Nat) (exponent : Int) (s : Bytes) :
    Except Fault (Number × Bytes) :=
  let ds := s.takeWhile isDigit
  if ds.isEmpty then .error (unexpected s)
  else
    let (n, e, _) := ds.foldl fractionDigit (significand, exponent, false)
    exponentOrEnd n e (s.drop ds.length)

/-- One more digit of a whole number: either it still fits a word, or it is only counted. -/
def wholeDigit (acc : Nat × Nat) (b : UInt8) : Nat × Nat :=
  let (n, dropped) := acc
  let m := n * 10 + digitValue b
  if dropped = 0 ∧ m ≤ maxWord then (m, 0) else (n, dropped + 1)

/-- The whole number with a sign, if its words hold it. A negative zero is no whole number. -/
def signedWord (negative : Bool) (n : Nat) : Number :=
  if !negative then .whole n
  else if 0 < n ∧ n ≤ 0x8000000000000000 then .whole (-n)
  else .real

/-- A number, from behind its sign on. -/
def numberTail (negative : Bool) (s : Bytes) : Except Fault (Number × Bytes) :=
  match s with
  | [] => .error .cutShort
  | b :: r =>
    if !isDigit b then .error .malformed
    else if b = 0x30 ∧ (r.head?.any isDigit) then .error .malformed
    else
      let ds := s.takeWhile isDigit
      let (n, dropped) := ds.foldl wholeDigit (0, 0)
      match s.drop ds.length with
      | c :: t =>
        if c = 0x2e then fractionPart n dropped t
        else if c = 0x65 ∨ c = 0x45 then exponentPart n dropped t
        else if dropped = 0 then .ok (signedWord negative n, c :: t)
        else real n dropped (c :: t)
      | [] => if dropped = 0 then .ok (signedWord negative n, []) else real n dropped []

/-! ### Strings -/

def hexByte? (b : UInt8) : Option Nat :=
  Text.Hex.value? (Char.ofNat b.toNat)

/-- The number that four hexadecimal digits spell, and what follows them. -/
def fourHex : Reader Nat
  | a :: b :: c :: d :: r =>
    match hexByte? a, hexByte? b, hexByte? c, hexByte? d with
    | some w, some x, some y, some z => .ok (((w * 16 + x) * 16 + y) * 16 + z, r)
    | _, _, _, _ => .error .malformed
  | _ => .error .cutShort

/-- The character that stands behind a backslash, where one byte says it all. -/
def shortEscape? (b : UInt8) : Option UInt8 :=
  if b = 0x22 ∨ b = 0x5c ∨ b = 0x2f then some b
  else if b = 0x62 then some 0x08
  else if b = 0x66 then some 0x0c
  else if b = 0x6e then some 0x0a
  else if b = 0x72 then some 0x0d
  else if b = 0x74 then some 0x09
  else none

/-- The UTF-8 form of a code point. -/
def codePoint (n : Nat) : Bytes :=
  Bytes.utf8 (Char.ofNat n).toString

/-- The second half of a character that is written as a pair of surrogates. -/
def lowSurrogate (high : Nat) (s : Bytes) : Except Fault (Bytes × Bytes) := do
  let s ← literal [0x5c, 0x75] s
  let (low, s) ← fourHex s
  if 0xdc00 ≤ low ∧ low ≤ 0xdfff then
    return (codePoint (0x10000 + (high - 0xd800) * 1024 + (low - 0xdc00)), s)
  else throw .malformed

/-- What an escape stands for, from behind the backslash on. -/
def escaped (s : Bytes) : Except Fault (Bytes × Bytes) :=
  match s with
  | [] => .error .cutShort
  | b :: r =>
    match shortEscape? b with
    | some c => .ok ([c], r)
    | none =>
      if b = 0x75 then
        match fourHex r with
        | .error f => .error f
        | .ok (n, t) =>
          if 0xdc00 ≤ n ∧ n ≤ 0xdfff then .error .malformed
          else if 0xd800 ≤ n ∧ n ≤ 0xdbff then lowSurrogate n t
          else .ok (codePoint n, t)
      else .error .malformed

theorem literal_length {l s t : Bytes} (h : literal l s = .ok t) : t.length ≤ s.length := by
  induction l generalizing s with
  | nil => cases h; exact Nat.le_refl _
  | cons x l ih =>
    cases s with
    | nil => cases h
    | cons b s =>
      simp only [literal] at h
      split at h
      · exact Nat.le_succ_of_le (ih h)
      · cases h

theorem fourHex_length {s t : Bytes} {n : Nat} (h : fourHex s = .ok (n, t)) :
    t.length ≤ s.length := by
  unfold fourHex at h
  split at h
  · split at h
    · cases h; simp only [List.length_cons]; omega
    · cases h
  · cases h

theorem lowSurrogate_length {high : Nat} {s t x : Bytes} (h : lowSurrogate high s = .ok (x, t)) :
    t.length ≤ s.length := by
  unfold lowSurrogate at h
  cases hl : literal [0x5c, 0x75] s with
  | error f => simp [hl, bind, Except.bind] at h
  | ok s' =>
    cases hf : fourHex s' with
    | error f => simp [hl, hf, bind, Except.bind] at h
    | ok p =>
      obtain ⟨low, s''⟩ := p
      simp only [hl, hf, bind, Except.bind, pure, Except.pure, throw, throwThe,
        MonadExceptOf.throw] at h
      split at h
      · simp only [Except.ok.injEq, Prod.mk.injEq] at h
        exact h.2 ▸ Nat.le_trans (fourHex_length hf) (literal_length hl)
      · cases h

theorem escaped_length {s t x : Bytes} (h : escaped s = .ok (x, t)) : t.length ≤ s.length := by
  unfold escaped at h
  split at h
  · cases h
  · rename_i b r
    split at h
    · cases h; simp
    · split at h
      · split at h
        · cases h
        · rename_i n t' hf
          have hlen := fourHex_length hf
          split at h
          · cases h
          · split at h
            · have := lowSurrogate_length h
              simp only [List.length_cons]; omega
            · cases h
              simp only [List.length_cons]; omega
      · cases h

/-- The bytes of a string up to its closing quote; `done` holds what is already read, last byte
first. -/
def stringBytes (done s : Bytes) : Except Fault (Bytes × Bytes) :=
  match s with
  | [] => .error .cutShort
  | b :: r =>
    if b = 0x22 then .ok (done.reverse, r)
    else if b = 0x5c then
      match _h : escaped r with
      | .error f => .error f
      | .ok (x, t) => stringBytes (x.reverse ++ done) t
    else if b < 0x20 then .error .malformed
    else stringBytes (b :: done) r
termination_by s.length
decreasing_by
  · have := escaped_length _h
    simp only [List.length_cons]; omega
  · simp

/-- A string from behind its opening quote on; its bytes have to be UTF-8. -/
def stringTail (s : Bytes) : Except Fault (String × Bytes) :=
  match stringBytes [] s with
  | .error f => .error f
  | .ok (b, r) =>
    match Bytes.ofUtf8? b with
    | some t => .ok (t, r)
    | none => .error .malformed

/-! ### Values that are skipped -/

/-- Behind the mark of an exponent that is skipped. -/
def skipExponent (s : Bytes) : Except Fault Bytes :=
  let s := match s with
    | b :: r => if b = 0x2b ∨ b = 0x2d then r else s
    | [] => s
  if (s.takeWhile isDigit).isEmpty then .error .malformed else .ok (s.dropWhile isDigit)

/-- An exponent that is skipped, if one is there. -/
def skipExponent? (s : Bytes) : Except Fault Bytes :=
  match s with
  | b :: r => if b = 0x65 ∨ b = 0x45 then skipExponent r else .ok s
  | [] => .ok s

/-- A number that is skipped, from behind its sign on. It has to be complete even where the input
ends. -/
def skipNumber (s : Bytes) : Except Fault Bytes :=
  match s with
  | [] => .error .malformed
  | b :: r =>
    if !isDigit b then .error .malformed
    else if b = 0x30 ∧ (r.head?.any isDigit) then .error .malformed
    else
      match s.dropWhile isDigit with
      | c :: t =>
        if c = 0x2e then
          if (t.takeWhile isDigit).isEmpty then .error .malformed
          else skipExponent? (t.dropWhile isDigit)
        else skipExponent? (c :: t)
      | [] => .ok []

/-- An escape that is skipped: only its form counts. -/
def skipEscape (s : Bytes) : Except Fault Bytes :=
  match s with
  | [] => .error .cutShort
  | b :: r =>
    if (shortEscape? b).isSome then .ok r
    else if b = 0x75 then
      match fourHex r with
      | .error f => .error f
      | .ok (_, t) => .ok t
    else .error .malformed

theorem skipEscape_length {s t : Bytes} (h : skipEscape s = .ok t) : t.length ≤ s.length := by
  unfold skipEscape at h
  split at h
  · cases h
  · split at h
    · cases h; simp
    · split at h
      · split at h
        · cases h
        · rename_i hf
          cases h
          have := fourHex_length hf
          simp only [List.length_cons]; omega
      · cases h

/-- A string that is skipped, from behind its opening quote on. -/
def skipString (s : Bytes) : Except Fault Bytes :=
  match s with
  | [] => .error .cutShort
  | b :: r =>
    if b = 0x22 then .ok r
    else if b = 0x5c then
      match _h : skipEscape r with
      | .error f => .error f
      | .ok t => skipString t
    else if b < 0x20 then .error .malformed
    else skipString r
termination_by s.length
decreasing_by
  · have := skipEscape_length _h
    simp only [List.length_cons]; omega
  · simp

/-- The two kinds of value that hold others. -/
inductive Frame where
  | list
  | object
deriving DecidableEq, Repr

def Frame.close : Frame → UInt8
  | .list => 0x5d
  | .object => 0x7d

/-- What a skipped value goes on with: a value, a key, or what follows a value. -/
inductive Expect where
  | value
  | firstValue
  | key
  | firstKey
  | next
deriving DecidableEq, Repr

/-- A key that is skipped, with its colon. -/
def skipKey (s : Bytes) : Except Fault Bytes := do
  let s ← skipString s
  match skipBlanks s with
  | b :: r => if b = 0x3a then .ok r else .error .malformed
  | [] => .error .cutShort

/-- A value without parts that is skipped, its first byte given apart. -/
def skipScalar (b : UInt8) (r : Bytes) : Except Fault Bytes :=
  if b = 0x6e then literal (ascii "ull") r
  else if b = 0x74 then literal (ascii "rue") r
  else if b = 0x66 then literal (ascii "alse") r
  else if b = 0x22 then skipString r
  else if b = 0x2d then skipNumber r
  else if isDigit b then skipNumber (b :: r)
  else .error .malformed

/-- Where skipping stands: what is expected next inside of which open lists and objects, innermost
first, or that the value is complete. -/
abbrev Place := Option (Expect × List Frame)

/-- The place behind a value. -/
def afterValue (frames : List Frame) : Place :=
  if frames.isEmpty then none else some (.next, frames)

/-- A value, its first byte given apart: it is skipped whole or opened. -/
def skipOpen (frames : List Frame) (b : UInt8) (r : Bytes) : Except Fault (Place × Bytes) :=
  if b = 0x5b then .ok (some (.firstValue, .list :: frames), r)
  else if b = 0x7b then .ok (some (.firstKey, .object :: frames), r)
  else (skipScalar b r).map fun t => (afterValue frames, t)

/-- The byte that closes the innermost open value. -/
def skipClose (frames : List Frame) (b : UInt8) (r : Bytes) : Except Fault (Place × Bytes) :=
  match frames with
  | [] => .error .malformed
  | f :: outer => if b = f.close then .ok (afterValue outer, r) else .error .malformed

/-- A member's key, its first byte given apart. -/
def skipMember (frames : List Frame) (b : UInt8) (r : Bytes) : Except Fault (Place × Bytes) :=
  if b = 0x22 then (skipKey r).map fun t => (some (.value, frames), t)
  else .error .malformed

/-- One round of skipping, from a byte that is not blank. -/
def skipStep (expect : Expect) (frames : List Frame) (b : UInt8) (r : Bytes) :
    Except Fault (Place × Bytes) :=
  match expect with
  | .value => skipOpen frames b r
  | .firstValue => if b = Frame.list.close then skipClose frames b r else skipOpen frames b r
  | .key => skipMember frames b r
  | .firstKey => if b = Frame.object.close then skipClose frames b r else skipMember frames b r
  | .next =>
    if b = 0x2c then
      .ok (some (if frames.head? = some .object then .key else .value, frames), r)
    else skipClose frames b r

/-- Goes through a value that is skipped. Every round takes at least one byte, so the length of the
input is fuel enough. -/
def skipLoop : Nat → Expect → List Frame → Bytes → Except Fault Bytes
  | 0, _, _, _ => .error .cutShort
  | fuel + 1, expect, frames, s =>
    match skipBlanks s with
    | [] => .error .cutShort
    | b :: r =>
      match skipStep expect frames b r with
      | .error f => .error f
      | .ok (none, t) => .ok t
      | .ok (some (expect, frames), t) => skipLoop fuel expect frames t

/-- The input after a value that nobody wants. -/
def skipValue (s : Bytes) : Except Fault Bytes :=
  skipLoop (s.length + 1) .value [] s

end Gatehouse.Json
