import Gatehouse.Json.Scan
import Gatehouse.Time.Stamp

/-!
Records in JSON: values with named fields of known kinds.

A record is written as an object with its fields in the order of their declaration. It is read from
an object with the fields in any order, where unknown ones are skipped and a field may stand only
once, or from an array that holds the fields in the order of their declaration.
-/

namespace Gatehouse.Json

/-- The value of a field. -/
inductive Datum where
  | int64 (n : Int64)
  | int32 (n : Int32)
  | flag (b : Bool)
  | text (s : String)
  | texts (l : List String)
  | instant (t : Instant)
  | absent
  | record (fields : List Datum)
deriving Inhabited

/-! ### Kinds of field -/

/-- A kind of field: how its values are read and written. -/
structure Kind where
  read : Reader Datum
  write : Datum → Json

/-- The fault of a value that is of another kind: malformed, if it is not even a value. The first
byte is given apart. -/
def otherKind (b : UInt8) (r : Bytes) : Fault :=
  let after {α : Type} : Except Fault α → Fault
    | .ok _ => .mismatch
    | .error f => f
  if b = 0x6e then after (literal (ascii "ull") r)
  else if b = 0x74 then after (literal (ascii "rue") r)
  else if b = 0x66 then after (literal (ascii "alse") r)
  else if b = 0x2d then after (numberTail true r)
  else if isDigit b then after (numberTail false (b :: r))
  else if b = 0x22 then after (stringTail r)
  else if b = 0x5b ∨ b = 0x7b then .mismatch
  else .malformed

/-- Reads what follows the blanks, its first byte given apart. -/
def readFrom {α : Type} (f : UInt8 → Reader α) : Reader α := fun s =>
  match skipBlanks s with
  | [] => .error .cutShort
  | b :: r => f b r

/-- Reads a whole number. -/
def readWhole : Reader Int :=
  readFrom fun b r =>
    let number := if b = 0x2d then some (numberTail true r)
      else if isDigit b then some (numberTail false (b :: r))
      else none
    match number with
    | none => .error (otherKind b r)
    | some (.error f) => .error f
    | some (.ok (.real, _)) => .error .mismatch
    | some (.ok (.whole n, t)) => .ok (n, t)

/-- Reads a string. -/
def readText : Reader String :=
  readFrom fun b r => if b = 0x22 then stringTail r else .error (otherKind b r)

/-- A result with its value changed, unless the value is refused. -/
def refine {α β : Type} (f : α → Option β) : Except Fault (α × Bytes) → Except Fault (β × Bytes)
  | .error e => .error e
  | .ok (a, r) =>
    match f a with
    | some b => .ok (b, r)
    | none => .error .mismatch

/-- Whole numbers of 64 bits. -/
def Kind.int64 : Kind where
  read s := refine (fun n =>
    if Int64.minValue.toInt ≤ n ∧ n ≤ Int64.maxValue.toInt then some (.int64 (Int64.ofInt n))
    else none) (readWhole s)
  write
    | .int64 n => .int n.toInt
    | _ => .null

/-- Whole numbers of 32 bits. -/
def Kind.int32 : Kind where
  read s := refine (fun n =>
    if Int32.minValue.toInt ≤ n ∧ n ≤ Int32.maxValue.toInt then some (.int32 (Int32.ofInt n))
    else none) (readWhole s)
  write
    | .int32 n => .int n.toInt
    | _ => .null

/-- True and false. -/
def Kind.flag : Kind where
  read := readFrom fun b r =>
    if b = 0x74 then (literal (ascii "rue") r).map fun t => (.flag true, t)
    else if b = 0x66 then (literal (ascii "alse") r).map fun t => (.flag false, t)
    else .error (otherKind b r)
  write
    | .flag b => .bool b
    | _ => .null

/-- Text. -/
def Kind.text : Kind where
  read s := refine (fun t => some (.text t)) (readText s)
  write
    | .text t => .str t
    | _ => .null

/-- Instants, written as text. -/
def Kind.instant : Kind where
  read s := refine (fun t => (Stamp.read? t).map .instant) (readText s)
  write
    | .instant t => .str (Stamp.write t)
    | _ => .null

/-- A value of another kind, or null for none. -/
def Kind.optional (k : Kind) : Kind where
  read s :=
    match skipBlanks s with
    | b :: r =>
      if b = 0x6e then (literal (ascii "ull") r).map fun t => (.absent, t)
      else k.read s
    | [] => .error .cutShort
  write d :=
    match d with
    | .absent => .null
    | _ => k.write d

/-! ### Arrays -/

/-- What follows the blanks before an element of an array: `none` at the closing bracket, which is
left in place. A comma comes before every element but the first. -/
def nextElement (first : Bool) (s : Bytes) : Except Fault (Option Bytes) :=
  match skipBlanks s with
  | [] => .error .cutShort
  | b :: r =>
    if b = 0x5d then .ok none
    else if first then .ok (some (b :: r))
    else if b = 0x2c then
      match skipBlanks r with
      | [] => .error .cutShort
      | c :: t => if c = 0x5d then .error .malformed else .ok (some (c :: t))
    else .error .malformed

/-- The closing bracket of an array. -/
def closeArray (s : Bytes) : Except Fault Bytes :=
  match skipBlanks s with
  | [] => .error .cutShort
  | b :: r => if b = 0x5d then .ok r else .error .malformed

/-- Reads the texts of an array up to its closing bracket. Each of them takes at least two bytes, so
the length of the input is fuel enough. -/
def textsLoop : Nat → List String → Bytes → Except Fault (List String × Bytes)
  | 0, _, _ => .error .cutShort
  | fuel + 1, done, s =>
    match nextElement done.isEmpty s with
    | .error f => .error f
    | .ok none => (closeArray s).map fun r => (done.reverse, r)
    | .ok (some t) =>
      match readText t with
      | .error f => .error f
      | .ok (x, r) => textsLoop fuel (x :: done) r

/-- Lists of texts. -/
def Kind.texts : Kind where
  read := readFrom fun b r =>
    if b = 0x5b then refine (fun l => some (.texts l)) (textsLoop (r.length + 1) [] r)
    else .error (otherKind b r)
  write
    | .texts l => .arr (l.map .str)
    | _ => .null

/-! ### Records -/

/-- A field of a record. `missing` is what it holds when an object does not name it, and `beyond`
when an array ends before it; without them the field is required. -/
structure Slot where
  name : String
  kind : Kind
  missing : Option Datum := none
  beyond : Option Datum := none

/-- The slot with a name, and what was found for it so far. -/
def findSlot (name : String) : List Slot → List (Option Datum) → Option (Nat × Slot × Option Datum)
  | s :: ss, d :: ds =>
    if s.name = name then some (0, s, d)
    else (findSlot name ss ds).map fun p => (p.1 + 1, p.2)
  | _, _ => none

/-- Stands before a member of an object: `none` at the closing brace, which is left in place, and
else the input behind the quote that opens the key. -/
def nextKey (first : Bool) (s : Bytes) : Except Fault (Option Bytes) :=
  let key (s : Bytes) : Except Fault (Option Bytes) :=
    match s with
    | [] => .error .cutShort
    | b :: r => if b = 0x22 then .ok (some r) else .error .malformed
  match skipBlanks s with
  | [] => .error .cutShort
  | b :: r =>
    if b = 0x7d then .ok none
    else if first then key (b :: r)
    else if b = 0x2c then key (skipBlanks r)
    else .error .malformed

/-- The input behind the colon of a member. -/
def colon (s : Bytes) : Except Fault Bytes :=
  match skipBlanks s with
  | [] => .error .cutShort
  | b :: r => if b = 0x3a then .ok r else .error .malformed

/-- Reads the members of an object up to its closing brace. Each of them takes at least one byte, so
the length of the input is fuel enough. -/
def membersLoop (slots : List Slot) :
    Nat → Bool → List (Option Datum) → Bytes → Except Fault (List (Option Datum) × Bytes)
  | 0, _, _, _ => .error .cutShort
  | fuel + 1, first, found, s => do
    match ← nextKey first s with
    | none => return (found, s)
    | some s =>
      let (name, s) ← stringTail s
      match findSlot name slots found with
      | some (_, _, some _) => throw .mismatch
      | some (i, slot, none) =>
        let (d, s) ← slot.kind.read (← colon s)
        membersLoop slots fuel false (found.set i (some d)) s
      | none =>
        let s ← skipValue (← colon s)
        membersLoop slots fuel false found s

/-- The values of all slots, if those that were not found can do without. -/
def settle : List Slot → List (Option Datum) → Except Fault (List Datum)
  | s :: ss, d :: ds =>
    match d <|> s.missing with
    | some x => (settle ss ds).map (x :: ·)
    | none => .error .mismatch
  | _, _ => .ok []

/-- Reads an object from behind its opening brace on. -/
def readObject (slots : List Slot) : Reader (List Datum) := fun s => do
  let (found, s) ← membersLoop slots (s.length + 1) true (slots.map fun _ => none) s
  let ds ← settle slots found
  return (ds, (skipBlanks s).drop 1)

/-- Reads the elements of an array for the slots in their order. -/
def elementsLoop : List Slot → Bool → Bytes → Except Fault (List Datum × Bytes)
  | [], _, s => .ok ([], s)
  | slot :: slots, first, s => do
    match ← nextElement first s with
    | none =>
      match slot.beyond with
      | some d =>
        let (ds, s) ← elementsLoop slots first s
        return (d :: ds, s)
      | none => throw .mismatch
    | some t =>
      let (d, r) ← slot.kind.read t
      let (ds, s) ← elementsLoop slots false r
      return (d :: ds, s)

/-- Reads an array from behind its opening bracket on. -/
def readArray (slots : List Slot) : Reader (List Datum) := fun s => do
  let (ds, s) ← elementsLoop slots true s
  return (ds, ← closeArray s)

/-- Reads a record in either form. -/
def readRecord (slots : List Slot) : Reader (List Datum) :=
  readFrom fun b r =>
    if b = 0x7b then readObject slots r
    else if b = 0x5b then readArray slots r
    else .error (otherKind b r)

/-- The object of a record. -/
def writeRecord (slots : List Slot) (ds : List Datum) : Json :=
  .obj ((slots.zip ds).map fun p => (p.1.name, p.1.kind.write p.2))

/-- Records inside of records. -/
def Kind.record (slots : List Slot) : Kind where
  read s := refine (fun ds => some (.record ds)) (readRecord slots s)
  write
    | .record ds => writeRecord slots ds
    | _ => .null

/-- A type whose values are records: its slots, and the way between a value and its data. -/
structure Shape (α : Type) where
  slots : List Slot
  data : α → List Datum
  ofData? : List Datum → Option α

namespace Shape

variable {α : Type} (shape : Shape α)

/-- The JSON value of a record. -/
def toJson (a : α) : Json :=
  writeRecord shape.slots (shape.data a)

/-- The compact text of a record. -/
def encode (a : α) : Bytes :=
  (shape.toJson a).render

/-- The value that a text holds; after it nothing but blanks may stand. -/
def decode (s : Bytes) : Except Fault α := do
  let (ds, r) ← readRecord shape.slots s
  match shape.ofData? ds with
  | none => throw .mismatch
  | some a => if (skipBlanks r).isEmpty then return a else throw .malformed

end Shape
end Gatehouse.Json
