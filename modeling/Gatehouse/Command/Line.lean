import Gatehouse.Command.Key
import Gatehouse.Table

/-!
Reading the command line and the environment.

Words are read from left to right. An option that stands apart from its value waits for the next
word, and it is settled, with its value or without, only when the next option comes or the line ends;
an unknown word is reported before that. What the line does not set, the environment may set. What is
still missing then is reported last.
-/

namespace Gatehouse.Command

/-- Why the command line is not accepted, or what it asks for instead. -/
inductive Fault where
  | help
  | version
  | unknown (word : String)
  | surplus (key : Key) (value : String)
  | noValue (key : Key)
  | repeated (key : Key)
  | value (key : Key) (text : String) (fault : ValueFault)
  | missing (keys : List Key)
deriving DecidableEq, Repr

/-- The values of options. -/
abbrev Matches := Table Key Value

/-- What has been read of a line: the values so far, and the option that is not yet settled, with the
word that followed it. -/
structure Scan where
  found : Matches
  pending : Option (Key × Option String)

namespace Scan

/-- A line of which nothing has been read. -/
def start : Scan := ⟨.empty, none⟩

/-- Gives an option the value that a text stands for. -/
def store (m : Matches) (k : Key) (text : String) : Except Fault Matches :=
  match k.read text with
  | .ok v => .ok (m.insert k v)
  | .error f => .error (.value k text f)

/-- The verbosity so far. -/
def verbosity (m : Matches) : Nat :=
  match m.find? .verbosity with
  | some (.level n) => n
  | _ => 0

/-- Takes an option with the value that came with it. -/
def accept (m : Matches) (k : Key) (text : Option String) : Except Fault Matches :=
  match k.kind with
  | .help => .error .help
  | .version => .error .version
  | .counter => store m k (text.getD (toString (verbosity m + 1)))
  | .switch => if m.contains k then .error (.repeated k) else store m k (text.getD "true")
  | .text | .number _ =>
    match text with
    | none => .error (.noValue k)
    | some t => if m.contains k then .error (.repeated k) else store m k t

/-- Settles the option that is not yet settled. -/
def settle (s : Scan) : Except Fault Matches :=
  match s.pending with
  | none => .ok s.found
  | some (k, text) => accept s.found k text

/-- Settles what is pending and takes the next option. -/
def take (s : Scan) (k : Key) (text : Option String) : Except Fault Scan := do
  let m ← accept (← s.settle) k text
  return ⟨m, none⟩

/-- Settles what is pending and lets an option wait for its value. -/
def await (s : Scan) (k : Key) : Except Fault Scan := do
  return ⟨← s.settle, some (k, none)⟩

/-- Reads a long option from behind its minus signs. -/
def long (s : Scan) (cs : List Char) : Except Fault Scan :=
  let name := String.ofList (cs.takeWhile (· != '='))
  let attached := match cs.dropWhile (· != '=') with
    | _ :: v => some (String.ofList v)
    | [] => none
  match Key.ofLong? name with
  | none => .error (.unknown ("--" ++ name))
  | some k =>
    match k.takesValue, attached with
    | true, some v => s.take k (some v)
    | true, none => s.await k
    | false, some v => .error (.surplus k v)
    | false, none => s.take k none

/-- Reads short options from behind their minus sign. What follows one that takes a value is that
value, with an equals sign in front or without. -/
def short (s : Scan) : List Char → Except Fault Scan
  | [] => .ok s
  | c :: r =>
    match Key.ofShort? c with
    | none => .error (.unknown (String.ofList ['-', c]))
    | some k =>
      if k.takesValue then
        match r with
        | [] => s.await k
        | '=' :: v => s.take k (some (String.ofList v))
        | v => s.take k (some (String.ofList v))
      else do
        let s ← s.take k none
        short s r

/-- Reads a word that is no option: the value that is waited for, and else nothing known. -/
def word (s : Scan) (w : String) : Except Fault Scan :=
  match s.pending with
  | some (k, none) => .ok { s with pending := some (k, some w) }
  | _ => .error (.unknown w)

/-- Reads one word. -/
def step (s : Scan) (w : String) : Except Fault Scan :=
  match w.toList with
  | '-' :: '-' :: cs => s.long cs
  | '-' :: c :: cs => s.short (c :: cs)
  | _ => s.word w

/-- Reads all words. Two minus signs by themselves end the options, and nothing is known behind
them. -/
def line (s : Scan) : List String → Except Fault Matches
  | [] => s.settle
  | "--" :: ws =>
    match ws with
    | [] => s.settle
    | w :: _ => .error (.unknown w)
  | w :: ws => do
    let s ← s.step w
    line s ws

end Scan

/-- Sets what the line has not set from the environment, in the order of the options. -/
def fillFrom (env : String → Option String) : List Key → Matches → Except Fault Matches
  | [], m => .ok m
  | k :: ks, m =>
    match (if m.contains k then none else k.envName?.bind env) with
    | none => fillFrom env ks m
    | some text => do fillFrom env ks (← Scan.accept m k (some text))

/-- The required options without a value. -/
def missingFrom (m : Matches) : List Key :=
  Key.all.filter fun k => k.isRequired && !m.contains k

/-- The values that a command line and an environment give to the options. -/
def parse (env : String → Option String) (words : List String) : Except Fault Matches := do
  let m ← fillFrom env Key.all (← Scan.start.line words)
  let missing := missingFrom m
  if missing.isEmpty then return m else throw (.missing missing)

end Gatehouse.Command
