import Gatehouse.Text.Blank

/-!
The rules that a submitted form has to keep.

Every form is a list of rules read from left to right, and the first one that is broken is the one
that is reported. Lengths count code points; a field that is all blanks counts as missing.
-/

namespace Gatehouse.Form

/-- The fields that have rules. -/
inductive Field where
  | username | email | password | title | content
deriving DecidableEq, Repr

/-- The name under which a field is sent and reported. -/
def Field.name : Field → String
  | .username => "username"
  | .email => "email"
  | .password => "password"
  | .title => "title"
  | .content => "content"

/-- The largest number of characters that a field may hold. -/
def Field.limit : Field → Nat
  | .username => 100
  | .email => 255
  | .password => 72
  | .title => 100
  | .content => 5000

/-- The smallest number of characters of a new password. -/
def passwordMinimum : Nat := 3

/-- How a form can break its rules. -/
inductive Violation where
  | missing (field : Field)
  | tooLong (field : Field)
  | notAnAddress
  | passwordLength
deriving DecidableEq, Repr

/-- The sentence that reports a violation. -/
def Violation.message : Violation → String
  | .missing f => f.name ++ " is required"
  | .tooLong f => f.name ++ " must be at most " ++ toString f.limit ++ " characters"
  | .notAnAddress => "email is not a valid address"
  | .passwordLength =>
      "password must be between " ++ toString passwordMinimum ++ " and " ++
        toString Field.password.limit ++ " characters"

/-! ### The shape of an email address -/

/-- A piece of a pattern: one fixed character, or one or more plain ones. -/
inductive Piece where
  | mark (c : Char)
  | run
deriving DecidableEq, Repr

/-- The characters that a run takes: all but blanks and the at sign. -/
def isPlain (c : Char) : Bool :=
  c != '@' && !Text.isBlank c

/-- Whether the whole of a text can be cut into the pieces of a pattern. -/
def Piece.matchAll : List Piece → List Char → Bool
  | [], cs => cs.isEmpty
  | _ :: _, [] => false
  | .mark m :: ps, c :: cs => c == m && matchAll ps cs
  | .run :: ps, c :: cs => isPlain c && (matchAll ps cs || matchAll (.run :: ps) cs)

/-- Something, an at sign, something, a dot, something. -/
def addressPattern : List Piece :=
  [.run, .mark '@', .run, .mark '.', .run]

/-- Whether a text has the shape of an email address. -/
def isAddress (s : String) : Bool :=
  Piece.matchAll addressPattern s.toList

/-! ### Rules -/

/-- The violation `v`, unless the condition holds. -/
def demand (condition : Bool) (v : Violation) : Except Violation Unit :=
  if condition then .ok () else .error v

/-- A field that has to hold something other than blanks. -/
def required (f : Field) (value : String) : Except Violation Unit :=
  demand (!Text.isBlankText value) (.missing f)

/-- A field that may not exceed its limit. -/
def bounded (f : Field) (value : String) : Except Violation Unit :=
  demand (value.toList.length ≤ f.limit) (.tooLong f)

/-- The rules of an email field. -/
def email (value : String) : Except Violation Unit := do
  required .email value
  bounded .email value
  demand (isAddress value) .notAnAddress

/-- The rules for opening an account. -/
def registration (username address password : String) : Except Violation Unit := do
  required .username username
  bounded .username username
  email address
  let n := password.toList.length
  demand (passwordMinimum ≤ n && n ≤ Field.password.limit) .passwordLength

/-- The rules for asking for a token. -/
def login (address password : String) : Except Violation Unit := do
  email address
  required .password password
  bounded .password password

/-- The rules for a new post. -/
def newPost (title content : String) : Except Violation Unit := do
  required .title title
  bounded .title title
  required .content content
  bounded .content content

/-- The rules for a change to a post: what is left out is not checked, and what is there may be
blank. -/
def postPatch (title content : Option String) : Except Violation Unit := do
  if let some t := title then bounded .title t
  if let some c := content then bounded .content c

end Gatehouse.Form
