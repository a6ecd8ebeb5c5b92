import Gatehouse.Form
import Gatehouse.Post

/-!
What it means that a form keeps its rules.

* `login_eq_of_registration`: what an account is opened with, a token can be asked for with, unless its
  password is blank.
* `Post.Part`: the two texts of a post. A draft, a patch and a post are read part by part.
* `newPost_eq_ok_iff`, `postPatch_eq_ok_iff`: what the rules for a new post and those for a change to one
  say of each part. The rules for a change do not ask whether anything is left in it.
-/

namespace Gatehouse

/-! ### Rules -/

namespace Form

theorem demand_eq_ok_iff {condition : Bool} {v : Violation} :
    demand condition v = .ok () ↔ condition = true := by
  cases condition <;> simp [demand]

/-- Rules that are read one after the other are all kept. -/
theorem bind_eq_ok_iff {x y : Except Violation Unit} : (do x; y) = .ok () ↔ x = .ok () ∧ y = .ok () := by
  constructor
  · intro kept
    cases x with
    | ok _ => exact ⟨rfl, kept⟩
    | error v => cases kept
  · rintro ⟨rfl, kept⟩
    exact kept

theorem required_eq_ok_iff {f : Field} {value : String} :
    required f value = .ok () ↔ Text.isBlankText value = false := by
  rw [required, demand_eq_ok_iff, Bool.not_eq_true']

/-- **Of what an account is opened with, the rules for a login ask one thing more**: that the password is not
blank. -/
theorem login_eq_of_registration {username address password : String}
    (kept : registration username address password = .ok ()) :
    login address password = required .password password := by
  obtain ⟨-, kept⟩ := bind_eq_ok_iff.mp kept
  obtain ⟨-, kept⟩ := bind_eq_ok_iff.mp kept
  obtain ⟨address, length⟩ := bind_eq_ok_iff.mp kept
  have short := (Bool.and_eq_true_iff.mp (demand_eq_ok_iff.mp length)).2
  rw [login, address, bounded, short]
  show (do required .password password; .ok ()) = _
  cases required .password password <;> rfl

/-- What an account is opened with, a token can be asked for with, unless the password is blank. -/
theorem login_of_registration {username address password : String}
    (kept : registration username address password = .ok ())
    (notBlank : Text.isBlankText password = false) : login address password = .ok () :=
  (login_eq_of_registration kept).trans (required_eq_ok_iff.mpr notBlank)

end Form

/-! ### The parts of a post -/

namespace Post

/-- The two texts of a post. -/
inductive Part where
  | title | content
deriving DecidableEq

/-- The field under which a part is sent. -/
def Part.field : Part → Form.Field
  | .title => .title
  | .content => .content

/-- What a post says in a part. -/
def text (p : Post) : Part → String
  | .title => p.title
  | .content => p.content

/-- What a draft says in a part. -/
def Draft.text (d : Draft) : Part → String
  | .title => d.title
  | .content => d.content

/-- What a patch puts in the place of a part, if it changes that part. -/
def Patch.text? (c : Patch) : Part → Option String
  | .title => c.title
  | .content => c.content

/-- After a change, every part says what the change puts there, or else what it has said before. -/
theorem text_amend (p : Post) (patch : Patch) (now : Instant) (part : Part) :
    (p.amend patch now).text part = (patch.text? part).getD (p.text part) := by
  cases part <;> rfl

end Post

namespace Form

open Post (Part)

/-- A text has something to say, and not too much, in a part of a post. -/
structure Fit (part : Part) (text : String) : Prop where
  filled : Text.isBlankText text = false
  short : bounded part.field text = .ok ()

theorem fit_iff {part : Part} {text : String} :
    Fit part text ↔ required part.field text = .ok () ∧ bounded part.field text = .ok () := by
  rw [required_eq_ok_iff]
  constructor
  · rintro ⟨filled, short⟩
    exact ⟨filled, short⟩
  · rintro ⟨filled, short⟩
    exact ⟨filled, short⟩

/-- **The rules for a new post** say the same of all that it says. -/
theorem newPost_eq_ok_iff (text : Part → String) :
    newPost (text .title) (text .content) = .ok () ↔ ∀ part, Fit part (text part) := by
  have rules : newPost (text .title) (text .content) = .ok () ↔
      Fit .title (text .title) ∧ Fit .content (text .content) := by
    rw [newPost, bind_eq_ok_iff, bind_eq_ok_iff, bind_eq_ok_iff, fit_iff, fit_iff, and_assoc]
    rfl
  refine rules.trans ⟨?_, fun fit => ⟨fit .title, fit .content⟩⟩
  rintro ⟨title, content⟩ part
  cases part with
  | title => exact title
  | content => exact content

/-- **The rules for a change to a post** bound what is put in the place of a part. -/
theorem postPatch_eq_ok_iff {patch : Post.Patch} :
    postPatch patch.title patch.content = .ok () ↔
      ∀ part text, patch.text? part = some text → bounded part.field text = .ok () := by
  obtain ⟨title, content⟩ := patch
  have rules : postPatch title content = .ok () ↔
      (∀ text, title = some text → bounded .title text = .ok ()) ∧
        ∀ text, content = some text → bounded .content text = .ok () := by
    cases title <;> cases content <;> simp [postPatch, bind_eq_ok_iff, pure, Except.pure]
  refine rules.trans ⟨?_, fun each => ⟨each .title, each .content⟩⟩
  rintro ⟨inTitle, inContent⟩ part
  cases part with
  | title => exact inTitle
  | content => exact inContent

end Form

end Gatehouse
