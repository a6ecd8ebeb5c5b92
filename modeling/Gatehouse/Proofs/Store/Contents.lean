import Gatehouse.Proofs.Form
import Gatehouse.Proofs.Store.Recall
import Gatehouse.Proofs.Table

/-!
What the posts say that a store in memory holds.

* `Tells.written`: where a post comes from that is stored after a store has told something: it stood there
  before, or it has just been created, or changed.
* `PostsFit`: no text of a stored post is too long, and those that are blank are excused.
* `PostsFit.told`: that is kept if drafts and patches keep their rules and what patches put is excused.
-/

namespace Gatehouse.Store.Memory

open Post (Part)

variable {m m' : Memory} {x : Event} {id : Int64} {p : Post}

/-! ### Where posts come from -/

/-- How a post that is stored now has come there when a store has told something. -/
inductive Written (m : Memory) (x : Event) (id : Int64) (p : Post) : Prop where
  /-- It stood there before. -/
  | stood (before : m.posts.find? id = some p)
  /-- It has been created, and says what its draft says. -/
  | created (d : Post.Draft) (told : x = .answered (.store (.createPost d)) (.ok p))
    (same : ∀ part, p.text part = d.text part)
  /-- It has been changed, and says what the patch puts in the place of what it has said. -/
  | changed (patch : Post.Patch) (q : Post) (now : Instant)
    (told : x = .answered (.store (.updatePost id patch)) (.ok p)) (before : m.posts.find? id = some q)
    (same : p = q.amend patch now)

theorem createPost_written (now : Instant) (d : Post.Draft)
    (found : (m.createPost now d).2.posts.find? id = some p) :
    m.Written (.answered (.store (.createPost d)) (m.createPost now d).1) id p := by
  rcases Table.find?_insert_eq_some found with ⟨-, rfl⟩ | ⟨-, before⟩
  · refine .created d rfl fun part => ?_
    cases part <;> rfl
  · exact .stood before

theorem updatePost_written (now : Instant) (k : Int64) (patch : Post.Patch)
    (found : (m.updatePost now k patch).2.posts.find? id = some p) :
    m.Written (.answered (.store (.updatePost k patch)) (m.updatePost now k patch).1) id p := by
  unfold updatePost at found ⊢
  cases stands : m.posts.find? k with
  | none =>
    rw [stands] at found
    exact .stood found
  | some q =>
    rw [stands] at found
    rcases Table.find?_insert_eq_some found with ⟨rfl, rfl⟩ | ⟨-, before⟩
    · exact .changed patch q now rfl stands rfl
    · exact .stood before

theorem deletePost_stood (k : Int64) (found : (m.deletePost k).2.posts.find? id = some p) :
    m.posts.find? id = some p := by
  unfold deletePost at found
  split at found
  · exact Table.find?_erase_eq_some found
  · exact found

/-- **A stored post stood there before, or has just been created, or changed.** -/
theorem Tells.written (tells : m.Tells x m') (found : m'.posts.find? id = some p) : m.Written x id p := by
  cases tells with
  | performed now c =>
    by_cases posts : c.Posts
    · cases c with
      | createPost d => exact createPost_written now d found
      | updatePost k patch => exact updatePost_written now k patch found
      | deletePost k => exact .stood (deletePost_stood k found)
      | _ => exact posts.elim
    · rw [(m.perform_samePosts now posts).posts] at found
      exact .stood found
  | _ => exact .stood found

/-! ### What posts say -/

/-- No text of a stored post is too long, and none is blank but those that are excused, in the part of the
post under an id. -/
def PostsFit (m : Memory) (excused : Int64 → Part → String → Prop) : Prop :=
  ∀ id p, m.posts.find? id = some p → ∀ part, Form.bounded part.field (p.text part) = .ok () ∧
    (Text.isBlankText (p.text part) = false ∨ excused id part (p.text part))

variable {excused excused' : Int64 → Part → String → Prop}

theorem postsFit_of_absent (absent : ∀ id, m.posts.find? id = none) : m.PostsFit excused := by
  intro id p found
  rw [absent] at found
  cases found

theorem PostsFit.mono (fit : m.PostsFit excused) (sub : ∀ id part text, excused id part text → excused' id part text) :
    m.PostsFit excused' := by
  intro id p found part
  obtain ⟨short, filled⟩ := fit id p found part
  exact ⟨short, filled.imp_right (sub id part _)⟩

/-- **A stored post is valid exactly if it says nothing blank** that is excused. -/
theorem PostsFit.valid_iff (fit : m.PostsFit excused) (found : m.posts.find? id = some p) :
    Form.newPost p.title p.content = .ok () ↔
      ¬ ∃ part, excused id part (p.text part) ∧ Text.isBlankText (p.text part) = true := by
  refine (Form.newPost_eq_ok_iff p.text).trans ⟨?_, ?_⟩
  · rintro valid ⟨part, -, blank⟩
    rw [(valid part).filled] at blank
    cases blank
  · intro unblanked part
    obtain ⟨short, filled | excused⟩ := fit id p found part
    · exact ⟨filled, short⟩
    · exact ⟨Bool.eq_false_iff.mpr fun blank => unblanked ⟨part, excused, blank⟩, short⟩

/-- **What stored posts say stays fit** if every draft keeps the rules for new posts, every patch those
for changes, and what patches put is excused. -/
theorem PostsFit.told (fit : m.PostsFit excused) (tells : m.Tells x m')
    (drafts : ∀ d p, x = .answered (.store (.createPost d)) (.ok p) → Form.newPost d.title d.content = .ok ())
    (patches : ∀ id patch p, x = .answered (.store (.updatePost id patch)) (.ok p) →
      Form.postPatch patch.title patch.content = .ok () ∧
        ∀ part text, patch.text? part = some text → excused id part text) : m'.PostsFit excused := by
  intro id p found part
  cases tells.written found with
  | stood before => exact fit id p before part
  | created d told same =>
    have fits : Form.Fit part (d.text part) := (Form.newPost_eq_ok_iff d.text).mp (drafts d p told) part
    rw [same]
    exact ⟨fits.short, .inl fits.filled⟩
  | changed patch q now told before same =>
    obtain ⟨kept, put⟩ := patches id patch p told
    rw [same, Post.text_amend]
    cases new : patch.text? part with
    | none => exact fit id q before part
    | some text => exact ⟨Form.postPatch_eq_ok_iff.mp kept part text new, .inr (put part text new)⟩

end Gatehouse.Store.Memory
