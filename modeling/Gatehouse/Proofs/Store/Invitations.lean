import Mathlib.Data.List.Induction
import Gatehouse.Proofs.Log
import Gatehouse.Proofs.Store.Deeds

/-!
Invitations over runs of a store.

* `LastStored`: which invitation was the last one stored under a digest and has not been used since,
  read off a record of deeds.
* `carryOut_mark`: what one deed does to the invitations, as its record tells.
* `run_agrees`: the invitations of a store are exactly those that the record of its run tells.
* `invitations_used_once`: what an activation after any run does.
-/

namespace Gatehouse.Store

/-! ### What a record tells about invitations -/

/-- What a record tells: an invitation was stored under a digest, the one under a digest was used, or
neither. -/
inductive Mark where
  | stores (digest : String) (p : Pending)
  | uses (digest : String)
  | neither
deriving DecidableEq

/-- What is told by a record. An invitation is used by an activation that succeeds. -/
def Record.mark : Record → Mark
  | ⟨_, .call (.createAndInvite _ i), .ok u⟩ => .stores i.digest ⟨u.id, i.expiresAt⟩
  | ⟨_, .call (.createInvitation userId i), .ok _⟩ => .stores i.digest ⟨userId, i.expiresAt⟩
  | ⟨_, .call (.activate digest _), .ok _⟩ => .uses digest
  | _ => .neither

/-- Whether an invitation was stored under a digest. -/
def Mark.isStore (d : String) : Mark → Bool
  | .stores d' _ => d' = d
  | _ => false

/-- Whether the invitation under a digest was used. -/
def Mark.isUse (d : String) : Mark → Bool
  | .uses d' => d' = d
  | _ => false

section Marks

variable (d d' : String) (p : Pending)

@[simp] theorem Mark.isStore_stores : (stores d' p).isStore d = decide (d' = d) := rfl
@[simp] theorem Mark.isStore_uses : (uses d').isStore d = false := rfl
@[simp] theorem Mark.isStore_neither : neither.isStore d = false := rfl
@[simp] theorem Mark.isUse_stores : (stores d' p).isUse d = false := rfl
@[simp] theorem Mark.isUse_uses : (uses d').isUse d = decide (d' = d) := rfl
@[simp] theorem Mark.isUse_neither : neither.isUse d = false := rfl

end Marks

/-- The last invitation that was stored under a digest, if it has not been used since. -/
def LastStored (log : List Record) (d : String) (p : Pending) : Prop :=
  ∃ earlier r later, log = earlier ++ r :: later ∧ r.mark = .stores d p ∧
    ∀ r' ∈ later, r'.mark.isStore d = false ∧ r'.mark.isUse d = false

theorem not_lastStored_nil (d : String) (p : Pending) : ¬ LastStored [] d p := by
  rintro ⟨earlier, r, later, same, -⟩
  cases earlier <;> cases same

/-- **One more record** tells a new invitation, or else leaves the ones it does not concern. -/
theorem lastStored_concat {log : List Record} {r : Record} {d : String} {p : Pending} :
    LastStored (log ++ [r]) d p ↔
      r.mark = .stores d p ∨
        r.mark.isStore d = false ∧ r.mark.isUse d = false ∧ LastStored log d p := by
  constructor
  · rintro ⟨earlier, s, later, same, stored, since⟩
    rcases Log.eq_concat_iff.mp same.symm with ⟨rfl, rfl, rfl⟩ | ⟨later, rfl, rfl⟩
    · exact .inl stored
    · obtain ⟨store, use⟩ := since r (by simp)
      exact .inr ⟨store, use, earlier, s, later, rfl, stored,
        fun r' mem => since r' (List.mem_append_left _ mem)⟩
  · rintro (stored | ⟨store, use, earlier, s, later, rfl, stored, since⟩)
    · exact ⟨log, r, [], rfl, stored, by simp⟩
    · refine ⟨earlier, s, later ++ [r], by simp, stored, fun r' mem => ?_⟩
      rcases List.mem_append.mp mem with mem | mem
      · exact since r' mem
      · obtain rfl := List.mem_singleton.mp mem
        exact ⟨store, use⟩

/-! ### One deed -/

namespace Memory

variable (m : Memory) (now : Instant)

/-- What a deed does to the invitations, by what its record tells. -/
def Marks (m' : Memory) : Mark → Prop
  | .stores d p => m'.invitations = m.invitations.insert d p ∧
      ∃ c, m'.accounts.find? p.userId = some c
  | .uses d => m'.invitations = m.invitations.erase d ∧ ∃ p, m.invitations.find? d = some p
  | .neither => m'.invitations = m.invitations

/-- **What one deed does to the invitations** is what its record tells. -/
theorem carryOut_mark (d : Deed) :
    m.Marks (m.carryOut now d).2 (Record.mark ⟨now, d, (m.carryOut now d).1⟩) := by
  cases d with
  | insertUser k username role passwordHash isActive =>
    show (m.insertUser ..).2.invitations = _
    unfold insertUser
    split <;> rfl
  | insertPost k userId title => rfl
  | call c =>
    by_cases enrols : c.Enrols
    · show m.Marks (m.perform now c).2 (Record.mark ⟨now, .call c, (m.perform now c).1⟩)
      rcases result : m.perform now c with ⟨e | b, m'⟩
      · have same := m.perform_error now (c := c) (congrArg Prod.fst result)
        rw [result] at same
        cases c <;> first | exact enrols.elim | exact congrArg invitations same
      cases c with
      | createAndInvite n i =>
        obtain ⟨-, -, role, -, rfl, rfl⟩ := createAndInvite_eq_ok.mp result
        exact ⟨rfl, _, Table.find?_insert_self ..⟩
      | createInvitation userId i =>
        obtain ⟨known, rfl⟩ := createInvitation_eq_ok.mp result
        exact ⟨rfl, known⟩
      | activate digest today =>
        obtain ⟨p, c, stored, -, -, -, rfl⟩ := activate_eq_ok.mp result
        exact ⟨rfl, p, stored⟩
      | _ => exact enrols.elim
    · have same := (m.perform_sameAccounts now enrols).invitations
      cases c <;> first | exact absurd trivial enrols | exact same

/-! ### Runs -/

/-- The invitations of a store are those of a record, each of an account that there is, and none was
used more often than it was stored. -/
structure Agrees (log : List Record) : Prop where
  pending : ∀ d p, m.invitations.find? d = some p ↔ LastStored log d p
  account : ∀ d p, m.invitations.find? d = some p → ∃ c, m.accounts.find? p.userId = some c
  balance : ∀ d, log.countP (·.mark.isUse d) + (m.invitations.find? d).toList.length ≤
    log.countP (·.mark.isStore d)

variable {m} {log : List Record}

theorem Agrees.of_marks (agrees : m.Agrees log) {m' : Memory} {r : Record} (marks : m.Marks m' r.mark)
    (kept : ∀ {id c}, m.accounts.find? id = some c → ∃ c', m'.accounts.find? id = some c') :
    m'.Agrees (log ++ [r]) := by
  cases mark : r.mark with
  | stores d₀ p₀ =>
    obtain ⟨invitations, known⟩ : m.Marks m' (.stores d₀ p₀) := mark ▸ marks
    refine ⟨fun d p => ?_, fun d p found => ?_, fun d => ?_⟩
    · rw [lastStored_concat, mark, invitations, Table.find?_insert, ← agrees.pending]
      by_cases same : d₀ = d <;> simp [same]
    · rw [invitations, Table.find?_insert] at found
      split at found
      · exact Option.some.inj found ▸ known
      · exact (agrees.account d p found).elim fun _ stood => kept stood
    · have balance := agrees.balance d
      rw [invitations, Table.find?_insert]
      by_cases same : d₀ = d <;> simp [mark, same] <;> omega
  | uses d₀ =>
    obtain ⟨invitations, p₀, stored⟩ : m.Marks m' (.uses d₀) := mark ▸ marks
    refine ⟨fun d p => ?_, fun d p found => ?_, fun d => ?_⟩
    · rw [lastStored_concat, mark, invitations, Table.find?_erase, ← agrees.pending]
      by_cases same : d₀ = d <;> simp [same]
    · rw [invitations, Table.find?_erase] at found
      split at found
      · cases found
      · exact (agrees.account d p found).elim fun _ stood => kept stood
    · have balance := agrees.balance d
      rw [invitations, Table.find?_erase]
      by_cases same : d₀ = d
      · subst same
        rw [stored] at balance
        simpa [mark] using balance
      · simpa [mark, same] using balance
  | neither =>
    have invitations : m.Marks m' .neither := mark ▸ marks
    rw [Marks] at invitations
    refine ⟨fun d p => ?_, fun d p found => ?_, fun d => ?_⟩
    · rw [lastStored_concat, mark, invitations, ← agrees.pending]
      simp
    · rw [invitations] at found
      exact (agrees.account d p found).elim fun _ stood => kept stood
    · rw [invitations]
      simpa [mark] using agrees.balance d

/-- **The invitations of a store are exactly those that the record of its run tells**, if it began
without any. -/
theorem run_agrees (fresh : m.invitations = .empty) (script : List (Instant × Deed)) :
    (m.run script).2.Agrees (m.run script).1 := by
  induction script using List.reverseRecOn with
  | nil =>
    have none (d : String) : m.invitations.find? d = none := fresh ▸ Table.find?_empty d
    refine ⟨fun d p => ?_, fun d p found => ?_, fun d => ?_⟩
    · exact iff_of_false (by simp [run, none d]) (not_lastStored_nil d p)
    · cases (none d).symm.trans found
    · show 0 + (m.invitations.find? d).toList.length ≤ 0
      rw [none d]
      exact Nat.le_refl 0
  | append_singleton script x ih =>
    rw [run_concat]
    exact ih.of_marks (carryOut_mark _ x.1 x.2) (carryOut_accounts _ x.1 x.2)

/-! ### Activations -/

/-- **Invitations are used once.** After any run of a store that began without invitations, at whatever
instants its deeds were carried out, an activation succeeds exactly if the invitation that was last
stored under the digest has not been used since and ends after the present instant. It activates the
account that this invitation was stored for, and nothing else but the invitation changes. An activation
that is refused changes nothing at all. No invitation has been used more often than it was stored. -/
theorem invitations_used_once (m₀ : Memory) (fresh : m₀.invitations = .empty)
    (script : List (Instant × Deed)) (d : String) (now : Instant) :
    let (log, m) := m₀.run script
    (∀ id, (m.activate d now).1 = .ok id ↔
      ∃ p, LastStored log d p ∧ now.before p.expiresAt = true ∧ id = p.userId) ∧
    (∀ id m', m.activate d now = (.ok id, m') →
      (∃ c, m.accounts.find? id = some c ∧ m'.accounts.find? id = some (activated c)) ∧
      (∀ k, k ≠ id → m'.accounts.find? k = m.accounts.find? k) ∧
      m' = { m with accounts := m'.accounts, invitations := m.invitations.erase d }) ∧
    (∀ e m', m.activate d now = (.error e, m') → e = .notFound ∧ m' = m) ∧
    log.countP (·.mark.isUse d) ≤ log.countP (·.mark.isStore d) := by
  have agrees := run_agrees fresh script
  generalize m₀.run script = s at agrees ⊢
  obtain ⟨log, m⟩ := s
  refine ⟨fun id => ?_, fun id m' activates => ?_, fun e m' refused => ?_, ?_⟩
  · constructor
    · intro activates
      obtain ⟨p, c, stored, holds, -, same, -⟩ := activate_eq_ok.mp (Prod.ext activates rfl)
      exact ⟨p, (agrees.pending d p).mp stored, holds, same⟩
    · rintro ⟨p, last, holds, rfl⟩
      have stored := (agrees.pending d p).mpr last
      obtain ⟨c, known⟩ := agrees.account d p stored
      exact congrArg Prod.fst (activate_eq_ok.mpr ⟨p, c, stored, holds, known, rfl, rfl⟩)
  · obtain ⟨p, c, -, -, known, rfl, rfl⟩ := activate_eq_ok.mp activates
    refine ⟨⟨c, known, (Table.find?_insert ..).trans (if_pos rfl)⟩, fun k other => ?_, rfl⟩
    exact (Table.find?_insert ..).trans (if_neg other.symm)
  · have found := activate_refused (congrArg Prod.fst refused)
    rw [refused] at found
    exact found
  · exact Nat.le_of_add_right_le (agrees.balance d)

/-- An invitation that came too late at its end can still be used at an earlier instant. -/
theorem invitations_used_once_late :
    let ends : Instant := ⟨60, 0, by decide, by decide, by decide, by decide⟩
    let script : List (Instant × Deed) :=
      [(.epoch, .call (.createAndInvite ⟨"a", "a@b.c", "", "user"⟩ ⟨"d", ends⟩)),
       (ends, .call (.activate "d" ends))]
    seeded.invitations = .empty ∧ ((seeded.run script).2.activate "d" .epoch).1 = .ok 1 := by
  intro ends script
  have last : LastStored (seeded.run script).1 "d" ⟨1, ends⟩ := by
    refine ⟨[], _, [_], rfl, rfl, fun r mem => ?_⟩
    obtain rfl := List.mem_singleton.mp mem
    exact ⟨rfl, rfl⟩
  exact ⟨rfl, ((invitations_used_once seeded rfl script "d" .epoch).1 1).mpr
    ⟨_, last, by decide, rfl⟩⟩

end Memory

end Gatehouse.Store
