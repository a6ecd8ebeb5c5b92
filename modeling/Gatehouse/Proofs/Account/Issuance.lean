import Gatehouse.Proofs.Account.Invitation
import Gatehouse.Proofs.Job.Setting
import Gatehouse.Proofs.Time.Instant

/-!
How invitations are made, with an account or for one that exists.

The end of an invitation is found out before storage is called. So a span whose end cannot be told leaves no
trace, and every other one leads to one call, which carries a digest and never the plaintext.

* `Records`: what is stored of a plaintext.
* `Makes`: what a job does that makes an invitation, wherever it runs.
* `makes_offer`: both ways to make one are the same job, with another call.
* `invitations_exact`: so it is with both of them. `invitations_exact_last` are the last two invitations there are.
-/

namespace Gatehouse

/-- The texts that a newcomer brings along. -/
def Store.Newcomer.texts (n : Store.Newcomer) : List String := [n.username, n.email, n.passwordHash, n.role]

/-- The texts that a call of storage carries. -/
def Store.Call.texts : Store.Call → List String
  | .credentials email => [email]
  | .createAndInvite n i => n.texts ++ [i.digest]
  | .roleByName name => [name]
  | .createInvitation _ i => [i.digest]
  | .activate digest _ => [digest]
  | .createPost d => d.title :: d.content :: d.tags
  | .updatePost _ patch => patch.title.toList ++ patch.content.toList
  | .userById _ | .postById _ | .deletePost _ | .follow _ _ | .unfollow _ _ => []

namespace Invitation

variable {α β : Type}

/-! ### What is stored -/

/-- An invitation is what is stored of a plaintext: its digest, and the end of a span from an instant on, to the
nanosecond. -/
structure Records (text : String) (now : Instant) (ttl : Duration) (i : Invitation) : Prop where
  digest : i.digest = digestOf text
  expiresAt : i.expiresAt.position = now.position + ttl.nanos
  leap : i.expiresAt.InLeap ↔ now.InLeap ∧ now.nanos + ttl.nanos < 2000000000

variable {text : String} {now : Instant} {ttl : Duration} {i i' : Invitation}

/-- Nothing else is what is stored of it. -/
theorem Records.unique (one : Records text now ttl i) (two : Records text now ttl i') : i = i' := by
  obtain ⟨digest, expiresAt⟩ := i
  obtain ⟨digest', expiresAt'⟩ := i'
  have digests : digest = digest' := one.digest.trans two.digest.symm
  have ends : expiresAt = expiresAt' :=
    Instant.eq_of_position (one.expiresAt.trans two.expiresAt.symm) (one.leap.trans two.leap.symm)
  rw [digests, ends]

theorem make?_of_tellable (text : String) (told : ¬ now.Untellable ttl) :
    ∃ i, make? text now ttl = some i ∧ Records text now ttl i := by
  obtain ⟨t, ends, place, leap⟩ := Instant.after?_of_tellable told
  exact ⟨⟨digestOf text, t⟩, by rw [make?, ends]; rfl, rfl, place, leap⟩

theorem make?_of_untellable (text : String) (untold : now.Untellable ttl) : make? text now ttl = none := by
  rw [make?, Instant.after?_eq_none_iff.mpr untold]
  rfl

/-! ### Jobs that make an invitation -/

/-- A job succeeds if and as a call does, with something that it gives for the answer, and fails as the call fails. -/
structure Passes (give : β → α) (answer : Option (Except Store.Error β)) (result : Option (Except Error α)) :
    Prop where
  ok : ∀ x, result = some (.ok x) ↔ ∃ b, answer = some (.ok b) ∧ x = give b
  error : ∀ e, result = some (.error e) ↔ ∃ cause, answer = some (.error cause) ∧ e = .store cause

/-- A job makes an invitation that holds for a span, by a call. It gives something for the answer to that call. Its
plaintext may be carried only if it is among the texts that the job is given. -/
structure Makes (text : String) (ttl : Duration) (call : Invitation → Store.Call)
    (give : ∀ i, (call i).Answer → α) (own : List String) (j : Job (Except Error α)) : Prop where
  /-- Whatever storage does, the job fails for want of an end, and calls nothing, exactly if the end cannot be told. -/
  refused : ∀ s : Setting, (j.meet s).result = some (.error .ttl) ∧ j.asks s = [] ↔ (s.readings 0).Untellable ttl
  /-- Then it leaves everything as it is, with every store and whatever is to befall the calls. -/
  traceless : ∀ deadline (w : World), w.today.Untellable ttl → j.run deadline w = (some (.error .ttl), w)
  /-- Otherwise it makes exactly one call, which stores the invitation, and passes on what comes of it. -/
  once : ∀ s : Setting, ¬ (s.readings 0).Untellable ttl → ∃ i, Records text (s.readings 0) ttl i ∧
    j.asks s = [.store (call i)] ∧ Passes (give i) (s.storage 0 (call i)).answer? (j.meet s).result
  /-- So it does with every store and whatever is to befall the calls, and that one call is all it does. -/
  onceInWorld : ∀ deadline (w : World), ¬ w.today.Untellable ttl → ∃ i, Records text w.today ttl i ∧
    (j.run deadline w).2 = ((Job.store (call i)).run deadline w).2 ∧
    Passes (give i) ((Job.store (call i)).run deadline w).1 (j.run deadline w).1
  /-- No call carries the plaintext. -/
  secret : ∀ (s : Setting) c, .store c ∈ j.asks s → text ∈ c.texts → text ∈ own

/-- What is passed on of the answer to a call. -/
def passOn (give : β → α) : Except Store.Error β → Except Error α
  | .ok b => .ok (give b)
  | .error e => .error (.store e)

theorem passes_passOn (give : β → α) (answer : Option (Except Store.Error β)) :
    Passes give answer (answer.map (passOn give)) := by
  rcases answer with _ | e | b
  · exact ⟨by simp, by simp⟩
  · exact ⟨by simp [passOn], by simp [passOn, eq_comm]⟩
  · exact ⟨by simp [passOn, eq_comm], by simp [passOn]⟩

/-- How an invitation is made: the clock is read, and if the end can be told, a call stores the invitation. -/
def offer (random : Bytes) (ttl : Duration) (call : Invitation → Store.Call) (give : ∀ i, (call i).Answer → α) :
    Job (Except Error α) :=
  .wall fun now =>
    match make? (plaintext random) now ttl with
    | none => .done (.error .ttl)
    | some i => (Job.store (call i)).bind fun r => .done (passOn (give i) r)

section Offer

variable {random : Bytes} {call : Invitation → Store.Call} {give : ∀ i, (call i).Answer → α}

/-- The call that stores an invitation is the only one. -/
theorem asks_store_bind (c : Store.Call) (give : c.Answer → α) (s : Setting) :
    ((Job.store c).bind fun r => .done (passOn give r)).asks s = [.store c] := by
  simp only [Job.store, Job.bind, Job.asks]
  split <;> rfl

/-- What comes of it is passed on. -/
theorem meet_store_bind (c : Store.Call) (give : c.Answer → α) (s : Setting) :
    (((Job.store c).bind fun r => .done (passOn give r)).meet s).result =
      (s.storage 0 c).answer?.map (passOn give) := by
  have fate : s.fate (.store c) = s.storage 0 c := rfl
  simp only [Job.store, Job.bind, Job.meet, fate]
  cases s.storage 0 c with
  | answer d r => rfl
  | silence => rfl

theorem run_store_bind (deadline : Option Nat) (c : Store.Call) (give : c.Answer → α) (w : World) :
    ((Job.store c).bind fun r => .done (passOn give r)).run deadline w =
      (((Job.store c).run deadline w).1.map (passOn give), ((Job.store c).run deadline w).2) := by
  rw [Job.run_bind]
  rcases (Job.store c).run deadline w with ⟨_ | r, w'⟩ <;> rfl

/-- **A job that makes an invitation by one call** does so wherever it runs. -/
theorem makes_offer (drawn : random.length = 32) {own : List String}
    (carried : ∀ i t, t ∈ (call i).texts → t ∈ own ∨ t = i.digest) :
    Makes (plaintext random) ttl call give own (offer random ttl call give) := by
  have refused (s : Setting) (untold : (s.readings 0).Untellable ttl) :
      ((offer random ttl call give).meet s).result = some (.error .ttl) ∧
        (offer random ttl call give).asks s = [] := by
    have none := make?_of_untellable (plaintext random) untold
    constructor
    · simp only [offer, Job.meet, none]
      rfl
    · simp only [offer, Job.asks, none]
  have once (s : Setting) (told : ¬ (s.readings 0).Untellable ttl) :
      ∃ i, Records (plaintext random) (s.readings 0) ttl i ∧
        (offer random ttl call give).asks s = [.store (call i)] ∧
        Passes (give i) (s.storage 0 (call i)).answer? ((offer random ttl call give).meet s).result := by
    obtain ⟨i, made, records⟩ := make?_of_tellable (plaintext random) told
    simp only [offer, Job.meet, Job.asks, made]
    refine ⟨i, records, asks_store_bind (call i) (give i) s.seen, ?_⟩
    rw [Encounter.after, meet_store_bind]
    exact passes_passOn _ _
  refine ⟨fun s => ⟨?_, refused s⟩, ?_, once, ?_, ?_⟩
  · rintro ⟨-, idle⟩
    by_contra told
    obtain ⟨i, -, asks, -⟩ := once s told
    cases idle.symm.trans asks
  · intro deadline w untold
    simp only [offer, Job.run, make?_of_untellable _ untold]
  · intro deadline w told
    obtain ⟨i, made, records⟩ := make?_of_tellable (plaintext random) told
    simp only [offer, Job.run, made, run_store_bind]
    exact ⟨i, records, rfl, passes_passOn _ _⟩
  · intro s c asked mem
    by_cases told : (s.readings 0).Untellable ttl
    · rw [(refused s told).2] at asked
      cases asked
    · obtain ⟨i, records, asks, -⟩ := once s told
      rw [asks, List.mem_singleton] at asked
      obtain rfl := Effect.store.inj asked
      rcases carried i _ mem with mem | same
      · exact mem
      · exact absurd (records.digest.symm.trans same.symm) (digestOf_ne_plaintext drawn)

/-- What makes a job an offer: it fails if there is no invitation, and otherwise goes on from one call as that call
comes out. -/
theorem eq_offer {j : Instant → Job (Except Error α)}
    {k : ∀ i, Except Store.Error (call i).Answer → Job (Except Error α)}
    (fails : ∀ now, make? (plaintext random) now ttl = none → j now = .done (.error .ttl))
    (calls : ∀ now i, make? (plaintext random) now ttl = some i → j now = .call (.store (call i)) none (k i))
    (ok : ∀ i a, k i (.ok a) = .done (.ok (give i a)))
    (error : ∀ i e, k i (.error e) = .done (.error (.store e))) :
    Job.wall j = offer random ttl call give := by
  unfold offer
  congr 1
  funext now
  cases made : make? (plaintext random) now ttl with
  | none => exact fails now made
  | some i =>
    rw [calls now i made]
    refine congrArg _ (funext fun r => ?_)
    cases r with
    | ok a => exact ok i a
    | error e => exact error i e

end Offer

/-- A registration makes an invitation with the call that opens the account. -/
theorem register_eq_offer (random : Bytes) (n : Store.Newcomer) (ttl : Duration) :
    register random n ttl = offer random ttl (.createAndInvite n) fun _ u => (u, plaintext random) :=
  eq_offer (fun now none => by rw [none]) (fun now i some => by rw [some]) (fun _ _ => rfl) fun _ _ => rfl

/-- An invitation for an account that exists is made with a call of its own. -/
theorem issue_eq_offer (random : Bytes) (id : Int64) (ttl : Duration) :
    issue random id ttl = offer random ttl (.createInvitation id) fun _ _ => plaintext random :=
  eq_offer (fun now none => by rw [none]) (fun now i some => by rw [some]) (fun _ _ => rfl) fun _ _ => rfl

/-! ### Registrations, and further invitations -/

/-- **Invitations are exact**, whatever span they are to hold for. A plaintext has 43 characters that can stand in an
address, and its digest 64 hexadecimal ones. A registration, and a further invitation, fail without a trace exactly if
the end of the span cannot be told; otherwise they store a digest with that end by one call, and give the plaintext
if and only if it succeeds. -/
theorem invitations_exact {random : Bytes} (drawn : random.length = 32) (ttl : Duration) :
    let text := plaintext random
    (text.toList.length = 43 ∧ ∀ c ∈ text.toList, c.isAlphanum = true ∨ c = '-' ∨ c = '_') ∧
    (digestOf text = Text.Hex.encode (Digest.Sha256.hash (Bytes.utf8 text)) ∧
      (digestOf text).toList.length = 64 ∧ ∀ c ∈ (digestOf text).toList, c ∈ "0123456789abcdef".toList) ∧
    (∀ n : Store.Newcomer,
      Makes text ttl (.createAndInvite n) (fun _ u => (u, text)) n.texts (register random n ttl)) ∧
    ∀ id : Int64, Makes text ttl (.createInvitation id) (fun _ _ => text) [] (issue random id ttl) := by
  intro text
  refine ⟨⟨length_plaintext drawn, fun c => mem_plaintext⟩,
    ⟨rfl, length_digestOf text, fun c => mem_digestOf⟩, fun n => ?_, fun id => ?_⟩
  · rw [register_eq_offer]
    refine makes_offer drawn fun i t mem => ?_
    rcases List.mem_append.mp mem with mem | mem
    · exact .inl mem
    · exact .inr (List.mem_singleton.mp mem)
  · rw [issue_eq_offer]
    refine makes_offer drawn fun i t mem => ?_
    exact .inr (List.mem_singleton.mp mem)

/-- One nanosecond before the last one that can be told, an invitation for one nanosecond is stored, and one for two
nanoseconds is not. -/
theorem invitations_exact_last :
    let random : Bytes := List.replicate 32 7
    let now : Instant := ⟨Instant.maxSecs, 999999998, by decide, by decide, by decide, by decide⟩
    let last : Instant := ⟨Instant.maxSecs, 999999999, by decide, by decide, by decide, by decide⟩
    let s : Setting := { (default : Setting) with readings := fun _ => now }
    random.length = 32 ∧
      (issue random 5 ⟨1⟩).asks s = [.store (.createInvitation 5 ⟨digestOf (plaintext random), last⟩)] ∧
      (issue random 5 ⟨2⟩).asks s = [] ∧ ((issue random 5 ⟨2⟩).meet s).result = some (.error .ttl) := by
  intro random now last s
  have drawn : random.length = 32 := List.length_replicate
  have told : ¬ now.Untellable ⟨1⟩ := by decide
  have untold : now.Untellable ⟨2⟩ := by decide
  obtain ⟨-, -, -, one⟩ := invitations_exact drawn ⟨1⟩
  obtain ⟨-, -, -, two⟩ := invitations_exact drawn ⟨2⟩
  obtain ⟨i, records, asks, -⟩ := (one 5).once s told
  obtain ⟨result, idle⟩ := ((two 5).refused s).mpr untold
  have whole : Records (plaintext random) now ⟨1⟩ ⟨digestOf (plaintext random), last⟩ :=
    ⟨rfl, by decide, by decide⟩
  rw [records.unique whole] at asks
  exact ⟨drawn, asks, idle, result⟩

end Invitation

end Gatehouse
