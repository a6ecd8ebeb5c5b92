import Mathlib.Data.List.Induction
import Gatehouse.Proofs.Log
import Gatehouse.Proofs.Service.AccountFlow

/-!
Who is active, and who gets tokens.

* `Earned`: a log shows that an account was opened and later activated by its own invitation.
* `Owes`: the accounts and invitations of a store are those that the registrations of a log have
  opened, and every active one is earned.
* `tokens_earned`: in every conversation that begins without accounts, tokens are issued for earned
  accounts alone, and to those who know their passwords.
-/

namespace Gatehouse

/-- The first 2 ^ 64 numbers from one on differ in 64 bits. -/
theorem Int64.ofNat_add_one_injective {i j : Nat} (hi : i < 2 ^ 64) (hj : j < 2 ^ 64)
    (same : Int64.ofNat (i + 1) = Int64.ofNat (j + 1)) : i = j := by
  have words := congrArg (fun n : Int64 => n.toBitVec.toNat) same
  simp at words
  omega

namespace Service

open Http (Request Response)
open Store (Memory activated)

variable {s : Service} {log : List Exchange} {m m' : Memory} {os : List Opening}

/-! ### What a store owes to a log -/

/-- A log shows an account being opened, and activated later by an invitation that had been issued for
its id. This is its own invitation, unless all ids have been given out and are given out again. -/
def Earned (s : Service) (log : List Exchange) (o : Opening) : Prop :=
  ∃ x y o', [x, y].Sublist log ∧ x.Opens s o ∧ y.Activates o'.invitation ∧
    (∃ x', [x', y].Sublist log ∧ x'.Opens s o') ∧ o'.user.id = o.user.id ∧
    (log.countP (·.isOpening) ≤ 2 ^ 64 → o' = o)

theorem Earned.concat {o : Opening} (earned : Earned s log o) (x : Exchange) :
    Earned s (log ++ [x]) o := by
  obtain ⟨y, z, o', order, opens, activates, ⟨y', order', opens'⟩, id, own⟩ := earned
  have longer := List.sublist_append_left log [x]
  exact ⟨y, z, o', order.trans longer, opens, activates, ⟨y', order'.trans longer, opens'⟩, id,
    fun few => own (Nat.le_trans longer.countP_le few)⟩

/-- All that a store holds of accounts and invitations comes from the openings of a log. Their ids are
counted from one on. -/
structure Owes (s : Service) (log : List Exchange) (m : Memory) (os : List Opening) : Prop where
  opened : ∀ o ∈ os, ∃ x ∈ log, x.Opens s o
  count : os.length = log.countP (·.isOpening)
  ids : ∀ n o, os[n]? = some o → o.user.id = Int64.ofNat (n + 1)
  next : m.nextUserId = Int64.ofNat (os.length + 1)
  apart : m.accounts.Apart
  account : ∀ k a, m.accounts.find? k = some a → ∃ o ∈ os, o.user.id = k ∧
    (a = o.credentials ∨ a = activated o.credentials ∧ Earned s log o)
  pending : ∀ d p, m.invitations.find? d = some p → ∃ o ∈ os, o.invitation.digest = d ∧
    p = ⟨o.user.id, o.invitation.expiresAt⟩

theorem owes_nil (s : Service) : Owes s [] .seeded [] where
  opened _ mem := absurd mem List.not_mem_nil
  count := rfl
  ids _ _ found := by cases found
  next := rfl
  apart := Table.apart_empty
  account _ _ found := by cases found
  pending _ _ found := by cases found

/-- No two openings have one id, until all ids have been given out. -/
theorem Owes.unique (owes : Owes s log m os) (few : log.countP (·.isOpening) ≤ 2 ^ 64) {o o' : Opening}
    (mem : o ∈ os) (mem' : o' ∈ os) (same : o.user.id = o'.user.id) : o = o' := by
  obtain ⟨i, hi, at_i⟩ := List.mem_iff_getElem.mp mem
  obtain ⟨j, hj, at_j⟩ := List.mem_iff_getElem.mp mem'
  have found_i := (List.getElem?_eq_getElem hi).trans (congrArg some at_i)
  have found_j := (List.getElem?_eq_getElem hj).trans (congrArg some at_j)
  rw [owes.ids i o found_i, owes.ids j o' found_j] at same
  have count := owes.count
  obtain rfl := Int64.ofNat_add_one_injective (by omega) (by omega) same
  exact Option.some.inj (found_i.symm.trans found_j)

/-- What an active account owes. -/
theorem Owes.earned (owes : Owes s log m os) {k : Int64} {a : Credentials}
    (found : m.accounts.find? k = some a) (active : a.user.isActive = true) :
    ∃ o, Earned s log o ∧ o.user.id = k ∧ a = activated o.credentials := by
  obtain ⟨o, mem, id, rfl | ⟨rfl, earned⟩⟩ := owes.account k a found
  · obtain ⟨x, -, opens⟩ := owes.opened o mem
    exact absurd (opens.inactive.symm.trans active) Bool.false_ne_true
  · exact ⟨o, earned, id, rfl⟩

/-! ### One exchange -/

section Step

variable {x : Exchange} (owes : Owes s log m os)

include owes

/-- A registration adds an opening. -/
theorem Owes.register {o : Opening} {now : Instant} {n : Store.Newcomer} (opens : x.Opens s o)
    (hashed : n.passwordHash = o.passwordHash)
    (done : m.createAndInvite now n o.invitation = (.ok o.user, m')) :
    Owes s (log ++ [x]) m' (os ++ [o]) := by
  obtain ⟨-, -, role, -, user, rfl⟩ := Memory.createAndInvite_eq_ok.mp done
  have id : o.user.id = m.nextUserId := congrArg User.id user
  have isOpening : x.isOpening = true := by simp [Exchange.isOpening, opens.aimed, opens.status]
  have mem : o ∈ os ++ [o] := by simp
  refine ⟨fun o' mem => ?_, ?_, fun i o' found => ?_, ?_, owes.apart.insert _ _,
    fun k a found => ?_, fun d p found => ?_⟩
  · rcases List.mem_append.mp mem with old | new
    · obtain ⟨y, mem, opens⟩ := owes.opened o' old
      exact ⟨y, List.mem_append_left _ mem, opens⟩
    · obtain rfl := List.mem_singleton.mp new
      exact ⟨x, by simp, opens⟩
  · simp [owes.count, isOpening]
  · rw [List.getElem?_append] at found
    split at found
    · exact owes.ids i o' found
    · obtain ⟨at_end, rfl⟩ : i - os.length = 0 ∧ o = o' := by
        simpa [List.getElem?_singleton] using found
      rw [id, owes.next]
      congr 2
      omega
  · rw [owes.next, List.length_append]
    exact (Int64.ofNat_add _ _).symm
  · rw [Table.find?_insert] at found
    split at found
    · next same =>
      cases found
      exact ⟨o, mem, id.trans same, .inl (by rw [Opening.credentials, hashed])⟩
    · obtain ⟨o', old, id, kept⟩ := owes.account k a found
      exact ⟨o', List.mem_append_left _ old, id,
        kept.imp_right fun earned => ⟨earned.1, earned.2.concat x⟩⟩
  · rw [Table.find?_insert] at found
    split at found
    · next same =>
      cases found
      exact ⟨o, mem, same, by rw [id]⟩
    · obtain ⟨o', old, invited⟩ := owes.pending d p found
      exact ⟨o', List.mem_append_left _ old, invited⟩

/-- What opens no account leaves the openings as they were. -/
theorem Owes.keep (same : m.SameAccounts m') (other : x.isOpening = false) :
    Owes s (log ++ [x]) m' os where
  opened o mem := by
    obtain ⟨y, mem, opens⟩ := owes.opened o mem
    exact ⟨y, List.mem_append_left _ mem, opens⟩
  count := by simp [owes.count, other]
  ids := owes.ids
  next := same.nextUserId.trans owes.next
  apart := same.accounts ▸ owes.apart
  account k a found := by
    obtain ⟨o, mem, id, kept⟩ := owes.account k a (same.accounts ▸ found)
    exact ⟨o, mem, id, kept.imp_right fun earned => ⟨earned.1, earned.2.concat x⟩⟩
  pending d p found := owes.pending d p (same.invitations ▸ found)

/-- An activation earns the account of the invitation that was presented. -/
theorem Owes.activate {segment : List Char} {text : String} {id : Int64}
    (aimed : aim x.request = .action (.activate segment))
    (decoded : Http.Percent.decodeText? segment = some text) (status : x.response.status = 204)
    (done : m.activate (Invitation.digestOf text) x.arrival = (.ok id, m')) :
    Owes s (log ++ [x]) m' os := by
  have other : x.isOpening = false := by simp [Exchange.isOpening, status]
  obtain ⟨p, c, stored, early, found, -, rfl⟩ := Memory.activate_eq_ok.mp done
  obtain ⟨o', mem', digest, rfl⟩ := owes.pending _ p stored
  obtain ⟨o, mem, same, account⟩ := owes.account _ c found
  obtain ⟨y, logged, opens⟩ := owes.opened o mem
  obtain ⟨y', logged', opens'⟩ := owes.opened o' mem'
  have later {y : Exchange} (logged : y ∈ log) : [y, x].Sublist (log ++ [x]) :=
    (List.singleton_sublist.mpr logged).append (.refl [x])
  have few (bound : (log ++ [x]).countP (·.isOpening) ≤ 2 ^ 64) : log.countP (·.isOpening) ≤ 2 ^ 64 :=
    Nat.le_trans (List.sublist_append_left log [x]).countP_le bound
  have earned : Earned s (log ++ [x]) o :=
    ⟨y, x, o', later logged, opens, ⟨⟨segment, text, aimed, decoded, digest.symm⟩, early, status⟩,
      ⟨y', later logged', opens'⟩, same.symm,
      fun bound => owes.unique (few bound) mem' mem same.symm⟩
  have kept := owes.keep (.refl m) other
  refine ⟨kept.opened, kept.count, kept.ids, kept.next, owes.apart.insert _ _,
    fun k a found => ?_, fun d p found => ?_⟩
  · rw [Table.find?_insert] at found
    split at found
    · next id =>
      cases found
      exact ⟨o, mem, same.trans id, .inr ⟨by rcases account with rfl | ⟨rfl, -⟩ <;> rfl, earned⟩⟩
    · exact kept.account k a found
  · rw [Table.find?_erase] at found
    split at found
    · cases found
    · exact kept.pending d p found

/-- **What a store owes after one more exchange.** -/
theorem Owes.step (enrols : Gate.Enrols s x m m') : ∃ os', Owes s (log ++ [x]) m' os' := by
  cases enrols with
  | opened o now n opens hashed done => exact ⟨_, owes.register opens hashed done⟩
  | activated segment text id aimed decoded status done =>
    exact ⟨os, owes.activate aimed decoded status done⟩
  | neither same other => exact ⟨os, owes.keep same other⟩

end Step

/-! ### Runs -/

/-- A login that has succeeded was for an account that had been earned before, and with the password
that it was opened with. -/
def Justified (s : Service) (before : List Exchange) (x : Exchange) : Prop :=
  ∃ p c o, x.Issues s p c ∧ Earned s before o ∧ o.user.id = c.sub ∧ o.user.email = p.email ∧
    Password.verify p.password o.passwordHash = true

/-- A gate owes what its log tells, and all logins in the log are justified. -/
structure Honest (s : Service) (log : List Exchange) (g : Gate) : Prop where
  service : g.service = s
  owes : ∃ os, Owes s log g.store os
  logins : ∀ before x after, log = before ++ x :: after → aim x.request = .action .logIn →
    x.response.status = 201 → Justified s before x

theorem Honest.justified {g : Gate} {draws : Draws} {r : Request} (honest : Honest s log g)
    (aimed : aim r = .action .logIn) (success : (g.handle draws r).1.status = 201) :
    Justified s log (g.exchange draws r) := by
  obtain ⟨p, a, c, issues, found, active, verified, sub⟩ := g.handle_issues draws aimed success
  obtain ⟨os, owes⟩ := honest.owes
  have address : a.user.email = p.email := by simpa using List.find?_some found
  obtain ⟨⟨k, a'⟩, entry, rfl⟩ := List.mem_map.mp (List.mem_of_find?_eq_some found)
  obtain ⟨o, earned, id, rfl⟩ := owes.earned (owes.apart.find?_of_mem entry) active
  exact ⟨p, c, o, honest.service ▸ issues, earned, sub.symm, address, verified⟩

theorem Honest.handle {g : Gate} (honest : Honest s log g) (draws : Draws) (r : Request) :
    Honest s (log ++ [g.exchange draws r]) (g.handle draws r).2 := by
  refine ⟨?_, ?_, fun before x after same aimed success => ?_⟩
  · exact (g.handle_service draws r).trans honest.service
  · obtain ⟨os, owes⟩ := honest.owes
    exact owes.step (honest.service ▸ g.handle_enrols draws r)
  · rcases Log.eq_concat_iff.mp same.symm with ⟨rfl, rfl, -⟩ | ⟨after, -, old⟩
    · exact honest.justified aimed success
    · exact honest.logins before x after old.symm aimed success

theorem run_honest (g : Gate) (fresh : g.store = .seeded) (occurrences : List Occurrence) :
    Honest g.service (g.run occurrences).1 (g.run occurrences).2 := by
  induction occurrences using List.reverseRecOn with
  | nil =>
    refine ⟨rfl, ⟨[], fresh ▸ owes_nil g.service⟩, fun before x after same => ?_⟩
    exact absurd same.symm (by simp [Gate.run])
  | append_singleton occurrences o ih =>
    rw [Gate.run_concat]
    generalize g.run occurrences = t at ih ⊢
    cases o with
    | request draws r => exact ih.handle draws r
    | wait d => exact ⟨ih.service, ih.owes, ih.logins⟩
    | sweep =>
      refine ⟨(Gate.proceed_service t .sweep).trans ih.service, ?_, ih.logins⟩
      show ∃ os, Owes g.service t.1 t.2.sweep.world.backend.store os
      rw [Gate.sweep_world]
      exact ih.owes

/-- **No token without activation.** Take a gate whose store holds the roles and nothing else, with any
cache, any mishaps to come, any clocks and any limiter, and whatever happens to it. -/
theorem tokens_earned (g : Gate) (fresh : g.store = .seeded) (occurrences : List Occurrence) :
    let (log, g') := g.run occurrences
    -- A login that succeeds issues a token for an account that was opened, with the address and the
    -- password that are presented, and activated later, by its own invitation and in time.
    (∀ before x after, log = before ++ x :: after → aim x.request = .action .logIn →
      x.response.status = 201 → ∃ p c o, x.Issues g.service p c ∧ Earned g.service before o ∧
        o.user.id = c.sub ∧ o.user.email = p.email ∧
        Password.verify p.password o.passwordHash = true) ∧
    -- Nobody else is active.
    ∀ id a, g'.store.accounts.find? id = some a → a.user.isActive = true →
      ∃ o, Earned g.service log o ∧ o.user.id = id ∧ a = activated o.credentials := by
  have honest := run_honest g fresh occurrences
  refine ⟨honest.logins, fun id a found active => ?_⟩
  obtain ⟨os, owes⟩ := honest.owes
  exact owes.earned found active

/-- A registration, an activation and a login, one right after the other. -/
theorem tokens_earned_carol :
    let auth : Token.Authority := ⟨[1], "agora", Duration.ofSecs 60, by decide⟩
    let g : Gate := ⟨⟨auth, .plain, ⟨"operator", "secret"⟩, defaultInvitationTtl, ""⟩, .everyone,
      ⟨.start, fun _ => default, default⟩⟩
    let p : Registration := ⟨"carol", "carol@example.com", "correct horse"⟩
    let draws : Draws := ⟨List.replicate 16 0, List.replicate 32 0, []⟩
    let json : Http.Headers := [("content-type", Bytes.utf8 "application/json")]
    let r : Request := ⟨"POST", "/v1/authentication/user".toList, json, Registration.shape.encode p, none⟩
    let r₁ : Request :=
      ⟨"PUT", ("/v1/users/activate/" ++ Invitation.plaintext draws.invitation).toList, [], [], none⟩
    let r₂ : Request := ⟨"POST", "/v1/authentication/token".toList, json,
      Login.shape.encode ⟨p.email, p.password⟩, none⟩
    let g₁ := (g.handle draws r).2
    let g₂ := (g₁.handle default r₁).2
    g.store = .seeded ∧ (g₂.exchange default r₂).response.status = 201 ∧
      ∃ p' c o, (g₂.exchange default r₂).Issues g.service p' c ∧
        Earned g.service [g.exchange draws r, g₁.exchange default r₁] o ∧ o.user.id = c.sub ∧
        o.user.email = p'.email ∧ Password.verify p'.password o.passwordHash = true := by
  intro auth g p draws json r r₁ r₂ g₁ g₂
  have run (g : Gate) (draws : Draws) (r r₁ r₂ : Request) :
      g.run [.request draws r, .request default r₁, .request default r₂] =
        ([g.exchange draws r, (g.handle draws r).2.exchange default r₁,
          ((g.handle draws r).2.handle default r₁).2.exchange default r₂],
        (((g.handle draws r).2.handle default r₁).2.handle default r₂).2) := rfl
  have earned := tokens_earned g rfl [.request draws r, .request default r₁, .request default r₂]
  rw [run] at earned
  have justified := earned.1 [g.exchange draws r, g₁.exchange default r₁] (g₂.exchange default r₂) [] rfl
  clear earned
  have tellable : g.world.today.after? g.service.invitationTtl =
    some ⟨259200, 0, by decide, by decide, by decide, by decide⟩ := by decide
  obtain ⟨o, -, -, email, hashed, invitation, hosts, awaits⟩ :=
    register_step draws (g := g) (r := r) ⟨rfl, Table.apart_empty⟩
      ⟨rfl, Script.calm_empty⟩ Cache.Memory.faithful_empty ⟨rfl, rfl⟩
      ⟨by decide, by decide, p.decode_encode⟩ (by decide) (by decide) (by decide) tellable
  have wall : g₁.world.wall = fun _ => default := (g.handle_continues draws r).wall
  replace hosts : Hosts g.service o 0 g₁ := hosts
  replace awaits : Awaits o g₁.store := awaits
  clear_value g₁
  have digest : o.invitation.digest = Invitation.digestOf (Invitation.plaintext draws.invitation) := by
    rw [invitation]
  obtain ⟨-, hosts, active⟩ := activate_step default (r := r₁) hosts (by decide) awaits
    (by decide) digest ⟨rfl, rfl⟩ (by rw [World.today_of_still wall, invitation]; decide)
  replace hosts : Hosts g.service o 0 g₂ := hosts
  replace active : Active o g₂.store := active
  clear_value g₂
  obtain ⟨issues, -⟩ := logIn_step default (r := r₂) hosts active (by decide) hashed ⟨rfl, rfl⟩
    (email ▸ ⟨by decide, by decide, Login.decode_encode _⟩) (email ▸ (by decide))
  exact ⟨rfl, issues.status, justified issues.aimed issues.status⟩

end Service

end Gatehouse
