import Gatehouse.Proofs.Service.AccountFlow

/-!
Passwords as they are stored.

* `Gate.handle_registers`: what a registration stores of the password that was sent.
* `stored_passwords_checked`: the text that is stored is all that is needed to check a password.
-/

namespace Gatehouse.Service

open Digest.Argon2 (Input Cost Version)
open Http (Request)
open Password (hashBy ownInput Checker)
open Store (Memory)
open Text (Base64)

/-- **A registration** has stored the password that was sent with the account that it has opened. -/
theorem Gate.handle_registers (g : Gate) (draws : Draws) (r : Request)
    (opening : (g.exchange draws r).isOpening = true) :
    ∃ p c, Registration.shape.decode r.body = .ok p ∧ c.user.email = p.email ∧
      c.passwordHash = Password.hash draws.salt p.password ∧
      (g.handle draws r).2.store.accounts.find? c.user.id = some c := by
  cases g.handle_enrols draws r with
  | opened o now n opens hashed done =>
    obtain ⟨p, form, -, email, own⟩ := opens.form
    obtain ⟨-, -, role, -, user, stored⟩ := Memory.createAndInvite_eq_ok.mp done
    have id : o.user.id = g.store.nextUserId := congrArg User.id user
    refine ⟨p, o.credentials, form, email, own, ?_⟩
    rw [stored]
    refine (Table.find?_insert ..).trans ((if_pos id.symm).trans ?_)
    rw [Opening.credentials, hashed, user]
  | activated segment text id aimed decoded status done => simp [Exchange.isOpening, status] at opening
  | neither same other => cases other.symm.trans opening

/-- **A stored password says all that is needed to check it.** -/
theorem stored_passwords_checked :
    -- Let any function hash passwords that gives 32 bytes for a password of fewer than 2 ^ 32 bytes if it is
    -- asked for as many. The text under which such a password is stored with 16 bytes of salt holds the
    -- algorithm, its version and parameters, the salt and what has been hashed. The password passes for it, and so
    -- do those alone of which the same comes under this salt, whatever is assumed where a record says nothing.
    (∀ (digest : Input → Bytes),
      (∀ x : Input, x.password.length < 2 ^ 32 → x.size = 32 → (digest x).length = 32) →
      ∀ (salt : Bytes) (password : String), salt.length = 16 → (Bytes.utf8 password).length < 2 ^ 32 →
        (∃ r out, Password.parse? (hashBy digest salt password) = some r ∧ r.algorithm = "argon2id" ∧
          r.version = some 19 ∧ r.params = [("m", "19456"), ("t", "2"), ("p", "1")] ∧
          r.salt.bind Base64.bare.decode? = some salt ∧ r.output = some out ∧
          out = digest (ownInput salt password) ∧ out.length = 32) ∧
        ∀ (cost : Cost) (version : Version),
          (Checker.mk digest cost version).verify password (hashBy digest salt password) = true ∧
          (∀ q, (Checker.mk digest cost version).verify q (hashBy digest salt password) = true →
            digest (ownInput salt q) = digest (ownInput salt password)) ∧
          ∀ q, (Bytes.utf8 q).length < 2 ^ 32 → digest (ownInput salt q) = digest (ownInput salt password) →
            (Checker.mk digest cost version).verify q (hashBy digest salt password) = true) ∧
    -- The passwords of accounts are hashed and checked in this way, by Argon2id.
    (Password.hash = hashBy Input.tag ∧ Password.verify = Checker.standard.verify) ∧
    -- So the text that is stored with an account when it is registered is all that is needed to check its
    -- password.
    ∀ (g : Gate) (draws : Draws) (r : Request), draws.salt.length = 16 →
      (g.exchange draws r).isOpening = true →
      ∃ p c, Registration.shape.decode r.body = .ok p ∧ c.user.email = p.email ∧
        (g.handle draws r).2.store.accounts.find? c.user.id = some c ∧
        ∀ (cost : Cost) (version : Version),
          (Checker.mk Input.tag cost version).verify p.password c.passwordHash = true := by
  refine ⟨?_, ⟨Password.hash_eq_hashBy, Checker.verify_standard⟩, ?_⟩
  · intro digest sized salt password length short
    have tag : (digest (ownInput salt password)).length = 32 := sized _ short rfl
    refine ⟨⟨_, _, Password.parse?_hashBy password length tag, rfl, rfl, rfl, ?_, rfl, rfl, tag⟩, ?_⟩
    · exact Password.decode?_encode salt
    · intro cost version
      have checks := (Checker.mk digest cost version).verify_hashBy password length tag
      exact ⟨(checks password).mpr rfl, fun q => (checks q).mp, fun q _ => (checks q).mpr⟩
  · intro g draws r length opening
    obtain ⟨p, c, form, email, hashed, stored⟩ := g.handle_registers draws r opening
    refine ⟨p, c, form, email, stored, fun cost version => ?_⟩
    rw [hashed, Password.hash_eq_hashBy]
    exact ((Checker.mk Input.tag cost version).verify_hashBy p.password length
      (Password.length_tag_ownInput draws.salt p.password) p.password).mpr rfl

/-- An account is registered, and its password is checked by someone who assumes another cost and the older
version. -/
theorem stored_passwords_checked_carol :
    let auth : Token.Authority := ⟨[1], "agora", Duration.ofSecs 60, by decide⟩
    let g : Gate := ⟨⟨auth, .plain, ⟨"operator", "secret"⟩, defaultInvitationTtl, ""⟩, .everyone,
      ⟨.start, fun _ => default, default⟩⟩
    let p : Registration := ⟨"carol", "carol@example.com", "correct horse"⟩
    let draws : Draws := ⟨List.replicate 16 0, List.replicate 32 0, []⟩
    let r : Request := ⟨"POST", "/v1/authentication/user".toList,
      [("content-type", Bytes.utf8 "application/json")], Registration.shape.encode p, none⟩
    let k : Checker := ⟨Input.tag, ⟨8, 1, 1⟩, .v16⟩
    ((Bytes.utf8 p.password).length < 2 ^ 32 ∧
        k.verify p.password (hashBy Input.tag draws.salt p.password) = true) ∧
      (draws.salt.length = 16 ∧ (g.exchange draws r).isOpening = true) ∧
      ∃ c, (g.handle draws r).2.store.accounts.find? c.user.id = some c ∧ c.user.email = p.email ∧
        k.verify p.password c.passwordHash = true := by
  intro auth g p draws r k
  obtain ⟨checks, -, registers⟩ := stored_passwords_checked
  have sized : ∀ x : Input, x.password.length < 2 ^ 32 → x.size = 32 → x.tag.length = 32 :=
    fun x _ size => (x.length_tag (by omega)).trans size
  have short : (Bytes.utf8 p.password).length < 2 ^ 32 := by decide
  refine ⟨⟨short, ((checks Input.tag sized draws.salt p.password rfl short).2 _ _).1⟩, ?_⟩
  have tellable : g.world.today.after? g.service.invitationTtl =
    some ⟨259200, 0, by decide, by decide, by decide, by decide⟩ := by decide
  obtain ⟨o, opens, -⟩ := register_step draws (g := g) (r := r) ⟨rfl, Table.apart_empty⟩
    ⟨rfl, Script.calm_empty⟩ Cache.Memory.faithful_empty ⟨rfl, rfl⟩
    ⟨by decide, by decide, p.decode_encode⟩ (by decide) (by decide) (by decide) tellable
  have opening : (g.exchange draws r).isOpening = true := by
    simp [Exchange.isOpening, opens.aimed, opens.status]
  obtain ⟨p', c, form, email, stored, verified⟩ := registers g draws r rfl opening
  obtain rfl := Except.ok.inj (form.symm.trans p.decode_encode)
  exact ⟨⟨rfl, opening⟩, c, stored, email, verified _ _⟩

end Gatehouse.Service
