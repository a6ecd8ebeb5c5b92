import Gatehouse.Proofs.Token.Acceptance

/-!
When an issued token holds.

A token holds from the second in which it is issued until its end, which is no longer part of its life. The
end is the sum of two numbers, and neither the length of a life nor the sum goes beyond the largest number of
64 bits.

* `toInt_expiry`: the end of a token as a number.
* `validate_issued`: what is answered to an issued token.
* `validity_interval`: the times at which an issued token is accepted, and by whom.
* `validity_interval_clipped`: before 1970, a life that is cut down ends before the largest number.
-/

namespace Gatehouse.Token.Authority

variable {now t : Int64} {ttl : Duration}

/-! ### The end of a token -/

/-- **The end of a token** is the sum of its beginning and of its life, and both the life and the sum are cut
down to the largest number of 64 bits. -/
theorem toInt_expiry (now : Int64) (ttl : Duration) :
    (expiry now ttl).toInt =
      min (now.toInt + min (ttl.secs : Int) Int64.maxValue.toInt) Int64.maxValue.toInt := by
  have largest : Int64.maxValue.toInt = 2 ^ 63 - 1 := rfl
  have lower := now.le_toInt
  rw [expiry]
  apply Int64.toInt_ofInt_of_le <;> omega

/-- No token ends before it begins. -/
theorem le_expiry (now : Int64) (ttl : Duration) : now ≤ expiry now ttl := by
  have largest : Int64.maxValue.toInt = 2 ^ 63 - 1 := rfl
  have upper := now.toInt_lt
  rw [Int64.le_iff_toInt_le, toInt_expiry]
  omega

/-! ### Issued tokens -/

/-- Who has the same key makes the same tokens. -/
theorem generate_congr {auth other : Authority} (same : other.key = auth.key) (c : Claims) :
    other.generate c = auth.generate c := by
  simp only [generate, code, same]

/-- **What is answered to an issued token** by an authority with the same key. -/
theorem validate_issued {auth other : Authority} (same : other.key = auth.key) (userId now t : Int64) :
    other.validate (auth.generate (auth.claimsFor userId now)) t =
      if expiry now auth.ttl ≤ t then .error .expired
      else if t < now then .error .notYetValid
      else if auth.service ≠ other.service then .error .issuerMismatch
      else .ok (auth.claimsFor userId now) := by
  rw [← generate_congr same, validate_generate_eq_check]
  simp only [Claims.check, claimsFor]
  by_cases service : auth.service = other.service <;> simp [service]

/-- **A token holds from its issue until its end.** Whatever the secret, the service and the life of a token:
it is accepted for its user at the times from its issue on and before its end, its end and all later times
find it expired, and all times before its issue find it not valid yet. An authority with the same secret for
another service never accepts it. -/
theorem validity_interval {secret : String} (hsecret : secret ≠ "") (service : String) (ttl : Duration) :
    ∃ auth, make secret service ttl = .ok auth ∧ ∀ userId now t : Int64,
      (expiry now ttl).toInt =
        min (now.toInt + min (ttl.secs : Int) Int64.maxValue.toInt) Int64.maxValue.toInt ∧
      ((∃ c, auth.validate (auth.generate (auth.claimsFor userId now)) t = .ok c ∧ c.sub = userId) ↔
        now ≤ t ∧ t < expiry now ttl) ∧
      (expiry now ttl ≤ t →
        auth.validate (auth.generate (auth.claimsFor userId now)) t = .error .expired) ∧
      (t < now → auth.validate (auth.generate (auth.claimsFor userId now)) t = .error .notYetValid) ∧
      ∀ service' ttl' other, service' ≠ service → make secret service' ttl' = .ok other →
        ∀ c, other.validate (auth.generate (auth.claimsFor userId now)) t ≠ .ok c := by
  obtain ⟨auth, made, key, rfl, rfl⟩ := make_eq_ok hsecret service ttl
  refine ⟨auth, made, fun userId now t => ⟨toInt_expiry now auth.ttl, ?_, ?_, ?_, ?_⟩⟩
  · rw [validate_issued rfl]
    constructor
    · rintro ⟨c, accepted, -⟩
      split at accepted
      · cases accepted
      next late =>
      split at accepted
      · cases accepted
      next early => exact ⟨Int64.not_lt.mp early, Int64.not_le.mp late⟩
    · rintro ⟨begun, going⟩
      refine ⟨auth.claimsFor userId now, ?_, rfl⟩
      rw [if_neg (Int64.not_le.mpr going), if_neg (Int64.not_lt.mpr begun), if_neg (not_not.mpr rfl)]
  · intro ended
    rw [validate_issued rfl, if_pos ended]
  · intro early
    have going : t < expiry now auth.ttl := Int64.lt_of_lt_of_le early (le_expiry now auth.ttl)
    rw [validate_issued rfl, if_neg (Int64.not_le.mpr going), if_pos early]
  · intro service' ttl' other foreign made' c
    obtain ⟨_, made'', key', rfl, -⟩ := make_eq_ok hsecret service' ttl'
    obtain rfl := Except.ok.inj (made'.symm.trans made'')
    rw [validate_issued (key'.trans key.symm), if_pos foreign.symm]
    split
    · simp
    · split <;> simp

/-- A token of a second and a half, issued in the last second before 1970, holds in this second alone. -/
theorem validity_interval_short :
    "s" ≠ "" ∧ ∃ auth, make "s" "agora" (.ofMillis 1500) = .ok auth ∧
      ((∃ c, auth.validate (auth.generate (auth.claimsFor 7 (-1))) (-1) = .ok c ∧ c.sub = 7) ∧
        auth.validate (auth.generate (auth.claimsFor 7 (-1))) 0 = .error .expired ∧
        auth.validate (auth.generate (auth.claimsFor 7 (-1))) (-2) = .error .notYetValid) ∧
      "aGORA" ≠ "agora" ∧ ∃ other, make "s" "aGORA" (.ofMillis 1500) = .ok other ∧
        ∀ c, other.validate (auth.generate (auth.claimsFor 7 (-1))) (-1) ≠ .ok c := by
  have secret : "s" ≠ "" := by decide
  have foreign : "aGORA" ≠ "agora" := by decide
  obtain ⟨auth, made, holds⟩ := validity_interval secret "agora" (.ofMillis 1500)
  obtain ⟨other, made', -⟩ := make_eq_ok secret "aGORA" (.ofMillis 1500)
  refine ⟨secret, auth, made, ⟨?_, ?_, ?_⟩, foreign, other, made', ?_⟩
  · exact (holds 7 (-1) (-1)).2.1.mpr (by decide)
  · exact (holds 7 (-1) 0).2.2.1 (by decide)
  · exact (holds 7 (-1) (-2)).2.2.2.1 (by decide)
  · exact (holds 7 (-1) (-1)).2.2.2.2 "aGORA" (.ofMillis 1500) other foreign made'

/-- The longest life is cut down before it is added: of a token that is issued in the last second before 1970,
the sum of both numbers is far beyond the largest one, and yet the token has expired at the second before. -/
theorem validity_interval_clipped :
    ∃ auth, make "test-secret" "agora-api" .max = .ok auth ∧
      ¬ ((∃ c, auth.validate (auth.generate (auth.claimsFor 7 (-1))) 9223372036854775806 = .ok c ∧
          c.sub = 7) ↔
        (-1 : Int64).toInt ≤ (9223372036854775806 : Int64).toInt ∧
          (9223372036854775806 : Int64).toInt <
            min ((-1 : Int64).toInt + (Duration.max.secs : Int)) Int64.maxValue.toInt) ∧
      auth.validate (auth.generate (auth.claimsFor 7 (-1))) 9223372036854775806 = .error .expired := by
  obtain ⟨auth, made, -, -, life⟩ := make_eq_ok (show "test-secret" ≠ "" by decide) "agora-api" .max
  have expired : auth.validate (auth.generate (auth.claimsFor 7 (-1))) 9223372036854775806 =
      .error .expired := by
    rw [validate_issued rfl, life, if_pos (by decide)]
  refine ⟨auth, made, fun claimed => ?_, expired⟩
  obtain ⟨c, accepted, -⟩ := claimed.mpr (by decide)
  cases expired.symm.trans accepted

end Gatehouse.Token.Authority
