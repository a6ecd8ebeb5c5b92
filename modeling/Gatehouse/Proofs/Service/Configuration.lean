import Gatehouse.Proofs.Account.Issuance
import Gatehouse.Proofs.Command.Settings
import Gatehouse.Proofs.Service.Screening
import Gatehouse.Proofs.Service.Undisturbed
import Gatehouse.Proofs.Token.Validity
import Gatehouse.Service.Setup

/-!
Settings that are accepted describe a service that works.

* `Token.Authority.validate_issueFor`: a token is accepted in the second in which it is issued.
* `Instant.after?_of_room`, `Invitation.register_not_ttl`: the end of an invitation can be told.
* `Service.Gate.first_admitted`, `Service.Gate.everyone_admitted`: who is new is admitted.
* `accepted_configuration_works`: all of it, for every command line and every environment.
-/

namespace Gatehouse

/-! ### Tokens -/

namespace Token.Authority

variable {auth : Authority} {now : Int64}

/-- An end that can be told is not cut short. -/
theorem expiry_toInt {ttl : Duration} (short : (ttl.secs : Int) ≤ Int64.maxValue.toInt)
    (room : now.toInt + ttl.secs ≤ Int64.maxValue.toInt) :
    (expiry now ttl).toInt = now.toInt + ttl.secs := by
  rw [toInt_expiry]
  omega

/-- **A token is accepted in the second in which it is issued**, if its end can be told. -/
theorem validate_issueFor (life : 0 < auth.ttl.secs) (short : (auth.ttl.secs : Int) ≤ Int64.maxValue.toInt)
    (room : now.toInt + auth.ttl.secs ≤ Int64.maxValue.toInt) (id : Int64) :
    (auth.claimsFor id now).iat < (auth.claimsFor id now).exp ∧
      auth.validate (auth.issueFor id now) now = .ok (auth.claimsFor id now) := by
  have early : now < expiry now auth.ttl := by
    rw [Int64.lt_iff_toInt_lt, expiry_toInt short room]
    omega
  refine ⟨early, ?_⟩
  rw [issueFor, validate_issued rfl, if_neg (Int64.not_le.mpr early), if_neg Int64.lt_irrefl,
    if_neg (not_not.mpr rfl)]

end Token.Authority

/-! ### Invitations -/

/-- **The end of a span of seconds can be told**, if the span is no longer than a life may be and does not lead
beyond the last second. It lies after its beginning. -/
theorem Instant.after?_of_room {t : Instant} {n : Nat} (life : 1 ≤ n) (short : n ≤ Command.Key.maxTtl)
    (room : t.secs + n ≤ Instant.maxSecs) :
    ∃ t', t.after? (.ofSecs n) = some t' ∧ t.before t' = true := by
  have span : (Duration.ofSecs n).nanos = n * 1000000000 := rfl
  have year : Command.Key.maxTtl = 31536000 := rfl
  have told : ¬ t.Untellable (.ofSecs n) := by
    rintro (long | far)
    · replace long : 0x7fffffffffffffff * 1000000 < n * 1000000000 := long
      omega
    · unfold position at far
      omega
  obtain ⟨u, ends, place, -⟩ := after?_of_tellable told
  exact ⟨u, ends, before_of_position (by omega)⟩

namespace Invitation

variable {random : Bytes} {ttl : Duration} {h : History}

/-- **The end of an invitation is never the reason** why a job fails that makes one, if there is room for that end
whenever the clock is read. -/
theorem offer_not_ttl {α : Type} {call : Invitation → Store.Call} {give : ∀ i, (call i).Answer → α}
    {x : Except Error α} (after : Job.After (offer random ttl call give) h (.done x))
    (made : ∀ now, Event.read now ∈ h → ∃ i, make? (plaintext random) now ttl = some i) :
    x ≠ .error .ttl := by
  rcases after.head with ⟨absurd, -⟩ | ⟨e, j', rest, rfl, move, goesOn⟩
  · cases absurd
  cases move with
  | read _ now =>
    obtain ⟨i, isMade⟩ := made now (.head _)
    simp only [isMade] at goesOn
    rcases goesOn.head with ⟨absurd, -⟩ | ⟨e, j', rest, rfl, move, goesOn⟩
    · cases absurd
    cases move with
    | answered _ _ _ r =>
      cases goesOn.of_done
      cases r <;> exact nofun

/-- An invitation that is made with a registration has an end. -/
theorem register_not_ttl {n : Store.Newcomer} {x : Except Error (User × String)}
    (after : Job.After (register random n ttl) h (.done x))
    (made : ∀ now, Event.read now ∈ h → ∃ i, make? (plaintext random) now ttl = some i) :
    x ≠ .error .ttl :=
  offer_not_ttl (register_eq_offer random n ttl ▸ after) made

/-- So has one that is made for an account. -/
theorem issue_not_ttl {id : Int64} {x : Except Error String}
    (after : Job.After (issue random id ttl) h (.done x))
    (made : ∀ now, Event.read now ∈ h → ∃ i, make? (plaintext random) now ttl = some i) :
    x ≠ .error .ttl :=
  offer_not_ttl (issue_eq_offer random id ttl ▸ after) made

end Invitation

/-! ### Admission -/

namespace Service.Gate

/-- **The first request of a client is admitted** by a limiter that has seen nobody and admits anything. -/
theorem first_admitted {g : Gate} {limit : Nat} {window : Duration} (some' : 0 < limit)
    (limited : g.admission = .windows (.new limit window)) {os : List Occurrence} {before after : List Hearing}
    {h : Hearing} (heard : g.hearings os = before ++ h :: after)
    (first : ∀ h' ∈ before, h'.client ≠ h.client) : h.decision = .allowed := by
  have decided := decisions_on limited Table.apart_empty os h.client
  have none' : before.filter (fun h' => h'.client = h.client) = [] := by
    rw [List.filter_eq_nil_iff]
    intro h' mem same
    exact first h' mem (of_decide_eq_true same)
  rw [heard, List.filter_append, none', List.nil_append, List.filter_cons_of_pos (by simp)] at decided
  simp only [List.map_cons, Limiter.verdicts, List.cons.injEq] at decided
  rw [decided.1]
  show ((Limiter.Window.serve limit window h.now ⟨h.now, 0⟩)).1 = .allowed
  simp [Limiter.Window.serve, some']

/-- **Everyone is admitted** where nobody is limited. -/
theorem everyone_admitted {g : Gate} (everyone : g.admission = .everyone) (os : List Occurrence) :
    ∀ h ∈ g.hearings os, h.decision = .allowed := by
  induction os generalizing g with
  | nil => exact fun h mem => nomatch mem
  | cons o os ih =>
    have next : (g.next o).admission = .everyone := by
      cases o with
      | request draws r => exact handle_admission draws r everyone
      | wait d => exact everyone
      | sweep =>
        show g.sweep.admission = .everyone
        rw [sweep, everyone]
        exact everyone
    intro h mem
    rw [hearings_cons] at mem
    rcases List.mem_append.mp mem with mem | mem
    · cases o with
      | request draws r =>
        rw [List.mem_singleton.mp mem]
        show (g.screen r).1 = .allowed
        rw [screen_of_everyone r everyone]
      | wait d => cases mem
      | sweep => cases mem
    · exact ih next h mem

end Service.Gate

/-! ### All of it -/

open Service (Gate Occurrence Hearing)
open Service.Gate (first_admitted everyone_admitted)

/-- **Every configuration that is accepted works**, whatever the words of the command line and the variables of
the environment are.

* The secret makes an authority, and with it a service. A token that it issues ends as long after now as the
  settings say, and is accepted now.
* An invitation has an end that can be told and lies ahead, as long as a year is left of the calendar, so that
  neither a registration nor a further invitation fails for want of one.
* Where requests are limited, the gate has a limiter that has seen nobody, with windows of the length and the limit
  that are set. They have a length, and the first request of every client is admitted. Where they are not, the gate
  admits everyone. -/
theorem accepted_configuration_works {env : String → Option String} {words : List String}
    {m : Command.Matches} {s : Settings} (accepted : Command.parse env words = .ok m)
    (taken : Settings.ofMatches m = .ok s) :
    (∃ auth, Setup.authority s = .ok auth ∧
      (∀ commit, ∃ x, Setup.service commit s = .ok x ∧ x.authority = auth ∧
        x.invitationTtl = s.invitationTtl) ∧
      ∀ id now : Int64, now.toInt + 31536000 ≤ Int64.maxValue.toInt →
        (auth.claimsFor id now).exp.toInt = now.toInt + s.tokenTtl.secs ∧
        (auth.claimsFor id now).iat < (auth.claimsFor id now).exp ∧
        auth.validate (auth.issueFor id now) now = .ok (auth.claimsFor id now)) ∧
    (∀ (now : Instant) (text : String), now.secs + 31536000 ≤ Instant.maxSecs →
      ∃ i, Invitation.make? text now s.invitationTtl = some i ∧ now.before i.expiresAt = true) ∧
    (∀ (random : Bytes) (h : History), (∀ now, Event.read now ∈ h → now.secs + 31536000 ≤ Instant.maxSecs) →
      (∀ n x, Job.After (Invitation.register random n s.invitationTtl) h (.done x) → x ≠ .error .ttl) ∧
      ∀ id x, Job.After (Invitation.issue random id s.invitationTtl) h (.done x) → x ≠ .error .ttl) ∧
    ∀ (g : Gate) (os : List Occurrence), g.admission = Setup.admission s →
      (s.limiter.enabled = true →
        Setup.admission s = .windows (.new s.limiter.requests s.limiter.window) ∧
        0 < s.limiter.requests ∧ 0 < s.limiter.window.nanos ∧
        ∀ before h after, g.hearings os = before ++ h :: after →
          (∀ h' ∈ before, h'.client ≠ h.client) → h.decision = .allowed) ∧
      (s.limiter.enabled = false → Setup.admission s = .everyone ∧
        ∀ h ∈ g.hearings os, h.decision = .allowed) := by
  have workable : s.Workable := Settings.workable_of_parse accepted taken
  have ends : ∀ (now : Instant) (text : String), now.secs + 31536000 ≤ Instant.maxSecs →
      ∃ i, Invitation.make? text now s.invitationTtl = some i ∧ now.before i.expiresAt = true := by
    intro now text room
    obtain ⟨n, life, short, ttl⟩ := workable.invitationTtl
    have year : n ≤ 31536000 := short
    obtain ⟨t, told, ahead⟩ := Instant.after?_of_room life short (t := now) (by omega)
    refine ⟨⟨Invitation.digestOf text, t⟩, ?_, ahead⟩
    rw [Invitation.make?, ttl, told]
    rfl
  refine ⟨?_, ends, ?_, ?_⟩
  · obtain ⟨auth, made, -, -, ttl⟩ :=
      Token.Authority.make_eq_ok workable.secret s.tokenIssuer s.tokenTtl
    refine ⟨auth, made, ?_, ?_⟩
    · intro commit
      refine ⟨⟨auth, Setup.resolver s, s.operator, s.invitationTtl, commit⟩, ?_, rfl, rfl⟩
      rw [Setup.service, Setup.authority, made]
      rfl
    · intro id now room
      obtain ⟨n, life, short, seconds⟩ := workable.tokenTtl
      have year : n ≤ 31536000 := short
      have secs : auth.ttl.secs = n := by
        rw [ttl, seconds]
        exact Nat.mul_div_cancel n (by decide)
      have largest : Int64.maxValue.toInt = 2 ^ 63 - 1 := rfl
      have lasts : 0 < auth.ttl.secs := by omega
      have fits : (auth.ttl.secs : Int) ≤ Int64.maxValue.toInt := by omega
      have room' : now.toInt + auth.ttl.secs ≤ Int64.maxValue.toInt := by omega
      refine ⟨?_, Token.Authority.validate_issueFor lasts fits room' id⟩
      rw [← ttl]
      exact Token.Authority.expiry_toInt fits room'
  · intro random h room
    have made : ∀ now, Event.read now ∈ h →
        ∃ i, Invitation.make? (Invitation.plaintext random) now s.invitationTtl = some i := by
      intro now read
      obtain ⟨i, isMade, -⟩ := ends now (Invitation.plaintext random) (room now read)
      exact ⟨i, isMade⟩
    constructor
    · intro n x after
      exact Invitation.register_not_ttl after made
    · intro id x after
      exact Invitation.issue_not_ttl after made
  · intro g os admits
    constructor
    · intro enabled
      have limited : Setup.admission s = .windows (.new s.limiter.requests s.limiter.window) := by
        rw [Setup.admission, Admission.ofConfig, if_pos enabled]
      have long : 0 < s.limiter.window.nanos := by
        obtain ⟨n, long, seconds⟩ := workable.window
        rw [seconds]
        exact Nat.mul_pos long (by decide)
      refine ⟨limited, workable.requests, long, fun before h after heard first => ?_⟩
      exact first_admitted workable.requests (admits.trans limited) heard first
    · intro disabled
      have everyone : Setup.admission s = .everyone := by
        rw [Setup.admission, Admission.ofConfig, disabled]
        rfl
      exact ⟨everyone, everyone_admitted (admits.trans everyone) os⟩

/-- The shortest life that a token may have, and everything else by default: its token is accepted in the first
second of 1970. -/
theorem accepted_configuration_works_shortest : ∃ m s auth,
    Command.parse (fun name => if name = "AGORA_TOKEN_SECRET" then some " s" else none)
      ["-d", "db", "--token-ttl-seconds=1", "--basic-auth-pass", "p"] = .ok m ∧
    Settings.ofMatches m = .ok s ∧ Setup.authority s = .ok auth ∧
    auth.validate (auth.issueFor 7 0) 0 = .ok (auth.claimsFor 7 0) := by
  have accepted : ∃ m s, Command.parse (fun name => if name = "AGORA_TOKEN_SECRET" then some " s" else none)
      ["-d", "db", "--token-ttl-seconds=1", "--basic-auth-pass", "p"] = .ok m ∧
      Settings.ofMatches m = .ok s := ⟨_, _, rfl, rfl⟩
  obtain ⟨m, s, accepted, taken⟩ := accepted
  obtain ⟨⟨auth, made, -, tokens⟩, -⟩ := accepted_configuration_works accepted taken
  obtain ⟨-, -, valid⟩ := tokens 7 0 (by decide)
  exact ⟨m, s, auth, accepted, taken, made, valid⟩

end Gatehouse
