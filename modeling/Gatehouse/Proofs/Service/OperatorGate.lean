import Gatehouse.Proofs.Command.Attached
import Gatehouse.Proofs.Credential.Operator
import Gatehouse.Proofs.Service.BearerGate
import Gatehouse.Service.Setup

/-!
The gate before the document that describes the service.

* `isOperator_iff`: who is taken for the operator.
* `Gate.handle_document`: what a request for the document comes to.
* `operator_gate`: for every command line that is accepted, who is let in. The gate never opens for an operator
  whose name has a colon, since what is presented is cut at the first colon.
-/

namespace Gatehouse.Service

open Http (Request Response)
open Credential (Basic BasicField)

variable {s : Service} {r : Request}

/-- **Who is taken for the operator**: whoever presents the operator's name and password, unless the name has a
colon. -/
theorem isOperator_iff : s.isOperator r = true ↔
    BasicField r.headers s.operator.username s.operator.password ∧ ':' ∉ s.operator.username.toList := by
  rw [← Credential.basic_eq_ok_iff, isOperator]
  cases Credential.basic r.headers with
  | error e => exact iff_of_false nofun nofun
  | ok presented => exact Basic.matches_eq_true_iff.trans (Except.ok.injEq _ _ ▸ Iff.rfl)

/-! ### Responses -/

/-- The response that shows the document. -/
def documented (draws : Draws) (now : Instant) (r : Request) : Response :=
  ⟨200, [("content-type", Bytes.utf8 "application/json"), ("x-request-id", requestName draws now r)],
    if r.method = "HEAD" then [] else Document.json.render⟩

/-- The response that asks for the operator's name and password. -/
def challenged (draws : Draws) (now : Instant) (r : Request) : Response :=
  ⟨401, [("content-type", Bytes.utf8 "application/json"),
      ("www-authenticate", Bytes.utf8 "Basic realm=\"restricted\", charset=\"UTF-8\""),
      ("x-request-id", requestName draws now r)],
    if r.method = "HEAD" then [] else Bytes.utf8 "\x7b\"error\":\"unauthorized\"\x7d"⟩

theorem dispatch_operatorUnauthenticated (draws : Draws) (now : Instant) {a : Action}
    (aimed : aim r = .action a) :
    dispatch draws now r (Problem.response .operatorUnauthenticated) = challenged draws now r := by
  have response : Problem.response .operatorUnauthenticated =
      ⟨401, [("content-type", Bytes.utf8 "application/json"),
          ("www-authenticate", Bytes.utf8 "Basic realm=\"restricted\", charset=\"UTF-8\"")],
        Bytes.utf8 "\x7b\"error\":\"unauthorized\"\x7d"⟩ := by decide
  rw [dispatch_of_action draws now aimed, response]
  rfl

/-! ### Requests for the document -/

/-- **A request for the document** is answered at once, and nothing has happened but that it was counted. -/
theorem Gate.handle_document (g : Gate) (draws : Draws) (aimed : aim r = .action .showDocument)
    (admitted : (g.screen r).1 = .allowed) :
    g.handle draws r = (if g.service.isOperator r then documented draws g.world.today r
      else challenged draws g.world.today r, (g.screen r).2) := by
  have answered : (g.service.answer draws r).run (some (g.world.clock.timer patience)) g.world =
      (some (if g.service.isOperator r then .json 200 Document.json
        else Problem.response .operatorUnauthenticated), g.world) := by
    rw [answer_eq_respond _ draws aimed]
    show (Attempt.respond (g.service.showDocument r)).run _ _ = _
    unfold showDocument
    split <;> rfl
  rw [g.handle_of_allowed draws admitted answered, Option.getD_some]
  refine Prod.ext ?_ rfl
  split
  · exact dispatch_of_action draws _ aimed _
  · exact dispatch_operatorUnauthenticated draws _ aimed

theorem operator_of_service {settings : Settings} {commit : String}
    (made : Setup.service commit settings = .ok s) : s.operator = settings.operator := by
  unfold Setup.service at made
  cases auth : Setup.authority settings with
  | error e => simp [auth, Except.map] at made
  | ok a =>
    rw [auth] at made
    obtain rfl := Except.ok.inj made
    rfl

/-- **The operator's gate.** Take any name, and any password that is not blank. -/
theorem operator_gate (name : String) {password : String} (solid : Text.isBlankText password = false) :
    -- The command line accepts them.
    (∃ m s, Command.parse (fun _ => none) ["--dsn=db", "--token-secret=x", "--basic-auth-user=" ++ name,
        "--basic-auth-pass=" ++ password] = .ok m ∧
      Settings.ofMatches m = .ok s ∧ s.operator = ⟨name, password⟩) ∧
    -- Take any command line and environment that are accepted and give these two, and the service that they
    -- describe. Of the requests for the document that the limiter admits, those that present the two are shown
    -- it, and all others are challenged. A name with a colon cannot be presented.
    ∀ env words m s commit x, Command.parse env words = .ok m →
      (Settings.text? m .operatorName).getD "admin" = name →
      Settings.text? m .operatorPassword = some password →
      Settings.ofMatches m = .ok s → Setup.service commit s = .ok x →
      ∀ (g : Gate) (draws : Draws) (r : Request), g.service = x → aim r = .action .showDocument →
        (g.screen r).1 = .allowed →
        (BasicField r.headers name password ∧ ':' ∉ name.toList →
          g.handle draws r = (documented draws g.world.today r, (g.screen r).2)) ∧
        (¬ (BasicField r.headers name password ∧ ':' ∉ name.toList) →
          g.handle draws r = (challenged draws g.world.today r, (g.screen r).2)) := by
  refine ⟨Settings.exists_operator name solid, ?_⟩
  intro env words m s commit x accepted named asked taken made g draws r service aimed admitted
  obtain ⟨named', asked', -⟩ := Settings.operator_of_ofMatches taken
  have operator : g.service.operator = ⟨name, password⟩ := by
    rw [service, operator_of_service made]
    exact congrArg₂ Basic.mk (named'.trans named) (Option.some.inj (asked'.symm.trans asked))
  have known := isOperator_iff (s := g.service) (r := r)
  rw [operator] at known
  constructor
  · intro presented
    rw [g.handle_document draws aimed admitted, if_pos (known.mpr presented)]
  · intro notPresented
    rw [g.handle_document draws aimed admitted, if_neg (known.not.mpr notPresented)]

/-- The name by default, presented with blanks around it. -/
theorem operator_gate_blanks : ∃ m s x,
    Command.parse (fun _ => none) ["-d", "db", "--token-secret=x", "--basic-auth-pass", "p"] = .ok m ∧
    Settings.ofMatches m = .ok s ∧ Setup.service "" s = .ok x ∧
    let g : Gate := ⟨x, .everyone, ⟨.start, fun _ => default, default⟩⟩
    let r : Request := ⟨"GET", "/v1/openapi.json".toList, [("authorization", Bytes.utf8 "Basic  YWRtaW46cA==\t")],
      [], none⟩
    aim r = .action .showDocument ∧ (g.screen r).1 = .allowed ∧
      BasicField r.headers "admin" "p" ∧ ':' ∉ "admin".toList ∧
      g.handle default r = (documented default g.world.today r, g) := by
  obtain ⟨m, s, x, accepted, taken, made, named, asked⟩ : ∃ m s x,
      Command.parse (fun _ => none) ["-d", "db", "--token-secret=x", "--basic-auth-pass", "p"] = .ok m ∧
      Settings.ofMatches m = .ok s ∧ Setup.service "" s = .ok x ∧
      Settings.text? m .operatorName = none ∧ Settings.text? m .operatorPassword = some "p" :=
    ⟨_, _, _, rfl, rfl, rfl, rfl, rfl⟩
  refine ⟨m, s, x, accepted, taken, made, ?_⟩
  intro g r
  have aimed : aim r = .action .showDocument := by decide
  have presented : BasicField r.headers "admin" "p" := ⟨[0x20], [0x09], by simp, rfl⟩
  have free : ':' ∉ "admin".toList := by decide
  have byDefault : (Settings.text? m .operatorName).getD "admin" = "admin" := by rw [named, Option.getD_none]
  obtain ⟨-, gate⟩ := operator_gate "admin" (show Text.isBlankText "p" = false by decide)
  have shown := (gate _ _ m s "" x accepted byDefault asked taken made g default r rfl aimed rfl).1
  exact ⟨aimed, rfl, presented, free, shown ⟨presented, free⟩⟩

/-- **A name with a colon locks the operator out**: the command line accepts it, and the field that presents it
with its password is challenged. -/
theorem operator_gate_colon : ∃ m s x,
    Command.parse (fun _ => none)
      ["-d", "db", "--token-secret=x", "--basic-auth-user=a:b", "--basic-auth-pass=c"] = .ok m ∧
    Settings.ofMatches m = .ok s ∧ s.operator = ⟨"a:b", "c"⟩ ∧ Setup.service "" s = .ok x ∧
    let g : Gate := ⟨x, .everyone, ⟨.start, fun _ => default, default⟩⟩
    let r : Request := ⟨"GET", "/v1/openapi.json".toList, [("authorization", Bytes.utf8 "Basic YTpiOmM=")],
      [], none⟩
    aim r = .action .showDocument ∧ (g.screen r).1 = .allowed ∧ BasicField r.headers "a:b" "c" ∧
      (g.handle default r).1 = challenged default g.world.today r := by
  obtain ⟨m, s, x, accepted, taken, operator, made⟩ : ∃ m s x,
      Command.parse (fun _ => none)
        ["-d", "db", "--token-secret=x", "--basic-auth-user=a:b", "--basic-auth-pass=c"] = .ok m ∧
      Settings.ofMatches m = .ok s ∧ s.operator = ⟨"a:b", "c"⟩ ∧ Setup.service "" s = .ok x :=
    ⟨_, _, _, rfl, rfl, rfl, rfl⟩
  refine ⟨m, s, x, accepted, taken, operator, made, ?_⟩
  intro g r
  have aimed : aim r = .action .showDocument := by decide
  have presented : BasicField r.headers "a:b" "c" := ⟨[], [], by simp, rfl⟩
  have unknown : ¬ g.service.isOperator r = true := by
    rw [isOperator_iff, show g.service.operator = ⟨"a:b", "c"⟩ from (operator_of_service made).trans operator]
    rintro ⟨-, free⟩
    exact free (by decide)
  refine ⟨aimed, rfl, presented, ?_⟩
  rw [g.handle_document default aimed rfl, if_neg unknown]

end Gatehouse.Service
