import Gatehouse.Http.RequestId
import Gatehouse.Limiter
import Gatehouse.Service.Handler
import Gatehouse.World

/-!
The gate of the service: what happens to a request from its arrival to its response.

Every request is counted first, whatever it asks for; one that is not admitted goes no further. An
admitted one has sixty seconds. Every response bears the name of its request, a response under a
method that the path does not offer lists the methods that it does, and no response to HEAD has a
body.
-/

namespace Gatehouse.Service

open Http (Request Response)

/-- How long a request may take. -/
def patience : Duration := Duration.ofSecs 60

/-- What a request asks for. -/
inductive Aim where
  /-- There is no such thing. -/
  | nowhere
  /-- The thing is there, but not for this method. -/
  | notOffered (resource : Resource)
  | action (a : Action)
deriving DecidableEq, Repr

/-- What a request asks for. -/
def aim (r : Request) : Aim :=
  match Resource.ofPath? r.path with
  | none => .nowhere
  | some resource =>
    match resource.action? r.method with
    | none => .notOffered resource
    | some a => .action a

/-- The answer to an admitted request. -/
def answer (s : Service) (draws : Draws) (r : Request) : Job Response :=
  match aim r with
  | .nowhere => .done (.empty 404)
  | .notOffered _ => .done (.empty 405)
  | .action a => (s.perform draws r a).run.bind fun
    | .ok x => .done x
    | .error e => .done e.response

/-- The name of a request: the client's own, if it brings one. -/
def requestName (draws : Draws) (now : Instant) (r : Request) : Bytes :=
  (r.headers.first? "x-request-id").getD
    (Bytes.utf8 (Http.RequestId.make (now.secs * 1000 + now.nanos / 1000000).toNat draws.requestId))

/-- A response as it leaves the gate. -/
def dispatch (draws : Draws) (now : Instant) (r : Request) (x : Response) : Response :=
  let x := match aim r with
    | .notOffered resource => x.withHeader "allow" (Bytes.utf8 resource.allow)
    | _ => x
  let x := x.withHeader "x-request-id" (requestName draws now r)
  if r.method = "HEAD" then { x with body := [] } else x

/-- A service at work: who is admitted, and the world it works in. -/
structure Gate where
  service : Service
  admission : Admission
  world : World

namespace Gate

/-- The decision on a request. -/
def screen (g : Gate) (r : Request) : Limiter.Decision × Gate :=
  let (d, admission) :=
    g.admission.check g.world.clock.now (Credential.clientKey r.headers r.peer)
  (d, { g with admission })

/-- Answers an admitted request, or gives it up when its time is over. -/
def serve (g : Gate) (draws : Draws) (r : Request) : Response × Gate :=
  let deadline := g.world.clock.timer patience
  let (x, world) := (g.service.answer draws r).run (some deadline) g.world
  (x.getD (.empty 408), { g with world })

/-- The response to a request, and the service after it. -/
def handle (g : Gate) (draws : Draws) (r : Request) : Response × Gate :=
  let (d, passed) := g.screen r
  let (x, after) := match d with
    | .allowed => passed.serve draws r
    | .limited wait => ((Problem.rateLimited wait).response, passed)
  (dispatch draws g.world.today r x, after)

end Gate
end Gatehouse.Service
