import Ebbflow.InnerRun

namespace Ebbflow.EndpointRun

open Config Health Messaging Daemon EstablishConnection LocalConnection RunConnection InnerRun

/-- A `SignalSender`, as far as its receivers can tell. -/
structure Signal where
  sent : Bool
  dropped : Bool
  deriving DecidableEq, Repr

def Signal.new : Signal := ⟨false, false⟩

/-- A wait for the signal ends once it was sent or nobody is left to send it. -/
def Signal.told (s : Signal) : Bool := s.sent || s.dropped

def Signal.live (s : Signal) : Bool := !s.told

structure Period where
  signal : Signal
  generation : Generation

inductive Wait
  | checking
  | delaying
  deriving DecidableEq, Repr

/-- Where the task that `spawn_endpoint` spawns is in its loop. -/
inductive Phase
  | awaitHealthy (w : Wait)
  | startingUp
  | awaitUnhealthy (w : Wait)
  | shuttingDown
  | disabled
  | left
  deriving DecidableEq, Repr

structure EndpointTask where
  phase : Phase
  stopper : Signal
  endpointMeta : EndpointMeta
  periods : List Period
  messages : List String

def healthMaster (args : EndpointArgs) : Option HealthMaster :=
  args.healthcheck.map fun hc => .new (.new args.port hc)

/-- `spawn_endpoint` caps the idle connections before it hands its arguments on. -/
def setupOf (cbor : SerdeCbor) (debug : Debug) (args : EndpointArgs) (addrs : List SocketAddr) :
    Setup :=
  ⟨cbor, debug, capIdle args, addrs⟩

namespace EndpointTask

def spawned (args : EndpointArgs) : EndpointTask where
  phase := .awaitHealthy .checking
  stopper := .new
  endpointMeta := .new (healthMaster args)
  periods := []
  messages := [s!"Endpoint {args.endpoint} is enabled"]

def addMessage (s : EndpointTask) (m : String) : EndpointTask := { s with messages := s.messages ++ [m] }

def withHealth (s : EndpointTask) (hm : HealthMaster) : EndpointTask :=
  { s with endpointMeta := { s.endpointMeta with healthdata := some hm } }

def enter (s : EndpointTask) (phase : Phase) : EndpointTask := { s with phase := phase }

end EndpointTask

def onNewest (f : Signal → Signal) : List Period → List Period
  | [] => []
  | p :: older => { p with signal := f p.signal } :: older

def note : Effect → List String
  | .message m => [m]
  | _ => []

open EndpointTask

/-- What the controller loop, the generations and the rest of the daemon do
next. The newest period stands first. -/
inductive Step (setup : Setup) : EndpointTask → EndpointTask → Prop
  | stop (s : EndpointTask) : Step setup s { s with stopper := { s.stopper with sent := true } }
  | healthyUnchecked {s : EndpointTask} : s.phase = .awaitHealthy .checking →
      s.endpointMeta.healthdata = none → Step setup s (s.enter .startingUp)
  | consideredHealthy {s : EndpointTask} {hm hm' : HealthMaster} (r : Bool) (now : Option Nat) :
      s.phase = .awaitHealthy .checking → s.endpointMeta.healthdata = some hm →
      hm.reportCheckResult r now = some (true, hm') →
      Step setup s (((s.withHealth hm').enter .startingUp).addMessage
        s!"Endpoint {setup.args.endpoint} considered healthy")
  | stillUnhealthy {s : EndpointTask} {hm hm' : HealthMaster} (r : Bool) (now : Option Nat) :
      s.phase = .awaitHealthy .checking → s.endpointMeta.healthdata = some hm →
      hm.reportCheckResult r now = some (false, hm') →
      Step setup s ((s.withHealth hm').enter (.awaitHealthy .delaying))
  | recheckUnhealthy {s : EndpointTask} : s.phase = .awaitHealthy .delaying →
      Step setup s (s.enter (.awaitHealthy .checking))
  -- without a health check the health side of this select is ready, and preferred
  | disabledUnhealthy {s : EndpointTask} {w : Wait} {hm : HealthMaster} : s.phase = .awaitHealthy w →
      s.endpointMeta.healthdata = some hm → s.stopper.told = true →
      Step setup s ((s.enter .disabled).addMessage
        s!"Endpoint {setup.args.endpoint} was disabled, shutting down")
  | startUp {s : EndpointTask} : s.phase = .startingUp →
      Step setup s (({ s with periods := ⟨.new, .start setup.args⟩ :: s.periods }.enter
        (.awaitUnhealthy .checking)).addMessage s!"Endpoint {setup.args.endpoint} starting up")
  | consideredUnhealthy {s : EndpointTask} {hm hm' : HealthMaster} (r : Bool) (now : Option Nat) :
      s.phase = .awaitUnhealthy .checking → s.endpointMeta.healthdata = some hm →
      hm.reportCheckResult r now = some (false, hm') →
      Step setup s (((s.withHealth hm').enter .shuttingDown).addMessage
        s!"Endpoint {setup.args.endpoint} considered unhealthy")
  | stillHealthy {s : EndpointTask} {hm hm' : HealthMaster} (r : Bool) (now : Option Nat) :
      s.phase = .awaitUnhealthy .checking → s.endpointMeta.healthdata = some hm →
      hm.reportCheckResult r now = some (true, hm') →
      Step setup s ((s.withHealth hm').enter (.awaitUnhealthy .delaying))
  | recheckHealthy {s : EndpointTask} : s.phase = .awaitUnhealthy .delaying →
      Step setup s (s.enter (.awaitUnhealthy .checking))
  | disabledHealthy {s : EndpointTask} {w : Wait} : s.phase = .awaitUnhealthy w →
      s.stopper.told = true →
      Step setup s ((s.enter .disabled).addMessage
        s!"Endpoint {setup.args.endpoint} was disabled, shutting down")
  -- the signal is sent, and at the end of the loop body its sender is dropped
  | shutDown {s : EndpointTask} : s.phase = .shuttingDown →
      Step setup s (({ s with periods := onNewest (fun _ => ⟨true, true⟩) s.periods }.enter
        (.awaitHealthy .checking)).addMessage s!"Endpoint {setup.args.endpoint} shutting down")
  -- a break drops the sender that is in scope without a signal
  | leave {s : EndpointTask} : s.phase = .disabled →
      Step setup s (({ s with
        periods := onNewest (fun signal => { signal with dropped := true }) s.periods }.enter
        .left).addMessage s!"Endpoint {setup.args.endpoint} is disabled")
  | generation {s : EndpointTask} {newer older : List Period} {p : Period} {g : Generation}
      {m : EndpointMeta} {effect : Effect} : s.periods = newer ++ p :: older →
      InnerRun.Step setup p.signal.told p.generation s.endpointMeta effect g m →
      Step setup s { s with
        endpointMeta := m
        periods := newer ++ { p with generation := g } :: older
        messages := s.messages ++ note effect }

/-- The runs in which each step that creates a generation is taken from a `ready` state. -/
inductive RunWhen (setup : Setup) (ready : EndpointTask → Prop) : EndpointTask → Prop
  | spawned : RunWhen setup ready (.spawned setup.args)
  | step {s s' : EndpointTask} : RunWhen setup ready s → Step setup s s' →
      (s.periods.length < s'.periods.length → ready s) → RunWhen setup ready s'

theorem RunWhen.keep {setup : Setup} {ready : EndpointTask → Prop} {s s' : EndpointTask}
    (h : RunWhen setup ready s) (hstep : Step setup s s')
    (hlen : s'.periods.length = s.periods.length) : RunWhen setup ready s' :=
  .step h hstep fun hlt => absurd hlen.symm (Nat.ne_of_lt hlt)

def Run (setup : Setup) : EndpointTask → Prop := RunWhen setup fun _ => True

theorem Run.step {setup : Setup} {s s' : EndpointTask} (h : Run setup s) (hstep : Step setup s s') :
    Run setup s' :=
  RunWhen.step h hstep fun _ => trivial

end Ebbflow.EndpointRun
