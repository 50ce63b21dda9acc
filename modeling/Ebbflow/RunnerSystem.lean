import Ebbflow.KeyReadings
import Ebbflow.Runner
import Mathlib.Logic.Relation

namespace Ebbflow.RunnerSystem

open Config Messaging Daemon EstablishConnection LocalConnection KeyReadings Runner
open Lib.Supervisor Relation

inductive Progress
  | idle
  | keyTaken (config : Option EbbflowDaemonConfig)
  | applying (endpoints : List Endpoint) (ssh : Option Ssh)

/-- The runner among the connection loops of the endpoints it has spawned. The
stamp of a reading of the key cell is the list of the keys supplied before it. -/
structure System where
  runner : InnerDaemonRunner
  progress : Progress
  /-- The keys that the calls so far have supplied, latest first. -/
  supplied : List String
  loops : List (Connections (List String))

def System.new (clock : String) : System := ⟨.new ⟨none⟩ clock, .idle, [], []⟩

namespace System

def call (s : System) (config : Option EbbflowDaemonConfig) (key : Option String) : System :=
  { s with
    runner := takeKey s.runner key
    progress := .keyTaken config
    supplied := key.toList ++ s.supplied }

def accept (s : System) (config : Option EbbflowDaemonConfig) : System :=
  if s.runner.rt.info.key.isNone then
    { s with
      runner := { s.runner with
        statusmeta := .Uninitialized
        rt := s.runner.rt.addMessage
          s!"INFO: Key not set, doing nothing (cfg present {config.isSome})" }
      progress := .idle }
  else
    match config with
    | none => { s with runner := { s.runner with statusmeta := .Good }, progress := .idle }
    | some c =>
        { s with
          runner := retainConfigured { s.runner with statusmeta := .Good } (c.endpoints.map (·.dns))
          progress := .applying c.endpoints c.ssh }

end System

structure Machine where
  osHostname : String
  cbor : SerdeCbor
  debug : Debug
  hardcoded : Option SocketAddr

/-- Any task that was ever spawned may start connection loops, and any loop may
move between two steps of a call. -/
inductive Step (machine : Machine) : System → System → Prop
  | call {s : System} (config : Option EbbflowDaemonConfig) (key : Option String) : s.progress = .idle →
      Step machine s (s.call config key)
  | accept {s : System} {config : Option EbbflowDaemonConfig} : s.progress = .keyTaken config →
      Step machine s (s.accept config)
  | endpoint {s : System} {e : Endpoint} {es : List Endpoint} {ssh : Option Ssh} :
      s.progress = .applying (e :: es) ssh →
      Step machine s { s with runner := applyEndpoint s.runner e, progress := .applying es ssh }
  | ssh {s : System} {ssh : Option Ssh} : s.progress = .applying [] ssh →
      Step machine s { s with runner := applySsh machine.osHostname s.runner ssh, progress := .idle }
  | background {s : System} {runner : InnerDaemonRunner} : Background s.runner runner →
      Step machine s { s with runner := runner }
  | startUp {s : System} {task : TaskId} {args : EndpointArgs} (addrs : List SocketAddr) :
      .spawned task args ∈ s.runner.rt.log.events →
      Step machine s
        { s with loops := s.loops ++ [⟨⟨machine.cbor, machine.debug, args, addrs⟩, .called args⟩] }
  | loop {s : System} {loops : List (Connections (List String))} :
      Move machine.hardcoded s.runner.rt.info s.supplied s.loops loops → Step machine s { s with loops := loops }

abbrev Steps (machine : Machine) : System → System → Prop := ReflTransGen (Step machine)

variable {machine : Machine} {s : System}

def Busy (machine : Machine) (s t : System) : Prop := s.progress ≠ .idle ∧ Step machine s t

theorem applyAll_busy (es : List Endpoint) (ssh : Option Ssh) (h : s.progress = .applying es ssh) :
    ReflTransGen (Busy machine) s
      { s with
        runner := applySsh machine.osHostname (es.foldl applyEndpoint s.runner) ssh
        progress := .idle } := by
  induction es generalizing s with
  | nil => exact .single ⟨by simp [h], .ssh h⟩
  | cons e es ih => exact .head ⟨by simp [h], .endpoint h⟩ (ih rfl)

/-- From the start of a call that nothing interrupts to its end it does what
`updateConfig` does. -/
theorem call_busy (s : System) (config : Option EbbflowDaemonConfig) (key : Option String) :
    ReflTransGen (Busy machine) (s.call config key)
      { s with
        runner := updateConfig machine.osHostname s.runner config key
        progress := .idle
        supplied := key.toList ++ s.supplied } := by
  have haccept : ReflTransGen (Busy machine) (s.call config key) ((s.call config key).accept config) :=
    .single ⟨by simp [System.call], .accept rfl⟩
  by_cases hk : (takeKey s.runner key).rt.info.key.isNone
  · have hrefused : (s.call config key).accept config = _ := if_pos hk
    rw [hrefused] at haccept
    rw [updateConfig, if_pos hk]
    exact haccept
  · have haccepted : (s.call config key).accept config = _ := if_neg hk
    rw [haccepted] at haccept
    rw [updateConfig, if_neg hk]
    cases config with
    | none => exact haccept
    | some c => exact haccept.trans (applyAll_busy c.endpoints c.ssh rfl)

theorem steps_of_busy {t : System} (h : ReflTransGen (Busy machine) s t) : Steps machine s t := by
  induction h with
  | refl => exact .refl
  | tail _ hbusy ih => exact ih.tail hbusy.2

theorem call_steps (hidle : s.progress = .idle) (config : Option EbbflowDaemonConfig)
    (key : Option String) :
    Steps machine s
      { s with
        runner := updateConfig machine.osHostname s.runner config key
        supplied := key.toList ++ s.supplied } := by
  rw [hidle]
  exact .head (.call config key hidle) (steps_of_busy (call_busy s config key))

end Ebbflow.RunnerSystem
