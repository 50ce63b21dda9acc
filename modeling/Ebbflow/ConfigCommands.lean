import Ebbflow.ConfigFile
import Ebbflow.Runner

namespace Ebbflow.ConfigCommands

open Config ConfigFile Runner Lib.Text

def defaultSshConns : UInt16 := 20

def defaultSshIdle : UInt16 := 3

inductive LevelFilter
  | Off
  | Error
  | Warn
  | Info
  | Debug
  | Trace
  deriving DecidableEq, Repr

def LevelFilter.toString : LevelFilter → String
  | .Off => "OFF"
  | .Error => "ERROR"
  | .Warn => "WARN"
  | .Info => "INFO"
  | .Debug => "DEBUG"
  | .Trace => "TRACE"

inductive LogLevelSubCommands
  | Reset
  | Set (level : LevelFilter)
  deriving DecidableEq, Repr

structure SetupSshArgs where
  port : Option UInt16
  hostname : Option String
  maxconns : Option UInt16
  maxidle : Option UInt16
  disabled : Bool
  deriving DecidableEq, Repr

structure AddEndpointArgs where
  dns : String
  port : UInt16
  maxconns : Option UInt16
  maxidle : Option UInt64
  disabled : Bool
  healthcheckPort : Option UInt16
  healthcheckConsiderHealthy : Option UInt16
  healthcheckConsiderUnhealthy : Option UInt16
  healthcheckFrequencySecs : Option UInt16
  deriving DecidableEq, Repr

structure RemoveEndpointArgs where
  dns : String
  idempotent : Bool
  deriving DecidableEq, Repr

inductive EnableDisableTarget
  | Ssh
  | AllEndpoints
  | Endpoint (dns : String)
  deriving DecidableEq, Repr

def EnableDisableTarget.fmt : EnableDisableTarget → String
  | .Ssh => "Ssh"
  | .AllEndpoints => "All Endpoints"
  | .Endpoint dns => dns

structure EnableDisableArgs where
  target : EnableDisableTarget
  idempotent : Bool
  deriving DecidableEq, Repr

/-- The subcommands of `ebbflow config`, but for the one that prints. -/
inductive ConfigSubCommand
  | Enable (args : EnableDisableArgs)
  | Disable (args : EnableDisableArgs)
  | AddEndpoint (args : AddEndpointArgs)
  | RemoveEndpoint (args : RemoveEndpointArgs)
  | SetupSsh (args : SetupSshArgs)
  | RemoveSshConfiguration
  | LogLevel (levelargs : LogLevelSubCommands)
  deriving DecidableEq, Repr

/-- What a command makes of the loaded configuration: the one to save and its
result, or the message of an exit that saves nothing. -/
abbrev Edited (α : Type) := Except String (EbbflowDaemonConfig × α)

def enableLoop (enabled : Bool) (dns : Option String) :
    List Endpoint → Bool × Bool → List Endpoint × Bool × Bool
  | [], flags => ([], flags)
  | e :: es, (found, mutated) =>
      let r := match dns with
        | some actualdns =>
            if actualdns = e.dns then
              if e.enabled = enabled then (e, true, false) else ({ e with enabled := enabled }, true, true)
            else (e, found, mutated)
        | none => ({ e with enabled := enabled }, true, true)
      let rest := enableLoop enabled dns es r.2
      (r.1 :: rest.1, rest.2)

def setEndpointEnabled (enabled : Bool) (dns : Option String) (existing : EbbflowDaemonConfig) :
    Edited (Bool × Bool) :=
  let r := enableLoop enabled dns existing.endpoints (false, false)
  .ok ({ existing with endpoints := r.1 }, r.2)

def setSshEnabled (enabled : Bool) (existing : EbbflowDaemonConfig) : Edited (Bool × Bool) :=
  match existing.ssh with
  | some ssh =>
      if ssh.enabled = enabled then .ok (existing, true, false)
      else .ok ({ existing with ssh := some { ssh with enabled := enabled } }, true, true)
  | none => .ok (existing, false, false)

def enabledisable (enable : Bool) : EnableDisableTarget → EbbflowDaemonConfig → Edited (Bool × Bool)
  | .Ssh => setSshEnabled enable
  | .AllEndpoints => setEndpointEnabled enable none
  | .Endpoint dns => setEndpointEnabled enable (some dns)

def setloglevel (levelargs : LogLevelSubCommands) (existing : EbbflowDaemonConfig) : Edited Unit :=
  .ok ({ existing with
    loglevel :=
      match levelargs with
      | .Reset => none
      | .Set level => some level.toString }, ())

def newendpoint (args : AddEndpointArgs) : Endpoint where
  port := args.port
  dns := args.dns
  maxconns := args.maxconns.getD 5000
  maxidle := (args.maxidle.getD 40).toUInt16
  enabled := !args.disabled
  healthcheck := args.healthcheckPort.map fun p =>
    { frequencySecs := args.healthcheckFrequencySecs
      considerHealthyThreshold := args.healthcheckConsiderHealthy
      considerUnhealthyThreshold := args.healthcheckConsiderUnhealthy
      type := .TCP
      port := some p }

def alreadyExists (dns : String) : String :=
  s!"An endpoint of name {dns} already exists. Please remove it first then create it again"

def addEndpoint (args : AddEndpointArgs) (existing : EbbflowDaemonConfig) : Edited Unit :=
  match existing.endpoints.find? (·.dns = (newendpoint args).dns) with
  | some e => .error (alreadyExists e.dns)
  | none => .ok ({ existing with endpoints := existing.endpoints ++ [newendpoint args] }, ())

def doesNotExist (dns : String) : String := s!"Endpoint {dns} does not exist and was not deleted"

def removeEndpoint (args : RemoveEndpointArgs) (existing : EbbflowDaemonConfig) : Edited Unit :=
  let deleted := existing.endpoints.any (·.dns = args.dns)
  if deleted || args.idempotent then
    .ok ({ existing with endpoints := existing.endpoints.filter (·.dns ≠ args.dns) }, ())
  else .error (doesNotExist args.dns)

def sshExists : String := "SSH configuration already set up, please remove it and then recreate it"

def newssh (args : SetupSshArgs) : Ssh :=
  let idle := min (args.maxidle.getD defaultSshIdle) maxMaxIdle.toUInt16
  { maxconns := args.maxconns.getD defaultSshConns
    port := args.port.getD 22
    enabled := !args.disabled
    hostnameOverride := args.hostname
    maxidle := idle }

def setupSsh (args : SetupSshArgs) (existing : EbbflowDaemonConfig) : Edited Unit :=
  match existing.ssh with
  | some _ => .error sshExists
  | none => .ok ({ existing with ssh := some (newssh args) }, ())

def removeSsh (existing : EbbflowDaemonConfig) : Edited Unit := .ok ({ existing with ssh := none }, ())

/-- The pair that enabling and disabling return; the others return nothing. -/
abbrev Answer := Option (Bool × Bool)

def ConfigSubCommand.edit (cmd : ConfigSubCommand) (existing : EbbflowDaemonConfig) : Edited Answer :=
  let silent (r : Edited Unit) : Edited Answer := r.map fun p => (p.1, none)
  let paired (r : Edited (Bool × Bool)) : Edited Answer := r.map fun p => (p.1, some p.2)
  match cmd with
  | .Enable args => paired (enabledisable true args.target existing)
  | .Disable args => paired (enabledisable false args.target existing)
  | .AddEndpoint args => silent (addEndpoint args existing)
  | .RemoveEndpoint args => silent (removeEndpoint args existing)
  | .SetupSsh args => silent (setupSsh args existing)
  | .RemoveSshConfiguration => silent (removeSsh existing)
  | .LogLevel levelargs => silent (setloglevel levelargs existing)

inductive Outcome
  | saved (answer : Answer)
  | exited (message : String)
  | failed (e : ConfigError)
  deriving DecidableEq, Repr

def ConfigSubCommand.run (y : SerdeYaml) (cmd : ConfigSubCommand) (disk : Disk) (f : File) : File × Outcome :=
  match loadFromFileOrNew y f with
  | .error e => (f, .failed e)
  | .ok existing =>
      match cmd.edit existing with
      | .error message => (f, .exited message)
      | .ok (config, answer) =>
          match saveToFile y config disk f with
          | (f, .error e) => (f, .failed e)
          | (f, .ok ()) => (f, .saved answer)

def configErrorExit : ConfigError → String
  | .FilePermissions =>
      "Permissions issue regarding configuration file, are you running this with elevated privelages?"
  | .FileNotFound => "Expected configuration file not found, has initialization occurred yet?"
  | .Parsing => "Failed to parse configuration properly, please notify Ebbflow"
  | .Unknown s => s!"Unexpected error: {s}, Please notify Ebbflow"
  | .Empty => "The configuration file is empty"

def handleEnableDisableRet (enable : Bool) (args : EnableDisableArgs) (ret : Bool × Bool) :
    Except String Unit :=
  let word := if enable then "enabled" else "disabled"
  match ret with
  | (true, true) => .ok ()
  | (true, false) =>
      if args.idempotent then .ok ()
      else .error s!"The specified target was not {word}: {args.target.fmt}"
  | (false, _) =>
      match enable, args.idempotent with
      | true, _ => .error
          s!"The specified target was not enabled as it is not configured: {args.target.fmt}"
      | false, false => .error s!"Unable to disable target {args.target.fmt} as it is not configured"
      | false, true => .ok ()

def ConfigSubCommand.report (cmd : ConfigSubCommand) : Outcome → Except String Unit
  | .failed e => .error (configErrorExit e)
  | .exited message => .error message
  | .saved none => .ok ()
  | .saved (some ret) =>
      match cmd with
      | .Enable args => handleEnableDisableRet true args ret
      | .Disable args => handleEnableDisableRet false args ret
      | _ => .ok ()

theorem ConfigSubCommand.run_saved {y : SerdeYaml} {cmd : ConfigSubCommand} {f : File}
    {c c' : EbbflowDaemonConfig} {answer : Answer} {text : String}
    (hload : loadFromFileOrNew y f = .ok c) (hedit : cmd.edit c = .ok (c', answer))
    (htext : y.toString c' = some text) :
    cmd.run y .wrote f = (.ok (encode text), .saved answer) := by
  simp [ConfigSubCommand.run, hload, hedit, saveToFile, htext]

end Ebbflow.ConfigCommands
