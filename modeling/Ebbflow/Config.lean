import Mathlib.Init

namespace Ebbflow.Config

inductive HealthCheckType
  | TCP
  deriving DecidableEq, Repr

structure HealthCheck where
  port : Option UInt16
  considerHealthyThreshold : Option UInt16
  considerUnhealthyThreshold : Option UInt16
  type : HealthCheckType
  frequencySecs : Option UInt16
  deriving DecidableEq, Repr

structure ConcreteHealthCheck where
  port : UInt16
  considerHealthyThreshold : UInt16
  considerUnhealthyThreshold : UInt16
  type : HealthCheckType
  frequencySecs : UInt16
  deriving DecidableEq, Repr

def ConcreteHealthCheck.new (defaultPort : UInt16) (hc : HealthCheck) : ConcreteHealthCheck where
  port := hc.port.getD defaultPort
  considerHealthyThreshold := hc.considerHealthyThreshold.getD 3
  considerUnhealthyThreshold := hc.considerUnhealthyThreshold.getD 3
  frequencySecs := hc.frequencySecs.getD 5
  type := hc.type

structure Endpoint where
  port : UInt16
  dns : String
  maxconns : UInt16
  maxidle : UInt16
  enabled : Bool
  healthcheck : Option HealthCheck
  deriving DecidableEq, Repr

structure Ssh where
  maxconns : UInt16
  port : UInt16
  enabled : Bool
  maxidle : UInt16
  hostnameOverride : Option String
  deriving DecidableEq, Repr

def Ssh.new (enabled : Bool) (hostname : Option String) : Ssh where
  maxconns := 20
  port := 22
  enabled := enabled
  hostnameOverride := hostname
  maxidle := 5

/-- The loader does not reject repeated dns names, so neither does this type. -/
structure EbbflowDaemonConfig where
  endpoints : List Endpoint
  ssh : Option Ssh
  loglevel : Option String
  deriving DecidableEq, Repr

/-- A file that names one endpoint twice and sets up SSH. -/
def sampleConfig : EbbflowDaemonConfig where
  endpoints := [⟨8080, "a.example", 200, 40, true, none⟩, ⟨9000, "b.example", 10, 2, false, none⟩,
    ⟨8081, "a.example", 200, 2000, true, none⟩]
  ssh := some ⟨20, 22, true, 5, none⟩
  loglevel := none

/-- An edit of it that keeps the last entry of the repeated name. -/
def sampleEdit : EbbflowDaemonConfig where
  endpoints := [⟨9001, "c.example", 10, 2, true, none⟩, ⟨8081, "a.example", 200, 2000, true, none⟩]
  ssh := some ⟨20, 2222, true, 5, none⟩
  loglevel := none

end Ebbflow.Config
