import Ebbflow.InnerRun
import Ebbflow.Settling

namespace Ebbflow.PrintedConfig

open Config ConfigFile ConfigRefinement Convergence Daemon Runner EntryTasks RunnerTasks RunnerConfig
open InnerRun
open Lib.Supervisor Lib.KeyedList Lib.Text
open Console (HoldsConfig Restored newConfig restored_of_roundTrip wanted)
open Lib.Descent (Steps Stuck)
open ServedMap (Serves asks_endpoint asks_ssh)
open Settling (Own Bound own_pending bound_run bound_serves)

/-- The format `{:width$}`. -/
def pad (width : Nat) (s : String) : String := s ++ String.ofList (List.replicate (width - s.length) ' ')

def healthColumn (e : Endpoint) : String :=
  match e.healthcheck with
  | none => "Not Configured"
  | some hc =>
      s!"Port {hc.port.getD e.port} HealthyThreshold {hc.considerHealthyThreshold.getD 3} " ++
        s!"UnhealthyThreshold {hc.considerUnhealthyThreshold.getD 3} FreqSecs {hc.frequencySecs.getD 5}"

def endpointLine (width : Nat) (e : Endpoint) : String :=
  s!"{pad width e.dns}\t{e.port}\t{e.enabled}\t{e.maxconns}\t\t{e.maxidle}\t\t{healthColumn e}"

def endpointWidth (es : List Endpoint) : Nat := es.foldl (fun width e => max width e.dns.utf8ByteSize) 0

def endpointSection (es : List Endpoint) : List String :=
  if es.isEmpty then ["No endpoints configured"]
  else (pad (endpointWidth es) "DNS" ++ "\tPort\tEnabled\tMaxConns\tMaxIdleConns\tHealthCheck") ::
    es.map (endpointLine (endpointWidth es))

def sshLine (osHostname : String) (ssh : Ssh) : String :=
  pad (ssh.hostnameOverride.getD osHostname).utf8ByteSize (ssh.hostnameOverride.getD osHostname) ++
    s!"\t{ssh.port}\t{ssh.enabled}\t{ssh.maxconns}\t\t{ssh.maxidle}"

def sshSection (osHostname : String) : Option Ssh → List String
  | some ssh => [pad (ssh.hostnameOverride.getD osHostname).utf8ByteSize "Hostname" ++
      "\tPort\tEnabled\tMaxConns\tMaxIdleConns\t", sshLine osHostname ssh]
  | none => ["SSH not configured"]

def report (osHostname : String) (existing : EbbflowDaemonConfig) : List String :=
  ["Endpoint Configuration", "----------------------"] ++ endpointSection existing.endpoints ++
    ["", "SSH Configuration", "-----------------"] ++ sshSection osHostname existing.ssh

def printconfignokey (y : SerdeYaml) (osHostname : String) (config : File) : Except ConfigError (List String) :=
  match loadFromFileOrNew y config with
  | .ok existing => .ok (report osHostname existing)
  | .error e => .error e

def healthText : Option ConcreteHealthCheck → String
  | none => "Not Configured"
  | some hc =>
      s!"Port {hc.port} HealthyThreshold {hc.considerHealthyThreshold} " ++
        s!"UnhealthyThreshold {hc.considerUnhealthyThreshold} FreqSecs {hc.frequencySecs}"

def taskHealth (args : EndpointArgs) : String :=
  healthText (args.healthcheck.map (ConcreteHealthCheck.new args.port))

/-- The line shows what the task does: the name it serves, the port it connects
to, its permits and its health check. More idle connections than a thousand are
asked for in vain. -/
def ShowsEndpoint (width : Nat) (line : String) (args : EndpointArgs) : Prop :=
  ∃ maxidle : Nat, (Generation.start args).idlesem = min maxidle 1000 ∧
    line =
      s!"{pad width args.endpoint}\t{args.port}\t{true}\t{(Generation.start args).maxsem}\t\t{maxidle}\t\t{taskHealth args}"

def ShowsSsh (line : String) (args : EndpointArgs) : Prop :=
  ∃ maxidle : Nat, (Generation.start args).idlesem = min maxidle 1000 ∧
    line = pad args.endpoint.utf8ByteSize args.endpoint ++
      s!"\t{args.port}\t{true}\t{(Generation.start args).maxsem}\t\t{maxidle}"

theorem healthColumn_task {e : Endpoint} {args : EndpointArgs} (h : IsEndpointTask e args) :
    healthColumn e = taskHealth args := by
  rw [healthColumn, taskHealth, h.healthcheck, h.port]
  cases e.healthcheck with
  | none => rfl
  | some hc => rfl

theorem start_idlesem (args : EndpointArgs) : (Generation.start args).idlesem = args.idleconns.toNat := rfl

theorem start_maxsem (args : EndpointArgs) : (Generation.start args).maxsem = args.maxconns.toNat := rfl

theorem shows_endpoint {e : Endpoint} {args : EndpointArgs} (h : IsEndpointTask e args) (henabled : e.enabled = true)
    (width : Nat) : ShowsEndpoint width (endpointLine width e) args := by
  refine ⟨e.maxidle.toNat, h.idleconns, ?_⟩
  rw [endpointLine, healthColumn_task h, henabled, start_maxsem, h.maxconns, h.endpoint, h.port]
  rfl

theorem shows_ssh {osHostname : String} {ssh : Ssh} {c : SshConfiguration} {args : EndpointArgs}
    (hc : IsSshConfiguration osHostname ssh c) (h : IsSshTask c args) (henabled : ssh.enabled = true) :
    ShowsSsh (sshLine osHostname ssh) args := by
  have hidle : (Generation.start args).idlesem = min ssh.maxidle.toNat 1000 := by
    rw [start_idlesem, h.idleconns, hc.maxidle]
  refine ⟨ssh.maxidle.toNat, hidle, ?_⟩
  rw [sshLine, henabled, start_maxsem, h.maxconns, hc.max, h.endpoint, hc.hostname, h.port, hc.port]
  rfl

variable {y : SerdeYaml} {osHostname : String} {s t : System} {m : ConfigMap} {k : String} {d : DistinctConfig}
  {runner : InnerDaemonRunner}

theorem endpointLine_mem {c : EbbflowDaemonConfig} {e : Endpoint} (he : e ∈ c.endpoints) (osHostname : String) :
    endpointLine (endpointWidth c.endpoints) e ∈ report osHostname c := by
  have hsection : endpointLine (endpointWidth c.endpoints) e ∈ endpointSection c.endpoints := by
    rw [endpointSection, if_neg (by simpa using List.ne_nil_of_mem he)]
    exact List.mem_cons_of_mem _ (List.mem_map_of_mem he)
  simp [report, hsection]

theorem sshLine_mem {c : EbbflowDaemonConfig} {ssh : Ssh} (hssh : c.ssh = some ssh) (osHostname : String) :
    sshLine osHostname ssh ∈ report osHostname c := by
  simp [report, sshSection, hssh]

/-- The printed lines and the tasks of a runner are of the same entries. -/
structure Shown (osHostname : String) (c : EbbflowDaemonConfig) (lines : List String) (runner : InnerDaemonRunner) :
    Prop where
  printed : ∀ e ∈ c.endpoints, endpointLine (endpointWidth c.endpoints) e ∈ lines
  enabled : ∀ e ∈ c.endpoints, e.enabled = true → ∃ task args, Live runner.rt.log.events task args ∧
    args.ctype = .Tls ∧ args.endpoint = e.dns ∧
      ShowsEndpoint (endpointWidth c.endpoints) (endpointLine (endpointWidth c.endpoints) e) args
  disabled : ∀ e ∈ c.endpoints, e.enabled = false → ¬ ∃ task args, Live runner.rt.log.events task args ∧
    args.ctype = .Tls ∧ args.endpoint = e.dns
  task : ∀ task args, Live runner.rt.log.events task args → args.ctype = .Tls →
    ∃ e ∈ c.endpoints, e.enabled = true ∧ e.dns = args.endpoint ∧
      ShowsEndpoint (endpointWidth c.endpoints) (endpointLine (endpointWidth c.endpoints) e) args
  sshPrinted : ∀ ssh, c.ssh = some ssh → sshLine osHostname ssh ∈ lines
  ssh : ∀ ssh, c.ssh = some ssh → ssh.enabled = true → ∃ task args, Live runner.rt.log.events task args ∧
    args.ctype = .Ssh ∧ ShowsSsh (sshLine osHostname ssh) args
  sshTask : ∀ task args, Live runner.rt.log.events task args → args.ctype = .Ssh →
    ∃ ssh, c.ssh = some ssh ∧ ssh.enabled = true ∧ ShowsSsh (sshLine osHostname ssh) args

theorem serves_shown (h : Serves osHostname d.view runner) :
    Shown osHostname d.config (report osHostname d.config) runner where
  printed _ he := endpointLine_mem he osHostname
  enabled e he henabled := by
    have hargs := endpointArgs_isTask e
    obtain ⟨task, hlive, _⟩ :=
        (h.running (.endpoint e.dns) _).mpr ((asks_endpoint d).mpr ⟨e, he, rfl, henabled, hargs⟩)
    exact ⟨task, _, hlive, hargs.ctype, hargs.endpoint, shows_endpoint hargs henabled _⟩
  disabled e he hdisabled := by
    rintro ⟨task, args, hlive, hctype, hdns⟩
    have hslot : slotOf args = .endpoint e.dns := by rw [slotOf, hctype, hdns]
    obtain ⟨e', he', hsame, henabled, _⟩ := (asks_endpoint d).mp ((h.running _ _).mp ⟨task, hlive, hslot⟩)
    obtain rfl : e' = e := List.inj_on_of_nodup_map d.distinct he' he hsame
    rw [hdisabled] at henabled
    cases henabled
  task task args hlive hctype := by
    have hslot : slotOf args = .endpoint args.endpoint := by rw [slotOf, hctype]
    obtain ⟨e, he, hdns, henabled, hargs⟩ := (asks_endpoint d).mp ((h.running _ _).mp ⟨task, hlive, hslot⟩)
    exact ⟨e, he, henabled, hdns, shows_endpoint hargs henabled _⟩
  sshPrinted _ hssh := sshLine_mem hssh osHostname
  ssh ssh hssh henabled := by
    have hc := sshConfiguration_is osHostname ssh
    have hargs := sshArgs_isTask (sshConfiguration osHostname ssh)
    obtain ⟨task, hlive, _⟩ := (h.running .ssh _).mpr ((asks_ssh d).mpr ⟨ssh, _, hssh, henabled, hc, hargs⟩)
    exact ⟨task, _, hlive, hargs.ctype, shows_ssh hc hargs henabled⟩
  sshTask task args hlive hctype := by
    have hslot : slotOf args = .ssh := by rw [slotOf, hctype]
    obtain ⟨ssh, c, hssh, henabled, hc, hargs⟩ := (asks_ssh d).mp ((h.running _ _).mp ⟨task, hlive, hslot⟩)
    exact ⟨ssh, hssh, henabled, shows_ssh hc hargs henabled⟩

theorem printed_report (osHostname : String) (h : HoldsConfig y t.session.files.config (some m))
    (hy : Restored y t.session.history) (hw : (wanted t.session.history).config = some m) :
    ∃ d : DistinctConfig, d.view = m ∧
      printconfignokey y osHostname t.session.files.config = .ok (report osHostname d.config) := by
  obtain ⟨d, b, rfl, hb, hf⟩ := h
  refine ⟨d, rfl, ?_⟩
  rw [printconfignokey, hf, loadFromFileOrNew_text (hy.now hw) hb]

/-- Once a save is announced, the daemon comes to rest, and `config print` then
shows in its enabled lines exactly the tasks that run, with their ports, permits
and health checks. -/
theorem printed_configuration_runs (hempty : y.EmptyDocument) (h : Reached y osHostname s)
    (hy : Restored y s.session.history) (hidle : s.session.todo = [])
    (hw : wanted s.session.history = ⟨some m, some k⟩) (hnews : s.undelivered ≠ 0) :
    (∃ n t, Steps (Own y osHostname) s n t ∧ Stuck (Own y osHostname) t) ∧
      ∀ n t, Steps (Own y osHostname) s n t → Stuck (Own y osHostname) t →
        printconfignokey y osHostname t.session.files.config = .ok (report osHostname m.config) ∧
          Shown osHostname m.config (report osHostname m.config) t.loop.runner := by
  refine ⟨Lib.Descent.exists_stuck own_pending s, ?_⟩
  intro n t hsteps hstuck
  have hbound : Bound y osHostname m k t := bound_run hempty ⟨h, hidle, hw, hy, .inl hnews⟩ hsteps
  obtain ⟨hserves, _⟩ := bound_serves hempty hbound hstuck
  obtain ⟨hholds, _⟩ := (reached_traced hempty hbound.reached hbound.restored).sound.idle hbound.idle
  rw [hbound.wanted] at hholds
  obtain ⟨d, rfl, hprinted⟩ :=
    printed_report osHostname hholds hbound.restored (congrArg Console.Wanted.config hbound.wanted)
  rw [config_view]
  exact ⟨hprinted, serves_shown hserves⟩

open ServedMap (servedConfig served_run served_wanted)
open TornWrites (savedYaml savedYaml_roundTrip)

theorem printed_configuration_runs_sample : ∃ (t : System) (task : TaskId) (args : EndpointArgs),
    printconfignokey savedYaml "host" t.session.files.config = .ok (report "host" servedConfig.view.config) ∧
      Live t.loop.runner.rt.log.events task args ∧
      ShowsEndpoint 9 "a.example\t8080\ttrue\t5000\t\t40\t\tNot Configured" args := by
  obtain ⟨s, hreached, hidle, hhistory, hundelivered, _⟩ := served_run
  have hw : wanted s.session.history = ⟨some servedConfig.view, some "key"⟩ := hhistory ▸ served_wanted
  have hnews : s.undelivered ≠ 0 := by
    rw [hundelivered]
    decide
  obtain ⟨⟨n, t, hsteps, hstuck⟩, hall⟩ :=
    printed_configuration_runs (tableYaml_emptyDocument (by decide)) hreached
      (restored_of_roundTrip savedYaml_roundTrip _) hidle hw hnews
  obtain ⟨hprinted, hshown⟩ := hall n t hsteps hstuck
  rw [config_view] at hshown
  obtain ⟨task, args, hlive, _, _, hline⟩ := hshown.enabled _ (List.mem_singleton.mpr rfl) rfl
  exact ⟨t, task, args, hprinted, hlive, hline⟩

end Ebbflow.PrintedConfig
