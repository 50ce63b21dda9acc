import Ebbflow.Lib.Interactive
import Ebbflow.Settling

namespace Ebbflow.InitDialogue

open Config ConfigFile Daemon Convergence RunnerTasks AskedTasks Lib.Interactive Lib.Supervisor Lib.Text Lib.Wire
open Console (Request Event Restored newConfig restored_of_roundTrip wanted)
open Lib.Descent (Steps Stuck)
open ServedMap (Serves)
open Settling (Own Bound own_pending bound_run bound_serves)

inductive CliError
  | StdIoError
  | Http
  deriving DecidableEq, Repr

def getString : Program CliError String := do
  let yn ← readLine .StdIoError
  return trim yn

/-- For ASCII: the letters of the two answers are the lower case of no other. -/
def toLowercase (s : String) : String := .ofList (s.toList.map Char.toLower)

def extractYn (yn : String) : Option Bool :=
  match trim (toLowercase yn) with
  | "y" => some true
  | "yes" => some true
  | "n" => some false
  | "no" => some false
  | _ => none

def getYn : Program CliError Bool := retry do
  let yn ← getString
  match extractYn yn with
  | some enabled => return some enabled
  | none => do
      println s!"Could not parse {trim yn} into (y/yes n/no), please retry"
      return none

/-- The pattern `^[-\.[:alnum:]]{1,220}$`. -/
def isHostname (s : String) : Bool :=
  decide (1 ≤ s.length) && decide (s.length ≤ 220) && s.toList.all fun c => c == '-' || c == '.' || c.isAlphanum

def chooseHostname : Program CliError String := retry do
  println "Enter the hostname to be used as the target hostname for the SSH proxy"
  let newhn ← getString
  if isHostname newhn then do
    println s!"The name {newhn} will be used. Is that ok? (y/yes n/no)"
    let ok ← getYn
    return if ok then some newhn else none
  else do
    println ("The provided name does not appear to be a valid hostname. " ++
      "Must be alphanumeric and only have periods or dashes (-).")
    return none

def defaultEbbflowSiteAddr : String := "https://ebbflow.io/init"

/-- The service that creates host keys. A poll may go on for ever. -/
structure KeyService where
  HostKeyInitFinalizationContext : Type
  id : HostKeyInitFinalizationContext → String
  createKeyRequest : String → Except CliError HostKeyInitFinalizationContext
  pollKeyCreation : HostKeyInitFinalizationContext → Option (Except CliError String)

def askSsh (defaulthostname : String) : Program CliError (Option Ssh × Option String) := do
  println "Would you like to have the SSH proxy enabled for this host? (y/yes n/no)"
  let enablessh ← getYn
  if enablessh then do
    println (s!"The hostname {defaulthostname} will be used as the hostname target for the SSH proxy, " ++
      "is that ok? (y/yes n/no)")
    let ok ← getYn
    if ok then return (some (.new enablessh none), none)
    else do
      let hostname ← chooseHostname
      return (some (.new enablessh (some hostname)), some hostname)
  else return (none, none)

/-- From the check of the permissions to the key: what is then to be saved. -/
def initInteractive (service : KeyService) (defaulthostname : String) : Program CliError Request := do
  let (sshcfg, hostname) ← askSsh defaulthostname
  let usedname := hostname.getD defaulthostname
  let finalizeme ← await (some (service.createKeyRequest usedname))
  println s!"Please go to {defaultEbbflowSiteAddr}/{service.id finalizeme} to initialize the secret key for this host\n"
  println "Waiting for key creation to be completed.."
  let key ← await (service.pollKeyCreation finalizeme)
  return .InitInteractive key sshcfg

/-- The answer stands in the first line that is one. -/
inductive Answers : Lines → Bool → Lines → Prop
  | here {line : String} {b : Bool} {rest : Lines} : extractYn (trim line) = some b →
      Answers (some line :: rest) b rest
  | later {line : String} {b : Bool} {lines rest : Lines} : extractYn (trim line) = none → Answers lines b rest →
      Answers (some line :: lines) b rest

/-- The name is the first valid one that is then agreed to. -/
inductive Chosen : Lines → String → Lines → Prop
  | invalid {line name : String} {lines rest : Lines} : isHostname (trim line) = false → Chosen lines name rest →
      Chosen (some line :: lines) name rest
  | refused {line name : String} {lines mid rest : Lines} : isHostname (trim line) → Answers lines false mid →
      Chosen mid name rest → Chosen (some line :: lines) name rest
  | agreed {line : String} {lines rest : Lines} : isHostname (trim line) → Answers lines true rest →
      Chosen (some line :: lines) (trim line) rest

/-- What the lines say about SSH, and the name that is then to be used instead
of the host's own. -/
inductive Agreed : Lines → Option Ssh × Option String → Lines → Prop
  | declined {lines rest : Lines} : Answers lines false rest → Agreed lines (none, none) rest
  | default {lines mid rest : Lines} : Answers lines true mid → Answers mid true rest →
      Agreed lines (some (.new true none), none) rest
  | named {lines mid mid' rest : Lines} {name : String} : Answers lines true mid → Answers mid false mid' →
      Chosen mid' name rest → Agreed lines (some (.new true (some name)), some name) rest

def Issues (service : KeyService) (name key : String) : Prop :=
  ∃ finalizeme, service.createKeyRequest name = .ok finalizeme ∧ service.pollKeyCreation finalizeme = some (.ok key)

variable {lines mid rest : Lines} {b : Bool} {name line : String} {service : KeyService} {defaulthostname : String}

theorem getString_reads : Reads getString fun lines s rest =>
    (lines = [] ∧ "" = s ∧ [] = rest) ∨ ∃ line, lines = some line :: rest ∧ trim line = s := by
  refine ((Reads.readLine _).bind fun yn => Reads.pure (trim yn)).congr ?_
  intro lines s rest
  constructor
  · rintro ⟨yn, mid, ⟨rfl, rfl, rfl⟩ | rfl, rfl, rfl⟩
    · exact .inl ⟨rfl, rfl, rfl⟩
    · exact .inr ⟨yn, rfl, rfl⟩
  · rintro (⟨rfl, rfl, rfl⟩ | ⟨line, rfl, rfl⟩)
    · exact ⟨"", [], .inl ⟨rfl, rfl, rfl⟩, rfl, rfl⟩
    · exact ⟨line, rest, .inr rfl, rfl, rfl⟩

theorem extractYn_empty : extractYn "" = none := by decide

theorem getYn_reads : Reads getYn Answers := by
  refine (Reads.retry (Reads.bind (S := fun yn lines o rest => extractYn yn = o ∧ lines = rest)
    getString_reads fun yn => ?_)).congr ?_
  · cases hyn : extractYn yn with
    | some enabled =>
        apply (Reads.pure _).congr
        simp
    | none =>
        apply (Reads.print _ (Reads.pure none)).congr
        simp
  · intro lines b rest
    constructor
    · intro h
      induction h with
      | done hq =>
          rcases hq with ⟨_, _, ⟨_, rfl, _⟩ | ⟨line, rfl, rfl⟩, hyn, rfl⟩
          · cases extractYn_empty.symm.trans hyn
          · exact .here hyn
      | again hq _ ih =>
          rcases hq with ⟨_, _, ⟨rfl, rfl, rfl⟩ | ⟨line, rfl, rfl⟩, hyn, rfl⟩
          · exact ih
          · exact .later hyn ih
    · intro h
      induction h with
      | @here line b rest hyn => exact .done ⟨_, rest, .inr ⟨line, rfl, rfl⟩, hyn, rfl⟩
      | @later line b lines rest hyn _ ih => exact .again ⟨_, lines, .inr ⟨line, rfl, rfl⟩, hyn, rfl⟩ ih

inductive Offered : Lines → Option String → Lines → Prop
  | ended : Offered [] none []
  | invalid {line : String} {rest : Lines} : isHostname (trim line) = false → Offered (some line :: rest) none rest
  | refused {line : String} {lines rest : Lines} : isHostname (trim line) → Answers lines false rest →
      Offered (some line :: lines) none rest
  | agreed {line : String} {lines rest : Lines} : isHostname (trim line) → Answers lines true rest →
      Offered (some line :: lines) (some (trim line)) rest

theorem isHostname_empty : isHostname "" = false := by decide

theorem offered_iff {lines rest : Lines} {o : Option String} : Offered lines o rest ↔
    ∃ newhn mid, ((lines = [] ∧ "" = newhn ∧ [] = mid) ∨ ∃ line, lines = some line :: mid ∧ trim line = newhn) ∧
      ((isHostname newhn = false ∧ none = o ∧ mid = rest) ∨
        (isHostname newhn = true ∧ ∃ ok, Answers mid ok rest ∧ (if ok then some newhn else none) = o)) := by
  constructor
  · intro h
    cases h with
    | ended => exact ⟨"", [], .inl ⟨rfl, rfl, rfl⟩, .inl ⟨isHostname_empty, rfl, rfl⟩⟩
    | invalid hinvalid => exact ⟨_, rest, .inr ⟨_, rfl, rfl⟩, .inl ⟨hinvalid, rfl, rfl⟩⟩
    | refused hvalid hanswers => exact ⟨_, _, .inr ⟨_, rfl, rfl⟩, .inr ⟨hvalid, false, hanswers, rfl⟩⟩
    | agreed hvalid hanswers => exact ⟨_, _, .inr ⟨_, rfl, rfl⟩, .inr ⟨hvalid, true, hanswers, rfl⟩⟩
  · rintro ⟨newhn, mid, ⟨rfl, rfl, rfl⟩ | ⟨line, rfl, rfl⟩, ⟨hinvalid, rfl, rfl⟩ | ⟨hvalid, ok, hanswers, rfl⟩⟩
    · exact .ended
    · cases isHostname_empty.symm.trans hvalid
    · exact .invalid hinvalid
    · cases ok with
      | true => exact .agreed hvalid hanswers
      | false => exact .refused hvalid hanswers

theorem chosen_iff {lines rest : Lines} {name : String} :
    Until Offered lines name rest ↔ Chosen lines name rest := by
  constructor
  · intro h
    induction h with
    | done ho =>
        cases ho with
        | agreed hvalid hanswers => exact .agreed hvalid hanswers
    | again ho _ ih =>
        cases ho with
        | ended => exact ih
        | invalid hinvalid => exact .invalid hinvalid ih
        | refused hvalid hanswers => exact .refused hvalid hanswers ih
  · intro h
    induction h with
    | invalid hinvalid _ ih => exact .again (.invalid hinvalid) ih
    | refused hvalid hanswers _ ih => exact .again (.refused hvalid hanswers) ih
    | agreed hvalid hanswers => exact .done (.agreed hvalid hanswers)

theorem chooseHostname_reads : Reads chooseHostname Chosen := by
  refine Reads.congr (Reads.retry (Reads.congr (Reads.print _ (Reads.bind getString_reads fun newhn => ?_))
    fun _ _ _ => offered_iff.symm)) fun _ _ _ => chosen_iff
  cases hvalid : isHostname newhn with
  | true =>
      apply (Reads.print _ (getYn_reads.bind fun ok => Reads.pure _)).congr
      simp
  | false =>
      apply (Reads.print _ (Reads.pure none)).congr
      simp

theorem agreed_iff {r : Option Ssh × Option String} : Agreed lines r rest ↔
    ∃ enablessh mid, Answers lines enablessh mid ∧
      ((enablessh = false ∧ (none, none) = r ∧ mid = rest) ∨
        (enablessh = true ∧ ∃ ok mid', Answers mid ok mid' ∧
          ((ok = true ∧ (some (.new true none), none) = r ∧ mid' = rest) ∨
            (ok = false ∧ ∃ name, Chosen mid' name rest ∧ (some (.new true (some name)), some name) = r)))) := by
  constructor
  · intro h
    cases h with
    | declined hno => exact ⟨_, _, hno, .inl ⟨rfl, rfl, rfl⟩⟩
    | default hyes hok => exact ⟨_, _, hyes, .inr ⟨rfl, _, _, hok, .inl ⟨rfl, rfl, rfl⟩⟩⟩
    | named hyes hno hchosen => exact ⟨_, _, hyes, .inr ⟨rfl, _, _, hno, .inr ⟨rfl, _, hchosen, rfl⟩⟩⟩
  · rintro ⟨_, mid, hfirst, ⟨rfl, rfl, rfl⟩ | ⟨rfl, _, mid', hsecond, ⟨rfl, rfl, rfl⟩ | ⟨rfl, name, hchosen, rfl⟩⟩⟩
    · exact .declined hfirst
    · exact .default hfirst hsecond
    · exact .named hfirst hsecond hchosen

theorem askSsh_reads (defaulthostname : String) : Reads (askSsh defaulthostname) Agreed := by
  refine Reads.congr (Reads.print _ (Reads.bind getYn_reads fun enablessh => ?_)) fun _ _ _ => agreed_iff.symm
  cases enablessh with
  | false =>
      apply (Reads.pure _).congr
      simp
  | true =>
      refine (Reads.print _ (Reads.bind (S := fun ok mid r rest =>
        (ok = true ∧ (some (Ssh.new true none), none) = r ∧ mid = rest) ∨
          (ok = false ∧ ∃ name, Chosen mid name rest ∧ (some (Ssh.new true (some name)), some name) = r))
        getYn_reads fun ok => ?_)).congr ?_
      · cases ok with
        | true =>
            apply (Reads.pure _).congr
            simp
        | false =>
            apply (chooseHostname_reads.bind fun name => Reads.pure _).congr
            simp
      · simp

theorem initInteractive_reads (service : KeyService) (defaulthostname : String) :
    Reads (initInteractive service defaulthostname) fun lines request rest => ∃ sshcfg hostname key,
      Agreed lines (sshcfg, hostname) rest ∧ Issues service (hostname.getD defaulthostname) key ∧
        request = .InitInteractive key sshcfg := by
  apply ((askSsh_reads defaulthostname).bind fun r => (Reads.await _).bind fun finalizeme =>
    Reads.print _ (Reads.print _ ((Reads.await _).bind fun key => Reads.pure _))).congr
  intro lines request rest
  constructor
  · rintro ⟨⟨sshcfg, hostname⟩, mid, hagreed, finalizeme, _, ⟨hcreate, rfl⟩, key, _, ⟨hpoll, rfl⟩, rfl, rfl⟩
    exact ⟨sshcfg, hostname, key, hagreed, ⟨finalizeme, Option.some.inj hcreate, hpoll⟩, rfl⟩
  · rintro ⟨sshcfg, hostname, key, hagreed, ⟨finalizeme, hcreate, hpoll⟩, rfl⟩
    exact ⟨(sshcfg, hostname), rest, hagreed, finalizeme, rest, ⟨congrArg some hcreate, rfl⟩, key, rest, ⟨hpoll, rfl⟩,
      rfl, rfl⟩

def sshTask (name : String) : EndpointArgs where
  ctype := .Ssh
  idleconns := 5
  maxconns := 20
  endpoint := name
  port := 22
  healthcheck := none

theorem wanted_initialized (before : List Event) {key : String} (hkey : trim key ≠ "") (sshcfg : Option Ssh) :
    wanted (before ++ [.keyed key, .saved (.initial sshcfg)]) = ⟨some (newConfig sshcfg).view, some (trim key)⟩ := by
  have happend : before ++ [Event.keyed key, .saved (.initial sshcfg)] =
      before ++ [.keyed key] ++ [.saved (.initial sshcfg)] := by simp
  rw [happend, Console.wanted_concat, Console.wanted_concat]
  simp only [Event.apply, if_neg hkey]
  rfl

theorem agreed_asks {sshcfg : Option Ssh} {hostname : Option String} (h : Agreed lines (sshcfg, hostname) rest)
    (osHostname : String) (slot : Slot) (args : EndpointArgs) :
    Asks osHostname (newConfig sshcfg).view.endpoints.value (newConfig sshcfg).view.ssh slot args ↔
      sshcfg.isSome ∧ slot = .ssh ∧ args = sshTask (hostname.getD osHostname) := by
  rw [← asked_eq_some]
  constructor
  · intro hasked
    cases slot with
    | endpoint dns => cases hasked
    | ssh =>
        cases h with
        | declined => cases hasked
        | default | named =>
            cases hasked
            exact ⟨rfl, rfl, rfl⟩
  · rintro ⟨hsome, rfl, rfl⟩
    cases h with
    | declined => cases hsome
    | default | named => rfl

/-- Of the tasks ever spawned one is not told to stop, or none if SSH was declined. -/
def OnlyTask (sshcfg : Option Ssh) (name : String) (events : List (Lib.Supervisor.Event EndpointArgs)) : Prop :=
  match sshcfg with
  | some _ => ∃ task, ∀ id args, Live events id args ↔ id = task ∧ args = sshTask name
  | none => ∀ id args, ¬ Live events id args

theorem serves_only {sshcfg : Option Ssh} {hostname : Option String} {osHostname : String}
    {runner : Runner.InnerDaemonRunner} (h : Agreed lines (sshcfg, hostname) rest) (hs : Serves osHostname (newConfig sshcfg).view runner) :
    OnlyTask sshcfg (hostname.getD osHostname) runner.rt.log.events := by
  have hasks (id : TaskId) (args : EndpointArgs) (hlive : Live runner.rt.log.events id args) :
      sshcfg.isSome ∧ slotOf args = .ssh ∧ args = sshTask (hostname.getD osHostname) :=
    (agreed_asks h osHostname _ args).mp ((hs.running _ args).mp ⟨id, hlive, rfl⟩)
  cases hssh : sshcfg with
  | none =>
      intro id args hlive
      have hsome := (hasks id args hlive).1
      rw [hssh] at hsome
      cases hsome
  | some ssh =>
      have hslot := (agreed_asks h osHostname .ssh (sshTask (hostname.getD osHostname))).mpr
        ⟨by rw [hssh]; rfl, rfl, rfl⟩
      obtain ⟨task, hlive, _⟩ := (hs.running .ssh _).mpr hslot
      refine ⟨task, fun id args => ⟨fun hother => ?_, ?_⟩⟩
      · obtain ⟨_, hsame, rfl⟩ := hasks id args hother
        exact ⟨hs.unique id task _ _ hother hlive rfl, rfl⟩
      · rintro ⟨rfl, rfl⟩
        exact hlive

/-- An initialization returns just when its questions are answered and its key
is issued; and once it is saved, the daemon comes to rest serving SSH under the
very name that the key was issued for, or nothing if SSH was declined. -/
theorem initialized_host_serves_its_name {y : SerdeYaml} (hempty : y.EmptyDocument)
    (service : KeyService) (osHostname key : String) (sshcfg : Option Ssh) (terminal : Terminal) (rest : Lines) :
    ((∃ printed, Returns (initInteractive service osHostname) terminal (.InitInteractive key sshcfg) ⟨rest, printed⟩) ↔
      ∃ hostname, Agreed terminal.lines (sshcfg, hostname) rest ∧ Issues service (hostname.getD osHostname) key) ∧
    ∀ hostname before s, Agreed terminal.lines (sshcfg, hostname) rest → trim key ≠ "" → Reached y osHostname s →
      s.session.history = before ++ [.keyed key, .saved (.initial sshcfg)] → s.session.todo = [] →
      s.undelivered ≠ 0 → Restored y s.session.history →
        (∃ n t, Steps (Own y osHostname) s n t ∧ Stuck (Own y osHostname) t) ∧
        ∀ n t, Steps (Own y osHostname) s n t → Stuck (Own y osHostname) t →
          t.loop.runner.rt.info.key = some (trim key) ∧
          OnlyTask sshcfg (hostname.getD osHostname) t.loop.runner.rt.log.events := by
  refine ⟨?_, ?_⟩
  · rw [(initInteractive_reads service osHostname).returns]
    constructor
    · rintro ⟨_, hostname, _, hagreed, hissues, ⟨⟩⟩
      exact ⟨hostname, hagreed, hissues⟩
    · rintro ⟨hostname, hagreed, hissues⟩
      exact ⟨sshcfg, hostname, key, hagreed, hissues, rfl⟩
  · intro hostname before s hagreed hkey hreached hhistory hidle hnews hy
    refine ⟨Lib.Descent.exists_stuck own_pending s, ?_⟩
    intro n t hsteps hstuck
    have hw : wanted s.session.history = ⟨some (newConfig sshcfg).view, some (trim key)⟩ := by
      rw [hhistory, wanted_initialized before hkey]
    have hbound : Bound y osHostname _ _ s := ⟨hreached, hidle, hw, hy, .inl hnews⟩
    obtain ⟨hserves, hset⟩ := bound_serves hempty (bound_run hempty hbound hsteps) hstuck
    exact ⟨hset, serves_only hagreed hserves⟩

def sampleService : KeyService where
  HostKeyInitFinalizationContext := String
  id name := name
  createKeyRequest name := .ok name
  pollKeyCreation _ := some (.ok "key")

def sampleLines : Lines := [some "Yes\n", some "no\n", some "my host\n", some "my-host\n", some "y\n"]

def namedSsh : Ssh := .new true (some "my-host")

theorem sample_agreed : Agreed sampleLines (some namedSsh, some "my-host") [] := by
  have hname : trim "my-host\n" = "my-host" := by decide
  have hagreed : Chosen [some "my-host\n", some "y\n"] (trim "my-host\n") [] :=
    .agreed (by decide) (.here (by decide))
  rw [hname] at hagreed
  exact .named (.here (by decide)) (.here (by decide)) (.invalid (by decide) hagreed)

def namedConfig : EbbflowDaemonConfig := (newConfig (some namedSsh)).config

def namedText : String :=
  "---\nendpoints: []\nssh:\n  maxconns: 20\n  port: 22\n  enabled: true\n  maxidle: 5\n" ++
    "  hostname_override: my-host\nloglevel: ~"

def namedYaml : SerdeYaml := tableYaml [(namedConfig, namedText)]

theorem run_initialized : ∃ s : System, Reached namedYaml "host" s ∧ s.session.todo = [] ∧ s.undelivered = 4 ∧
    s.session.history = [.keyed "key", .saved (.initial (some namedSsh))] := by
  have hops : Request.ops namedYaml (.error .NotFound) (.InitInteractive "key" (some namedSsh)) =
      [.touchConfig, .touchKey, .truncateKey, .writeKey "key", .truncateConfig,
        .writeConfig (.initial (some namedSsh)) namedText] := rfl
  have hnew : Reached namedYaml "host" (.new (.ok []) (.ok []) "") := .new "" (.inr rfl) (.inr rfl)
  have hinit := hnew.step (.session (.ask (.InitInteractive "key" (some namedSsh)) rfl))
  have hchecked := (hinit.step (.session (.perform hops))).step (.session (.perform rfl))
  have hkeyed := (hchecked.step (.session (.perform rfl))).step (.session (.perform rfl))
  have hsaved := (hkeyed.step (.session (.perform rfl))).step (.session (.perform rfl))
  exact ⟨_, hsaved, rfl, rfl, rfl⟩

theorem initialized_host_serves_its_name_sample :
    (∃ printed, Returns (initInteractive sampleService "host") ⟨sampleLines, []⟩
      (.InitInteractive "key" (some namedSsh)) ⟨[], printed⟩) ∧
    ∃ (t : System) (task : TaskId), ∀ id args, Live t.loop.runner.rt.log.events id args ↔
      id = task ∧ args = sshTask "my-host" := by
  have hy : namedYaml.RoundTrip := tableYaml_roundTrip (by simp)
  have hempty : namedYaml.EmptyDocument := tableYaml_emptyDocument (by decide)
  obtain ⟨s, hreached, hidle, hundelivered, hhistory⟩ := run_initialized
  have hnews : s.undelivered ≠ 0 := by
    rw [hundelivered]
    decide
  obtain ⟨hreturns, hserves⟩ := initialized_host_serves_its_name hempty sampleService "host"
    "key" (some namedSsh) ⟨sampleLines, []⟩ []
  obtain ⟨⟨n, t, hsteps, hstuck⟩, hall⟩ := hserves _ [] s sample_agreed (by decide) hreached hhistory hidle hnews
    (restored_of_roundTrip hy _)
  obtain ⟨_, task, honly⟩ := hall n t hsteps hstuck
  exact ⟨hreturns.mpr ⟨some "my-host", sample_agreed, "my-host", rfl, rfl⟩, t, task, honly⟩

end Ebbflow.InitDialogue
