import Ebbflow.KeyGating
import Ebbflow.RunnerAtomic

namespace Ebbflow.InfoServer

open Config Daemon Runner RunnerSystem RunnerTasks RunnerConfig RunnerStatus RunnerAtomic RunnerKey KeyGating
open Lib.HashTable

structure Response where
  code : Nat
  body : String
  deriving DecidableEq, Repr

def statusPath : String := "/unstable_status"

/-- `toStringPretty` is the JSON library at the type of a status. -/
def handle (toStringPretty : DaemonStatus → Option String) (path : String) (status : DaemonStatus) : Response :=
  if path = statusPath then
    match toStringPretty status with
    | some serialized => ⟨200, serialized⟩
    | none => ⟨500, "Error getting status"⟩
  else ⟨400, "Invalid Request"⟩

def keyed (calls : List Call) : Bool := calls.any (·.key.isSome)

/-- The configuration in effect after a sequence of calls, the last call first:
a call without a configuration leaves it, and before a key there is none. -/
def effective : List Call → Option EbbflowDaemonConfig
  | [] => none
  | call :: calls => if keyed (call :: calls) then call.config.or (effective calls) else none

def configOfCalls (calls : List Call) : EbbflowDaemonConfig := (effective calls).getD ⟨[], none, none⟩

/-- What a status should say after a sequence of calls. -/
structure Describes (osHostname : String) (calls : List Call) (st : DaemonStatus) : Prop where
  good : st.statusmeta = if keyed calls then .Good else .Uninitialized
  nodup : (listed st).1.Nodup
  endpoints : ∀ dns b, (dns, b) ∈ (listed st).1 ↔
    ∃ e, lastNamed (configOfCalls calls).endpoints dns = some e ∧ e.enabled = b
  ssh : (listed st).2 = (configOfCalls calls).ssh.map fun ssh => (ssh.hostnameOverride.getD osHostname, ssh.enabled)

structure Meets (osHostname : String) (calls : List Call) (s : InnerDaemonRunner) : Prop where
  run : Runner.Run osHostname calls s
  key : s.rt.info.key.isSome = keyed calls
  good : s.statusmeta = if keyed calls then .Good else .Uninitialized
  config : ConfiguredAs osHostname (configOfCalls calls) s

variable {osHostname : String} {calls : List Call} {s t : InnerDaemonRunner} {call : Call}

theorem foldl_statusmeta (es : List Endpoint) (s : InnerDaemonRunner) :
    (es.foldl applyEndpoint s).statusmeta = s.statusmeta := by
  induction es generalizing s with
  | nil => rfl
  | cons e es ih =>
      rw [List.foldl_cons, ih]
      exact statusmeta_applyEndpoint s e

theorem updateConfig_statusmeta (osHostname : String) (s : InnerDaemonRunner)
    (config : Option EbbflowDaemonConfig) (key : Option String) :
    (updateConfig osHostname s config key).statusmeta =
      if (key.or s.rt.info.key).isSome then .Good else .Uninitialized := by
  rw [← takeKey_key]
  by_cases hk : (takeKey s key).rt.info.key = none
  · simp [updateConfig, hk]
  · have hsome := Option.isSome_iff_ne_none.mpr hk
    rw [updateConfig, if_neg (mt Option.isNone_iff_eq_none.mp hk), if_pos hsome]
    cases config with
    | none => rfl
    | some c => exact (statusmeta_applySsh _ _ _).trans (foldl_statusmeta _ _)

theorem keyed_cons (call : Call) (calls : List Call) : keyed (call :: calls) = (call.key.isSome || keyed calls) :=
  List.any_cons

theorem effective_unkeyed (h : keyed calls = false) : effective calls = none := by
  cases calls with
  | nil => rfl
  | cons call calls =>
      rw [effective, h]
      rfl

theorem effective_some (h : keyed (call :: calls) = true) {c : EbbflowDaemonConfig} (hc : call.config = some c) :
    effective (call :: calls) = some c := by
  rw [effective, if_pos h, hc, Option.some_or]

theorem effective_idle (h : call.config = none ∨ keyed (call :: calls) = false) :
    effective (call :: calls) = effective calls := by
  cases hk : keyed (call :: calls) with
  | true =>
      obtain hnone := h.resolve_right (by simp [hk])
      rw [effective, if_pos hk, hnone, Option.none_or]
  | false =>
      rw [effective_unkeyed hk]
      rw [keyed_cons, Bool.or_eq_false_iff] at hk
      exact (effective_unkeyed hk.2).symm

theorem meets_call (h : Meets osHostname calls s) (call : Call) :
    Meets osHostname (call :: calls) (updateConfig osHostname s call.config call.key) := by
  have hkeyed : (call.key.or s.rt.info.key).isSome = keyed (call :: calls) := by
    rw [Option.isSome_or, h.key, keyed_cons]
  refine ⟨.call call h.run, ?_, ?_, ?_⟩
  · rw [updateConfig_key, hkeyed]
  · rw [updateConfig_statusmeta, hkeyed]
  · rcases updateConfig_cases osHostname s call.config call.key with ⟨hidle, he, hs, _⟩ | ⟨c, hc, hset, _⟩
    · rw [configOfCalls, effective_idle]
      · exact configuredAs_congr h.config (.of_eq (congrArg _ he)) hs
      · refine hidle.imp id ?_
        rintro ⟨hkey, hnone⟩
        rw [← hkeyed, hkey, hnone]
        rfl
    · have hk : keyed (call :: calls) = true := by
        rw [← hkeyed, Option.isSome_or, Bool.or_eq_true]
        exact hset.symm
      rw [configOfCalls, effective_some hk hc, hc]
      exact configuredAs_updateConfig h.run c call.key hset

theorem meets_background (h : Meets osHostname calls s) (hb : Background s t) : Meets osHostname calls t where
  run := .background h.run hb
  key := by rw [hb.info, h.key]
  good := by rw [hb.statusmeta, h.good]
  config := configuredAs_congr h.config hb.endpoints hb.ssh

theorem meets_closed (osHostname : String) : Closed osHostname (Meets osHostname) where
  call _ _ call h := meets_call h call
  background _ _ _ h hb := meets_background h hb

theorem meets_new (osHostname clock : String) : Meets osHostname [] (.new ⟨none⟩ clock) where
  run := .new ⟨none⟩ clock
  key := rfl
  good := rfl
  config := by
    refine ⟨?_, ?_, ?_, .none, ?_⟩
    · simp [configOfCalls, effective, InnerDaemonRunner.new]
    · intro dns inst hl
      cases hl
    · intro dns inst hl
      cases hl
    · intro inst hs
      cases hs

theorem Meets.describes (h : Meets osHostname calls s) (metas : TaskId → EndpointMeta) :
    Describes osHostname calls (status metas s) where
  good := h.good
  nodup := listed_nodup metas s
  endpoints := configured_mem_listed h.config metas
  ssh := configured_listed_ssh h.config metas

end Ebbflow.InfoServer
