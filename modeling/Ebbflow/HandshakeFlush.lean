import Ebbflow.Tunnel

namespace Ebbflow.HandshakeFlush

open Lib.Wire Lib.Streams AwaitMessage EstablishConnection LocalConnection CopyBytes RunConnection
open Handshake Dialogue ConnectionRun Tunnel

variable {env : Env} {told : Bool} {sent : Bytes} {c c' : Conn} {effect : Effect} {effects : List Effect}
  {w : Wires}

/-- A run of one connection, with the states before and after each of its steps. -/
inductive Trace (env : Env) (sent : Bytes) : List (Conn × Conn) → Conn → Prop
  | spawned : Trace env sent [] (.spawned sent)
  | step {steps : List (Conn × Conn)} {c c' : Conn} {effect : Effect} (told : Bool) :
      Trace env sent steps c → Step env told c effect c' → Trace env sent (steps ++ [(c, c')]) c'

def frames (env : Env) (w : Wires) : Bytes := helloFrame env ++ responseFrame env w.loc.isSome

/-- Each frame that was written whole has left the buffer. -/
structure Flushed (env : Env) (w : Wires) : Prop where
  hello : helloFrame env <+: w.ebb.written → helloFrame env <+: w.ebb.delivered
  response : frames env w <+: w.ebb.written → frames env w <+: w.ebb.delivered

/-- The client waits for bytes from Ebbflow or from the local server. -/
def Blocks (c : Conn) : Prop :=
  (∃ reader, c.pc = .establishing (.awaitHelloResponse reader)) ∨
    (∃ reader, c.pc = .establishing (.awaitTrafficStart reader)) ∨
    ∃ p, c.proxy = some p ∧ (p.local2ebb = .reading ∨ p.ebb2local = .reading)

def afterHello : Pc → Bool
  | .establishing (.awaitHelloResponse _) => true
  | .establishing (.awaitTrafficStart _) => true
  | _ => false

def helloWritten : Pc → Bool
  | .establishing .flushHello => true
  | pc => afterHello pc

def gaveUp : Pc → Bool
  | .establishing (.finished (.error _)) => true
  | .idleRemoved .elapsed => true
  | _ => false

/-- The step drops the Ebbflow stream after a handshake write was completed. -/
def Drops (c c' : Conn) : Prop :=
  (helloWritten c.pc = true ∧ gaveUp c'.pc = true) ∨
    (∃ e, c.pc = .connectingLocal (.finished (.error e)) ∧ c'.pc = .minimumDelay) ∨
    (c.proxy.isSome ∧ c'.proxy = none)

def SafeStep (env : Env) (c c' : Conn) : Prop :=
  (Drops c c' → Flushed env c.wires) ∧ (Blocks c' → Flushed env c'.wires)

def behindResponse : Pc → Bool
  | .ready => true
  | .connectingLocal (.finished (.error _)) => true
  | _ => false

/-- The client gives up before the flush of the hello frame is over, and goes on
from a whole response, only with an empty buffer. -/
structure Flushes (env : Env) (c c' : Conn) : Prop where
  hello : c.pc = .establishing .flushHello → gaveUp c'.pc = true → c.wires.ebb.held = []
  response : behindResponse c.pc = true → c'.pc ≠ c.pc → c.wires.ebb.written = frames env c.wires →
    c.wires.ebb.held = []

variable {steps : List (Conn × Conn)}

theorem buffer_empty {bs : Bytes} (hw : w.ebb.written = bs) (hd : bs <+: w.ebb.delivered) : w.ebb.held = [] := by
  have hlen := hd.length_le
  rw [← hw, Stream.written, List.length_append] at hlen
  exact List.eq_nil_of_length_eq_zero (by omega)

theorem Flushed.held_nil (h : Flushed env w) (hw : w.ebb.written = frames env w) : w.ebb.held = [] :=
  buffer_empty hw (h.response (hw ▸ List.prefix_rfl))

theorem flushed_of_hello (hd : helloFrame env <+: w.ebb.delivered) (hw : w.ebb.written = helloFrame env) :
    Flushed env w where
  hello _ := hd
  response hle := by
    rw [hw] at hle
    have hnil := hle.length_le
    rw [frames, List.length_append] at hnil
    rw [frames, List.eq_nil_of_length_eq_zero (by omega : (responseFrame env w.loc.isSome).length = 0),
      List.append_nil]
    exact hd

theorem flushed_of_frames (hd : frames env w <+: w.ebb.delivered) : Flushed env w where
  hello _ := (List.prefix_append _ _).trans hd
  response _ := hd

def saidHello : Pc → Bool
  | .establishing (.awaitHelloResponse _) => true
  | .establishing (.awaitTrafficStart _) => true
  | .establishing (.finished (.ok _)) => true
  | .idleRemoved .stream => true
  | .connectingLocal _ => true
  | .ready => true
  | _ => false

structure Through (env : Env) (c : Conn) : Prop where
  hello : saidHello c.pc = true → helloFrame env <+: c.wires.ebb.delivered
  frames : c.proxy.isSome → frames env c.wires <+: c.wires.ebb.delivered

theorem Trace.run (h : Trace env sent steps c) : ∃ effects, Run env sent c effects := by
  induction h with
  | spawned => exact ⟨_, .spawned⟩
  | step told _ hstep ih =>
      obtain ⟨effects, hrun⟩ := ih
      exact ⟨_, hrun.step told hstep⟩

theorem run_trace (h : Run env sent c effects) : ∃ steps, Trace env sent steps c := by
  induction h with
  | spawned => exact ⟨_, .spawned⟩
  | step told _ hstep ih =>
      obtain ⟨steps, htrace⟩ := ih
      exact ⟨_, htrace.step told hstep⟩

theorem Trace.inv (h : Trace env sent steps c) : Inv env c := by
  obtain ⟨effects, hrun⟩ := h.run
  exact (run_inv hrun).1

theorem establish_delivered {cbor : Messaging.SerdeCbor} {args : EndpointConnectionArgs} {e e' : Establish}
    {s s' : Stream} (h : Establish.Step cbor args told e s e' s') : s'.delivered = s.delivered := by
  cases h <;> rfl

theorem connectLocal_delivered {l l' : ConnectLocal} {m : Option String} {w' : Wires}
    (h : ConnectLocal.Step env.cbor env.debug env.args l w m l' w') :
    w'.ebb.delivered = w.ebb.delivered := by
  cases h <;> rfl

theorem copy_delivered {copy copy' : Copy} {r w r' w' : Stream} (h : Copy.Step copy r w copy' r' w') :
    r'.delivered = r.delivered ∧ w'.delivered = w.delivered := by
  cases h <;> exact ⟨rfl, rfl⟩

theorem proxy_delivered {p p' : Proxy} {ebb loc ebb' loc' : Stream}
    (h : Proxy.Step p ebb loc p' ebb' loc') : ebb'.delivered = ebb.delivered := by
  cases h with
  | local2ebb _ hcopy => exact (copy_delivered hcopy).2
  | ebb2local _ hcopy => exact (copy_delivered hcopy).1

theorem step_grows (hstep : Step env told c effect c') :
    c.wires.ebb.delivered <+: c'.wires.ebb.delivered := by
  cases hstep with
  | establish _ hest => exact (establish_delivered hest).symm ▸ List.prefix_rfl
  | connectLocal _ hlocal => exact (connectLocal_delivered hlocal).symm ▸ List.prefix_rfl
  | proxy _ _ hproxy => exact (proxy_delivered hproxy).symm ▸ List.prefix_rfl
  | pushEbb => exact List.prefix_append _ _
  | _ => exact List.prefix_rfl

theorem establish_saidHello {cbor : Messaging.SerdeCbor} {args : EndpointConnectionArgs} {e e' : Establish}
    {s s' : Stream} (hstep : Establish.Step cbor args told e s e' s')
    (h : saidHello (.establishing e') = true) :
    saidHello (.establishing e) = true ∨ (e = .flushHello ∧ s.held = [] ∧ s' = s) := by
  cases hstep with
  | tlsConnected =>
      rw [Establish.sayHello] at h
      split at h <;> cases h
  | flushed _ hheld => exact .inr ⟨rfl, hheld, rfl⟩
  | readHelloResponse | helloResponseEof | helloResponseFailed | helloResponseTimeout | readTrafficStart
  | trafficStartEof | trafficStartFailed | stopped => exact .inl rfl
  | tcpConnected | tcpFailed | tcpTimeout | tlsFailed | wroteSome | wroteAll | writeFailed | flushFailed =>
      cases h

theorem through_hello (hinv : Inv env c) (h : Through env c) (hstep : Step env told c effect c')
    (hsaid : saidHello c'.pc = true) : helloFrame env <+: c'.wires.ebb.delivered := by
  have hkeep : saidHello c.pc = true → helloFrame env <+: c'.wires.ebb.delivered :=
    fun hbefore => (h.hello hbefore).trans (step_grows hstep)
  cases hstep with
  | establish hpc hest =>
      rcases establish_saidHello hest hsaid with hbefore | ⟨rfl, hheld, rfl⟩
      · exact hkeep (hpc ▸ hbefore)
      · obtain ⟨_, hwritten, _⟩ := hinv.at hpc
        rw [Stream.written, hheld, List.append_nil] at hwritten
        exact hwritten ▸ List.prefix_rfl
  | @established r hpc =>
      cases r with
      | ok => exact hkeep (by rw [hpc]; rfl)
      | error => cases hsaid
  | dropIdle hpc | connectLocal hpc _ | connectedLocal hpc => exact hkeep (by rw [hpc]; rfl)
  | @failed e _ =>
      rw [afterError] at hsaid
      split at hsaid <;> cases hsaid
  | proxy | detachedEnded | aborted | pushEbb | pushLocal => exact hkeep hsaid
  | begin | elapsed | timedOut | badErrorDelayed | minimumDelayed | unconnected | addActive | proxyEnded
  | stopped | killed | removeActive | returnIdle | returnPlain => cases hsaid

theorem through_frames (hinv : Inv env c) (h : Through env c) (hok : Flushes env c c')
    (hstep : Step env told c effect c') (hproxy : c'.proxy.isSome) :
    frames env c'.wires <+: c'.wires.ebb.delivered := by
  have hgrows := step_grows hstep
  cases hstep with
  | establish hpc _ =>
      rw [(hinv.at hpc).1.proxy] at hproxy
      cases hproxy
  | connectLocal hpc _ =>
      rw [(hinv.at hpc).1] at hproxy
      cases hproxy
  | addActive hpc =>
      obtain ⟨_, payload, _, hsome, _, hanswered⟩ := hinv.at hpc
      have hwritten : c.wires.ebb.written = frames env c.wires := by
        rw [frames, hsome]
        exact hanswered.written
      have hheld := hok.response (by rw [hpc]; rfl) (by simp [hpc]) hwritten
      rw [Stream.written, hheld, List.append_nil] at hwritten
      exact hwritten ▸ List.prefix_rfl
  | proxy hp hloc _ =>
      have hbefore := h.frames (by rw [hp]; rfl)
      rw [frames, hloc] at hbefore
      exact hbefore.trans hgrows
  | pushLocal =>
      have hbefore := h.frames hproxy
      rw [frames, ← Option.isSome_map] at hbefore
      exact hbefore.trans hgrows
  | proxyEnded | detachedEnded | aborted => cases hproxy
  | _ => exact (h.frames hproxy).trans hgrows

theorem through_step (hinv : Inv env c) (h : Through env c) (hok : Flushes env c c')
    (hstep : Step env told c effect c') : Through env c' :=
  ⟨through_hello hinv h hstep, through_frames hinv h hok hstep⟩

theorem trace_through (h : Trace env sent steps c) (hok : ∀ p ∈ steps, Flushes env p.1 p.2) : Through env c := by
  induction h with
  | spawned => exact ⟨by simp [Conn.spawned, saidHello], by simp [Conn.spawned]⟩
  | step told hbefore hstep ih =>
      rw [List.forall_mem_append, List.forall_mem_singleton] at hok
      exact through_step hbefore.inv (ih hok.1) hok.2 hstep

theorem written_hello (hinv : Inv env c) (h : helloWritten c.pc = true) : c.wires.ebb.written = helloFrame env := by
  rw [ConnectionRun.Inv] at hinv
  cases hpc : c.pc with rw [hpc] at h hinv
  | establishing e =>
      cases e with
      | flushHello | awaitHelloResponse | awaitTrafficStart => exact hinv.2.1
      | tcpConnect | tlsConnect | writeHello | finished => cases h
  | _ => cases h

theorem helloWritten_of_afterHello {pc : Pc} (h : afterHello pc = true) : helloWritten pc = true := by
  rw [helloWritten.eq_def]
  split
  · rfl
  · exact h

theorem flushed_hello (hinv : Inv env c) (h : Through env c) (hwritten : helloWritten c.pc = true)
    (hheld : c.pc = .establishing .flushHello → c.wires.ebb.held = []) : Flushed env c.wires := by
  have hall := written_hello hinv hwritten
  refine flushed_of_hello ?_ hall
  cases hpc : c.pc with rw [hpc] at hwritten
  | establishing e =>
      cases e with
      | flushHello =>
          rw [Stream.written, hheld hpc, List.append_nil] at hall
          exact hall ▸ List.prefix_rfl
      | awaitHelloResponse | awaitTrafficStart => exact h.hello (by rw [hpc]; rfl)
      | tcpConnect | tlsConnect | writeHello | finished => cases hwritten
  | _ => cases hwritten

/-- Of a response that was cut short there is nothing to say. -/
theorem flushed_unconnected {e : ConnectionError} (hinv : Inv env c) (h : Through env c)
    (hpc : c.pc = .connectingLocal (.finished (.error e)))
    (hheld : c.wires.ebb.written = frames env c.wires → c.wires.ebb.held = []) : Flushed env c.wires := by
  refine ⟨fun _ => h.hello (by rw [hpc]; rfl), fun hle => ?_⟩
  obtain ⟨_, payload, _, tail, hanswered⟩ := hinv.at hpc
  have hwritten : c.wires.ebb.written = frames env c.wires := by
    refine (hle.eq_of_length_le ?_).symm
    rw [hanswered.written, frames, List.length_append, List.length_append]
    exact Nat.add_le_add_left hanswered.tail.length_le _
  have hdelivered : frames env c.wires = c.wires.ebb.delivered := by
    rw [← hwritten, Stream.written, hheld hwritten, List.append_nil]
  exact hdelivered ▸ List.prefix_rfl

theorem safe_step (hinv : Inv env c) (h : Through env c) (hok : Flushes env c c')
    (hstep : Step env told c effect c') : SafeStep env c c' := by
  have hinv' := inv_step hinv hstep
  have h' := through_step hinv h hok hstep
  constructor
  · rintro (⟨hwritten, hgave⟩ | ⟨e, hpc, hpc'⟩ | ⟨hproxy, _⟩)
    · exact flushed_hello hinv h hwritten fun hpc => hok.hello hpc hgave
    · exact flushed_unconnected hinv h hpc (hok.response (by rw [hpc]; rfl) (by simp [hpc, hpc']))
    · exact flushed_of_frames (h.frames hproxy)
  · rintro (⟨reader, hpc⟩ | ⟨reader, hpc⟩ | ⟨p, hp, _⟩)
    · exact flushed_hello hinv' h' (by rw [hpc]; rfl) (by simp [hpc])
    · exact flushed_hello hinv' h' (by rw [hpc]; rfl) (by simp [hpc])
    · exact flushed_of_frames (h'.frames (by rw [hp]; rfl))

theorem flushesResponse_of_safe (h : SafeStep env c c') (hstep : Step env told c effect c') :
    behindResponse c.pc = true → c'.pc ≠ c.pc → c.wires.ebb.written = frames env c.wires →
      c.wires.ebb.held = [] := by
  intro hbehind hne hwritten
  cases hstep with
  | addActive hpc => exact (h.2 (.inr (.inr ⟨.new, rfl, .inl rfl⟩))).held_nil hwritten
  | unconnected hpc => exact (h.1 (.inr (.inl ⟨_, hpc, rfl⟩))).held_nil hwritten
  | connectLocal hpc hlocal =>
      rw [hpc] at hbehind
      cases hlocal <;> cases hbehind
  | proxy | detachedEnded | aborted | pushEbb | pushLocal => exact absurd rfl hne
  | begin hpc | establish hpc | established hpc | elapsed hpc | timedOut hpc | failed hpc
  | badErrorDelayed hpc | minimumDelayed hpc | dropIdle hpc | connectedLocal hpc | proxyEnded hpc
  | stopped hpc | killed hpc | removeActive hpc | returnIdle hpc | returnPlain hpc =>
      rw [hpc] at hbehind
      cases hbehind

theorem flushes_of_safe (hinv : Inv env c) (h : SafeStep env c c') (hstep : Step env told c effect c') :
    Flushes env c c' where
  hello hpc hgave := by
    have hwritten : helloWritten c.pc = true := by rw [hpc]; rfl
    have hall := written_hello hinv hwritten
    exact buffer_empty hall ((h.1 (.inl ⟨hwritten, hgave⟩)).hello (hall ▸ List.prefix_rfl))
  response := flushesResponse_of_safe h hstep

/-- A run keeps every handshake frame ahead of every wait and every drop exactly
if it never gives up on a hello, and never leaves a response behind, that is still
in the buffer. -/
theorem safe_iff_flushes (h : Trace env sent steps c) :
    (∀ p ∈ steps, SafeStep env p.1 p.2) ↔ ∀ p ∈ steps, Flushes env p.1 p.2 := by
  induction h with
  | spawned => exact iff_of_true (List.forall_mem_nil _) (List.forall_mem_nil _)
  | step told hbefore hstep ih =>
      simp only [List.forall_mem_append, List.forall_mem_singleton, ih]
      constructor
      · rintro ⟨hok, hsafe⟩
        exact ⟨hok, flushes_of_safe hbefore.inv hsafe hstep⟩
      · rintro ⟨hok, hflushes⟩
        exact ⟨hok, safe_step hbefore.inv (trace_through hbefore hok) hflushes hstep⟩

theorem Trace.blocked (h : Trace env sent steps c) (hsafe : ∀ p ∈ steps, SafeStep env p.1 p.2) (hblocks : Blocks c) :
    Flushed env c.wires := by
  cases h with
  | spawned => simp [Blocks, Conn.spawned] at hblocks
  | step _ _ _ =>
      rw [List.forall_mem_append, List.forall_mem_singleton] at hsafe
      exact hsafe.2.2 hblocks

/-- The local server waits to be spoken to, and Ebbflow for the response. -/
theorem response_unflushed :
    ¬ ∀ env sent steps c, Trace env sent steps c → ∀ p ∈ steps, SafeStep env p.1 p.2 := by
  intro h
  obtain ⟨_, r⟩ := run_openTunnel []
  obtain ⟨steps, htrace⟩ := run_trace r
  have hflushed := htrace.blocked (h _ _ _ _ htrace) (.inr (.inr ⟨.new, rfl, .inl rfl⟩))
  have hheld : responseFrame sampleEnv true = [] := hflushed.held_nil rfl
  exact absurd hheld (by decide)

/-- The flush of a hello fails that is out already. -/
theorem safe_iff_flushes_sample : ∃ steps c, Trace sampleEnv [] steps c ∧ gaveUp c.pc = true ∧
    ∀ p ∈ steps, SafeStep sampleEnv p.1 p.2 := by
  have r : Trace sampleEnv [] _ _ := .spawned
  have r := r.step false (.begin rfl)
  have r := r.step false (.establish rfl (.tcpConnected _))
  have r := r.step false (.establish rfl (.tlsConnected _))
  have r := r.step false (.establish rfl (.wroteAll _))
  have r := r.step false (.pushEbb _ 1000)
  have r := r.step false (.establish rfl (.flushFailed _ .WriteZero))
  refine ⟨_, _, r, rfl, (safe_iff_flushes r).mpr ?_⟩
  simp only [List.forall_mem_append, List.forall_mem_singleton]
  exact ⟨⟨⟨⟨⟨⟨List.forall_mem_nil _, nofun, nofun⟩, nofun, nofun⟩, nofun, nofun⟩, nofun, nofun⟩,
    fun _ => nofun, nofun⟩, fun _ _ => rfl, nofun⟩

end Ebbflow.HandshakeFlush
