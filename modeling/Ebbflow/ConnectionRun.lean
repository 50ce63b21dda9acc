import Ebbflow.Dialogue
import Ebbflow.MessagingCbor

namespace Ebbflow.ConnectionRun

open Lib.Wire Lib.Streams Messaging AwaitMessage EstablishConnection LocalConnection CopyBytes RunConnection
open Handshake Dialogue MessagingCbor

variable {env : Env} {told : Bool} {sent : Bytes} {c c' : Conn} {effect : Effect}
  {effects : List Effect} {w : Wires} {proxy : Option Proxy} {pc : Pc}

def helloFrame (env : Env) : Bytes := Handshake.hello env.cbor env.args

def responseFrame (env : Env) (good : Bool) : Bytes := Dialogue.response env.cbor good

structure Untouched (w : Wires) (proxy : Option Proxy) : Prop where
  tried : w.tried = []
  loc : w.loc = none
  proxy : proxy = none

/-- Traffic was started, and the answer to it is under way. -/
def Answering (env : Env) (l : ConnectLocal) (w : Wires) (proxy : Option Proxy) : Prop :=
  proxy = none ∧ ∃ payload, Accepted env.cbor w.ebb.sent payload ∧
    Answers env.cbor (helloFrame env) payload l w

def Tunnelled (env : Env) (w : Wires) (proxy : Option Proxy) : Prop :=
  startTrafficResponse env.cbor true = .ok (responseFrame env true) ∧
  ∃ payload loc, Accepted env.cbor w.ebb.sent payload ∧ w.loc = some loc ∧
    Copied (helloFrame env ++ responseFrame env true) payload w.ebb loc ∧
    ∀ p, proxy = some p → Linked (helloFrame env ++ responseFrame env true) payload p w.ebb loc

inductive Over (env : Env) (w : Wires) (proxy : Option Proxy) : Prop
  | untouched : Untouched w proxy → w.ebb.written <+: helloFrame env → Over env w proxy
  | answered {payload tail : Bytes} : proxy = none → Accepted env.cbor w.ebb.sent payload →
      Answered env.cbor (helloFrame env) payload tail w → Over env w proxy
  | tunnelled : Tunnelled env w proxy → Over env w proxy

def InvAt (env : Env) (w : Wires) (proxy : Option Proxy) : Pc → Prop
  | .started => Untouched w proxy ∧ Holds env.cbor env.args .tcpConnect w.ebb
  | .establishing e => Untouched w proxy ∧ Holds env.cbor env.args e w.ebb
  | .idleRemoved .stream => Untouched w proxy ∧ Holds env.cbor env.args (.finished (.ok ())) w.ebb
  | .idleRemoved (.failed e) =>
      Untouched w proxy ∧ Holds env.cbor env.args (.finished (.error e)) w.ebb
  | .connectingLocal l => Answering env l w proxy
  | .ready => Answering env (.finished (.ok ())) w proxy
  | .proxying => Tunnelled env w proxy
  | .killDelay => Tunnelled env w proxy
  | .proxied => Tunnelled env w proxy
  | .idleRemoved .elapsed => Over env w proxy
  | .badErrorDelay => Over env w proxy
  | .minimumDelay => Over env w proxy
  | .returning => Over env w proxy
  | .returned => Over env w proxy

def Inv (env : Env) (c : Conn) : Prop := InvAt env c.wires c.proxy c.pc

theorem Inv.at (h : Inv env c) (hpc : c.pc = pc) : InvAt env c.wires c.proxy pc := hpc ▸ h

theorem over_of_holds {e : Establish} (h : Untouched w proxy)
    (hs : Holds env.cbor env.args e w.ebb) : Over env w proxy :=
  .untouched h (written_le_hello hs)

theorem Over.start_tunnel {payload : Bytes} (h : w.loc.isSome)
    (hresponse : startTrafficResponse env.cbor true = .ok (responseFrame env true))
    (haccepted : Accepted env.cbor w.ebb.sent payload)
    (hanswered : Answered env.cbor (helloFrame env) payload (responseFrame env true) w) :
    Tunnelled env w (some .new) := by
  obtain ⟨loc, hloc⟩ := Option.isSome_iff_exists.mp h
  obtain ⟨hwritten, hunread⟩ := hanswered.fresh loc hloc
  have hlinked : Linked (helloFrame env ++ responseFrame env true) payload .new w.ebb loc :=
    ⟨relays_start hunread hanswered.written, relays_start hanswered.unread hwritten⟩
  refine ⟨hresponse, payload, loc, haccepted, hloc, hlinked.copied, ?_⟩
  intro p hp
  obtain rfl := Option.some.inj hp
  exact hlinked

theorem Tunnelled.step {p p' : Proxy} {loc ebb' loc' : Stream} (h : Tunnelled env w proxy)
    (hp : proxy = some p) (hloc : w.loc = some loc) (hstep : Proxy.Step p w.ebb loc p' ebb' loc') :
    Tunnelled env { w with ebb := ebb', loc := some loc' } (some p') := by
  obtain ⟨hresponse, payload, l, haccepted, hl, _, hlinked⟩ := h
  obtain rfl := Option.some.inj (hloc.symm.trans hl)
  obtain ⟨hnext, hebb, _⟩ := linked_step (hlinked p hp) hstep
  refine ⟨hresponse, payload, loc', by rw [hebb]; exact haccepted, rfl, hnext.copied, ?_⟩
  intro q hq
  obtain rfl := Option.some.inj hq
  exact hnext

theorem Tunnelled.drop (h : Tunnelled env w proxy) : Tunnelled env w none := by
  obtain ⟨hresponse, payload, loc, haccepted, hloc, hcopied, _⟩ := h
  exact ⟨hresponse, payload, loc, haccepted, hloc, hcopied, fun p hp => by cases hp⟩

theorem tunnelled_of_proxy {p : Proxy} (h : InvAt env w proxy pc) (hp : proxy = some p) :
    Tunnelled env w proxy := by
  have hne : proxy ≠ none := by
    rw [hp]
    exact Option.some_ne_none p
  have hover : Over env w proxy → Tunnelled env w proxy := by
    intro ho
    cases ho with
    | untouched hu => exact absurd hu.proxy hne
    | answered hnone => exact absurd hnone hne
    | tunnelled ht => exact ht
  cases pc with
  | started | establishing => exact absurd h.1.proxy hne
  | connectingLocal | ready => exact absurd h.1 hne
  | proxying | killDelay | proxied => exact h
  | badErrorDelay | minimumDelay | returning | returned => exact hover h
  | idleRemoved r =>
      cases r with
      | stream | failed => exact absurd h.1.proxy hne
      | elapsed => exact hover h

theorem invAt_of_tunnelled (h : InvAt env w proxy pc) (hp : proxy ≠ none) {w' : Wires}
    {proxy' : Option Proxy} (ht : Tunnelled env w' proxy') : InvAt env w' proxy' pc := by
  cases pc with
  | started | establishing => exact absurd h.1.proxy hp
  | connectingLocal | ready => exact absurd h.1 hp
  | proxying | killDelay | proxied => exact ht
  | badErrorDelay | minimumDelay | returning | returned => exact .tunnelled ht
  | idleRemoved r =>
      cases r with
      | stream | failed => exact absurd h.1.proxy hp
      | elapsed => exact .tunnelled ht

theorem invAt_drop (h : InvAt env w proxy pc) : InvAt env w none pc := by
  by_cases hp : proxy = none
  · rw [hp] at h
    exact h
  · obtain ⟨p, hsome⟩ := Option.ne_none_iff_exists'.mp hp
    exact invAt_of_tunnelled h hp (tunnelled_of_proxy h hsome).drop

theorem invAt_congr {w' : Wires} (h : InvAt env w proxy pc)
    (hu : Untouched w proxy → Untouched w' proxy)
    (hh : ∀ e, Holds env.cbor env.args e w.ebb → Holds env.cbor env.args e w'.ebb)
    (ha : ∀ l, Answering env l w proxy → Answering env l w' proxy)
    (ht : Tunnelled env w proxy → Tunnelled env w' proxy)
    (ho : Over env w proxy → Over env w' proxy) : InvAt env w' proxy pc := by
  cases pc with
  | started | establishing => exact ⟨hu h.1, hh _ h.2⟩
  | connectingLocal | ready => exact ha _ h
  | proxying | killDelay | proxied => exact ht h
  | badErrorDelay | minimumDelay | returning | returned => exact ho h
  | idleRemoved r =>
      cases r with
      | stream | failed => exact ⟨hu h.1, hh _ h.2⟩
      | elapsed => exact ho h

theorem tunnelled_pushEbb {n : Nat} (h : Tunnelled env w proxy) :
    Tunnelled env { w with ebb := w.ebb.push n } proxy := by
  obtain ⟨hresponse, payload, loc, haccepted, hloc, ⟨⟨copied, hle, hw⟩, hlocal, hunread⟩, hlinked⟩ := h
  exact ⟨hresponse, payload, loc, haccepted, hloc,
    ⟨⟨copied, hle, by rw [Stream.push_written, hw]⟩, hlocal, hunread⟩,
    fun p hp => linked_pushEbb (hlinked p hp)⟩

theorem invAt_pushEbb {n : Nat} (h : InvAt env w proxy pc) :
    InvAt env { w with ebb := w.ebb.push n } proxy pc := by
  refine invAt_congr h (fun hu => ⟨hu.tried, hu.loc, hu.proxy⟩) (fun e he => holds_push he) ?_
    tunnelled_pushEbb ?_
  · rintro l ⟨hnone, payload, haccepted, hanswers⟩
    exact ⟨hnone, payload, haccepted, answers_pushEbb hanswers⟩
  · intro ho
    cases ho with
    | untouched hu hw =>
        exact .untouched ⟨hu.tried, hu.loc, hu.proxy⟩ (by rw [Stream.push_written]; exact hw)
    | answered hnone haccepted hanswered =>
        exact .answered hnone haccepted (answered_pushEbb hanswered)
    | tunnelled ht => exact .tunnelled (tunnelled_pushEbb ht)

theorem tunnelled_pushLocal {n : Nat} (h : Tunnelled env w proxy) :
    Tunnelled env { w with loc := w.loc.map (·.push n) } proxy := by
  obtain ⟨hresponse, payload, loc, haccepted, hloc, ⟨hebb, hlocal, hunread⟩, hlinked⟩ := h
  exact ⟨hresponse, payload, loc.push n, haccepted, by rw [hloc]; rfl,
    ⟨hebb, by rw [Stream.push_written]; exact hlocal, hunread⟩,
    fun p hp => linked_pushLocal (hlinked p hp)⟩

theorem invAt_pushLocal {n : Nat} (h : InvAt env w proxy pc) :
    InvAt env { w with loc := w.loc.map (·.push n) } proxy pc := by
  have hu : Untouched w proxy → Untouched { w with loc := w.loc.map (·.push n) } proxy :=
    fun hu => ⟨hu.tried, by rw [hu.loc]; rfl, hu.proxy⟩
  refine invAt_congr h hu (fun e he => he) ?_ tunnelled_pushLocal ?_
  · rintro l ⟨hnone, payload, haccepted, hanswers⟩
    exact ⟨hnone, payload, haccepted, answers_pushLocal hanswers⟩
  · intro ho
    cases ho with
    | untouched hun hw => exact .untouched (hu hun) hw
    | answered hnone haccepted hanswered =>
        exact .answered hnone haccepted (answered_pushLocal hanswered)
    | tunnelled ht => exact .tunnelled (tunnelled_pushLocal ht)

theorem inv_spawned : Inv env (.spawned sent) :=
  ⟨⟨rfl, rfl, rfl⟩, rfl, rfl⟩

theorem connectLocal_sent {l l' : ConnectLocal} {m : Option String} {w w' : Wires}
    (h : ConnectLocal.Step env.cbor env.debug env.args l w m l' w') : w'.ebb.sent = w.ebb.sent := by
  cases h <;> rfl

theorem inv_step (h : Inv env c) (hstep : Step env told c effect c') : Inv env c' := by
  cases hstep with
  | begin hpc => exact (h.at hpc :)
  | establish hpc hest =>
      obtain ⟨hu, hholds⟩ := h.at hpc
      exact ⟨⟨hu.tried, hu.loc, hu.proxy⟩, holds_step hholds hest⟩
  | @established r hpc =>
      obtain ⟨hu, hholds⟩ := h.at hpc
      cases r with
      | ok => exact ⟨hu, hholds⟩
      | error e => exact ⟨hu, hholds⟩
  | elapsed hpc =>
      obtain ⟨hu, hholds⟩ := h.at hpc
      exact over_of_holds hu hholds
  | timedOut hpc => exact (h.at hpc :)
  | @failed e hpc =>
      obtain ⟨hu, hholds⟩ := h.at hpc
      have hover : Over env c.wires c.proxy := over_of_holds hu hholds
      simp only [Inv, afterError]
      cases refusedFor e with
      | none => exact hover
      | some => exact hover
  | badErrorDelayed hpc | minimumDelayed hpc => exact (h.at hpc :)
  | dropIdle hpc =>
      obtain ⟨hu, hwritten, payload, haccepted⟩ := h.at hpc
      refine ⟨hu.proxy, _, ⟨payload, haccepted⟩, hu.loc, ?_, List.nil_prefix, rfl, ?_⟩
      · rw [List.append_nil]
        exact hwritten
      · intro l hl
        rw [hu.loc] at hl
        cases hl
  | connectLocal hpc hlocal =>
      obtain ⟨hnone, payload, haccepted, hanswers⟩ := h.at hpc
      rw [← connectLocal_sent hlocal] at haccepted
      exact ⟨hnone, payload, haccepted, answers_step hanswers hlocal⟩
  | connectedLocal hpc => exact (h.at hpc :)
  | unconnected hpc =>
      obtain ⟨hnone, payload, haccepted, tail, hanswered⟩ := h.at hpc
      exact .answered hnone haccepted hanswered
  | addActive hpc =>
      obtain ⟨_, payload, haccepted, hsome, hresponse, hanswered⟩ := h.at hpc
      exact Over.start_tunnel hsome hresponse haccepted hanswered
  | proxy hp hloc hproxy =>
      have hne : c.proxy ≠ none := by
        rw [hp]
        exact Option.some_ne_none _
      exact invAt_of_tunnelled h hne ((tunnelled_of_proxy h hp).step hp hloc hproxy)
  | proxyEnded hpc => exact Tunnelled.drop (h.at hpc :)
  | stopped hpc | killed hpc => exact (h.at hpc :)
  | detachedEnded | aborted => exact invAt_drop h
  | removeActive hpc => exact .tunnelled (h.at hpc :)
  | returnIdle hpc | returnPlain hpc => exact (h.at hpc :)
  | pushEbb => exact invAt_pushEbb h
  | pushLocal => exact invAt_pushLocal h

theorem step_sent (hstep : Step env told c effect c') : c'.wires.ebb.sent = c.wires.ebb.sent := by
  cases hstep with
  | establish _ hest => exact Handshake.step_sent hest
  | connectLocal _ hlocal => exact connectLocal_sent hlocal
  | proxy _ _ hproxy =>
      cases hproxy with
      | local2ebb _ hcopy => exact (CopyBytes.step_sent hcopy).2
      | ebb2local _ hcopy => exact (CopyBytes.step_sent hcopy).1
  | _ => rfl

theorem run_inv (h : Run env sent c effects) : Inv env c ∧ c.wires.ebb.sent = sent := by
  induction h with
  | spawned => exact ⟨inv_spawned, rfl⟩
  | step told _ hstep ih => exact ⟨inv_step ih.1 hstep, (step_sent hstep).trans ih.2⟩

def Ran (env : Env) (c : Conn) : Prop := ∃ effects, Run env c.wires.ebb.sent c effects

theorem ran_spawned : Ran env (.spawned sent) := ⟨[], .spawned⟩

theorem Ran.step (h : Ran env c) (hstep : Step env told c effect c') : Ran env c' := by
  obtain ⟨effects, hrun⟩ := h
  rw [Ran, step_sent hstep]
  exact ⟨_, hrun.step told hstep⟩

/-- In whatever phase, a connection has done no more than `Over` says. -/
theorem Inv.over (h : Inv env c) : Over env c.wires c.proxy := by
  rw [Inv] at h
  cases hpc : c.pc with rw [hpc] at h
  | started | establishing => exact over_of_holds h.1 h.2
  | proxying | killDelay | proxied => exact .tunnelled h
  | badErrorDelay | minimumDelay | returning | returned => exact h
  | ready =>
      obtain ⟨hnone, payload, haccepted, hanswers⟩ := h
      exact .answered hnone haccepted hanswers.2.2
  | connectingLocal l =>
      obtain ⟨hnone, payload, haccepted, hanswers⟩ := h
      cases l with
      | connecting | dialing => exact .answered hnone haccepted hanswers.2
      | responding =>
          obtain ⟨_, tail, _, hanswered⟩ := hanswers
          exact .answered hnone haccepted hanswered
      | finished result =>
          cases result with
          | ok => exact .answered hnone haccepted hanswers.2.2
          | error =>
              obtain ⟨tail, hanswered⟩ := hanswers
              exact .answered hnone haccepted hanswered
  | idleRemoved r =>
      cases r with
      | stream | failed => exact over_of_holds h.1 h.2
      | elapsed => exact h

def sampleEnv : Env where
  cbor := serdeCbor
  debug := ⟨fun _ => "error", fun _ => "127.0.0.1:80"⟩
  args := ⟨"test.mywebsite.com", "key", [⟨.V4 0x7f000001, 80⟩], .Tls⟩

def saidHello (sent : Bytes) (e : Establish) (unread : Bytes) : Conn :=
  ⟨.establishing e, true, ⟨⟨sent, unread, helloFrame sampleEnv, []⟩, none, []⟩, none, false⟩

theorem run_saidHello (sent : Bytes) : ∃ effects,
    Run sampleEnv sent (saidHello sent (.awaitHelloResponse .start) sent) effects := by
  have r := (Run.spawned : Run sampleEnv sent _ _)
  have r := r.step false (.begin rfl)
  have r := r.step false (.establish rfl (.tcpConnected _))
  have r := r.step false (.establish rfl (.tlsConnected _))
  have r := r.step false (.establish rfl (.wroteAll _))
  have r := r.step false (.pushEbb _ 1000)
  have r := r.step false (.establish rfl (.flushed _ rfl))
  exact ⟨_, r⟩

end Ebbflow.ConnectionRun
