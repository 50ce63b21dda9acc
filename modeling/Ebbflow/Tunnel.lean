import Ebbflow.ConnectionRun

namespace Ebbflow.Tunnel

open Lib.Wire Lib.Streams Messaging AwaitMessage EstablishConnection LocalConnection CopyBytes RunConnection
open Handshake Dialogue ConnectionRun

variable {env : Env} {sent payload : Bytes} {c : Conn} {effects : List Effect}

theorem accepted_frames {cbor : SerdeCbor} (h : Accepted cbor sent payload) :
    ∃ welcome start, IsFrame cbor welcome (.HelloResponseV0 ⟨none⟩) ∧
      IsFrame cbor start .StartTrafficV0 ∧ sent = welcome ++ start ++ payload := by
  obtain ⟨rest, hwelcome, hstart⟩ := h
  obtain ⟨welcome, hframe, rfl⟩ := awaitMessage_frame hwelcome
  obtain ⟨start, hframe', rfl⟩ := awaitMessage_frame hstart
  exact ⟨welcome, start, hframe, hframe', (List.append_assoc _ _ _).symm⟩

/-- What the two ends of an open tunnel may have received. -/
structure Transparent (env : Env) (payload : Bytes) (ebb loc : Stream) : Prop where
  toLocal : loc.delivered <+: payload
  toEbb : ∀ received, helloFrame env ++ responseFrame env true ++ received <+: ebb.delivered →
    received <+: loc.sent

/-- What is true once a copy loop has returned `Ok`. -/
structure Complete (env : Env) (payload : Bytes) (p : Proxy) (ebb loc : Stream) : Prop where
  local2ebb : p.local2ebb = .finished (.ok ()) → loc.unread = [] ∧
    ebb.written = helloFrame env ++ responseFrame env true ++ loc.sent ∧
    (loc.sent = [] ∨ ebb.held = [])
  ebb2local : p.ebb2local = .finished (.ok ()) → ebb.unread = [] ∧ loc.written = payload ∧
    (payload = [] ∨ loc.held = [])

theorem prefix_of_written {said received copied delivered source : Bytes}
    (h : said ++ received <+: delivered) (hle : delivered <+: said ++ copied)
    (hcopied : copied <+: source) : received <+: source :=
  (List.prefix_append_right_inj said).mp (h.trans hle) |>.trans hcopied

theorem Copied.transparent {ebb loc : Stream}
    (h : Copied (helloFrame env ++ responseFrame env true) payload ebb loc) :
    Transparent env payload ebb loc where
  toLocal := (Stream.delivered_le loc).trans h.toLocal
  toEbb := by
    obtain ⟨copied, hcopied, hwritten⟩ := h.toEbb
    intro received hreceived
    have hle := Stream.delivered_le ebb
    rw [hwritten] at hle
    exact prefix_of_written hreceived hle hcopied

theorem Linked.complete {p : Proxy} {ebb loc : Stream}
    (h : Linked (helloFrame env ++ responseFrame env true) payload p ebb loc) :
    Complete env payload p ebb loc where
  local2ebb hp := by
    have hlocal := h.1
    rw [hp] at hlocal
    exact hlocal.finished
  ebb2local hp := by
    have hebb := h.2
    rw [hp] at hebb
    exact hebb.finished

/-- Before the tunnel opens, the local server has received nothing and Ebbflow
no byte behind a response that says `true`. -/
theorem Answered.transparent {tail : Bytes} {w : Wires} {loc : Stream} (hloc : w.loc = some loc)
    (h : Answered env.cbor (helloFrame env) payload tail w) :
    Transparent env payload w.ebb loc where
  toLocal := by
    have hnil := (h.fresh loc hloc).1
    have hle := Stream.delivered_le loc
    rw [hnil] at hle
    rw [List.prefix_nil.mp hle]
    exact List.nil_prefix
  toEbb := by
    intro received hreceived
    have hle := Stream.delivered_le w.ebb
    have htail := h.tail
    rw [hloc] at htail
    rw [h.written] at hle
    have hall := hreceived.trans (hle.trans (List.prefix_append_right_inj _ |>.mpr htail))
    have hlen := hall.length_le
    simp only [List.length_append, responseFrame, Option.isSome_some] at hlen
    rw [List.eq_nil_of_length_eq_zero (by omega : received.length = 0)]
    exact List.nil_prefix

theorem tunnel_transparent (env : Env) (sent : Bytes) (c : Conn) (effects : List Effect)
    (h : Run env sent c effects) (loc : Stream) (hloc : c.wires.loc = some loc) :
    ∃ welcome start payload, IsFrame env.cbor welcome (.HelloResponseV0 ⟨none⟩) ∧
      IsFrame env.cbor start .StartTrafficV0 ∧ sent = welcome ++ start ++ payload ∧
      Transparent env payload c.wires.ebb loc ∧
      ∀ p, c.proxy = some p → Complete env payload p c.wires.ebb loc := by
  obtain ⟨hinv, rfl⟩ := run_inv h
  cases hinv.over with
  | untouched hu =>
      rw [hu.loc] at hloc
      cases hloc
  | @answered payload tail hnone haccepted hanswered =>
      obtain ⟨welcome, start, hwelcome, hstart, hsent⟩ := accepted_frames haccepted
      refine ⟨welcome, start, payload, hwelcome, hstart, hsent,
        Answered.transparent hloc hanswered, ?_⟩
      intro p hp
      rw [hnone] at hp
      cases hp
  | tunnelled ht =>
      obtain ⟨_, payload, loc', haccepted, hloc', hcopied, hlinked⟩ := ht
      obtain rfl := Option.some.inj (hloc.symm.trans hloc')
      obtain ⟨welcome, start, hwelcome, hstart, hsent⟩ := accepted_frames haccepted
      exact ⟨welcome, start, payload, hwelcome, hstart, hsent, Copied.transparent hcopied,
        fun p hp => Linked.complete (hlinked p hp)⟩

def sampleSent : Bytes :=
  [0, 0, 0, 12, 0, 0, 0, 6, 161, 101, 105, 115, 115, 117, 101, 246, 0, 0, 0, 4, 0, 0, 0, 7, 1, 2, 3]

set_option maxRecDepth 4000 in
theorem run_accepted : ∃ effects,
    Run sampleEnv sampleSent (saidHello sampleSent (.finished (.ok ())) [1, 2, 3]) effects := by
  obtain ⟨_, r⟩ := run_saidHello sampleSent
  have r := r.step false (.establish rfl (.readHelloResponse _ _ [0, 0, 0, 12] (by decide)))
  have r := r.step false (.establish rfl
    (.readHelloResponse _ _ [0, 0, 0, 6, 161, 101, 105, 115, 115, 117, 101, 246] (by decide)))
  have r := r.step false (.establish rfl (.readTrafficStart _ _ [0, 0, 0, 4] (by decide)))
  have r := r.step false (.establish rfl (.readTrafficStart _ _ [0, 0, 0, 7] (by decide)))
  exact ⟨_, r⟩

def openTunnel (localSent : Bytes) : Conn where
  pc := .proxying
  idlePermit := false
  wires := ⟨⟨sampleSent, [1, 2, 3], helloFrame sampleEnv, responseFrame sampleEnv true⟩,
    some (.opened localSent), [⟨.V4 0x7f000001, 80⟩]⟩
  proxy := some .new
  abort := false

theorem run_openTunnel (localSent : Bytes) :
    ∃ effects, Run sampleEnv sampleSent (openTunnel localSent) effects := by
  obtain ⟨_, r⟩ := run_accepted
  have r := r.step false (.established rfl)
  have r := r.step false (.dropIdle rfl)
  have r := r.step false (.connectLocal rfl (.dial _ _ _ _))
  have r := r.step false (.connectLocal rfl (.connected _ _ _ _ localSent))
  have r := r.step false (.connectLocal rfl (.wroteAll _ _ _))
  have r := r.step false (.connectedLocal rfl)
  have r := r.step false (.addActive rfl)
  exact ⟨_, r⟩

theorem tunnel_transparent_sample :
    ∃ c effects loc, Run sampleEnv sampleSent c effects ∧ c.wires.loc = some loc ∧
      loc.written = [1, 2] ∧
      ∃ welcome start payload, IsFrame sampleEnv.cbor welcome (.HelloResponseV0 ⟨none⟩) ∧
        IsFrame sampleEnv.cbor start .StartTrafficV0 ∧ sampleSent = welcome ++ start ++ payload ∧
        Transparent sampleEnv payload c.wires.ebb loc ∧
        ∀ p, c.proxy = some p → Complete sampleEnv payload p c.wires.ebb loc := by
  obtain ⟨_, r⟩ := run_openTunnel [9]
  have r := r.step false (.proxy rfl rfl (.ebb2local rfl (.readSome _ _ [1, 2] (by decide))))
  have r := r.step false (.proxy rfl rfl (.ebb2local rfl (.wroteAll _ _ _)))
  exact ⟨_, _, _, r, rfl, rfl, tunnel_transparent _ _ _ _ r _ rfl⟩

end Ebbflow.Tunnel
