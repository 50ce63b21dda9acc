import Ebbflow.Tunnel

namespace Ebbflow.HalfClose

open Lib.Wire Lib.Streams CopyBytes RunConnection Handshake Dialogue ConnectionRun Tunnel

variable {env : Env} {told : Bool} {sent source base payload : Bytes} {c c' : Conn} {effect : Effect}
  {effects : List Effect} {copy copy' : Copy} {r w r' w' : Stream} {p p' : Proxy} {loc loc' : Stream}

def Delivered (source base : Bytes) (w : Stream) : Prop :=
  w.written = base ++ source ∧ (source = [] ∨ w.held = [])

/-- A running loop has nothing left to pass on. -/
def Quiet : Copy → (r w : Stream) → Prop
  | .reading, r, _ => r.unread = []
  | .writing _, _, _ => False
  | .flushing, r, w => r.unread = [] ∧ w.held = []
  | .finished _, _, _ => False

def Moved (source : Bytes) : Copy → Prop
  | .reading => True
  | .writing rest => rest ≠ []
  | .flushing => source ≠ []
  | .finished _ => True

theorem moved_step (hmoved : Moved source copy) (h : Relays source base copy r w)
    (hstep : Copy.Step copy r w copy' r' w') : Moved source copy' := by
  cases hstep with
  | readSome _ _ _ hread => exact hread.1
  | readEof | readFailed | writeFailed | flushed | flushFailed => trivial
  | wroteSome _ _ _ hleft => exact hleft
  | wroteAll _ _ rest =>
      obtain ⟨copied, lost, hsource, _, rfl⟩ := h
      intro hempty
      rw [hempty] at hsource
      simp only [List.nil_eq, List.append_eq_nil_iff] at hsource
      exact hmoved hsource.1.2

/-- What a running loop still has to do decides whether all was delivered. -/
theorem delivered_iff_quiet (h : Relays source base copy r w) (hmoved : Moved source copy)
    (hrunning : copy.isFinished = false) : Delivered source base w ↔ Quiet copy r w := by
  obtain ⟨copied, lost, hsource, hwritten, hsettled⟩ := h
  have hall : w.written = base ++ source ↔ lost ++ r.unread = [] := by
    rw [hwritten, hsource, List.append_assoc, List.append_cancel_left_eq, List.self_eq_append_right]
  cases copy with
  | reading =>
      obtain ⟨rfl, hflushed⟩ := hsettled
      rw [Delivered, hall, List.nil_append, Quiet]
      refine ⟨And.left, fun hunread => ⟨hunread, ?_⟩⟩
      rw [hsource, hunread, List.append_nil, List.append_nil]
      exact hflushed
  | writing rest =>
      obtain rfl := hsettled
      refine iff_of_false ?_ id
      rintro ⟨hdone, _⟩
      exact hmoved (List.append_eq_nil_iff.mp (hall.mp hdone)).1
  | flushing =>
      obtain rfl := hsettled
      rw [Delivered, hall, List.nil_append, or_iff_right hmoved, Quiet]
  | finished => cases hrunning

theorem delivered_of_finished (h : Relays source base copy r w) (hok : copy = .finished (.ok ())) :
    Delivered source base w := by
  rw [hok] at h
  exact h.finished.2

theorem accepted_unique {cbor : Messaging.SerdeCbor} {payload' : Bytes} (h : Accepted cbor sent payload)
    (h' : Accepted cbor sent payload') : payload = payload' := by
  obtain ⟨rest, hwelcome, hstart⟩ := h
  obtain ⟨rest', hwelcome', hstart'⟩ := h'
  obtain rfl : rest = rest' := congrArg Prod.snd (hwelcome.symm.trans hwelcome')
  exact congrArg Prod.snd (hstart.symm.trans hstart')

def BothMoved (payload : Bytes) (p : Proxy) (loc : Stream) : Prop :=
  Moved loc.sent p.local2ebb ∧ Moved payload p.ebb2local

theorem bothMoved_step {said : Bytes} {ebb ebb' : Stream} (h : BothMoved payload p loc)
    (hlinked : Linked said payload p ebb loc) (hstep : Proxy.Step p ebb loc p' ebb' loc') :
    BothMoved payload p' loc' := by
  obtain ⟨hlocal, hebb⟩ := h
  cases hstep with
  | local2ebb _ hcopy =>
      rw [BothMoved, (CopyBytes.step_sent hcopy).1]
      exact ⟨moved_step hlocal hlinked.1 hcopy, hebb⟩
  | ebb2local _ hcopy =>
      rw [BothMoved, (CopyBytes.step_sent hcopy).2]
      exact ⟨hlocal, moved_step hebb hlinked.2 hcopy⟩

def ProxyMoved (payload : Bytes) (c : Conn) : Prop :=
  ∀ p loc, c.proxy = some p → c.wires.loc = some loc → BothMoved payload p loc

theorem proxyMoved_step (haccepted : Accepted env.cbor c.wires.ebb.sent payload) (hinv : Inv env c)
    (h : ProxyMoved payload c) (hstep : Step env told c effect c') : ProxyMoved payload c' := by
  intro p' loc' hp' hloc'
  cases hstep with
  | connectLocal hpc _ =>
      rw [(hinv.at hpc).1] at hp'
      cases hp'
  | addActive _ =>
      obtain rfl := Option.some.inj hp'
      exact ⟨trivial, trivial⟩
  | proxy hp hloc hproxy =>
      obtain rfl := Option.some.inj hp'
      obtain rfl := Option.some.inj hloc'
      obtain ⟨_, payload', loc, haccepted', htunnel, _, hlinked⟩ := tunnelled_of_proxy hinv hp
      obtain rfl := accepted_unique haccepted haccepted'
      obtain rfl := Option.some.inj (hloc.symm.trans htunnel)
      exact bothMoved_step (h _ _ hp hloc) (hlinked _ hp) hproxy
  | pushLocal =>
      obtain ⟨loc, hloc, rfl⟩ := Option.map_eq_some_iff.mp hloc'
      exact h p' loc hp' hloc
  | proxyEnded | detachedEnded | aborted => cases hp'
  | _ => exact h p' loc' hp' hloc'

theorem run_proxyMoved (h : Run env sent c effects) (haccepted : Accepted env.cbor sent payload) :
    ProxyMoved payload c := by
  induction h with
  | spawned =>
      intro p loc hp
      cases hp
  | step told hrun hstep ih =>
      obtain ⟨hinv, hsent⟩ := run_inv hrun
      exact proxyMoved_step (hsent ▸ haccepted) hinv ih hstep

/-- The proxy returns by itself: no stop came, and neither loop failed. -/
structure Returns (p : Proxy) (loc : Stream) (c : Conn) : Prop where
  pc : c.pc = .proxying
  proxy : c.proxy = some p
  loc : c.wires.loc = some loc
  ended : p.ended = true
  local2ebb : ∀ e, p.local2ebb ≠ .finished (.error e)
  ebb2local : ∀ e, p.ebb2local ≠ .finished (.error e)

def AllDelivered (env : Env) (payload : Bytes) (ebb loc : Stream) : Prop :=
  Delivered payload [] loc ∧ Delivered loc.sent (helloFrame env ++ responseFrame env true) ebb

/-- Whichever loop of `p` ends next, the other one has nothing left to do. -/
def OtherQuiet (p p' : Proxy) (ebb loc : Stream) : Prop :=
  (p'.local2ebb.isFinished → Quiet p.ebb2local ebb loc) ∧ (p'.ebb2local.isFinished → Quiet p.local2ebb loc ebb)

theorem returns_step (hp : c.proxy = some p) (hloc : c.wires.loc = some loc) (hrunning : p.ended = false)
    (hstep : Step env told c effect c') (hreturns : Returns p' loc' c') :
    Proxy.Step p c.wires.ebb loc p' c'.wires.ebb loc' := by
  have hended := hreturns.ended
  have hproxy := hreturns.proxy
  cases hstep with
  | proxy hp' hloc' hcopy =>
      obtain rfl := Option.some.inj (hp.symm.trans hp')
      obtain rfl := Option.some.inj (hloc.symm.trans hloc')
      obtain rfl := Option.some.inj hproxy
      obtain rfl := Option.some.inj hreturns.loc
      exact hcopy
  | addActive =>
      obtain rfl := Option.some.inj hproxy
      cases hended
  | proxyEnded | detachedEnded | aborted => cases hproxy
  | _ =>
      obtain rfl := Option.some.inj (hp.symm.trans hproxy)
      rw [hrunning] at hended
      cases hended

theorem step_finished (hstep : Copy.Step copy r w copy' r' w') (hfinished : copy'.isFinished = true)
    (hok : ∀ e, copy' ≠ .finished (.error e)) : copy' = .finished (.ok ()) ∧ r' = r ∧ w' = w := by
  cases hstep with
  | readEof => exact ⟨rfl, rfl, rfl⟩
  | readFailed _ _ e | writeFailed _ _ _ e | flushFailed _ _ e => exact absurd rfl (hok (.Io e))
  | readSome | wroteSome | wroteAll | flushed => cases hfinished

/-- When a proxy returns, both sides have everything exactly if the direction
that did not end had nothing left to do when the other one read its end of file. -/
theorem delivered_iff_other_quiet (h : Run env sent c effects) (hp : c.proxy = some p)
    (hloc : c.wires.loc = some loc) (hrunning : p.ended = false) (hstep : Step env told c effect c')
    (hreturns : Returns p' loc' c') :
    ∃ payload, Accepted env.cbor sent payload ∧
      (AllDelivered env payload c'.wires.ebb loc' ↔ OtherQuiet p p' c.wires.ebb loc) := by
  obtain ⟨hinv, hsent⟩ := run_inv h
  obtain ⟨_, payload, loc₀, haccepted, hloc₀, _, hlinked⟩ := tunnelled_of_proxy hinv hp
  obtain rfl := Option.some.inj (hloc.symm.trans hloc₀)
  rw [hsent] at haccepted
  refine ⟨payload, haccepted, ?_⟩
  obtain ⟨hmovedLocal, hmovedEbb⟩ := run_proxyMoved h haccepted p loc hp hloc
  obtain ⟨hlocal, hebb⟩ := hlinked p hp
  simp only [Proxy.ended, Bool.or_eq_false_iff] at hrunning
  have hended := hreturns.ended
  have hlocalOk := hreturns.local2ebb
  have hebbOk := hreturns.ebb2local
  generalize hebb' : c'.wires.ebb = ebb'
  have hproxy := returns_step hp hloc (by simp [Proxy.ended, hrunning]) hstep hreturns
  rw [hebb'] at hproxy
  cases hproxy with
  | local2ebb _ hcopy =>
      simp only [Proxy.ended, hrunning.2, Bool.or_false] at hended
      obtain ⟨rfl, rfl, rfl⟩ := step_finished hcopy hended hlocalOk
      have hnext := relays_step hlocal hcopy
      have hdone := delivered_of_finished hnext rfl
      rw [AllDelivered, and_iff_left hdone, delivered_iff_quiet hebb hmovedEbb hrunning.2]
      exact ⟨fun hquiet => ⟨fun _ => hquiet, by simp [hrunning.2]⟩, fun hother => hother.1 rfl⟩
  | ebb2local _ hcopy =>
      simp only [Proxy.ended, hrunning.1, Bool.false_or] at hended
      obtain ⟨rfl, rfl, rfl⟩ := step_finished hcopy hended hebbOk
      have hnext := relays_step hebb hcopy
      have hdone := delivered_of_finished hnext rfl
      rw [AllDelivered, and_iff_right hdone, delivered_iff_quiet hlocal hmovedLocal hrunning.1]
      exact ⟨fun hquiet => ⟨by simp [hrunning.1], fun _ => hquiet⟩, fun hother => hother.2 rfl⟩

def drained : Conn :=
  { openTunnel [9] with
    wires := ⟨⟨sampleSent, [], helloFrame sampleEnv ++ responseFrame sampleEnv true ++ [9], []⟩,
      some ⟨[9], [], [1, 2, 3], []⟩, [⟨.V4 0x7f000001, 80⟩]⟩ }

theorem run_drained : ∃ effects, Run sampleEnv sampleSent drained effects := by
  obtain ⟨_, r⟩ := run_openTunnel [9]
  have r := r.step false (.proxy rfl rfl (.local2ebb rfl (.readSome _ _ [9] (by decide))))
  have r := r.step false (.proxy rfl rfl (.local2ebb rfl (.wroteAll _ _ _)))
  have r := r.step false (.pushEbb _ 1000)
  have r := r.step false (.proxy rfl rfl (.local2ebb rfl (.flushed rfl)))
  have r := r.step false (.proxy rfl rfl (.ebb2local rfl (.readSome _ _ [1, 2, 3] (by decide))))
  have r := r.step false (.proxy rfl rfl (.ebb2local rfl (.wroteAll _ _ _)))
  have r := r.step false (.pushLocal _ 1000)
  have r := r.step false (.proxy rfl rfl (.ebb2local rfl (.flushed rfl)))
  exact ⟨_, r⟩

theorem delivered_iff_other_quiet_sample :
    ∃ c' payload, Step sampleEnv false drained .silent c' ∧ Accepted sampleEnv.cbor sampleSent payload ∧
      AllDelivered sampleEnv payload c'.wires.ebb ⟨[9], [], [1, 2, 3], []⟩ := by
  obtain ⟨_, r⟩ := run_drained
  have hstep : Step sampleEnv false drained .silent
      { drained with proxy := some ⟨.reading, .finished (.ok ())⟩ } :=
    .proxy rfl rfl (.ebb2local rfl (.readEof rfl))
  obtain ⟨payload, haccepted, hiff⟩ := delivered_iff_other_quiet r rfl rfl rfl hstep
    ⟨rfl, rfl, rfl, rfl, by simp, by simp⟩
  exact ⟨_, payload, hstep, haccepted, hiff.mpr ⟨by simp [Copy.isFinished], fun _ => rfl⟩⟩

/-- Ebbflow half-closes while the local server's answer is still to come. -/
theorem half_close_drops :
    ¬ ∀ env sent c effects p loc payload, Run env sent c effects → Returns p loc c →
      Accepted env.cbor sent payload → AllDelivered env payload c.wires.ebb loc := by
  intro h
  obtain ⟨_, r⟩ := run_openTunnel [9]
  obtain ⟨_, payload, _, haccepted, _⟩ := tunnelled_of_proxy (run_inv r).1 rfl
  have r := r.step false (.proxy rfl rfl (.ebb2local rfl (.readSome _ _ [1, 2, 3] (by decide))))
  have r := r.step false (.proxy rfl rfl (.ebb2local rfl (.wroteAll _ _ _)))
  have r := r.step false (.pushLocal _ 1000)
  have r := r.step false (.proxy rfl rfl (.ebb2local rfl (.flushed rfl)))
  have r := r.step false (.proxy rfl rfl (.ebb2local rfl (.readEof rfl)))
  have hall := h _ _ _ _ _ _ payload r ⟨rfl, rfl, rfl, rfl, by simp [Proxy.new], by simp⟩ haccepted
  have hlost : helloFrame sampleEnv ++ responseFrame sampleEnv true =
      helloFrame sampleEnv ++ responseFrame sampleEnv true ++ [9] := hall.2.1
  rw [List.self_eq_append_right] at hlost
  cases hlost

end Ebbflow.HalfClose
