import Ebbflow.Handshake
import Ebbflow.RunConnection

namespace Ebbflow.Dialogue

open Lib.Wire Lib.Streams Messaging AwaitMessage EstablishConnection LocalConnection CopyBytes RunConnection
open Handshake

variable {env : Env} {told : Bool} {sent payload said : Bytes} {c c' : Conn} {effect : Effect}
  {effects : List Effect} {w w' : Wires} {ebb ebb' loc loc' : Stream} {p p' : Proxy}

def response (cbor : SerdeCbor) (good : Bool) : Bytes :=
  match startTrafficResponse cbor good with
  | .ok bs => bs
  | .error _ => []

def Fresh (s : Stream) : Prop := s.written = [] ∧ s.unread = s.sent

/-- Of the response only `tail` has been written, and nothing has been proxied. -/
structure Answered (cbor : SerdeCbor) (said payload tail : Bytes) (w : Wires) : Prop where
  written : w.ebb.written = said ++ tail
  tail : tail <+: response cbor w.loc.isSome
  unread : w.ebb.unread = payload
  fresh : ∀ l, w.loc = some l → Fresh l

def Answers (cbor : SerdeCbor) (said payload : Bytes) : ConnectLocal → Wires → Prop
  | .connecting _ _, w => w.loc = none ∧ Answered cbor said payload [] w
  | .dialing _ _ _, w => w.loc = none ∧ Answered cbor said payload [] w
  | .responding outcome rest, w =>
      w.loc.isSome = ConnectLocal.good outcome ∧
        ∃ tail, startTrafficResponse cbor w.loc.isSome = .ok (tail ++ rest) ∧
          Answered cbor said payload tail w
  | .finished (.ok _), w =>
      w.loc.isSome ∧ startTrafficResponse cbor true = .ok (response cbor true) ∧
        Answered cbor said payload (response cbor true) w
  | .finished (.error _), w => ∃ tail, Answered cbor said payload tail w

theorem response_eq {cbor : SerdeCbor} {good : Bool} {bs : Bytes} (h : startTrafficResponse cbor good = .ok bs) :
    response cbor good = bs := by
  rw [response, h]

theorem answered_pushEbb {tail : Bytes} {n : Nat} (h : Answered env.cbor said payload tail w) :
    Answered env.cbor said payload tail { w with ebb := w.ebb.push n } where
  written := by rw [Stream.push_written, h.written]
  tail := h.tail
  unread := h.unread
  fresh := h.fresh

theorem fresh_push {n : Nat} (h : Fresh loc) : Fresh (loc.push n) :=
  ⟨by rw [Stream.push_written, h.1], h.2⟩

theorem answered_pushLocal {tail : Bytes} {n : Nat} (h : Answered env.cbor said payload tail w) :
    Answered env.cbor said payload tail { w with loc := w.loc.map (·.push n) } where
  written := h.written
  tail := by simpa only [Option.isSome_map] using h.tail
  unread := h.unread
  fresh := by
    intro l hl
    obtain ⟨loc, hloc, rfl⟩ := Option.map_eq_some_iff.mp hl
    exact fresh_push (h.fresh loc hloc)

theorem answers_pushEbb {l : ConnectLocal} {n : Nat} (h : Answers env.cbor said payload l w) :
    Answers env.cbor said payload l { w with ebb := w.ebb.push n } := by
  cases l with
  | connecting | dialing => exact ⟨h.1, answered_pushEbb h.2⟩
  | responding outcome rest =>
      obtain ⟨hgood, tail, htail, hanswered⟩ := h
      exact ⟨hgood, tail, htail, answered_pushEbb hanswered⟩
  | finished result =>
      cases result with
      | ok => exact ⟨h.1, h.2.1, answered_pushEbb h.2.2⟩
      | error =>
          obtain ⟨tail, hanswered⟩ := h
          exact ⟨tail, answered_pushEbb hanswered⟩

theorem answers_pushLocal {l : ConnectLocal} {n : Nat} (h : Answers env.cbor said payload l w) :
    Answers env.cbor said payload l { w with loc := w.loc.map (·.push n) } := by
  cases l with
  | connecting | dialing => exact ⟨by rw [h.1]; rfl, answered_pushLocal h.2⟩
  | responding outcome rest =>
      obtain ⟨hgood, tail, htail, hanswered⟩ := h
      refine ⟨by simpa only [Option.isSome_map] using hgood, tail, ?_, answered_pushLocal hanswered⟩
      simpa only [Option.isSome_map] using htail
  | finished result =>
      cases result with
      | ok => exact ⟨by simpa only [Option.isSome_map] using h.1, h.2.1, answered_pushLocal h.2.2⟩
      | error =>
          obtain ⟨tail, hanswered⟩ := h
          exact ⟨tail, answered_pushLocal hanswered⟩

theorem answers_respond {outcome : Except ConnectionError Unit}
    (hgood : w.loc.isSome = ConnectLocal.good outcome) (h : Answered env.cbor said payload [] w) :
    Answers env.cbor said payload (ConnectLocal.respond env.cbor outcome) w := by
  rw [ConnectLocal.respond]
  cases hresponse : startTrafficResponse env.cbor (ConnectLocal.good outcome) with
  | ok bs => exact ⟨hgood, [], by rw [hgood, hresponse, List.nil_append], h⟩
  | error e => exact ⟨[], h⟩

theorem answered_write {tail bs rest : Bytes} (h : Answered env.cbor said payload tail w)
    (htail : startTrafficResponse env.cbor w.loc.isSome = .ok (tail ++ (bs ++ rest))) :
    Answered env.cbor said payload (tail ++ bs) { w with ebb := w.ebb.write bs } where
  written := by rw [Stream.write_written, h.written, List.append_assoc]
  tail := ⟨rest, by rw [List.append_assoc, response_eq htail]⟩
  unread := h.unread
  fresh := h.fresh

theorem answers_step {l l' : ConnectLocal} {m : Option String}
    (h : Answers env.cbor said payload l w)
    (hstep : ConnectLocal.Step env.cbor env.debug env.args l w m l' w') :
    Answers env.cbor said payload l' w' := by
  cases hstep with
  | dial => exact ⟨h.1, h.2.written, h.2.tail, h.2.unread, h.2.fresh⟩
  | connected =>
      refine answers_respond rfl ⟨h.2.written, List.nil_prefix, h.2.unread, ?_⟩
      intro l hl
      obtain rfl := Option.some.inj hl
      exact ⟨rfl, rfl⟩
  | unusable | exhausted => exact answers_respond (by rw [h.1]; rfl) h.2
  | refused | timedOut => exact h
  | @wroteSome _ _ bs left =>
      obtain ⟨hgood, tail, htail, hanswered⟩ := h
      refine ⟨hgood, tail ++ bs, ?_, answered_write hanswered htail⟩
      rw [htail, List.append_assoc]
  | wroteAll _ outcome rest =>
      obtain ⟨hgood, tail, htail, hanswered⟩ := h
      have hall : startTrafficResponse env.cbor w.loc.isSome = .ok (tail ++ (rest ++ [])) := by
        rw [List.append_nil, htail]
      have hwritten := answered_write hanswered hall
      cases outcome with
      | ok =>
          have htrue : w.loc.isSome = true := hgood
          rw [htrue] at htail
          rw [← response_eq htail] at hwritten htail
          exact ⟨hgood, htail, hwritten⟩
      | error => exact ⟨_, hwritten⟩
  | writeFailed =>
      obtain ⟨_, tail, _, hanswered⟩ := h
      exact ⟨tail, hanswered⟩

/-- Both loops relay, one behind the frames of the handshake and one from the start. -/
def Linked (said payload : Bytes) (p : Proxy) (ebb loc : Stream) : Prop :=
  Relays loc.sent said p.local2ebb loc ebb ∧ Relays payload [] p.ebb2local ebb loc

theorem linked_step (h : Linked said payload p ebb loc) (hstep : Proxy.Step p ebb loc p' ebb' loc') :
    Linked said payload p' ebb' loc' ∧ ebb'.sent = ebb.sent ∧ loc'.sent = loc.sent := by
  obtain ⟨hlocal, hebb⟩ := h
  cases hstep with
  | local2ebb _ hcopy =>
      obtain ⟨hr, hw⟩ := step_sent hcopy
      obtain ⟨hwritten, hheld, hunread⟩ := step_other hcopy
      have hnext := relays_step hlocal hcopy
      rw [← hr] at hnext
      exact ⟨⟨hnext, relays_congr hunread hwritten (fun h => hheld.trans h) hebb⟩, hw, hr⟩
  | ebb2local _ hcopy =>
      obtain ⟨hr, hw⟩ := step_sent hcopy
      obtain ⟨hwritten, hheld, hunread⟩ := step_other hcopy
      have hother := relays_congr hunread hwritten (fun h => hheld.trans h) hlocal
      rw [← hw] at hother
      exact ⟨⟨hother, relays_step hebb hcopy⟩, hr, hw⟩

theorem linked_pushEbb {n : Nat} (h : Linked said payload p ebb loc) :
    Linked said payload p (ebb.push n) loc :=
  ⟨relays_congr rfl Stream.push_written Stream.push_held h.1,
    relays_congr Stream.push_unread rfl (fun h => h) h.2⟩

theorem linked_pushLocal {n : Nat} (h : Linked said payload p ebb loc) :
    Linked said payload p ebb (loc.push n) :=
  ⟨relays_congr Stream.push_unread rfl (fun h => h) h.1,
    relays_congr rfl Stream.push_written Stream.push_held h.2⟩

structure Copied (said payload : Bytes) (ebb loc : Stream) : Prop where
  toEbb : ∃ copied, copied <+: loc.sent ∧ ebb.written = said ++ copied
  toLocal : loc.written <+: payload
  unread : ebb.unread <:+ payload

theorem Linked.copied (h : Linked said payload p ebb loc) : Copied said payload ebb loc where
  toEbb := h.1.copied
  toLocal := by
    obtain ⟨copied, hcopied, hwritten⟩ := h.2.copied
    rw [hwritten]
    exact hcopied
  unread := by
    obtain ⟨copied, lost, hsource, -⟩ := h.2
    exact ⟨copied ++ lost, hsource.symm⟩

end Ebbflow.Dialogue
