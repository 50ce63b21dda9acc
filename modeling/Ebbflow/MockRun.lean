import Ebbflow.MockEbb

namespace Ebbflow.MockRun

open Lib.BigEndian Lib.Wire Lib.Streams Lib.Duplex Messaging Messaging.Message AwaitMessage CopyBytes
open Dialogue MockEbb MockEbb.Serving

variable {cbor : SerdeCbor} {s s' : Served} {x : Exchange} {reader reader' : Awaiting}
  {bs body source unread chunk : Bytes} {ebb : Stream} {customer : Option Stream}

def frame (cbor : SerdeCbor) (m : Message) : Bytes :=
  match m.toWireMessage cbor with
  | .ok msgvec => msgvec
  | .error _ => []

def before (cbor : SerdeCbor) : Exchange → Bytes
  | .hello => []
  | .traffic => frame cbor Exchange.hello.sends

def after (cbor : SerdeCbor) (x : Exchange) : Bytes := before cbor x ++ frame cbor x.sends

/-- What it has written while it reads: hellos are read first, responses last. -/
def beforeRead (cbor : SerdeCbor) : Exchange → Bytes
  | .hello => []
  | .traffic => after cbor .traffic

def Framed (bs body : Bytes) : Prop :=
  ∃ lenbuf, bs = lenbuf ++ body ∧ lenbuf.length = 4 ∧ beNat lenbuf = body.length

def Spoke (cbor : SerdeCbor) (x : Exchange) (bs : Bytes) : Prop :=
  ∃ body m, Framed bs body ∧ fromWireWithoutTheLengthPrefix cbor body = .ok m ∧ x.expects m = true

def Heard (cbor : SerdeCbor) : Exchange → Bytes → Prop
  | .hello, taken => taken = []
  | .traffic, taken => Spoke cbor .hello taken

/-- A reader has taken part of a frame from `source`, of which `unread` is left. -/
def Pending : Awaiting → (source unread : Bytes) → Prop
  | .lenbuf got, source, unread => source = got ++ unread ∧ got.length < 4
  | .msgbuf len got, source, unread =>
      ∃ lenbuf, source = lenbuf ++ got ++ unread ∧ lenbuf.length = 4 ∧ beNat lenbuf = len ∧ got.length < len

theorem pending_start (unread : Bytes) : Pending .start unread unread := ⟨rfl, Nat.zero_lt_succ 3⟩

theorem pending_missing (h : Pending reader source unread) : 0 < reader.missing := by
  cases reader with
  | lenbuf got => exact Nat.sub_pos_of_lt h.2
  | msgbuf len got =>
      obtain ⟨_, _, _, _, hlt⟩ := h
      exact Nat.sub_pos_of_lt hlt

theorem receive_next (h : Pending reader source (chunk ++ unread)) (hle : chunk.length ≤ reader.missing)
    (hreceive : receive reader chunk = .inl reader') : Pending reader' source unread := by
  have hpos := pending_missing h
  cases reader with
  | lenbuf got =>
      obtain ⟨hsource, _⟩ := h
      rw [← List.append_assoc] at hsource
      simp only [receive] at hreceive
      split_ifs at hreceive with hshort hzero
      · obtain rfl := Sum.inl.inj hreceive
        exact ⟨hsource, hshort⟩
      · obtain rfl := Sum.inl.inj hreceive
        have hlen : (got ++ chunk).length = 4 := length_of_full hle hpos hshort
        exact ⟨got ++ chunk, by rw [hsource, List.append_nil], hlen, rfl, Nat.pos_of_ne_zero hzero⟩
  | msgbuf len got =>
      obtain ⟨lenbuf, hsource, hfour, hlen, _⟩ := h
      simp only [receive] at hreceive
      split_ifs at hreceive with hshort
      obtain rfl := Sum.inl.inj hreceive
      exact ⟨lenbuf, by rw [hsource]; simp only [List.append_assoc], hfour, hlen, hshort⟩

theorem receive_done (h : Pending reader source (chunk ++ unread)) (hle : chunk.length ≤ reader.missing)
    (hreceive : receive reader chunk = .inr body) :
    ∃ bs, Framed bs body ∧ source = bs ++ unread := by
  have hpos := pending_missing h
  cases reader with
  | lenbuf got =>
      obtain ⟨hsource, _⟩ := h
      rw [← List.append_assoc] at hsource
      simp only [receive] at hreceive
      split_ifs at hreceive with hshort hzero
      obtain rfl := Sum.inr.inj hreceive
      have hlen : (got ++ chunk).length = 4 := length_of_full hle hpos hshort
      exact ⟨got ++ chunk, ⟨got ++ chunk, (List.append_nil _).symm, hlen, hzero⟩, hsource⟩
  | msgbuf len got =>
      obtain ⟨lenbuf, hsource, hfour, hlen, _⟩ := h
      simp only [receive] at hreceive
      split_ifs at hreceive with hshort
      obtain rfl := Sum.inr.inj hreceive
      have hfull : (got ++ chunk).length = len := length_of_full hle hpos hshort
      refine ⟨lenbuf ++ (got ++ chunk), ⟨lenbuf, rfl, hfour, hlen.trans hfull.symm⟩, ?_⟩
      rw [hsource]
      simp only [List.append_assoc]

/-- The mock stopped at a frame that decodes to `r`, which the exchange does not expect. -/
def Misheard (cbor : SerdeCbor) (sent : Bytes) (r : Except MessageError Message) : Prop :=
  ∃ x taken bs body rest, Heard cbor x taken ∧ Framed bs body ∧ sent = taken ++ bs ++ rest ∧
    fromWireWithoutTheLengthPrefix cbor body = r ∧ ∀ m, r = .ok m → x.expects m = false

def Unserved (customer : Option Stream) : Prop := ∀ k, customer = some k → Fresh k

def Attached (customer : Option Stream) : Exchange → Prop
  | .hello => customer = none
  | .traffic => customer.isSome

def Cut (cbor : SerdeCbor) (ebb : Stream) (customer : Option Stream) : Prop :=
  Unserved customer ∧ ∃ x, Attached customer x ∧ ebb.written <+: after cbor x

def Greeted (cbor : SerdeCbor) (ebb : Stream) : Prop :=
  ∃ taken, Spoke cbor .hello taken ∧ ebb.sent = taken ++ ebb.unread

def Copying (cbor : SerdeCbor) (c d : Copy) (ebb k : Stream) : Prop :=
  ∃ greeting response payload, Spoke cbor .hello greeting ∧ Spoke cbor .traffic response ∧
    ebb.sent = greeting ++ response ++ payload ∧ Relays payload [] c ebb k ∧
    Relays k.sent (after cbor .traffic) d k ebb

def Reproached (cbor : SerdeCbor) (sent : Bytes) : Panic → Prop
  | .Io _ => True
  | .Parse e => Misheard cbor sent (.error e)
  | .Unexpected m => Misheard cbor sent (.ok m)
  | .Encode e => ∃ x : Exchange, x.sends.toWireMessage cbor = .error e

def InvAt (cbor : SerdeCbor) (ebb : Stream) (customer : Option Stream) : Serving → Prop
  | reading x reader => ebb.written = beforeRead cbor x ∧ ebb.held = [] ∧ Unserved customer ∧
      Attached customer x ∧ ∃ taken source, Heard cbor x taken ∧ ebb.sent = taken ++ source ∧
        Pending reader source ebb.unread
  | writing x rest => ebb.written ++ rest = after cbor x ∧ Unserved customer ∧
      Attached customer x ∧ Greeted cbor ebb
  | flushing x => ebb.written = after cbor x ∧ Unserved customer ∧
      Attached customer x ∧ Greeted cbor ebb
  | pooled => ebb.written = after cbor .hello ∧ ebb.held = [] ∧ customer = none ∧ Greeted cbor ebb
  | copying c d => ∃ k, customer = some k ∧ Copying cbor c d ebb k
  | failed _ => Cut cbor ebb customer
  | panicked p => Cut cbor ebb customer ∧ Reproached cbor ebb.sent p

def Inv (cbor : SerdeCbor) (s : Served) : Prop := InvAt cbor s.ebb s.customer s.pc

theorem Inv.at {pc : Serving} (h : Inv cbor s) (hpc : s.pc = pc) : InvAt cbor s.ebb s.customer pc := hpc ▸ h

theorem after_le (x : Exchange) : after cbor x <+: after cbor .traffic := by
  cases x with
  | hello => exact List.prefix_append _ _
  | traffic => exact List.prefix_rfl

theorem beforeRead_le (x : Exchange) : beforeRead cbor x <+: after cbor x := by
  cases x with
  | hello => exact List.nil_prefix
  | traffic => exact List.prefix_rfl

theorem inv_ioFailure (h : Cut cbor ebb customer) (e : IoError) : InvAt cbor ebb customer (ioFailure x e) := by
  cases x with
  | hello => exact ⟨h, trivial⟩
  | traffic => exact h

theorem inv_say (hw : ebb.written = before cbor x) (hu : Unserved customer)
    (ha : Attached customer x) (hg : Greeted cbor ebb) : InvAt cbor ebb customer (say cbor x) := by
  rw [say]
  cases hwire : x.sends.toWireMessage cbor with
  | ok msgvec =>
      refine ⟨?_, hu, ha, hg⟩
      rw [after, frame, hwire, hw]
  | error e =>
      refine ⟨⟨hu, x, ha, ?_⟩, x, hwire⟩
      rw [hw]
      exact List.prefix_append _ _

theorem inv_onExpected {taken : Bytes} (hw : ebb.written = beforeRead cbor x) (hu : Unserved customer)
    (ha : Attached customer x) (hheard : Heard cbor x taken) (hspoke : Spoke cbor x bs)
    (hsent : ebb.sent = taken ++ bs ++ ebb.unread) :
    InvAt cbor ebb customer (onExpected cbor x) := by
  cases x with
  | hello =>
      obtain rfl : taken = [] := hheard
      exact inv_say hw hu ha ⟨bs, hspoke, by rw [hsent, List.nil_append]⟩
  | traffic =>
      obtain ⟨k, rfl⟩ := Option.isSome_iff_exists.mp ha
      obtain ⟨hwritten, hunread⟩ := hu k rfl
      exact ⟨k, rfl, taken, bs, ebb.unread, hheard, hspoke, hsent, relays_start rfl hwritten,
        relays_start hunread hw⟩

theorem inv_onMessage {taken : Bytes} (hw : ebb.written = beforeRead cbor x) (hu : Unserved customer)
    (ha : Attached customer x) (hheard : Heard cbor x taken) (hframed : Framed bs body)
    (hsent : ebb.sent = taken ++ bs ++ ebb.unread) :
    InvAt cbor ebb customer (onMessage cbor x (fromWireWithoutTheLengthPrefix cbor body)) := by
  have hcut : Cut cbor ebb customer := ⟨hu, x, ha, hw ▸ beforeRead_le x⟩
  cases hr : fromWireWithoutTheLengthPrefix cbor body with
  | error e => exact ⟨hcut, x, taken, bs, body, _, hheard, hframed, hsent, hr, by simp⟩
  | ok m =>
      rw [onMessage]
      split
      next hm => exact inv_onExpected hw hu ha hheard ⟨body, m, hframed, hr, hm⟩ hsent
      next hm =>
        refine ⟨hcut, x, taken, bs, body, _, hheard, hframed, hsent, hr, ?_⟩
        intro m' hm'
        obtain rfl := Except.ok.inj hm'
        exact Bool.eq_false_iff.mpr hm

theorem greeted_congr {ebb' : Stream} (h : Greeted cbor ebb) (hs : ebb'.sent = ebb.sent)
    (hu : ebb'.unread = ebb.unread) : Greeted cbor ebb' := by
  obtain ⟨taken, hspoke, hsent⟩ := h
  exact ⟨taken, hspoke, by rw [hs, hu, hsent]⟩

theorem cut_congr {ebb' : Stream} {customer' : Option Stream} (h : Cut cbor ebb customer)
    (hw : ebb'.written = ebb.written) (hu : Unserved customer → Unserved customer')
    (ha : ∀ x, Attached customer x → Attached customer' x) : Cut cbor ebb' customer' := by
  obtain ⟨hun, x, hat, hle⟩ := h
  exact ⟨hu hun, x, ha x hat, by rw [hw]; exact hle⟩

theorem inv_congr {ebb' : Stream} {customer' : Option Stream} {pc : Serving} (h : InvAt cbor ebb customer pc)
    (hs : ebb'.sent = ebb.sent) (hr : ebb'.unread = ebb.unread) (hw : ebb'.written = ebb.written)
    (hheld : ebb.held = [] → ebb'.held = []) (hu : Unserved customer → Unserved customer')
    (ha : ∀ x, Attached customer x → Attached customer' x)
    (hc : ∀ c d k, customer = some k → Copying cbor c d ebb k →
      ∃ k', customer' = some k' ∧ Copying cbor c d ebb' k') : InvAt cbor ebb' customer' pc := by
  cases pc with
  | reading x reader =>
      obtain ⟨hwritten, hh, hun, hat, taken, source, hheard, hsent, hpending⟩ := h
      exact ⟨hw.trans hwritten, hheld hh, hu hun, ha x hat, taken, source, hheard, hs.trans hsent,
        hr.symm ▸ hpending⟩
  | writing x rest =>
      obtain ⟨hwritten, hun, hat, hg⟩ := h
      exact ⟨by rw [hw, hwritten], hu hun, ha x hat, greeted_congr hg hs hr⟩
  | flushing x =>
      obtain ⟨hwritten, hun, hat, hg⟩ := h
      exact ⟨hw.trans hwritten, hu hun, ha x hat, greeted_congr hg hs hr⟩
  | pooled =>
      obtain ⟨hwritten, hh, hnone, hg⟩ := h
      exact ⟨hw.trans hwritten, hheld hh, ha .hello hnone, greeted_congr hg hs hr⟩
  | copying c d =>
      obtain ⟨k, hk, hcopying⟩ := h
      exact hc c d k hk hcopying
  | failed e => exact cut_congr h hw hu ha
  | panicked p => exact ⟨cut_congr h.1 hw hu ha, by rw [hs]; exact h.2⟩

theorem copying_toCustomer {c c' d : Copy} {k ebb' k' : Stream} (h : Copying cbor c d ebb k)
    (hstep : Copy.Step c ebb k c' ebb' k') : Copying cbor c' d ebb' k' := by
  obtain ⟨greeting, response, payload, hg, hr, hsent, hto, hfrom⟩ := h
  obtain ⟨hebb, hcust⟩ := CopyBytes.step_sent hstep
  obtain ⟨hwritten, hheld, hunread⟩ := step_other hstep
  have hother := relays_congr hunread hwritten (fun hnil => hheld.trans hnil) hfrom
  rw [← hcust] at hother
  exact ⟨greeting, response, payload, hg, hr, hebb.trans hsent, relays_step hto hstep, hother⟩

theorem copying_fromCustomer {c d d' : Copy} {k ebb' k' : Stream} (h : Copying cbor c d ebb k)
    (hstep : Copy.Step d k ebb d' k' ebb') : Copying cbor c d' ebb' k' := by
  obtain ⟨greeting, response, payload, hg, hr, hsent, hto, hfrom⟩ := h
  obtain ⟨hcust, hebb⟩ := CopyBytes.step_sent hstep
  obtain ⟨hwritten, hheld, hunread⟩ := step_other hstep
  have hnext := relays_step hfrom hstep
  rw [← hcust] at hnext
  exact ⟨greeting, response, payload, hg, hr, hebb.trans hsent,
    relays_congr hunread hwritten (fun hnil => hheld.trans hnil) hto, hnext⟩

theorem inv_pushEbb {n : Nat} {pc : Serving} (h : InvAt cbor ebb customer pc) :
    InvAt cbor (ebb.push n) customer pc := by
  refine inv_congr h rfl rfl Stream.push_written Stream.push_held id (fun _ ha => ha) ?_
  intro c d k hk ⟨greeting, response, payload, hg, hr, hsent, hto, hfrom⟩
  exact ⟨k, hk, greeting, response, payload, hg, hr, hsent,
    relays_congr Stream.push_unread rfl id hto, relays_congr rfl Stream.push_written Stream.push_held hfrom⟩

theorem inv_pushCustomer {n : Nat} {pc : Serving} (h : InvAt cbor ebb customer pc) :
    InvAt cbor ebb (customer.map (·.push n)) pc := by
  refine inv_congr h rfl rfl rfl id ?_ ?_ ?_
  · intro hu k hk
    obtain ⟨k', hk', rfl⟩ := Option.map_eq_some_iff.mp hk
    exact fresh_push (hu k' hk')
  · intro x ha
    cases x with
    | hello =>
        obtain rfl : customer = none := ha
        rfl
    | traffic =>
        rw [Attached, Option.isSome_map]
        exact ha
  · rintro c d k rfl ⟨greeting, response, payload, hg, hr, hsent, hto, hfrom⟩
    exact ⟨k.push n, rfl, greeting, response, payload, hg, hr, hsent,
      relays_congr rfl Stream.push_written Stream.push_held hto,
      relays_congr Stream.push_unread rfl id hfrom⟩

theorem inv_accepted (sent : Bytes) : Inv cbor (.accepted sent) := by
  refine ⟨rfl, rfl, ?_, rfl, [], sent, rfl, rfl, pending_start sent⟩
  intro k hk
  cases hk

theorem inv_step (h : Inv cbor s) (hstep : Step cbor s s') : Inv cbor s' := by
  cases hstep with
  | @read x reader chunk hpc hread =>
      obtain ⟨hw, hheld, hu, ha, taken, source, hheard, hsent, hpending⟩ := h.at hpc
      rw [Stream.unread_read hread] at hpending
      cases hreceive : receive reader chunk with
      | inl next =>
          exact ⟨hw, hheld, hu, ha, taken, source, hheard, hsent, receive_next hpending hread.2.1 hreceive⟩
      | inr body =>
          obtain ⟨bs, hframed, rfl⟩ := receive_done hpending hread.2.1 hreceive
          rw [← List.append_assoc] at hsent
          exact inv_onMessage hw hu ha hheard hframed hsent
  | readEof hpc _ | readFailed e hpc =>
      obtain ⟨hw, _, hu, ha, _⟩ := h.at hpc
      exact inv_ioFailure ⟨hu, _, ha, hw ▸ beforeRead_le _⟩ _
  | wroteSome hpc =>
      obtain ⟨hw, hu, ha, hg⟩ := h.at hpc
      exact ⟨by rw [Stream.write_written, List.append_assoc, hw], hu, ha, greeted_congr hg rfl rfl⟩
  | wroteAll hpc =>
      obtain ⟨hw, hu, ha, hg⟩ := h.at hpc
      exact ⟨by rw [Stream.write_written, hw], hu, ha, greeted_congr hg rfl rfl⟩
  | writeFailed e hpc =>
      obtain ⟨hw, hu, ha, _⟩ := h.at hpc
      exact inv_ioFailure ⟨hu, _, ha, _, hw⟩ e
  | @flushed x hpc hheld =>
      obtain ⟨hw, hu, ha, hg⟩ := h.at hpc
      cases x with
      | hello => exact ⟨hw, hheld, ha, hg⟩
      | traffic =>
          obtain ⟨taken, hspoke, hsent⟩ := hg
          exact ⟨hw, hheld, hu, ha, taken, s.ebb.unread, hspoke, hsent, pending_start _⟩
  | flushFailed e hpc =>
      obtain ⟨hw, hu, ha, _⟩ := h.at hpc
      exact inv_ioFailure ⟨hu, _, ha, hw ▸ List.prefix_rfl⟩ e
  | popped sent hpc =>
      obtain ⟨hw, _, _, hg⟩ := h.at hpc
      have hu : Unserved (some (.opened sent)) := by
        intro k hk
        obtain rfl := Option.some.inj hk
        exact ⟨rfl, rfl⟩
      have hbefore : s.ebb.written = before cbor .traffic := hw
      exact inv_say hbefore hu rfl hg
  | toCustomer hpc hk hcopy =>
      obtain ⟨k, hk', hcopying⟩ := h.at hpc
      obtain rfl := Option.some.inj (hk.symm.trans hk')
      exact ⟨_, rfl, copying_toCustomer hcopying hcopy⟩
  | fromCustomer hpc hk hcopy =>
      obtain ⟨k, hk', hcopying⟩ := h.at hpc
      obtain rfl := Option.some.inj (hk.symm.trans hk')
      exact ⟨_, rfl, copying_fromCustomer hcopying hcopy⟩
  | pushEbb n => exact inv_pushEbb h
  | pushCustomer n => exact inv_pushCustomer h

theorem reaches_inv {script : Bytes} (h : (mock cbor).Reaches script s) : Inv cbor s := by
  induction h with
  | refl => exact inv_accepted script
  | tail _ hstep ih => exact inv_step ih hstep

end Ebbflow.MockRun
