import Ebbflow.Lib.Cbor
import Ebbflow.Messaging

namespace Ebbflow.MessagingCbor

open Lib.Wire Lib.Cbor Messaging

variable {α β γ : Type}

/-- The variants of an enumeration without fields travel as their names. -/
def variants (all : List α) (name : α → String)
    (h : ∀ a, all.find? (fun b => name b = name a) = some a) : Format α :=
  text.restrict (fun s => all.find? fun a => name a = s) name h
    (by
      intro s a ha
      simpa using List.find?_some ha)

def fields (n : UInt8) (f : Format α) : Format α := behind [0xa0 + n] f

def field (name : String) (f : Format α) : Format α := behind (textBytes name) f

def record {p : Type} (f : Format p) (into : p → α) (out : α → p)
    (h : ∀ a, into (out a) = a) (h' : ∀ x, out (into x) = x) : Format α :=
  f.restrict (fun x => some (into x)) out (fun a => congrArg some (h a))
    (by
      intro x a hx
      obtain rfl := Option.some.inj hx
      exact h' x)

def endpointType : Format EndpointType :=
  variants [.Ssh, .Tls] (fun | .Ssh => "Ssh" | .Tls => "Tls") (by rintro (_ | _) <;> rfl)

def stringMap : Format StringMap :=
  (map text text).restrict
    (fun entries => if h : entries.Pairwise (fun a b => a.1 < b.1) then some ⟨entries, h⟩ else none)
    StringMap.entries (fun m => dif_pos m.sorted)
    (by
      intro entries m h
      split at h
      next =>
        obtain rfl := Option.some.inj h
        rfl
      next => cases h)

def hello : Format HelloV0 :=
  record
    (fields 4 (.seq (field "key" text) (.seq (field "endpoint_type" endpointType)
      (.seq (field "endpoint_value" text) (field "meta" stringMap)))))
    (fun x => ⟨x.1, x.2.1, x.2.2.1, x.2.2.2⟩)
    (fun x => (x.key, x.endpointType, x.endpointValue, x.metaMap)) (fun _ => rfl) (fun _ => rfl)

def status : Format StatusV0 :=
  record
    (fields 3 (.seq (field "endpoint_type" endpointType)
      (.seq (field "endpoint_value" text) (field "enabled" boolean))))
    (fun x => ⟨x.1, x.2.1, x.2.2⟩) (fun x => (x.endpointType, x.endpointValue, x.enabled))
    (fun _ => rfl) (fun _ => rfl)

def statusResponse : Format StatusResponseV0 :=
  record (fields 1 (field "statuses" (array status))) (fun x => ⟨x⟩) (fun x => x.statuses)
    (fun _ => rfl) (fun _ => rfl)

def specificEndpoints : Format (List String) := fields 1 (field "SpecificEndpoints" (array text))

inductive WholeTarget
  | AllEverything
  | AllEndpoints
  | Ssh

def wholeTarget : Format WholeTarget :=
  variants [.AllEverything, .AllEndpoints, .Ssh]
    (fun | .AllEverything => "AllEverything" | .AllEndpoints => "AllEndpoints" | .Ssh => "Ssh")
    (by rintro (_ | _ | _) <;> rfl)

theorem text_refuses_map (input : Bytes) : text.read (0xa1 :: input) = none := by
  have harg : argument 0xa1 = immediate 1 := rfl
  have hne : ¬ initial 3 1 = 0xa1 := by decide
  simp only [text, utf8, Format.restrict, Format.dependent, head, byte, Option.bind_some, harg,
    immediate, if_neg hne, Option.bind_none]

def target : Format EnableDisableTarget :=
  record
    (.either wholeTarget specificEndpoints (by
      intro names bs h rest
      simp only [specificEndpoints, fields, behind, Format.restrict, Format.seq, Format.literal,
        Option.bind_some, Option.map_eq_some_iff] at h
      obtain ⟨tail, _, rfl⟩ := h
      simp only [wholeTarget, variants, Format.restrict, List.cons_append, List.nil_append]
      rw [show (0xa0 + 1 : UInt8) = 0xa1 from rfl, text_refuses_map]
      rfl))
    (fun
      | .inl .AllEverything => .AllEverything
      | .inl .AllEndpoints => .AllEndpoints
      | .inl .Ssh => .Ssh
      | .inr endpoints => .SpecificEndpoints endpoints)
    (fun
      | .AllEverything => .inl .AllEverything
      | .AllEndpoints => .inl .AllEndpoints
      | .Ssh => .inl .Ssh
      | .SpecificEndpoints endpoints => .inr endpoints)
    (by rintro (_ | _ | _ | _) <;> rfl) (by rintro ((_ | _ | _) | _) <;> rfl)

def enableDisableRequest : Format EnableDisableRequestV0 :=
  record (fields 2 (.seq (field "should_be_running" boolean) (field "target" target)))
    (fun x => ⟨x.1, x.2⟩) (fun x => (x.shouldBeRunning, x.target)) (fun _ => rfl) (fun _ => rfl)

def helloResponseIssue : Format HelloResponseIssue :=
  variants [.NotFound, .Forbidden, .BadRequest]
    (fun | .NotFound => "NotFound" | .Forbidden => "Forbidden" | .BadRequest => "BadRequest")
    (by rintro (_ | _ | _) <;> rfl)

theorem initial_text_ne_null (n : Nat) : initial 3 n ≠ 0xf6 := by
  intro h
  have hle := additional_le n
  have ht := congrArg UInt8.toNat h
  rw [initial, UInt8.toNat_ofNat'] at ht
  have : (0xf6 : UInt8).toNat = 246 := rfl
  omega

def issue : Format (Option HelloResponseIssue) :=
  record
    (.either (.literal null) helloResponseIssue (by
      intro i bs h rest
      obtain ⟨n, tail, rfl⟩ := text_write h
      have hne : ¬ null <+: initial 3 n :: tail ++ rest := by
        rintro ⟨post, hpost⟩
        exact initial_text_ne_null n (List.cons.inj hpost).1.symm
      simp only [Format.literal, if_neg hne]))
    (fun | .inl _ => none | .inr i => some i) (fun | none => .inl () | some i => .inr i)
    (by rintro (_ | _) <;> rfl) (by rintro (_ | _) <;> rfl)

def helloResponse : Format HelloResponseV0 :=
  record (fields 1 (field "issue" issue)) (fun x => ⟨x⟩) (fun x => x.issue) (fun _ => rfl)
    (fun _ => rfl)

def startTrafficResponse : Format StartTrafficResponseV0 :=
  record (fields 1 (field "open_local_success_ready" boolean)) (fun x => ⟨x⟩)
    (fun x => x.openLocalSuccessReady) (fun _ => rfl) (fun _ => rfl)

def codec (f : Format α) : Codec α := ⟨f.write, f.readAll⟩

theorem codec_roundTrip (f : Format α) : (codec f).RoundTrip := fun h => f.readAll_write h

/-- A `serde_cbor` that reads nothing but what it writes. -/
def serdeCbor : SerdeCbor where
  hello := codec hello
  statusResponse := codec statusResponse
  enableDisableRequest := codec enableDisableRequest
  helloResponse := codec helloResponse
  startTrafficResponse := codec startTrafficResponse

theorem serdeCbor_roundTrip : serdeCbor.RoundTrip where
  hello := codec_roundTrip hello
  statusResponse := codec_roundTrip statusResponse
  enableDisableRequest := codec_roundTrip enableDisableRequest
  helloResponse := codec_roundTrip helloResponse
  startTrafficResponse := codec_roundTrip startTrafficResponse

theorem codec_rejectsTrailing (f : Format α) : (codec f).RejectsTrailing :=
  fun h h' => f.readAll_append h h'

theorem serdeCbor_rejectsTrailing : serdeCbor.RejectsTrailing where
  hello := codec_rejectsTrailing hello
  statusResponse := codec_rejectsTrailing statusResponse
  enableDisableRequest := codec_rejectsTrailing enableDisableRequest
  helloResponse := codec_rejectsTrailing helloResponse
  startTrafficResponse := codec_rejectsTrailing startTrafficResponse

theorem codec_canonical (f : Format α) : (codec f).Canonical := fun h => f.write_readAll h

theorem serdeCbor_canonical : serdeCbor.Canonical where
  hello := codec_canonical hello
  statusResponse := codec_canonical statusResponse
  enableDisableRequest := codec_canonical enableDisableRequest
  helloResponse := codec_canonical helloResponse
  startTrafficResponse := codec_canonical startTrafficResponse

example : (Message.HelloResponseV0 ⟨some .Forbidden⟩).toWireMessage serdeCbor =
    .ok [0, 0, 0, 21, 0, 0, 0, 6, 161, 101, 105, 115, 115, 117, 101, 105,
      70, 111, 114, 98, 105, 100, 100, 101, 110] := by
  decide

end Ebbflow.MessagingCbor
