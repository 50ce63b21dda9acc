import Ebbflow.InnerRun
import Ebbflow.Lib.Tally

namespace Ebbflow.Permits

open Lib.Tally Lib.Wire Daemon RunConnection InnerRun

variable {env : Env} {told : Bool} {c c' : Conn} {effect : Effect} {g g' : Generation}
  {m m' start : EndpointMeta} {idleconns maxconns : Nat} {t : ConnectionTask} {pre post : List ConnectionTask}

/-- Between `add_idle` and `remove_idle`. -/
def idleCounted (c : Conn) : Bool :=
  match c.pc with
  | .establishing _ => true
  | _ => false

/-- Between `add_active` and `remove_active`. -/
def activeCounted (c : Conn) : Bool :=
  match c.pc with
  | .proxying | .killDelay | .proxied => true
  | _ => false

def Permitted (c : Conn) : Prop :=
  match c.pc with
  | .started | .establishing _ | .idleRemoved _ => c.idlePermit = true
  | .badErrorDelay | .minimumDelay | .returning => True
  | .connectingLocal _ | .ready | .proxying | .killDelay | .proxied | .returned =>
      c.idlePermit = false

/-- `effect` switches on, switches off or leaves what is counted. -/
def Toggles (on off effect : Effect) (before after : Bool) : Prop :=
  (effect = on → before = false ∧ after = true) ∧
  (effect = off → before = true ∧ after = false) ∧
  (effect ≠ on → effect ≠ off → after = before)

theorem toggles_keep {on off : Effect} {before after : Bool} (hon : effect ≠ on)
    (hoff : effect ≠ off) (h : after = before) : Toggles on off effect before after :=
  ⟨fun he => absurd he hon, fun he => absurd he hoff, fun _ _ => h⟩

theorem toggles_on {on off : Effect} (hne : on ≠ off) : Toggles on off on false true :=
  ⟨fun _ => ⟨rfl, rfl⟩, fun he => absurd he hne, fun he => absurd rfl he⟩

theorem toggles_off {on off : Effect} (hne : off ≠ on) : Toggles on off off true false :=
  ⟨fun he => absurd he hne, fun _ => ⟨rfl, rfl⟩, fun _ he => absurd rfl he⟩

theorem noted_message (m : Option String) : noted m = .silent ∨ ∃ s, noted m = .message s := by
  cases m with
  | none => exact Or.inl rfl
  | some s => exact Or.inr ⟨s, rfl⟩

theorem noted_ne {m : Option String} (hsilent : effect ≠ .silent) (hmessage : ∀ s, effect ≠ .message s) :
    noted m ≠ effect := by
  intro h
  obtain hs | ⟨s, hs⟩ := noted_message m
  · exact hsilent (h.symm.trans hs)
  · exact hmessage s (h.symm.trans hs)

theorem afterError_cases (e : AwaitMessage.ConnectionError) :
    afterError e = .badErrorDelay ∨ afterError e = .minimumDelay := by
  rw [afterError]
  split
  · exact Or.inl rfl
  · exact Or.inr rfl

theorem idle_toggles (h : RunConnection.Step env told c effect c') :
    Toggles .addIdle .removeIdle effect (idleCounted c) (idleCounted c') := by
  cases h with
  | begin hpc =>
      simp only [idleCounted, hpc]
      exact toggles_on (by decide)
  | established hpc | elapsed hpc =>
      simp only [idleCounted, hpc]
      exact toggles_off (by decide)
  | @failed e hpc =>
      apply toggles_keep (by simp) (by simp)
      obtain he | he := afterError_cases e <;> simp only [idleCounted, hpc, he]
  | connectLocal hpc =>
      apply toggles_keep (noted_ne (by simp) (by simp)) (noted_ne (by simp) (by simp))
      simp only [idleCounted, hpc]
  | proxy | detachedEnded | aborted | pushEbb | pushLocal =>
      exact toggles_keep (by decide) (by decide) rfl
  | establish hpc | timedOut hpc | badErrorDelayed hpc | minimumDelayed hpc | dropIdle hpc
  | connectedLocal hpc | unconnected hpc | addActive hpc | proxyEnded hpc | stopped hpc | killed hpc
  | removeActive hpc | returnIdle hpc | returnPlain hpc =>
      exact toggles_keep (by decide) (by decide) (by simp only [idleCounted, hpc])

theorem active_toggles (h : RunConnection.Step env told c effect c') :
    Toggles .addActive .removeActive effect (activeCounted c) (activeCounted c') := by
  cases h with
  | addActive hpc =>
      simp only [activeCounted, hpc]
      exact toggles_on (by decide)
  | removeActive hpc =>
      simp only [activeCounted, hpc]
      exact toggles_off (by decide)
  | @failed e hpc =>
      apply toggles_keep (by simp) (by simp)
      obtain he | he := afterError_cases e <;> simp only [activeCounted, hpc, he]
  | connectLocal hpc =>
      apply toggles_keep (noted_ne (by simp) (by simp)) (noted_ne (by simp) (by simp))
      simp only [activeCounted, hpc]
  | proxy | detachedEnded | aborted | pushEbb | pushLocal =>
      exact toggles_keep (by decide) (by decide) rfl
  | begin hpc | establish hpc | established hpc | elapsed hpc | timedOut hpc | badErrorDelayed hpc
  | minimumDelayed hpc | dropIdle hpc | connectedLocal hpc | unconnected hpc | proxyEnded hpc
  | stopped hpc | killed hpc | returnIdle hpc | returnPlain hpc =>
      exact toggles_keep (by decide) (by decide) (by simp only [activeCounted, hpc])

theorem permitted_step (hc : Permitted c) (h : RunConnection.Step env told c effect c') :
    Permitted c' ∧ c'.idlePermit.toNat + released effect = c.idlePermit.toNat := by
  have hnoted : ∀ m, released (noted m) = 0 := fun m => by cases m <;> rfl
  cases h with
  | dropIdle hpc | returnIdle hpc hc =>
      simp_all [Permitted, released]
  | @failed e hpc =>
      refine ⟨?_, rfl⟩
      obtain he | he := afterError_cases e <;> simp only [Permitted, he]
  | connectLocal hpc =>
      simp only [Permitted, hpc] at hc
      exact ⟨hc, by rw [hnoted]; rfl⟩
  | proxy | detachedEnded | aborted | pushEbb | pushLocal => exact ⟨hc, rfl⟩
  | proxyEnded hpc | begin hpc | establish hpc | established hpc | elapsed hpc | timedOut hpc
  | badErrorDelayed hpc | minimumDelayed hpc | connectedLocal hpc | unconnected hpc | addActive hpc
  | stopped hpc | killed hpc | removeActive hpc =>
      simp only [Permitted, hpc] at hc
      exact ⟨by simp only [Permitted, hc], rfl⟩
  | returnPlain hpc hplain => exact ⟨hplain, rfl⟩

end Ebbflow.Permits
