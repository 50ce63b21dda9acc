import Mathlib.Logic.Basic

namespace Ebbflow.Lib.Wakeup

/-- A cell that one task waits on: at most one permit is stored, and only
while nobody waits. -/
inductive Notify
  | EMPTY
  | WAITING
  | NOTIFIED
  deriving DecidableEq, Repr

namespace Notify

def notify : Notify → Notify × Bool
  | EMPTY => (NOTIFIED, false)
  | NOTIFIED => (NOTIFIED, false)
  | WAITING => (EMPTY, true)

def poll : Notify → Notify × Bool
  | EMPTY => (WAITING, false)
  | WAITING => (WAITING, false)
  | NOTIFIED => (EMPTY, true)

end Notify

/-- One task that passes over some sources again and again and waits between
two passes. Each write to a source owes one notification. -/
structure Watch where
  writes : Nat
  undelivered : Nat
  notify : Notify
  /-- How many writes had happened when the latest pass began. -/
  began : Nat
  woken : Bool
  deriving DecidableEq, Repr

namespace Watch

inductive Step : Watch → Watch → Prop
  | write (w) : Step w { w with writes := w.writes + 1, undelivered := w.undelivered + 1 }
  | deliver {w n} : w.undelivered = n + 1 → Step w { w with
      undelivered := n, notify := w.notify.notify.1, woken := w.woken || w.notify.notify.2 }
  | spurious (w) : Step w { w with
      notify := w.notify.notify.1, woken := w.woken || w.notify.notify.2 }
  | consume {w} : w.woken = false → w.notify = .NOTIFIED →
      Step w { w with notify := .EMPTY, began := w.writes }
  | park {w} : w.woken = false → w.notify = .EMPTY → Step w { w with notify := .WAITING }
  | resume {w} : w.woken = true → Step w { w with woken := false, began := w.writes }

/-- Nothing the latest pass may have missed goes unannounced. -/
structure Announced (w : Watch) : Prop where
  began_le : w.began ≤ w.writes
  pending : w.began = w.writes ∨ 0 < w.undelivered ∨ w.notify = .NOTIFIED ∨ w.woken = true
  waiting : w.notify = .WAITING → w.woken = false

variable {w w' : Watch}

theorem Announced.notified (h : Announced w) (n : Nat) : Announced { w with
    undelivered := n, notify := w.notify.notify.1, woken := w.woken || w.notify.notify.2 } := by
  refine ⟨h.began_le, ?_, ?_⟩
  · cases hn : w.notify with
    | EMPTY => exact .inr (.inr (.inl rfl))
    | NOTIFIED => exact .inr (.inr (.inl rfl))
    | WAITING => exact .inr (.inr (.inr (Bool.or_true _)))
  · intro hw
    cases hn : w.notify <;> simp [hn, Notify.notify] at hw

theorem Announced.step (h : Announced w) (hs : Step w w') : Announced w' := by
  cases hs with
  | write =>
      exact ⟨Nat.le_succ_of_le h.began_le, .inr (.inl (Nat.succ_pos _)), h.waiting⟩
  | deliver _ => exact h.notified _
  | spurious => exact h.notified w.undelivered
  | consume hw _ => exact ⟨Nat.le_refl _, .inl rfl, fun _ => hw⟩
  | park hw hn =>
      refine ⟨h.began_le, ?_, fun _ => hw⟩
      rcases h.pending with hp | hp | hp | hp
      · exact .inl hp
      · exact .inr (.inl hp)
      · rw [hn] at hp
        cases hp
      · exact .inr (.inr (.inr hp))
  | resume _ => exact ⟨Nat.le_refl _, .inl rfl, fun _ => rfl⟩

/-- No wake-up is lost: a task that waits with every notification delivered
began its latest pass after the last write. -/
theorem Announced.latest (h : Announced w) (hwaiting : w.notify = .WAITING)
    (hquiet : w.undelivered = 0) : w.began = w.writes := by
  rcases h.pending with hp | hp | hp | hp
  · exact hp
  · omega
  · rw [hwaiting] at hp
    cases hp
  · rw [h.waiting hwaiting] at hp
    cases hp

end Watch

end Ebbflow.Lib.Wakeup
