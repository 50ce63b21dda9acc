import Ebbflow.Permits

namespace Ebbflow.Accounting

open Lib.Tally Lib.Wire Daemon RunConnection InnerRun Permits

variable {env : Env} {told : Bool} {c c' : Conn} {effect : Effect} {g g' : Generation}
  {m m' start : EndpointMeta} {idleconns maxconns : Nat} {setup : Setup}
  {t : ConnectionTask} {pre post : List ConnectionTask}

def holdsIdle (t : ConnectionTask) : Bool := t.conn.idlePermit

def isIdle (t : ConnectionTask) : Bool := idleCounted t.conn

def isActive (t : ConnectionTask) : Bool := activeCounted t.conn

structure Sound (t : ConnectionTask) : Prop where
  permitted : Permitted t.conn
  running : t.maxPermit = false → t.conn.pc = .returned

def numIdle (g : Generation) : Nat := g.tasks.countP isIdle

def numActive (g : Generation) : Nat := g.tasks.countP isActive

/-- Every permit of the two semaphores is free, held by the loop or held by a task. -/
structure Accounted (idleconns maxconns : Nat) (g : Generation) : Prop where
  idle : g.idlesem + g.loop.heldIdle + g.tasks.countP holdsIdle = idleconns
  max : g.maxsem + g.loop.heldMax + g.tasks.countP (·.maxPermit) = maxconns
  sound : ∀ t ∈ g.tasks, Sound t

structure Counts (start : EndpointMeta) (g : Generation) (m : EndpointMeta) : Prop where
  idle : m.idle = counter start.idle (numIdle g)
  active : m.active = counter start.active (numActive g)

theorem returned_step (hc : c.pc = .returned) (h : RunConnection.Step env told c effect c') :
    c'.pc = .returned := by
  cases h with
  | proxy | detachedEnded | aborted | pushEbb | pushLocal => exact hc
  | begin h | establish h | established h | elapsed h | timedOut h | failed h | badErrorDelayed h
  | minimumDelayed h | dropIdle h | connectLocal h | connectedLocal h | unconnected h | addActive h
  | proxyEnded h | stopped h | killed h | removeActive h =>
      rw [hc] at h
      cases h
  | returnIdle | returnPlain => rfl

theorem sound_step (ht : Sound t) {conn : Conn}
    (h : RunConnection.Step t.env told t.conn effect conn) : Sound { t with conn := conn } where
  permitted := (permitted_step ht.permitted h).1
  running hmax := returned_step (ht.running hmax) h

theorem accounted_start (args : EndpointArgs) :
    Accounted args.idleconns.toNat args.maxconns.toNat (.start args) where
  idle := by simp [Generation.start, LoopPc.heldIdle]
  max := by simp [Generation.start, LoopPc.heldMax]
  sound t ht := by simp [Generation.start] at ht

theorem accounted_drop (h : Accounted idleconns maxconns g) :
    Accounted idleconns maxconns g.drop where
  idle := by
    rw [← h.idle]
    rfl
  max := by
    rw [← h.max]
    rfl
  sound := h.sound

theorem accounted_step (h : Accounted idleconns maxconns g) (hstep : Step setup told g m effect g' m') :
    Accounted idleconns maxconns g' := by
  have hidle := h.idle
  have hmax := h.max
  cases hstep with
  | acquireMax hloop hfree =>
      rw [hloop] at hidle hmax
      simp only [LoopPc.heldIdle, LoopPc.heldMax] at hidle hmax
      refine ⟨hidle, ?_, h.sound⟩
      simp only [LoopPc.heldMax]
      omega
  | acquireIdle hloop hfree =>
      rw [hloop] at hidle hmax
      simp only [LoopPc.heldIdle, LoopPc.heldMax] at hidle hmax
      refine ⟨?_, hmax, h.sound⟩
      simp only [LoopPc.heldIdle]
      omega
  | spawn info sent hloop =>
      rw [hloop] at hidle hmax
      simp only [LoopPc.heldIdle, LoopPc.heldMax] at hidle hmax
      refine ⟨?_, ?_, ?_⟩
      · rw [← hidle, List.countP_append, List.countP_singleton]
        simp [LoopPc.heldIdle, holdsIdle, ConnectionTask.spawned, Conn.spawned]
        omega
      · rw [← hmax, List.countP_append, List.countP_singleton]
        simp [LoopPc.heldMax, ConnectionTask.spawned]
        omega
      · intro t ht
        obtain ht | ht := List.mem_append.mp ht
        · exact h.sound t ht
        · rw [List.mem_singleton.mp ht]
          exact ⟨rfl, fun hf => by cases hf⟩
  | panicked | stopped => exact accounted_drop h
  | @connection pre post t conn _ hsplit hconn =>
      have ht := h.sound t (mem_of_split hsplit)
      have hpermit := (permitted_step ht.permitted hconn).2
      have hcount := countP_replace holdsIdle pre post t { t with conn := conn }
      rw [hsplit] at hidle hmax
      refine ⟨?_, ?_, forall_mem_replace hsplit h.sound (sound_step ht hconn)⟩
      · simp only [holdsIdle] at hcount hidle ⊢
        omega
      · rw [← hmax]
        exact congrArg _ (countP_keep (fun t : ConnectionTask => t.maxPermit) pre post rfl)
  | @ended pre post t hsplit hpc hmaxPermit =>
      have ht := h.sound t (mem_of_split hsplit)
      have hoff : ({ t with maxPermit := false } : ConnectionTask).maxPermit = false := rfl
      have hcount := countP_off (fun t : ConnectionTask => t.maxPermit) pre post hmaxPermit hoff
      rw [hsplit] at hidle hmax
      refine ⟨?_, ?_, forall_mem_replace hsplit h.sound ⟨ht.permitted, fun _ => hpc⟩⟩
      · rw [← hidle]
        exact congrArg _ (countP_keep holdsIdle pre post rfl)
      · simp only at hcount ⊢
        omega

theorem counts_start (args : EndpointArgs) (start : EndpointMeta) :
    Counts start (.start args) start where
  idle := (counter_zero start.idle).symm
  active := (counter_zero start.active).symm

/-- `effect` counts up, counts down or leaves a counter. -/
def Moves (on off effect : Effect) (v v' : UInt64) : Prop :=
  (effect = on → v' = v + 1) ∧ (effect = off → v' = v - 1) ∧
  (effect ≠ on → effect ≠ off → v' = v)

theorem idle_moves (effect : Effect) (m : EndpointMeta) :
    Moves .addIdle .removeIdle effect m.idle (counted effect m).idle := by
  cases effect <;> simp [Moves, counted, EndpointMeta.addIdle, EndpointMeta.removeIdle,
    EndpointMeta.addActive, EndpointMeta.removeActive]

theorem active_moves (effect : Effect) (m : EndpointMeta) :
    Moves .addActive .removeActive effect m.active (counted effect m).active := by
  cases effect <;> simp [Moves, counted, EndpointMeta.addIdle, EndpointMeta.removeIdle,
    EndpointMeta.addActive, EndpointMeta.removeActive]

theorem counter_toggles {on off : Effect} {base v v' : UInt64} {p : ConnectionTask → Bool}
    {t' : ConnectionTask} (hcount : Toggles on off effect (p t) (p t'))
    (hmove : Moves on off effect v v') (hv : v = counter base ((pre ++ t :: post).countP p)) :
    v' = counter base ((pre ++ t' :: post).countP p) := by
  obtain ⟨hon, hoff, hkeep⟩ := hcount
  obtain ⟨hadd, hremove, hsame⟩ := hmove
  by_cases h : effect = on
  · obtain ⟨hbefore, hafter⟩ := hon h
    rw [hadd h, hv, counter_succ, countP_on p pre post hbefore hafter]
  · by_cases h' : effect = off
    · obtain ⟨hbefore, hafter⟩ := hoff h'
      rw [hremove h', hv, ← countP_off p pre post hbefore hafter, counter_pred]
    · rw [hsame h h', hv, countP_keep p pre post (hkeep h h')]

theorem counts_step (h : Counts start g m) (hstep : Step setup told g m effect g' m') :
    Counts start g' m' := by
  obtain ⟨hidle, hactive⟩ := h
  cases hstep with
  | acquireMax | acquireIdle | panicked | stopped => exact ⟨hidle, hactive⟩
  | spawn info sent =>
      refine ⟨?_, ?_⟩
      · rw [hidle, numIdle, numIdle, List.countP_append]
        rfl
      · rw [hactive, numActive, numActive, List.countP_append]
        rfl
  | connection hsplit hconn =>
      rw [numIdle, hsplit] at hidle
      rw [numActive, hsplit] at hactive
      exact ⟨counter_toggles (p := isIdle) (idle_toggles hconn) (idle_moves _ m) hidle,
        counter_toggles (p := isActive) (active_toggles hconn) (active_moves _ m) hactive⟩
  | @ended pre post t hsplit =>
      rw [numIdle, hsplit] at hidle
      rw [numActive, hsplit] at hactive
      refine ⟨?_, ?_⟩
      · rw [hidle, numIdle, countP_keep isIdle pre post]
        rfl
      · rw [hactive, numActive, countP_keep isActive pre post]
        rfl

theorem run_balanced (h : Run setup start g m) :
    Accounted setup.args.idleconns.toNat setup.args.maxconns.toNat g ∧ Counts start g m := by
  induction h with
  | called => exact ⟨accounted_start setup.args, counts_start setup.args start⟩
  | step told _ hstep ih => exact ⟨accounted_step ih.1 hstep, counts_step ih.2 hstep⟩

theorem Sound.idle (h : Sound t) (ht : isIdle t = true) : t.conn.idlePermit = true := by
  have hp := h.permitted
  rw [isIdle, idleCounted] at ht
  rw [Permitted] at hp
  split at ht
  next e hpc =>
    rw [hpc] at hp
    exact hp
  next => cases ht

theorem Sound.max (h : Sound t) (ht : isIdle t = true ∨ isActive t = true) : t.maxPermit = true := by
  by_contra hmax
  have hpc := h.running (Bool.eq_false_iff.mpr hmax)
  simp [isIdle, isActive, idleCounted, activeCounted, hpc] at ht

theorem isActive_of_isIdle (ht : isIdle t = true) : isActive t = false := by
  rw [isIdle, idleCounted] at ht
  split at ht
  next e hpc => simp only [isActive, activeCounted, hpc]
  next => cases ht

theorem Accounted.numIdle_le (h : Accounted idleconns maxconns g) : numIdle g ≤ idleconns := by
  have hle : numIdle g ≤ g.tasks.countP holdsIdle :=
    List.countP_mono_left fun t ht hi => (h.sound t ht).idle hi
  have := h.idle
  omega

theorem Accounted.total_le (h : Accounted idleconns maxconns g) :
    numIdle g + numActive g ≤ maxconns := by
  have hle : numIdle g + numActive g ≤ g.tasks.countP (·.maxPermit) :=
    countP_add_le isIdle (fun t _ hi => isActive_of_isIdle hi)
      (fun t ht hi => (h.sound t ht).max (Or.inl hi)) (fun t ht ha => (h.sound t ht).max (Or.inr ha))
  have := h.max
  omega

end Ebbflow.Accounting
