import Ebbflow.Config
import Ebbflow.LocalConnection
import Ebbflow.Lib.Timed
import Mathlib.Data.List.Sort
import Mathlib.Logic.Relation

namespace Ebbflow.Reachability

open Lib.Timed Lib.Timed.Future Config AwaitMessage EstablishConnection LocalConnection Messaging

/-- After how many milliseconds an address accepts or refuses a connect, if ever,
and what setting the options of a socket gives. -/
structure Network (TcpStream : Type) where
  connect : SocketAddr → Future (Except IoError TcpStream)
  setKeepalive : TcpStream → Option Nat → Except IoError Unit
  setNodelay : TcpStream → Bool → Except IoError Unit

variable {TcpStream : Type}

def innerHealthcheck (net : Network TcpStream) (hc : ConcreteHealthCheck) (addrs : List SocketAddr) :
    Future Bool :=
  match hc.type with
  | .TCP => connectAny addrs
where
  connectAny : List SocketAddr → Future Bool
    | [] => pure false
    | addr :: addrs => do
        if (← net.connect addr).isOk then return true else connectAny addrs

def healthcheck (net : Network TcpStream) (hc : ConcreteHealthCheck) (addrs : List SocketAddr) :
    Future Bool := do
  match ← timeout 1000 (innerHealthcheck net hc addrs) with
  | some r => return r
  | none => return false

def superShortTimeout : Nat := 300

def toss {α : Type} (future : Future α) (msg : String) : Future (Except ConnectionError α) := do
  match ← timeout superShortTimeout future with
  | some r => return .ok r
  | none => return .error (.Timeout msg)

def Network.configure (net : Network TcpStream) (tcpstream : TcpStream) : Except IoError TcpStream := do
  net.setKeepalive tcpstream (some 1000)
  net.setNodelay tcpstream true
  return tcpstream

/-- `connect_local`, with what its loop has pushed to `errors`. -/
def connectLocal (net : Network TcpStream) (debug : Debug) :
    List SocketAddr → List (SocketAddr × ConnectionError) → Future (Except ConnectionError TcpStream)
  | [], errors => return .error (ConnectLocal.multiple debug errors)
  | a :: addrs, errors => do
      match ← toss (net.connect a) "connecting to local host" with
      | .ok (.ok tcpstream) => return (net.configure tcpstream).mapError .Io
      | .ok (.error e) => connectLocal net debug addrs (errors ++ [(a, .Io e)])
      | .error e => connectLocal net debug addrs (errors ++ [(a, e)])

def isIpv4 (addr : SocketAddr) : Bool :=
  match addr.ip with
  | .V4 _ => true
  | .V6 _ => false

def ipv4First (l r : SocketAddr) : Ordering :=
  match isIpv4 l, isIpv4 r with
  | true, false => .lt
  | false, true => .gt
  | _, _ => .eq

/-- `get_addrs` with what its lookups answer in turn, and the messages it queues. -/
def getAddrs (debugIo : IoError → String) :
    List (Except IoError (List SocketAddr)) → Future (List SocketAddr × List String)
  | [] => pending
  | .ok i :: _ => return (i.insertionSort (ipv4First · · ≠ .gt), [])
  | .error e :: lookups => do
      let msg := "Extremely unexpected error, could not resolve DNS of localhost, will try again in a second " ++
        debugIo e
      ready 1000 ()
      let (addrs, messages) ← getAddrs debugIo lookups
      return (addrs, msg :: messages)

theorem ipv4First_ne_gt {l r : SocketAddr} : ipv4First l r ≠ .gt ↔ (isIpv4 r → isIpv4 l) := by
  rw [ipv4First]
  cases isIpv4 l <;> cases isIpv4 r <;> decide

instance : Std.Total fun l r : SocketAddr => ipv4First l r ≠ .gt where
  total l r := by
    rw [ipv4First_ne_gt, ipv4First_ne_gt]
    by_cases hl : isIpv4 l
    · exact .inl fun _ => hl
    · exact .inr fun h => absurd h hl

instance : IsTrans SocketAddr fun l r => ipv4First l r ≠ .gt where
  trans l m r hlm hmr := by
    rw [ipv4First_ne_gt] at *
    exact fun hr => hlm (hmr hr)

theorem getAddrs_ready {debugIo : IoError → String} {lookups : List (Except IoError (List SocketAddr))}
    {t : Nat} {addrs : List SocketAddr} {messages : List String}
    (h : getAddrs debugIo lookups = ready t (addrs, messages)) :
    (∃ i, .ok i ∈ lookups ∧ addrs.Perm i) ∧ addrs.Pairwise (ipv4First · · ≠ .gt) ∧
      t = 1000 * messages.length := by
  induction lookups generalizing t messages with
  | nil => cases h
  | cons lookup lookups ih =>
      cases lookup with
      | ok i =>
          cases h
          exact ⟨⟨i, List.mem_cons_self, List.perm_insertionSort _ i⟩, List.pairwise_insertionSort _ i, rfl⟩
      | error e =>
          rw [getAddrs, ready_bind, delay_eq_ready] at h
          obtain ⟨u, h, rfl⟩ := h
          obtain ⟨d, ⟨addrs', messages'⟩, v, hrest, he, rfl⟩ := bind_eq_ready.mp h
          cases he
          obtain ⟨⟨i, hi, hperm⟩, hsorted, rfl⟩ := ih hrest
          refine ⟨⟨i, List.mem_cons_of_mem _ hi, hperm⟩, hsorted, ?_⟩
          rw [List.length_cons]
          omega

variable {net : Network TcpStream} {debug : Debug} {hc : ConcreteHealthCheck} {addrs : List SocketAddr}
  {errors : List (SocketAddr × ConnectionError)} {t : Nat} {s : TcpStream}

def Network.attempt (net : Network TcpStream) (addr : SocketAddr) :
    Future (Except ConnectionError TcpStream) := do
  match ← toss (net.connect addr) "connecting to local host" with
  | .ok r => return r.mapError .Io
  | .error e => return .error e

theorem toss_ready {α : Type} (future : Future α) (msg : String) : ∃ t r, toss future msg = ready t r := by
  obtain ⟨t, r, h⟩ := timeout_ready superShortTimeout future
  rw [toss, h]
  cases r with
  | some r => exact ⟨_, _, rfl⟩
  | none => exact ⟨_, _, rfl⟩

theorem toss_ok {α : Type} {future : Future α} {msg : String} {r : α} :
    toss future msg = ready t (.ok r) ↔ future = ready t r ∧ t ≤ superShortTimeout := by
  rw [toss, ← timeout_some, bind_eq_ready]
  constructor
  · rintro ⟨d, result, u, h, hr, rfl⟩
    cases result with
    | some r =>
        cases hr
        exact h
    | none => cases hr
  · intro h
    exact ⟨t, some r, 0, h, rfl, rfl⟩

theorem attempt_ready (net : Network TcpStream) (addr : SocketAddr) :
    ∃ t r, net.attempt addr = ready t r := by
  obtain ⟨t, r, h⟩ := toss_ready (net.connect addr) "connecting to local host"
  rw [Network.attempt, h]
  cases r with
  | ok r => exact ⟨_, _, rfl⟩
  | error e => exact ⟨_, _, rfl⟩

theorem attempt_ok {addr : SocketAddr} :
    net.attempt addr = ready t (.ok s) ↔ net.connect addr = ready t (.ok s) ∧ t ≤ superShortTimeout := by
  have h := @toss_ok t _ (net.connect addr) "connecting to local host" (.ok s)
  rw [← h, Network.attempt, bind_eq_ready]
  constructor
  · rintro ⟨d, result, u, ht, hr, rfl⟩
    cases result with
    | ok r =>
        cases r with
        | ok s' =>
            cases hr
            exact ht
        | error e => cases hr
    | error e => cases hr
  · intro ht
    exact ⟨t, .ok (.ok s), 0, ht, rfl, rfl⟩

theorem connectLocal_cons (net : Network TcpStream) (debug : Debug) (a : SocketAddr) (addrs : List SocketAddr)
    (errors : List (SocketAddr × ConnectionError)) :
    connectLocal net debug (a :: addrs) errors = (do
      match ← net.attempt a with
      | .ok s => return (net.configure s).mapError .Io
      | .error e => connectLocal net debug addrs (errors ++ [(a, e)])) := by
  obtain ⟨t, result, h⟩ := toss_ready (net.connect a) "connecting to local host"
  rw [connectLocal, Network.attempt, h]
  rcases result with e | (e | s) <;> simp [delay_delay, delay_bind, Except.mapError]

def conclude (net : Network TcpStream) (debug : Debug) (errors : List (SocketAddr × ConnectionError)) :
    Except (List (SocketAddr × ConnectionError)) TcpStream → Except ConnectionError TcpStream
  | .ok s => (net.configure s).mapError .Io
  | .error more => .error (ConnectLocal.multiple debug (errors ++ more))

theorem conclude_cons (a : SocketAddr) (e : ConnectionError)
    (r : Except (List (SocketAddr × ConnectionError)) TcpStream) :
    conclude net debug (errors ++ [(a, e)]) r = conclude net debug errors (r.mapError ((a, e) :: ·)) := by
  cases r with
  | ok s => rfl
  | error more => rw [conclude, Except.mapError, conclude, List.append_assoc, List.singleton_append]

theorem connectLocal_eq (addrs : List SocketAddr) (errors : List (SocketAddr × ConnectionError)) :
    connectLocal net debug addrs errors =
      (do return conclude net debug errors (← firstOk net.attempt addrs)) := by
  induction addrs generalizing errors with
  | nil =>
      rw [connectLocal, firstOk, pure_bind, conclude, List.append_nil]
  | cons a addrs ih =>
      obtain ⟨d, r, h⟩ := attempt_ready net a
      rw [connectLocal_cons, h, ready_bind]
      cases r with
      | ok s =>
          rw [firstOk_ok h]
          rfl
      | error e =>
          rw [firstOk_error h, delay_bind]
          simp only [ih, bind_assoc, pure_bind, conclude_cons]

theorem isOk_mapError {α ε ε' : Type} (r : Except ε α) (f : ε → ε') : (r.mapError f).isOk = r.isOk := by
  cases r <;> rfl

theorem connectAny_eq (addrs : List SocketAddr) :
    innerHealthcheck.connectAny net addrs = (do return (← firstOk net.connect addrs).isOk) := by
  induction addrs with
  | nil => rfl
  | cons a addrs ih =>
      rw [innerHealthcheck.connectAny]
      cases h : net.connect a with
      | ready d r =>
          cases r with
          | ok s =>
              rw [firstOk_ok h]
              rfl
          | error e =>
              rw [firstOk_error h, ready_bind, delay_bind, bind_assoc]
              simp only [pure_bind, isOk_mapError]
              exact congrArg (delay d) ih
      | pending =>
          rw [firstOk, h]
          rfl

def Network.Settable (net : Network TcpStream) (s : TcpStream) : Prop :=
  net.setKeepalive s (some 1000) = .ok () ∧ net.setNodelay s true = .ok ()

theorem configure_ok {s' : TcpStream} : net.configure s = .ok s' ↔ s = s' ∧ net.Settable s := by
  rw [Network.configure, Network.Settable]
  cases net.setKeepalive s (some 1000) with
  | ok _ => cases net.setNodelay s true <;> simp [Bind.bind, Except.bind, pure, Except.pure]
  | error e => simp [Bind.bind, Except.bind]

theorem connectLocal_ok (addrs : List SocketAddr) :
    connectLocal net debug addrs errors = ready t (.ok s) ↔
      Reached net.attempt addrs t s ∧ net.Settable s := by
  rw [connectLocal_eq, ← firstOk_ok_iff, bind_eq_ready]
  constructor
  · rintro ⟨d, result, u, h, hr, rfl⟩
    cases result with
    | ok s' =>
        cases hconf : net.configure s' with
        | ok s'' =>
            rw [conclude, hconf] at hr
            cases hr
            obtain ⟨rfl, hset⟩ := configure_ok.mp hconf
            exact ⟨h, hset⟩
        | error e =>
            rw [conclude, hconf] at hr
            cases hr
    | error more => cases hr
  · rintro ⟨h, hset⟩
    refine ⟨t, .ok s, 0, h, ?_, rfl⟩
    rw [conclude, configure_ok.mpr ⟨rfl, hset⟩]
    rfl

theorem attempt_error {addr : SocketAddr} {d : Nat} {e : ConnectionError}
    (h : net.attempt addr = ready d (.error e)) :
    (∃ io, e = .Io io) ∨ e = .Timeout "connecting to local host" := by
  rw [Network.attempt, toss, bind_assoc, bind_eq_ready] at h
  obtain ⟨d, result, u, -, hr, -⟩ := h
  rcases result with _ | (io | s)
  · cases hr
    exact .inr rfl
  · cases hr
    exact .inl ⟨io, rfl⟩
  · cases hr

def Moves (cbor : SerdeCbor) (debug : Debug) (args : EndpointConnectionArgs) (x y : ConnectLocal × Wires) :
    Prop :=
  ∃ event, ConnectLocal.Step cbor debug args x.1 x.2 event y.1 y.2

/-- With the answers timed, it is one of the runs of the steps without a clock. -/
theorem connectLocal_moves {cbor : SerdeCbor} {args : EndpointConnectionArgs}
    {outcome : Except ConnectionError TcpStream} (h : connectLocal net debug addrs errors = ready t outcome)
    (w : Wires) :
    ∃ w', Relation.ReflTransGen (Moves cbor debug args) (.connecting addrs errors, w)
      (ConnectLocal.respond cbor (outcome.map fun _ => ()), w') := by
  induction addrs generalizing errors t w with
  | nil =>
      cases h
      exact ⟨w, .single ⟨_, .exhausted w errors⟩⟩
  | cons a addrs ih =>
      have hdial : Moves cbor debug args (.connecting (a :: addrs) errors, w)
          (.dialing a addrs errors, { w with tried := w.tried ++ [a] }) := ⟨_, .dial w a addrs errors⟩
      rw [connectLocal_cons, bind_eq_ready] at h
      obtain ⟨d, result, u, hattempt, hrest, -⟩ := h
      cases result with
      | ok s =>
          dsimp only at hrest
          cases hconf : net.configure s with
          | ok s' =>
              rw [hconf] at hrest
              cases hrest
              exact ⟨_, .tail (.single hdial) ⟨_, .connected _ a addrs errors []⟩⟩
          | error io =>
              rw [hconf] at hrest
              cases hrest
              exact ⟨_, .tail (.single hdial) ⟨_, .unusable _ a addrs errors io⟩⟩
      | error e =>
          obtain ⟨w', hmoves⟩ := ih hrest { w with tried := w.tried ++ [a] }
          refine ⟨w', .head hdial (.head ?_ hmoves)⟩
          rcases attempt_error hattempt with ⟨io, rfl⟩ | rfl
          · exact ⟨_, .refused _ a addrs errors io⟩
          · exact ⟨_, .timedOut _ a addrs errors⟩

theorem innerHealthcheck_true (addrs : List SocketAddr) :
    innerHealthcheck net hc addrs = ready t true ↔ ∃ s, Reached net.connect addrs t s := by
  simp only [← firstOk_ok_iff]
  rw [innerHealthcheck, connectAny_eq, bind_eq_ready]
  constructor
  · rintro ⟨d, result, u, h, hr, rfl⟩
    cases result with
    | ok s =>
        cases hr
        exact ⟨s, h⟩
    | error errors => cases hr
  · rintro ⟨s, h⟩
    exact ⟨t, .ok s, 0, h, rfl, rfl⟩

theorem healthcheck_true (net : Network TcpStream) (hc : ConcreteHealthCheck) (addrs : List SocketAddr) :
    (∃ t, healthcheck net hc addrs = ready t true) ↔
      ∃ t ≤ 1000, ∃ s, Reached net.connect addrs t s := by
  constructor
  · rintro ⟨t, h⟩
    rw [healthcheck, bind_eq_ready] at h
    obtain ⟨d, result, u, hwalk, hr, rfl⟩ := h
    cases result with
    | some r =>
        cases hr
        obtain ⟨hwalk, hle⟩ := timeout_some.mp hwalk
        exact ⟨d, hle, (innerHealthcheck_true addrs).mp hwalk⟩
    | none => cases hr
  · rintro ⟨t, hle, hwalk⟩
    have hinner : innerHealthcheck net hc addrs = ready t true := (innerHealthcheck_true addrs).mpr hwalk
    have hsome := timeout_some.mpr ⟨hinner, hle⟩
    refine ⟨t, ?_⟩
    rw [healthcheck, hsome]
    rfl

def Prompt (net : Network TcpStream) (addr : SocketAddr) (s : TcpStream) : Prop :=
  ∃ d ≤ 300, net.connect addr = ready d (.ok s)

/-- The first address that accepts within 300 ms, whatever the others do, gives `s`. -/
def FirstPrompt (net : Network TcpStream) (addrs : List SocketAddr) (s : TcpStream) : Prop :=
  ∃ before addr after, addrs = before ++ addr :: after ∧ (∀ a ∈ before, ∀ s, ¬ Prompt net a s) ∧
    Prompt net addr s

def Served (net : Network TcpStream) (addrs : List SocketAddr) : Prop :=
  ∃ s, FirstPrompt net addrs s ∧ net.Settable s

/-- The addresses before the first that accepts refuse, and it all takes a second at most. -/
def Found (net : Network TcpStream) (addrs : List SocketAddr) : Prop :=
  ∃ t ≤ 1000, ∃ s, Reached net.connect addrs t s

theorem connectLocal_served (net : Network TcpStream) (debug : Debug) (addrs : List SocketAddr) :
    (∃ t s, connectLocal net debug addrs [] = ready t (.ok s)) ↔ Served net addrs := by
  have hfirst (s : TcpStream) := @reached_iff_of_ends _ _ _ s addrs net.attempt (attempt_ready net)
  constructor
  · rintro ⟨t, s, h⟩
    obtain ⟨hreached, hset⟩ := (connectLocal_ok addrs).mp h
    obtain ⟨before, a, after, d, rfl, hbefore, ha⟩ := (hfirst s).mp ⟨t, hreached⟩
    obtain ⟨ha, hle⟩ := attempt_ok.mp ha
    refine ⟨s, ⟨before, a, after, rfl, ?_, d, hle, ha⟩, hset⟩
    rintro x hx s' ⟨d', hle', hx'⟩
    exact hbefore x hx d' s' (attempt_ok.mpr ⟨hx', hle'⟩)
  · rintro ⟨s, ⟨before, a, after, rfl, hbefore, d, hle, ha⟩, hset⟩
    obtain ⟨t, hreached⟩ := (hfirst s).mpr ⟨before, a, after, d, rfl, fun x hx d' s' hx' => by
      obtain ⟨hx', hle'⟩ := attempt_ok.mp hx'
      exact hbefore x hx s' ⟨d', hle', hx'⟩, attempt_ok.mpr ⟨ha, hle⟩⟩
    exact ⟨t, s, (connectLocal_ok _).mpr ⟨hreached, hset⟩⟩

def Accepts (net : Network TcpStream) (addr : SocketAddr) : Prop := ∃ d s, net.connect addr = ready d (.ok s)

/-- How long the health check waits for the answer of an address. -/
def Network.wait (net : Network TcpStream) (addr : SocketAddr) : Nat :=
  match net.connect addr with
  | ready d _ => d
  | pending => 0

/-- Addresses that do not accept keep the health check from one behind them that
accepts after `d`: one of them never answers, or it all takes more than a second. -/
def HeldUp (net : Network TcpStream) (before : List SocketAddr) (d : Nat) : Prop :=
  (∃ a ∈ before, net.connect a = pending) ∨ 1000 < (before.map net.wait).sum + d

/-- When the one limit and the limit for each address come to the same: by the
first address that accepts at all, how long it takes, what the ones before it do
to the health check, and, if it takes too long, what the ones behind it do. -/
inductive SameVerdict (net : Network TcpStream) (addrs : List SocketAddr) : Prop
  | closed : (∀ a ∈ addrs, ¬ Accepts net a) → SameVerdict net addrs
  | prompt {before after : List SocketAddr} {addr : SocketAddr} {d : Nat} {s : TcpStream} :
      addrs = before ++ addr :: after → (∀ a ∈ before, ¬ Accepts net a) → net.connect addr = ready d (.ok s) →
      d ≤ 300 → ¬ HeldUp net before d → net.Settable s → SameVerdict net addrs
  | promptHeldUp {before after : List SocketAddr} {addr : SocketAddr} {d : Nat} {s : TcpStream} :
      addrs = before ++ addr :: after → (∀ a ∈ before, ¬ Accepts net a) → net.connect addr = ready d (.ok s) →
      d ≤ 300 → HeldUp net before d → ¬ net.Settable s → SameVerdict net addrs
  | late {before after : List SocketAddr} {addr : SocketAddr} {d : Nat} {s s' : TcpStream} :
      addrs = before ++ addr :: after → (∀ a ∈ before, ¬ Accepts net a) → net.connect addr = ready d (.ok s) →
      300 < d → ¬ HeldUp net before d → FirstPrompt net after s' → net.Settable s' → SameVerdict net addrs
  | lateHeldUp {before after : List SocketAddr} {addr : SocketAddr} {d : Nat} {s : TcpStream} :
      addrs = before ++ addr :: after → (∀ a ∈ before, ¬ Accepts net a) → net.connect addr = ready d (.ok s) →
      300 < d → HeldUp net before d → (∀ s', FirstPrompt net after s' → ¬ net.Settable s') → SameVerdict net addrs

section FirstAccepting

variable {before after : List SocketAddr} {addr : SocketAddr} {d : Nat}

theorem wait_ready {r : Except IoError TcpStream} (h : net.connect addr = ready d r) : net.wait addr = d := by
  rw [Network.wait, h]

theorem Prompt.accepts (h : Prompt net addr s) : Accepts net addr := by
  obtain ⟨d, _, hd⟩ := h
  exact ⟨d, s, hd⟩

theorem reached_first (hbefore : ∀ a ∈ before, ¬ Accepts net a) (haddr : net.connect addr = ready d (.ok s))
    {s' : TcpStream} : Reached net.connect (before ++ addr :: after) t s' ↔
      (∀ a ∈ before, net.connect a ≠ pending) ∧ t = (before.map net.wait).sum + d ∧ s' = s := by
  induction before generalizing t with
  | nil =>
      constructor
      · intro h
        cases h with
        | here h =>
            rw [haddr] at h
            cases h
            exact ⟨nofun, (Nat.zero_add _).symm, rfl⟩
        | later h _ =>
            rw [haddr] at h
            cases h
      · rintro ⟨_, rfl, rfl⟩
        rw [List.map_nil, List.sum_nil, Nat.zero_add]
        exact .here haddr
  | cons a before ih =>
      obtain ⟨ha, hbefore⟩ := List.forall_mem_cons.mp hbefore
      rw [List.cons_append, List.forall_mem_cons, List.map_cons, List.sum_cons, Nat.add_assoc]
      constructor
      · intro h
        cases h with
        | here h => exact absurd ⟨_, _, h⟩ ha
        | later h hrest =>
            obtain ⟨hanswer, rfl, rfl⟩ := (ih hbefore).mp hrest
            rw [wait_ready h]
            exact ⟨⟨by rw [h]; nofun, hanswer⟩, rfl, rfl⟩
      · rintro ⟨⟨hpending, hanswer⟩, rfl, rfl⟩
        cases hconnect : net.connect a with
        | pending => exact absurd hconnect hpending
        | ready u r =>
            cases r with
            | ok s' => exact absurd ⟨u, s', hconnect⟩ ha
            | error e =>
                rw [wait_ready hconnect]
                exact .later hconnect ((ih hbefore).mpr ⟨hanswer, rfl, rfl⟩)

theorem found_first (hbefore : ∀ a ∈ before, ¬ Accepts net a) (haddr : net.connect addr = ready d (.ok s)) :
    Found net (before ++ addr :: after) ↔ ¬ HeldUp net before d := by
  simp only [Found, reached_first hbefore haddr]
  rw [HeldUp, not_or, not_exists, Nat.not_lt]
  constructor
  · rintro ⟨t, hle, s', hanswer, rfl, _⟩
    exact ⟨fun a ⟨ha, hpending⟩ => hanswer a ha hpending, hle⟩
  · rintro ⟨hanswer, hle⟩
    exact ⟨_, hle, s, fun a ha hpending => hanswer a ⟨ha, hpending⟩, rfl, rfl⟩

theorem firstPrompt_cons {addrs : List SocketAddr} :
    FirstPrompt net (addr :: addrs) s ↔
      Prompt net addr s ∨ (∀ s, ¬ Prompt net addr s) ∧ FirstPrompt net addrs s := by
  constructor
  · rintro ⟨before, a, after, hsplit, hbefore, ha⟩
    cases before with
    | nil =>
        obtain ⟨rfl, _⟩ := List.cons.inj hsplit
        exact .inl ha
    | cons x before =>
        obtain ⟨rfl, rfl⟩ := List.cons.inj hsplit
        obtain ⟨hx, hbefore⟩ := List.forall_mem_cons.mp hbefore
        exact .inr ⟨hx, before, a, after, rfl, hbefore, ha⟩
  · rintro (haddr | ⟨haddr, before, a, after, rfl, hbefore, ha⟩)
    · exact ⟨[], addr, addrs, rfl, nofun, haddr⟩
    · exact ⟨addr :: before, a, after, rfl, List.forall_mem_cons.mpr ⟨haddr, hbefore⟩, ha⟩

theorem firstPrompt_skip (hbefore : ∀ a ∈ before, ¬ Accepts net a) {addrs : List SocketAddr} :
    FirstPrompt net (before ++ addrs) s ↔ FirstPrompt net addrs s := by
  induction before with
  | nil => rfl
  | cons a before ih =>
      obtain ⟨ha, hbefore⟩ := List.forall_mem_cons.mp hbefore
      have hnot : ∀ s, ¬ Prompt net a s := fun s hprompt => ha hprompt.accepts
      rw [List.cons_append, firstPrompt_cons, ih hbefore, or_iff_right (hnot s), and_iff_right hnot]

theorem served_prompt (hbefore : ∀ a ∈ before, ¬ Accepts net a) (haddr : net.connect addr = ready d (.ok s))
    (hd : d ≤ 300) : Served net (before ++ addr :: after) ↔ net.Settable s := by
  have hprompt : Prompt net addr s := ⟨d, hd, haddr⟩
  simp only [Served, firstPrompt_skip hbefore, firstPrompt_cons]
  constructor
  · rintro ⟨s', ⟨d', _, haddr'⟩ | ⟨hnot, _⟩, hset⟩
    · rw [haddr] at haddr'
      cases haddr'
      exact hset
    · exact absurd hprompt (hnot s)
  · intro hset
    exact ⟨s, .inl hprompt, hset⟩

theorem served_late (hbefore : ∀ a ∈ before, ¬ Accepts net a) (haddr : net.connect addr = ready d (.ok s))
    (hd : 300 < d) : Served net (before ++ addr :: after) ↔ Served net after := by
  have hnot : ∀ s, ¬ Prompt net addr s := by
    rintro s' ⟨d', hle, haddr'⟩
    rw [haddr] at haddr'
    cases haddr'
    exact Nat.not_le_of_lt hd hle
  simp only [Served, firstPrompt_skip hbefore, firstPrompt_cons, hnot, false_or, not_false_eq_true, implies_true,
    true_and]

end FirstAccepting

theorem not_found (h : ∀ a ∈ addrs, ¬ Accepts net a) : ¬ Found net addrs := by
  rintro ⟨t, -, s, hreached⟩
  induction hreached with
  | here ha => exact h _ List.mem_cons_self ⟨_, _, ha⟩
  | later _ _ ih => exact ih fun a ha => h a (List.mem_cons_of_mem _ ha)

theorem not_served (h : ∀ a ∈ addrs, ¬ Accepts net a) : ¬ Served net addrs := by
  rintro ⟨s, ⟨before, addr, after, rfl, _, hprompt⟩, _⟩
  exact h addr (List.mem_append_right _ List.mem_cons_self) hprompt.accepts

theorem exists_first_accepting (h : ∃ a ∈ addrs, Accepts net a) :
    ∃ before addr after, addrs = before ++ addr :: after ∧ (∀ a ∈ before, ¬ Accepts net a) ∧ Accepts net addr := by
  induction addrs with
  | nil =>
      obtain ⟨a, ha, _⟩ := h
      cases ha
  | cons a addrs ih =>
      by_cases ha : Accepts net a
      · exact ⟨[], a, addrs, rfl, nofun, ha⟩
      · rw [List.exists_mem_cons_iff, or_iff_right ha] at h
        obtain ⟨before, addr, after, rfl, hbefore, haddr⟩ := ih h
        exact ⟨a :: before, addr, after, rfl, List.forall_mem_cons.mpr ⟨ha, hbefore⟩, haddr⟩

theorem SameVerdict.found_iff_served (h : SameVerdict net addrs) : Found net addrs ↔ Served net addrs := by
  cases h with
  | closed hnone => exact iff_of_false (not_found hnone) (not_served hnone)
  | prompt hsplit hbefore haddr hd hheld hset =>
      rw [hsplit, found_first hbefore haddr, served_prompt hbefore haddr hd]
      exact iff_of_true hheld hset
  | promptHeldUp hsplit hbefore haddr hd hheld hset =>
      rw [hsplit, found_first hbefore haddr, served_prompt hbefore haddr hd]
      exact iff_of_false (not_not_intro hheld) hset
  | late hsplit hbefore haddr hd hheld hfirst hset =>
      rw [hsplit, found_first hbefore haddr, served_late hbefore haddr hd]
      exact iff_of_true hheld ⟨_, hfirst, hset⟩
  | lateHeldUp hsplit hbefore haddr hd hheld hnone =>
      rw [hsplit, found_first hbefore haddr, served_late hbefore haddr hd]
      exact iff_of_false (not_not_intro hheld) fun ⟨s', hfirst, hset⟩ => hnone s' hfirst hset

theorem sameVerdict_of_iff (h : Found net addrs ↔ Served net addrs) : SameVerdict net addrs := by
  by_cases haccepts : ∃ a ∈ addrs, Accepts net a
  · obtain ⟨before, addr, after, hsplit, hbefore, d, s, haddr⟩ := exists_first_accepting haccepts
    rw [hsplit, found_first hbefore haddr] at h
    by_cases hd : d ≤ 300
    · rw [served_prompt hbefore haddr hd] at h
      by_cases hheld : HeldUp net before d
      · exact .promptHeldUp hsplit hbefore haddr hd hheld fun hset => h.mpr hset hheld
      · exact .prompt hsplit hbefore haddr hd hheld (h.mp hheld)
    · have hlate := Nat.lt_of_not_le hd
      rw [served_late hbefore haddr hlate] at h
      by_cases hheld : HeldUp net before d
      · exact .lateHeldUp hsplit hbefore haddr hlate hheld fun s' hfirst hset => h.mpr ⟨s', hfirst, hset⟩ hheld
      · obtain ⟨s', hfirst, hset⟩ := h.mp hheld
        exact .late hsplit hbefore haddr hlate hheld hfirst hset
  · exact .closed fun a ha hopen => haccepts ⟨a, ha, hopen⟩

/-- The health check and the traffic agree on local addresses exactly if the ones
that accept do so promptly and none before them holds the check up, or neither. -/
theorem healthcheck_agrees_iff (net : Network TcpStream) (debug : Debug) (hc : ConcreteHealthCheck)
    (addrs : List SocketAddr) :
    ((∃ t, healthcheck net hc addrs = ready t true) ↔
      ∃ t s, connectLocal net debug addrs [] = ready t (.ok s)) ↔ SameVerdict net addrs := by
  rw [healthcheck_true, connectLocal_served]
  exact ⟨sameVerdict_of_iff, SameVerdict.found_iff_served⟩

def silentIpv4 : Network SocketAddr where
  connect addr := if isIpv4 addr then pending else ready 0 (.ok addr)
  setKeepalive _ _ := .ok ()
  setNodelay _ _ := .ok ()

/-- Where IPv4 is silent and IPv6 accepts at once, the check fails and the traffic connects. -/
theorem silent_ipv4_fails_check :
    ∃ addrs, getAddrs (fun _ => "") [.ok [⟨.V6 1, 80⟩, ⟨.V4 0x7f000001, 80⟩]] = ready 0 (addrs, []) ∧
      healthcheck silentIpv4 ⟨80, 3, 3, .TCP, 5⟩ addrs = ready 1000 false ∧
      connectLocal silentIpv4 ⟨fun _ => "", fun _ => ""⟩ addrs [] = ready 300 (.ok ⟨.V6 1, 80⟩) :=
  ⟨[⟨.V4 0x7f000001, 80⟩, ⟨.V6 1, 80⟩], rfl, rfl, rfl⟩

end Ebbflow.Reachability
