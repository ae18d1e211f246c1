import ModernSapi.Library.Machine
import ModernSapi.Library.Trace

/-!
# How long the provider lives

A provider with no session for a second ends itself. The timer of that second is started when
the last session closes and cancelled when one is opened, from different threads, and a timer
that has elapsed may find that a session was opened in the meantime.

* `idle_shutdown_deserved`: the provider ends itself only after a whole second without a session.
* `idle_provider_shuts_down`: and it never forgets to: without a session there is always a
  timer that ends it.
-/

set_option autoImplicit false

namespace ModernSapi

open Interleaving

/-- How far a call of `ShutdownWhenIdleAsync` is. -/
inductive IdlePlace where
  | delaying
  | elapsed
  | leaving
  | disposed
  deriving DecidableEq

/-- A timer, with the call that waits for it. -/
structure IdleTimer where
  isCancelled : Bool := false
  place : IdlePlace := .delaying
  startedAt : ℕ := 0
  deriving DecidableEq

inductive MainPlace where
  | starting
  | testing
  | accepting
  | ended
  deriving DecidableEq

/-- `ProviderLifetime`, with the clock, the sessions whose end is still to come, and the place of
`Main`. Timers are numbered in the order of their creation. -/
structure ProviderLifetime where
  now : ℕ := 0
  isShutdown : Bool := false
  idleTimer : Option ℕ := none
  activeSessions : ℤ := 0
  timers : ℕ → IdleTimer := fun _ => {}
  created : ℕ := 0
  sessions : ℕ := 0
  main : MainPlace := .starting

/-- What happens, and when. -/
inductive LifetimeObservation where
  | started (now : ℕ)
  | opened (now : ℕ)
  | closed (now : ℕ)
  | idleShutdown (now : ℕ)
  | interrupted (now : ℕ)
  | disposedTimer (now : ℕ)
  deriving DecidableEq

inductive LifetimeAction where
  | wait (milliseconds : ℕ)
  | armIdleShutdown
  | testToken
  | sessionAccepted
  | acceptFails
  | sessionEnds
  | delayElapses (timer : ℕ)
  | delayCancelled (timer : ℕ)
  | tryTriggerShutdown (timer : ℕ)
  | dispose (timer : ℕ)
  | cancelKeyPress
  deriving DecidableEq

namespace LifetimeObservation

def time : LifetimeObservation → ℕ
  | started now | opened now | closed now | idleShutdown now | interrupted now
  | disposedTimer now => now

def isOpened : LifetimeObservation → Bool
  | opened _ => true
  | _ => false

def isClosed : LifetimeObservation → Bool
  | closed _ => true
  | _ => false

def isIdleShutdown : LifetimeObservation → Bool
  | idleShutdown _ => true
  | _ => false

/-- The provider has something to do, or has just started. -/
def isActivity : LifetimeObservation → Bool
  | started _ | opened _ | closed _ => true
  | _ => false

end LifetimeObservation

namespace ProviderLifetime

/-- `IdleTimeout`, in milliseconds. -/
def idleTimeout : ℕ := 1000

def setTimer (state : ProviderLifetime) (timer : ℕ) (entry : IdleTimer) : ProviderLifetime :=
  { state with timers := Function.update state.timers timer entry }

def setPlace (state : ProviderLifetime) (timer : ℕ) (place : IdlePlace) : ProviderLifetime :=
  state.setTimer timer { state.timers timer with place }

/-- `_idleTimer?.Cancel()`. A disposed timer throws. -/
def cancelIdleTimer (state : ProviderLifetime) : Option ProviderLifetime :=
  match state.idleTimer with
  | none => some state
  | some timer =>
      if (state.timers timer).place = .disposed then none
      else some (state.setTimer timer { state.timers timer with isCancelled := true })

def startIdleTimerLocked (state : ProviderLifetime) : Option ProviderLifetime :=
  state.cancelIdleTimer.map fun cancelled =>
    { cancelled.setTimer state.created { startedAt := state.now } with
      idleTimer := some state.created
      created := state.created + 1 }

def armIdleShutdown (state : ProviderLifetime) : ProviderLifetime × List LifetimeObservation :=
  if state.activeSessions = 0 then
    match state.startIdleTimerLocked with
    | some armed => ({ armed with main := .testing }, [.started state.now])
    | none => ({ state with main := .ended }, [.disposedTimer state.now])
  else ({ state with main := .testing }, [.started state.now])

/-- `SessionOpened`, from the loop of `Main`, which an exception ends. -/
def sessionOpened (state : ProviderLifetime) : ProviderLifetime × List LifetimeObservation :=
  let counted := { state with activeSessions := state.activeSessions + 1 }
  match counted.cancelIdleTimer with
  | some cancelled =>
      ({ cancelled with
          idleTimer := none
          sessions := state.sessions + 1
          main := .testing }, [.opened state.now])
  | none => ({ counted with main := .ended }, [.disposedTimer state.now])

/-- `SessionClosed`, at the end of `HandleSessionAsync`. -/
def sessionClosed (state : ProviderLifetime) : ProviderLifetime × List LifetimeObservation :=
  let counted := { state with
    activeSessions := state.activeSessions - 1
    sessions := state.sessions - 1 }
  if counted.activeSessions = 0 then
    match counted.startIdleTimerLocked with
    | some armed => (armed, [.closed state.now])
    | none => (counted, [.closed state.now, .disposedTimer state.now])
  else (counted, [.closed state.now])

def tryTriggerShutdown (state : ProviderLifetime) (timer : ℕ) :
    ProviderLifetime × List LifetimeObservation :=
  if state.idleTimer = some timer ∧ state.activeSessions = 0 then
    ({ state with isShutdown := true }, [.idleShutdown state.now])
  else (state, [])

def step (state : ProviderLifetime) :
    LifetimeAction → Option (ProviderLifetime × List LifetimeObservation)
  | .wait milliseconds => some ({ state with now := state.now + milliseconds }, [])
  | .armIdleShutdown => if state.main = .starting then some state.armIdleShutdown else none
  | .testToken =>
      if state.main = .testing then
        some ({ state with main := if state.isShutdown then .ended else .accepting }, [])
      else none
  | .sessionAccepted => if state.main = .accepting then some state.sessionOpened else none
  | .acceptFails => if state.main = .accepting then some ({ state with main := .ended }, []) else none
  | .sessionEnds => if 0 < state.sessions then some state.sessionClosed else none
  | .delayElapses timer =>
      if timer < state.created ∧ (state.timers timer).place = .delaying ∧
          (state.timers timer).isCancelled = false ∧
          (state.timers timer).startedAt + idleTimeout ≤ state.now then
        some (state.setPlace timer .elapsed, [])
      else none
  | .delayCancelled timer =>
      if timer < state.created ∧ (state.timers timer).place = .delaying ∧
          (state.timers timer).isCancelled = true then
        some (state.setPlace timer .leaving, [])
      else none
  | .tryTriggerShutdown timer =>
      if (state.timers timer).place = .elapsed then
        let triggered := state.tryTriggerShutdown timer
        some (triggered.1.setPlace timer .leaving, triggered.2)
      else none
  | .dispose timer =>
      if (state.timers timer).place = .leaving then some (state.setPlace timer .disposed, []) else none
  | .cancelKeyPress => some ({ state with isShutdown := true }, [.interrupted state.now])

end ProviderLifetime

/-- The provider, from the start of `Main`. -/
def providerLifetime : Machine ProviderLifetime LifetimeAction LifetimeObservation where
  init state := state = {}
  step := ProviderLifetime.step

/-- Every session opened in the trace is closed in it. -/
def NoneOpen (trace : List LifetimeObservation) : Prop :=
  trace.countP LifetimeObservation.isOpened = trace.countP LifetimeObservation.isClosed

/-! ## The timer that counts -/

/-- What holds of the current timer. No session is open, and none was opened or closed since the
timer was started. -/
structure Counting (trace : List LifetimeObservation) (state : ProviderLifetime) (timer : ℕ) :
    Prop where
  alone : state.sessions = 0
  live : (state.timers timer).isCancelled = false
  created : timer < state.created
  begun : (state.timers timer).startedAt ≤ state.now
  since : ∀ event ∈ trace, event.isActivity = true → event.time ≤ (state.timers timer).startedAt
  triggered : (state.timers timer).place = .leaving ∨ (state.timers timer).place = .disposed →
    ∃ event ∈ trace, event.isIdleShutdown = true

/-- What holds of the provider in every state. -/
structure LifetimeInvariant (trace : List LifetimeObservation) (state : ProviderLifetime) :
    Prop where
  counted : trace.countP LifetimeObservation.isOpened =
    trace.countP LifetimeObservation.isClosed + state.sessions
  past : ∀ event ∈ trace, event.time ≤ state.now
  fresh : state.main = .starting → state.idleTimer = none ∧ state.sessions = 0
  armed : state.main ≠ .starting → state.sessions = 0 → state.idleTimer ≠ none
  counting : ∀ timer, state.idleTimer = some timer → Counting trace state timer
  elapsed : ∀ timer, (state.timers timer).place = .elapsed →
    (state.timers timer).startedAt + ProviderLifetime.idleTimeout ≤ state.now
  shutdown : (∃ event ∈ trace, event.isIdleShutdown = true) → state.isShutdown = true
  balanced : state.activeSessions = state.sessions ∨
    (state.main = .ended ∧ state.sessions = 0 ∧ ∃ event ∈ trace, event.isIdleShutdown = true)

/-- A provider that ends itself has had no session for the time its timer takes, and its timer
is cancelled after its end only once it has been told to end. -/
def Deserved (before : List LifetimeObservation) : LifetimeObservation → Prop
  | .idleShutdown now => NoneOpen before ∧
      ∀ event ∈ before, event.isActivity = true →
        event.time + ProviderLifetime.idleTimeout ≤ now
  | .disposedTimer _ => ∃ event ∈ before, event.isIdleShutdown = true
  | _ => True

namespace LifetimeInvariant

open ProviderLifetime LifetimeObservation

variable {trace events : List LifetimeObservation} {state next : ProviderLifetime}
  {action : LifetimeAction} {timer : ℕ}

theorem initial : LifetimeInvariant [] {} where
  counted := rfl
  past _ member := by cases member
  fresh _ := ⟨rfl, rfl⟩
  armed elsewhere := absurd rfl elsewhere
  counting _ found := by cases found
  elapsed _ found := by cases found
  shutdown found := by
    obtain ⟨_, member, -⟩ := found
    cases member
  balanced := .inl rfl

/-- A timer takes a step that leaves the rest as it is. -/
theorem setPlace (invariant : LifetimeInvariant trace state) {place : IdlePlace}
    (elapsed : place = .elapsed → (state.timers timer).startedAt + idleTimeout ≤ state.now)
    (leaves : state.idleTimer = some timer → place = .leaving ∨ place = .disposed →
      ∃ event ∈ trace, event.isIdleShutdown = true) :
    LifetimeInvariant trace (state.setPlace timer place) where
  counted := invariant.counted
  past := invariant.past
  fresh := invariant.fresh
  armed := invariant.armed
  counting current found := by
    have before := invariant.counting current found
    by_cases same : current = timer
    · subst same
      refine ⟨before.alone, ?_, before.created, ?_, ?_, fun left => leaves found ?_⟩
      · simpa [ProviderLifetime.setPlace, setTimer] using before.live
      · simpa [ProviderLifetime.setPlace, setTimer] using before.begun
      · simpa [ProviderLifetime.setPlace, setTimer] using before.since
      · simpa [ProviderLifetime.setPlace, setTimer] using left
    · refine ⟨before.alone, ?_, before.created, ?_, ?_, fun left => before.triggered ?_⟩
      · simpa [ProviderLifetime.setPlace, setTimer, same] using before.live
      · simpa [ProviderLifetime.setPlace, setTimer, same] using before.begun
      · simpa [ProviderLifetime.setPlace, setTimer, same] using before.since
      · simpa [ProviderLifetime.setPlace, setTimer, same] using left
  elapsed other found := by
    by_cases same : other = timer
    · subst same
      simp only [ProviderLifetime.setPlace, setTimer, Function.update_self] at found ⊢
      exact elapsed found
    · simp only [ProviderLifetime.setPlace, setTimer, Function.update_of_ne same] at found ⊢
      exact invariant.elapsed other found
  shutdown := invariant.shutdown
  balanced := invariant.balanced

theorem past_append (invariant : LifetimeInvariant trace state) {event : LifetimeObservation}
    (now : event.time = state.now) : ∀ seen ∈ trace ++ [event], seen.time ≤ state.now := by
  intro seen member
  rcases List.mem_append.mp member with earlier | last
  · exact invariant.past seen earlier
  · rw [List.mem_singleton.mp last, now]

theorem exists_append {event : LifetimeObservation}
    (found : ∃ seen ∈ trace, seen.isIdleShutdown = true) :
    ∃ seen ∈ trace ++ [event], seen.isIdleShutdown = true := by
  obtain ⟨seen, member, triggered⟩ := found
  exact ⟨seen, List.mem_append_left _ member, triggered⟩

theorem exists_of_append {event : LifetimeObservation} (other : event.isIdleShutdown = false)
    (found : ∃ seen ∈ trace ++ [event], seen.isIdleShutdown = true) :
    ∃ seen ∈ trace, seen.isIdleShutdown = true := by
  obtain ⟨seen, member, triggered⟩ := found
  rcases List.mem_append.mp member with earlier | last
  · exact ⟨seen, earlier, triggered⟩
  · rw [List.mem_singleton.mp last, other] at triggered
    cases triggered

/-- An observation that says nothing of sessions. -/
theorem observe (invariant : LifetimeInvariant trace state) {event : LifetimeObservation}
    (now : event.time = state.now) (opened : event.isOpened = false)
    (closed : event.isClosed = false) (quiet : event.isActivity = false)
    (shutdown : event.isIdleShutdown = true → state.isShutdown = true) :
    LifetimeInvariant (trace ++ [event]) state where
  counted := by
    rw [List.countP_append, List.countP_append, List.countP_singleton, List.countP_singleton,
      opened, closed, invariant.counted]
    rfl
  past := invariant.past_append now
  fresh := invariant.fresh
  armed := invariant.armed
  counting current found := by
    have before := invariant.counting current found
    refine ⟨before.alone, before.live, before.created, before.begun, fun seen member active => ?_,
      fun left => exists_append (before.triggered left)⟩
    rcases List.mem_append.mp member with earlier | last
    · exact before.since seen earlier active
    · rw [List.mem_singleton.mp last, quiet] at active
      cases active
  elapsed := invariant.elapsed
  shutdown found := by
    cases same : event.isIdleShutdown with
    | true => exact shutdown same
    | false => exact invariant.shutdown (exists_of_append same found)
  balanced := invariant.balanced.imp_right fun ⟨ended, alone, found⟩ =>
    ⟨ended, alone, exists_append found⟩

theorem wait (invariant : LifetimeInvariant trace state) (milliseconds : ℕ) :
    LifetimeInvariant trace { state with now := state.now + milliseconds } where
  counted := invariant.counted
  past event member := Nat.le_add_right_of_le (invariant.past event member)
  fresh := invariant.fresh
  armed := invariant.armed
  counting current found := by
    obtain ⟨alone, live, created, begun, since, triggered⟩ := invariant.counting current found
    exact ⟨alone, live, created, Nat.le_add_right_of_le begun, since, triggered⟩
  elapsed timer found := Nat.le_add_right_of_le (invariant.elapsed timer found)
  shutdown := invariant.shutdown
  balanced := invariant.balanced

/-- `Main` goes on. -/
theorem mainMoves (invariant : LifetimeInvariant trace state) {main : MainPlace}
    (here : state.main ≠ .starting) (there : main ≠ .starting)
    (stays : state.main = .ended → main = .ended) :
    LifetimeInvariant trace { state with main } where
  counted := invariant.counted
  past := invariant.past
  fresh starting := absurd starting there
  armed _ := invariant.armed here
  counting current found := by
    obtain ⟨alone, live, created, begun, since, triggered⟩ := invariant.counting current found
    exact ⟨alone, live, created, begun, since, triggered⟩
  elapsed := invariant.elapsed
  shutdown := invariant.shutdown
  balanced := invariant.balanced.imp_right fun ⟨ended, alone, found⟩ => ⟨stays ended, alone, found⟩

/-- `Main` ends with a session it has counted and does not serve. -/
theorem mainThrows (invariant : LifetimeInvariant trace state) (here : state.main ≠ .starting)
    (alone : state.sessions = 0) (found : ∃ event ∈ trace, event.isIdleShutdown = true)
    (activeSessions : ℤ) :
    LifetimeInvariant trace { state with activeSessions, main := .ended } where
  counted := invariant.counted
  past := invariant.past
  fresh starting := by cases starting
  armed _ := invariant.armed here
  counting current same := by
    obtain ⟨alone, live, created, begun, since, triggered⟩ := invariant.counting current same
    exact ⟨alone, live, created, begun, since, triggered⟩
  elapsed := invariant.elapsed
  shutdown := invariant.shutdown
  balanced := .inr ⟨rfl, alone, found⟩

theorem shutsDown (invariant : LifetimeInvariant trace state) :
    LifetimeInvariant trace { state with isShutdown := true } where
  counted := invariant.counted
  past := invariant.past
  fresh := invariant.fresh
  armed := invariant.armed
  counting current found := by
    obtain ⟨alone, live, created, begun, since, triggered⟩ := invariant.counting current found
    exact ⟨alone, live, created, begun, since, triggered⟩
  elapsed := invariant.elapsed
  shutdown _ := rfl
  balanced := invariant.balanced

/-- The steps that start a timer: that of `Main`, and the end of the last session. -/
theorem starts (invariant : LifetimeInvariant trace state) {event : LifetimeObservation}
    (now : event.time = state.now)
    (counted : (trace ++ [event]).countP isOpened = (trace ++ [event]).countP isClosed)
    (other : event.isIdleShutdown = false) {activeSessions : ℤ} (idle : activeSessions = 0)
    {sessions : ℕ} (alone : sessions = 0) {main : MainPlace} (there : main ≠ .starting) :
    LifetimeInvariant (trace ++ [event])
      { state.setTimer state.created { startedAt := state.now } with
        idleTimer := some state.created
        created := state.created + 1
        activeSessions
        sessions
        main } where
  counted := by rw [counted, alone, Nat.add_zero]
  past := invariant.past_append now
  fresh starting := absurd starting there
  armed _ _ found := by cases found
  counting current found := by
    cases found
    refine ⟨alone, ?_, Nat.lt_succ_self _, ?_, ?_, ?_⟩
    · simp [setTimer]
    · simp [setTimer]
    · intro seen member _
      simpa [setTimer] using invariant.past_append now seen member
    · simp [setTimer]
  elapsed timer found := by
    by_cases same : timer = state.created
    · simp [setTimer, same] at found
    · simp only [setTimer, Function.update_of_ne same] at found ⊢
      exact invariant.elapsed timer found
  shutdown found := invariant.shutdown (exists_of_append other found)
  balanced := .inl (by rw [idle, alone]; rfl)

theorem countP_append_singleton (property : LifetimeObservation → Bool)
    (event : LifetimeObservation) : (trace ++ [event]).countP property =
      trace.countP property + if property event then 1 else 0 := by
  rw [List.countP_append, List.countP_singleton]

theorem armIdleShutdown (invariant : LifetimeInvariant trace state)
    (starting : state.main = .starting) :
    LifetimeInvariant (trace ++ state.armIdleShutdown.2) state.armIdleShutdown.1 := by
  obtain ⟨none_, alone⟩ := invariant.fresh starting
  have idle : state.activeSessions = 0 := by
    rcases invariant.balanced with balanced | ⟨ended, -, -⟩
    · rw [balanced, alone]
      rfl
    · rw [starting] at ended
      cases ended
  have armed : state.armIdleShutdown =
      ({ state.setTimer state.created { startedAt := state.now } with
          idleTimer := some state.created
          created := state.created + 1
          main := .testing }, [.started state.now]) := by
    simp only [ProviderLifetime.armIdleShutdown, idle, if_true, startIdleTimerLocked,
      cancelIdleTimer, none_, Option.map_some]
  rw [armed]
  refine invariant.starts rfl ?_ rfl idle alone MainPlace.noConfusion
  rw [countP_append_singleton, countP_append_singleton, invariant.counted, alone]
  rfl

/-- A session is closed. The timer is started when it was the last one. -/
theorem sessionClosed (invariant : LifetimeInvariant trace state) (opened : 0 < state.sessions) :
    LifetimeInvariant (trace ++ state.sessionClosed.2) state.sessionClosed.1 := by
  have none_ : state.idleTimer = none := by
    by_contra found
    obtain ⟨timer, same⟩ := Option.ne_none_iff_exists'.mp found
    exact opened.ne' (invariant.counting timer same).alone
  have balanced : state.activeSessions = state.sessions :=
    invariant.balanced.resolve_right fun ⟨_, alone, _⟩ => opened.ne' alone
  have running : state.main ≠ .starting := fun starting =>
    opened.ne' (invariant.fresh starting).2
  have counted : (trace ++ [closed state.now]).countP isOpened =
      (trace ++ [closed state.now]).countP isClosed + (state.sessions - 1) := by
    have before := invariant.counted
    rw [countP_append_singleton, countP_append_singleton]
    simp only [isOpened, isClosed, Bool.false_eq_true, if_true, if_false]
    omega
  by_cases last : state.sessions = 1
  · have idle : state.activeSessions - 1 = 0 := by omega
    have alone : state.sessions - 1 = 0 := by omega
    have result : state.sessionClosed =
        ({ state.setTimer state.created { startedAt := state.now } with
            idleTimer := some state.created
            created := state.created + 1
            activeSessions := state.activeSessions - 1
            sessions := state.sessions - 1 }, [.closed state.now]) := by
      simp only [ProviderLifetime.sessionClosed, idle, if_true, startIdleTimerLocked,
        cancelIdleTimer, none_, Option.map_some]
      rfl
    rw [result]
    exact invariant.starts rfl (by rw [counted, alone, Nat.add_zero]) rfl idle alone running
  · have others : state.activeSessions - 1 ≠ 0 := by omega
    have result : state.sessionClosed =
        ({ state with
            activeSessions := state.activeSessions - 1
            sessions := state.sessions - 1 }, [.closed state.now]) := by
      simp only [ProviderLifetime.sessionClosed, others, if_false]
    rw [result]
    exact
      { counted
        past := invariant.past_append rfl
        fresh starting := absurd starting running
        armed _ alone := absurd alone (show state.sessions - 1 ≠ 0 by omega)
        counting timer found := absurd (none_.symm.trans found) (Option.some_ne_none timer).symm
        elapsed := invariant.elapsed
        shutdown found := invariant.shutdown (exists_of_append rfl found)
        balanced := .inl (show state.activeSessions - 1 = (state.sessions - 1 : ℕ) by omega) }

/-- A session is opened by `Main`. Timers are cancelled at most. -/
theorem opens (invariant : LifetimeInvariant trace state)
    (balanced : state.activeSessions = state.sessions) {timers : ℕ → IdleTimer}
    (same : ∀ timer, (timers timer).place = (state.timers timer).place ∧
      (timers timer).startedAt = (state.timers timer).startedAt) :
    LifetimeInvariant (trace ++ [opened state.now])
      { state with
        timers
        idleTimer := none
        activeSessions := state.activeSessions + 1
        sessions := state.sessions + 1
        main := .testing } where
  counted := by
    have before := invariant.counted
    rw [countP_append_singleton, countP_append_singleton]
    simp only [isOpened, isClosed, Bool.false_eq_true, if_true, if_false]
    omega
  past := invariant.past_append rfl
  fresh starting := by cases starting
  armed _ alone := by cases alone
  counting _ found := by cases found
  elapsed timer found := by
    obtain ⟨place, startedAt⟩ := same timer
    simp only [place] at found
    simp only [startedAt]
    exact invariant.elapsed timer found
  shutdown found := invariant.shutdown (exists_of_append rfl found)
  balanced := .inl (by rw [balanced]; rfl)

/-- A session is accepted. `Main` ends if its provider has ended itself, with a timer that is
disposed. -/
theorem sessionOpened (invariant : LifetimeInvariant trace state)
    (accepting : state.main = .accepting) :
    LifetimeInvariant (trace ++ state.sessionOpened.2) state.sessionOpened.1 := by
  have balanced : state.activeSessions = state.sessions := by
    refine invariant.balanced.resolve_right fun ⟨ended, _, _⟩ => ?_
    rw [accepting] at ended
    cases ended
  cases current : state.idleTimer with
  | none =>
      have result : state.sessionOpened =
          ({ state with
              idleTimer := none
              activeSessions := state.activeSessions + 1
              sessions := state.sessions + 1
              main := .testing }, [opened state.now]) := by
        simp only [ProviderLifetime.sessionOpened, cancelIdleTimer, current]
      rw [result]
      exact invariant.opens balanced fun _ => ⟨rfl, rfl⟩
  | some timer =>
      have counting := invariant.counting timer current
      by_cases disposed : (state.timers timer).place = .disposed
      · have found := counting.triggered (.inr disposed)
        have result : state.sessionOpened =
            ({ state with
                activeSessions := state.activeSessions + 1
                main := .ended }, [disposedTimer state.now]) := by
          simp only [ProviderLifetime.sessionOpened, cancelIdleTimer, current, disposed, if_true]
        rw [result]
        have running : state.main ≠ .starting := by
          rw [accepting]
          exact MainPlace.noConfusion
        exact (invariant.mainThrows running counting.alone found _).observe rfl rfl rfl rfl
          fun shutdown => by cases shutdown
      · have result : state.sessionOpened =
            ({ state with
                timers := Function.update state.timers timer
                  { state.timers timer with isCancelled := true }
                idleTimer := none
                activeSessions := state.activeSessions + 1
                sessions := state.sessions + 1
                main := .testing }, [opened state.now]) := by
          simp only [ProviderLifetime.sessionOpened, cancelIdleTimer, current, disposed, if_false,
            setTimer]
        rw [result]
        refine invariant.opens balanced fun other => ?_
        by_cases same : other = timer
        · rw [same, Function.update_self]
          exact ⟨rfl, rfl⟩
        · rw [Function.update_of_ne same]
          exact ⟨rfl, rfl⟩

/-- An elapsed timer ends the provider if it is the current one, and no session is open. -/
theorem tryTriggerShutdown (invariant : LifetimeInvariant trace state) :
    LifetimeInvariant (trace ++ (state.tryTriggerShutdown timer).2)
      ((state.tryTriggerShutdown timer).1.setPlace timer .leaving) := by
  by_cases triggers : state.idleTimer = some timer ∧ state.activeSessions = 0
  · have result : state.tryTriggerShutdown timer =
        ({ state with isShutdown := true }, [idleShutdown state.now]) := by
      rw [ProviderLifetime.tryTriggerShutdown, if_pos triggers]
    rw [result]
    have shut : LifetimeInvariant (trace ++ [idleShutdown state.now])
        { state with isShutdown := true } :=
      invariant.shutsDown.observe rfl rfl rfl rfl fun _ => rfl
    refine shut.setPlace (fun same => by cases same) fun _ _ => ?_
    exact ⟨_, List.mem_append_right _ (List.mem_singleton_self _), rfl⟩
  · have result : state.tryTriggerShutdown timer = (state, []) := by
      rw [ProviderLifetime.tryTriggerShutdown, if_neg triggers]
    rw [result, List.append_nil]
    refine invariant.setPlace (fun same => by cases same) fun current _ => ?_
    have other : state.activeSessions ≠ 0 := fun idle => triggers ⟨current, idle⟩
    rcases invariant.balanced with balanced | ⟨-, -, found⟩
    · rw [balanced, (invariant.counting timer current).alone] at other
      exact absurd rfl other
    · exact found

/-- **Every step keeps the invariant.** -/
theorem step (invariant : LifetimeInvariant trace state)
    (taken : state.step action = some (next, events)) : LifetimeInvariant (trace ++ events) next := by
  cases action with
  | wait milliseconds =>
      cases taken
      rw [List.append_nil]
      exact invariant.wait milliseconds
  | armIdleShutdown =>
      simp only [ProviderLifetime.step, Option.ite_none_right_eq_some, Option.some.injEq] at taken
      obtain ⟨starting, result⟩ := taken
      have armed := invariant.armIdleShutdown starting
      rwa [result] at armed
  | testToken =>
      simp only [ProviderLifetime.step, Option.ite_none_right_eq_some, Option.some.injEq,
        Prod.mk.injEq] at taken
      obtain ⟨testing, rfl, rfl⟩ := taken
      rw [List.append_nil]
      refine invariant.mainMoves (by rw [testing]; exact MainPlace.noConfusion) ?_ fun ended => ?_
      · split <;> exact MainPlace.noConfusion
      · rw [testing] at ended
        cases ended
  | sessionAccepted =>
      simp only [ProviderLifetime.step, Option.ite_none_right_eq_some, Option.some.injEq] at taken
      obtain ⟨accepting, result⟩ := taken
      have opened := invariant.sessionOpened accepting
      rwa [result] at opened
  | acceptFails =>
      simp only [ProviderLifetime.step, Option.ite_none_right_eq_some, Option.some.injEq,
        Prod.mk.injEq] at taken
      obtain ⟨accepting, rfl, rfl⟩ := taken
      rw [List.append_nil]
      exact invariant.mainMoves (by rw [accepting]; exact MainPlace.noConfusion)
        MainPlace.noConfusion fun _ => rfl
  | sessionEnds =>
      simp only [ProviderLifetime.step, Option.ite_none_right_eq_some, Option.some.injEq] at taken
      obtain ⟨opened, result⟩ := taken
      have closed := invariant.sessionClosed opened
      rwa [result] at closed
  | delayElapses timer =>
      simp only [ProviderLifetime.step, Option.ite_none_right_eq_some, Option.some.injEq,
        Prod.mk.injEq] at taken
      obtain ⟨⟨-, -, -, due⟩, rfl, rfl⟩ := taken
      rw [List.append_nil]
      refine invariant.setPlace (fun _ => due) fun _ left => ?_
      rcases left with left | left <;> cases left
  | delayCancelled timer =>
      simp only [ProviderLifetime.step, Option.ite_none_right_eq_some, Option.some.injEq,
        Prod.mk.injEq] at taken
      obtain ⟨⟨-, -, cancelled⟩, rfl, rfl⟩ := taken
      rw [List.append_nil]
      refine invariant.setPlace (fun same => by cases same) fun current _ => ?_
      rw [(invariant.counting timer current).live] at cancelled
      cases cancelled
  | tryTriggerShutdown timer =>
      simp only [ProviderLifetime.step, Option.ite_none_right_eq_some, Option.some.injEq,
        Prod.mk.injEq] at taken
      obtain ⟨-, rfl, rfl⟩ := taken
      exact invariant.tryTriggerShutdown
  | dispose timer =>
      simp only [ProviderLifetime.step, Option.ite_none_right_eq_some, Option.some.injEq,
        Prod.mk.injEq] at taken
      obtain ⟨leaving, rfl, rfl⟩ := taken
      rw [List.append_nil]
      exact invariant.setPlace (fun same => by cases same) fun current _ =>
        (invariant.counting timer current).triggered (.inl leaving)
  | cancelKeyPress =>
      cases taken
      exact invariant.shutsDown.observe rfl rfl rfl rfl fun shutdown => by cases shutdown

theorem cancel_of_start (throws : state.startIdleTimerLocked = none) :
    state.cancelIdleTimer = none :=
  Option.map_eq_none_iff.mp throws

/-- The current timer is disposed only after it has ended the provider. -/
theorem shutdown_of_throws (invariant : LifetimeInvariant trace state) {other : ProviderLifetime}
    (throws : other.cancelIdleTimer = none) (current : other.idleTimer = state.idleTimer)
    (timers : other.timers = state.timers) : ∃ event ∈ trace, event.isIdleShutdown = true := by
  rw [cancelIdleTimer, current, timers] at throws
  split at throws
  · cases throws
  · next timer found =>
      split at throws
      · next disposed => exact (invariant.counting timer found).triggered (.inr disposed)
      · cases throws

/-- The current timer has elapsed, and no session was opened since it was started. -/
theorem deserved_idleShutdown (invariant : LifetimeInvariant trace state)
    (current : state.idleTimer = some timer) (elapsed : (state.timers timer).place = .elapsed) :
    Deserved trace (idleShutdown state.now) := by
  have counting := invariant.counting timer current
  refine ⟨?_, fun event member active => ?_⟩
  · rw [NoneOpen, invariant.counted, counting.alone, Nat.add_zero]
  · exact (Nat.add_le_add_right (counting.since event member active) _).trans
      (invariant.elapsed timer elapsed)

/-- What a step observes is deserved. -/
theorem deserves (invariant : LifetimeInvariant trace state)
    (taken : state.step action = some (next, events)) :
    Always (fun before event => Deserved (trace ++ before) event) events := by
  have single : ∀ event, Deserved trace event →
      Always (fun before event => Deserved (trace ++ before) event) [event] := fun event deserved =>
    .cons (by rwa [List.append_nil]) .nil
  cases action with
  | wait milliseconds => cases taken; exact .nil
  | cancelKeyPress => cases taken; exact single _ trivial
  | armIdleShutdown =>
      simp only [ProviderLifetime.step, Option.ite_none_right_eq_some, Option.some.injEq] at taken
      obtain ⟨-, result⟩ := taken
      simp only [ProviderLifetime.armIdleShutdown] at result
      split at result
      · split at result
        · cases result
          exact single _ trivial
        · next throws =>
            cases result
            exact single _ (invariant.shutdown_of_throws (cancel_of_start throws) rfl rfl)
      · cases result
        exact single _ trivial
  | sessionAccepted =>
      simp only [ProviderLifetime.step, Option.ite_none_right_eq_some, Option.some.injEq] at taken
      obtain ⟨-, result⟩ := taken
      simp only [ProviderLifetime.sessionOpened] at result
      split at result
      · cases result
        exact single _ trivial
      · next throws =>
          cases result
          exact single _ (invariant.shutdown_of_throws throws rfl rfl)
  | sessionEnds =>
      simp only [ProviderLifetime.step, Option.ite_none_right_eq_some, Option.some.injEq] at taken
      obtain ⟨-, result⟩ := taken
      simp only [ProviderLifetime.sessionClosed] at result
      split at result
      · split at result
        · cases result
          exact single _ trivial
        · next throws =>
            cases result
            refine .cons trivial (.cons ?_ .nil)
            exact exists_append (invariant.shutdown_of_throws (cancel_of_start throws) rfl rfl)
      · cases result
        exact single _ trivial
  | tryTriggerShutdown timer =>
      simp only [ProviderLifetime.step, Option.ite_none_right_eq_some, Option.some.injEq,
        Prod.mk.injEq] at taken
      obtain ⟨elapsed, -, rfl⟩ := taken
      simp only [ProviderLifetime.tryTriggerShutdown]
      split
      · next triggers => exact single _ (invariant.deserved_idleShutdown triggers.1 elapsed)
      · exact .nil
  | testToken | acceptFails | delayElapses | delayCancelled | dispose =>
      simp only [ProviderLifetime.step, Option.ite_none_right_eq_some, Option.some.injEq,
        Prod.mk.injEq] at taken
      obtain ⟨-, -, rfl⟩ := taken
      exact .nil

end LifetimeInvariant

theorem ProviderLifetime.invariant_of_reaches {trace : List LifetimeObservation}
    {state : ProviderLifetime}
    (reached : providerLifetime.Reaches Machine.anyStep trace state) :
    LifetimeInvariant trace state := by
  refine reached.induct (motive := LifetimeInvariant) ?_ ?_
  · rintro start rfl
    exact .initial
  · intro _ _ _ _ _ _ invariant _ taken
    exact invariant.step taken

/-- **A provider ends itself only after a whole second without a session.** Whatever sessions
are opened and closed as its timers elapse, every session is closed when the provider ends
itself, and none was opened or closed in the second before. A timer that is already disposed is
cancelled only by a session that comes after this. -/
theorem idle_shutdown_deserved {trace : List LifetimeObservation} {state : ProviderLifetime}
    (reached : providerLifetime.Reaches Machine.anyStep trace state) : Always Deserved trace := by
  refine reached.induct (motive := fun trace _ => Always Deserved trace) ?_ ?_
  · rintro start rfl
    exact .nil
  · intro _ _ _ _ _ before deserved _ taken
    exact deserved.append ((ProviderLifetime.invariant_of_reaches before).deserves taken)

/-- A session is opened as the first timer elapses; the timer of its end ends the provider, and
a session that comes too late finds it disposed. -/
def servedOnce : List LifetimeAction :=
  [.armIdleShutdown, .testToken, .wait 1000, .delayElapses 0, .sessionAccepted,
    .tryTriggerShutdown 0, .dispose 0, .testToken, .sessionEnds, .wait 1200, .delayElapses 1,
    .tryTriggerShutdown 1, .dispose 1, .sessionAccepted]

theorem idle_shutdown_deserved_servedOnce :
    Always Deserved
      [.started 0, .opened 1000, .closed 1000, .idleShutdown 2200, .disposedTimer 2200] := by
  have run := providerLifetime.run_finalState {} servedOnce (Machine.along_anyStep _ _) (by rfl)
  have trace : providerLifetime.emitted {} servedOnce =
      [.started 0, .opened 1000, .closed 1000, .idleShutdown 2200, .disposedTimer 2200] := by rfl
  rw [trace] at run
  exact idle_shutdown_deserved ⟨{}, rfl, run⟩

/-- **An idle provider ends itself.** In every state without a session, once `Main` has started
and until the provider is told to end, the current timer is still waiting or has elapsed, and
its next steps end the provider. -/
theorem idle_provider_shuts_down {trace : List LifetimeObservation} {state : ProviderLifetime}
    (reached : providerLifetime.Reaches Machine.anyStep trace state)
    (started : state.main ≠ .starting) (alone : state.sessions = 0)
    (running : state.isShutdown = false) :
    ∃ now next, providerLifetime.Run Machine.anyStep state [.idleShutdown now] next ∧
      next.isShutdown = true ∧ now ≤ state.now + ProviderLifetime.idleTimeout := by
  have invariant := ProviderLifetime.invariant_of_reaches reached
  have quiet : ¬∃ event ∈ trace, event.isIdleShutdown = true := fun found => by
    rw [invariant.shutdown found] at running
    cases running
  have idle : state.activeSessions = 0 := by
    rcases invariant.balanced with balanced | ⟨-, -, found⟩
    · rw [balanced, alone]
      rfl
    · exact absurd found quiet
  obtain ⟨timer, current⟩ := Option.ne_none_iff_exists'.mp (invariant.armed started alone)
  have counting := invariant.counting timer current
  have triggers : ∀ state : ProviderLifetime, state.idleTimer = some timer →
      state.activeSessions = 0 → (state.timers timer).place = .elapsed →
        providerLifetime.step state (.tryTriggerShutdown timer) =
          some (({ state with isShutdown := true } : ProviderLifetime).setPlace timer .leaving,
            [.idleShutdown state.now]) := by
    intro state current idle elapsed
    simp only [providerLifetime, ProviderLifetime.step, elapsed, if_true,
      ProviderLifetime.tryTriggerShutdown, current, idle, and_self]
  cases place : (state.timers timer).place with
  | delaying =>
      have waited : providerLifetime.step state (.wait ProviderLifetime.idleTimeout) =
          some ({ state with now := state.now + ProviderLifetime.idleTimeout }, []) := rfl
      have elapses : providerLifetime.step
          { state with now := state.now + ProviderLifetime.idleTimeout } (.delayElapses timer) =
            some (({ state with now := state.now + ProviderLifetime.idleTimeout } :
              ProviderLifetime).setPlace timer .elapsed, []) := by
        simp only [providerLifetime, ProviderLifetime.step]
        exact if_pos ⟨counting.created, place, counting.live,
          Nat.add_le_add_right counting.begun _⟩
      refine ⟨_, _, ((Machine.Run.single trivial waited).step trivial elapses).step trivial
        (triggers _ current idle ?_), rfl, Nat.le_refl _⟩
      simp [ProviderLifetime.setPlace, ProviderLifetime.setTimer]
  | elapsed =>
      exact ⟨_, _, .single trivial (triggers state current idle place), rfl, Nat.le_add_right ..⟩
  | leaving => exact absurd (counting.triggered (.inl place)) quiet
  | disposed => exact absurd (counting.triggered (.inr place)) quiet

theorem idle_provider_shuts_down_servedOnce :
    ∃ now next, providerLifetime.Run Machine.anyStep
      (providerLifetime.finalState {} (servedOnce.take 9)) [.idleShutdown now] next ∧
        next.isShutdown = true ∧ now ≤ 1000 + ProviderLifetime.idleTimeout := by
  have run := providerLifetime.run_finalState {} (servedOnce.take 9) (Machine.along_anyStep _ _)
    (by rfl)
  exact idle_provider_shuts_down ⟨{}, rfl, run⟩ MainPlace.noConfusion rfl rfl

end ModernSapi
