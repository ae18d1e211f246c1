import ModernSapi.Library.Machine
import ModernSapi.Library.Threads
import ModernSapi.Worker.Context

/-!
# The entry points of the DLL

COM asks for the class object with `DllGetClassObject` and whether the DLL may be unloaded
with `DllCanUnloadNow`, from any number of threads. A gate counts the calls of the first
that are under way, and the second closes it before it looks at the module lock again. The
module lock counts the live factories, engines and server locks.

What the logger answers comes from anywhere here. A build without a logger takes the same
steps, as one whose logger is always quiescent.
-/

set_option autoImplicit false

namespace ModernSapi

open Interleaving

/-! ## The gate -/

inductive AdmissionState where
  | open_
  | closing
  deriving DecidableEq, Repr

structure DllEntryAdmission where
  state : AdmissionState := .open_
  entryCount : ℕ := 0
  deriving DecidableEq, Repr

namespace DllEntryAdmission

/-- The gate after the entry, and whether it was reopened. -/
def enterOrReopen (admission : DllEntryAdmission) : DllEntryAdmission × Bool :=
  if admission.state = .closing then
    ({ state := .open_, entryCount := admission.entryCount + 1 }, true)
  else ({ admission with entryCount := admission.entryCount + 1 }, false)

def reopen (admission : DllEntryAdmission) : DllEntryAdmission :=
  if admission.state ≠ .closing then admission else { admission with state := .open_ }

/-- The destructor of a lease. -/
def release (admission : DllEntryAdmission) : DllEntryAdmission :=
  { admission with entryCount := admission.entryCount - 1 }

end DllEntryAdmission

/-! ## The calls -/

/-- Where a thread stands in `DllGetClassObject` or in `DllCanUnloadNow`. -/
inductive DllCall where
  | idle
  | entering
  | resuming
  | admitted
  | published
  | checkingLock
  | beginningToClose
  | awaitingEntries
  | quiescing
  | recheckingLock
  | resumingRejected
  | reopening
  | approved
  | refused
  deriving DecidableEq, Repr

/-- The call holds a lease of the gate. -/
def DllCall.leased : DllCall → Bool
  | .resuming | .admitted | .published => true
  | _ => false

/-- The call waits for a function of the logger to return. -/
def DllCall.callsLogger : DllCall → Bool
  | .resuming | .quiescing | .resumingRejected => true
  | _ => false

/-- The DLL, with its threads. The factories are those a client has been given. -/
structure DllModule where
  admission : DllEntryAdmission := {}
  moduleLock : ℕ := 0
  factories : ℕ := 0
  engines : ℕ := 0
  serverLocks : ℕ := 0
  calls : ℕ → DllCall := fun _ => .idle

inductive DllObservation where
  | getClassObjectReturned (thread : ℕ)
  | canUnloadNowReturned (thread : ℕ) (result : HResult)
  deriving DecidableEq, Repr

inductive DllAction where
  | getClassObjectWithoutOutput (thread : ℕ)
  | getClassObject (thread : ℕ)
  | enterOrReopen (thread : ℕ)
  | makeFactory (thread : ℕ)
  | getClassObjectReturns (thread : ℕ) (found : Bool)
  | canUnloadNow (thread : ℕ)
  | checkLock (thread : ℕ)
  | beginClosing (thread : ℕ)
  | entriesDrained (thread : ℕ)
  | entriesTimeOut (thread : ℕ)
  | loggerQuiesced (thread : ℕ) (quiesced : Bool)
  | recheckLock (thread : ℕ)
  | loggerResumed (thread : ℕ)
  | reopen (thread : ℕ)
  | canUnloadNowReturns (thread : ℕ)
  | createInstance
  | lockServer (lock : Bool)
  | releaseFactory
  | releaseEngine
  deriving DecidableEq, Repr

/-- The step is the return of a function of the logger. -/
def DllAction.isReturnOfLogger : DllAction → Bool
  | .loggerQuiesced .. | .loggerResumed _ => true
  | _ => false

namespace DllModule

/-- The thread goes on to its next place. -/
def move (module : DllModule) (thread : ℕ) (call : DllCall) : DllModule :=
  { module with calls := Function.update module.calls thread call }

/-- The lease of the gate is taken. A call that reopens it resumes the logger first. -/
def enterOrReopen (module : DllModule) (thread : ℕ) : DllModule :=
  let entered := module.admission.enterOrReopen
  { module with admission := entered.1 }.move thread (if entered.2 then .resuming else .admitted)

/-- The first section of `BeginClosingAndWaitForEntries`. -/
def beginClosing (module : DllModule) (thread : ℕ) : DllModule :=
  if module.admission.state ≠ .open_ then module.move thread .refused
  else
    { module with admission := { module.admission with state := .closing } }.move thread
      (if module.admission.entryCount = 0 then .quiescing else .awaitingEntries)

/-- The wait for the entries ends without them, which opens the gate again. -/
def entriesTimeOut (module : DllModule) (thread : ℕ) : DllModule :=
  { module with admission := { module.admission with state := .open_ } }.move thread .refused

/-- The call returns and gives its lease back. A factory that lacks the interface asked for
is destroyed. -/
def getClassObjectReturns (module : DllModule) (thread : ℕ) (found : Bool) :
    Option (DllModule × List DllObservation) :=
  let left := { module with admission := module.admission.release }.move thread .idle
  match module.calls thread with
  | .published =>
      some (if found then { left with factories := left.factories + 1 }
        else { left with moduleLock := left.moduleLock - 1 }, [.getClassObjectReturned thread])
  | .admitted => if found then none else some (left, [.getClassObjectReturned thread])
  | _ => none

def canUnloadNowReturns (module : DllModule) (thread : ℕ) :
    Option (DllModule × List DllObservation) :=
  match module.calls thread with
  | .approved => some (module.move thread .idle, [.canUnloadNowReturned thread .sOk])
  | .refused => some (module.move thread .idle, [.canUnloadNowReturned thread .sFalse])
  | _ => none

/-- A client that holds a factory locks the server, or takes a lock of it back. -/
def lockServer (module : DllModule) (lock : Bool) : Option (DllModule × List DllObservation) :=
  if 0 < module.factories then
    if lock then
      some ({ module with
        serverLocks := module.serverLocks + 1, moduleLock := module.moduleLock + 1 }, [])
    else if 0 < module.serverLocks then
      some ({ module with
        serverLocks := module.serverLocks - 1, moduleLock := module.moduleLock - 1 }, [])
    else none
  else none

def step (module : DllModule) : DllAction → Option (DllModule × List DllObservation)
  | .getClassObjectWithoutOutput thread =>
      if module.calls thread = .idle then some (module, [.getClassObjectReturned thread]) else none
  | .getClassObject thread =>
      if module.calls thread = .idle then some (module.move thread .entering, []) else none
  | .enterOrReopen thread =>
      if module.calls thread = .entering then some (module.enterOrReopen thread, []) else none
  | .makeFactory thread =>
      if module.calls thread = .admitted then
        some ({ module with moduleLock := module.moduleLock + 1 }.move thread .published, [])
      else none
  | .getClassObjectReturns thread found => module.getClassObjectReturns thread found
  | .canUnloadNow thread =>
      if module.calls thread = .idle then some (module.move thread .checkingLock, []) else none
  | .checkLock thread =>
      if module.calls thread = .checkingLock then
        some (module.move thread (if module.moduleLock ≠ 0 then .refused else .beginningToClose), [])
      else none
  | .beginClosing thread =>
      if module.calls thread = .beginningToClose then some (module.beginClosing thread, [])
      else none
  | .entriesDrained thread =>
      if module.calls thread = .awaitingEntries ∧ module.admission.entryCount = 0 then
        some (module.move thread .quiescing, [])
      else none
  | .entriesTimeOut thread =>
      if module.calls thread = .awaitingEntries ∧ module.admission.entryCount ≠ 0 then
        some (module.entriesTimeOut thread, [])
      else none
  | .loggerQuiesced thread quiesced =>
      if module.calls thread = .quiescing then
        some (module.move thread (if quiesced then .recheckingLock else .reopening), [])
      else none
  | .recheckLock thread =>
      if module.calls thread = .recheckingLock then
        some (module.move thread
          (if module.moduleLock ≠ 0 then .resumingRejected else .approved), [])
      else none
  | .loggerResumed thread =>
      match module.calls thread with
      | .resuming => some (module.move thread .admitted, [])
      | .resumingRejected => some (module.move thread .reopening, [])
      | _ => none
  | .reopen thread =>
      if module.calls thread = .reopening then
        some ({ module with admission := module.admission.reopen }.move thread .refused, [])
      else none
  | .canUnloadNowReturns thread => module.canUnloadNowReturns thread
  | .createInstance =>
      if 0 < module.factories then
        some ({ module with engines := module.engines + 1, moduleLock := module.moduleLock + 1 }, [])
      else none
  | .lockServer lock => module.lockServer lock
  | .releaseFactory =>
      if 0 < module.factories then
        some ({ module with
          factories := module.factories - 1, moduleLock := module.moduleLock - 1 }, [])
      else none
  | .releaseEngine =>
      if 0 < module.engines then
        some ({ module with engines := module.engines - 1, moduleLock := module.moduleLock - 1 }, [])
      else none

end DllModule

/-- The machine of the DLL, from the moment it is loaded. -/
def dllMachine : Machine DllModule DllAction DllObservation where
  init module := module = {}
  step := DllModule.step

/-! ## The cases of a step -/

/-- The places a thread moves between without more, what the move depends on and what is
seen of it. -/
inductive DllModule.Moves (module : DllModule) (thread : ℕ) :
    DllCall → DllCall → List DllObservation → Prop where
  | called : Moves module thread .idle .entering []
  | resumed : Moves module thread .resuming .admitted []
  | asked : Moves module thread .idle .checkingLock []
  | unlocked : Moves module thread .checkingLock .beginningToClose []
  | locked : Moves module thread .checkingLock .refused []
  | alreadyClosing (closing : module.admission.state = .closing) :
      Moves module thread .beginningToClose .refused []
  | drained (noEntries : module.admission.entryCount = 0) :
      Moves module thread .awaitingEntries .quiescing []
  | quiesced : Moves module thread .quiescing .recheckingLock []
  | notQuiesced : Moves module thread .quiescing .reopening []
  | stillUnlocked (unlocked : module.moduleLock = 0) :
      Moves module thread .recheckingLock .approved []
  | lockedMeanwhile : Moves module thread .recheckingLock .resumingRejected []
  | resumedRejected : Moves module thread .resumingRejected .reopening []
  | returnedOk : Moves module thread .approved .idle [.canUnloadNowReturned thread .sOk]
  | returnedFalse : Moves module thread .refused .idle [.canUnloadNowReturned thread .sFalse]

/-- What the clients do to the live objects, and to the module lock with them. -/
inductive DllModule.ClientStep (module : DllModule) : DllModule → Prop where
  | created (factory : 0 < module.factories) :
      ClientStep module
        { module with engines := module.engines + 1, moduleLock := module.moduleLock + 1 }
  | locked (factory : 0 < module.factories) :
      ClientStep module
        { module with serverLocks := module.serverLocks + 1, moduleLock := module.moduleLock + 1 }
  | unlocked (held : 0 < module.serverLocks) :
      ClientStep module
        { module with serverLocks := module.serverLocks - 1, moduleLock := module.moduleLock - 1 }
  | factoryReleased (held : 0 < module.factories) :
      ClientStep module
        { module with factories := module.factories - 1, moduleLock := module.moduleLock - 1 }
  | engineReleased (held : 0 < module.engines) :
      ClientStep module
        { module with engines := module.engines - 1, moduleLock := module.moduleLock - 1 }

/-- The cases of a step of the DLL. -/
inductive DllStep (module : DllModule) : DllAction → DllModule → List DllObservation → Prop where
  | moved {action : DllAction} {thread : ℕ} {call : DllCall} {events : List DllObservation}
      (moves : module.Moves thread (module.calls thread) call events)
      (returns : (module.calls thread).callsLogger = true → action.isReturnOfLogger = true) :
      DllStep module action (module.move thread call) events
  | withoutOutput {thread : ℕ} :
      DllStep module (.getClassObjectWithoutOutput thread) module [.getClassObjectReturned thread]
  | entered {thread : ℕ} (here : module.calls thread = .entering)
      (isOpen : module.admission.state = .open_) :
      DllStep module (.enterOrReopen thread)
        ({ module with
          admission := ⟨.open_, module.admission.entryCount + 1⟩ }.move thread .admitted) []
  | reopened {thread : ℕ} (here : module.calls thread = .entering)
      (closing : module.admission.state = .closing) :
      DllStep module (.enterOrReopen thread)
        ({ module with
          admission := ⟨.open_, module.admission.entryCount + 1⟩ }.move thread .resuming) []
  | published {thread : ℕ} (here : module.calls thread = .admitted) :
      DllStep module (.makeFactory thread)
        ({ module with moduleLock := module.moduleLock + 1 }.move thread .published) []
  | given {thread : ℕ} (here : module.calls thread = .published) :
      DllStep module (.getClassObjectReturns thread true)
        ({ module with
          admission := module.admission.release
          factories := module.factories + 1 }.move thread .idle) [.getClassObjectReturned thread]
  | lacked {thread : ℕ} (here : module.calls thread = .published) :
      DllStep module (.getClassObjectReturns thread false)
        ({ module with
          admission := module.admission.release
          moduleLock := module.moduleLock - 1 }.move thread .idle) [.getClassObjectReturned thread]
  | unknownClass {thread : ℕ} (here : module.calls thread = .admitted) :
      DllStep module (.getClassObjectReturns thread false)
        ({ module with admission := module.admission.release }.move thread .idle)
        [.getClassObjectReturned thread]
  | closed {thread : ℕ} {call : DllCall} (here : module.calls thread = .beginningToClose)
      (isOpen : module.admission.state = .open_)
      (waits : (module.admission.entryCount = 0 ∧ call = .quiescing) ∨ call = .awaitingEntries) :
      DllStep module (.beginClosing thread)
        ({ module with admission := { module.admission with state := .closing } }.move thread call)
        []
  | timedOut {thread : ℕ} (here : module.calls thread = .awaitingEntries) :
      DllStep module (.entriesTimeOut thread) (module.entriesTimeOut thread) []
  | reopenedGate {thread : ℕ} (here : module.calls thread = .reopening) :
      DllStep module (.reopen thread)
        ({ module with admission := { module.admission with state := .open_ } }.move thread .refused)
        []
  | client {action : DllAction} {next : DllModule} (taken : module.ClientStep next) :
      DllStep module action next []

section Spec

variable {module next : DllModule} {action : DllAction} {events : List DllObservation}
  {thread : ℕ}

theorem DllStep.moves {here call : DllCall} (stands : module.calls thread = here)
    (moves : module.Moves thread here call events)
    (returns : here.callsLogger = true → action.isReturnOfLogger = true) :
    DllStep module action (module.move thread call) events := by
  rw [← stands] at moves returns
  exact .moved moves returns

theorem enterOrReopen_spec (here : module.calls thread = .entering) :
    DllStep module (.enterOrReopen thread) (module.enterOrReopen thread) [] := by
  unfold DllModule.enterOrReopen DllEntryAdmission.enterOrReopen
  cases state : module.admission.state with
  | open_ => exact .entered here state
  | closing => exact .reopened here state

theorem beginClosing_spec (here : module.calls thread = .beginningToClose) :
    DllStep module (.beginClosing thread) (module.beginClosing thread) [] := by
  unfold DllModule.beginClosing
  cases state : module.admission.state with
  | closing => exact .moves here (.alreadyClosing state) nofun
  | open_ =>
      refine .closed here state ?_
      split
      · next none => exact .inl ⟨none, rfl⟩
      · exact .inr rfl

theorem getClassObjectReturns_spec {found : Bool}
    (taken : module.getClassObjectReturns thread found = some (next, events)) :
    DllStep module (.getClassObjectReturns thread found) next events := by
  unfold DllModule.getClassObjectReturns at taken
  split at taken
  · next here =>
      cases found with
      | true =>
          cases taken
          exact .given here
      | false =>
          cases taken
          exact .lacked here
  · next here =>
      cases found with
      | true => cases taken
      | false =>
          cases taken
          exact .unknownClass here
  · cases taken

theorem canUnloadNowReturns_spec
    (taken : module.canUnloadNowReturns thread = some (next, events)) :
    DllStep module (.canUnloadNowReturns thread) next events := by
  unfold DllModule.canUnloadNowReturns at taken
  split at taken
  · next here =>
      cases taken
      exact .moves here .returnedOk nofun
  · next here =>
      cases taken
      exact .moves here .returnedFalse nofun
  · cases taken

theorem lockServer_spec {lock : Bool} (taken : module.lockServer lock = some (next, events)) :
    DllStep module (.lockServer lock) next events := by
  unfold DllModule.lockServer at taken
  split at taken
  · next factory =>
      split at taken
      · cases taken
        exact .client (.locked factory)
      · split at taken
        · next held =>
            cases taken
            exact .client (.unlocked held)
        · cases taken
  · cases taken

/-- **Every step is one of the listed cases.** -/
theorem dllStep_spec (taken : module.step action = some (next, events)) :
    DllStep module action next events := by
  cases action with
  | getClassObjectReturns thread found => exact getClassObjectReturns_spec taken
  | canUnloadNowReturns thread => exact canUnloadNowReturns_spec taken
  | lockServer lock => exact lockServer_spec taken
  | loggerResumed thread =>
      simp only [DllModule.step] at taken
      split at taken
      · next here =>
          cases taken
          exact .moves here .resumed fun _ => rfl
      · next here =>
          cases taken
          exact .moves here .resumedRejected fun _ => rfl
      · cases taken
  | getClassObjectWithoutOutput thread =>
      obtain ⟨here, ended⟩ := Option.ite_none_right_eq_some.mp taken
      cases ended
      exact .withoutOutput
  | getClassObject thread =>
      obtain ⟨here, ended⟩ := Option.ite_none_right_eq_some.mp taken
      cases ended
      exact .moves here .called nofun
  | enterOrReopen thread =>
      obtain ⟨here, ended⟩ := Option.ite_none_right_eq_some.mp taken
      cases ended
      exact enterOrReopen_spec here
  | makeFactory thread =>
      obtain ⟨here, ended⟩ := Option.ite_none_right_eq_some.mp taken
      cases ended
      exact .published here
  | canUnloadNow thread =>
      obtain ⟨here, ended⟩ := Option.ite_none_right_eq_some.mp taken
      cases ended
      exact .moves here .asked nofun
  | checkLock thread =>
      obtain ⟨here, ended⟩ := Option.ite_none_right_eq_some.mp taken
      cases ended
      split
      · exact .moves here .locked nofun
      · exact .moves here .unlocked nofun
  | beginClosing thread =>
      obtain ⟨here, ended⟩ := Option.ite_none_right_eq_some.mp taken
      cases ended
      exact beginClosing_spec here
  | entriesDrained thread =>
      obtain ⟨here, ended⟩ := Option.ite_none_right_eq_some.mp taken
      cases ended
      exact .moves here.1 (.drained here.2) nofun
  | entriesTimeOut thread =>
      obtain ⟨here, ended⟩ := Option.ite_none_right_eq_some.mp taken
      cases ended
      exact .timedOut here.1
  | loggerQuiesced thread quiesced =>
      obtain ⟨here, ended⟩ := Option.ite_none_right_eq_some.mp taken
      cases ended
      cases quiesced with
      | true => exact .moves here .quiesced fun _ => rfl
      | false => exact .moves here .notQuiesced fun _ => rfl
  | recheckLock thread =>
      obtain ⟨here, ended⟩ := Option.ite_none_right_eq_some.mp taken
      cases ended
      split
      · exact .moves here .lockedMeanwhile nofun
      · next unlocked => exact .moves here (.stillUnlocked (not_not.mp unlocked)) nofun
  | reopen thread =>
      obtain ⟨here, ended⟩ := Option.ite_none_right_eq_some.mp taken
      cases ended
      have opened : module.admission.reopen = { module.admission with state := .open_ } := by
        unfold DllEntryAdmission.reopen
        split
        · next closed =>
            cases state : module.admission.state with
            | closing => exact absurd state closed
            | open_ => rw [← state]
        · rfl
      rw [opened]
      exact .reopenedGate here
  | createInstance =>
      obtain ⟨here, ended⟩ := Option.ite_none_right_eq_some.mp taken
      cases ended
      exact .client (.created here)
  | releaseFactory =>
      obtain ⟨here, ended⟩ := Option.ite_none_right_eq_some.mp taken
      cases ended
      exact .client (.factoryReleased here)
  | releaseEngine =>
      obtain ⟨here, ended⟩ := Option.ite_none_right_eq_some.mp taken
      cases ended
      exact .client (.engineReleased here)

end Spec

end ModernSapi
