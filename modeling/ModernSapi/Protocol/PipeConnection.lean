import ModernSapi.Library.Machine
import ModernSapi.Library.Trace

/-!
# Connecting to a provider

`PipeClient::Connect` opens the two pipes of a provider. When the control pipe is missing it
launches the provider, and then tries again until a second has passed. A call is a machine: its
environment says what each call of the system comes to and what the clock shows, and what the
call does to the outside is its trace.

* `connectStep_of_step` says once what a step can do.
* `connect_correct`: at most one launch, only after an attempt that has found no control pipe,
  and after the call the two handles that one attempt has opened, or none.
-/

set_option autoImplicit false

namespace ModernSapi

open Interleaving

/-! ## Result codes -/

/-- An error code of the system. -/
structure Win32Error where
  code : UInt32
  isError : code ≠ 0 := by decide
  isShort : code < 0x10000 := by decide
  deriving DecidableEq

/-- The 32 bits of an `HRESULT`. -/
abbrev HResultBits := UInt32

namespace HResultBits

def sOk : HResultBits := 0

/-- `HRESULT_FROM_WIN32`. -/
def fromWin32 (error : UInt32) : HResultBits :=
  if error = 0 ∨ 0x80000000 ≤ error then error
  else (error &&& (0x0000FFFF : UInt32)) ||| ((7 : UInt32) <<< 16) ||| 0x80000000

/-- `HRESULT_CODE`. -/
def code (hr : HResultBits) : UInt32 := hr &&& (0xFFFF : UInt32)

def succeeded (hr : HResultBits) : Bool := hr < 0x80000000

theorem and_low_of_lt {value : UInt32} (isShort : value < 0x10000) : value &&& 0xFFFF = value := by
  apply UInt32.toNat_inj.mp
  have bound : value.toNat < 2 ^ 16 := UInt32.lt_iff_toNat_lt.mp isShort
  have masked : value.toNat &&& (2 ^ 16 - 1) = value.toNat := by
    rw [Nat.and_two_pow_sub_one_eq_mod, Nat.mod_eq_of_lt bound]
  rw [UInt32.toNat_and]
  exact masked

theorem fromWin32_eq (error : Win32Error) :
    fromWin32 error.code = error.code ||| ((7 : UInt32) <<< 16) ||| 0x80000000 := by
  have short : ¬(error.code = 0 ∨ 0x80000000 ≤ error.code) := by
    have bound := UInt32.lt_iff_toNat_lt.mp error.isShort
    rintro (zero | large)
    · exact error.isError zero
    · have large' := UInt32.le_iff_toNat_le.mp large
      change 2147483648 ≤ _ at large'
      change _ < 65536 at bound
      omega
  rw [fromWin32, if_neg short, and_low_of_lt error.isShort]

/-- The code of an error survives in the result made from it. -/
theorem code_fromWin32 (error : Win32Error) : code (fromWin32 error.code) = error.code := by
  have bits : (fromWin32 error.code &&& 0xFFFF).toNat = (error.code &&& 0xFFFF).toNat := by
    rw [fromWin32_eq]
    simp only [UInt32.toNat_and, UInt32.toNat_or, Nat.and_or_distrib_right]
    change _ ||| 0 ||| 0 = _
    rw [Nat.or_zero, Nat.or_zero]
  rw [code, UInt32.toNat_inj.mp bits, and_low_of_lt error.isShort]

/-- A result made from an error is a failure. -/
@[simp] theorem succeeded_fromWin32 (error : Win32Error) :
    succeeded (fromWin32 error.code) = false := by
  have failing : (0x80000000 : UInt32) ≤ fromWin32 error.code := by
    rw [fromWin32_eq, UInt32.le_iff_toNat_le, UInt32.toNat_or]
    exact Nat.right_le_or
  rw [succeeded, decide_eq_false_iff_not, UInt32.not_lt]
  exact failing

end HResultBits

namespace Win32Error

def fileNotFound : Win32Error := { code := 2 }
def accessDenied : Win32Error := { code := 5 }
def pipeBusy : Win32Error := { code := 231 }
def processAborted : Win32Error := { code := 1067 }

end Win32Error

/-! ## The client -/

/-- What the three calls of an attempt come to: an error, or none. -/
structure PipeOutcomes where
  control : Option Win32Error := none
  audio : Option Win32Error := none
  readMode : Option Win32Error := none
  deriving DecidableEq

/-- The pipe handles of the client, each named by the attempt that has opened it. -/
structure PipeHandles where
  controlPipe : Option ℕ := none
  audioPipe : Option ℕ := none
  /-- `m_providerProcess.hProcess` is set. -/
  hasProcess : Bool := false
  deriving DecidableEq

namespace PipeHandles

/-- The handles are moved to the client when all three calls have succeeded. Also says whether
the control pipe was opened. -/
def tryConnectPipes (client : PipeHandles) (attempt : ℕ) (outcomes : PipeOutcomes) :
    PipeHandles × HResultBits × Bool :=
  match outcomes.control with
  | some error => (client, .fromWin32 error.code, false)
  | none =>
      match outcomes.audio with
      | some error => (client, .fromWin32 error.code, true)
      | none =>
          match outcomes.readMode with
          | some error => (client, .fromWin32 error.code, true)
          | none => ({ client with controlPipe := some attempt, audioPipe := some attempt }, .sOk, true)

def isPipeBusy (error : UInt32) : Bool := error == Win32Error.pipeBusy.code

def shouldSpawnProvider (connectError : UInt32) (controlPipeOpened : Bool) (exePath : List Char) :
    Bool :=
  !exePath.isEmpty && !controlPipeOpened && connectError == Win32Error.fileNotFound.code

end PipeHandles

namespace PipeOutcomes

/-- The error that the attempt reports. -/
def error (outcomes : PipeOutcomes) : Option Win32Error :=
  outcomes.control.orElse fun _ => outcomes.audio.orElse fun _ => outcomes.readMode

/-- The result that the attempt reports. -/
def result (outcomes : PipeOutcomes) : HResultBits :=
  (outcomes.error.map fun error => .fromWin32 error.code).getD .sOk

theorem tryConnectPipes_eq (outcomes : PipeOutcomes) (client : PipeHandles) (attempt : ℕ) :
    client.tryConnectPipes attempt outcomes =
      (if outcomes.error = none then
          { client with controlPipe := some attempt, audioPipe := some attempt }
        else client,
        outcomes.result, outcomes.control.isNone) := by
  obtain ⟨_ | control, _ | audio, _ | readMode⟩ := outcomes <;> rfl

end PipeOutcomes

/-! ## A call of `Connect` -/

inductive Pipe where
  | control
  | audio
  deriving DecidableEq, Repr

/-- What a call does to the outside. -/
inductive ConnectEvent where
  | attempted (attempt : ℕ) (outcomes : PipeOutcomes)
  | launched (commandLine directory : List Char) (failure : Option Win32Error)
  | waitedForPipe (pipe : Pipe) (waitMs : ℕ)
  | slept (waitMs : ℕ)
  | returned (hr : HResultBits)
  deriving DecidableEq

/-- Where a call is. Those inside the window carry the latest result and whether the control
pipe was opened. -/
inductive ConnectPlace where
  | connecting
  | launching (hr : HResultBits) (controlPipeOpened : Bool)
  | startingWindow (hr : HResultBits) (controlPipeOpened : Bool)
  | testingWindow (deadline : UInt64) (hr : HResultBits) (controlPipeOpened : Bool)
  | testingExit (deadline : UInt64) (hr : HResultBits) (controlPipeOpened : Bool)
  | measuringWait (deadline : UInt64) (hr : HResultBits) (controlPipeOpened : Bool)
  | retrying (deadline : UInt64)
  | relaunching (deadline : UInt64) (hr : HResultBits) (controlPipeOpened : Bool)
  | returned (hr : HResultBits)
  deriving DecidableEq

structure ConnectCall where
  client : PipeHandles := {}
  place : ConnectPlace := .connecting
  /-- The number of attempts so far. -/
  attempts : ℕ := 0
  deriving DecidableEq

/-- What the environment answers at the place where the call is. -/
inductive ConnectAction where
  | pipes (outcomes : PipeOutcomes)
  | launch (failure : Option Win32Error)
  | tick (now : UInt64)
  | providerState (exited : Bool)
  deriving DecidableEq

namespace ConnectCall

def pipeReadyTimeoutMs : UInt64 := 1000
def pipeProbeIntervalMs : UInt64 := 10

/-- `exePath.substr(0, exePath.find_last_of(L"\\/"))`: the whole path when it has no separator. -/
def exeDir (exePath : List Char) : List Char :=
  if exePath.any (fun char => char == '\\' || char == '/') then
    (exePath.reverse.dropWhile fun char => char != '\\' && char != '/').tail.reverse
  else exePath

def fullCmdLine (exePath : List Char) : List Char := '"' :: exePath ++ ['"']

/-- A launch, the event of it and how the call goes on when it has succeeded. -/
def launchProviderProcess (call : ConnectCall) (exePath : List Char) (failure : Option Win32Error)
    (next : ConnectPlace) : ConnectCall × List ConnectEvent :=
  match failure with
  | some error =>
      ({ call with place := .returned (.fromWin32 error.code) },
        [.launched (fullCmdLine exePath) (exeDir exePath) failure,
          .returned (.fromWin32 error.code)])
  | none =>
      ({ call with client := { call.client with hasProcess := true }, place := next },
        [.launched (fullCmdLine exePath) (exeDir exePath) failure])

/-- An attempt, and where the call goes when it has failed without being denied. -/
def attemptPipes (call : ConnectCall) (outcomes : PipeOutcomes)
    (failed : PipeHandles → HResultBits → Bool → ConnectPlace) :
    ConnectCall × List ConnectEvent :=
  let (client, hr, controlPipeOpened) := call.client.tryConnectPipes call.attempts outcomes
  let event := ConnectEvent.attempted call.attempts outcomes
  if hr.succeeded then
    (⟨client, .returned .sOk, call.attempts + 1⟩, [event, .returned .sOk])
  else if hr.code = Win32Error.accessDenied.code then
    (⟨client, .returned hr, call.attempts + 1⟩, [event, .returned hr])
  else
    (⟨client, failed client hr controlPipeOpened, call.attempts + 1⟩, [event])

/-- The wait before the next attempt. -/
def waitForProvider (waitMs : UInt64) (hr : HResultBits) (controlPipeOpened : Bool) :
    ConnectEvent :=
  if PipeHandles.isPipeBusy hr.code then
    .waitedForPipe (if controlPipeOpened then .audio else .control) waitMs.toNat
  else .slept waitMs.toNat

def step (exePath : List Char) (call : ConnectCall) (action : ConnectAction) :
    Option (ConnectCall × List ConnectEvent) :=
  match call.place, action with
  | .connecting, .pipes outcomes =>
      some (call.attemptPipes outcomes fun _ hr controlPipeOpened =>
        if PipeHandles.shouldSpawnProvider hr.code controlPipeOpened exePath then
          .launching hr controlPipeOpened
        else .startingWindow hr controlPipeOpened)
  | .launching hr controlPipeOpened, .launch failure =>
      some (call.launchProviderProcess exePath failure (.startingWindow hr controlPipeOpened))
  | .startingWindow hr controlPipeOpened, .tick now =>
      some ({ call with
        place := .testingWindow (now + pipeReadyTimeoutMs) hr controlPipeOpened }, [])
  | .testingWindow deadline hr controlPipeOpened, .tick now =>
      if now < deadline then
        some ({ call with
          place :=
            if call.client.hasProcess then .testingExit deadline hr controlPipeOpened
            else .measuringWait deadline hr controlPipeOpened }, [])
      else some ({ call with place := .returned hr }, [.returned hr])
  | .testingExit deadline hr controlPipeOpened, .providerState exited =>
      if exited then
        some ({ call with place := .returned (.fromWin32 Win32Error.processAborted.code) },
          [.returned (.fromWin32 Win32Error.processAborted.code)])
      else some ({ call with place := .measuringWait deadline hr controlPipeOpened }, [])
  | .measuringWait deadline hr controlPipeOpened, .tick now =>
      let remaining := deadline - now
      let waitMs := if remaining < pipeProbeIntervalMs then remaining else pipeProbeIntervalMs
      some ({ call with place := .retrying deadline },
        [waitForProvider waitMs hr controlPipeOpened])
  | .retrying deadline, .pipes outcomes =>
      some (call.attemptPipes outcomes fun client hr controlPipeOpened =>
        if !client.hasProcess && PipeHandles.shouldSpawnProvider hr.code controlPipeOpened exePath
        then .relaunching deadline hr controlPipeOpened
        else .testingWindow deadline hr controlPipeOpened)
  | .relaunching deadline hr controlPipeOpened, .launch failure =>
      some (call.launchProviderProcess exePath failure
        (.testingWindow deadline hr controlPipeOpened))
  | _, _ => none

end ConnectCall

/-- A call of `Connect` on a fresh client. -/
def connectCall (exePath : List Char) : Machine ConnectCall ConnectAction ConnectEvent where
  init call := call = {}
  step := ConnectCall.step exePath

/-! ## What a step can do -/

namespace ConnectPlace

/-- The result that the call has returned. -/
def result : ConnectPlace → Option HResultBits
  | .returned hr => some hr
  | _ => none

/-- The result of the latest attempt, inside the window. -/
def latest : ConnectPlace → Option HResultBits
  | .launching hr _ | .startingWindow hr _ | .testingWindow _ hr _ | .testingExit _ hr _
  | .measuringWait _ hr _ | .relaunching _ hr _ => some hr
  | .connecting | .retrying _ | .returned _ => none

/-- A launch comes next. -/
def launches : ConnectPlace → Bool
  | .launching .. | .relaunching .. => true
  | _ => false

end ConnectPlace

namespace ConnectEvent

def isLaunch : ConnectEvent → Bool
  | .launched .. => true
  | _ => false

/-- The number of an attempt. -/
def attempt : ConnectEvent → Option ℕ
  | .attempted attempt _ => some attempt
  | _ => none

end ConnectEvent

/-- The steps of a call, by what they change. -/
inductive ConnectStep (exePath : List Char) (call : ConnectCall) :
    ConnectCall → List ConnectEvent → Prop where
  | opened {outcomes : PipeOutcomes} (noError : outcomes.error = none) :
      ConnectStep exePath call
        ⟨{ call.client with
            controlPipe := some call.attempts, audioPipe := some call.attempts },
          .returned .sOk, call.attempts + 1⟩
        [.attempted call.attempts outcomes, .returned .sOk]
  | denied {outcomes : PipeOutcomes} (denied : outcomes.error = some .accessDenied) :
      ConnectStep exePath call
        ⟨call.client, .returned (.fromWin32 Win32Error.accessDenied.code), call.attempts + 1⟩
        [.attempted call.attempts outcomes, .returned (.fromWin32 Win32Error.accessDenied.code)]
  | failed {outcomes : PipeOutcomes} {error : Win32Error} {place : ConnectPlace}
      (failed : outcomes.error = some error) (notDenied : error ≠ .accessDenied)
      (goesOn : place.result = none)
      (latest : place.latest = some (.fromWin32 error.code))
      (launches : place.launches = true → exePath ≠ [] ∧
        outcomes.control = some .fileNotFound ∧
        (call.place = .connecting ∨ call.client.hasProcess = false)) :
      ConnectStep exePath call ⟨call.client, place, call.attempts + 1⟩
        [.attempted call.attempts outcomes]
  | launchFailed (error : Win32Error) (due : call.place.launches = true) :
      ConnectStep exePath call { call with place := .returned (.fromWin32 error.code) }
        [.launched (ConnectCall.fullCmdLine exePath) (ConnectCall.exeDir exePath) (some error),
          .returned (.fromWin32 error.code)]
  | launched {place : ConnectPlace} (due : call.place.launches = true)
      (goesOn : place.result = none) (begun : place ≠ .connecting)
      (latest : place.latest = call.place.latest) (quiet : place.launches = false) :
      ConnectStep exePath call
        { call with client := { call.client with hasProcess := true }, place := place }
        [.launched (ConnectCall.fullCmdLine exePath) (ConnectCall.exeDir exePath) none]
  | waited {place : ConnectPlace} {events : List ConnectEvent}
      (goesOn : place.result = none) (begun : place ≠ .connecting)
      (latest : ∀ hr, place.latest = some hr → call.place.latest = some hr)
      (quiet : place.launches = false)
      (waits : ∀ event ∈ events, event.isLaunch = false ∧ event.attempt = none) :
      ConnectStep exePath call { call with place := place } events
  | gaveUp {hr : HResultBits}
      (failing : call.place.latest = some hr ∨ hr = .fromWin32 Win32Error.processAborted.code) :
      ConnectStep exePath call { call with place := .returned hr } [.returned hr]

section Steps

variable {exePath : List Char} {call next : ConnectCall} {events : List ConnectEvent}

theorem Win32Error.code_injective {first second : Win32Error} (same : first.code = second.code) :
    first = second := by
  cases first
  cases second
  cases same
  rfl

/-- A provider is launched for an attempt that has found no control pipe. -/
theorem shouldSpawnProvider_spec {outcomes : PipeOutcomes} {error : Win32Error}
    (failed : outcomes.error = some error)
    (spawns : PipeHandles.shouldSpawnProvider (HResultBits.code (.fromWin32 error.code))
      outcomes.control.isNone exePath = true) :
    exePath ≠ [] ∧ outcomes.control = some .fileNotFound := by
  simp only [PipeHandles.shouldSpawnProvider, HResultBits.code_fromWin32, Bool.and_eq_true,
    Bool.not_eq_true', beq_iff_eq, List.isEmpty_eq_false_iff] at spawns
  obtain ⟨⟨given, unopened⟩, missing⟩ := spawns
  refine ⟨given, ?_⟩
  cases control : outcomes.control with
  | none =>
      rw [control] at unopened
      cases unopened
  | some found =>
      have reported : found = error := by
        rw [PipeOutcomes.error, control] at failed
        exact Option.some.inj failed
      rw [reported, Win32Error.code_injective missing]

/-- An attempt is one of the first three kinds of step. -/
theorem attemptPipes_step {failed : PipeHandles → HResultBits → Bool → ConnectPlace}
    {outcomes : PipeOutcomes} (taken : call.attemptPipes outcomes failed = (next, events))
    (goesOn : ∀ hr opened, (failed call.client hr opened).result = none)
    (latest : ∀ hr opened, (failed call.client hr opened).latest = some hr)
    (launches : ∀ hr opened, (failed call.client hr opened).launches = true →
      PipeHandles.shouldSpawnProvider hr.code opened exePath = true ∧
        (call.place = .connecting ∨ call.client.hasProcess = false)) :
    ConnectStep exePath call next events := by
  simp only [ConnectCall.attemptPipes, outcomes.tryConnectPipes_eq] at taken
  cases error : outcomes.error with
  | none =>
      have result : outcomes.result = .sOk := by
        rw [PipeOutcomes.result, error]
        rfl
      rw [result] at taken
      cases taken
      rw [if_pos error]
      exact .opened error
  | some error' =>
      have result : outcomes.result = .fromWin32 error'.code := by
        rw [PipeOutcomes.result, error]
        rfl
      rw [result, HResultBits.succeeded_fromWin32, HResultBits.code_fromWin32,
        if_neg (show ¬outcomes.error = none by simp [error])] at taken
      by_cases denied : error' = .accessDenied
      · subst denied
        cases taken
        exact .denied error
      · rw [if_neg (by simp), if_neg fun same => denied (Win32Error.code_injective same)] at taken
        cases taken
        refine .failed error denied (goesOn _ _) (latest _ _) ?_
        intro due
        obtain ⟨spawns, before⟩ := launches _ _ due
        obtain ⟨given, missing⟩ := shouldSpawnProvider_spec error spawns
        exact ⟨given, missing, before⟩

/-- A launch is one of the next two kinds. -/
theorem launchProviderProcess_step {place : ConnectPlace} {failure : Option Win32Error}
    (taken : call.launchProviderProcess exePath failure place = (next, events))
    (due : call.place.launches = true) (goesOn : place.result = none)
    (begun : place ≠ .connecting) (latest : place.latest = call.place.latest)
    (quiet : place.launches = false) :
    ConnectStep exePath call next events := by
  cases failure with
  | none =>
      cases taken
      exact .launched due goesOn begun latest quiet
  | some error =>
      cases taken
      exact .launchFailed error due

/-- **Every step of a call is one of the seven.** -/
theorem connectStep_of_step {action : ConnectAction}
    (taken : (connectCall exePath).step call action = some (next, events)) :
    ConnectStep exePath call next events := by
  obtain ⟨client, place, attempts⟩ := call
  cases place with
  | connecting =>
      cases action with
      | pipes outcomes =>
          simp only [connectCall, ConnectCall.step, Option.some.injEq] at taken
          refine attemptPipes_step taken ?_ ?_ ?_
          all_goals intro hr opened
          · split <;> rfl
          · split <;> rfl
          · split
            · next spawns => exact fun _ => ⟨spawns, .inl rfl⟩
            · intro due
              cases due
      | _ => cases taken
  | launching hr opened =>
      cases action with
      | launch failure =>
          simp only [connectCall, ConnectCall.step, Option.some.injEq] at taken
          exact launchProviderProcess_step taken rfl rfl (by simp) rfl rfl
      | _ => cases taken
  | startingWindow hr opened =>
      cases action with
      | tick now =>
          cases taken
          exact .waited rfl (by simp) (fun _ same => same) rfl (by simp)
      | _ => cases taken
  | testingWindow deadline hr opened =>
      cases action with
      | tick now =>
          simp only [connectCall, ConnectCall.step] at taken
          split at taken
          · cases taken
            refine .waited ?_ ?_ ?_ ?_ (by simp)
            · split <;> rfl
            · split <;> simp
            · intro hr'
              split <;> exact fun same => same
            · split <;> rfl
          · cases taken
            exact .gaveUp (.inl rfl)
      | _ => cases taken
  | testingExit deadline hr opened =>
      cases action with
      | providerState exited =>
          simp only [connectCall, ConnectCall.step] at taken
          split at taken
          · cases taken
            exact .gaveUp (.inr rfl)
          · cases taken
            exact .waited rfl (by simp) (fun _ same => same) rfl (by simp)
      | _ => cases taken
  | measuringWait deadline hr opened =>
      cases action with
      | tick now =>
          cases taken
          refine .waited rfl (by simp) (fun _ none => ?_) rfl ?_
          · cases none
          · intro event member
            rw [List.mem_singleton] at member
            rw [member, ConnectCall.waitForProvider]
            split <;> exact ⟨rfl, rfl⟩
      | _ => cases taken
  | retrying deadline =>
      cases action with
      | pipes outcomes =>
          simp only [connectCall, ConnectCall.step, Option.some.injEq] at taken
          refine attemptPipes_step taken ?_ ?_ ?_
          all_goals intro hr opened
          · split <;> rfl
          · split <;> rfl
          · split
            · next spawns =>
                rw [Bool.and_eq_true, Bool.not_eq_true'] at spawns
                exact fun _ => ⟨spawns.2, .inr spawns.1⟩
            · intro due
              cases due
      | _ => cases taken
  | relaunching deadline hr opened =>
      cases action with
      | launch failure =>
          simp only [connectCall, ConnectCall.step, Option.some.injEq] at taken
          exact launchProviderProcess_step taken rfl rfl (by simp) rfl rfl
      | _ => cases taken
  | returned hr => cases taken

/-- A call that has returned takes no step. -/
theorem result_of_step {action : ConnectAction}
    (taken : (connectCall exePath).step call action = some (next, events)) :
    call.place.result = none := by
  obtain ⟨client, place, attempts⟩ := call
  cases place with
  | returned hr => cases taken
  | _ => rfl

end Steps

/-! ## What holds of every run -/

/-- A launch comes directly after an attempt that has found no control pipe, and there is a
program to launch. -/
def LaunchAllowed (exePath : List Char) (before : List ConnectEvent) (event : ConnectEvent) :
    Prop :=
  event.isLaunch = true → exePath ≠ [] ∧ ∃ earlier attempt outcomes,
    before = earlier ++ [.attempted attempt outcomes] ∧ outcomes.control = some .fileNotFound

/-- Nothing but the return follows an attempt whose access was denied. -/
def DenialReturned (trace : List ConnectEvent) : Prop :=
  ∀ before attempt outcomes after, trace = before ++ .attempted attempt outcomes :: after →
    outcomes.error = some .accessDenied →
      after = [.returned (.fromWin32 Win32Error.accessDenied.code)]

/-- The handles that a result stands for: both from one attempt, or none. -/
def HandlesPublished (trace : List ConnectEvent) (client : PipeHandles) (hr : HResultBits) : Prop :=
  if hr.succeeded then
    ∃ attempt outcomes, .attempted attempt outcomes ∈ trace ∧ outcomes.error = none ∧
      client.controlPipe = some attempt ∧ client.audioPipe = some attempt
  else client.controlPipe = none ∧ client.audioPipe = none

structure ConnectInvariant (exePath : List Char) (trace : List ConnectEvent)
    (call : ConnectCall) : Prop where
  unlaunched : call.place.result = none → call.client.hasProcess = false →
    trace.countP ConnectEvent.isLaunch = 0
  launchedOnce : trace.countP ConnectEvent.isLaunch ≤ 1
  fresh : call.place = .connecting → call.client.hasProcess = false
  due : call.place.launches = true → call.client.hasProcess = false ∧
    LaunchAllowed exePath trace (.launched [] [] none)
  allowed : Always (LaunchAllowed exePath) trace
  undenied : call.place.result = none → ∀ attempt outcomes,
    .attempted attempt outcomes ∈ trace → outcomes.error ≠ some .accessDenied
  denials : DenialReturned trace
  failing : ∀ hr, call.place.latest = some hr → hr.succeeded = false
  unset : call.place.result = none → call.client.controlPipe = none ∧ call.client.audioPipe = none
  published : ∀ hr, call.place.result = some hr → HandlesPublished trace call.client hr
  numbered : trace.filterMap ConnectEvent.attempt = List.range call.attempts

section Invariants

variable {exePath : List Char} {call next : ConnectCall} {trace events : List ConnectEvent}

/-- The events of a step that come after an attempt without denial. -/
theorem DenialReturned.append (later : DenialReturned events)
    (undenied : ∀ attempt outcomes, .attempted attempt outcomes ∈ trace →
      outcomes.error ≠ some .accessDenied) : DenialReturned (trace ++ events) := by
  intro before attempt outcomes after split denied
  rcases List.append_eq_append_iff.mp split with ⟨between, -, inEvents⟩ | ⟨rest, inTrace, atEvents⟩
  · exact later between attempt outcomes after inEvents denied
  · cases rest with
    | nil => exact later [] attempt outcomes after atEvents.symm denied
    | cons head tail =>
        rw [List.cons_append, List.cons.injEq] at atEvents
        refine absurd denied (undenied attempt outcomes ?_)
        rw [inTrace, ← atEvents.1]
        simp

theorem denialReturned_of_forall (undenied : ∀ attempt outcomes,
      .attempted attempt outcomes ∈ events → outcomes.error ≠ some .accessDenied) :
    DenialReturned events := by
  intro before attempt outcomes after split denied
  refine absurd denied (undenied attempt outcomes ?_)
  rw [split]
  simp

/-- An event that is no launch is allowed anywhere. -/
theorem launchAllowed_of_not_launch {before : List ConnectEvent} {event : ConnectEvent}
    (other : event.isLaunch = false) : LaunchAllowed exePath before event := by
  intro launch
  rw [other] at launch
  cases launch

/-- The launches so far are all there are, when a step launches nothing. -/
theorem countP_append_of_not_launch (trace : List ConnectEvent)
    (others : ∀ event ∈ events, event.isLaunch = false) :
    (trace ++ events).countP ConnectEvent.isLaunch = trace.countP ConnectEvent.isLaunch := by
  have none : events.countP ConnectEvent.isLaunch = 0 := by
    rw [List.countP_eq_zero]
    intro event member
    rw [others event member]
    exact Bool.false_ne_true
  rw [List.countP_append, none, Nat.add_zero]

theorem filterMap_attempt_of_waits
    (waits : ∀ event ∈ events, event.isLaunch = false ∧ event.attempt = none) :
    events.filterMap ConnectEvent.attempt = [] := by
  rw [List.filterMap_eq_nil_iff]
  exact fun event member => (waits event member).2

namespace ConnectInvariant

/-- A step that makes no attempt leaves it at that: no access was denied. -/
theorem undenied_append (before : ConnectInvariant exePath trace call)
    (going : call.place.result = none)
    (noAttempt : ∀ attempt outcomes, .attempted attempt outcomes ∉ events)
    (attempt : ℕ) (outcomes : PipeOutcomes)
    (member : .attempted attempt outcomes ∈ trace ++ events) :
    outcomes.error ≠ some .accessDenied := by
  rcases List.mem_append.mp member with old | new
  · exact before.undenied going attempt outcomes old
  · exact absurd new (noAttempt attempt outcomes)

/-- Steps that launch nothing and make no attempt, after which the call may have returned. -/
theorem quiet_step {place : ConnectPlace} (before : ConnectInvariant exePath trace call)
    (going : call.place.result = none) (begun : place ≠ .connecting)
    (latest : ∀ hr, place.latest = some hr → call.place.latest = some hr)
    (quiet : place.launches = false)
    (fails : ∀ hr, place.result = some hr → hr.succeeded = false)
    (waits : ∀ event ∈ events, event.isLaunch = false ∧ event.attempt = none) :
    ConnectInvariant exePath (trace ++ events) { call with place := place } := by
  have launches := countP_append_of_not_launch trace fun event member =>
    (waits event member).1
  have noAttempt : ∀ attempt outcomes, .attempted attempt outcomes ∉ events := by
    intro attempt outcomes member
    cases (waits _ member).2
  constructor
  case unlaunched =>
    intro _ noProcess
    rw [launches]
    exact before.unlaunched going noProcess
  case launchedOnce =>
    rw [launches]
    exact before.launchedOnce
  case fresh =>
    intro same
    exact absurd same begun
  case due =>
    intro launch
    rw [quiet] at launch
    cases launch
  case allowed =>
    refine before.allowed.append (Always.of_forall fun _ event member => ?_)
    exact launchAllowed_of_not_launch (waits event member).1
  case undenied => exact fun _ => before.undenied_append going noAttempt
  case denials => exact denialReturned_of_forall (before.undenied_append going noAttempt)
  case failing =>
    intro hr same
    exact before.failing hr (latest hr same)
  case unset => exact fun _ => before.unset going
  case published =>
    intro hr same
    rw [HandlesPublished, fails hr same]
    exact before.unset going
  case numbered =>
    rw [List.filterMap_append, filterMap_attempt_of_waits waits, List.append_nil]
    exact before.numbered

/-- An attempt, and the return when the call does not go on. -/
theorem attempt_step {client : PipeHandles} {place : ConnectPlace} {outcomes : PipeOutcomes}
    {rest : List ConnectEvent} (before : ConnectInvariant exePath trace call)
    (going : call.place.result = none) (begun : place ≠ .connecting)
    (latest : ∀ hr, place.latest = some hr → hr.succeeded = false)
    (process : client.hasProcess = call.client.hasProcess)
    (waits : ∀ event ∈ rest, event.isLaunch = false ∧ event.attempt = none)
    (due : place.launches = true → exePath ≠ [] ∧ outcomes.control = some .fileNotFound ∧
      call.client.hasProcess = false ∧ rest = [])
    (denial : outcomes.error = some .accessDenied → place.result ≠ none ∧
      rest = [.returned (.fromWin32 Win32Error.accessDenied.code)])
    (unset : place.result = none → client = call.client)
    (published : ∀ hr, place.result = some hr →
      HandlesPublished (trace ++ .attempted call.attempts outcomes :: rest) client hr) :
    ConnectInvariant exePath (trace ++ .attempted call.attempts outcomes :: rest)
      ⟨client, place, call.attempts + 1⟩ := by
  have others : ∀ event ∈ ConnectEvent.attempted call.attempts outcomes :: rest,
      event.isLaunch = false := by
    intro event member
    rcases List.mem_cons.mp member with rfl | later
    · rfl
    · exact (waits event later).1
  have launches := countP_append_of_not_launch trace others
  constructor
  case unlaunched =>
    intro _ noProcess
    rw [launches]
    exact before.unlaunched going (process.symm.trans noProcess)
  case launchedOnce =>
    rw [launches]
    exact before.launchedOnce
  case fresh =>
    intro same
    exact absurd same begun
  case due =>
    intro launch
    obtain ⟨given, missing, noProcess, rfl⟩ := due launch
    exact ⟨process.trans noProcess, fun _ => ⟨given, trace, call.attempts, outcomes, rfl, missing⟩⟩
  case allowed =>
    refine before.allowed.append (Always.of_forall fun _ event member => ?_)
    exact launchAllowed_of_not_launch (others event member)
  case undenied =>
    intro goesOn attempt outcomes' member denied
    rcases List.mem_append.mp member with old | new
    · exact before.undenied going attempt outcomes' old denied
    · rcases List.mem_cons.mp new with same | later
      · cases same
        exact (denial denied).1 goesOn
      · cases (waits _ later).2
  case denials =>
    refine DenialReturned.append ?_ (before.undenied going)
    intro earlier attempt outcomes' after split denied
    cases earlier with
    | nil =>
        rw [List.nil_append, List.cons.injEq] at split
        obtain ⟨same, rfl⟩ := split
        cases same
        exact (denial denied).2
    | cons head tail =>
        rw [List.cons_append, List.cons.injEq] at split
        have member : ConnectEvent.attempted attempt outcomes' ∈ rest := by
          rw [split.2]
          simp
        cases (waits _ member).2
  case failing => exact latest
  case unset =>
    intro goesOn
    rw [unset goesOn]
    exact before.unset going
  case published => exact published
  case numbered =>
    have attempts : (ConnectEvent.attempted call.attempts outcomes :: rest).filterMap
        ConnectEvent.attempt = [call.attempts] :=
      congrArg (call.attempts :: ·) (filterMap_attempt_of_waits waits)
    rw [List.filterMap_append, attempts, before.numbered]
    exact List.range_succ.symm

/-- A launch, and the return when it has failed. -/
theorem launch_step {client : PipeHandles} {place : ConnectPlace} {failure : Option Win32Error}
    {rest : List ConnectEvent} (before : ConnectInvariant exePath trace call)
    (due : call.place.launches = true) (going : call.place.result = none)
    (begun : place ≠ .connecting) (quiet : place.launches = false)
    (latest : ∀ hr, place.latest = some hr → call.place.latest = some hr)
    (process : place.result = none → client.hasProcess = true)
    (waits : ∀ event ∈ rest, event.isLaunch = false ∧ event.attempt = none)
    (fails : ∀ hr, place.result = some hr → hr.succeeded = false)
    (same : client.controlPipe = call.client.controlPipe ∧
      client.audioPipe = call.client.audioPipe) :
    ConnectInvariant exePath
      (trace ++ .launched (ConnectCall.fullCmdLine exePath) (ConnectCall.exeDir exePath) failure ::
        rest)
      { call with client := client, place := place } := by
  obtain ⟨noProcess, allowed⟩ := before.due due
  have noAttempt : ∀ attempt outcomes, .attempted attempt outcomes ∉
      ConnectEvent.launched (ConnectCall.fullCmdLine exePath) (ConnectCall.exeDir exePath)
        failure :: rest := by
    intro attempt outcomes member
    rcases List.mem_cons.mp member with launch | later
    · cases launch
    · cases (waits _ later).2
  have handles : client.controlPipe = none ∧ client.audioPipe = none := by
    rw [same.1, same.2]
    exact before.unset going
  constructor
  case unlaunched =>
    intro goesOn without
    rw [process goesOn] at without
    cases without
  case launchedOnce =>
    have none : rest.countP ConnectEvent.isLaunch = 0 := by
      rw [List.countP_eq_zero]
      intro event member
      rw [(waits event member).1]
      exact Bool.false_ne_true
    rw [List.countP_append, before.unlaunched going noProcess, List.countP_cons, none]
    simp [ConnectEvent.isLaunch]
  case fresh =>
    intro first
    exact absurd first begun
  case due =>
    intro launch
    rw [quiet] at launch
    cases launch
  case allowed =>
    refine before.allowed.append (Always.cons ?_ (Always.of_forall fun _ event member => ?_))
    · rw [List.append_nil]
      exact fun _ => allowed rfl
    · exact launchAllowed_of_not_launch (waits event member).1
  case undenied => exact fun _ => before.undenied_append going noAttempt
  case denials => exact denialReturned_of_forall (before.undenied_append going noAttempt)
  case failing =>
    intro hr reported
    exact before.failing hr (latest hr reported)
  case unset => exact fun _ => handles
  case published =>
    intro hr returned
    rw [HandlesPublished, fails hr returned]
    exact handles
  case numbered =>
    rw [List.filterMap_append, List.filterMap_cons_none rfl, filterMap_attempt_of_waits waits,
      List.append_nil]
    exact before.numbered

theorem init : ConnectInvariant exePath [] {} := by
  constructor
  case unlaunched => exact fun _ _ => rfl
  case launchedOnce => exact Nat.zero_le 1
  case fresh => exact fun _ => rfl
  case due =>
    intro launch
    cases launch
  case allowed => exact Always.nil
  case undenied =>
    intro _ attempt outcomes member
    cases member
  case denials =>
    refine denialReturned_of_forall ?_
    intro attempt outcomes member
    cases member
  case failing =>
    intro hr reported
    cases reported
  case unset => exact fun _ => ⟨rfl, rfl⟩
  case published =>
    intro hr returned
    cases returned
  case numbered => rfl

theorem step (before : ConnectInvariant exePath trace call) (going : call.place.result = none)
    (taken : ConnectStep exePath call next events) :
    ConnectInvariant exePath (trace ++ events) next := by
  cases taken with
  | @opened outcomes noError =>
      refine before.attempt_step going (by simp) ?_ rfl (by simp [ConnectEvent.isLaunch,
        ConnectEvent.attempt]) ?_ ?_ ?_ ?_
      · intro hr none
        cases none
      · intro launch
        cases launch
      · intro denied
        rw [noError] at denied
        cases denied
      · intro unreturned
        cases unreturned
      · intro hr returned
        cases returned
        exact ⟨call.attempts, outcomes, by simp, noError, rfl, rfl⟩
  | @denied outcomes denied =>
      refine before.attempt_step going (by simp) ?_ rfl (by simp [ConnectEvent.isLaunch,
        ConnectEvent.attempt]) ?_ ?_ ?_ ?_
      · intro hr none
        cases none
      · intro launch
        cases launch
      · exact fun _ => ⟨by simp [ConnectPlace.result], rfl⟩
      · exact fun _ => rfl
      · intro hr returned
        cases returned
        rw [HandlesPublished, HResultBits.succeeded_fromWin32]
        exact before.unset going
  | @failed outcomes error place failed notDenied goesOn latest launches =>
      have begun : place ≠ .connecting := by
        rintro rfl
        cases latest
      refine before.attempt_step going begun ?_ rfl (by simp) ?_ ?_ ?_ ?_
      · intro hr reported
        rw [latest] at reported
        cases reported
        exact HResultBits.succeeded_fromWin32 error
      · intro launch
        obtain ⟨given, missing, first | without⟩ := launches launch
        · exact ⟨given, missing, before.fresh first, rfl⟩
        · exact ⟨given, missing, without, rfl⟩
      · intro denied
        rw [failed] at denied
        exact absurd (Option.some.inj denied) notDenied
      · exact fun _ => rfl
      · intro hr returned
        rw [goesOn] at returned
        cases returned
  | launchFailed error due =>
      refine before.launch_step due going (by simp) rfl ?_ ?_ (by simp [ConnectEvent.isLaunch,
        ConnectEvent.attempt]) ?_ ⟨rfl, rfl⟩
      · intro hr none
        cases none
      · intro unreturned
        cases unreturned
      · intro hr returned
        cases returned
        exact HResultBits.succeeded_fromWin32 error
  | @launched place due goesOn begun latest quiet =>
      refine before.launch_step due going begun quiet ?_ (fun _ => rfl) (by simp) ?_ ⟨rfl, rfl⟩
      · intro hr reported
        exact latest.symm.trans reported
      · intro hr returned
        rw [goesOn] at returned
        cases returned
  | @waited place events goesOn begun latest quiet waits =>
      refine before.quiet_step going begun latest quiet ?_ waits
      intro hr returned
      rw [goesOn] at returned
      cases returned
  | @gaveUp hr failing =>
      refine before.quiet_step going (by simp) ?_ rfl ?_ (by simp [ConnectEvent.isLaunch,
        ConnectEvent.attempt])
      · intro hr' none
        cases none
      · intro hr' returned
        cases returned
        rcases failing with reported | rfl
        · exact before.failing hr reported
        · exact HResultBits.succeeded_fromWin32 .processAborted

/-- The invariant holds of every run. -/
theorem of_reaches (reached : (connectCall exePath).Reaches Machine.anyStep trace call) :
    ConnectInvariant exePath trace call := by
  refine reached.induct ?_ ?_
  · rintro start rfl
    exact init
  · intro trace events call next action _ before _ taken
    exact before.step (result_of_step taken) (connectStep_of_step taken)

end ConnectInvariant

end Invariants

/-- **A call launches at most one provider and leaves both pipes or none.** Whatever the
attempts, the launch, the provider and the clock come to:
* there is at most one launch, and it comes directly after an attempt that has found no control
  pipe, of a call that was given a program;
* an attempt that was denied access is the last one, and its result is returned;
* a call that succeeds leaves the two handles of one of its attempts, and a call that fails
  leaves none. -/
theorem connect_correct {exePath : List Char} {trace : List ConnectEvent} {call : ConnectCall}
    (reached : (connectCall exePath).Reaches Machine.anyStep trace call) :
    trace.countP ConnectEvent.isLaunch ≤ 1 ∧ Always (LaunchAllowed exePath) trace ∧
      DenialReturned trace ∧ trace.filterMap ConnectEvent.attempt = List.range call.attempts ∧
      ∀ hr, call.place = .returned hr → HandlesPublished trace call.client hr := by
  have holds := ConnectInvariant.of_reaches reached
  refine ⟨holds.launchedOnce, holds.allowed, holds.denials, holds.numbered, ?_⟩
  intro hr returned
  exact holds.published hr (by rw [returned]; rfl)

/-- The control pipe is missing at first, and the provider that is launched has it ready after
one wait. -/
def launchedConnection : List ConnectAction :=
  [.pipes { control := some .fileNotFound }, .launch none, .tick 5, .tick 6, .providerState false,
    .tick 7, .pipes {}]

theorem connect_correct_launched :
    ∃ trace call, (connectCall ['p']).exec {} launchedConnection = some (call, trace) ∧
      call.place = .returned .sOk ∧ HandlesPublished trace call.client .sOk := by
  have computed : (connectCall ['p']).exec {} launchedConnection = some (_, _) := rfl
  have reached := Machine.reaches_of_exec rfl computed
  exact ⟨_, _, computed, rfl, (connect_correct reached).2.2.2.2 .sOk rfl⟩

end ModernSapi
