import ModernSapi.Library.Machine
import ModernSapi.Library.Trace
import ModernSapi.V1.SpeakFragments

/-!
# The first engine

`CSapiEngine::Speak` of the first adapter starts a worker thread that calls the provider, and
looks at the actions of its site while the provider calls back. The callbacks come on threads of
the provider. They see the abort flag of the worker and the site of the engine, which `Speak`
clears before it returns.

The provider keeps to its contract: it calls back during `ProviderSpeak` only (`Synchronous`).

`sites_used_inside`: what the callbacks do with the sites, in any order of steps.
-/

set_option autoImplicit false

namespace ModernSapi

open Interleaving

/-- What a callback is given. -/
inductive CallbackData where
  | audio (bytes : List UInt8)
  | event (event : ProviderSpeechEvent)
  deriving DecidableEq

/-- Where a callback stands. A site is that of the call it was passed to. -/
inductive CallbackPlace where
  | idle
  | entered (data : CallbackData)
  | checked (data : CallbackData)
  | writing (bytes : List UInt8) (site : ℕ)
  | admitted (bytes : List UInt8) (site : ℕ)
  | adding (event : SapiEvent) (site : ℕ)
  deriving DecidableEq

/-- Where `Speak` stands. -/
inductive ProxyCall where
  | idle
  | begun
  | polling
  | aborting
  | waiting
  | joined
  deriving DecidableEq

/-- Where the thread of the worker stands. -/
inductive ProxyThread where
  | none
  | started
  | speaking
  | spoken
  | finished
  | exited
  deriving DecidableEq

/-- `CSapiEngine` with its `SpeechWorker`. The calls of `Speak` are numbered. -/
structure ProxyEngine where
  calls : ℕ := 0
  site : Option ℕ := none
  abortFlag : Bool := false
  isRunning : Bool := false
  call : ProxyCall := .idle
  thread : ProxyThread := .none
  callbacks : ℕ → CallbackPlace := fun _ => .idle
  isDestroyed : Bool := false

inductive ProxyObservation where
  | spoke (call : ℕ)
  | stopped (call : ℕ)
  | returned (call : ℕ)
  | called (callback : ℕ) (data : CallbackData)
  | answered (callback : ℕ) (result : Bool)
  | gotActions (site : ℕ)
  | wrote (callback site : ℕ) (bytes : List UInt8) (succeeded : Bool)
  | addedEvent (callback site : ℕ) (event : SapiEvent)
  | destroyed
  deriving DecidableEq

inductive ProxyAction where
  | speak
  | speakThrows
  | start (starts : Bool)
  | poll (aborts : Bool)
  | stop
  | seeFinished
  | join
  | leave
  | release
  | providerSpeak (isLoaded : Bool)
  | providerReturns
  | finish
  | exit
  | callBack (callback : ℕ) (data : CallbackData)
  | checkFlag (callback : ℕ)
  | fetchSite (callback : ℕ) (allocates : Bool)
  | getActions (callback : ℕ) (aborts : Bool)
  | write (callback : ℕ) (succeeds : Bool)
  | addEvent (callback : ℕ)

namespace ProxyEngine

def setCallback (engine : ProxyEngine) (callback : ℕ) (place : CallbackPlace) : ProxyEngine :=
  { engine with callbacks := Function.update engine.callbacks callback place }

/-- The callback returns. The result of `MetaCallback` is void. -/
def answers (engine : ProxyEngine) (callback : ℕ) (result : Bool) :
    ProxyEngine × List ProxyObservation :=
  (engine.setCallback callback .idle, [.answered callback result])

variable (wtol : List UInt16 → Int32)

/-- The callback takes a reference of its own to the site, if there is one. An event that SAPI
does not know needs none. -/
def fetchSite (engine : ProxyEngine) (callback : ℕ) (allocates : Bool) :
    CallbackData → ProxyEngine × List ProxyObservation
  | .audio bytes =>
      match engine.site with
      | none => engine.answers callback false
      | some site => (engine.setCallback callback (.writing bytes site), [])
  | .event event =>
      match sapiEvent wtol allocates event, engine.site with
      | some added, some site => (engine.setCallback callback (.adding added site), [])
      | _, _ => engine.answers callback false

def step (engine : ProxyEngine) : ProxyAction → Option (ProxyEngine × List ProxyObservation)
  | .speak =>
      if engine.call = .idle ∧ engine.isDestroyed = false then
        some ({ engine with
          calls := engine.calls + 1
          site := some (engine.calls + 1)
          call := .begun }, [.spoke (engine.calls + 1)])
      else none
  | .speakThrows =>
      if engine.call = .begun then some ({ engine with call := .idle }, [.returned engine.calls])
      else none
  | .start starts =>
      if engine.call = .begun ∧ (engine.thread = .none ∨ engine.thread = .exited) then
        let started := { engine with thread := .none, abortFlag := false, isRunning := true }
        if starts then some ({ started with thread := .started, call := .polling }, [])
        else some ({ started with call := .idle }, [.returned engine.calls])
      else none
  | .poll aborts =>
      if engine.call = .polling ∧ engine.isRunning = true then
        match engine.site with
        | some site =>
            some ({ engine with call := if aborts then .aborting else .polling },
              [.gotActions site])
        | none => some (engine, [])
      else none
  | .stop =>
      if engine.call = .aborting then
        some ({ engine with call := .waiting, abortFlag := true }, [.stopped engine.calls])
      else none
  | .seeFinished =>
      if engine.call = .polling ∧ engine.isRunning = false then
        some ({ engine with call := .waiting }, [])
      else none
  | .join =>
      if engine.call = .waiting ∧ (engine.thread = .none ∨ engine.thread = .exited) then
        some ({ engine with call := .joined, thread := .none }, [])
      else none
  | .leave =>
      if engine.call = .joined then
        some ({ engine with call := .idle, site := none }, [.returned engine.calls])
      else none
  | .release =>
      if engine.call = .idle ∧ engine.isDestroyed = false ∧
          (engine.thread = .none ∨ engine.thread = .exited) then
        some ({ engine with
          abortFlag := true
          site := none
          thread := .none
          isDestroyed := true }, [.destroyed])
      else none
  | .providerSpeak isLoaded =>
      if engine.thread = .started then
        some ({ engine with thread := if isLoaded then .speaking else .spoken }, [])
      else none
  | .providerReturns =>
      if engine.thread = .speaking then some ({ engine with thread := .spoken }, []) else none
  | .finish =>
      if engine.thread = .spoken then
        some ({ engine with thread := .finished, isRunning := false }, [])
      else none
  | .exit => if engine.thread = .finished then some ({ engine with thread := .exited }, []) else none
  | .callBack callback data =>
      if engine.callbacks callback = .idle then
        some (engine.setCallback callback (.entered data), [.called callback data])
      else none
  | .checkFlag callback =>
      match engine.callbacks callback with
      | .entered data =>
          if engine.abortFlag then some (engine.answers callback false)
          else some (engine.setCallback callback (.checked data), [])
      | _ => none
  | .fetchSite callback allocates =>
      match engine.callbacks callback with
      | .checked data => some (engine.fetchSite wtol callback allocates data)
      | _ => none
  | .getActions callback aborts =>
      match engine.callbacks callback with
      | .writing bytes site =>
          if aborts then
            some ((engine.answers callback false).1, [.gotActions site, .answered callback false])
          else some (engine.setCallback callback (.admitted bytes site), [.gotActions site])
      | _ => none
  | .write callback succeeds =>
      match engine.callbacks callback with
      | .admitted bytes site =>
          some ((engine.answers callback succeeds).1,
            [.wrote callback site bytes succeeds, .answered callback succeeds])
      | _ => none
  | .addEvent callback =>
      match engine.callbacks callback with
      | .adding event site =>
          some ((engine.answers callback false).1,
            [.addedEvent callback site event, .answered callback false])
      | _ => none

end ProxyEngine

/-- What a step can do. -/
inductive ProxyStep (wtol : List UInt16 → Int32) (engine : ProxyEngine) :
    ProxyAction → ProxyEngine → List ProxyObservation → Prop where
  | spoke (ready : engine.call = .idle) :
      ProxyStep wtol engine .speak
        { engine with calls := engine.calls + 1, site := some (engine.calls + 1), call := .begun }
        [.spoke (engine.calls + 1)]
  | threw (begun : engine.call = .begun) :
      ProxyStep wtol engine .speakThrows { engine with call := .idle } [.returned engine.calls]
  | started (begun : engine.call = .begun) :
      ProxyStep wtol engine (.start true)
        { engine with thread := .started, abortFlag := false, isRunning := true, call := .polling }
        []
  | unstarted (begun : engine.call = .begun) :
      ProxyStep wtol engine (.start false)
        { engine with thread := .none, abortFlag := false, isRunning := true, call := .idle }
        [.returned engine.calls]
  | polled {aborts : Bool} {site : ℕ} (polling : engine.call = .polling)
      (installed : engine.site = some site) :
      ProxyStep wtol engine (.poll aborts)
        { engine with call := if aborts then .aborting else .polling } [.gotActions site]
  | unpolled {aborts : Bool} : ProxyStep wtol engine (.poll aborts) engine []
  | stopped (aborting : engine.call = .aborting) :
      ProxyStep wtol engine .stop { engine with call := .waiting, abortFlag := true }
        [.stopped engine.calls]
  | sawFinished (polling : engine.call = .polling) :
      ProxyStep wtol engine .seeFinished { engine with call := .waiting } []
  | joined (waiting : engine.call = .waiting) (quiet : engine.thread ≠ .speaking) :
      ProxyStep wtol engine .join { engine with call := .joined, thread := .none } []
  | left (joined : engine.call = .joined) :
      ProxyStep wtol engine .leave { engine with call := .idle, site := none }
        [.returned engine.calls]
  | released (ready : engine.call = .idle) :
      ProxyStep wtol engine .release
        { engine with abortFlag := true, site := none, thread := .none, isDestroyed := true }
        [.destroyed]
  -- The thread of the worker goes on.
  | threadMoved {action : ProxyAction} {thread : ProxyThread} {isRunning : Bool}
      (busy : engine.thread ≠ .none)
      (quiet : engine.thread ≠ .speaking ∨ action = .providerReturns) :
      ProxyStep wtol engine action { engine with thread, isRunning } []
  | called {callback : ℕ} {data : CallbackData} :
      ProxyStep wtol engine (.callBack callback data)
        (engine.setCallback callback (.entered data)) [.called callback data]
  | refused {callback : ℕ} :
      ProxyStep wtol engine (.checkFlag callback) (engine.answers callback false).1
        (engine.answers callback false).2
  | checked {callback : ℕ} {data : CallbackData}
      (here : engine.callbacks callback = .entered data) (clear : ¬engine.abortFlag = true) :
      ProxyStep wtol engine (.checkFlag callback) (engine.setCallback callback (.checked data)) []
  | fetched {callback : ℕ} {allocates : Bool} {data : CallbackData}
      (here : engine.callbacks callback = .checked data) :
      ProxyStep wtol engine (.fetchSite callback allocates)
        (engine.fetchSite wtol callback allocates data).1
        (engine.fetchSite wtol callback allocates data).2
  | sawAbort {callback site : ℕ} {bytes : List UInt8}
      (here : engine.callbacks callback = .writing bytes site) :
      ProxyStep wtol engine (.getActions callback true) (engine.answers callback false).1
        [.gotActions site, .answered callback false]
  | admitted {callback site : ℕ} {bytes : List UInt8}
      (here : engine.callbacks callback = .writing bytes site) :
      ProxyStep wtol engine (.getActions callback false)
        (engine.setCallback callback (.admitted bytes site)) [.gotActions site]
  | wrote {callback site : ℕ} {bytes : List UInt8} {succeeds : Bool}
      (here : engine.callbacks callback = .admitted bytes site) :
      ProxyStep wtol engine (.write callback succeeds) (engine.answers callback succeeds).1
        [.wrote callback site bytes succeeds, .answered callback succeeds]
  | added {callback site : ℕ} {event : SapiEvent}
      (here : engine.callbacks callback = .adding event site) :
      ProxyStep wtol engine (.addEvent callback) (engine.answers callback false).1
        [.addedEvent callback site event, .answered callback false]

theorem proxyStep_spec {wtol : List UInt16 → Int32} {engine next : ProxyEngine}
    {action : ProxyAction} {events : List ProxyObservation}
    (taken : engine.step wtol action = some (next, events)) :
    ProxyStep wtol engine action next events := by
  cases action with
  | speak =>
      simp only [ProxyEngine.step, Option.ite_none_right_eq_some, Option.some.injEq,
        Prod.mk.injEq] at taken
      obtain ⟨⟨ready, -⟩, rfl, rfl⟩ := taken
      exact .spoke ready
  | speakThrows =>
      simp only [ProxyEngine.step, Option.ite_none_right_eq_some, Option.some.injEq,
        Prod.mk.injEq] at taken
      obtain ⟨begun, rfl, rfl⟩ := taken
      exact .threw begun
  | start starts =>
      simp only [ProxyEngine.step, Option.ite_none_right_eq_some] at taken
      obtain ⟨⟨begun, -⟩, taken⟩ := taken
      cases starts with
      | true =>
          cases taken
          exact .started begun
      | false =>
          cases taken
          exact .unstarted begun
  | poll aborts =>
      simp only [ProxyEngine.step, Option.ite_none_right_eq_some] at taken
      obtain ⟨⟨polling, -⟩, taken⟩ := taken
      split at taken
      · next site installed =>
          cases taken
          exact .polled polling installed
      · cases taken
        exact .unpolled
  | stop =>
      simp only [ProxyEngine.step, Option.ite_none_right_eq_some, Option.some.injEq,
        Prod.mk.injEq] at taken
      obtain ⟨aborting, rfl, rfl⟩ := taken
      exact .stopped aborting
  | seeFinished =>
      simp only [ProxyEngine.step, Option.ite_none_right_eq_some, Option.some.injEq,
        Prod.mk.injEq] at taken
      obtain ⟨⟨polling, -⟩, rfl, rfl⟩ := taken
      exact .sawFinished polling
  | join =>
      simp only [ProxyEngine.step, Option.ite_none_right_eq_some, Option.some.injEq,
        Prod.mk.injEq] at taken
      obtain ⟨⟨waiting, ended⟩, rfl, rfl⟩ := taken
      refine .joined waiting ?_
      rcases ended with same | same <;> rw [same] <;> exact ProxyThread.noConfusion
  | leave =>
      simp only [ProxyEngine.step, Option.ite_none_right_eq_some, Option.some.injEq,
        Prod.mk.injEq] at taken
      obtain ⟨joined, rfl, rfl⟩ := taken
      exact .left joined
  | release =>
      simp only [ProxyEngine.step, Option.ite_none_right_eq_some, Option.some.injEq,
        Prod.mk.injEq] at taken
      obtain ⟨⟨ready, -⟩, rfl, rfl⟩ := taken
      exact .released ready
  | providerSpeak isLoaded =>
      simp only [ProxyEngine.step, Option.ite_none_right_eq_some, Option.some.injEq,
        Prod.mk.injEq] at taken
      obtain ⟨started, rfl, rfl⟩ := taken
      exact .threadMoved (by rw [started]; exact ProxyThread.noConfusion)
        (.inl (by rw [started]; exact ProxyThread.noConfusion))
  | providerReturns =>
      simp only [ProxyEngine.step, Option.ite_none_right_eq_some, Option.some.injEq,
        Prod.mk.injEq] at taken
      obtain ⟨speaking, rfl, rfl⟩ := taken
      exact .threadMoved (by rw [speaking]; exact ProxyThread.noConfusion) (.inr rfl)
  | finish =>
      simp only [ProxyEngine.step, Option.ite_none_right_eq_some, Option.some.injEq,
        Prod.mk.injEq] at taken
      obtain ⟨spoken, rfl, rfl⟩ := taken
      exact .threadMoved (by rw [spoken]; exact ProxyThread.noConfusion)
        (.inl (by rw [spoken]; exact ProxyThread.noConfusion))
  | exit =>
      simp only [ProxyEngine.step, Option.ite_none_right_eq_some, Option.some.injEq,
        Prod.mk.injEq] at taken
      obtain ⟨finished, rfl, rfl⟩ := taken
      exact .threadMoved (by rw [finished]; exact ProxyThread.noConfusion)
        (.inl (by rw [finished]; exact ProxyThread.noConfusion))
  | callBack callback data =>
      simp only [ProxyEngine.step, Option.ite_none_right_eq_some, Option.some.injEq,
        Prod.mk.injEq] at taken
      obtain ⟨-, rfl, rfl⟩ := taken
      exact .called
  | checkFlag callback =>
      simp only [ProxyEngine.step] at taken
      split at taken
      · next here =>
          split at taken
          · cases taken
            exact .refused
          · next clear =>
              cases taken
              exact .checked here clear
      · cases taken
  | fetchSite callback allocates =>
      simp only [ProxyEngine.step] at taken
      split at taken
      · next here =>
          have fetched : ProxyStep wtol engine (.fetchSite callback allocates) _ _ := .fetched here
          rwa [Option.some.inj taken] at fetched
      · cases taken
  | getActions callback aborts =>
      simp only [ProxyEngine.step] at taken
      split at taken
      · next here =>
          cases aborts with
          | true =>
              cases taken
              exact .sawAbort here
          | false =>
              cases taken
              exact .admitted here
      · cases taken
  | write callback succeeds =>
      simp only [ProxyEngine.step] at taken
      split at taken
      · next here =>
          cases taken
          exact .wrote here
      · cases taken
  | addEvent callback =>
      simp only [ProxyEngine.step] at taken
      split at taken
      · next here =>
          cases taken
          exact .added here
      · cases taken

/-- The engine, its worker and the callbacks, with the `_wtol` of the C runtime. -/
def proxyEngine (wtol : List UInt16 → Int32) : Machine ProxyEngine ProxyAction ProxyObservation where
  init engine := engine = {}
  step := ProxyEngine.step wtol

/-- **The contract of the provider.** It calls back during `ProviderSpeak`, and returns when its
callbacks have. -/
def Synchronous (engine : ProxyEngine) : ProxyAction → Prop
  | .callBack _ _ => engine.thread = .speaking
  | .providerReturns => ∀ callback, engine.callbacks callback = .idle
  | _ => True

/-! ## What is seen of the calls and the callbacks -/

/-- A call of `Speak` that has not returned, and whether it has stopped its worker. -/
structure OpenCall where
  call : ℕ
  isStopped : Bool
  deriving DecidableEq

/-- What a trace tells of the call and of the callbacks that have not returned, with what they
were given and whether the worker was stopped when they came. -/
structure ProxyView where
  call : Option OpenCall := none
  callbacks : ℕ → Option (CallbackData × Bool) := fun _ => none

namespace ProxyView

def isStopped (view : ProxyView) : Bool := view.call.any OpenCall.isStopped

def observe (view : ProxyView) : ProxyObservation → ProxyView
  | .spoke call => { view with call := some ⟨call, false⟩ }
  | .stopped call => { view with call := some ⟨call, true⟩ }
  | .returned _ => { view with call := none }
  | .called callback data =>
      { view with
        callbacks := Function.update view.callbacks callback (some (data, view.isStopped)) }
  | .answered callback _ =>
      { view with callbacks := Function.update view.callbacks callback none }
  | .gotActions _ | .wrote .. | .addedEvent .. | .destroyed => view

end ProxyView

/-- What is seen of a trace. -/
def viewOf (trace : List ProxyObservation) : ProxyView := trace.foldl ProxyView.observe {}

/-- The site is that of a call that has not returned. -/
def IsOpen (view : ProxyView) (site : ℕ) : Prop := view.call.map OpenCall.call = some site

/-- A site is used only during the call it was passed to. Audio and events go to it as the
provider has given them, by a callback that came before the call stopped its worker. When the
engine is destroyed nobody is in it. -/
def SiteRule (wtol : List UInt16 → Int32) (before : List ProxyObservation) :
    ProxyObservation → Prop
  | .gotActions site => IsOpen (viewOf before) site
  | .wrote callback site bytes _ => IsOpen (viewOf before) site ∧
      (viewOf before).callbacks callback = some (.audio bytes, false)
  | .addedEvent callback site added => IsOpen (viewOf before) site ∧
      ∃ event allocates, (viewOf before).callbacks callback = some (.event event, false) ∧
        sapiEvent wtol allocates event = some added
  | .destroyed => (viewOf before).call = none ∧ ∀ callback, (viewOf before).callbacks callback = none
  | _ => True

/-! ## The invariant -/

/-- Where a callback stands is what is seen of it. -/
inductive CallbackMatches (wtol : List UInt16 → Int32) (calls : ℕ) (abortFlag : Bool) :
    Option (CallbackData × Bool) → CallbackPlace → Prop where
  | idle : CallbackMatches wtol calls abortFlag none .idle
  | entered {data : CallbackData} {stopped : Bool} (flagged : stopped = true → abortFlag = true) :
      CallbackMatches wtol calls abortFlag (some (data, stopped)) (.entered data)
  | checked {data : CallbackData} :
      CallbackMatches wtol calls abortFlag (some (data, false)) (.checked data)
  | writing {bytes : List UInt8} :
      CallbackMatches wtol calls abortFlag (some (.audio bytes, false)) (.writing bytes calls)
  | admitted {bytes : List UInt8} :
      CallbackMatches wtol calls abortFlag (some (.audio bytes, false)) (.admitted bytes calls)
  | adding {event : ProviderSpeechEvent} {added : SapiEvent} {allocates : Bool}
      (made : sapiEvent wtol allocates event = some added) :
      CallbackMatches wtol calls abortFlag (some (.event event, false)) (.adding added calls)

namespace CallbackMatches

variable {wtol : List UInt16 → Int32} {calls site : ℕ} {abortFlag : Bool}
  {seen : Option (CallbackData × Bool)} {data : CallbackData} {bytes : List UInt8}
  {added : SapiEvent}

theorem of_idle (matched : CallbackMatches wtol calls abortFlag seen .idle) : seen = none := by
  cases matched
  rfl

/-- A callback that finds the flag clear came before the worker was stopped. -/
theorem of_entered (matched : CallbackMatches wtol calls abortFlag seen (.entered data))
    (clear : ¬abortFlag = true) : seen = some (data, false) := by
  cases matched with
  | @entered _ stopped flagged =>
      cases stopped with
      | true => exact absurd (flagged rfl) clear
      | false => rfl

theorem of_checked (matched : CallbackMatches wtol calls abortFlag seen (.checked data)) :
    seen = some (data, false) := by
  cases matched
  rfl

theorem of_writing (matched : CallbackMatches wtol calls abortFlag seen (.writing bytes site)) :
    site = calls ∧ seen = some (.audio bytes, false) := by
  cases matched
  exact ⟨rfl, rfl⟩

theorem of_admitted (matched : CallbackMatches wtol calls abortFlag seen (.admitted bytes site)) :
    site = calls ∧ seen = some (.audio bytes, false) := by
  cases matched
  exact ⟨rfl, rfl⟩

theorem of_adding (matched : CallbackMatches wtol calls abortFlag seen (.adding added site)) :
    site = calls ∧ ∃ event allocates, seen = some (.event event, false) ∧
      sapiEvent wtol allocates event = some added := by
  cases matched with
  | adding made => exact ⟨rfl, _, _, rfl, made⟩

end CallbackMatches

/-- What holds of the engine in every state, and of what is seen of it. -/
structure ProxyInvariant (wtol : List UInt16 → Int32) (view : ProxyView) (engine : ProxyEngine) :
    Prop where
  opened : engine.call ≠ .idle → view.call.map OpenCall.call = some engine.calls
  closed : engine.call = .idle → view.call = none
  site : engine.call ≠ .idle → engine.site = some engine.calls
  begun : engine.call = .begun → view.isStopped = false
  thread : engine.thread ≠ .none → engine.call = .polling ∨ engine.call = .aborting ∨
    engine.call = .waiting
  flag : engine.thread ≠ .none → view.isStopped = engine.abortFlag
  inside : ∀ callback, engine.callbacks callback ≠ .idle → engine.thread = .speaking
  matched : ∀ callback, CallbackMatches wtol engine.calls engine.abortFlag
    (view.callbacks callback) (engine.callbacks callback)

theorem viewOf_append (trace events : List ProxyObservation) :
    viewOf (trace ++ events) = events.foldl ProxyView.observe (viewOf trace) :=
  List.foldl_append

namespace ProxyInvariant

open ProxyEngine ProxyObservation

variable {wtol : List UInt16 → Int32} {view : ProxyView} {engine next : ProxyEngine}
  {action : ProxyAction} {events trace : List ProxyObservation} {callback : ℕ}

theorem initial : ProxyInvariant wtol {} {} where
  opened elsewhere := absurd rfl elsewhere
  closed _ := rfl
  site elsewhere := absurd rfl elsewhere
  begun _ := rfl
  thread elsewhere := absurd rfl elsewhere
  flag elsewhere := absurd rfl elsewhere
  inside _ elsewhere := absurd rfl elsewhere
  matched _ := .idle

/-- Without the provider there are no callbacks. -/
theorem idle (invariant : ProxyInvariant wtol view engine) (outside : engine.thread ≠ .speaking)
    (callback : ℕ) : engine.callbacks callback = .idle := by
  by_contra elsewhere
  exact outside (invariant.inside callback elsewhere)

theorem matchedAt (invariant : ProxyInvariant wtol view engine) {place : CallbackPlace}
    (here : engine.callbacks callback = place) :
    CallbackMatches wtol engine.calls engine.abortFlag (view.callbacks callback) place :=
  here ▸ invariant.matched callback

/-- Without callbacks there is nothing to match, whatever the call. -/
theorem matched_of_quiet (invariant : ProxyInvariant wtol view engine)
    (quiet : ∀ callback, engine.callbacks callback = .idle) {calls : ℕ} {abortFlag : Bool}
    (callback : ℕ) :
    CallbackMatches wtol calls abortFlag (view.callbacks callback) (engine.callbacks callback) := by
  rw [quiet callback, (invariant.matchedAt (quiet callback)).of_idle]
  exact .idle

/-- There is a thread only while `Speak` waits for it. -/
theorem threadless (invariant : ProxyInvariant wtol view engine)
    (other : engine.call = .idle ∨ engine.call = .begun ∨ engine.call = .joined) :
    engine.thread = .none := by
  by_contra busy
  rcases invariant.thread busy with same | same | same <;> rw [same] at other <;>
    rcases other with now | now | now <;> cases now

/-- During a call that the worker speaks for, the site is that of the call. -/
theorem isOpen (invariant : ProxyInvariant wtol view engine) (busy : engine.thread ≠ .none) :
    engine.site = some engine.calls ∧ IsOpen view engine.calls := by
  have here : engine.call ≠ .idle := by
    rcases invariant.thread busy with same | same | same <;> rw [same] <;> exact ProxyCall.noConfusion
  exact ⟨invariant.site here, invariant.opened here⟩

/-- A callback takes a step. -/
theorem setCallback (invariant : ProxyInvariant wtol view engine) {place : CallbackPlace}
    {seen : Option (CallbackData × Bool)}
    (matched : CallbackMatches wtol engine.calls engine.abortFlag seen place)
    (inside : place ≠ .idle → engine.thread = .speaking) :
    ProxyInvariant wtol { view with callbacks := Function.update view.callbacks callback seen }
      (engine.setCallback callback place) where
  opened := invariant.opened
  closed := invariant.closed
  site := invariant.site
  begun := invariant.begun
  thread := invariant.thread
  flag := invariant.flag
  inside other elsewhere := by
    by_cases same : other = callback
    · subst same
      simp only [ProxyEngine.setCallback, Function.update_self] at elsewhere
      exact inside elsewhere
    · simp only [ProxyEngine.setCallback, Function.update_of_ne same] at elsewhere
      exact invariant.inside other elsewhere
  matched other := by
    by_cases same : other = callback
    · subst same
      simpa [ProxyEngine.setCallback] using matched
    · simpa [ProxyEngine.setCallback, same] using invariant.matched other

/-- A step inside a callback that nobody sees. -/
theorem moves (invariant : ProxyInvariant wtol view engine) {place : CallbackPlace}
    (matched : CallbackMatches wtol engine.calls engine.abortFlag (view.callbacks callback) place)
    (inside : engine.thread = .speaking) :
    ProxyInvariant wtol view (engine.setCallback callback place) := by
  have kept : ProxyInvariant wtol
      { view with callbacks := Function.update view.callbacks callback (view.callbacks callback) }
      (engine.setCallback callback place) := invariant.setCallback matched fun _ => inside
  rwa [Function.update_eq_self] at kept

theorem answers (invariant : ProxyInvariant wtol view engine) (result : Bool) :
    ProxyInvariant wtol (view.observe (.answered callback result))
      (engine.answers callback result).1 :=
  invariant.setCallback .idle fun elsewhere => absurd rfl elsewhere

/-- The provider runs while a callback of it does. -/
theorem speaking (invariant : ProxyInvariant wtol view engine) {place : CallbackPlace}
    (here : engine.callbacks callback = place) (elsewhere : place ≠ .idle) :
    engine.thread = .speaking :=
  invariant.inside callback (here ▸ elsewhere)

/-- `Speak` and the worker go on, while there are no callbacks. -/
theorem goesOn (invariant : ProxyInvariant wtol view engine) {after : ProxyEngine}
    {call : Option OpenCall} (quiet : ∀ callback, engine.callbacks callback = .idle)
    (callbacks : after.callbacks = engine.callbacks)
    (opened : after.call ≠ .idle → call.map OpenCall.call = some after.calls)
    (closed : after.call = .idle → call = none)
    (site : after.call ≠ .idle → after.site = some after.calls)
    (begun : after.call = .begun → call.any OpenCall.isStopped = false)
    (thread : after.thread ≠ .none → after.call = .polling ∨ after.call = .aborting ∨
      after.call = .waiting)
    (flag : after.thread ≠ .none → call.any OpenCall.isStopped = after.abortFlag) :
    ProxyInvariant wtol { view with call } after where
  opened := opened
  closed := closed
  site := site
  begun := begun
  thread := thread
  flag := flag
  inside callback elsewhere := by
    rw [callbacks, quiet callback] at elsewhere
    exact absurd rfl elsewhere
  matched callback := by
    rw [callbacks]
    exact invariant.matched_of_quiet quiet callback

/-- The call returns, or the engine is destroyed. -/
theorem ends (invariant : ProxyInvariant wtol view engine) {after : ProxyEngine}
    (quiet : engine.thread = .none) (callbacks : after.callbacks = engine.callbacks)
    (thread : after.thread = .none) (ended : after.call = .idle) :
    ProxyInvariant wtol { view with call := none } after :=
  invariant.goesOn (invariant.idle (by rw [quiet]; exact ProxyThread.noConfusion)) callbacks
    (fun here => absurd ended here) (fun _ => rfl) (fun here => absurd ended here)
    (fun _ => rfl) (fun busy => absurd thread busy) (fun busy => absurd thread busy)

/-- The thread goes on, while there are no callbacks. -/
theorem threadMoves (invariant : ProxyInvariant wtol view engine) {thread : ProxyThread}
    (quiet : ∀ callback, engine.callbacks callback = .idle) (busy : engine.thread ≠ .none)
    (isRunning : Bool) : ProxyInvariant wtol view { engine with thread, isRunning } :=
  invariant.goesOn quiet rfl invariant.opened invariant.closed invariant.site invariant.begun
    (fun _ => invariant.thread busy) (fun _ => invariant.flag busy)

/-- A step of the call between the start of its worker and the end, which leaves the thread. -/
theorem callMoves (invariant : ProxyInvariant wtol view engine) {call : ProxyCall}
    (busy : engine.call ≠ .idle)
    (inside : call = .polling ∨ call = .aborting ∨ call = .waiting) :
    ProxyInvariant wtol view { engine with call } where
  opened _ := invariant.opened busy
  closed now := by rcases inside with same | same | same <;> rw [same] at now <;> cases now
  site _ := invariant.site busy
  begun now := by rcases inside with same | same | same <;> rw [same] at now <;> cases now
  thread _ := inside
  flag := invariant.flag
  inside := invariant.inside
  matched := invariant.matched

/-- The worker is stopped, which its callbacks see from now on. -/
theorem stops (invariant : ProxyInvariant wtol view engine) (aborting : engine.call = .aborting) :
    ProxyInvariant wtol (view.observe (.stopped engine.calls))
      { engine with call := .waiting, abortFlag := true } where
  opened _ := rfl
  closed now := by cases now
  site _ := invariant.site (by rw [aborting]; exact ProxyCall.noConfusion)
  begun now := by cases now
  thread _ := .inr (.inr rfl)
  flag _ := rfl
  inside := invariant.inside
  matched callback := by
    have matched := invariant.matched callback
    show CallbackMatches wtol engine.calls true (view.callbacks callback) (engine.callbacks callback)
    generalize view.callbacks callback = seen, engine.callbacks callback = place at matched
    cases matched with
    | idle => exact .idle
    | entered => exact .entered fun _ => rfl
    | checked => exact .checked
    | writing => exact .writing
    | admitted => exact .admitted
    | adding made => exact .adding made

/-- A callback comes. The worker may have been stopped already. -/
theorem comes (invariant : ProxyInvariant wtol view engine) (speaking : engine.thread = .speaking)
    (data : CallbackData) :
    ProxyInvariant wtol (view.observe (.called callback data))
      (engine.setCallback callback (.entered data)) := by
  refine invariant.setCallback (.entered fun stopped => ?_) fun _ => speaking
  rw [← invariant.flag (by rw [speaking]; exact ProxyThread.noConfusion)]
  exact stopped

/-- A callback finds the flag clear. -/
theorem checks (invariant : ProxyInvariant wtol view engine) {data : CallbackData}
    (here : engine.callbacks callback = .entered data) (clear : ¬engine.abortFlag = true) :
    ProxyInvariant wtol view (engine.setCallback callback (.checked data)) := by
  refine invariant.moves ?_ (invariant.speaking here CallbackPlace.noConfusion)
  rw [(invariant.matchedAt here).of_entered clear]
  exact .checked

/-- The site that a callback fetches is that of the call. -/
theorem fetches (invariant : ProxyInvariant wtol view engine) {data : CallbackData}
    (here : engine.callbacks callback = .checked data) (allocates : Bool) :
    ProxyInvariant wtol
      ((engine.fetchSite wtol callback allocates data).2.foldl ProxyView.observe view)
      (engine.fetchSite wtol callback allocates data).1 := by
  have speaking := invariant.speaking here CallbackPlace.noConfusion
  have site := (invariant.isOpen (by rw [speaking]; exact ProxyThread.noConfusion)).1
  have seen := (invariant.matchedAt here).of_checked
  cases data with
  | audio bytes =>
      rw [fetchSite, site]
      refine invariant.moves ?_ speaking
      rw [seen]
      exact .writing
  | event event =>
      rw [fetchSite, site]
      cases made : sapiEvent wtol allocates event with
      | none => exact invariant.answers false
      | some added =>
          refine invariant.moves ?_ speaking
          rw [seen]
          exact .adding made

/-- The site has no abort for a callback with audio. -/
theorem admits (invariant : ProxyInvariant wtol view engine) {bytes : List UInt8} {site : ℕ}
    (here : engine.callbacks callback = .writing bytes site) :
    ProxyInvariant wtol view (engine.setCallback callback (.admitted bytes site)) := by
  refine invariant.moves ?_ (invariant.speaking here CallbackPlace.noConfusion)
  obtain ⟨own, seen⟩ := (invariant.matchedAt here).of_writing
  rw [seen, own]
  exact .admitted

/-- **Every step keeps the invariant.** -/
theorem step (invariant : ProxyInvariant wtol view engine)
    (allowed : Synchronous engine action) (taken : ProxyStep wtol engine action next events) :
    ProxyInvariant wtol (events.foldl ProxyView.observe view) next := by
  cases taken with
  | spoke ready =>
      have quiet := invariant.threadless (.inl ready)
      exact invariant.goesOn (invariant.idle (by rw [quiet]; exact ProxyThread.noConfusion)) rfl
        (fun _ => rfl) (fun now => by cases now) (fun _ => rfl) (fun _ => rfl)
        (fun busy => absurd quiet busy) (fun busy => absurd quiet busy)
  | threw begun =>
      have quiet := invariant.threadless (.inr (.inl begun))
      exact invariant.ends quiet rfl quiet rfl
  | started begun =>
      have quiet := invariant.threadless (.inr (.inl begun))
      have busy : engine.call ≠ .idle := by
        rw [begun]
        exact ProxyCall.noConfusion
      exact invariant.goesOn (invariant.idle (by rw [quiet]; exact ProxyThread.noConfusion)) rfl
        (fun _ => invariant.opened busy) (fun now => by cases now)
        (fun _ => invariant.site busy) (fun now => by cases now) (fun _ => .inl rfl)
        (fun _ => invariant.begun begun)
  | unstarted begun =>
      exact invariant.ends (invariant.threadless (.inr (.inl begun))) rfl rfl rfl
  | @polled aborts _ polling _ =>
      refine invariant.callMoves (by rw [polling]; exact ProxyCall.noConfusion) ?_
      cases aborts with
      | true => exact .inr (.inl rfl)
      | false => exact .inl rfl
  | unpolled => exact invariant
  | stopped aborting => exact invariant.stops aborting
  | sawFinished polling =>
      exact invariant.callMoves (by rw [polling]; exact ProxyCall.noConfusion) (.inr (.inr rfl))
  | joined waiting quiet =>
      have busy : engine.call ≠ .idle := by
        rw [waiting]
        exact ProxyCall.noConfusion
      exact invariant.goesOn (invariant.idle quiet) rfl (fun _ => invariant.opened busy)
        (fun now => by cases now) (fun _ => invariant.site busy) (fun now => by cases now)
        (fun busy => absurd rfl busy) (fun busy => absurd rfl busy)
  | left joined =>
      have quiet := invariant.threadless (.inr (.inr joined))
      exact invariant.ends quiet rfl quiet rfl
  | released ready =>
      have ended : ProxyInvariant wtol { view with call := none }
          { engine with abortFlag := true, site := none, thread := .none, isDestroyed := true } :=
        invariant.ends (invariant.threadless (.inl ready)) rfl rfl ready
      rwa [← invariant.closed ready] at ended
  | threadMoved busy quiet =>
      refine invariant.threadMoves ?_ busy _
      rcases quiet with outside | rfl
      · exact invariant.idle outside
      · exact allowed
  | called => exact invariant.comes allowed _
  | refused => exact invariant.answers false
  | checked here clear => exact invariant.checks here clear
  | fetched here => exact invariant.fetches here _
  | sawAbort | added => exact invariant.answers false
  | admitted here => exact invariant.admits here
  | wrote => exact invariant.answers _

/-- The site of the call is open while a callback runs. -/
theorem isOpen_of_callback (invariant : ProxyInvariant wtol view engine) {place : CallbackPlace}
    {site : ℕ} (here : engine.callbacks callback = place) (elsewhere : place ≠ .idle)
    (own : site = engine.calls) : IsOpen view site := by
  have speaking := invariant.speaking here elsewhere
  rw [own]
  exact (invariant.isOpen (by rw [speaking]; exact ProxyThread.noConfusion)).2

theorem rule_gotActions (invariant : ProxyInvariant wtol view engine) {bytes : List UInt8}
    {site : ℕ} (here : engine.callbacks callback = .writing bytes site) : IsOpen view site :=
  invariant.isOpen_of_callback here CallbackPlace.noConfusion (invariant.matchedAt here).of_writing.1

theorem rule_wrote (invariant : ProxyInvariant wtol view engine) {bytes : List UInt8} {site : ℕ}
    (here : engine.callbacks callback = .admitted bytes site) :
    IsOpen view site ∧ view.callbacks callback = some (.audio bytes, false) := by
  obtain ⟨own, seen⟩ := (invariant.matchedAt here).of_admitted
  exact ⟨invariant.isOpen_of_callback here CallbackPlace.noConfusion own, seen⟩

theorem rule_addedEvent (invariant : ProxyInvariant wtol view engine) {added : SapiEvent}
    {site : ℕ} (here : engine.callbacks callback = .adding added site) :
    IsOpen view site ∧ ∃ event allocates,
      view.callbacks callback = some (.event event, false) ∧
        sapiEvent wtol allocates event = some added := by
  obtain ⟨own, shown⟩ := (invariant.matchedAt here).of_adding
  exact ⟨invariant.isOpen_of_callback here CallbackPlace.noConfusion own, shown⟩

/-- Fetching the site shows nothing but the return of a callback. -/
theorem rule_fetched (callback : ℕ) (allocates : Bool) (data : CallbackData) :
    Always (fun before event => SiteRule wtol (trace ++ before) event)
      (engine.fetchSite wtol callback allocates data).2 := by
  unfold fetchSite
  repeat' split
  all_goals
    first
    | exact .nil
    | exact .cons trivial .nil

/-- What a step does keeps to the rule. -/
theorem rules (invariant : ProxyInvariant wtol (viewOf trace) engine)
    (taken : ProxyStep wtol engine action next events) :
    Always (fun before event => SiteRule wtol (trace ++ before) event) events := by
  have first : ∀ event, SiteRule wtol trace event → SiteRule wtol (trace ++ []) event := by
    intro event rule
    rwa [List.append_nil]
  cases taken with
  | @polled _ site polling installed =>
      have busy : engine.call ≠ .idle := by
        rw [polling]
        exact ProxyCall.noConfusion
      have same : site = engine.calls :=
        Option.some.inj (installed.symm.trans (invariant.site busy))
      refine .cons (first _ ?_) .nil
      rw [same]
      exact invariant.opened busy
  | released ready =>
      have quiet := invariant.threadless (.inl ready)
      have unseen : ∀ callback, (viewOf trace).callbacks callback = none := fun callback =>
        (invariant.matchedAt
          (invariant.idle (by rw [quiet]; exact ProxyThread.noConfusion) callback)).of_idle
      exact .cons (first _ ⟨invariant.closed ready, unseen⟩) .nil
  | sawAbort here =>
      exact .cons (first (.gotActions _) (invariant.rule_gotActions here)) (.cons trivial .nil)
  | admitted here => exact .cons (first (.gotActions _) (invariant.rule_gotActions here)) .nil
  | wrote here =>
      exact .cons (first (.wrote ..) (invariant.rule_wrote here)) (.cons trivial .nil)
  | added here =>
      exact .cons (first (.addedEvent ..) (invariant.rule_addedEvent here)) (.cons trivial .nil)
  | fetched => exact rule_fetched _ _ _
  | spoke | threw | unstarted | stopped | left | called | refused => exact .cons trivial .nil
  | started | unpolled | sawFinished | joined | threadMoved | checked => exact .nil

end ProxyInvariant

theorem ProxyEngine.invariant_of_reaches {wtol : List UInt16 → Int32} {engine : ProxyEngine}
    {trace : List ProxyObservation}
    (reached : (proxyEngine wtol).Reaches Synchronous trace engine) :
    ProxyInvariant wtol (viewOf trace) engine := by
  refine reached.induct (motive := fun trace engine => ProxyInvariant wtol (viewOf trace) engine)
    ?_ ?_
  · rintro start rfl
    exact .initial
  · intro _ _ _ _ _ _ invariant allowed taken
    rw [viewOf_append]
    exact invariant.step allowed (proxyStep_spec taken)

/-- **The sites are used inside of their calls.** Whatever the order in which `Speak`, its
worker and the callbacks take their steps: as long as the provider calls back during
`ProviderSpeak` only, a site is used only while the call that it was passed to has not
returned, the audio and the events that go to it are those of callbacks that came before the call
stopped its worker, and an engine is destroyed only when no callback is in it. -/
theorem sites_used_inside {wtol : List UInt16 → Int32} {engine : ProxyEngine}
    {trace : List ProxyObservation}
    (reached : (proxyEngine wtol).Reaches Synchronous trace engine) :
    Always (SiteRule wtol) trace := by
  refine reached.induct (motive := fun trace _ => Always (SiteRule wtol) trace) ?_ ?_
  · rintro start rfl
    exact .nil
  · intro _ _ _ _ _ before rule _ taken
    exact rule.append ((ProxyEngine.invariant_of_reaches before).rules (proxyStep_spec taken))

/-- A call that SAPI aborts while a callback writes, and as another one comes. -/
def abortedSpeak : List ProxyAction :=
  [.speak, .start true, .providerSpeak true, .callBack 0 (.audio [1, 2]), .checkFlag 0,
    .fetchSite 0 true, .getActions 0 false, .poll true, .stop, .callBack 1 (.audio [3]),
    .write 0 true, .checkFlag 1, .providerReturns, .finish, .exit, .join, .leave, .release]

theorem sites_used_inside_aborted :
    Always (SiteRule fun _ => 0)
      [.spoke 1, .called 0 (.audio [1, 2]), .gotActions 1, .gotActions 1, .stopped 1,
        .called 1 (.audio [3]), .wrote 0 1 [1, 2] true, .answered 0 true, .answered 1 false,
        .returned 1, .destroyed] := by
  have quiet : ∀ callback, Function.update (Function.update (Function.update (Function.update
      (Function.update (Function.update (Function.update (fun _ => CallbackPlace.idle) 0
        (.entered (.audio [1, 2]))) 0 (.checked (.audio [1, 2]))) 0 (.writing [1, 2] 1)) 0
          (.admitted [1, 2] 1)) 1 (.entered (.audio [3]))) 0 .idle) 1 .idle callback =
            CallbackPlace.idle := by
    intro callback
    by_cases first : callback = 0
    · subst first
      rfl
    · by_cases second : callback = 1
      · subst second
        rfl
      · simp only [Function.update_of_ne first, Function.update_of_ne second]
  have guarded : (proxyEngine fun _ => 0).Along (fun engine action _ => Synchronous engine action) {}
      abortedSpeak :=
    And.intro trivial (And.intro trivial (And.intro trivial (And.intro rfl (And.intro trivial
      (And.intro trivial (And.intro trivial (And.intro trivial (And.intro trivial (And.intro rfl
        (And.intro trivial (And.intro trivial (And.intro quiet (And.intro trivial
          (And.intro trivial (And.intro trivial (And.intro trivial
            (And.intro trivial trivial)))))))))))))))))
  have run := (proxyEngine fun _ => 0).run_finalState {} abortedSpeak guarded (by rfl)
  exact sites_used_inside ⟨{}, rfl, run⟩

end ModernSapi
