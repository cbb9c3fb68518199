import Mathlib.Data.List.Basic

/-!
# The navigation machine

`layoutHomeInfo` is polled by the main loop. One call is one tick: it reads the button edges,
honours a refresh request, pages through the four device-info screens, locks or powers off the
device when the home screen has been idle for the auto-lock delay, polls the status logo once a
second, wakes from the screensaver, and turns a cancel on any other screen into an abort of the
signing and recovery flows.

The machine's state is `layoutLast`, the static `info_page` and the three `uint32_t` timers. Every
call the code makes to the outside world is appended to a trace, and every answer it gets is read
from an `Env`: the clock (one reading per tick), the buttons, and the oracles, which may answer
differently depending on everything that happened before. `shutdown()` does not return, so a tick
that calls it ends the run in `poweredOff`.

This is the device build (`!EMULATOR`). What the home and info screens draw is not modelled; the
drawing calls that bracket it (`layoutSwipe`, `oledClear`, `oledRefresh`) are.
-/

namespace BixinLayout.Nav

/-- The value of `layoutLast`: the layout function that drew the current screen. Screens set by
code outside this file are `other`. -/
inductive Screen where
  | layoutHome
  | layoutScreensaver
  | layoutDeviceInfo
  | layoutDialogSwipe
  | layoutProgressSwipe
  | layoutResetWord
  | layoutAddress
  | layoutXPUB
  | other (id : Nat)
deriving DecidableEq, Repr

/-- A call the navigation code makes that the world can see. -/
inductive Effect where
  | layoutSwipe
  | oledClear
  | oledRefresh
  | layoutStatusLogo (force_refresh : Bool)
  | recovery_abort
  | signing_abort
  | session_clear (lock : Bool)
  | shutdown
  | layoutHome
  | layoutDeviceInfo (ucPage : Nat)
  | layoutScreensaver
deriving DecidableEq, Repr

/-- The edges `buttonUpdate()` leaves in `button`. -/
structure Buttons where
  NoUp : Bool
  YesUp : Bool
  UpUp : Bool
  DownUp : Bool
deriving DecidableEq, Repr

/-- No button edge. -/
def Buttons.idle : Buttons := ⟨false, false, false, false⟩

/-- What the world answers during one tick. -/
structure Env where
  /-- `timer_ms()`: one reading stands for every call of it in the tick. -/
  now : UInt32
  button : Buttons
  layoutNeedRefresh : Bool
  /-- `layoutStatusLogo(force_refresh)`: a tamper or disconnect event, given the calls so far. -/
  layoutStatusLogo : List Effect → Bool → Bool
  sys_nfcState : Bool
  sys_usbState : Bool
  config_getAutoLockDelayMs : UInt32

/-- The navigation state, with the trace of every call made so far. -/
structure NavContext where
  layoutLast : Screen
  info_page : Nat
  system_millis_lock_start : UInt32
  system_millis_display_info_start : UInt32
  system_millis_logo_refresh : UInt32
  trace : List Effect
deriving DecidableEq, Repr

/-- The state at boot. `system_millis_lock_start` is defined outside this file. -/
def NavContext.init (lockStart : UInt32) : NavContext :=
  ⟨.layoutHome, 0, lockStart, 0, 0, []⟩

/-- Appends calls to the trace. -/
def NavContext.emit (s : NavContext) (fx : List Effect) : NavContext :=
  { s with trace := s.trace ++ fx }

/-- `DEVICE_INFO_PAGE_NUM`. -/
def DEVICE_INFO_PAGE_NUM : Nat := 4

/-- `recovery_abort(); signing_abort(); session_clear(true);` after a status event. -/
def statusAbort : List Effect := [.recovery_abort, .signing_abort, .session_clear true]

/-- `layoutHome()`: clear or swipe, the status logo (with its abort), refresh, re-arm the lock. -/
def layoutHome (env : Env) (s : NavContext) : NavContext :=
  let paint : Effect :=
    if s.layoutLast = .layoutHome ∨ s.layoutLast = .layoutScreensaver then .oledClear
    else .layoutSwipe
  let before := s.trace ++ [.layoutHome, paint]
  let tamper := env.layoutStatusLogo before true
  { s with
    layoutLast := .layoutHome
    system_millis_lock_start := env.now
    trace := before ++ [.layoutStatusLogo true] ++ (if tamper then statusAbort else []) ++
      [.oledRefresh] }

/-- `layoutScreensaver()`. -/
def layoutScreensaver (s : NavContext) : NavContext :=
  { s.emit [.layoutScreensaver, .oledClear, .oledRefresh] with layoutLast := .layoutScreensaver }

/-- `layoutDeviceInfo(ucPage)`: pages 1 to 4 clear and draw, any other page draws nothing. -/
def layoutDeviceInfo (env : Env) (ucPage : Nat) (s : NavContext) : NavContext :=
  { s.emit ([.layoutDeviceInfo ucPage] ++ (if 1 ≤ ucPage ∧ ucPage ≤ 4 then [.oledClear] else []) ++
      [.oledRefresh]) with
    layoutLast := .layoutDeviceInfo
    system_millis_display_info_start := env.now }

/-- `layoutDialogSwipe(...)`, and every dialog of this file that goes through it. -/
def layoutDialogSwipe (s : NavContext) : NavContext :=
  { s.emit [.layoutSwipe] with layoutLast := .layoutDialogSwipe }

/-- `layoutProgressSwipe(desc, permil)`. -/
def layoutProgressSwipe (s : NavContext) : NavContext :=
  if s.layoutLast = .layoutProgressSwipe then s.emit [.oledClear]
  else { s.emit [.layoutSwipe] with layoutLast := .layoutProgressSwipe }

/-- `layoutResetWord(...)`. -/
def layoutResetWord (s : NavContext) : NavContext :=
  { s.emit [.layoutSwipe] with layoutLast := .layoutResetWord }

/-- The screen change of `layoutAddress` and `layoutXPUB`, which swipe only from another screen. -/
def addressScreen (target : Screen) (s : NavContext) : NavContext :=
  { s.emit [if s.layoutLast ≠ .layoutAddress ∧ s.layoutLast ≠ .layoutXPUB then .layoutSwipe
      else .oledClear] with layoutLast := target }

/-- `layoutAddress(...)`. -/
def layoutAddress (s : NavContext) : NavContext := addressScreen .layoutAddress s

/-- `layoutXPUB(...)`. -/
def layoutXPUB (s : NavContext) : NavContext := addressScreen .layoutXPUB s

/-! ## One tick of `layoutHomeInfo` -/

/-- `if (layoutNeedRefresh()) layoutHome();` -/
def refreshHome (env : Env) (s : NavContext) : NavContext :=
  if env.layoutNeedRefresh then layoutHome env s else s

/-- The buttons on the device-info pages, after the 10 s timeout reset `info_page`. -/
def pageButtons (env : Env) (s : NavContext) : NavContext :=
  if env.button.UpUp then
    if s.info_page ≠ 0 then
      layoutDeviceInfo env (s.info_page - 1) { s with info_page := s.info_page - 1 }
    else s
  else if env.button.DownUp then
    if s.info_page < DEVICE_INFO_PAGE_NUM then
      layoutDeviceInfo env (s.info_page + 1) { s with info_page := s.info_page + 1 }
    else { s with info_page := 0 }
  else if env.button.NoUp then { s with info_page := 0 }
  else s

/-- The 10 s timeout of the info pages: `info_page = 0` once it has passed. -/
def infoTimeout (env : Env) (s : NavContext) : NavContext :=
  if env.now - s.system_millis_display_info_start ≥ 10 * 1000 then { s with info_page := 0 }
  else s

/-- `if (info_page == 0) layoutHome();` -/
def homeIfNoPage (env : Env) (s : NavContext) : NavContext :=
  if s.info_page = 0 then layoutHome env s else s

/-- From `if (layoutLast == layoutHome)` to `if (info_page == 0) layoutHome();`. -/
def browseInfo (env : Env) (s : NavContext) : NavContext :=
  if s.layoutLast = .layoutHome then
    if env.button.UpUp || env.button.DownUp then
      let info_page := if env.button.UpUp then DEVICE_INFO_PAGE_NUM else 1
      layoutDeviceInfo env info_page { s with info_page := info_page }
    else s
  else if s.layoutLast = .layoutDeviceInfo then
    homeIfNoPage env (pageButtons env (infoTimeout env s))
  else s

/-- The 1 s status poll: `if ((timer_ms() - system_millis_logo_refresh) >= 1000) {...}`. -/
def statusPoll (env : Env) (s : NavContext) : NavContext :=
  if env.now - s.system_millis_logo_refresh ≥ 1000 then
    let tamper := env.layoutStatusLogo s.trace false
    let s := s.emit [.layoutStatusLogo false]
    let s := if tamper then layoutHome env (s.emit statusAbort) else s
    { s with system_millis_logo_refresh := env.now }
  else s

/-- How a tick ends: normally, or in `shutdown()`, which does not return. -/
inductive After where
  | running (s : NavContext)
  | poweredOff (s : NavContext)
deriving DecidableEq, Repr

/-- The home-screen block: the auto-lock, then the status poll, both while `layoutLast` was
`layoutHome` when the block was entered. -/
def homeTimers (env : Env) (s : NavContext) : After :=
  if s.layoutLast = .layoutHome then
    if env.now - s.system_millis_lock_start ≥ env.config_getAutoLockDelayMs then
      if env.sys_nfcState || env.sys_usbState then
        .running (statusPoll env (layoutScreensaver (s.emit [.session_clear true])))
      else .poweredOff (s.emit [.shutdown])
    else .running (statusPoll env s)
  else .running s

/-- Waking from the screensaver on any button, or a cancel on any other screen. -/
def wakeOrCancel (env : Env) (s : NavContext) : NavContext :=
  if s.layoutLast = .layoutScreensaver ∧
      (env.button.NoUp || env.button.YesUp || env.button.UpUp || env.button.DownUp) then
    layoutHome env s
  else if s.layoutLast ≠ .layoutHome ∧ s.layoutLast ≠ .layoutScreensaver ∧ env.button.NoUp then
    s.emit [.recovery_abort, .signing_abort]
  else s

/-- `layoutHomeInfo()`. -/
def layoutHomeInfo (env : Env) (s : NavContext) : After :=
  match homeTimers env (browseInfo env (refreshHome env s)) with
  | .running s => .running (wakeOrCancel env s)
  | .poweredOff s => .poweredOff s

/-! ## Runs -/

/-- A layout function of this file, other than `layoutDeviceInfo` and `layoutHomeInfo`, that
changes the navigation state. -/
inductive Call where
  | layoutHome
  | layoutScreensaver
  | layoutDialogSwipe
  | layoutProgressSwipe
  | layoutResetWord
  | layoutAddress
  | layoutXPUB
deriving DecidableEq, Repr

/-- What a call does to the navigation state. -/
def Call.run (env : Env) : Call → NavContext → NavContext
  | .layoutHome => Nav.layoutHome env
  | .layoutScreensaver => Nav.layoutScreensaver
  | .layoutDialogSwipe => Nav.layoutDialogSwipe
  | .layoutProgressSwipe => Nav.layoutProgressSwipe
  | .layoutResetWord => Nav.layoutResetWord
  | .layoutAddress => Nav.layoutAddress
  | .layoutXPUB => Nav.layoutXPUB

/-- The states a run from boot reaches: ticks that return, interleaved with layout calls. -/
inductive Reachable : NavContext → Prop
  | init (lockStart : UInt32) : Reachable (NavContext.init lockStart)
  | tick {s s' : NavContext} (env : Env) :
      Reachable s → layoutHomeInfo env s = .running s' → Reachable s'
  | call {s : NavContext} (c : Call) (env : Env) : Reachable s → Reachable (c.run env s)

end BixinLayout.Nav
