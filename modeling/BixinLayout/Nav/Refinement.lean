import BixinLayout.Nav.Invariant

/-!
# The design's screen machine, refined by the code

The design names the current screen with a variant, home, an info page from 1 to 4, the
screensaver, a dialog or locked, and gives the screen changes of one tick as a table over a
button edge and the two timers. `ScreenId` and `specStep` are that table, read as it is written.

`screen` reads the variant off the code's state. **Refinement.** Along every run, a tick of
`layoutHomeInfo` moves the screen as the table does (`tick_refines`), provided the tick is one the
table describes: no refresh request and no status event, at most one button edge, a positive
auto-lock delay, and no edge in a tick where the current screen's timer fires.
-/

namespace BixinLayout.Nav

/-! ## The design -/

/-- The design's screen variant. -/
inductive ScreenId where
  | home
  | infoPage (n : Nat)
  | screensaver
  | dialogActive
  | locked
deriving DecidableEq, Repr

/-- A button edge of the design. -/
inductive Press where
  | cancel
  | confirm
  | prev
  | next
deriving DecidableEq, Repr

/-- What one tick of the design reads. -/
structure SpecInput where
  press : Option Press
  infoTimedOut : Bool
  lockDue : Bool
  transportPresent : Bool
deriving DecidableEq, Repr

/-- The design's transition table for one tick. -/
def specStep : ScreenId → SpecInput → ScreenId
  | .home, i =>
    match i.press with
    | some .prev => .infoPage 4
    | some .next => .infoPage 1
    | some _ => .home
    | none => if i.lockDue then (if i.transportPresent then .screensaver else .locked) else .home
  | .infoPage n, i =>
    if i.infoTimedOut then .home
    else
      match i.press with
      | some .prev => if n = 1 then .home else .infoPage (n - 1)
      | some .next => if n = 4 then .home else .infoPage (n + 1)
      | some .cancel => .home
      | _ => .infoPage n
  | .screensaver, i => if i.press.isSome then .home else .screensaver
  | .dialogActive, _ => .dialogActive
  | .locked, _ => .locked

/-! ## Reading the design off the code -/

/-- The screen a state of the code shows. -/
def screen (s : NavContext) : ScreenId :=
  match s.layoutLast with
  | .layoutHome => .home
  | .layoutDeviceInfo => .infoPage s.info_page
  | .layoutScreensaver => .screensaver
  | _ => .dialogActive

/-- The screen after a tick: `shutdown()` locks the device. -/
def screenOf : After → ScreenId
  | .running s => screen s
  | .poweredOff _ => .locked

/-- The edge of a tick with at most one edge. -/
def pressOf (b : Buttons) : Option Press :=
  if b.NoUp then some .cancel
  else if b.YesUp then some .confirm
  else if b.UpUp then some .prev
  else if b.DownUp then some .next
  else none

/-- What the design reads in a tick of the code from the state `s`. -/
def inputOf (env : Env) (s : NavContext) : SpecInput :=
  ⟨pressOf env.button, decide (env.now - s.system_millis_display_info_start ≥ 10 * 1000),
    decide (env.now - s.system_millis_lock_start ≥ env.config_getAutoLockDelayMs),
    env.sys_nfcState || env.sys_usbState⟩

/-- The button states with at most one edge. -/
def Buttons.single : List Buttons :=
  [.idle, ⟨true, false, false, false⟩, ⟨false, true, false, false⟩, ⟨false, false, true, false⟩,
    ⟨false, false, false, true⟩]

/-- A tick the design's table describes. -/
structure WellBehaved (env : Env) (s : NavContext) : Prop where
  /-- At most one button edge. -/
  single : env.button ∈ Buttons.single
  /-- No refresh request. -/
  no_refresh : env.layoutNeedRefresh = false
  /-- The status poll reports no event. -/
  no_event : ∀ trace force_refresh, env.layoutStatusLogo trace force_refresh = false
  /-- The auto-lock delay is positive. -/
  delay_pos : 0 < env.config_getAutoLockDelayMs
  /-- No edge while the info page times out. -/
  info_quiet : s.layoutLast = .layoutDeviceInfo →
    env.now - s.system_millis_display_info_start ≥ 10 * 1000 → env.button = .idle
  /-- No edge while the lock falls due. -/
  lock_quiet : s.layoutLast = .layoutHome →
    env.now - s.system_millis_lock_start ≥ env.config_getAutoLockDelayMs → env.button = .idle

/-! ## The screen of each phase -/

variable {env : Env} {s t : NavContext}

@[simp] theorem screen_layoutHome : screen (layoutHome env s) = .home := rfl
@[simp] theorem screen_layoutScreensaver : screen (layoutScreensaver s) = .screensaver := rfl
@[simp] theorem screen_layoutDeviceInfo (p : Nat) :
    screen (layoutDeviceInfo env p s) = .infoPage s.info_page := rfl
@[simp] theorem screen_emit (fx : List Effect) : screen (s.emit fx) = screen s := rfl

theorem screen_of_home (h : s.layoutLast = .layoutHome) : screen s = .home := by
  simp [screen, h]

theorem screen_of_dialog (h1 : s.layoutLast ≠ .layoutHome) (h2 : s.layoutLast ≠ .layoutDeviceInfo)
    (h3 : s.layoutLast ≠ .layoutScreensaver) : screen s = .dialogActive := by
  unfold screen
  split <;> simp_all

/-- Without a status event the poll keeps the screen. -/
theorem statusPoll_layoutLast_quiet
    (hq : ∀ trace force_refresh, env.layoutStatusLogo trace force_refresh = false) :
    (statusPoll env t).layoutLast = t.layoutLast := by
  rcases statusPoll_shape env t with ⟨-, e⟩ | ⟨-, -, e⟩ | ⟨-, h, -⟩
  · rw [e]
  · rw [e]; rfl
  · simp [hq] at h

theorem screen_statusPoll
    (hq : ∀ trace force_refresh, env.layoutStatusLogo trace force_refresh = false) :
    screen (statusPoll env t) = screen t := by
  unfold screen
  rw [statusPoll_layoutLast_quiet hq, statusPoll_info_page]

theorem buttons_single {b : Buttons} (h : b ∈ Buttons.single) :
    b = .idle ∨ b = ⟨true, false, false, false⟩ ∨ b = ⟨false, true, false, false⟩ ∨
      b = ⟨false, false, true, false⟩ ∨ b = ⟨false, false, false, true⟩ := by
  simpa [Buttons.single] using h

/-! ## One tick per screen -/

theorem tick_home (hw : WellBehaved env s) (hh : s.layoutLast = .layoutHome) :
    screenOf (layoutHomeInfo env s) = specStep .home (inputOf env s) := by
  have hr : refreshHome env s = s := refreshHome_of_false hw.no_refresh
  -- with the lock not due, Cancel and Confirm keep the home screen, Up and Down page
  have stay (hl : env.now - s.system_millis_lock_start < env.config_getAutoLockDelayMs)
      (he : (env.button.UpUp || env.button.DownUp) = false) :
      layoutHomeInfo env s = .running (statusPoll env s) := by
    rw [layoutHomeInfo_of_running (by rw [hr, browseInfo_of_home hh he, homeTimers_of_lt hh hl]),
      wakeOrCancel_of_home ((statusPoll_layoutLast_quiet hw.no_event).trans hh)]
  have page (he : (env.button.UpUp || env.button.DownUp) = true) (hn : env.button.NoUp = false) :
      screenOf (layoutHomeInfo env s) = .infoPage (if env.button.UpUp then 4 else 1) := by
    rw [layoutHomeInfo_of_running (by rw [hr, browseInfo_of_home_edge hh he,
      homeTimers_of_ne (by simp)]), wakeOrCancel_of_no_cancel (by simp) hn]
    rfl
  have quiet (hb : env.button ≠ .idle) :
      env.now - s.system_millis_lock_start < env.config_getAutoLockDelayMs :=
    UInt32.not_le.1 fun h => hb (hw.lock_quiet hh h)
  rcases buttons_single hw.single with hb | hb | hb | hb | hb
  · -- no edge: the lock, once it is due
    rw [layoutHomeInfo_quiet hb hw.no_refresh, browseInfo_home_idle hb hh]
    rcases homeTimers_cases env s with ⟨h, e⟩ | ⟨-, hl, e⟩ | ⟨-, hl, hn, e⟩ | ⟨-, hl, hn, e⟩ <;>
      rw [e]
    · exact absurd hh h
    · simp [screenOf, screen_statusPoll hw.no_event, screen_of_home hh, inputOf, pressOf, specStep,
        hb, Buttons.idle, UInt32.not_le.2 hl]
    · simp [screenOf, screen_statusPoll hw.no_event, inputOf, pressOf, specStep, hb, Buttons.idle,
        hl, hn]
    · simp [screenOf, inputOf, pressOf, specStep, hb, Buttons.idle, hl, hn]
  all_goals have hl := quiet (by rw [hb]; decide)
  · rw [stay hl (by simp [hb])]
    simp [screenOf, screen_statusPoll hw.no_event, screen_of_home hh, inputOf, pressOf, specStep, hb]
  · rw [stay hl (by simp [hb])]
    simp [screenOf, screen_statusPoll hw.no_event, screen_of_home hh, inputOf, pressOf, specStep, hb]
  · rw [page (by simp [hb]) (by simp [hb])]
    simp [inputOf, pressOf, specStep, hb]
  · rw [page (by simp [hb]) (by simp [hb])]
    simp [inputOf, pressOf, specStep, hb]

/-! ## A tick from what the info-page branch leaves -/

/-- A tick whose info-page branch goes home ends on the home screen. -/
theorem screen_tick_of_browse_home {r : NavContext} (hw : WellBehaved env s)
    (e : browseInfo env s = layoutHome env r) : screenOf (layoutHomeInfo env s) = .home := by
  rw [layoutHomeInfo_of_home hw.delay_pos (by rw [refreshHome_of_false hw.no_refresh, e])]
  exact screen_of_home (statusPoll_home env rfl rfl).1

/-- A tick whose info-page branch shows an info page ends on that page, but for a cancel. -/
theorem screen_tick_of_browse_info (hr : env.layoutNeedRefresh = false)
    (hn : env.button.NoUp = false) (hi : (browseInfo env s).layoutLast = .layoutDeviceInfo) :
    screenOf (layoutHomeInfo env s) = screen (browseInfo env s) := by
  rw [layoutHomeInfo_of_running (by rw [refreshHome_of_false hr, homeTimers_of_ne (by rw [hi]; decide)]),
    wakeOrCancel_of_no_cancel (by rw [hi]; decide) hn]
  rfl

theorem tick_info (hw : WellBehaved env s) (hi : s.layoutLast = .layoutDeviceInfo)
    (hp : s.info_page ≠ 0) (hp4 : s.info_page ≤ 4) :
    screenOf (layoutHomeInfo env s) = specStep (.infoPage s.info_page) (inputOf env s) := by
  by_cases ht : env.now - s.system_millis_display_info_start ≥ 10 * 1000
  · have hb := hw.info_quiet hi ht
    have ht' : (10000 : UInt32) ≤ env.now - s.system_millis_display_info_start := ht
    rw [screen_tick_of_browse_home hw (r := { s with info_page := 0 }) (by
      rw [browseInfo_of_info hi, infoTimeout_of_le ht, pageButtons_idle hb, homeIfNoPage_of_zero rfl])]
    simp [specStep, inputOf, ht']
  have ht' : ¬ (10000 : UInt32) ≤ env.now - s.system_millis_display_info_start := ht
  have hin : inputOf env s = ⟨pressOf env.button, false, (inputOf env s).lockDue,
      (inputOf env s).transportPresent⟩ := by simp [inputOf, ht']
  have hbrowse : browseInfo env s = homeIfNoPage env (pageButtons env s) := by
    rw [browseInfo_of_info hi, infoTimeout_of_lt (UInt32.not_le.1 ht)]
  rw [hin]
  rcases buttons_single hw.single with hb | hb | hb | hb | hb <;> rw [hb]
  · -- no edge: the page stays
    have e : browseInfo env s = s := by rw [hbrowse, pageButtons_idle hb, homeIfNoPage_of_ne hp]
    rw [screen_tick_of_browse_info hw.no_refresh (by rw [hb]; rfl) (by rw [e]; exact hi), e]
    simp [screen, hi, specStep, pressOf, Buttons.idle]
  · -- cancel: home
    rw [screen_tick_of_browse_home hw (r := { s with info_page := 0 }) (by
      rw [hbrowse, pageButtons_cancel (by simp [hb]) (by simp [hb]) (by simp [hb]),
        homeIfNoPage_of_zero rfl])]
    simp [specStep, pressOf]
  · -- confirm: the page stays
    have e : browseInfo env s = s := by
      rw [hbrowse, pageButtons_none (by simp [hb]) (by simp [hb]) (by simp [hb]),
        homeIfNoPage_of_ne hp]
    rw [screen_tick_of_browse_info hw.no_refresh (by rw [hb]) (by rw [e]; exact hi), e]
    simp [screen, hi, specStep, pressOf]
  · -- up: the page before, or home from page 1
    have hu : env.button.UpUp = true := by simp [hb]
    by_cases h1 : s.info_page = 1
    · have e : browseInfo env s = layoutHome env
          (layoutDeviceInfo env (s.info_page - 1) { s with info_page := s.info_page - 1 }) := by
        rw [hbrowse, pageButtons_up hu hp, homeIfNoPage_of_zero (by simp [h1])]
      rw [screen_tick_of_browse_home hw e]
      simp [specStep, pressOf, h1]
    · have e : browseInfo env s =
          layoutDeviceInfo env (s.info_page - 1) { s with info_page := s.info_page - 1 } := by
        rw [hbrowse, pageButtons_up hu hp, homeIfNoPage_of_ne (by simp; omega)]
      rw [screen_tick_of_browse_info hw.no_refresh (by rw [hb]) (by rw [e]; rfl), e]
      simp [specStep, pressOf, h1]
  · -- down: the page after, or home from page 4
    by_cases h4 : s.info_page = 4
    · have e : browseInfo env s = layoutHome env { s with info_page := 0 } := by
        rw [hbrowse, pageButtons_down_last (by simp [hb]) (by simp [hb])
          (by simp [DEVICE_INFO_PAGE_NUM, h4]), homeIfNoPage_of_zero rfl]
      rw [screen_tick_of_browse_home hw e]
      simp [specStep, pressOf, h4]
    · have e : browseInfo env s =
          layoutDeviceInfo env (s.info_page + 1) { s with info_page := s.info_page + 1 } := by
        rw [hbrowse, pageButtons_down (by simp [hb]) (by simp [hb])
          (by simp only [DEVICE_INFO_PAGE_NUM]; omega), homeIfNoPage_of_ne (by simp)]
      rw [screen_tick_of_browse_info hw.no_refresh (by rw [hb]) (by rw [e]; rfl), e]
      simp [specStep, pressOf, h4]

theorem tick_screensaver (hw : WellBehaved env s) (hs : s.layoutLast = .layoutScreensaver) :
    screenOf (layoutHomeInfo env s) = specStep .screensaver (inputOf env s) := by
  rw [layoutHomeInfo_of_running (by rw [refreshHome_of_false hw.no_refresh,
    browseInfo_of_other (by rw [hs]; decide) (by rw [hs]; decide), homeTimers_of_ne (by rw [hs]; decide)]),
    wakeOrCancel_of_saver hs]
  rcases buttons_single hw.single with hb | hb | hb | hb | hb <;>
    simp [screenOf, hs, hb, specStep, inputOf, pressOf, screen, Buttons.idle]

theorem tick_dialog (hw : WellBehaved env s) (h1 : s.layoutLast ≠ .layoutHome)
    (h2 : s.layoutLast ≠ .layoutDeviceInfo) (h3 : s.layoutLast ≠ .layoutScreensaver) :
    screenOf (layoutHomeInfo env s) = specStep .dialogActive (inputOf env s) := by
  rw [layoutHomeInfo_of_running (by rw [refreshHome_of_false hw.no_refresh, browseInfo_of_other h1 h2,
    homeTimers_of_ne h1])]
  cases hn : env.button.NoUp
  · rw [wakeOrCancel_of_no_cancel h3 hn]
    simp [screenOf, screen_of_dialog h1 h2 h3, specStep]
  · rw [wakeOrCancel_cancel h1 h3 hn]
    simp [screenOf, screen_of_dialog h1 h2 h3, specStep]

/-! ## Every tick of every run -/

/-- A tick the table describes, from a state with the invariant, moves the screen as the table
does. -/
theorem screen_tick (inv : NavInv s) (hw : WellBehaved env s) :
    screenOf (layoutHomeInfo env s) = specStep (screen s) (inputOf env s) := by
  by_cases h1 : s.layoutLast = .layoutHome
  · rw [screen_of_home h1]
    exact tick_home hw h1
  by_cases h2 : s.layoutLast = .layoutDeviceInfo
  · rw [show screen s = .infoPage s.info_page by simp [screen, h2]]
    exact tick_info hw h2 (inv.page_shown h2).1 inv.page_le
  by_cases h3 : s.layoutLast = .layoutScreensaver
  · rw [show screen s = .screensaver by simp [screen, h3]]
    exact tick_screensaver hw h3
  · rw [screen_of_dialog h1 h2 h3]
    exact tick_dialog hw h1 h2 h3

/-- **Refinement.** Along every run, a tick the design's table describes moves the screen as the
table does. -/
theorem tick_refines (env : Env) {s : NavContext} (hs : Reachable s) (hw : WellBehaved env s) :
    screenOf (layoutHomeInfo env s) = specStep (screen s) (inputOf env s) :=
  screen_tick (navInv_reachable hs) hw

/-- The down button released 5 s after boot. -/
def downAtBoot : Env :=
  ⟨5000, ⟨false, false, false, true⟩, false, fun _ _ => false, true, false, 600000⟩

theorem tick_refines_down :
    Reachable (NavContext.init 0) ∧ WellBehaved downAtBoot (NavContext.init 0) ∧
      screenOf (layoutHomeInfo downAtBoot (NavContext.init 0)) = .infoPage 1 := by
  have hw : WellBehaved downAtBoot (NavContext.init 0) :=
    ⟨by decide, rfl, fun _ _ => rfl, by decide, (fun h => by cases h),
      fun _ h => absurd h (by decide)⟩
  exact ⟨.init 0, hw, (tick_refines downAtBoot (.init 0) hw).trans rfl⟩

end BixinLayout.Nav
