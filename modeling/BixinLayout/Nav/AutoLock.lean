import BixinLayout.Nav.Runs

/-!
# The auto-lock over idle runs

`home_autolock` is about the tick at which the lock falls due. Here the device is left alone for
a whole run of ticks: no button edge, no refresh request, no status event.

**Home.** From the home screen, an idle run that reaches the auto-lock delay, counted from the
home screen's `system_millis_lock_start`, ends on the screensaver or powered off
(`idle_home_locks`): until the lock falls due each tick polls the status and keeps the home screen
and its timer, the first tick at which it is due locks, and the screensaver then stays up.

**Info pages.** From an info page, the ticks before its 10 s timeout leave the page up; the first
tick past it draws the home screen and re-arms the lock at that tick's clock. An idle run that
then reaches the auto-lock delay ends locked (`idle_info_locks`).
-/

namespace BixinLayout.Nav

variable {env : Env} {s : NavContext}

/-- A tick with nothing for the device to react to but its timers. -/
structure Idle (env : Env) : Prop where
  no_edge : env.button = .idle
  no_refresh : env.layoutNeedRefresh = false
  no_event : ∀ trace force_refresh, env.layoutStatusLogo trace force_refresh = false
  delay_pos : 0 < env.config_getAutoLockDelayMs

/-- The screen a run ends on is the screensaver, or the device is off. -/
def LockedOut (a : After) : Prop := screenOf a = .screensaver ∨ screenOf a = .locked

theorem runTicks_append (pre post : List Env) (s : NavContext) :
    runTicks (pre ++ post) s =
      match runTicks pre s with
      | .running s' => runTicks post s'
      | .poweredOff s' => .poweredOff s' := by
  induction pre generalizing s with
  | nil => rfl
  | cons env pre ih =>
    simp only [List.cons_append, runTicks]
    split
    · exact ih _
    · rfl

/-! ## One idle tick -/

/-- Without a status event the poll keeps the lock timer. -/
theorem statusPoll_lock_start_quiet
    (hq : ∀ trace force_refresh, env.layoutStatusLogo trace force_refresh = false) :
    (statusPoll env s).system_millis_lock_start = s.system_millis_lock_start := by
  rcases statusPoll_shape env s with ⟨-, e⟩ | ⟨-, -, e⟩ | ⟨-, h, -⟩
  · rw [e]
  · rw [e]; rfl
  · simp [hq] at h

/-- An idle tick on the home screen before the lock is due keeps the screen and its timer. -/
theorem idle_tick_home_wait (hi : Idle env) (hh : s.layoutLast = .layoutHome)
    (hl : env.now - s.system_millis_lock_start < env.config_getAutoLockDelayMs) :
    ∃ s', layoutHomeInfo env s = .running s' ∧ s'.layoutLast = .layoutHome ∧
      s'.system_millis_lock_start = s.system_millis_lock_start := by
  rw [layoutHomeInfo_quiet hi.no_edge hi.no_refresh, browseInfo_home_idle hi.no_edge hh,
    homeTimers_of_lt hh hl]
  exact ⟨_, rfl, (statusPoll_layoutLast_quiet hi.no_event).trans hh,
    statusPoll_lock_start_quiet hi.no_event⟩

/-- The idle tick at which the lock is due shows the screensaver or powers off. -/
theorem idle_tick_home_due (hi : Idle env) (hh : s.layoutLast = .layoutHome)
    (hl : env.config_getAutoLockDelayMs ≤ env.now - s.system_millis_lock_start) :
    (∃ s', layoutHomeInfo env s = .poweredOff s') ∨
      ∃ s', layoutHomeInfo env s = .running s' ∧ s'.layoutLast = .layoutScreensaver := by
  rw [layoutHomeInfo_quiet hi.no_edge hi.no_refresh, browseInfo_home_idle hi.no_edge hh]
  cases hn : env.sys_nfcState || env.sys_usbState
  · exact .inl ⟨_, homeTimers_shutdown hh hl hn⟩
  · exact .inr ⟨_, homeTimers_lock hh hl hn, statusPoll_layoutLast_quiet hi.no_event⟩

/-- An idle tick leaves the screensaver up. -/
theorem idle_tick_saver (hi : Idle env) (hs : s.layoutLast = .layoutScreensaver) :
    layoutHomeInfo env s = .running s := by
  have hb : browseInfo env s = s := browseInfo_of_other (by rw [hs]; decide) (by rw [hs]; decide)
  rw [layoutHomeInfo_quiet hi.no_edge hi.no_refresh, hb, homeTimers_of_ne (by rw [hs]; decide)]

/-- An idle tick before an info page's timeout leaves the page up. -/
theorem idle_tick_info_wait (hi : Idle env) (inv : NavInv s) (hs : s.layoutLast = .layoutDeviceInfo)
    (ht : env.now - s.system_millis_display_info_start < 10 * 1000) :
    layoutHomeInfo env s = .running s := by
  have hb : browseInfo env s = s := by
    rw [browseInfo_of_info hs, infoTimeout_of_lt ht, pageButtons_idle hi.no_edge,
      homeIfNoPage_of_ne (inv.page_shown hs).1]
  rw [layoutHomeInfo_quiet hi.no_edge hi.no_refresh, hb, homeTimers_of_ne (by simp [hs])]

/-- The idle tick at an info page's timeout draws the home screen and re-arms the lock. -/
theorem idle_tick_info_due (hi : Idle env) (hs : s.layoutLast = .layoutDeviceInfo)
    (ht : 10 * 1000 ≤ env.now - s.system_millis_display_info_start) :
    ∃ s', layoutHomeInfo env s = .running s' ∧ s'.layoutLast = .layoutHome ∧
      s'.system_millis_lock_start = env.now := by
  have hb : browseInfo env s = layoutHome env { s with info_page := 0 } := by
    rw [browseInfo_of_info hs, infoTimeout_of_le ht, pageButtons_idle hi.no_edge,
      homeIfNoPage_of_zero rfl]
  exact ⟨_, layoutHomeInfo_of_home hi.delay_pos (by rw [refreshHome_of_false hi.no_refresh, hb]),
    statusPoll_home env rfl rfl⟩

/-! ## Idle runs -/

theorem idle_saver_run (envs : List Env) (hi : ∀ env ∈ envs, Idle env)
    (hs : s.layoutLast = .layoutScreensaver) : runTicks envs s = .running s := by
  induction envs with
  | nil => rfl
  | cons env envs ih =>
    rw [runTicks, idle_tick_saver (hi env (List.mem_cons_self _ _)) hs]
    exact ih fun x hx => hi x (List.mem_cons_of_mem _ hx)

theorem idle_info_run (envs : List Env) (hi : ∀ env ∈ envs, Idle env) (inv : NavInv s)
    (hs : s.layoutLast = .layoutDeviceInfo)
    (ht : ∀ env ∈ envs, env.now - s.system_millis_display_info_start < 10 * 1000) :
    runTicks envs s = .running s := by
  induction envs with
  | nil => rfl
  | cons env envs ih =>
    rw [runTicks, idle_tick_info_wait (hi env (List.mem_cons_self _ _)) inv hs
      (ht env (List.mem_cons_self _ _))]
    exact ih (fun x hx => hi x (List.mem_cons_of_mem _ hx))
      fun x hx => ht x (List.mem_cons_of_mem _ hx)

/-- An idle run from the home screen ends locked out, or it never reached the lock: then it is
still on the home screen with the lock timer it started with. -/
theorem idle_home_cases (envs : List Env) (hi : ∀ env ∈ envs, Idle env)
    (hh : s.layoutLast = .layoutHome) :
    LockedOut (runTicks envs s) ∨
      ∃ s', runTicks envs s = .running s' ∧ s'.layoutLast = .layoutHome ∧
        s'.system_millis_lock_start = s.system_millis_lock_start ∧
        ∀ env ∈ envs, env.now - s.system_millis_lock_start < env.config_getAutoLockDelayMs := by
  induction envs generalizing s with
  | nil => exact .inr ⟨s, rfl, hh, rfl, by simp⟩
  | cons env envs ih =>
    have hie := hi env (List.mem_cons_self _ _)
    have hrest : ∀ x ∈ envs, Idle x := fun x hx => hi x (List.mem_cons_of_mem _ hx)
    by_cases hl : env.config_getAutoLockDelayMs ≤ env.now - s.system_millis_lock_start
    · -- the lock falls due at this tick
      left
      rcases idle_tick_home_due hie hh hl with ⟨s', e⟩ | ⟨s', e, hs'⟩ <;> simp only [runTicks, e]
      · exact .inr rfl
      · rw [idle_saver_run envs hrest hs']
        exact .inl (by simp [screenOf, screen, hs'])
    · -- not yet: the tick keeps the home screen and its timer
      obtain ⟨s', e, hh', hl'⟩ := idle_tick_home_wait hie hh (UInt32.not_le.1 hl)
      simp only [runTicks, e]
      refine (ih hrest hh').imp id fun ⟨t, et, ht, htl, hw⟩ => ⟨t, et, ht, htl.trans hl', ?_⟩
      intro x hx
      rcases List.mem_cons.1 hx with rfl | hx
      exacts [UInt32.not_le.1 hl, hl' ▸ hw x hx]

/-- **Home.** From the home screen, every idle run that reaches the auto-lock delay, counted from
the home screen's lock timer, ends on the screensaver or with the device off. -/
theorem idle_home_locks (envs : List Env) (s : NavContext) (hh : s.layoutLast = .layoutHome)
    (hi : ∀ env ∈ envs, Idle env)
    (hdue : ∃ env ∈ envs, env.config_getAutoLockDelayMs ≤ env.now - s.system_millis_lock_start) :
    LockedOut (runTicks envs s) := by
  obtain ⟨x, hx, hdx⟩ := hdue
  exact (idle_home_cases envs hi hh).resolve_right
    fun ⟨_, _, _, _, hw⟩ => UInt32.not_le.2 (hw x hx) hdx

/-- A tick at `now` with nothing to react to, NFC up and a 10 min auto-lock. -/
def quietAt (now : UInt32) : Env := ⟨now, .idle, false, fun _ _ => false, true, false, 600000⟩

theorem idle_quietAt (now : UInt32) : Idle (quietAt now) :=
  ⟨rfl, rfl, fun _ _ => rfl, show (0 : UInt32) < 600000 by decide⟩

theorem idle_home_locks_at_boot :
    (NavContext.init 0).layoutLast = .layoutHome ∧
      (∀ env ∈ [quietAt 5000, quietAt 600000, quietAt 601000], Idle env) ∧
      (∃ env ∈ [quietAt 5000, quietAt 600000, quietAt 601000],
        env.config_getAutoLockDelayMs ≤ env.now - (NavContext.init 0).system_millis_lock_start) ∧
      LockedOut (runTicks [quietAt 5000, quietAt 600000, quietAt 601000] (NavContext.init 0)) := by
  have hi : ∀ env ∈ [quietAt 5000, quietAt 600000, quietAt 601000], Idle env := by
    simp only [List.mem_cons, List.mem_singleton, List.not_mem_nil, or_false]
    rintro _ (rfl | rfl | rfl) <;> exact idle_quietAt _
  have hdue : ∃ env ∈ [quietAt 5000, quietAt 600000, quietAt 601000],
      env.config_getAutoLockDelayMs ≤ env.now - (NavContext.init 0).system_millis_lock_start :=
    ⟨quietAt 600000, by simp, by decide⟩
  exact ⟨rfl, hi, hdue, idle_home_locks _ (.init 0) rfl hi hdue⟩

/-- **Info pages.** From an info page, an idle run whose tick `e` is the first one 10 s past the
page's start, and which afterwards reaches the auto-lock delay counted from `e`, ends on the
screensaver or with the device off. -/
theorem idle_info_locks (pre post : List Env) (e : Env) {s : NavContext} (hs : Reachable s)
    (hinfo : s.layoutLast = .layoutDeviceInfo) (hi : ∀ env ∈ pre ++ e :: post, Idle env)
    (hpre : ∀ env ∈ pre, env.now - s.system_millis_display_info_start < 10 * 1000)
    (he : 10 * 1000 ≤ e.now - s.system_millis_display_info_start)
    (hpost : ∃ env ∈ post, env.config_getAutoLockDelayMs ≤ env.now - e.now) :
    LockedOut (runTicks (pre ++ e :: post) s) := by
  have inv := navInv_reachable hs
  have hie : Idle e := hi e (List.mem_append_right _ (List.mem_cons_self _ _))
  obtain ⟨s', et, hh, hl⟩ := idle_tick_info_due hie hinfo he
  rw [runTicks_append, idle_info_run pre (fun x hx => hi x (List.mem_append_left _ hx)) inv hinfo
    hpre]
  simp only [runTicks, et]
  obtain ⟨x, hx, hdx⟩ := hpost
  exact (idle_home_cases post (fun x hx => hi x (List.mem_append_right _ (List.mem_cons_of_mem _ hx)))
    hh).resolve_right fun ⟨_, _, _, _, hw⟩ => UInt32.not_le.2 (hw x hx) (hl ▸ hdx)

/-- Down released 5 s after boot. -/
def downAt5s : Env := ⟨5000, ⟨false, false, false, true⟩, false, fun _ _ => false, true, false, 600000⟩

/-- Info page 1, as that edge leaves it. -/
def pageOne : NavContext := ⟨.layoutDeviceInfo, 1, 0, 5000, 0, [.layoutDeviceInfo 1, .oledClear, .oledRefresh]⟩

theorem idle_info_locks_page_one :
    Reachable pageOne ∧ pageOne.layoutLast = .layoutDeviceInfo ∧
      (∀ env ∈ [quietAt 10000] ++ quietAt 15000 :: [quietAt 100000, quietAt 615000], Idle env) ∧
      (∀ env ∈ [quietAt 10000],
        env.now - pageOne.system_millis_display_info_start < 10 * 1000) ∧
      10 * 1000 ≤ (quietAt 15000).now - pageOne.system_millis_display_info_start ∧
      (∃ env ∈ [quietAt 100000, quietAt 615000],
        env.config_getAutoLockDelayMs ≤ env.now - (quietAt 15000).now) ∧
      LockedOut (runTicks ([quietAt 10000] ++ quietAt 15000 :: [quietAt 100000, quietAt 615000])
        pageOne) := by
  have hs : Reachable pageOne := .tick downAt5s (.init 0) rfl
  have hi : ∀ env ∈ [quietAt 10000] ++ quietAt 15000 :: [quietAt 100000, quietAt 615000],
      Idle env := by
    simp only [List.singleton_append, List.mem_cons, List.mem_singleton, List.not_mem_nil,
      or_false]
    rintro _ (rfl | rfl | rfl | rfl) <;> exact idle_quietAt _
  have hpre : ∀ env ∈ [quietAt 10000],
      env.now - pageOne.system_millis_display_info_start < 10 * 1000 := by
    simp only [List.mem_singleton, forall_eq]; decide
  have he : 10 * 1000 ≤ (quietAt 15000).now - pageOne.system_millis_display_info_start := by decide
  have hpost : ∃ env ∈ [quietAt 100000, quietAt 615000],
      env.config_getAutoLockDelayMs ≤ env.now - (quietAt 15000).now :=
    ⟨quietAt 615000, by simp, by decide⟩
  exact ⟨hs, rfl, hi, hpre, he, hpost, idle_info_locks _ _ _ hs rfl hi hpre he hpost⟩

end BixinLayout.Nav
