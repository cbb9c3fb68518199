import BixinLayout.Nav.Effects

/-!
# What one tick does

Three results about a single tick of `layoutHomeInfo`, each derived from the equation and shape
lemmas of its phases.

* A cancel on a dialog, with no refresh request pending, aborts signing and recovery once each
  and changes nothing else (`cancel_aborts`). A pending refresh request re-renders the home
  screen first, and the cancel is then read on the home screen: with no Up or Down edge and no
  status event, the tick ends there and makes only calm calls.
* The auto-lock of an idle home screen (`home_autolock`): without a refresh request it clears
  the session and shows the screensaver, or powers off when neither NFC nor USB is up; a status
  event reported by the poll after the lock aborts, clears the session again and puts the home
  screen back. A refresh request re-arms the lock timer first, so the lock waits for the next
  tick.
* A quiet tick repeated at the same instant does nothing at all (`quiet_tick_idempotent`).
-/

namespace BixinLayout.Nav

/-! ## A cancel on a dialog -/

/-- A cancel edge on any screen other than home, screensaver or the info pages, with no refresh
request pending, aborts recovery and signing once each and changes nothing else. With a refresh
request, no Up or Down edge, no status event and a positive auto-lock delay, the tick ends on the
home screen and makes only calm calls: no abort, no `session_clear(true)`, no `shutdown()`. -/
theorem cancel_aborts (env : Env) (s : NavContext) (hhome : s.layoutLast ≠ .layoutHome)
    (hsaver : s.layoutLast ≠ .layoutScreensaver) (hinfo : s.layoutLast ≠ .layoutDeviceInfo)
    (hno : env.button.NoUp = true) :
    (env.layoutNeedRefresh = false →
      layoutHomeInfo env s = .running (s.emit [.recovery_abort, .signing_abort])) ∧
    (env.layoutNeedRefresh = true → (env.button.UpUp || env.button.DownUp) = false →
      NoEvent env → 0 < env.config_getAutoLockDelayMs →
      ∃ s', layoutHomeInfo env s = .running s' ∧ s'.layoutLast = .layoutHome ∧ CalmStep s s') := by
  refine ⟨fun hr => ?_, fun hr he hq hd => ?_⟩
  · rw [layoutHomeInfo_of_running (by rw [refreshHome_of_false hr, browseInfo_of_other hhome hinfo,
      homeTimers_of_ne hhome]), wakeOrCancel_cancel hhome hsaver hno]
  · -- the refresh puts the home screen up, and the cancel is read there
    exact ⟨_, layoutHomeInfo_of_home hd (by rw [refreshHome_of_true hr, browseInfo_of_home rfl he]),
      (statusPoll_home env rfl rfl).1, (calmStep_layoutHome hq).trans (calmStep_statusPoll hq)⟩

/-- A cancel edge 5 s after boot, with no refresh request. -/
def cancelAtBoot : Env :=
  ⟨5000, ⟨true, false, false, false⟩, false, fun _ _ => false, true, false, 600000⟩

/-- The same cancel with a refresh request pending. -/
def cancelWithRefresh : Env := { cancelAtBoot with layoutNeedRefresh := true }

theorem cancel_aborts_on_dialog :
    (layoutDialogSwipe (NavContext.init 0)).layoutLast ≠ .layoutHome ∧
      (layoutDialogSwipe (NavContext.init 0)).layoutLast ≠ .layoutScreensaver ∧
      (layoutDialogSwipe (NavContext.init 0)).layoutLast ≠ .layoutDeviceInfo ∧
      layoutHomeInfo cancelAtBoot (layoutDialogSwipe (NavContext.init 0)) =
        .running ⟨.layoutDialogSwipe, 0, 0, 0, 0,
          [.layoutSwipe, .recovery_abort, .signing_abort]⟩ ∧
      ∃ s', layoutHomeInfo cancelWithRefresh (layoutDialogSwipe (NavContext.init 0)) = .running s' ∧
        s'.layoutLast = .layoutHome ∧ CalmStep (layoutDialogSwipe (NavContext.init 0)) s' :=
  ⟨by decide, by decide, by decide,
    (cancel_aborts cancelAtBoot _ (by decide) (by decide) (by decide) rfl).1 rfl,
    (cancel_aborts cancelWithRefresh _ (by decide) (by decide) (by decide) rfl).2 rfl rfl
      (fun _ _ => rfl) (by decide)⟩

/-- With a refresh request pending, a cancel on a dialog aborts nothing: the refresh has put the
home screen up before the cancel is read. -/
theorem cancel_under_refresh :
    Reachable (layoutDialogSwipe (NavContext.init 0)) ∧
      ∃ s', layoutHomeInfo cancelWithRefresh (layoutDialogSwipe (NavContext.init 0)) = .running s' ∧
        s'.layoutLast = .layoutHome ∧ Effect.recovery_abort ∉ s'.trace ∧
        Effect.signing_abort ∉ s'.trace :=
  ⟨.call .layoutDialogSwipe cancelWithRefresh (.init 0), _, rfl, rfl, by decide, by decide⟩

/-! ## The auto-lock -/

/-- The calls of the lock: `session_clear(true)`, then the screensaver. -/
def lockCalls : List Effect := [.session_clear true, .layoutScreensaver, .oledClear, .oledRefresh]

/-- **Auto-lock of an idle home screen.** Without a refresh request, the lock clears the session
and shows the screensaver when NFC or USB is up, and otherwise calls `shutdown()` and nothing
else. With NFC or USB up, when the status poll of the same tick reports no event, the session is
cleared exactly once and the screensaver stays up; when the poll reports one, it aborts, clears
the session a second time and puts the home screen back, with the lock re-armed. A refresh request
re-arms the lock timer, and the tick ends on the home screen. -/
theorem home_autolock (env : Env) (s : NavContext) (hhome : s.layoutLast = .layoutHome)
    (hb : env.button = .idle) (hd : 0 < env.config_getAutoLockDelayMs)
    (hdue : env.config_getAutoLockDelayMs ≤ env.now - s.system_millis_lock_start) :
    (env.layoutNeedRefresh = false → (env.sys_nfcState || env.sys_usbState) = false →
      layoutHomeInfo env s = .poweredOff (s.emit [.shutdown])) ∧
    (env.layoutNeedRefresh = false → (env.sys_nfcState || env.sys_usbState) = true →
      ∃ s', layoutHomeInfo env s = .running s' ∧
        s.trace ++ [.session_clear true, .layoutScreensaver] <+: s'.trace ∧
        (env.now - s.system_millis_logo_refresh < 1000 ∨
            env.layoutStatusLogo (s.trace ++ lockCalls) false = false →
          s'.layoutLast = .layoutScreensaver ∧
          s'.trace = s.trace ++ lockCalls ++
            (if 1000 ≤ env.now - s.system_millis_logo_refresh then [.layoutStatusLogo false]
              else [])) ∧
        (1000 ≤ env.now - s.system_millis_logo_refresh →
            env.layoutStatusLogo (s.trace ++ lockCalls) false = true →
          s'.layoutLast = .layoutHome ∧ s'.system_millis_lock_start = env.now ∧
          s.trace ++ lockCalls ++ [.layoutStatusLogo false, .recovery_abort, .signing_abort,
            .session_clear true, .layoutHome] <+: s'.trace)) ∧
    (env.layoutNeedRefresh = true →
      ∃ s', layoutHomeInfo env s = .running s' ∧ s'.layoutLast = .layoutHome ∧
        s'.system_millis_lock_start = env.now) := by
  refine ⟨fun hr hoff => ?_, fun hr hon => ?_, fun hr => ?_⟩
  · rw [layoutHomeInfo_quiet hb hr, browseInfo_home_idle hb hhome, homeTimers_shutdown hhome hdue hoff]
  · -- the lock, then the status poll on the screensaver
    let t := layoutScreensaver (s.emit [.session_clear true])
    have ht : t.trace = s.trace ++ lockCalls := by simp [t, lockCalls]
    refine ⟨statusPoll env t, by rw [layoutHomeInfo_quiet hb hr, browseInfo_home_idle hb hhome,
      homeTimers_lock hhome hdue hon], ?_⟩
    have hpre : s.trace ++ [.session_clear true, .layoutScreensaver] <+: (statusPoll env t).trace :=
      (ht ▸ ⟨[.oledClear, .oledRefresh], by simp [lockCalls]⟩ : _ <+: t.trace).trans
        statusPoll_trace_prefix
    have hl : t.system_millis_logo_refresh = s.system_millis_logo_refresh := rfl
    rcases statusPoll_shape env t with ⟨hp, e⟩ | ⟨hp, hq, e⟩ | ⟨hp, hq, e⟩ <;> rw [hl] at hp <;>
      rw [e] <;> refine ⟨e ▸ hpre, fun hc => ?_, fun hp' hq' => ?_⟩
    · -- the poll is not due
      exact ⟨rfl, by simp [ht, UInt32.not_le.2 hp]⟩
    · exact absurd hp' (UInt32.not_le.2 hp)
    · -- the poll reports no event
      exact ⟨rfl, by simp [ht, hp]⟩
    · rw [ht] at hq
      simp [hq] at hq'
    · rw [ht] at hq
      rcases hc with hc | hc
      exacts [absurd hp (UInt32.not_le.2 hc), by simp [hq] at hc]
    · -- the status event: abort, clear again, and the home screen
      refine ⟨rfl, rfl, ?_⟩
      simp [layoutHome, ht, statusAbort, lockCalls]
  · -- the refresh re-arms the lock before the home-screen block reads it
    exact ⟨_, layoutHomeInfo_of_home hd (by rw [refreshHome_of_true hr, browseInfo_home_idle hb rfl]),
      statusPoll_home env rfl rfl⟩

/-- A tick 600 s after boot, when the auto-lock of 600 s is due, with NFC up and nothing else. -/
def lockAtBoot : Env := ⟨600000, Buttons.idle, false, fun _ _ => false, true, false, 600000⟩

/-- The same tick with the status poll reporting an event. -/
def lockWithStatusEvent : Env := { lockAtBoot with layoutStatusLogo := fun _ force => !force }

theorem home_autolock_at_boot :
    (NavContext.init 0).layoutLast = .layoutHome ∧ lockAtBoot.button = .idle ∧
      0 < lockAtBoot.config_getAutoLockDelayMs ∧
      lockAtBoot.config_getAutoLockDelayMs ≤
        lockAtBoot.now - (NavContext.init 0).system_millis_lock_start ∧
      (∃ s', layoutHomeInfo lockAtBoot (NavContext.init 0) = .running s' ∧
        s'.layoutLast = .layoutScreensaver ∧
        s'.trace = [.session_clear true, .layoutScreensaver, .oledClear, .oledRefresh,
          .layoutStatusLogo false]) ∧
      ∃ s', layoutHomeInfo lockWithStatusEvent (NavContext.init 0) = .running s' ∧
        s'.layoutLast = .layoutHome ∧ s'.system_millis_lock_start = 600000 := by
  obtain ⟨-, hlock, -⟩ := home_autolock lockAtBoot (.init 0) rfl rfl (by decide) (by decide)
  obtain ⟨s', e, -, hq, -⟩ := hlock rfl rfl
  obtain ⟨-, hevent, -⟩ := home_autolock lockWithStatusEvent (.init 0) rfl rfl (by decide) (by decide)
  obtain ⟨t', e', -, -, ht⟩ := hevent rfl rfl
  exact ⟨rfl, rfl, by decide, by decide,
    ⟨s', e, (hq (.inr rfl)).1, (hq (.inr rfl)).2.trans (by decide)⟩,
    t', e', (ht (by decide) rfl).1, (ht (by decide) rfl).2.1⟩

/-- The same tick with a refresh request pending. -/
def lockWithRefresh : Env := { lockAtBoot with layoutNeedRefresh := true }

/-- On the boot screen with the lock due, a refresh request postpones the lock to a later tick,
and a status event reported by the poll after the lock clears the session a second time and
puts the home screen back up. -/
theorem home_autolock_postponed :
    Reachable (NavContext.init 0) ∧
      (∃ s', layoutHomeInfo lockWithRefresh (NavContext.init 0) = .running s' ∧
        s'.layoutLast = .layoutHome ∧ Effect.session_clear true ∉ s'.trace) ∧
      (∃ s', layoutHomeInfo lockWithStatusEvent (NavContext.init 0) = .running s' ∧
        s'.layoutLast = .layoutHome ∧ s'.trace.count (.session_clear true) = 2) :=
  ⟨.init 0, ⟨_, rfl, rfl, by decide⟩, ⟨_, rfl, rfl, by decide⟩⟩

/-! ## A quiet tick repeated -/

variable {env : Env} {s s' : NavContext} {d : UInt32}

/-- Nothing is due at `now` with auto-lock delay `d`: neither the lock nor the status poll of a
home screen, nor the timeout of an info screen, which shows a page. -/
structure Settled (now d : UInt32) (s : NavContext) : Prop where
  home : s.layoutLast = .layoutHome →
    now - s.system_millis_lock_start < d ∧ now - s.system_millis_logo_refresh < 1000
  info : s.layoutLast = .layoutDeviceInfo →
    now - s.system_millis_display_info_start < 10 * 1000 ∧ s.info_page ≠ 0

/-- A quiet tick that returns leaves nothing due at its own time. -/
theorem quiet_tick_settled (hb : env.button = .idle) (hr : env.layoutNeedRefresh = false)
    (hd : 0 < env.config_getAutoLockDelayMs) (h : layoutHomeInfo env s = .running s') :
    Settled env.now env.config_getAutoLockDelayMs s' := by
  rw [layoutHomeInfo_quiet hb hr] at h
  refine ⟨homeTimers_home_fresh hd h, fun hi => ?_⟩
  obtain rfl := homeTimers_of_info h hi
  exact browseInfo_info_fresh hi

theorem browseInfo_settled (hb : env.button = .idle) (hs : Settled env.now d s) :
    browseInfo env s = s := by
  by_cases hi : s.layoutLast = .layoutDeviceInfo
  · have ⟨hf, hp⟩ := hs.info hi
    rw [browseInfo_of_info hi, infoTimeout_of_lt hf, pageButtons_idle hb, homeIfNoPage_of_ne hp]
  · by_cases hh : s.layoutLast = .layoutHome
    · exact browseInfo_home_idle hb hh
    · exact browseInfo_of_other hh hi

theorem homeTimers_settled (hs : Settled env.now env.config_getAutoLockDelayMs s) :
    homeTimers env s = .running s := by
  by_cases hh : s.layoutLast = .layoutHome
  · rw [homeTimers_of_lt hh (hs.home hh).1, statusPoll_of_lt (hs.home hh).2]
  · exact homeTimers_of_ne hh

/-- A quiet tick with nothing due does nothing. -/
theorem tick_of_settled (hb : env.button = .idle) (hr : env.layoutNeedRefresh = false)
    (hs : Settled env.now env.config_getAutoLockDelayMs s) : layoutHomeInfo env s = .running s := by
  rw [layoutHomeInfo_quiet hb hr, browseInfo_settled hb hs, homeTimers_settled hs]

/-- **A quiet tick repeated at the same time does nothing.** After a tick with no button edge
and no refresh request, a second such tick at the same time and with the same auto-lock delay,
whatever its oracles answer, calls nothing and leaves the state as it is. -/
theorem quiet_tick_idempotent (env env' : Env) (s s' : NavContext) (hb : env.button = .idle)
    (hr : env.layoutNeedRefresh = false) (hd : 0 < env.config_getAutoLockDelayMs)
    (hb' : env'.button = .idle) (hr' : env'.layoutNeedRefresh = false) (hnow : env'.now = env.now)
    (hdelay : env'.config_getAutoLockDelayMs = env.config_getAutoLockDelayMs)
    (h : layoutHomeInfo env s = .running s') : layoutHomeInfo env' s' = .running s' := by
  have hs := quiet_tick_settled hb hr hd h
  rw [← hnow, ← hdelay] at hs
  exact tick_of_settled hb' hr' hs

/-- A quiet tick 5 s after boot, when only the status poll is due. -/
def quietAtBoot : Env := ⟨5000, Buttons.idle, false, fun _ _ => false, true, false, 600000⟩

theorem quiet_tick_idempotent_at_boot :
    layoutHomeInfo quietAtBoot (NavContext.init 0) =
        .running ⟨.layoutHome, 0, 0, 0, 5000, [.layoutStatusLogo false]⟩ ∧
      layoutHomeInfo quietAtBoot ⟨.layoutHome, 0, 0, 0, 5000, [.layoutStatusLogo false]⟩ =
        .running ⟨.layoutHome, 0, 0, 0, 5000, [.layoutStatusLogo false]⟩ :=
  ⟨rfl, quiet_tick_idempotent quietAtBoot quietAtBoot (.init 0) _ rfl rfl (by decide) rfl rfl rfl rfl rfl⟩

end BixinLayout.Nav
