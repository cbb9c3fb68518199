import BixinLayout.Nav.Phases

/-!
# The navigation invariant

`info_page` is a static of `layoutHomeInfo` that nothing else resets, and `layoutLast` is written
by every layout function. The two must agree: an info screen shows a page from 1 to
`DEVICE_INFO_PAGE_NUM`, the one the last `layoutDeviceInfo` call rendered. `NavInv` says so; it
holds at boot and is preserved by every tick and by every layout call of this file other than
`layoutDeviceInfo`, so it holds along every run.

At the end of every tick two timers are also fresh at the tick's own time: an info screen is
short of its 10 s timeout, and a home screen short of its auto-lock delay (`tick_end_invariant`).
-/

namespace BixinLayout.Nav

variable {env : Env} {s t u s' : NavContext}

/-! ## The page last rendered -/

/-- The page a `layoutDeviceInfo(ucPage)` call renders. -/
def Effect.infoPage? : Effect → Option Nat
  | .layoutDeviceInfo ucPage => some ucPage
  | _ => none

/-- The page of the most recent `layoutDeviceInfo` call of a trace. -/
def lastInfoPage (trace : List Effect) : Option Nat := trace.reverse.findSome? Effect.infoPage?

@[simp] theorem lastInfoPage_append (t fx : List Effect) :
    lastInfoPage (t ++ fx) = (lastInfoPage fx).or (lastInfoPage t) := by
  simp [lastInfoPage, List.findSome?_append]

@[simp] theorem lastInfoPage_layoutDeviceInfo (p : Nat) :
    lastInfoPage (layoutDeviceInfo env p s).trace = some p := by
  simp only [layoutDeviceInfo_trace, lastInfoPage_append]
  split <;> rfl

/-! ## The invariant -/

/-- What every state of a run satisfies. -/
structure NavInv (s : NavContext) : Prop where
  /-- `info_page` never passes the last page. -/
  page_le : s.info_page ≤ DEVICE_INFO_PAGE_NUM
  /-- An info screen shows a page, the one the last `layoutDeviceInfo` call rendered. -/
  page_shown : s.layoutLast = .layoutDeviceInfo →
    s.info_page ≠ 0 ∧ lastInfoPage s.trace = some s.info_page

theorem navInv_init (lockStart : UInt32) : NavInv (NavContext.init lockStart) :=
  ⟨Nat.zero_le _, fun h => by simp [NavContext.init] at h⟩

theorem navInv_layoutHome (h : NavInv s) : NavInv (layoutHome env s) :=
  ⟨h.page_le, fun h' => by simp at h'⟩

/-- Calls that render no info page keep the invariant. -/
theorem navInv_emit (h : NavInv s) {fx : List Effect} (hfx : lastInfoPage fx = none) :
    NavInv (s.emit fx) :=
  ⟨h.page_le, fun hi => by simpa [hfx] using h.page_shown hi⟩

theorem navInv_call (c : Call) (h : NavInv s) : NavInv (c.run env s) := by
  cases c
  case layoutHome => exact navInv_layoutHome h
  case layoutProgressSwipe =>
    show NavInv (layoutProgressSwipe s)
    unfold layoutProgressSwipe
    split
    · exact navInv_emit h rfl
    · exact ⟨h.page_le, fun h' => by simp at h'⟩
  all_goals exact ⟨h.page_le, fun h' => by
    simp [Call.run, layoutDialogSwipe, layoutResetWord, layoutAddress, layoutXPUB,
      addressScreen] at h'⟩

/-! ## Preserved by every tick -/

theorem navInv_browseInfo (h : NavInv s) : NavInv (browseInfo env s) := by
  rcases browseInfo_shape env s with ⟨e, -⟩ | ⟨p, hp1, hp, t, e⟩ | ⟨r, hr, e⟩ <;> rw [e]
  · exact h
  · have hp' : p ≤ DEVICE_INFO_PAGE_NUM := hp.trans (max_le h.page_le le_rfl)
    exact ⟨by simpa using hp', fun _ => by simp; omega⟩
  · exact ⟨by simp [hr], fun h' => by simp at h'⟩

theorem navInv_homeTimers (h : NavInv t) (e : homeTimers env t = .running u) : NavInv u :=
  ⟨homeTimers_info_page e ▸ h.page_le, fun hu => by
    obtain rfl := homeTimers_of_info e hu
    exact h.page_shown hu⟩

theorem navInv_wakeOrCancel (h : NavInv u) : NavInv (wakeOrCancel env u) := by
  rcases wakeOrCancel_shape env u with e | ⟨-, e⟩ | ⟨-, -, -, e⟩ <;> rw [e]
  · exact h
  · exact navInv_layoutHome h
  · exact navInv_emit h rfl

/-- **Preserved by every tick.** -/
theorem navInv_tick (h : NavInv s) (e : layoutHomeInfo env s = .running s') : NavInv s' := by
  obtain ⟨u, hu, rfl⟩ := layoutHomeInfo_running e
  have h₁ : NavInv (refreshHome env s) := by
    rcases refreshHome_shape env s with e | e <;> rw [e]
    exacts [navInv_layoutHome h, h]
  exact navInv_wakeOrCancel (navInv_homeTimers (navInv_browseInfo h₁) hu)

theorem navInv_reachable (h : Reachable s) : NavInv s := by
  induction h with
  | init l => exact navInv_init l
  | tick env _ e ih => exact navInv_tick ih e
  | call c env _ ih => exact navInv_call c ih

/-! ## The timers at the end of a tick -/

/-- The wake-or-cancel leaves an info screen's page and timer as they were. -/
theorem wakeOrCancel_of_info (hi : (wakeOrCancel env u).layoutLast = .layoutDeviceInfo) :
    u.layoutLast = .layoutDeviceInfo ∧
      (wakeOrCancel env u).system_millis_display_info_start = u.system_millis_display_info_start := by
  rcases wakeOrCancel_shape env u with e | ⟨-, e⟩ | ⟨-, -, -, e⟩ <;> rw [e] at hi ⊢
  · exact ⟨hi, rfl⟩
  · simp at hi
  · exact ⟨hi, rfl⟩

/-- An info screen at the end of a tick is short of its 10 s timeout. -/
theorem tick_info_fresh (e : layoutHomeInfo env s = .running s')
    (hi : s'.layoutLast = .layoutDeviceInfo) :
    env.now - s'.system_millis_display_info_start < 10 * 1000 := by
  obtain ⟨u, hu, rfl⟩ := layoutHomeInfo_running e
  obtain ⟨hi', hd⟩ := wakeOrCancel_of_info hi
  obtain rfl := homeTimers_of_info hu hi'
  rw [hd]
  exact (browseInfo_info_fresh hi').1

/-- A home screen at the end of a tick is short of its auto-lock delay. -/
theorem tick_home_fresh (hd : 0 < env.config_getAutoLockDelayMs)
    (e : layoutHomeInfo env s = .running s') (hh : s'.layoutLast = .layoutHome) :
    env.now - s'.system_millis_lock_start < env.config_getAutoLockDelayMs := by
  obtain ⟨u, hu, rfl⟩ := layoutHomeInfo_running e
  rcases wakeOrCancel_shape env u with w | ⟨-, w⟩ | ⟨hne, -, -, w⟩ <;> rw [w] at hh ⊢
  · exact (homeTimers_home_fresh hd hu hh).1
  · simp [hd]
  · exact absurd hh hne

/-- **The end of every tick.** Along every run, a tick that returns leaves `info_page` within the
pages; an info screen showing a page from 1 to `DEVICE_INFO_PAGE_NUM`, the one last rendered, short
of its 10 s timeout; and a home screen short of its auto-lock delay. -/
theorem tick_end_invariant (env : Env) {s s' : NavContext} (hs : Reachable s)
    (hd : 0 < env.config_getAutoLockDelayMs) (h : layoutHomeInfo env s = .running s') :
    s'.info_page ≤ DEVICE_INFO_PAGE_NUM ∧
    (s'.layoutLast = .layoutDeviceInfo →
      1 ≤ s'.info_page ∧ s'.info_page ≤ DEVICE_INFO_PAGE_NUM ∧
      lastInfoPage s'.trace = some s'.info_page ∧
      env.now - s'.system_millis_display_info_start < 10 * 1000) ∧
    (s'.layoutLast = .layoutHome →
      env.now - s'.system_millis_lock_start < env.config_getAutoLockDelayMs) := by
  have inv := navInv_tick (navInv_reachable hs) h
  refine ⟨inv.page_le, fun hi => ?_, tick_home_fresh hd h⟩
  obtain ⟨hp, hl⟩ := inv.page_shown hi
  exact ⟨Nat.one_le_iff_ne_zero.2 hp, inv.page_le, hl, tick_info_fresh h hi⟩

/-- The up button released 5 s after boot. -/
def upAtBoot : Env := ⟨5000, ⟨false, false, true, false⟩, false, fun _ _ => false, true, false, 600000⟩

theorem tick_end_invariant_up :
    Reachable (NavContext.init 0) ∧ 0 < upAtBoot.config_getAutoLockDelayMs ∧
      ∃ s', layoutHomeInfo upAtBoot (NavContext.init 0) = .running s' ∧
        s'.layoutLast = .layoutDeviceInfo ∧ 1 ≤ s'.info_page ∧
        s'.info_page ≤ DEVICE_INFO_PAGE_NUM ∧ lastInfoPage s'.trace = some s'.info_page := by
  have e : layoutHomeInfo upAtBoot (NavContext.init 0) = .running _ := rfl
  have hi := (tick_end_invariant upAtBoot (.init 0) (by decide) e).2.1 rfl
  exact ⟨.init 0, by decide, _, e, rfl, hi.1, hi.2.1, hi.2.2.1⟩

end BixinLayout.Nav
