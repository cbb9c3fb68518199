import BixinLayout.Nav.Phases

/-!
# What a tick may end

Four calls of `layoutHomeInfo` end work in progress: `recovery_abort()`, `signing_abort()`,
`session_clear(true)` and `shutdown()`. A status event reported by `layoutStatusLogo` makes the
first three from any screen. Without one, a tick makes them only as the user or the lock asks
(`tick_ends_work`):

* an abort only in a tick with a Cancel edge;
* `session_clear(true)` exactly when the lock of the home screen falls due in a tick with no
  refresh request and no Up or Down edge, with NFC or USB up;
* `shutdown()` exactly when the same lock falls due with neither up.

Every other phase appends only calm calls (`Calm`), and a calm step composes (`CalmStep.trans`).
-/

namespace BixinLayout.Nav

variable {env : Env} {s t u : NavContext}

/-- The status poll reports no event, whatever was called before. -/
def NoEvent (env : Env) : Prop := ∀ trace force_refresh, env.layoutStatusLogo trace force_refresh = false

theorem NoEvent.eq (hq : NoEvent env) (trace : List Effect) (force_refresh : Bool) :
    env.layoutStatusLogo trace force_refresh = false := hq trace force_refresh

/-- Calls that end no work. -/
def Calm (fx : List Effect) : Prop :=
  Effect.recovery_abort ∉ fx ∧ Effect.signing_abort ∉ fx ∧ Effect.session_clear true ∉ fx ∧
    Effect.shutdown ∉ fx

/-- `s'` is `s` after calm calls. -/
def CalmStep (s s' : NavContext) : Prop := ∃ fx, s'.trace = s.trace ++ fx ∧ Calm fx

theorem Calm.append {fx gx : List Effect} (h₁ : Calm fx) (h₂ : Calm gx) : Calm (fx ++ gx) := by
  simp only [Calm, List.mem_append, not_or] at *
  exact ⟨⟨h₁.1, h₂.1⟩, ⟨h₁.2.1, h₂.2.1⟩, ⟨h₁.2.2.1, h₂.2.2.1⟩, ⟨h₁.2.2.2, h₂.2.2.2⟩⟩

theorem CalmStep.refl : CalmStep s s := ⟨[], (List.append_nil _).symm, by simp [Calm]⟩

theorem CalmStep.trans (h₁ : CalmStep s t) (h₂ : CalmStep t u) : CalmStep s u :=
  let ⟨fx, e₁, c₁⟩ := h₁; let ⟨gx, e₂, c₂⟩ := h₂
  ⟨fx ++ gx, by rw [e₂, e₁, List.append_assoc], c₁.append c₂⟩

/-! ## The calm phases -/

theorem calmStep_info_page (p : Nat) : CalmStep s { s with info_page := p } := CalmStep.refl

theorem calmStep_layoutHome (hq : NoEvent env) : CalmStep s (layoutHome env s) :=
  ⟨_, by simp only [layoutHome, List.append_assoc]; rfl, by
    simp only [Calm, hq.eq, Bool.false_eq_true, if_false, List.append_nil]; split_ifs <;> simp⟩

theorem calmStep_layoutDeviceInfo (p : Nat) : CalmStep s (layoutDeviceInfo env p s) :=
  ⟨_, rfl, by simp only [Calm]; split_ifs <;> simp⟩

theorem calmStep_refreshHome (hq : NoEvent env) : CalmStep s (refreshHome env s) := by
  rcases refreshHome_shape env s with e | e <;> rw [e]
  exacts [calmStep_layoutHome hq, .refl]

theorem calmStep_browseInfo (hq : NoEvent env) : CalmStep s (browseInfo env s) :=
  browseInfo_induct (fun _ => .refl) (·.trans ·) (fun _ => calmStep_layoutHome hq)
    (fun _ p q => (calmStep_info_page q).trans (calmStep_layoutDeviceInfo p))
    (fun _ => calmStep_info_page 0) s

theorem calmStep_statusPoll (hq : NoEvent env) : CalmStep s (statusPoll env s) := by
  rcases statusPoll_shape env s with ⟨-, e⟩ | ⟨-, -, e⟩ | ⟨-, h, -⟩
  · rw [e]; exact .refl
  · rw [e]; exact ⟨[.layoutStatusLogo false], rfl, by simp [Calm]⟩
  · simp [hq.eq] at h

/-! ## The phases that end work -/

/-- The lock of the home screen falls due in this tick, and the tick reaches it: no refresh request,
which would re-arm it, and no Up or Down edge, which would leave the home screen first. -/
def LockDue (env : Env) (s : NavContext) : Prop :=
  env.layoutNeedRefresh = false ∧ s.layoutLast = .layoutHome ∧
    (env.button.UpUp || env.button.DownUp) = false ∧
    env.config_getAutoLockDelayMs ≤ env.now - s.system_millis_lock_start

/-- The home-screen block aborts nothing; it clears the session or shuts down exactly when the
lock of a home screen falls due, with NFC or USB up or not. -/
theorem homeTimers_effects (hq : NoEvent env) (t : NavContext) :
    ∃ hx, (homeTimers env t).state.trace = t.trace ++ hx ∧
      Effect.recovery_abort ∉ hx ∧ Effect.signing_abort ∉ hx ∧
      (Effect.session_clear true ∈ hx ↔ t.layoutLast = .layoutHome ∧
        env.config_getAutoLockDelayMs ≤ env.now - t.system_millis_lock_start ∧
        (env.sys_nfcState || env.sys_usbState) = true) ∧
      (Effect.shutdown ∈ hx ↔ t.layoutLast = .layoutHome ∧
        env.config_getAutoLockDelayMs ≤ env.now - t.system_millis_lock_start ∧
        (env.sys_nfcState || env.sys_usbState) = false) := by
  rcases homeTimers_cases env t with ⟨hh, e⟩ | ⟨hh, hl, e⟩ | ⟨hh, hl, ht, e⟩ | ⟨hh, hl, ht, e⟩ <;>
    rw [e]
  · exact ⟨[], (List.append_nil _).symm, by simp [hh]⟩
  · obtain ⟨px, ep, cp⟩ := calmStep_statusPoll hq (s := t)
    refine ⟨px, ep, cp.1, cp.2.1, ?_, ?_⟩ <;> simp [cp.2.2.1, cp.2.2.2, UInt32.not_le.2 hl]
  · -- the lock
    obtain ⟨px, ep, cp⟩ := calmStep_statusPoll hq (s := layoutScreensaver (t.emit [.session_clear true]))
    refine ⟨[.session_clear true, .layoutScreensaver, .oledClear, .oledRefresh] ++ px,
      by simp [After.state, ep], ?_⟩
    simp [cp.1, cp.2.1, cp.2.2.2, hh, hl, ht]
  · -- the shutdown
    refine ⟨[.shutdown], rfl, ?_⟩
    simp [hh, hl, ht]

/-- The wake or the cancel clears nothing, and aborts only on a Cancel edge. -/
theorem wakeOrCancel_effects (hq : NoEvent env) (u : NavContext) :
    ∃ gx, (wakeOrCancel env u).trace = u.trace ++ gx ∧
      Effect.session_clear true ∉ gx ∧ Effect.shutdown ∉ gx ∧
      (Effect.recovery_abort ∈ gx ∨ Effect.signing_abort ∈ gx → env.button.NoUp = true) := by
  rcases wakeOrCancel_shape env u with e | ⟨-, e⟩ | ⟨-, -, hn, e⟩ <;> rw [e]
  · exact ⟨[], (List.append_nil _).symm, by simp, by simp, by simp⟩
  · obtain ⟨gx, e, c⟩ := calmStep_layoutHome hq (s := u)
    exact ⟨gx, e, c.2.2.1, c.2.2.2, fun h => h.elim (absurd · c.1) (absurd · c.2.1)⟩
  · exact ⟨[.recovery_abort, .signing_abort], rfl, by simp, by simp, fun _ => hn⟩

/-- When the lock falls due in a tick that reaches it, the info-page branch leaves the state as it
is; and a home screen left by the branch with its lock due is such a tick's. -/
theorem browseInfo_lockDue (hd : 0 < env.config_getAutoLockDelayMs) :
    LockDue env s ↔ (browseInfo env (refreshHome env s)).layoutLast = .layoutHome ∧
      env.config_getAutoLockDelayMs ≤
        env.now - (browseInfo env (refreshHome env s)).system_millis_lock_start := by
  have hnow : ¬env.config_getAutoLockDelayMs ≤ env.now - env.now := by simpa using hd
  constructor
  · rintro ⟨hr, hh, hud, hl⟩
    rw [refreshHome_of_false hr, browseInfo_of_home hh hud]
    exact ⟨hh, hl⟩
  · rintro ⟨hh, hl⟩
    cases hr : env.layoutNeedRefresh
    · rw [refreshHome_of_false hr] at hh hl
      rcases browseInfo_shape env s with ⟨e, -⟩ | ⟨p, -, -, t, e⟩ | ⟨r, -, e⟩ <;> rw [e] at hh hl
      · refine ⟨hr, hh, ?_, hl⟩
        cases hud : (env.button.UpUp || env.button.DownUp)
        · rfl
        · have := congrArg NavContext.layoutLast ((browseInfo_of_home_edge hh hud).symm.trans e)
          simp [hh] at this
      · simp at hh
      · exact absurd hl hnow
    · rw [refreshHome_of_true hr] at hh hl
      rcases browseInfo_shape env (layoutHome env s) with ⟨e, -⟩ | ⟨p, -, -, t, e⟩ | ⟨r, -, e⟩ <;>
        rw [e] at hh hl
      · exact absurd hl hnow
      · simp at hh
      · exact absurd hl hnow

/-! ## A whole tick -/

/-- **What a tick ends.** Without a status event and with a positive auto-lock delay, a tick of
`layoutHomeInfo` aborts recovery or signing only in a tick with a Cancel edge; it clears the
session exactly when the lock of the home screen falls due in a tick with no refresh request and
no Up or Down edge, with NFC or USB up; and it calls `shutdown()` exactly when that lock falls due
with neither up. -/
theorem tick_ends_work (env : Env) (s : NavContext) (hq : NoEvent env)
    (hd : 0 < env.config_getAutoLockDelayMs) :
    ∃ fx, (layoutHomeInfo env s).state.trace = s.trace ++ fx ∧
      (Effect.recovery_abort ∈ fx ∨ Effect.signing_abort ∈ fx → env.button.NoUp = true) ∧
      (Effect.session_clear true ∈ fx ↔
        LockDue env s ∧ (env.sys_nfcState || env.sys_usbState) = true) ∧
      (Effect.shutdown ∈ fx ↔ LockDue env s ∧ (env.sys_nfcState || env.sys_usbState) = false) := by
  obtain ⟨fx, e₁, c₁⟩ := (calmStep_refreshHome hq (s := s)).trans (calmStep_browseInfo hq)
  obtain ⟨hx, e₂, ha, hs, hc, hoff⟩ := homeTimers_effects hq (browseInfo env (refreshHome env s))
  rw [browseInfo_lockDue hd, and_assoc, and_assoc]
  rcases layoutHomeInfo_cases env s with ⟨u, h, e⟩ | ⟨u, h, e⟩ <;> rw [e] <;> rw [h] at e₂
  · -- the tick returns: the wake or the cancel comes last
    obtain ⟨gx, e₃, gc, goff, gab⟩ := wakeOrCancel_effects hq u
    have only : ∀ e, e ∉ fx → e ∉ gx → (e ∈ fx ++ (hx ++ gx) ↔ e ∈ hx) := fun e h₁ h₂ => by
      simp [h₁, h₂]
    refine ⟨fx ++ (hx ++ gx), by
      rw [After.state, e₃, show u.trace = _ from e₂, e₁]; simp only [List.append_assoc],
      fun h₁ => gab (by simpa [c₁.1, c₁.2.1, ha, hs] using h₁), by rw [← hc, only _ c₁.2.2.1 gc],
      by rw [← hoff, only _ c₁.2.2.2 goff]⟩
  · -- the tick powers the device off
    have only : ∀ e, e ∉ fx → (e ∈ fx ++ hx ↔ e ∈ hx) := fun e h₁ => by simp [h₁]
    exact ⟨fx ++ hx, by rw [After.state, show u.trace = _ from e₂, e₁, List.append_assoc],
      by simp [c₁.1, c₁.2.1, ha, hs], by rw [← hc, only _ c₁.2.2.1],
      by rw [← hoff, only _ c₁.2.2.2]⟩

/-- A quiet tick at 10 min, when the 10 min lock of the boot screen falls due, with NFC up. -/
def lockDueAtBoot : Env := ⟨600000, Buttons.idle, false, fun _ _ => false, true, false, 600000⟩

theorem tick_ends_work_at_boot :
    NoEvent lockDueAtBoot ∧ 0 < lockDueAtBoot.config_getAutoLockDelayMs ∧
      ∃ fx, (layoutHomeInfo lockDueAtBoot (NavContext.init 0)).state.trace =
          (NavContext.init 0).trace ++ fx ∧ Effect.session_clear true ∈ fx ∧ Effect.shutdown ∉ fx := by
  obtain ⟨fx, e, -, hc, hoff⟩ := tick_ends_work lockDueAtBoot (.init 0) (fun _ _ => rfl) (by decide)
  exact ⟨fun _ _ => rfl, by decide, fx, e, hc.2 ⟨⟨rfl, rfl, rfl, by decide⟩, rfl⟩,
    fun h => absurd (hoff.1 h).2 (by decide)⟩

end BixinLayout.Nav
