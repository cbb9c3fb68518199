import BixinLayout.Nav.Phases

/-!
# The three timers

`layoutHomeInfo` keeps three `uint32_t` timers, and the file re-arms each in one place:
`system_millis_lock_start` in `layoutHome()`, `system_millis_display_info_start` in
`layoutDeviceInfo()`, and `system_millis_logo_refresh` in the 1 s status poll, right after its
`layoutStatusLogo(false)`.

**Timer law.** Every tick and every layout call of this file sets each timer to its own clock
reading when it makes the timer's call, and leaves the timer as it was otherwise (`step_timers`).
The auto-lock delay therefore runs from the last time the home screen was drawn and not from the
last button edge: an edge that leaves the home screen up, a Confirm for instance, does not
postpone the lock.

The law is stated for one step, with the effects it appends; it is closed under composition
(`TimerStep.trans`), so each call a tick can make is checked once and `layoutHomeInfo_induct`
carries the law over the whole tick.
-/

namespace BixinLayout.Nav

variable {env : Env} {now : UInt32} {s t u : NavContext}

/-! ## The law -/

/-- A timer that goes from `t` to `t'` is re-armed to `now` when `armed` holds, and kept
otherwise. -/
def Rearmed (now : UInt32) (armed : Prop) (t t' : UInt32) : Prop :=
  (armed → t' = now) ∧ (¬armed → t' = t)

/-- What a step with clock `now` that appends `fx` to the trace does to the three timers. -/
structure TimerStep (now : UInt32) (s s' : NavContext) (fx : List Effect) : Prop where
  trace : s'.trace = s.trace ++ fx
  lock : Rearmed now (Effect.layoutHome ∈ fx) s.system_millis_lock_start
    s'.system_millis_lock_start
  info : Rearmed now (∃ p, Effect.layoutDeviceInfo p ∈ fx) s.system_millis_display_info_start
    s'.system_millis_display_info_start
  logo : Rearmed now (Effect.layoutStatusLogo false ∈ fx) s.system_millis_logo_refresh
    s'.system_millis_logo_refresh

/-- A step from `s` to `s'` with clock `now` obeys the timer law. -/
def TimerLaw (now : UInt32) (s s' : NavContext) : Prop := ∃ fx, TimerStep now s s' fx

/-- Effects that re-arm no timer. -/
def Quiet (fx : List Effect) : Prop :=
  Effect.layoutHome ∉ fx ∧ (∀ p, Effect.layoutDeviceInfo p ∉ fx) ∧
    Effect.layoutStatusLogo false ∉ fx

theorem Rearmed.trans {P Q : Prop} {t t' t'' : UInt32} (h₁ : Rearmed now P t t')
    (h₂ : Rearmed now Q t' t'') : Rearmed now (P ∨ Q) t t'' := by
  refine ⟨fun h => ?_, fun h => (h₂.2 (h ∘ .inr)).trans (h₁.2 (h ∘ .inl))⟩
  by_cases hq : Q
  · exact h₂.1 hq
  · exact (h₂.2 hq).trans (h₁.1 (h.resolve_right hq))

theorem Rearmed.of_iff {P Q : Prop} {t t' : UInt32} (h : Rearmed now P t t') (e : P ↔ Q) :
    Rearmed now Q t t' :=
  ⟨h.1 ∘ e.2, h.2 ∘ mt e.1⟩

theorem TimerStep.trans {fx gx : List Effect} (h₁ : TimerStep now s t fx)
    (h₂ : TimerStep now t u gx) : TimerStep now s u (fx ++ gx) where
  trace := by rw [h₂.trace, h₁.trace, List.append_assoc]
  lock := (h₁.lock.trans h₂.lock).of_iff List.mem_append.symm
  info := (h₁.info.trans h₂.info).of_iff (by simp only [List.mem_append, exists_or])
  logo := (h₁.logo.trans h₂.logo).of_iff List.mem_append.symm

theorem TimerLaw.trans (h₁ : TimerLaw now s t) (h₂ : TimerLaw now t u) : TimerLaw now s u :=
  let ⟨_, h₁⟩ := h₁; let ⟨_, h₂⟩ := h₂; ⟨_, h₁.trans h₂⟩

/-- A step that appends quiet effects and keeps the timers. -/
theorem TimerLaw.quiet {s' : NavContext} {fx : List Effect} (ht : s'.trace = s.trace ++ fx)
    (hq : Quiet fx) (hl : s'.system_millis_lock_start = s.system_millis_lock_start)
    (hi : s'.system_millis_display_info_start = s.system_millis_display_info_start)
    (hg : s'.system_millis_logo_refresh = s.system_millis_logo_refresh) : TimerLaw now s s' :=
  ⟨fx, ht, ⟨fun h => absurd h hq.1, fun _ => hl⟩,
    ⟨fun ⟨p, h⟩ => absurd h (hq.2.1 p), fun _ => hi⟩, ⟨fun h => absurd h hq.2.2, fun _ => hg⟩⟩

theorem TimerLaw.refl : TimerLaw now s s :=
  .quiet (List.append_nil _).symm (by simp [Quiet]) rfl rfl rfl

/-! ## The layout calls -/

theorem timerLaw_emit {fx : List Effect} (hq : Quiet fx) : TimerLaw now s (s.emit fx) :=
  .quiet rfl hq rfl rfl rfl

theorem timerLaw_info_page (p : Nat) : TimerLaw now s { s with info_page := p } :=
  .quiet (List.append_nil _).symm (by simp [Quiet]) rfl rfl rfl

theorem timerLaw_layoutHome : TimerLaw env.now s (layoutHome env s) := by
  refine ⟨_, by simp only [layoutHome, List.append_assoc]; rfl, ⟨fun _ => rfl, fun h => ?_⟩,
    ⟨fun h => ?_, fun _ => rfl⟩, ⟨fun h => ?_, fun _ => rfl⟩⟩
  · exact absurd (by simp) h
  on_goal 1 => obtain ⟨_, h⟩ := h
  all_goals
    simp only [List.mem_append, List.mem_cons, List.mem_singleton, statusAbort] at h
    split_ifs at h <;> simp at h

theorem timerLaw_layoutScreensaver : TimerLaw now s (layoutScreensaver s) :=
  .quiet rfl (by simp [Quiet]) rfl rfl rfl

theorem timerLaw_layoutDeviceInfo (p : Nat) :
    TimerLaw env.now s (layoutDeviceInfo env p s) := by
  refine ⟨_, rfl, ⟨fun h => ?_, fun _ => rfl⟩,
    ⟨fun _ => rfl, fun h => absurd ⟨p, by simp⟩ h⟩, ⟨fun h => ?_, fun _ => rfl⟩⟩ <;>
  · simp only [List.mem_append, List.mem_cons, List.mem_singleton] at h
    split_ifs at h <;> simp at h

theorem timerLaw_call (c : Call) : TimerLaw env.now s (c.run env s) := by
  cases c with
  | layoutHome => exact timerLaw_layoutHome
  | layoutScreensaver => exact timerLaw_layoutScreensaver
  | layoutProgressSwipe =>
    show TimerLaw _ s (layoutProgressSwipe s)
    unfold layoutProgressSwipe
    split
    · exact timerLaw_emit (by simp [Quiet])
    · exact .quiet rfl (by simp [Quiet]) rfl rfl rfl
  | layoutAddress | layoutXPUB =>
    exact .quiet rfl (by split <;> simp [Quiet]) rfl rfl rfl
  | _ => exact .quiet rfl (by simp [Quiet]) rfl rfl rfl

/-! ## One tick -/

/-- Turning to page `p` of the info pages: set `info_page`, then draw the page. -/
theorem timerLaw_turnPage (p q : Nat) :
    TimerLaw env.now s (layoutDeviceInfo env p { s with info_page := q }) :=
  (timerLaw_info_page q).trans (timerLaw_layoutDeviceInfo p)

theorem timerLaw_statusPoll : TimerLaw env.now s (statusPoll env s) := by
  have hpoll : TimerLaw env.now s
      { s.emit [.layoutStatusLogo false] with system_millis_logo_refresh := env.now } :=
    .intro [.layoutStatusLogo false] ⟨rfl, ⟨by simp, fun _ => rfl⟩,
      ⟨fun ⟨_, h⟩ => by simp at h, fun _ => rfl⟩, ⟨fun _ => rfl, fun h => by simp at h⟩⟩
  rcases statusPoll_shape env s with ⟨-, e⟩ | ⟨-, -, e⟩ | ⟨-, -, e⟩ <;> rw [e]
  · exact .refl
  · exact hpoll
  · -- the abort and the re-render after a status event
    rw [show s.emit (.layoutStatusLogo false :: statusAbort) =
      (s.emit [.layoutStatusLogo false]).emit statusAbort by simp]
    exact hpoll.trans ((timerLaw_emit (by simp [Quiet, statusAbort])).trans timerLaw_layoutHome)

/-- Every tick of `layoutHomeInfo`, and every layout call, re-arms each of the three timers to
the clock exactly when it makes that timer's call, and keeps it otherwise; a tick that powers the
device off included. -/
theorem step_timers (env : Env) (s : NavContext) :
    TimerLaw env.now s (layoutHomeInfo env s).state ∧ ∀ c : Call, TimerLaw env.now s (c.run env s) :=
  ⟨layoutHomeInfo_induct (fun _ => .refl) (·.trans ·) (fun _ => timerLaw_layoutHome)
      (fun _ => timerLaw_turnPage) (fun _ => timerLaw_info_page 0) (fun _ => timerLaw_statusPoll)
      (fun _ => (timerLaw_emit (by simp [Quiet])).trans timerLaw_layoutScreensaver)
      (fun _ => timerLaw_emit (by simp [Quiet])) (fun _ => timerLaw_emit (by simp [Quiet])) s,
    fun _ => timerLaw_call _⟩

end BixinLayout.Nav
