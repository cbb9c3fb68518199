import BixinLayout.Nav.Runs
import BixinLayout.Nav.Timers

/-!
# The order of the calls a tick makes

Two calls of `layoutHomeInfo` only ever come right after another one. The lock shows the
screensaver right after `session_clear(true)`, so the screen is never locked over a live session,
and every abort, on a Cancel edge or after a status event, is `recovery_abort(); signing_abort();`
in that order. `RightAfter a b` says this of a list of calls. It holds of what each call of a
tick appends and it composes (`RightAfter.append`), so it holds of everything a run of ticks
calls, whatever the buttons, the clock and the oracles answer (`run_calls_ordered`).

Only ticks are covered: a caller of `layoutScreensaver()` outside `layoutHomeInfo` answers for
its own calls.
-/

namespace BixinLayout.Nav

variable {env : Env} {s t u : NavContext} {a b : Effect}

/-- In `fx`, every `b` comes right after an `a`: it is not the first call, and the call before it
is an `a`. -/
def RightAfter (a b : Effect) (fx : List Effect) : Prop :=
  fx.head? ≠ some b ∧ fx.Chain' fun x y => y = b → x = a

theorem RightAfter.append {fx gx : List Effect} (h₁ : RightAfter a b fx)
    (h₂ : RightAfter a b gx) : RightAfter a b (fx ++ gx) := by
  refine ⟨?_, List.chain'_append.2 ⟨h₁.2, h₂.2, fun _ _ y hy hyb => absurd (hyb ▸ hy) h₂.1⟩⟩
  cases fx with
  | nil => exact h₂.1
  | cons x xs => exact h₁.1

/-- The two orders the navigation code keeps. -/
def Ordered (fx : List Effect) : Prop :=
  RightAfter (.session_clear true) .layoutScreensaver fx ∧
    RightAfter .recovery_abort .signing_abort fx

theorem Ordered.append {fx gx : List Effect} (h₁ : Ordered fx) (h₂ : Ordered gx) :
    Ordered (fx ++ gx) :=
  ⟨h₁.1.append h₂.1, h₁.2.append h₂.2⟩

/-- `s'` is `s` after ordered calls. -/
def OrderedStep (s s' : NavContext) : Prop := ∃ fx, s'.trace = s.trace ++ fx ∧ Ordered fx

theorem OrderedStep.refl : OrderedStep s s :=
  ⟨[], (List.append_nil _).symm, by simp [Ordered, RightAfter]⟩

theorem OrderedStep.trans (h₁ : OrderedStep s t) (h₂ : OrderedStep t u) : OrderedStep s u :=
  let ⟨fx, e₁, o₁⟩ := h₁; let ⟨gx, e₂, o₂⟩ := h₂
  ⟨fx ++ gx, by rw [e₂, e₁, List.append_assoc], o₁.append o₂⟩

/-! ## The calls of a tick -/

theorem orderedStep_info_page (p : Nat) : OrderedStep s { s with info_page := p } :=
  OrderedStep.refl

theorem orderedStep_layoutHome : OrderedStep s (layoutHome env s) :=
  ⟨_, by simp only [layoutHome, List.append_assoc]; rfl, by
    simp only [Ordered, RightAfter]; split_ifs <;> simp [statusAbort]⟩

theorem orderedStep_layoutDeviceInfo (p : Nat) : OrderedStep s (layoutDeviceInfo env p s) :=
  ⟨_, rfl, by simp only [Ordered, RightAfter]; split_ifs <;> simp⟩

/-- The lock: the session is cleared, then the screensaver drawn. -/
theorem orderedStep_lock : OrderedStep s (layoutScreensaver (s.emit [.session_clear true])) :=
  ⟨[.session_clear true, .layoutScreensaver, .oledClear, .oledRefresh],
    by simp [layoutScreensaver, NavContext.emit], by simp [Ordered, RightAfter]⟩

theorem orderedStep_statusPoll : OrderedStep s (statusPoll env s) := by
  rcases statusPoll_shape env s with ⟨-, e⟩ | ⟨-, -, e⟩ | ⟨-, -, e⟩ <;> rw [e]
  · exact .refl
  · exact ⟨[.layoutStatusLogo false], rfl, by simp [Ordered, RightAfter]⟩
  · show OrderedStep s (layoutHome env (s.emit (.layoutStatusLogo false :: statusAbort)))
    exact .trans ⟨_, rfl, by simp [Ordered, RightAfter, statusAbort]⟩ orderedStep_layoutHome

theorem orderedStep_tick : OrderedStep s (layoutHomeInfo env s).state :=
  layoutHomeInfo_induct (fun _ => .refl) (·.trans ·) (fun _ => orderedStep_layoutHome)
    (fun _ p q => (orderedStep_info_page q).trans (orderedStep_layoutDeviceInfo p))
    (fun _ => orderedStep_info_page 0) (fun _ => orderedStep_statusPoll) (fun _ => orderedStep_lock)
    (fun _ => ⟨[.shutdown], rfl, by simp [Ordered, RightAfter]⟩)
    (fun _ => ⟨_, rfl, by simp [Ordered, RightAfter]⟩) s

/-! ## Runs -/

/-- **Locked only when cleared, aborted in pairs.** Over every run of ticks, whatever the
buttons, the clock and the oracles answer, every `layoutScreensaver()` the run calls comes right
after `session_clear(true)`, and every `signing_abort()` right after `recovery_abort()`. -/
theorem run_calls_ordered (envs : List Env) (s : NavContext) :
    ∃ fx, (runTicks envs s).state.trace = s.trace ++ fx ∧
      RightAfter (.session_clear true) .layoutScreensaver fx ∧
      RightAfter .recovery_abort .signing_abort fx := by
  induction envs generalizing s with
  | nil => exact OrderedStep.refl (s := s)
  | cons env envs ih =>
    have h : OrderedStep s (layoutHomeInfo env s).state := orderedStep_tick
    cases e : layoutHomeInfo env s with
    | running s' =>
      simp only [runTicks, e]
      rw [e] at h
      exact h.trans (ih s')
    | poweredOff s' =>
      simp only [runTicks, e]
      rw [e] at h
      exact h

end BixinLayout.Nav
