import BixinLayout.Nav.Refinement

/-!
# Runs of ticks

`tick_refines` is about one tick. Here ticks are chained: `runTicks` runs `layoutHomeInfo` over a
list of readings of the clock and the buttons, and stops at a `shutdown()`; `specRun` runs the
design's table over the inputs it reads along the same run.

**Runs.** From every reachable state, along every run of ticks the table describes, the code ends
on the screen the table ends on (`runTicks_refines`).

**The ring.** The table moves home and the four info pages round a ring of five: Down is one step
on, Up one step back (`specStep_ring`). The code does the same along every run of Up and Down
edges that come less than 10 s, and less than the auto-lock delay, apart (`ring_run`). Each such
edge re-arms the timer of the screen it shows (`turn_rearms`), so no timer fires inside the run,
and each tick is one the table describes.
-/

namespace BixinLayout.Nav

variable {env : Env} {s : NavContext}

/-! ## Running the code and the table -/

/-- Ticks of `layoutHomeInfo`, one per reading, until one powers the device off. -/
def runTicks : List Env → NavContext → After
  | [], s => .running s
  | env :: envs, s =>
    match layoutHomeInfo env s with
    | .running s' => runTicks envs s'
    | .poweredOff s' => .poweredOff s'

/-- The inputs the table reads along a run; it reads none after a power-off. -/
def inputsAlong : List Env → NavContext → List SpecInput
  | [], _ => []
  | env :: envs, s =>
    inputOf env s ::
      match layoutHomeInfo env s with
      | .running s' => inputsAlong envs s'
      | .poweredOff _ => []

/-- Every tick of a run is one the table describes. -/
def RunWellBehaved : List Env → NavContext → Prop
  | [], _ => True
  | env :: envs, s =>
    WellBehaved env s ∧
      match layoutHomeInfo env s with
      | .running s' => RunWellBehaved envs s'
      | .poweredOff _ => True

/-- The table, run over a list of inputs. -/
def specRun (x : ScreenId) (is : List SpecInput) : ScreenId := is.foldl specStep x

/-! ## The ring on the design's table -/

/-- The place of a screen on the ring of home and the four info pages. -/
def ringPos : ScreenId → Option (Fin 5)
  | .home => some 0
  | .infoPage n => if h : 1 ≤ n ∧ n ≤ 4 then some ⟨n, by omega⟩ else none
  | _ => none

/-- How far an edge turns the ring. -/
def pressMove : Option Press → Fin 5
  | some .next => 1
  | some .prev => -1
  | _ => 0

/-- An Up or Down edge moves the table one place round the ring, when the info page it finds
has not timed out. -/
theorem specStep_ring {x : ScreenId} {k : Fin 5} (hx : ringPos x = some k) {i : SpecInput}
    (hp : i.press = some .next ∨ i.press = some .prev)
    (ht : ∀ n, x = .infoPage n → i.infoTimedOut = false) :
    ringPos (specStep x i) = some (k + pressMove i.press) := by
  cases x with
  | home =>
    cases hx
    rcases hp with hp | hp <;> simp only [specStep, hp] <;> rfl
  | infoPage n =>
    simp only [ringPos] at hx
    split at hx
    · cases hx
      rename_i h
      obtain ⟨h1, h4⟩ := h
      simp only [specStep, ht n rfl]
      have hn : n = 1 ∨ n = 2 ∨ n = 3 ∨ n = 4 := by omega
      rcases hp with hp | hp <;> simp only [hp] <;> rcases hn with rfl | rfl | rfl | rfl <;> rfl
    · cases hx
  | screensaver | dialogActive | locked => cases hx

/-! ## The ring on the code -/

/-- A tick with one Up or Down edge and nothing the table does not describe. -/
structure Turn (env : Env) : Prop where
  /-- Up alone, or Down alone. -/
  edge : env.button = ⟨false, false, true, false⟩ ∨ env.button = ⟨false, false, false, true⟩
  no_refresh : env.layoutNeedRefresh = false
  no_event : ∀ trace force_refresh, env.layoutStatusLogo trace force_refresh = false
  delay_pos : 0 < env.config_getAutoLockDelayMs

/-- The timer of the screen `s` shows has not fired at `env.now`. -/
def Fresh (env : Env) (s : NavContext) : Prop :=
  (s.layoutLast = .layoutHome →
    env.now - s.system_millis_lock_start < env.config_getAutoLockDelayMs) ∧
  (s.layoutLast = .layoutDeviceInfo → env.now - s.system_millis_display_info_start < 10 * 1000)

/-- Two ticks close enough that a timer re-armed at the first has not fired at the second. -/
def Paced (env env' : Env) : Prop :=
  env'.now - env.now < 10 * 1000 ∧ env'.now - env.now < env'.config_getAutoLockDelayMs

/-- The screen a tick leaves, with the timer of that screen re-armed at the tick's clock. -/
def ShownRearmed (env : Env) (s' : NavContext) : Prop :=
  s'.layoutLast = .layoutHome ∧ s'.system_millis_lock_start = env.now ∨
    s'.layoutLast = .layoutDeviceInfo ∧ s'.system_millis_display_info_start = env.now

theorem wellBehaved_of_turn (ht : Turn env) (hf : Fresh env s) : WellBehaved env s where
  single := by rcases ht.edge with h | h <;> rw [h] <;> decide
  no_refresh := ht.no_refresh
  no_event := ht.no_event
  delay_pos := ht.delay_pos
  info_quiet hi h := absurd h (UInt32.not_le.2 (hf.2 hi))
  lock_quiet hh h := absurd h (UInt32.not_le.2 (hf.1 hh))

theorem fresh_of_rearmed {env' : Env} (h : ShownRearmed env s) (hp : Paced env env') : Fresh env' s := by
  rcases h with ⟨hh, hl⟩ | ⟨hi, hd⟩
  · exact ⟨fun _ => hl ▸ hp.2, fun h => absurd (hh.symm.trans h) (by decide)⟩
  · exact ⟨fun h => absurd (hi.symm.trans h) (by decide), fun _ => hd ▸ hp.1⟩

/-- On home or a fresh info page, an Up or Down edge draws an info page or the home screen. -/
theorem browseInfo_turn (ht : Turn env) (inv : NavInv s)
    (hs : s.layoutLast = .layoutHome ∨ s.layoutLast = .layoutDeviceInfo) (hf : Fresh env s) :
    (∃ p, ∃ t : NavContext, browseInfo env s = layoutDeviceInfo env p { t with info_page := p }) ∨
      ∃ r, browseInfo env s = layoutHome env r := by
  rcases hs with hh | hi
  · exact .inl ⟨_, s, browseInfo_of_home_edge hh (by rcases ht.edge with h | h <;> simp [h])⟩
  rw [browseInfo_of_info hi, infoTimeout_of_lt (hf.2 hi)]
  rcases ht.edge with h | h
  · -- Up: the page before, or home from the first page
    rw [pageButtons_up (by simp [h]) (inv.page_shown hi).1]
    by_cases h1 : s.info_page - 1 = 0
    · exact .inr ⟨_, homeIfNoPage_of_zero h1⟩
    · exact .inl ⟨_, s, homeIfNoPage_of_ne h1⟩
  · -- Down: the page after, or home from the last page
    by_cases hl : s.info_page < DEVICE_INFO_PAGE_NUM
    · rw [pageButtons_down (by simp [h]) (by simp [h]) hl]
      exact .inl ⟨_, s, homeIfNoPage_of_ne (by simp)⟩
    · rw [pageButtons_down_last (by simp [h]) (by simp [h]) hl]
      exact .inr ⟨_, homeIfNoPage_of_zero rfl⟩

/-- **An edge re-arms the screen it shows.** On home or a fresh info page, an Up or Down edge
leaves home with the auto-lock re-armed, or an info page with its timeout re-armed. -/
theorem turn_rearms (ht : Turn env) (inv : NavInv s)
    (hs : s.layoutLast = .layoutHome ∨ s.layoutLast = .layoutDeviceInfo) (hf : Fresh env s) :
    ∃ s', layoutHomeInfo env s = .running s' ∧ ShownRearmed env s' := by
  have hn : env.button.NoUp = false := by rcases ht.edge with h | h <;> simp [h]
  rcases browseInfo_turn ht inv hs hf with ⟨p, t, e⟩ | ⟨r, e⟩
  · refine ⟨_, layoutHomeInfo_of_running (by rw [refreshHome_of_false ht.no_refresh, e,
      homeTimers_of_ne (by simp)]), .inr ?_⟩
    rw [wakeOrCancel_of_no_cancel (by simp) hn]
    exact ⟨rfl, rfl⟩
  · exact ⟨_, layoutHomeInfo_of_home ht.delay_pos (by rw [refreshHome_of_false ht.no_refresh, e]),
      .inl (statusPoll_home env rfl rfl)⟩

theorem layoutLast_of_screen {n : Nat} (h : screen s = .infoPage n) :
    s.layoutLast = .layoutDeviceInfo := by
  unfold screen at h
  split at h <;> first | assumption | cases h

theorem ringPos_screen {k : Fin 5} (h : ringPos (screen s) = some k) :
    s.layoutLast = .layoutHome ∨ s.layoutLast = .layoutDeviceInfo := by
  unfold screen at h
  split at h <;> first | exact .inl ‹_› | exact .inr ‹_› | cases h

/-- One turn of the ring on the code. -/
theorem turn_tick (ht : Turn env) (inv : NavInv s) {k : Fin 5} (hk : ringPos (screen s) = some k)
    (hf : Fresh env s) :
    ∃ s', layoutHomeInfo env s = .running s' ∧ ShownRearmed env s' ∧
      ringPos (screen s') = some (k + pressMove (pressOf env.button)) := by
  obtain ⟨s', e, hre⟩ := turn_rearms ht inv (ringPos_screen hk) hf
  have hscr : screen s' = specStep (screen s) (inputOf env s) := by
    simpa [screenOf, e] using screen_tick inv (wellBehaved_of_turn ht hf)
  refine ⟨s', e, hre, hscr ▸ specStep_ring hk ?_ fun n hn => ?_⟩
  · rcases ht.edge with h | h <;> simp [inputOf, h, pressOf]
  · simpa [inputOf] using hf.2 (layoutLast_of_screen hn)

/-- The sum of the turns of a run. -/
def turns (envs : List Env) : Fin 5 := (envs.map fun env => pressMove (pressOf env.button)).sum

theorem turn_run (envs : List Env) (inv : NavInv s) {k : Fin 5}
    (hk : ringPos (screen s) = some k) (ht : ∀ env ∈ envs, Turn env) (hp : envs.Chain' Paced)
    (hf : ∀ env ∈ envs.head?, Fresh env s) :
    RunWellBehaved envs s ∧
      ∃ s', runTicks envs s = .running s' ∧ ringPos (screen s') = some (k + turns envs) := by
  induction envs generalizing s k with
  | nil => exact ⟨trivial, s, rfl, by simpa [turns] using hk⟩
  | cons env envs ih =>
    have hte := ht env (List.mem_cons_self _ _)
    have hfe := hf env rfl
    obtain ⟨s', e, hre, hk'⟩ := turn_tick hte inv hk hfe
    obtain ⟨hw, s'', e', hk''⟩ := ih (navInv_tick inv e) hk'
      (fun x hx => ht x (List.mem_cons_of_mem _ hx)) hp.tail
      (fun x hx => fresh_of_rearmed hre (List.chain'_cons'.1 hp |>.1 x hx))
    refine ⟨⟨wellBehaved_of_turn hte hfe, ?_⟩, s'', ?_, ?_⟩
    · simpa [RunWellBehaved, e] using hw
    · simpa [runTicks, e] using e'
    · simpa [turns, add_assoc] using hk''

/-- Up at 5 s, Up at 8 s and Down at 12 s after boot, with a 10 min auto-lock. -/
def upUpDown : List Env :=
  [⟨5000, ⟨false, false, true, false⟩, false, fun _ _ => false, true, false, 600000⟩,
    ⟨8000, ⟨false, false, true, false⟩, false, fun _ _ => false, true, false, 600000⟩,
    ⟨12000, ⟨false, false, false, true⟩, false, fun _ _ => false, true, false, 600000⟩]

theorem upUpDown_turns :
    (∀ env ∈ upUpDown, Turn env) ∧ upUpDown.Chain' Paced ∧
      ∀ env ∈ upUpDown.head?, Fresh env (NavContext.init 0) := by
  refine ⟨fun env h => ?_, ?_, fun env h => ?_⟩
  · simp only [upUpDown, List.mem_cons, List.mem_singleton, List.not_mem_nil, or_false] at h
    rcases h with rfl | rfl | rfl <;> exact ⟨by simp, rfl, fun _ _ => rfl, by decide⟩
  · simp only [upUpDown, List.chain'_cons, List.chain'_singleton, and_true, Paced]
    decide
  · cases h
    exact ⟨fun _ => by decide, fun h => by cases h⟩

/-! ## Runs -/

/-- **Runs.** From every reachable state, a run of ticks the table describes ends on the screen
the table ends on. -/
theorem runTicks_refines (envs : List Env) {s : NavContext} (hs : Reachable s)
    (hw : RunWellBehaved envs s) :
    screenOf (runTicks envs s) = specRun (screen s) (inputsAlong envs s) := by
  induction envs generalizing s with
  | nil => rfl
  | cons env envs ih =>
    obtain ⟨hw₁, hw₂⟩ := hw
    have h := screen_tick (navInv_reachable hs) hw₁
    simp only [runTicks, inputsAlong, specRun, List.foldl_cons]
    cases e : layoutHomeInfo env s with
    | running s' =>
      simp only [e] at h hw₂
      rw [← h]
      exact ih (hs.tick env e) hw₂
    | poweredOff s' => rwa [e] at h

theorem runTicks_refines_up_up_down :
    Reachable (NavContext.init 0) ∧ RunWellBehaved upUpDown (NavContext.init 0) ∧
      screenOf (runTicks upUpDown (NavContext.init 0)) = .infoPage 4 :=
  have hw := (turn_run upUpDown (navInv_init 0) rfl upUpDown_turns.1 upUpDown_turns.2.1
    upUpDown_turns.2.2).1
  ⟨.init 0, hw, (runTicks_refines upUpDown (.init 0) hw).trans rfl⟩

/-! ## The ring -/

/-- **The ring.** From home or an info page, along every run of Up and Down edges that come less
than 10 s and less than the auto-lock delay apart, the first finding its screen's timer unfired,
the code never leaves home and the four info pages, and moves round them as a counter modulo 5:
Down one place on, Up one place back. -/
theorem ring_run (envs : List Env) {s : NavContext} (hs : Reachable s) {k : Fin 5}
    (hk : ringPos (screen s) = some k) (ht : ∀ env ∈ envs, Turn env) (hp : envs.Chain' Paced)
    (hf : ∀ env ∈ envs.head?, Fresh env s) :
    ∃ s', runTicks envs s = .running s' ∧ ringPos (screen s') = some (k + turns envs) :=
  (turn_run envs (navInv_reachable hs) hk ht hp hf).2

theorem ring_run_up_up_down :
    Reachable (NavContext.init 0) ∧ ringPos (screen (NavContext.init 0)) = some 0 ∧
      (∀ env ∈ upUpDown, Turn env) ∧ upUpDown.Chain' Paced ∧
      (∀ env ∈ upUpDown.head?, Fresh env (NavContext.init 0)) ∧
      ∃ s', runTicks upUpDown (NavContext.init 0) = .running s' ∧ ringPos (screen s') = some 4 :=
  let ⟨ht, hp, hf⟩ := upUpDown_turns
  let ⟨s', e, h⟩ := ring_run upUpDown (.init 0) rfl ht hp hf
  ⟨.init 0, rfl, ht, hp, hf, s', e, h.trans rfl⟩

end BixinLayout.Nav
