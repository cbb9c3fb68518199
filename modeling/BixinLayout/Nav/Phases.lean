import BixinLayout.Nav.Machine
import Mathlib.Data.UInt

/-!
# The phases of a tick

Each phase of `layoutHomeInfo` gets its field lemmas, an equation lemma for each of its branches
and one shape lemma that says everything the phase can do. Only this module unfolds a phase: the
results about whole ticks and whole runs cite these lemmas.

Two facts about the end of a phase carry most of the later proofs: a home screen left by the
home-screen block has nothing due (`homeTimers_home_fresh`), and an info screen left by the
info-page branch shows a page whose timeout has not passed (`browseInfo_info_fresh`).
-/

namespace BixinLayout.Nav

variable {env : Env} {s t u s' : NavContext}

/-! ## Field lemmas -/

@[simp] theorem emit_layoutLast (fx : List Effect) : (s.emit fx).layoutLast = s.layoutLast := rfl
@[simp] theorem emit_info_page (fx : List Effect) : (s.emit fx).info_page = s.info_page := rfl
@[simp] theorem emit_lock_start (fx : List Effect) :
    (s.emit fx).system_millis_lock_start = s.system_millis_lock_start := rfl
@[simp] theorem emit_display_info_start (fx : List Effect) :
    (s.emit fx).system_millis_display_info_start = s.system_millis_display_info_start := rfl
@[simp] theorem emit_logo_refresh (fx : List Effect) :
    (s.emit fx).system_millis_logo_refresh = s.system_millis_logo_refresh := rfl
@[simp] theorem emit_trace (fx : List Effect) : (s.emit fx).trace = s.trace ++ fx := rfl
@[simp] theorem emit_emit (a b : List Effect) : (s.emit a).emit b = s.emit (a ++ b) := by
  simp [NavContext.emit, List.append_assoc]

@[simp] theorem layoutHome_layoutLast : (layoutHome env s).layoutLast = .layoutHome := rfl
@[simp] theorem layoutHome_info_page : (layoutHome env s).info_page = s.info_page := rfl
@[simp] theorem layoutHome_lock_start :
    (layoutHome env s).system_millis_lock_start = env.now := rfl
@[simp] theorem layoutHome_display_info_start :
    (layoutHome env s).system_millis_display_info_start = s.system_millis_display_info_start := rfl
@[simp] theorem layoutHome_logo_refresh :
    (layoutHome env s).system_millis_logo_refresh = s.system_millis_logo_refresh := rfl

@[simp] theorem layoutScreensaver_layoutLast :
    (layoutScreensaver s).layoutLast = .layoutScreensaver := rfl
@[simp] theorem layoutScreensaver_info_page : (layoutScreensaver s).info_page = s.info_page := rfl
@[simp] theorem layoutScreensaver_lock_start :
    (layoutScreensaver s).system_millis_lock_start = s.system_millis_lock_start := rfl
@[simp] theorem layoutScreensaver_display_info_start :
    (layoutScreensaver s).system_millis_display_info_start =
      s.system_millis_display_info_start := rfl
@[simp] theorem layoutScreensaver_logo_refresh :
    (layoutScreensaver s).system_millis_logo_refresh = s.system_millis_logo_refresh := rfl
@[simp] theorem layoutScreensaver_trace :
    (layoutScreensaver s).trace = s.trace ++ [.layoutScreensaver, .oledClear, .oledRefresh] := rfl

@[simp] theorem layoutDeviceInfo_layoutLast (p : Nat) :
    (layoutDeviceInfo env p s).layoutLast = .layoutDeviceInfo := rfl
@[simp] theorem layoutDeviceInfo_info_page (p : Nat) :
    (layoutDeviceInfo env p s).info_page = s.info_page := rfl
@[simp] theorem layoutDeviceInfo_display_info_start (p : Nat) :
    (layoutDeviceInfo env p s).system_millis_display_info_start = env.now := rfl
theorem layoutDeviceInfo_trace (p : Nat) :
    (layoutDeviceInfo env p s).trace = s.trace ++ ([.layoutDeviceInfo p] ++
      (if 1 ≤ p ∧ p ≤ 4 then [.oledClear] else []) ++ [.oledRefresh]) := rfl

/-! ## Idle phases -/

theorem pageButtons_idle (hb : env.button = .idle) : pageButtons env s = s := by
  simp [pageButtons, hb, Buttons.idle]

theorem wakeOrCancel_idle (hb : env.button = .idle) : wakeOrCancel env s = s := by
  simp [wakeOrCancel, hb, Buttons.idle]

theorem browseInfo_home_idle (hb : env.button = .idle) (hhome : s.layoutLast = .layoutHome) :
    browseInfo env s = s := by
  simp [browseInfo, hb, Buttons.idle, hhome]

/-- With no button edge and no refresh request, a tick is the info-page branch and the
home-screen block. -/
theorem layoutHomeInfo_quiet (hb : env.button = .idle) (hr : env.layoutNeedRefresh = false) :
    layoutHomeInfo env s = homeTimers env (browseInfo env s) := by
  cases h : homeTimers env (browseInfo env s) <;>
    simp [layoutHomeInfo, refreshHome, hr, h, wakeOrCancel_idle hb]

/-! ## The refresh request -/

theorem refreshHome_of_false (hr : env.layoutNeedRefresh = false) : refreshHome env s = s := by
  simp [refreshHome, hr]

theorem refreshHome_of_true (hr : env.layoutNeedRefresh = true) :
    refreshHome env s = layoutHome env s := by
  simp [refreshHome, hr]

theorem refreshHome_shape (env : Env) (s : NavContext) :
    refreshHome env s = layoutHome env s ∨ refreshHome env s = s := by
  cases hr : env.layoutNeedRefresh
  · exact .inr (refreshHome_of_false hr)
  · exact .inl (refreshHome_of_true hr)

/-! ## The status poll -/

theorem layoutHome_trace_prefix : s.trace <+: (layoutHome env s).trace := by
  simp only [layoutHome, List.append_assoc]; exact List.prefix_append _ _

/-- What the status poll can do: nothing when it is not due; otherwise poll the logo and re-arm
its timer, after an abort and a re-render of the home screen when the poll reports an event. -/
theorem statusPoll_shape (env : Env) (t : NavContext) :
    (env.now - t.system_millis_logo_refresh < 1000 ∧ statusPoll env t = t) ∨
    (1000 ≤ env.now - t.system_millis_logo_refresh ∧ env.layoutStatusLogo t.trace false = false ∧
      statusPoll env t =
        { t.emit [.layoutStatusLogo false] with system_millis_logo_refresh := env.now }) ∨
    (1000 ≤ env.now - t.system_millis_logo_refresh ∧ env.layoutStatusLogo t.trace false = true ∧
      statusPoll env t = { layoutHome env (t.emit (.layoutStatusLogo false :: statusAbort)) with
        system_millis_logo_refresh := env.now }) := by
  unfold statusPoll
  split
  · rename_i hp
    cases htamper : env.layoutStatusLogo t.trace false
    · exact .inr (.inl ⟨hp, rfl, rfl⟩)
    · exact .inr (.inr ⟨hp, rfl, by simp⟩)
  · exact .inl ⟨UInt32.not_le.1 ‹_›, rfl⟩

theorem statusPoll_trace_prefix : s.trace <+: (statusPoll env s).trace := by
  rcases statusPoll_shape env s with ⟨-, e⟩ | ⟨-, -, e⟩ | ⟨-, -, e⟩
  · rw [e]
  · rw [e]; exact List.prefix_append _ _
  · rw [e]
    exact (List.prefix_append s.trace _).trans <|
      layoutHome_trace_prefix (s := s.emit (.layoutStatusLogo false :: statusAbort))

theorem statusPoll_of_lt (h : env.now - t.system_millis_logo_refresh < 1000) :
    statusPoll env t = t :=
  if_neg (UInt32.not_le.2 h)

theorem statusPoll_info_page : (statusPoll env t).info_page = t.info_page := by
  rcases statusPoll_shape env t with ⟨-, e⟩ | ⟨-, -, e⟩ | ⟨-, -, e⟩ <;> rw [e] <;> simp

theorem statusPoll_layoutLast (env : Env) (t : NavContext) :
    (statusPoll env t).layoutLast = t.layoutLast ∨ (statusPoll env t).layoutLast = .layoutHome := by
  rcases statusPoll_shape env t with ⟨-, e⟩ | ⟨-, -, e⟩ | ⟨-, -, e⟩ <;> rw [e] <;> simp

/-- A poll on the home screen leaves it up, and a poll with the lock just re-armed keeps it so. -/
theorem statusPoll_home (env : Env) (h : t.layoutLast = .layoutHome)
    (hl : t.system_millis_lock_start = env.now) :
    (statusPoll env t).layoutLast = .layoutHome ∧
      (statusPoll env t).system_millis_lock_start = env.now := by
  rcases statusPoll_shape env t with ⟨-, e⟩ | ⟨-, -, e⟩ | ⟨-, -, e⟩ <;> rw [e] <;> simp [h, hl]

/-- After the poll, a home screen has its poll re-armed, and its lock is not due if it was not. -/
theorem statusPoll_home_fresh (hd : 0 < env.config_getAutoLockDelayMs)
    (hl : t.layoutLast = .layoutHome →
      env.now - t.system_millis_lock_start < env.config_getAutoLockDelayMs)
    (hu : (statusPoll env t).layoutLast = .layoutHome) :
    env.now - (statusPoll env t).system_millis_lock_start < env.config_getAutoLockDelayMs ∧
      env.now - (statusPoll env t).system_millis_logo_refresh < 1000 := by
  rcases statusPoll_shape env t with ⟨hp, e⟩ | ⟨-, -, e⟩ | ⟨-, -, e⟩ <;> rw [e] at hu ⊢
  · exact ⟨hl hu, hp⟩
  · simpa using hl (by simpa using hu)
  · simp [hd]

/-! ## The home-screen block -/

theorem homeTimers_of_ne (h : t.layoutLast ≠ .layoutHome) : homeTimers env t = .running t := by
  simp [homeTimers, h]

theorem homeTimers_of_lt (hh : t.layoutLast = .layoutHome)
    (hl : env.now - t.system_millis_lock_start < env.config_getAutoLockDelayMs) :
    homeTimers env t = .running (statusPoll env t) := by
  simp [homeTimers, hh, UInt32.not_le.2 hl]

/-- The lock with NFC or USB up: clear the session, show the screensaver, then poll. -/
theorem homeTimers_lock (hh : t.layoutLast = .layoutHome)
    (hl : env.config_getAutoLockDelayMs ≤ env.now - t.system_millis_lock_start)
    (hn : (env.sys_nfcState || env.sys_usbState) = true) :
    homeTimers env t = .running (statusPoll env (layoutScreensaver (t.emit [.session_clear true]))) := by
  simp [homeTimers, hh, hl, hn]

/-- The lock with neither up: `shutdown()`, which does not return. -/
theorem homeTimers_shutdown (hh : t.layoutLast = .layoutHome)
    (hl : env.config_getAutoLockDelayMs ≤ env.now - t.system_millis_lock_start)
    (hn : (env.sys_nfcState || env.sys_usbState) = false) :
    homeTimers env t = .poweredOff (t.emit [.shutdown]) := by
  simp [homeTimers, hh, hl, hn]

/-- Everything the home-screen block can do: nothing off the home screen; on it, the status poll
before the lock is due, and once it is due the lock and the poll, or `shutdown()`. -/
theorem homeTimers_cases (env : Env) (t : NavContext) :
    (t.layoutLast ≠ .layoutHome ∧ homeTimers env t = .running t) ∨
    (t.layoutLast = .layoutHome ∧
      env.now - t.system_millis_lock_start < env.config_getAutoLockDelayMs ∧
      homeTimers env t = .running (statusPoll env t)) ∨
    (t.layoutLast = .layoutHome ∧
      env.config_getAutoLockDelayMs ≤ env.now - t.system_millis_lock_start ∧
      (env.sys_nfcState || env.sys_usbState) = true ∧
      homeTimers env t = .running (statusPoll env (layoutScreensaver (t.emit [.session_clear true])))) ∨
    (t.layoutLast = .layoutHome ∧
      env.config_getAutoLockDelayMs ≤ env.now - t.system_millis_lock_start ∧
      (env.sys_nfcState || env.sys_usbState) = false ∧
      homeTimers env t = .poweredOff (t.emit [.shutdown])) := by
  by_cases hh : t.layoutLast = .layoutHome
  · by_cases hl : env.config_getAutoLockDelayMs ≤ env.now - t.system_millis_lock_start
    · cases hn : env.sys_nfcState || env.sys_usbState
      · exact .inr (.inr (.inr ⟨hh, hl, rfl, homeTimers_shutdown hh hl hn⟩))
      · exact .inr (.inr (.inl ⟨hh, hl, rfl, homeTimers_lock hh hl hn⟩))
    · exact .inr (.inl ⟨hh, UInt32.not_le.1 hl, homeTimers_of_lt hh (UInt32.not_le.1 hl)⟩)
  · exact .inl ⟨hh, homeTimers_of_ne hh⟩

/-- What the home-screen block can do on a tick that returns: nothing off the home screen;
otherwise the status poll, after the lock and the screensaver when the lock is due. -/
theorem homeTimers_shape (h : homeTimers env t = .running u) :
    (t.layoutLast ≠ .layoutHome ∧ u = t) ∨
    (t.layoutLast = .layoutHome ∧
      env.now - t.system_millis_lock_start < env.config_getAutoLockDelayMs ∧
      u = statusPoll env t) ∨
    (t.layoutLast = .layoutHome ∧
      u = statusPoll env (layoutScreensaver (t.emit [.session_clear true]))) := by
  rcases homeTimers_cases env t with ⟨hh, e⟩ | ⟨hh, hl, e⟩ | ⟨hh, -, -, e⟩ | ⟨-, -, -, e⟩ <;>
    rw [e] at h
  · exact .inl ⟨hh, (After.running.inj h).symm⟩
  · exact .inr (.inl ⟨hh, hl, (After.running.inj h).symm⟩)
  · exact .inr (.inr ⟨hh, (After.running.inj h).symm⟩)
  · cases h

theorem homeTimers_info_page (h : homeTimers env t = .running u) : u.info_page = t.info_page := by
  rcases homeTimers_shape h with ⟨-, rfl⟩ | ⟨-, -, rfl⟩ | ⟨-, rfl⟩ <;>
    simp [statusPoll_info_page]

/-- The home-screen block leaves an info screen as it found it. -/
theorem homeTimers_of_info (h : homeTimers env t = .running u)
    (hu : u.layoutLast = .layoutDeviceInfo) : u = t := by
  rcases homeTimers_shape h with ⟨-, rfl⟩ | ⟨ht, -, rfl⟩ | ⟨-, rfl⟩
  · rfl
  · rcases statusPoll_layoutLast env t with e | e <;> simp [e, ht] at hu
  · rcases statusPoll_layoutLast env (layoutScreensaver (t.emit [.session_clear true]))
      with e | e <;> simp [e] at hu

/-- A home screen left by the home-screen block has neither the lock nor the poll due. -/
theorem homeTimers_home_fresh (hd : 0 < env.config_getAutoLockDelayMs)
    (h : homeTimers env t = .running u) (hu : u.layoutLast = .layoutHome) :
    env.now - u.system_millis_lock_start < env.config_getAutoLockDelayMs ∧
      env.now - u.system_millis_logo_refresh < 1000 := by
  rcases homeTimers_shape h with ⟨ht, rfl⟩ | ⟨-, hl, rfl⟩ | ⟨-, rfl⟩
  · exact absurd hu ht
  · exact statusPoll_home_fresh hd (fun _ => hl) hu
  · exact statusPoll_home_fresh hd (fun h => by simp at h) hu

/-! ## The info-page branch -/

theorem infoTimeout_shape (env : Env) (s : NavContext) :
    (env.now - s.system_millis_display_info_start < 10 * 1000 ∧ infoTimeout env s = s) ∨
      infoTimeout env s = { s with info_page := 0 } := by
  unfold infoTimeout
  split
  · exact .inr rfl
  · exact .inl ⟨UInt32.not_le.1 ‹_›, rfl⟩

theorem infoTimeout_of_lt (h : env.now - s.system_millis_display_info_start < 10 * 1000) :
    infoTimeout env s = s :=
  if_neg (UInt32.not_le.2 h)

theorem infoTimeout_of_le (h : 10 * 1000 ≤ env.now - s.system_millis_display_info_start) :
    infoTimeout env s = { s with info_page := 0 } :=
  if_pos h

theorem homeIfNoPage_of_zero (h : s.info_page = 0) : homeIfNoPage env s = layoutHome env s :=
  if_pos h

theorem homeIfNoPage_of_ne (h : s.info_page ≠ 0) : homeIfNoPage env s = s :=
  if_neg h

/-- Up on a page after the first: the page before. -/
theorem pageButtons_up (hu : env.button.UpUp = true) (hp : s.info_page ≠ 0) :
    pageButtons env s = layoutDeviceInfo env (s.info_page - 1) { s with info_page := s.info_page - 1 } := by
  simp [pageButtons, hu, hp]

theorem pageButtons_up_zero (hu : env.button.UpUp = true) (hp : s.info_page = 0) :
    pageButtons env s = s := by
  simp [pageButtons, hu, hp]

/-- Down short of the last page: the page after. -/
theorem pageButtons_down (hu : env.button.UpUp = false) (hd : env.button.DownUp = true)
    (hp : s.info_page < DEVICE_INFO_PAGE_NUM) :
    pageButtons env s = layoutDeviceInfo env (s.info_page + 1) { s with info_page := s.info_page + 1 } := by
  simp [pageButtons, hu, hd, hp]

/-- Down on the last page leaves the pages. -/
theorem pageButtons_down_last (hu : env.button.UpUp = false) (hd : env.button.DownUp = true)
    (hp : ¬s.info_page < DEVICE_INFO_PAGE_NUM) : pageButtons env s = { s with info_page := 0 } := by
  simp [pageButtons, hu, hd, hp]

/-- A cancel with neither Up nor Down leaves the pages. -/
theorem pageButtons_cancel (hu : env.button.UpUp = false) (hd : env.button.DownUp = false)
    (hn : env.button.NoUp = true) : pageButtons env s = { s with info_page := 0 } := by
  simp [pageButtons, hu, hd, hn]

theorem pageButtons_none (hu : env.button.UpUp = false) (hd : env.button.DownUp = false)
    (hn : env.button.NoUp = false) : pageButtons env s = s := by
  simp [pageButtons, hu, hd, hn]

/-- Up or Down on the home screen: page 4 or page 1. -/
theorem browseInfo_of_home_edge (hh : s.layoutLast = .layoutHome)
    (he : (env.button.UpUp || env.button.DownUp) = true) :
    browseInfo env s = layoutDeviceInfo env (if env.button.UpUp then DEVICE_INFO_PAGE_NUM else 1)
      { s with info_page := if env.button.UpUp then DEVICE_INFO_PAGE_NUM else 1 } := by
  simp only [browseInfo, hh, if_true, he]

theorem browseInfo_of_home (hh : s.layoutLast = .layoutHome)
    (he : (env.button.UpUp || env.button.DownUp) = false) : browseInfo env s = s := by
  simp [browseInfo, hh, he]

theorem browseInfo_of_info (hi : s.layoutLast = .layoutDeviceInfo) :
    browseInfo env s = homeIfNoPage env (pageButtons env (infoTimeout env s)) := by
  simp [browseInfo, hi]

theorem browseInfo_of_other (hh : s.layoutLast ≠ .layoutHome)
    (hi : s.layoutLast ≠ .layoutDeviceInfo) : browseInfo env s = s := by
  simp [browseInfo, hh, hi]

/-- What the buttons on an info page can do: nothing, leave the pages, or render a page no
further than one past the current one. -/
theorem pageButtons_shape (env : Env) (s : NavContext) :
    pageButtons env s = s ∨ pageButtons env s = { s with info_page := 0 } ∨
      ∃ p ≤ max s.info_page DEVICE_INFO_PAGE_NUM,
        pageButtons env s = layoutDeviceInfo env p { s with info_page := p } := by
  unfold pageButtons
  split_ifs
  · exact .inr (.inr ⟨_, by omega, rfl⟩)
  · exact .inl rfl
  · exact .inr (.inr ⟨_, by omega, rfl⟩)
  · exact .inr (.inl rfl)
  · exact .inr (.inl rfl)
  · exact .inl rfl

/-- The end of the info-page branch, from the state `t` the timeout left: the same page, a
page rendered by a button, or the home screen with `info_page = 0`. -/
theorem infoPages_shape (env : Env) (t : NavContext) :
    (homeIfNoPage env (pageButtons env t) = t ∧ t.info_page ≠ 0) ∨
    (∃ p, 1 ≤ p ∧ p ≤ max t.info_page DEVICE_INFO_PAGE_NUM ∧
      ∃ t' : NavContext, homeIfNoPage env (pageButtons env t) = layoutDeviceInfo env p { t' with info_page := p }) ∨
    (∃ r, r.info_page = 0 ∧ homeIfNoPage env (pageButtons env t) = layoutHome env r) := by
  unfold homeIfNoPage
  split
  · exact .inr (.inr ⟨_, ‹_›, rfl⟩)
  · rename_i h
    rcases pageButtons_shape env t with e | e | ⟨p, hp, e⟩ <;> rw [e] at h ⊢
    · exact .inl ⟨rfl, h⟩
    · simp at h
    · exact .inr (.inl ⟨p, Nat.one_le_iff_ne_zero.2 (by simpa using h), hp, t, rfl⟩)

/-- What the info-page branch can do: nothing, render a page, or go home with `info_page = 0`;
when it does nothing on an info screen, that screen shows a page whose timeout has not passed. -/
theorem browseInfo_shape (env : Env) (s : NavContext) :
    (browseInfo env s = s ∧ (s.layoutLast = .layoutDeviceInfo →
      env.now - s.system_millis_display_info_start < 10 * 1000 ∧ s.info_page ≠ 0)) ∨
    (∃ p, 1 ≤ p ∧ p ≤ max s.info_page DEVICE_INFO_PAGE_NUM ∧
      ∃ t : NavContext, browseInfo env s = layoutDeviceInfo env p { t with info_page := p }) ∨
    (∃ r, r.info_page = 0 ∧ browseInfo env s = layoutHome env r) := by
  unfold browseInfo
  split
  · rename_i hhome
    split
    · exact .inr (.inl ⟨_, by split <;> decide, by split <;> simp [DEVICE_INFO_PAGE_NUM], s, rfl⟩)
    · exact .inl ⟨rfl, fun h => by simp [hhome] at h⟩
  · split
    · rcases infoTimeout_shape env s with ⟨hf, e⟩ | e <;> rw [e]
      · exact (infoPages_shape env s).imp (fun ⟨e', h⟩ => ⟨e', fun _ => ⟨hf, h⟩⟩) id
      · rcases infoPages_shape env { s with info_page := 0 } with ⟨-, h⟩ | ⟨p, hp1, hp, t, e'⟩ | h
        · exact absurd rfl h
        · exact .inr (.inl ⟨p, hp1, by simp at hp; omega, t, e'⟩)
        · exact .inr (.inr h)
    · exact .inl ⟨rfl, fun h => absurd h ‹_›⟩

/-- A relation that composes, and that the home screen, a page drawn after `info_page` is set, and
`info_page = 0` each make, holds across the whole info-page branch. -/
theorem browseInfo_induct {R : NavContext → NavContext → Prop} (refl : ∀ t, R t t)
    (trans : ∀ {a b c}, R a b → R b c → R a c) (home : ∀ t, R t (layoutHome env t))
    (page : ∀ t p q, R t (layoutDeviceInfo env p { t with info_page := q }))
    (clear : ∀ t, R t { t with info_page := 0 }) (s : NavContext) : R s (browseInfo env s) := by
  have ht : R s (infoTimeout env s) := by
    unfold infoTimeout; split
    exacts [clear s, refl s]
  have hb : ∀ t, R t (pageButtons env t) := fun t => by
    unfold pageButtons
    split_ifs <;> first | exact page _ _ _ | exact clear t | exact refl t
  have hh : ∀ t, R t (homeIfNoPage env t) := fun t => by
    unfold homeIfNoPage; split
    exacts [home t, refl t]
  unfold browseInfo
  split_ifs <;> first | exact page _ _ _ | exact trans (trans ht (hb _)) (hh _) | exact refl s

/-- An info screen left by the info-page branch shows a page whose timeout has not passed. -/
theorem browseInfo_info_fresh (h : (browseInfo env s).layoutLast = .layoutDeviceInfo) :
    env.now - (browseInfo env s).system_millis_display_info_start < 10 * 1000 ∧
      (browseInfo env s).info_page ≠ 0 := by
  rcases browseInfo_shape env s with ⟨e, hf⟩ | ⟨p, hp, -, t, e⟩ | ⟨r, -, e⟩ <;> rw [e] at h ⊢
  · exact hf h
  · simp; omega
  · simp at h

/-! ## The wake and the cancel -/

/-- What the last phase can do: nothing, wake the screensaver into the home screen, or abort
signing and recovery on a cancel. -/
theorem wakeOrCancel_shape (env : Env) (u : NavContext) :
    wakeOrCancel env u = u ∨
    (u.layoutLast = .layoutScreensaver ∧ wakeOrCancel env u = layoutHome env u) ∨
    (u.layoutLast ≠ .layoutHome ∧ u.layoutLast ≠ .layoutScreensaver ∧ env.button.NoUp = true ∧
      wakeOrCancel env u = u.emit [.recovery_abort, .signing_abort]) := by
  unfold wakeOrCancel
  split
  · exact .inr (.inl ⟨(‹_ ∧ _›).1, rfl⟩)
  · split
    · rename_i h
      exact .inr (.inr ⟨h.1, h.2.1, h.2.2, rfl⟩)
    · exact .inl rfl

theorem wakeOrCancel_of_home (h : u.layoutLast = .layoutHome) : wakeOrCancel env u = u := by
  simp [wakeOrCancel, h]

/-- The screensaver wakes into the home screen on any edge, and stays up otherwise. -/
theorem wakeOrCancel_of_saver (h : u.layoutLast = .layoutScreensaver) :
    wakeOrCancel env u = if (env.button.NoUp || env.button.YesUp || env.button.UpUp ||
      env.button.DownUp) = true then layoutHome env u else u := by
  unfold wakeOrCancel
  split_ifs <;> simp_all

/-- A cancel on any screen other than home and the screensaver aborts recovery and signing. -/
theorem wakeOrCancel_cancel (h1 : u.layoutLast ≠ .layoutHome) (h2 : u.layoutLast ≠ .layoutScreensaver)
    (hn : env.button.NoUp = true) : wakeOrCancel env u = u.emit [.recovery_abort, .signing_abort] := by
  simp [wakeOrCancel, h1, h2, hn]

/-- Off the screensaver, and without a cancel, nothing happens. -/
theorem wakeOrCancel_of_no_cancel (h : u.layoutLast ≠ .layoutScreensaver)
    (hn : env.button.NoUp = false) : wakeOrCancel env u = u := by
  simp [wakeOrCancel, h, hn]

/-! ## A whole tick -/

theorem layoutHomeInfo_of_running (h : homeTimers env (browseInfo env (refreshHome env s)) = .running u) :
    layoutHomeInfo env s = .running (wakeOrCancel env u) := by
  simp only [layoutHomeInfo, h]

theorem layoutHomeInfo_of_poweredOff
    (h : homeTimers env (browseInfo env (refreshHome env s)) = .poweredOff u) :
    layoutHomeInfo env s = .poweredOff u := by
  simp only [layoutHomeInfo, h]

/-- A tick is the three phases, then the wake-or-cancel unless the device powered off. -/
theorem layoutHomeInfo_cases (env : Env) (s : NavContext) :
    (∃ u, homeTimers env (browseInfo env (refreshHome env s)) = .running u ∧
      layoutHomeInfo env s = .running (wakeOrCancel env u)) ∨
    (∃ u, homeTimers env (browseInfo env (refreshHome env s)) = .poweredOff u ∧
      layoutHomeInfo env s = .poweredOff u) := by
  cases h : homeTimers env (browseInfo env (refreshHome env s))
  · exact .inl ⟨_, rfl, layoutHomeInfo_of_running h⟩
  · exact .inr ⟨_, rfl, layoutHomeInfo_of_poweredOff h⟩

/-- A tick whose info-page branch leaves the home screen just drawn ends with the status poll: the
lock it has just re-armed is not due, and there is nothing to wake or cancel. -/
theorem layoutHomeInfo_of_home {r : NavContext} (hd : 0 < env.config_getAutoLockDelayMs)
    (h : browseInfo env (refreshHome env s) = layoutHome env r) :
    layoutHomeInfo env s = .running (statusPoll env (layoutHome env r)) := by
  rw [layoutHomeInfo_of_running (by rw [h, homeTimers_of_lt rfl (by simpa using hd)]),
    wakeOrCancel_of_home (statusPoll_home env rfl rfl).1]

/-- The state a tick leaves, whether it returned or powered the device off. -/
def After.state : After → NavContext
  | .running s => s
  | .poweredOff s => s

/-- A relation that composes, and that each call a tick can make establishes, holds across the
whole tick, a tick that powers the device off included. -/
theorem layoutHomeInfo_induct {R : NavContext → NavContext → Prop} (refl : ∀ t, R t t)
    (trans : ∀ {a b c}, R a b → R b c → R a c) (home : ∀ t, R t (layoutHome env t))
    (page : ∀ t p q, R t (layoutDeviceInfo env p { t with info_page := q }))
    (clear : ∀ t, R t { t with info_page := 0 }) (poll : ∀ t, R t (statusPoll env t))
    (lock : ∀ t, R t (layoutScreensaver (t.emit [.session_clear true])))
    (shutdown : ∀ t, R t (t.emit [.shutdown]))
    (cancel : ∀ t, R t (t.emit [.recovery_abort, .signing_abort])) (s : NavContext) :
    R s (layoutHomeInfo env s).state := by
  have hr : R s (refreshHome env s) := by
    rcases refreshHome_shape env s with e | e <;> rw [e]
    exacts [home s, refl s]
  have ht : ∀ t, R t (homeTimers env t).state := fun t => by
    rcases homeTimers_cases env t with ⟨-, e⟩ | ⟨-, -, e⟩ | ⟨-, -, -, e⟩ | ⟨-, -, -, e⟩ <;> rw [e]
    exacts [refl t, poll t, trans (lock t) (poll _), shutdown t]
  have hw : ∀ u, R u (wakeOrCancel env u) := fun u => by
    rcases wakeOrCancel_shape env u with e | ⟨-, e⟩ | ⟨-, -, -, e⟩ <;> rw [e]
    exacts [refl u, home u, cancel u]
  have h := trans (trans hr (browseInfo_induct refl trans home page clear _)) (ht _)
  rcases layoutHomeInfo_cases env s with ⟨u, e, e'⟩ | ⟨u, e, e'⟩ <;> rw [e] at h <;> rw [e']
  exacts [trans h (hw u), h]

/-- A tick that returns is the three phases and the wake-or-cancel. -/
theorem layoutHomeInfo_running (h : layoutHomeInfo env s = .running s') :
    ∃ u, homeTimers env (browseInfo env (refreshHome env s)) = .running u ∧
      s' = wakeOrCancel env u := by
  rcases layoutHomeInfo_cases env s with ⟨u, hu, e⟩ | ⟨u, -, e⟩ <;> rw [e] at h
  · exact ⟨u, hu, (After.running.inj h).symm⟩
  · cases h

end BixinLayout.Nav
