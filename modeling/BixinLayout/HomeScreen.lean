import BixinLayout.Pager

/-!
# The home screen

What `layoutHome()` draws; its screen change, its status logo and its lock timer are in
`BixinLayout.Nav.Machine`. A custom homescreen, when `config_getHomescreen` has one, is drawn
over the whole display and nothing else is. Otherwise the device label or the logo is drawn, then
at most one line at the bottom about the backup, then the Bluetooth name.

The label is drawn only on an initialised device, and only when
`strncmp(label, "BIXIN KEY", 9)` finds that it does not begin with `BIXIN KEY`.
-/

namespace BixinLayout

/-- `strncmp(s1, s2, n) != 0`: the strings differ within their first `n` bytes, a NUL included. -/
def strncmp (s1 s2 : List UInt8) (n : Nat) : Bool := (cstr s1 ++ [0]).take n != (cstr s2 ++ [0]).take n

/-- The prompts of `vDisp_PromptInfo`. -/
inductive PromptInfo where
  | DISP_NOT_ACTIVE
  | DISP_NEED_BACKUP
  | other
deriving DecidableEq, Repr

/-- What the home screen draws, in order. -/
inductive Draw where
  | oledClear
  | oledRefresh
  /-- `oledDrawBitmap(0, 0, &b)` of a custom homescreen. -/
  | homescreen (data : List UInt8)
  /-- `oledDrawBitmap(0, 8, &bmp_logo)`. -/
  | logo
  /-- A label centred across the display, through the Chinese routine or not. -/
  | label (text : List UInt8) (zh : Bool)
  /-- A line centred at the bottom of the display. -/
  | bottom (text : List UInt8) (zh : Bool)
  /-- `layoutFillBleName(5)`. -/
  | bleName
deriving DecidableEq, Repr

/-- `layoutLabel(label)`: the double font for printable ASCII, the Chinese routine otherwise. -/
def layoutLabel (label : List UInt8) : Draw :=
  .label (cstr label) (!is_valid_ascii label (strlen label))

/-- `vDisp_PromptInfo(ucIndex, ucMode)`. -/
def vDisp_PromptInfo (ui_language : Bool) (ucIndex : PromptInfo) (ucMode : Bool) : List Draw :=
  (if ucMode then [.oledClear] else []) ++
    (match ucIndex with
      | .DISP_NOT_ACTIVE =>
        [if ui_language then .bottom (lit "未激活") true else .bottom (lit "Not Activated") false]
      | .DISP_NEED_BACKUP =>
        [if ui_language then .bottom (lit "未备份") true else .bottom (lit "Needs Backup") false]
      | .other => []) ++
    (if ucMode then [.oledRefresh] else [])

/-- What `layoutHome()` reads to draw the home screen. -/
structure HomeEnv where
  ui_language : Bool
  no_backup : Bool
  unfinished_backup : Bool
  needs_backup : Bool
  /-- The custom homescreen, when `config_getHomescreen(homescreen, sizeof(homescreen))`
  returns one. -/
  homescreen : Option (List UInt8)
  config_isInitialized : Bool
  /-- What `config_getLabel(label, sizeof(label))` leaves in `label`. -/
  label : List UInt8

/-- What `layoutHome()` draws between the clear or swipe and the status logo. -/
def layoutHomeContent (env : HomeEnv) : List Draw :=
  match env.homescreen with
  | some data => [.homescreen data]
  | none =>
    (if env.config_isInitialized then
        (if strlen env.label ≠ 0 ∧ strncmp env.label (lit "BIXIN KEY") 9 then
          [layoutLabel env.label] else [.logo])
      else [.logo]) ++
    (if !env.config_isInitialized then vDisp_PromptInfo env.ui_language .DISP_NOT_ACTIVE false
      else if env.no_backup then [.bottom (lit "SEEDLESS") false]
      else if env.unfinished_backup then [.bottom (lit "BACKUP FAILED!") false]
      else if env.needs_backup then vDisp_PromptInfo env.ui_language .DISP_NEED_BACKUP false
      else []) ++
    [.bleName]

end BixinLayout
