import BixinLayout.Pager
import BixinLayout.HumanizerProof

/-!
# The device-information pages

`layoutDeviceInfo(ucPage)` draws one of four pages of settings; what it does to navigation is in
`BixinLayout.Nav.Machine`. This module models the text of the four pages, in both languages
(`layoutDeviceInfoText`), each line as the label on the left and the value on the right. Page 2 ends with
the auto-lock delay in seconds, written right to left into `char secstrbuf[] = "________0 s"` from
`secstr = secstrbuf + 9` by a `do`-`while` loop, one digit a pass, whose test
`secstr >= secstrbuf` is made after each write.

**Seconds loop.** From offset `pos` of a buffer, the loop writes the `k` decimal digits of its
value at offsets `pos - k` to `pos - 1`, last digit first, and stops with `secstr` on the first
digit. When `k > pos` it writes before the buffer: its test comes after the write and never stops
it (`secstrLoop_eq`).

**Page 2 seconds.** For every delay `config_getAutoLockDelayMs()` returns, the delay in seconds
has at most seven digits, so the loop writes only offsets 2 to 8 of `secstrbuf`, one per digit,
and `secstr` spells the digits and ` s` (`page2Secstr_spec`). The page therefore always ends with
that line (`layoutDeviceInfoPage2_autolock`).
-/

namespace BixinLayout

/-! ## The seconds loop -/

/-- `*p = c` for `p` at offset `i` of the buffer, which may be before it; `none` outside it. -/
def pokeAt (buf : List UInt8) (i : Int) (c : UInt8) : Option (List UInt8) :=
  if 0 ≤ i then poke buf i.toNat c else none

/-- The `do`-`while` loop of page 2 from `secstr = secstrbuf + pos`, `secs` being the `uint32_t`
left to write: `secstr--; *secstr = (secs % 10) + '0'; secs /= 10;` while
`secs > 0 && secstr >= secstrbuf`. The buffer, the offset `secstr` ends at and the offsets
written, in order; `none` where a write leaves the buffer. -/
def secstrLoop (buf : List UInt8) (pos : Int) (secs : Nat) :
    Option (List UInt8 × Int × List Int) :=
  match pokeAt buf (pos - 1) (secs % 10 + '0'.toNat).toUInt8 with
  | none => none
  | some buf' =>
    if h : secs / 10 > 0 ∧ pos - 1 ≥ 0 then
      (secstrLoop buf' (pos - 1) (secs / 10)).map fun r => (r.1, r.2.1, (pos - 1) :: r.2.2)
    else some (buf', pos - 1, [pos - 1])
termination_by secs
decreasing_by omega

theorem pokeAt_of_lt {buf : List UInt8} {i : Nat} (h : i < buf.length) (c : UInt8) :
    pokeAt buf i c = some (buf.set i c) := by
  rw [pokeAt, if_pos (Int.natCast_nonneg i), Int.toNat_ofNat, poke_of_lt h]

/-- A pass from the front of the buffer writes before it. -/
theorem secstrLoop_front (buf : List UInt8) (secs : Nat) :
    secstrLoop buf (0 : Nat) secs = none := by
  rw [secstrLoop, pokeAt, if_neg (by omega)]

/-- One pass from offset `p + 1` inside the buffer writes the last digit at `p` and goes on from
there while digits are left: after a write that lands, `secstr >= secstrbuf` always holds. -/
theorem secstrLoop_pass {buf : List UInt8} {p : Nat} (h : p < buf.length) (secs : Nat) :
    secstrLoop buf (p + 1 : Nat) secs =
      if secs < 10 then some (buf.set p (48 + secs % 10).toUInt8, (p : Int), [(p : Int)])
      else (secstrLoop (buf.set p (48 + secs % 10).toUInt8) p (secs / 10)).map
        fun r => (r.1, r.2.1, (p : Int) :: r.2.2) := by
  rw [secstrLoop, show ((p + 1 : Nat) : Int) - 1 = (p : Int) by omega, pokeAt_of_lt h,
    Nat.add_comm (secs % 10)]
  dsimp only
  by_cases h10 : secs < 10
  · rw [dif_neg (by omega), if_pos h10]; rfl
  · rw [dif_pos ⟨by omega, by omega⟩, if_neg h10]; rfl

/-- The loop writes the digits of its value in front of `pos`, last digit first. -/
theorem secstrLoop_eq (secs : Nat) {buf : List UInt8} {pos : Nat} (hpos : pos ≤ buf.length) :
    secstrLoop buf pos secs =
      if (decimal secs).length ≤ pos then
        some (buf.take (pos - (decimal secs).length) ++ decimal secs ++ buf.drop pos,
          ((pos - (decimal secs).length : Nat) : Int),
          (List.range (decimal secs).length).map fun i : Nat => (pos : Int) - 1 - i)
      else none := by
  induction secs using Nat.strong_induction_on generalizing buf pos with
  | _ secs ih =>
  cases pos with
  | zero => rw [secstrLoop_front, if_neg (by have := length_decimal_pos secs; omega)]
  | succ p =>
    rw [secstrLoop_pass (by omega)]
    have hd := decimal_eq secs
    by_cases h10 : secs < 10
    · -- the last pass
      rw [if_pos h10, List.nil_append] at hd
      rw [if_pos h10, hd, if_pos (by simp), List.set_eq_take_append_cons_drop, if_pos (by omega)]
      simp [List.range_succ]
    · -- the digits of `secs / 10` go in front of this one
      rw [if_neg h10] at hd
      rw [if_neg h10, ih _ (Nat.div_lt_self (by omega) (by decide)) (by simp; omega), hd,
        List.length_append, List.length_singleton]
      generalize decimal (secs / 10) = D
      by_cases hk : D.length ≤ p
      · rw [if_pos hk, if_pos (by omega), Option.map_some',
          List.set_eq_take_append_cons_drop, if_pos (by omega)]
        simp only [Option.some.injEq, Prod.mk.injEq]
        refine ⟨?_, by omega, ?_⟩
        · rw [List.take_append_of_le_length (by simp; omega), List.take_take,
            Nat.min_eq_left (by omega), List.drop_left' (by simp; omega),
            show p + 1 - (D.length + 1) = p - D.length by omega]
          simp
        · simp only [List.range_succ_eq_map, List.map_cons, List.map_map]
          congr 1
          · push_cast; ring
          · exact List.map_congr_left fun i _ => by simp only [Function.comp]; push_cast; ring
      · rw [if_neg hk, if_neg (by omega)]
        rfl

/-! ## Page 2 -/

/-- `char secstrbuf[] = "________0 s"`. -/
def secstrbuf : List UInt8 := lit "________0 s" ++ [0]

/-- The loop of page 2 on `secs = config_getAutoLockDelayMs() / 1000`, from `secstrbuf + 9`. -/
def page2Secstr (delay_ms : UInt32) : Option (List UInt8 × Int × List Int) :=
  secstrLoop secstrbuf 9 (delay_ms / 1000).toNat

@[simp] theorem length_secstrbuf : secstrbuf.length = 12 := rfl

theorem zero_not_mem_decimal (n : Nat) : 0 ∉ decimal n :=
  fun h => ne_zero_of_printable (printable_of_mem_decimal h) rfl

/-- A `uint32_t` number of milliseconds has at most seven digits of seconds. -/
theorem length_decimal_secs_le (d : UInt32) : (decimal (d.toNat / 1000)).length ≤ 7 :=
  (length_decimal_le_iff (by decide)).2 (by
    have := d.toNat_lt_size; simp only [UInt32.size] at this; omega)

/-- The loop of page 2, run: the digits sit in front of offset 9, written from 8 down. -/
theorem page2Secstr_eq (d : UInt32) :
    page2Secstr d = some (secstrbuf.take (9 - (decimal (d.toNat / 1000)).length) ++
        decimal (d.toNat / 1000) ++ secstrbuf.drop 9,
      ((9 - (decimal (d.toNat / 1000)).length : Nat) : Int),
      (List.range (decimal (d.toNat / 1000)).length).map fun i : Nat => 8 - (i : Int)) := by
  have e := secstrLoop_eq (d.toNat / 1000) (show 9 ≤ secstrbuf.length by decide)
  rw [if_pos (by have := length_decimal_secs_le d; omega), Nat.cast_ofNat] at e
  have hsecs : (d / 1000).toNat = d.toNat / 1000 := UInt32.toNat_div d 1000
  rw [page2Secstr, hsecs, e]
  exact congrArg (fun w => some (_, _, w)) (List.map_congr_left fun i _ => by omega)

/-- What `secstr` reads once `k ≤ 9` digits are in front of offset 9: the digits and ` s`. -/
theorem cstr_drop_secstrbuf {D : List UInt8} (h0 : 0 ∉ D) (hD : D.length ≤ 9) :
    cstr ((secstrbuf.take (9 - D.length) ++ D ++ secstrbuf.drop 9).drop (9 - D.length)) =
      D ++ lit " s" := by
  rw [List.append_assoc, List.drop_left' (by simp; omega),
    show secstrbuf.drop 9 = lit " s" ++ [0] from rfl, ← List.append_assoc]
  exact cstr_append_zero (List.not_mem_append h0 (by decide)) []

/-- **Page 2 seconds.** For every delay `config_getAutoLockDelayMs()` returns, the delay in
seconds has `k ≤ 7` digits, and the loop runs `k` times, writing offsets 8 down to `9 - k` of
`secstrbuf`, all at 2 or above, and nothing else; `secstr` then spells the digits and ` s`. -/
theorem page2Secstr_spec (d : UInt32) :
    ∃ k, k = (decimal (d.toNat / 1000)).length ∧ k ≤ 7 ∧
      ∃ buf writes, page2Secstr d = some (buf, ((9 - k : Nat) : Int), writes) ∧
        writes.length = k ∧ writes = (List.range k).map (fun i : Nat => 8 - (i : Int)) ∧
        (∀ w ∈ writes, 2 ≤ w) ∧
        buf = secstrbuf.take (9 - k) ++ decimal (d.toNat / 1000) ++ secstrbuf.drop 9 ∧
        cstr (buf.drop (9 - k)) = decimal (d.toNat / 1000) ++ lit " s" := by
  have h7 := length_decimal_secs_le d
  refine ⟨_, rfl, h7, _, _, page2Secstr_eq d, by simp, rfl, ?_, rfl,
    cstr_drop_secstrbuf (zero_not_mem_decimal _) (by omega)⟩
  simp only [List.mem_map, List.mem_range]
  rintro w ⟨i, hi, rfl⟩
  omega

/-- What page 2 reads from the rest of the firmware. The page calls `ble_switch_state()` twice,
taken to answer the same both times. -/
structure Page2Env where
  ble_switch_state : Bool
  config_getWhetherUseSE : Bool
  /-- What `config_getLabel(label, sizeof(label))` leaves in `label`. -/
  label : List UInt8
  /-- The serial number, when `se_get_sn(&se_sn)` succeeds. -/
  se_sn : Option (List UInt8)
  config_getAutoLockDelayMs : UInt32

/-- A line of a page: the text drawn on the left, the text drawn on the right, and whether the
right one goes through the Chinese string routine. -/
structure InfoLine where
  left : List UInt8
  right : List UInt8
  zh : Bool
deriving DecidableEq, Repr

/-- Page 2 of `layoutDeviceInfo(2)` in English, top to bottom; the auto-lock delay is drawn on the
line below its title. -/
def layoutDeviceInfoPage2 (env : Page2Env) : Option (List InfoLine) :=
  (page2Secstr env.config_getAutoLockDelayMs).map fun (buf, secstr, _) =>
    (if env.ble_switch_state then
        [⟨lit "BLE enable:", if env.ble_switch_state then lit "Yes" else lit "No", false⟩]
      else []) ++
    [⟨lit "Use SE:", if env.config_getWhetherUseSE then lit "Yes" else lit "No", false⟩,
      ⟨lit "Label:", cstr env.label, !is_valid_ascii env.label (strlen env.label)⟩] ++
    (match env.se_sn with
      | some sn => [⟨lit "SN:", cstr sn, false⟩]
      | none => []) ++
    [⟨lit "Auto-Lock & Shutdown:", cstr (buf.drop secstr.toNat), false⟩]

/-- **Page 2.** For every answer of the firmware the page is drawn, and its last line is the
auto-lock delay in whole seconds and ` s`. -/
theorem layoutDeviceInfoPage2_autolock (env : Page2Env) :
    ∃ lines, layoutDeviceInfoPage2 env = some lines ∧
      lines.getLast? = some ⟨lit "Auto-Lock & Shutdown:",
        decimal (env.config_getAutoLockDelayMs.toNat / 1000) ++ lit " s", false⟩ := by
  have h7 := length_decimal_secs_le env.config_getAutoLockDelayMs
  refine ⟨_, by rw [layoutDeviceInfoPage2, page2Secstr_eq]; rfl, ?_⟩
  simp only [Int.toNat_ofNat,
    cstr_drop_secstrbuf (zero_not_mem_decimal (env.config_getAutoLockDelayMs.toNat / 1000))
      (by omega),
    List.getLast?_append, List.getLast?_singleton]
  rfl

/-- Page 2 of `layoutDeviceInfo(2)` in Chinese: the same lines, all drawn by the Chinese string
routine. -/
def layoutDeviceInfoPage2_zh (env : Page2Env) : Option (List InfoLine) :=
  (page2Secstr env.config_getAutoLockDelayMs).map fun (buf, secstr, _) =>
    (if env.ble_switch_state then
        [⟨lit "启用蓝牙:", if env.ble_switch_state then lit "是" else lit "否", true⟩]
      else []) ++
    [⟨lit "启用SE:", if env.config_getWhetherUseSE then lit "是" else lit "否", true⟩,
      ⟨lit "设备名称:", cstr env.label, true⟩] ++
    (match env.se_sn with
      | some sn => [⟨lit "序列号:", cstr sn, true⟩]
      | none => []) ++
    [⟨lit "锁屏&关机时间:", cstr (buf.drop secstr.toNat), true⟩]

/-! ## Pages 1, 3 and 4 -/

/-- What page 3, the fast-pay settings, reads from the rest of the firmware. -/
structure FastPayEnv where
  config_getFastPayMoneyLimt : UInt64
  config_getFastPayTimes : UInt32
  config_getFastPayPinFlag : Bool
  config_getFastPayConfirmFlag : Bool
  g_bSelectSEFlag : Bool
  /-- What `uint2str(times, times_str)` writes. -/
  uint2str : UInt32 → List UInt8
  /-- What `bn_format_uint64(amount, NULL, " BTC", 8, 0, false, str_out, sizeof(str_out) - 3)`
  writes. -/
  bn_format_uint64 : UInt64 → List UInt8

/-- Page 3 of `layoutDeviceInfo(3)`: a title, then four lines. In Chinese the PIN line asks
"check PIN" and answers from `config_getFastPayConfirmFlag()`, as the button line does. -/
def layoutDeviceInfoPage3 (ui_language : Bool) (env : FastPayEnv) : List InfoLine :=
  let times_str := env.uint2str env.config_getFastPayTimes
  let str_out := env.bn_format_uint64 env.config_getFastPayMoneyLimt
  if ui_language then
    [⟨lit "快捷支付", [], true⟩,
      ⟨lit "检查PIN:", if env.config_getFastPayConfirmFlag then lit "否" else lit "是", true⟩,
      ⟨lit "按键确认:", if env.config_getFastPayConfirmFlag then lit "否" else lit "是", true⟩,
      ⟨lit "剩余次数:", times_str, false⟩,
      ⟨if env.g_bSelectSEFlag then lit "单次限额:" else lit "单次限额:", str_out, false⟩]
  else
    [⟨lit "Fastpay settings", [], false⟩,
      ⟨lit "Skip pin check:", if env.config_getFastPayPinFlag then lit "Yes" else lit "No", false⟩,
      ⟨lit "Skip button confirm:",
        if env.config_getFastPayConfirmFlag then lit "Yes" else lit "No", false⟩,
      ⟨lit "Remaining times:", times_str, false⟩,
      ⟨if env.g_bSelectSEFlag then lit "Quota:" else lit "Quota:", str_out, false⟩]

/-- What pages 1 and 4 read. -/
structure VersionEnv where
  /-- `VERSTR(VERSION_MAJOR) "." VERSTR(VERSION_MINOR) "." VERSTR(VERSION_PATCH)`. -/
  version : List UInt8
  ble_ver_state : Bool
  ble_get_ver : List UInt8
  /-- The SE version, when `se_get_version(&se_version)` succeeds. -/
  se_version : Option (List UInt8)
  config_uuid_str : List UInt8
  ble_get_name : List UInt8

/-- Page 1 of `layoutDeviceInfo(1)`: the versions and the device id. -/
def layoutDeviceInfoPage1 (ui_language : Bool) (env : VersionEnv) : List InfoLine :=
  if ui_language then
    [⟨lit "STM32 版本:", env.version, true⟩] ++
      (if env.ble_ver_state then [⟨lit "蓝牙版本:", env.ble_get_ver, true⟩] else []) ++
      (match env.se_version with
        | some v => [⟨lit "SE 版本:", cstr v, true⟩]
        | none => []) ++
      [⟨lit "设备ID:", env.config_uuid_str, true⟩]
  else
    [⟨lit "STM32 version:", env.version, false⟩] ++
      (if env.ble_ver_state then [⟨lit "BLE version:", env.ble_get_ver, false⟩] else []) ++
      (match env.se_version with
        | some v => [⟨lit "SE version:", cstr v, false⟩]
        | none => []) ++
      [⟨lit "Device ID:", env.config_uuid_str, false⟩]

/-- Page 4 of `layoutDeviceInfo(4)`: the Bluetooth name. -/
def layoutDeviceInfoPage4 (ui_language : Bool) (env : VersionEnv) : List InfoLine :=
  if ui_language then [⟨lit "蓝牙名称:", env.ble_get_name, true⟩]
  else [⟨lit "BLE Name:", env.ble_get_name, false⟩]

/-- The text `layoutDeviceInfo(ucPage)` draws; any page but 1 to 4 draws nothing. -/
def layoutDeviceInfoText (ui_language : Bool) (versions : VersionEnv) (page2 : Page2Env)
    (fastPay : FastPayEnv) (ucPage : Nat) : Option (List InfoLine) :=
  match ucPage with
  | 1 => some (layoutDeviceInfoPage1 ui_language versions)
  | 2 => if ui_language then layoutDeviceInfoPage2_zh page2 else layoutDeviceInfoPage2 page2
  | 3 => some (layoutDeviceInfoPage3 ui_language fastPay)
  | 4 => some (layoutDeviceInfoPage4 ui_language versions)
  | _ => some []

end BixinLayout
