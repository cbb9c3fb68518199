import BixinLayout.CString

/-!
# The QR code of `layoutAddress`

With `qrcode` set, `layoutAddress` hands the address to `qrcodegen_encodeText`, upper-cased first
when `ignorecase` is set, inverts the left 64 × 64 square of the display and clears a block of it
for every dark module. A code of at most 29 modules a side is drawn at scale 2 from
`32 - side`, one of at most 60 at scale 1 from `32 - side / 2`; a larger code, or a failed
encoding (`side = 0`), leaves the square white.

`qrcodegen` and `oled.c` are not in the repository: the encoder is a parameter, and the drawing
is the list of `oled*` calls, read through what each call clears.

**The picture is the code.** A pixel is cleared exactly when it lies in the `scale × scale`
square of a dark module (`drawQr_image`), and every cleared pixel lies in `[2, 61]²`, two pixels
inside the white square (`layoutAddressQr_inside`). With `ignorecase` the encoder sees the
address with every `a`–`z` in capitals and no small letter left (`qrText_capitals`).
-/

namespace BixinLayout

/-- `address[i] >= 'a' && address[i] <= 'z' ? address[i] + 'A' - 'a' : address[i]`. -/
def upcase (c : UInt8) : UInt8 :=
  if 'a'.toUInt8 ≤ c ∧ c ≤ 'z'.toUInt8 then c + 'A'.toUInt8 - 'a'.toUInt8 else c

/-- `char address_upcase[addrlen + 1]` after the loop of `layoutAddress` with `ignorecase`: byte
`i` for every `i < addrlen + 1`, the terminating NUL included. -/
def address_upcase (address : List UInt8) : List UInt8 :=
  (List.range (strlen address + 1)).map fun i => upcase (address.getD i 0)

/-- The text `qrcodegen_encodeText` encodes: `ignorecase ? address_upcase : address`. -/
def qrText (address : List UInt8) (ignorecase : Bool) : List UInt8 :=
  if ignorecase then cstr (address_upcase address) else cstr address

/-- What `qrcodegen` leaves in `codedata`: `qrcodegen_getSize` and `qrcodegen_getModule`. -/
structure QrCode where
  side : Int
  getModule : Int → Int → Bool

/-- The drawing calls of the QR branch. -/
inductive OledCall where
  | oledInvert (x1 y1 x2 y2 : Int)
  | oledBox (x1 y1 x2 y2 : Int) (set : Bool)
  | oledClearPixel (x y : Int)
deriving DecidableEq, Repr

/-- Modelled from the spec, as `oled.c` is not in the repository: whether a call clears pixel
`(x, y)`. `oledBox(x1, y1, x2, y2, false)` clears every pixel between its corners,
`oledClearPixel` its one pixel. -/
def OledCall.clears : OledCall → Int → Int → Bool
  | .oledBox x1 y1 x2 y2 false, x, y => decide (x1 ≤ x ∧ x ≤ x2 ∧ y1 ≤ y ∧ y ≤ y2)
  | .oledClearPixel x' y', x, y => decide (x = x' ∧ y = y')
  | _, _, _ => false

@[simp] theorem oledInvert_clears (x1 y1 x2 y2 x y : Int) :
    (OledCall.oledInvert x1 y1 x2 y2).clears x y = false := rfl

/-- The modules `(i, j)` of a `side × side` code, in the order of the two nested loops. -/
def modules (side : Int) : List (Int × Int) :=
  (List.range side.toNat).flatMap fun (i : Nat) =>
    (List.range side.toNat).map fun (j : Nat) => ((i : Int), (j : Int))

/-- One call for each dark module, in loop order. -/
def darkModules (getModule : Int → Int → Bool) (side : Int) (draw : Int → Int → OledCall) :
    List OledCall :=
  (modules side).filterMap fun m => if getModule m.1 m.2 then some (draw m.1 m.2) else none

/-- The QR branch of `layoutAddress` after `side = qrcodegen_getSize(codedata)`. -/
def drawQr (side : Int) (getModule : Int → Int → Bool) : List OledCall :=
  .oledInvert 0 0 63 63 ::
    if side > 0 ∧ side ≤ 29 then
      let offset := 32 - side
      darkModules getModule side fun i j =>
        .oledBox (offset + i * 2) (offset + j * 2) (offset + 1 + i * 2) (offset + 1 + j * 2) false
    else if side > 0 ∧ side ≤ 60 then
      let offset := 32 - side / 2
      darkModules getModule side fun i j => .oledClearPixel (offset + i) (offset + j)
    else []

/-- `layoutAddress(address, desc, true, ignorecase, ...)`: the display calls of the QR code;
`side` stays 0 when `qrcodegen_encodeText` fails. -/
def layoutAddressQr (qrcodegen_encodeText : List UInt8 → Option QrCode) (address : List UInt8)
    (ignorecase : Bool) : List OledCall :=
  match qrcodegen_encodeText (qrText address ignorecase) with
  | some code => drawQr code.side code.getModule
  | none => drawQr 0 fun _ _ => false

/-! ## The text encoded -/

theorem chars_toUInt8 : 'a'.toUInt8 = 97 ∧ 'z'.toUInt8 = 122 ∧ 'A'.toUInt8 = 65 :=
  ⟨rfl, rfl, rfl⟩

theorem upcase_ne_zero {c : UInt8} (h : c ≠ 0) : upcase c ≠ 0 := by
  obtain ⟨b⟩ := c
  have hb : b ≠ 0 := fun hb => h (hb ▸ rfl)
  intro e
  have e := congrArg UInt8.toBitVec e
  simp only [upcase, chars_toUInt8, UInt8.le_def, UInt8.add_def, UInt8.sub_def,
    UInt8.toBitVec_ofNat] at e
  split at e <;> bv_omega

theorem not_small_upcase (c : UInt8) : upcase c < 'a'.toUInt8 ∨ 'z'.toUInt8 < upcase c := by
  obtain ⟨b⟩ := c
  simp only [upcase, chars_toUInt8, UInt8.le_def, UInt8.lt_def, UInt8.add_def, UInt8.sub_def,
    UInt8.toBitVec_ofNat]
  split <;> bv_omega

theorem cstr_cons {c : UInt8} (h : c ≠ 0) (rest : List UInt8) : cstr (c :: rest) = c :: cstr rest := by
  simp [cstr, h]

theorem address_upcase_cons {c : UInt8} (h : c ≠ 0) (rest : List UInt8) :
    address_upcase (c :: rest) = upcase c :: address_upcase rest := by
  rw [address_upcase, strlen, cstr_cons h, List.length_cons, List.range_succ_eq_map]
  simp [address_upcase, strlen]

theorem address_upcase_eq (address : List UInt8) :
    address_upcase address = (cstr address).map upcase ++ [0] := by
  induction address with
  | nil => rfl
  | cons c rest ih =>
    by_cases hc : c = 0
    · subst hc
      rfl
    · rw [address_upcase_cons hc, ih, cstr_cons hc]
      rfl

/-- **Capitals.** With `ignorecase` the encoder is handed the address with every `a`–`z` in
capitals: the loop copies `addrlen + 1` bytes, so the copy ends where the address does, and no
small letter is left in it. -/
theorem qrText_capitals (address : List UInt8) :
    qrText address true = (qrText address false).map upcase ∧
      ∀ c ∈ qrText address true, c < 'a'.toUInt8 ∨ 'z'.toUInt8 < c := by
  have e : qrText address true = (cstr address).map upcase := by
    simp only [qrText, if_true, address_upcase_eq]
    refine cstr_append_zero (fun h => ?_) []
    obtain ⟨c, hc, h0⟩ := List.mem_map.1 h
    exact upcase_ne_zero (fun e => zero_not_mem_cstr address (e ▸ hc)) h0
  refine ⟨e, fun c hc => ?_⟩
  rw [e] at hc
  obtain ⟨c, -, rfl⟩ := List.mem_map.1 hc
  exact not_small_upcase c

/-! ## The picture -/

/-- The square of module `(i, j)` at `scale`, the code placed at `offset` on both axes. -/
def InSquare (scale offset i j x y : Int) : Prop :=
  offset + scale * i ≤ x ∧ x < offset + scale * (i + 1) ∧
    offset + scale * j ≤ y ∧ y < offset + scale * (j + 1)

/-- The design's picture of a code: `(x, y)` lies in the square of a dark module. -/
def QrImage (side scale offset : Int) (getModule : Int → Int → Bool) (x y : Int) : Prop :=
  ∃ i j, 0 ≤ i ∧ i < side ∧ 0 ≤ j ∧ j < side ∧ getModule i j = true ∧
    InSquare scale offset i j x y

theorem mem_modules {side i j : Int} :
    (i, j) ∈ modules side ↔ 0 ≤ i ∧ i < side ∧ 0 ≤ j ∧ j < side := by
  simp only [modules, List.mem_flatMap, List.mem_map, List.mem_range, Prod.mk.injEq]
  constructor
  · rintro ⟨a, ha, b, hb, rfl, rfl⟩
    omega
  · rintro ⟨hi, hi', hj, hj'⟩
    exact ⟨i.toNat, by omega, j.toNat, by omega, by omega, by omega⟩

/-- A run of per-module calls clears exactly the squares of the dark modules, when each call
clears its module's square. -/
theorem darkModules_clears {getModule : Int → Int → Bool} {side scale offset x y : Int}
    {draw : Int → Int → OledCall}
    (hdraw : ∀ i j, (draw i j).clears x y = true ↔ InSquare scale offset i j x y) :
    (darkModules getModule side draw).any (·.clears x y) ↔
      QrImage side scale offset getModule x y := by
  simp only [darkModules, List.any_eq_true, List.mem_filterMap, Option.ite_none_right_eq_some,
    Option.some.injEq]
  constructor
  · rintro ⟨c, ⟨⟨i, j⟩, hm, hd, rfl⟩, hc⟩
    obtain ⟨hi, hi', hj, hj'⟩ := mem_modules.1 hm
    exact ⟨i, j, hi, hi', hj, hj', hd, (hdraw i j).1 hc⟩
  · rintro ⟨i, j, hi, hi', hj, hj', hd, hs⟩
    exact ⟨draw i j, ⟨(i, j), mem_modules.2 ⟨hi, hi', hj, hj'⟩, hd, rfl⟩, (hdraw i j).2 hs⟩

theorem oledBox_clears (offset i j x y : Int) :
    (OledCall.oledBox (offset + i * 2) (offset + j * 2) (offset + 1 + i * 2) (offset + 1 + j * 2)
      false).clears x y = true ↔ InSquare 2 offset i j x y := by
  simp only [OledCall.clears, decide_eq_true_eq, InSquare]
  omega

theorem oledClearPixel_clears (offset i j x y : Int) :
    (OledCall.oledClearPixel (offset + i) (offset + j)).clears x y = true ↔
      InSquare 1 offset i j x y := by
  simp only [OledCall.clears, decide_eq_true_eq, InSquare]
  omega

/-- **The picture is the code.** For every side and every module pattern, the QR branch clears
a pixel exactly when it lies in the square of a dark module: 2 × 2 squares from `32 - side` for
a code of at most 29 modules, single pixels from `32 - side / 2` for one of at most 60, and
nothing for any other side. -/
theorem drawQr_image (side : Int) (getModule : Int → Int → Bool) (x y : Int) :
    (drawQr side getModule).any (·.clears x y) ↔
      (0 < side ∧ side ≤ 29 ∧ QrImage side 2 (32 - side) getModule x y) ∨
        (29 < side ∧ side ≤ 60 ∧ QrImage side 1 (32 - side / 2) getModule x y) := by
  simp only [drawQr, List.any_cons, oledInvert_clears, Bool.false_or, gt_iff_lt]
  split_ifs with h29 h60
  · rw [darkModules_clears (oledBox_clears _ · · x y)]
    refine ⟨fun h => .inl ⟨h29.1, h29.2, h⟩, ?_⟩
    rintro (⟨-, -, h⟩ | ⟨h, -⟩)
    exacts [h, by omega]
  · rw [darkModules_clears (oledClearPixel_clears _ · · x y)]
    refine ⟨fun h => .inr ⟨by omega, h60.2, h⟩, ?_⟩
    rintro (⟨h0, h29', -⟩ | ⟨-, -, h⟩)
    exacts [absurd ⟨h0, h29'⟩ h29, h]
  · simp only [List.any_nil, Bool.false_eq_true, false_iff]
    rintro (⟨h, h', -⟩ | ⟨h, h', -⟩) <;> omega

theorem qrImage_inside {side scale offset : Int} {getModule : Int → Int → Bool} {x y : Int}
    (h : QrImage side scale offset getModule x y) (hlo : 2 ≤ offset)
    (hhi : offset + scale * side ≤ 62) (hs : 0 ≤ scale) :
    2 ≤ x ∧ x ≤ 61 ∧ 2 ≤ y ∧ y ≤ 61 := by
  obtain ⟨i, j, hi, hi', hj, hj', -, hx, hx', hy, hy'⟩ := h
  have hsi : scale * (i + 1) ≤ scale * side := Int.mul_le_mul_of_nonneg_left (by omega) hs
  have hsj : scale * (j + 1) ≤ scale * side := Int.mul_le_mul_of_nonneg_left (by omega) hs
  have : 0 ≤ scale * i := Int.mul_nonneg hs hi
  have : 0 ≤ scale * j := Int.mul_nonneg hs hj
  omega

/-- Every pixel the QR branch clears, for any side, lies in `[2, 61]²`. -/
theorem drawQr_inside {side : Int} {getModule : Int → Int → Bool} {x y : Int}
    (h : (drawQr side getModule).any (·.clears x y)) : 2 ≤ x ∧ x ≤ 61 ∧ 2 ≤ y ∧ y ≤ 61 := by
  simp only [drawQr, List.any_cons, oledInvert_clears, Bool.false_or, gt_iff_lt] at h
  split_ifs at h with h29 h60
  · exact qrImage_inside ((darkModules_clears (oledBox_clears _ · · x y)).1 h) (by omega)
      (by omega) (by decide)
  · exact qrImage_inside ((darkModules_clears (oledClearPixel_clears _ · · x y)).1 h) (by omega)
      (by omega) (by decide)
  · simp at h

/-- **A quiet zone.** Whatever the encoder returns for whatever address, every pixel the QR
branch clears lies in `[2, 61]²`, at least two pixels inside the inverted 64 × 64 square. -/
theorem layoutAddressQr_inside (qrcodegen_encodeText : List UInt8 → Option QrCode)
    (address : List UInt8) (ignorecase : Bool) (x y : Int)
    (h : (layoutAddressQr qrcodegen_encodeText address ignorecase).any (·.clears x y)) :
    2 ≤ x ∧ x ≤ 61 ∧ 2 ≤ y ∧ y ≤ 61 := by
  unfold layoutAddressQr at h
  split at h <;> exact drawQr_inside h

/-- A one-module code is one 2 × 2 box at the centre. -/
theorem layoutAddressQr_inside_one :
    (layoutAddressQr (fun _ => some ⟨1, fun _ _ => true⟩) [] false).any (·.clears 31 32) ∧
      2 ≤ (31 : Int) ∧ (31 : Int) ≤ 61 ∧ 2 ≤ (32 : Int) ∧ (32 : Int) ≤ 61 :=
  ⟨by decide, layoutAddressQr_inside (fun _ => some ⟨1, fun _ _ => true⟩) [] false 31 32 (by decide)⟩

end BixinLayout
