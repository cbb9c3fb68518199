import BixinLayout.Humanizer
import Mathlib.Data.Nat.Digits

/-!
# The humanizer against its reference

The reference is the spec's description of the labels, read left to right: `Path: m` followed by
`/i` and a `'` for each hardened component, or, for a BIP-44/49/84 path with a resolvable ticker
and a number below 100, `T[ legacy][ segwit] account #n`.

The code builds the raw rendering right to left from the end of its buffer. The proof runs the
same way: each writer prepends a known block to the bytes already written, as long as the total
fits in the `addressStrSize` bytes of the buffer, and eight components of at most twelve bytes
each, behind `Path: m` and in front of the NUL, fit exactly.
-/

namespace BixinLayout

/-- The decimal digits of `n`, most significant first. -/
def decimal (n : Nat) : List UInt8 := (Nat.toDigits 10 n).map Char.toUInt8

/-- How the spec writes one component: `/`, its index, and `'` when hardened. -/
def componentText (x : UInt32) : List UInt8 :=
  lit "/" ++ decimal (x &&& 0x7fffffff).toNat ++ (if x &&& 0x80000000 != 0 then lit "'" else [])

/-- The spec's raw rendering of a path. -/
def rawRendering (p : List UInt32) : List UInt8 := lit "Path: m" ++ p.flatMap componentText

/-- The ticker the spec resolves for purpose `p0` and the registry entry `coin` of `p1`. -/
def specTicker (coin : Option CoinInfo) (p0 p1 : UInt32) : Option (List UInt8) :=
  if p0 = 0x80000000 + 84 then
    coin.bind fun c =>
      if c.has_segwit ∧ c.bech32_prefix.isSome then some (c.coin_shortcut.drop 1) else none
  else if p0 = 0x80000000 + 49 then
    coin.bind fun c => if c.has_segwit then some (c.coin_shortcut.drop 1) else none
  else match coin with
    | some c => some (c.coin_shortcut.drop 1)
    | none => slip44_extras p1

/-- The label the spec gives a BIP-44/49/84 path, when it gives one. -/
def specLabel (reg : Registry) (p : List UInt32) (flag : Bool) : Option (List UInt8) :=
  match p with
  | [p0, p1, p2, p3, p4] =>
    if (p0 = 0x80000000 + 44 ∨ p0 = 0x80000000 + 49 ∨ p0 = 0x80000000 + 84) ∧
        p1 &&& 0x80000000 ≠ 0 ∧ p2 &&& 0x80000000 ≠ 0 ∧ p3 ≤ 1 ∧ p4 ≤ 1000000 then
      let n := (if flag then p4.toNat else (p2 &&& 0x7fffffff).toNat) + 1
      match specTicker (reg p1) p0 p1 with
      | some T =>
        if n < 100 then
          some (T ++
            (if p0 = 0x80000000 + 44 ∧ (reg p1).any (·.has_segwit) then lit " legacy" else []) ++
            (if p0 = 0x80000000 + 84 then lit " segwit" else []) ++
            (if flag then lit " address #" else lit " account #") ++ decimal n)
        else none
      | none => none
    else none
  | _ => none

/-- The spec's humanizer: the label when there is one, the raw rendering otherwise. -/
def humanizedPath (reg : Registry) (p : List UInt32) (flag : Bool) : List UInt8 :=
  (specLabel reg p flag).getD (rawRendering p)

@[simp] theorem lit_slash : lit "/" = [Char.toUInt8 '/'] := rfl

@[simp] theorem lit_quote : lit "'" = [hardenedMark] := rfl

@[simp] theorem length_lit_path : (lit "Path: m").length = 7 := rfl

/-! ## Writing right to left -/

theorem put_of_lt {x : UInt8} {tail : List UInt8} (h : tail.length < addressStrSize) :
    put x tail = some (x :: tail) := if_pos h

theorem putAll_eq (s : List UInt8) {tail : List UInt8}
    (h : tail.length + s.length ≤ addressStrSize) : putAll s tail = some (s ++ tail) := by
  induction s with
  | nil => rfl
  | cons x s ih =>
    simp only [List.length_cons] at h
    simp only [putAll, List.foldr_cons] at ih ⊢
    rw [ih (by omega), Option.some_bind, put_of_lt (by simp; omega)]
    rfl

theorem toDigitsCore_append (f n : Nat) (ds : List Char) :
    Nat.toDigitsCore 10 f n ds = Nat.toDigitsCore 10 f n [] ++ ds := by
  induction f generalizing n ds with
  | zero => rfl
  | succ f ih =>
    simp only [Nat.toDigitsCore]
    split
    · rfl
    · rw [ih, ih _ [_], List.append_assoc]; rfl

theorem digit_byte {d : Nat} (h : d < 10) : (48 + d).toUInt8 = (Nat.digitChar d).toUInt8 :=
  (by decide : ∀ d < 10, (48 + d).toUInt8 = (Nat.digitChar d).toUInt8) d h

/-- The digit loop prepends the digits `Nat.toDigitsCore` computes with the same fuel. -/
theorem putDigits_eq (f i : Nat) {tail : List UInt8}
    (h : tail.length + (Nat.toDigitsCore 10 f i []).length ≤ addressStrSize) :
    putDigits f i tail = some ((Nat.toDigitsCore 10 f i []).map Char.toUInt8 ++ tail) := by
  induction f generalizing i tail with
  | zero => rfl
  | succ f ih =>
    have hd := digit_byte (Nat.mod_lt i (by decide : 10 > 0))
    simp only [Nat.toDigitsCore] at h ⊢
    by_cases h0 : i / 10 = 0
    · simp only [h0, if_true, List.length_singleton] at h ⊢
      simp [putDigits, put_of_lt (by omega : tail.length < _), h0, hd]
    · simp only [h0, if_false] at h ⊢
      rw [toDigitsCore_append] at h ⊢
      simp only [List.length_append, List.length_singleton] at h
      simp only [putDigits, put_of_lt (by omega : tail.length < _), Option.bind_eq_bind,
        Option.some_bind, if_pos (Nat.pos_of_ne_zero h0), hd]
      rw [ih _ (by simp only [List.length_cons]; omega)]
      simp

theorem decimal_length_le {n : Nat} (h : n < 2 ^ 32) : (decimal n).length ≤ 10 := by
  simpa [decimal, Nat.toDigits] using
    Nat.toDigitsCore_length 10 (by decide) (n + 1) n 10 (by omega) (by decide)

/-- `Nat.toDigitsCore` gives the same digits with any fuel above the number. -/
theorem toDigitsCore_fuel {f g n : Nat} (hf : n < f) (hg : n < g) :
    Nat.toDigitsCore 10 f n [] = Nat.toDigitsCore 10 g n [] := by
  induction f generalizing g n with
  | zero => omega
  | succ f ih =>
    obtain ⟨g, rfl⟩ : ∃ g', g = g' + 1 := ⟨g - 1, by omega⟩
    simp only [Nat.toDigitsCore]
    split
    · rfl
    · rw [toDigitsCore_append f, toDigitsCore_append g, ih (g := g) (by omega) (by omega)]

/-- The last digit of `n` comes last, after the digits of `n / 10`. -/
theorem decimal_eq (n : Nat) :
    decimal n = (if n < 10 then [] else decimal (n / 10)) ++ [(48 + n % 10).toUInt8] := by
  rw [digit_byte (Nat.mod_lt n (by decide))]
  conv_lhs => rw [decimal, Nat.toDigits, Nat.toDigitsCore]
  split
  · rw [if_pos (by omega)]; rfl
  · rw [if_neg (by omega), toDigitsCore_append, toDigitsCore_fuel (g := n / 10 + 1) (by omega)
      (by omega), List.map_append]
    rfl

theorem length_decimal_pos (n : Nat) : 0 < (decimal n).length := by
  rw [decimal_eq]; simp

/-- `n` has at most `e` digits exactly when it is below `10 ^ e`. -/
theorem length_decimal_le_iff {n e : Nat} (he : 0 < e) : (decimal n).length ≤ e ↔ n < 10 ^ e := by
  induction n using Nat.strong_induction_on generalizing e with
  | _ n ih =>
  rw [decimal_eq, List.length_append, List.length_singleton]
  split
  · exact ⟨fun _ => lt_of_lt_of_le ‹n < 10› (Nat.le_self_pow he.ne' 10), fun _ => by simp; omega⟩
  · obtain ⟨e, rfl⟩ : ∃ e', e = e' + 1 := ⟨e - 1, by omega⟩
    rcases Nat.eq_zero_or_pos e with rfl | he'
    · have := length_decimal_pos (n / 10)
      exact ⟨fun h => by omega, fun h => by omega⟩
    · rw [Nat.add_le_add_iff_right, ih _ (Nat.div_lt_self (by omega) (by decide)) he',
        Nat.div_lt_iff_lt_mul (by decide), Nat.pow_succ]

theorem putDigits_decimal (v : Nat) {tail : List UInt8}
    (h : tail.length + (decimal v).length ≤ addressStrSize) :
    putDigits (v + 1) v tail = some (decimal v ++ tail) :=
  putDigits_eq _ _ (by simpa [decimal, Nat.toDigits] using h)

theorem componentText_length (x : UInt32) : (componentText x).length ≤ 12 := by
  have := decimal_length_le (x &&& 0x7fffffff).toNat_lt_size
  simp only [componentText, List.length_append]
  split <;> simp only [lit_slash, lit_quote, List.length_singleton, List.length_nil] <;> omega

theorem putComponent_eq (x : UInt32) {tail : List UInt8}
    (h : tail.length + (componentText x).length ≤ addressStrSize) :
    putComponent x tail = some (componentText x ++ tail) := by
  have hd := decimal_length_le (x &&& 0x7fffffff).toNat_lt_size
  simp only [componentText, List.length_append] at h
  by_cases hx : (x &&& 0x80000000 != 0) = true
  · simp only [hx, if_true, lit_slash, lit_quote, List.length_singleton] at h
    simp only [putComponent, hx, if_true, put_of_lt (by omega : tail.length < _),
      Option.bind_eq_bind, Option.some_bind]
    rw [putDigits_decimal _ (by simp only [List.length_cons]; omega), Option.some_bind,
      put_of_lt (by simp only [List.length_append, List.length_cons]; omega)]
    simp [componentText, hx]
  · simp only [hx, Bool.false_eq_true, if_false, lit_slash, List.length_singleton,
      List.length_nil] at h
    simp only [putComponent, hx, Bool.false_eq_true, if_false, Option.bind_eq_bind,
      Option.some_bind]
    rw [putDigits_decimal _ (by omega), Option.some_bind,
      put_of_lt (by simp only [List.length_append]; omega)]
    simp [componentText, hx]

theorem putComponents_eq (p : List UInt32) {tail : List UInt8}
    (h : tail.length + (p.flatMap componentText).length ≤ addressStrSize) :
    p.foldr (fun i acc => acc.bind (putComponent i)) (some tail) =
      some (p.flatMap componentText ++ tail) := by
  induction p with
  | nil => rfl
  | cons x p ih =>
    simp only [List.flatMap_cons, List.length_append] at h
    rw [List.foldr_cons, ih (by omega), Option.some_bind,
      putComponent_eq x (by simp only [List.length_append]; omega)]
    simp

theorem flatMap_componentText_length (p : List UInt32) :
    (p.flatMap componentText).length ≤ 12 * p.length := by
  induction p with
  | nil => simp
  | cons x p ih =>
    simp only [List.flatMap_cons, List.length_append, List.length_cons]
    have := componentText_length x
    omega

theorem mem_toDigitsCore {f n : Nat} {c : Char} (h : c ∈ Nat.toDigitsCore 10 f n []) :
    ∃ d < 10, c = Nat.digitChar d := by
  induction f generalizing n with
  | zero => simp [Nat.toDigitsCore] at h
  | succ f ih =>
    simp only [Nat.toDigitsCore] at h
    split at h
    · exact ⟨n % 10, Nat.mod_lt _ (by decide), by simpa using h⟩
    · rw [toDigitsCore_append] at h
      rcases List.mem_append.1 h with h | h
      · exact ih h
      · exact ⟨n % 10, Nat.mod_lt _ (by decide), by simpa using h⟩

theorem printable_of_mem_decimal {n : Nat} {b : UInt8} (h : b ∈ decimal n) : Printable b := by
  obtain ⟨c, hc, rfl⟩ := List.mem_map.1 h
  obtain ⟨d, hd, rfl⟩ := mem_toDigitsCore hc
  exact (by decide : ∀ d < 10, Printable (Nat.digitChar d).toUInt8) d hd

theorem printable_of_mem_componentText {x : UInt32} {b : UInt8} (h : b ∈ componentText x) :
    Printable b := by
  simp only [componentText, List.mem_append] at h
  rcases h with (h | h) | h
  · rw [lit_slash, List.mem_singleton] at h; subst h; decide
  · exact printable_of_mem_decimal h
  · split at h
    · rw [lit_quote, List.mem_singleton] at h; subst h; decide
    · simp at h

theorem zero_not_mem_rawRendering (p : List UInt32) : 0 ∉ rawRendering p := by
  simp only [rawRendering, List.mem_append, List.mem_flatMap, not_or, not_exists, not_and]
  exact ⟨by decide, fun x _ h => ne_zero_of_printable (printable_of_mem_componentText h) rfl⟩

/-- Eight components always fit: the raw rendering never writes before `address_str`. -/
theorem rawPath_eq {p : List UInt32} (h : p.length ≤ 8) : rawPath p = some (rawRendering p) := by
  have hlen := flatMap_componentText_length p
  simp only [rawPath, put_of_lt (by decide : ([] : List UInt8).length < addressStrSize),
    Option.bind_eq_bind, Option.some_bind]
  rw [putComponents_eq p (by simp only [List.length_singleton, addressStrSize]; omega),
    Option.some_bind, putAll_eq _ (by simp only [List.length_append, List.length_singleton,
      length_lit_path, addressStrSize]; omega), ← List.append_assoc]
  exact congrArg some (cstr_append_zero (zero_not_mem_rawRendering p) [])

/-! ## The label -/

theorem strlcat_take {l s : List UInt8} (hs : 0 ∉ s) :
    strlcat (l.take 99) (s ++ [0]) 100 = (l ++ s).take 99 := by
  rw [strlcat, cstr_append_zero hs [], List.take_append_eq_append_take, List.length_take]
  congr 2
  omega

theorem accDigits_eq_decimal {n : Nat} (h : n < 100) : accDigits n = decimal n :=
  (by decide : ∀ n < 100, accDigits n = decimal n) n h

theorem strlcat_take_if (c : Bool) (l : List UInt8) {s : List UInt8} (hs : 0 ∉ s) :
    (if c then strlcat (l.take 99) (s ++ [0]) 100 else l.take 99) =
      (l ++ if c then s else []).take 99 := by
  cases c <;> simp [strlcat_take hs]

/-- The `strlcpy`/`strlcat` chain keeps the first 99 bytes of the whole label. -/
theorem knownLabel_eq (abbr : List UInt8) (legacy native_segwit address_is_account : Bool)
    {n : Nat} (hn : n < 100) :
    knownLabel abbr legacy native_segwit address_is_account n =
      (cstr abbr ++ (if legacy then lit " legacy" else []) ++
        (if native_segwit then lit " segwit" else []) ++
        (if address_is_account then lit " address #" else lit " account #") ++
        decimal n).take 99 := by
  have hd : 0 ∉ decimal n := fun h => ne_zero_of_printable (printable_of_mem_decimal h) rfl
  have hnoun : 0 ∉ (if address_is_account then lit " address #" else lit " account #") := by
    split <;> decide
  simp only [knownLabel, strlcpy, strlcat_take_if legacy _ (by decide : 0 ∉ lit " legacy"),
    strlcat_take_if native_segwit _ (by decide : 0 ∉ lit " segwit"), strlcat_take hnoun,
    accDigits_eq_decimal hn, strlcat_take hd]

theorem low31_toNat (x : UInt32) : (x &&& 0x7fffffff).toNat = x.toNat % 2 ^ 31 := by
  rw [UInt32.and_toNat]; exact Nat.and_pow_two_sub_one_eq_mod _ 31

theorem succ_low31_toNat (x : UInt32) :
    ((x &&& 0x7fffffff) + 1).toNat = (x &&& 0x7fffffff).toNat + 1 := by
  have : (x &&& 0x7fffffff).toNat < 2 ^ 31 := by rw [low31_toNat]; exact Nat.mod_lt _ (by decide)
  show ((x &&& 0x7fffffff).toBitVec + 1#32).toNat = _
  rw [BitVec.toNat_add]
  simp only [UInt32.toNat] at this ⊢
  rw [Nat.mod_eq_of_lt] <;> simp; omega

theorem u32_lt_100 (a : UInt32) : a < 100 ↔ a.toNat < 100 := by
  rw [UInt32.lt_def, BitVec.lt_def]; rfl

theorem u32_le_max (a : UInt32) : a ≤ 1000000 ↔ a.toNat ≤ 1000000 := by
  rw [UInt32.le_def, BitVec.le_def]; rfl

theorem cstr_abbr (c : CoinInfo) : cstr c.abbr = c.coin_shortcut.drop 1 :=
  cstr_drop_append_zero c.shortcut_cstr 1

theorem map_cstr_slip44_extras (x : UInt32) : (slip44_extras x).map cstr = slip44_extras x := by
  unfold slip44_extras
  split
  · rfl
  · split <;> decide

/-- `pathAbbr` resolves the spec's ticker, and sets `legacy` for a segwit coin under purpose 44. -/
theorem pathAbbr_spec (coin : Option CoinInfo) {a0 : UInt32} (a1 : UInt32)
    (h : a0 = 0x80000000 + 44 ∨ a0 = 0x80000000 + 49 ∨ a0 = 0x80000000 + 84) :
    (pathAbbr coin a0 a1).1.map cstr = specTicker coin a0 a1 ∧
      (pathAbbr coin a0 a1).2 = decide (a0 = 0x80000000 + 44 ∧ coin.any (·.has_segwit)) := by
  rcases h with rfl | rfl | rfl <;> cases coin <;>
    simp [pathAbbr, specTicker, cstr_abbr, map_cstr_slip44_extras]

theorem isKnownPath_iff (a0 a1 a2 a3 a4 : UInt32) :
    isKnownPath a0 a1 a2 a3 a4 = true ↔
      (a0 = 0x80000000 + 44 ∨ a0 = 0x80000000 + 49 ∨ a0 = 0x80000000 + 84) ∧
        a1 &&& 0x80000000 ≠ 0 ∧ a2 &&& 0x80000000 ≠ 0 ∧ a3 ≤ 1 ∧ a4 ≤ 1000000 := by
  simp only [isKnownPath, BIP32_MAX_LAST_ELEMENT, Bool.and_assoc, Bool.or_assoc,
    Bool.and_eq_true, Bool.or_eq_true, beq_iff_eq, bne_iff_ne, ne_eq, decide_eq_true_eq]

theorem knownPathLabel_eq (reg : Registry) (p : List UInt32) (flag : Bool) :
    knownPathLabel reg p flag = (specLabel reg p flag).map (List.take 99) := by
  match p with
  | [a0, a1, a2, a3, a4] =>
    simp only [knownPathLabel, specLabel]
    by_cases hk : (a0 = 0x80000000 + 44 ∨ a0 = 0x80000000 + 49 ∨ a0 = 0x80000000 + 84) ∧
        a1 &&& 0x80000000 ≠ 0 ∧ a2 &&& 0x80000000 ≠ 0 ∧ a3 ≤ 1 ∧ a4 ≤ 1000000
    · rw [if_pos ((isKnownPath_iff ..).2 hk), if_pos hk]
      obtain ⟨hT, hL⟩ := pathAbbr_spec (reg a1) a1 hk.1
      have hacc : (if flag then (a4 &&& 0x7fffffff) + 1 else (a2 &&& 0x7fffffff) + 1 :
          UInt32).toNat = (if flag then a4.toNat else (a2 &&& 0x7fffffff).toNat) + 1 := by
        cases flag
        · exact succ_low31_toNat a2
        · have := (u32_le_max a4).1 hk.2.2.2.2
          simp only [if_true, succ_low31_toNat, low31_toNat]
          rw [Nat.mod_eq_of_lt (by omega)]
      generalize pathAbbr (reg a1) a0 a1 = pa at hT hL
      obtain ⟨_ | abbr, legacy⟩ := pa
      · rw [← hT]; rfl
      · dsimp only at hT hL
        rw [← hT]
        simp only [Option.map_some', u32_lt_100, hacc]
        generalize (if flag then a4.toNat else (a2 &&& 0x7fffffff).toNat) + 1 = n
        by_cases h100 : n < 100
        · simp only [if_pos h100, hL, knownLabel_eq _ _ _ _ h100, Option.map_some']
          simp
        · simp only [if_neg h100, Option.map_none']
    · rw [if_neg (mt (isKnownPath_iff ..).1 hk), if_neg hk]; rfl
  | [] => rfl
  | [_] => rfl
  | [_, _] => rfl
  | [_, _, _] => rfl
  | [_, _, _, _] => rfl
  | _ :: _ :: _ :: _ :: _ :: _ :: _ => rfl

/-! ## The humanizer -/

/-- **`address_n_str` is the spec's humanizer**, for every path of at most eight components and
every registry, except that a label is cut to the 99 bytes its buffer holds. -/
theorem address_n_str_humanized (reg : Registry) {p : List UInt32} (hk : p.length ≤ 8)
    (flag : Bool) :
    address_n_str reg p flag = some ((specLabel reg p flag).elim (rawRendering p) (List.take 99)) := by
  unfold address_n_str
  rw [if_neg (by omega)]
  split
  · rename_i h0
    rw [List.length_eq_zero.1 h0]; rfl
  · rw [knownPathLabel_eq]
    cases specLabel reg p flag <;> simp [rawPath_eq hk]

/-- A segwit-capable Bitcoin entry, as the generated coin table has it. -/
def bitcoinCoin : CoinInfo := ⟨lit " BTC", true, some (lit "bc"), none, by decide, by simp, rfl⟩

/-- A registry holding Bitcoin only, under its hardened coin type. -/
def bitcoinRegistry : Registry := fun t => if t = 0x80000000 then some bitcoinCoin else none

theorem address_n_str_humanized_btc :
    [0x80000000 + 44, 0x80000000, 0x80000000, 0, 0].length ≤ 8 ∧
      address_n_str bitcoinRegistry [0x80000000 + 44, 0x80000000, 0x80000000, 0, 0] false =
        some (lit "BTC legacy account #1") :=
  ⟨by decide, (address_n_str_humanized bitcoinRegistry (by decide) false).trans (by decide)⟩

/-- A registry entry with a 90-character ticker. -/
def longTickerCoin : CoinInfo :=
  ⟨Char.toUInt8 ' ' :: List.replicate 90 (Char.toUInt8 'A'), true, some (lit "bc"), none,
    by decide, by simp, rfl⟩

set_option maxRecDepth 4000 in
/-- The label of a 90-character ticker does not fit the 100-byte buffer: the code drops the
account number the spec's humanizer shows. -/
theorem address_n_str_long_ticker :
    address_n_str (fun _ => some longTickerCoin) [0x80000000 + 44, 0x80000000, 0x80000000, 0, 0]
        false ≠
      some (humanizedPath (fun _ => some longTickerCoin)
        [0x80000000 + 44, 0x80000000, 0x80000000, 0, 0] false) := by
  decide

end BixinLayout
