import BixinLayout.HumanizerProof
import BixinLayout.Pager

/-!
# Address screens

An address is shown in rows of at most 21 characters. `render_address_dialog`, behind
`layoutConfirmOutput` and `layoutVerifyAddress`, first skips a leading `<cashaddr_prefix>:`, then
spreads the address over two rows up to 42 characters and three beyond, as evenly as the
division allows, and lets `split_message` cut anything past 84 characters with `...`.
`layoutAddress` without a QR code pages at width 21 and draws as many rows as the address needs.

**Rows law.** For every address, the rows either screen draws hold at most 21 characters and
spell the address, or its first 81 characters and `...` beyond 84; the width
`render_address_dialog` chooses always meets the precondition of `split_message`, and
`layoutAddress` leaves no non-empty row undrawn (`address_rows`). For a cashaddr coin the address
shown is the one after `<cashaddr_prefix>:` (`shownAddress_cashaddr`).

This is the English build, the `ui_language` branch left out; the QR branch of `layoutAddress` is
in `BixinLayout.AddressQr`.
-/

namespace BixinLayout

/-! ## The screens -/

/-- `strncmp(a, b, n) == 0`: the C strings at `a` and `b` agree on their first `n` bytes. -/
def strncmpEq (a b : List UInt8) (n : Nat) : Bool := (cstr a).take n == (cstr b).take n

/-- The address pointer once `render_address_dialog` has skipped a leading
`<cashaddr_prefix>:`. -/
def stripCashaddr (coin : Option CoinInfo) (address : List UInt8) : List UInt8 :=
  match coin with
  | some c =>
    match c.cashaddr_prefix with
    | some p =>
      let prefix_len := strlen (p ++ [0])
      if strncmpEq address (p ++ [0]) prefix_len ∧
          address[prefix_len]? = some (Char.toUInt8 ':') then
        address.drop (prefix_len + 1)
      else address
    | none => address
  | none => address

/-- The address `render_address_dialog` shows. -/
def shownAddress (coin : Option CoinInfo) (address : List UInt8) : List UInt8 :=
  cstr (stripCashaddr coin address)

/-- `linelen` of `render_address_dialog`. Its `int` arithmetic on a length below `2 ^ 31` is
`Nat` arithmetic: for the empty address C's `(0 - 1) / 2` is `0`, as it is here. -/
def addressLineLen (addrlen : Nat) : Nat :=
  let numlines := if addrlen ≤ 42 then 2 else 3
  let linelen := (addrlen - 1) / numlines + 1
  if linelen > 21 then 21 else linelen

/-- What `render_address_dialog` draws where the fourth row is empty. -/
inductive Footer where
  /-- The fourth row is not empty. -/
  | none
  | extraLine (line : List UInt8)
  /-- `oledHLine(OLED_HEIGHT - 13)`. -/
  | hLine
deriving DecidableEq, Repr

/-- What `render_address_dialog` draws beside its question icon. -/
structure AddressDialog where
  line1 : List UInt8
  line2 : List UInt8
  /-- The x of the address rows: 0 for rows wider than 18 characters, else 20. -/
  left : Nat
  rows : Rows
  footer : Footer
deriving DecidableEq, Repr

/-- `render_address_dialog(coin, address, line1, line2, extra_line)`. -/
def render_address_dialog (coin : Option CoinInfo) (address line1 line2 : List UInt8)
    (extra_line : Option (List UInt8)) : Option AddressDialog := do
  let address := stripCashaddr coin address
  let addrlen := strlen address
  let linelen := addressLineLen addrlen
  let str ← split_message address addrlen linelen
  pure ⟨line1, line2, if linelen > 18 then 0 else 20, str,
    if str.r3 = [] then (match extra_line with
      | some line => .extraLine line
      | none => .hLine) else .none⟩

/-- `layoutConfirmOutput(coin, out)`, with `amount` the text `bn_format_uint64` writes for
`out->amount` in the first 32 bytes of `char str_out[32 + 3]`. -/
def layoutConfirmOutput (coinBySlip44 : Registry) (coin : CoinInfo) (amount address : List UInt8)
    (address_n : List UInt32) : Option AddressDialog := do
  let str_out := strlcat amount (lit " to" ++ [0]) (32 + 3)
  let extra_line ← if address_n.length > 0 then
      (address_n_str coinBySlip44 address_n false).map some
    else pure none
  render_address_dialog (some coin) address (lit "Confirm sending") str_out extra_line

/-- `layoutVerifyAddress(coin, address)`. -/
def layoutVerifyAddress (coin : Option CoinInfo) (address : List UInt8) : Option AddressDialog :=
  render_address_dialog coin address (lit "Confirm address?") (lit "Message signed by:") none

/-- `num_lines` of `layoutAddress`: the rows of 21 characters an address needs, at most four. -/
def addressNumLines (addrlen : Nat) : Nat :=
  if addrlen ≤ 42 then 2 else if addrlen ≤ 63 then 3 else 4

/-- What `layoutAddress` draws without a QR code. -/
structure AddressScreen where
  desc : Option (List UInt8)
  /-- The address in the fixed font, a string a row. -/
  rows : List (List UInt8)
  /-- The text row of the path label, drawn at `y = pathRow * 9`. -/
  pathRow : Nat
  path : List UInt8
deriving DecidableEq, Repr

/-- `layoutAddress(address, desc, false, ignorecase, address_n, address_n_count,
address_is_account)`: the screen without a QR code. -/
def layoutAddress (coinBySlip44 : Registry) (address : List UInt8) (desc : Option (List UInt8))
    (address_n : List UInt32) (address_is_account : Bool) : Option AddressScreen := do
  let addrlen := strlen address
  let (i, rows) ← if addrlen > 10 then do
      let num_lines := addressNumLines addrlen
      let str ← split_message address addrlen 21
      pure (num_lines, str.toList.take num_lines)
    else pure (0, [cstr address])
  let path ← address_n_str coinBySlip44 address_n address_is_account
  pure ⟨desc, rows, i + 1, path⟩

/-! ## The row width -/

theorem addressLineLen_le (n : Nat) : addressLineLen n ≤ 21 := by
  simp only [addressLineLen]; split_ifs <;> omega

/-- Up to 84 characters the rows `render_address_dialog` chooses hold the whole address. -/
theorem le_four_mul_addressLineLen {n : Nat} (h : n ≤ 84) : n ≤ 4 * addressLineLen n := by
  simp only [addressLineLen]; split_ifs <;> omega

theorem addressLineLen_of_lt {n : Nat} (h : 84 < n) : addressLineLen n = 21 := by
  simp only [addressLineLen]; split_ifs <;> omega

/-! ## What is shown -/

/-- A byte other than the terminator read from `m ++ [0]` lies inside `m`. -/
theorem lt_length_of_getElem_append_zero {m : List UInt8} {i : Nat} {b : UInt8} (hb : b ≠ 0)
    (h : (m ++ [0])[i]? = some b) : i < m.length := by
  obtain ⟨hi, e⟩ := List.getElem?_eq_some_iff.1 h
  refine Nat.lt_of_le_of_ne (Nat.le_of_lt_succ (by simpa using hi)) fun he => hb ?_
  subst he
  simpa using e.symm

/-- Skipping the cashaddr prefix keeps the pointer inside the address. -/
theorem stripCashaddr_eq (coin : Option CoinInfo) (m : List UInt8) :
    ∃ k ≤ m.length, stripCashaddr coin (m ++ [0]) = m.drop k ++ [0] := by
  unfold stripCashaddr
  dsimp only
  repeat' split
  · rename_i h
    have hlt := lt_length_of_getElem_append_zero (by decide) h.2
    exact ⟨_, hlt, List.drop_append_of_le_length hlt⟩
  all_goals exact ⟨0, Nat.zero_le _, rfl⟩

theorem shownAddress_eq (coin : Option CoinInfo) {m : List UInt8} (h0 : 0 ∉ m) :
    ∃ a, 0 ∉ a ∧ stripCashaddr coin (m ++ [0]) = a ++ [0] ∧ shownAddress coin (m ++ [0]) = a := by
  obtain ⟨k, -, e⟩ := stripCashaddr_eq coin m
  have ha : 0 ∉ m.drop k := fun h => h0 (List.mem_of_mem_drop h)
  exact ⟨_, ha, e, by rw [shownAddress, e, cstr_append_zero ha]⟩

/-- For a cashaddr coin, an address `<cashaddr_prefix>:a` is shown as `a`. -/
theorem shownAddress_cashaddr {c : CoinInfo} {p a : List UInt8} (hp : c.cashaddr_prefix = some p)
    (h0 : 0 ∉ p ++ Char.toUInt8 ':' :: a) :
    shownAddress (some c) (p ++ Char.toUInt8 ':' :: a ++ [0]) = a := by
  have hp0 : 0 ∉ p := fun h => h0 (List.mem_append_left _ h)
  have ha0 : 0 ∉ a := fun h => h0 (List.mem_append_right _ (List.mem_cons_of_mem _ h))
  have hlen : strlen (p ++ [0]) = p.length := by rw [strlen, cstr_append_zero hp0 []]
  have hmatch : strncmpEq (p ++ Char.toUInt8 ':' :: a ++ [0]) (p ++ [0]) p.length = true := by
    rw [strncmpEq, cstr_append_zero h0 [], cstr_append_zero hp0 []]
    simp
  have hcolon : (p ++ Char.toUInt8 ':' :: a ++ [0])[p.length]? = some (Char.toUInt8 ':') := by
    rw [List.append_assoc, List.getElem?_append_right le_rfl]
    simp
  have hrest : (p ++ Char.toUInt8 ':' :: a ++ [0]).drop (p.length + 1) = a ++ [0] := by simp
  simp only [shownAddress, stripCashaddr, hp, hlen, hmatch, hcolon, and_self, if_true, hrest]
  exact cstr_append_zero ha0 []

/-- The rows of `render_address_dialog`: at most 21 characters each, spelling the address paged
at width 21, at a width that meets the precondition of `split_message`. -/
theorem render_address_dialog_rows (coin : Option CoinInfo) {m : List UInt8} (h0 : 0 ∉ m)
    (line1 line2 : List UInt8) (extra_line : Option (List UInt8)) :
    ∃ d, render_address_dialog coin (m ++ [0]) line1 line2 extra_line = some d ∧
      (∀ row ∈ d.rows.toList, row.length ≤ 21) ∧
      d.rows.text = pagedText (shownAddress coin (m ++ [0])) 21 ∧
      (4 * addressLineLen (shownAddress coin (m ++ [0])).length <
          (shownAddress coin (m ++ [0])).length →
        3 ≤ addressLineLen (shownAddress coin (m ++ [0])).length) := by
  obtain ⟨a, ha, e, hs⟩ := shownAddress_eq coin h0
  rw [hs]
  have hL := addressLineLen_le a.length
  have hpre : 3 ≤ addressLineLen a.length ∨ a.length ≤ 4 * addressLineLen a.length := by
    rcases Nat.lt_or_ge 84 a.length with h | h
    · exact .inl (by rw [addressLineLen_of_lt h]; decide)
    · exact .inr (le_four_mul_addressLineLen h)
  have hsplit := split_message_eq ha [] (addressLineLen a.length)
    (by rwa [Nat.min_eq_left (by omega)])
  rw [Nat.min_eq_left (by omega)] at hsplit
  refine ⟨_, by simp only [render_address_dialog, e, strlen, cstr_append_zero ha, hsplit]; rfl,
    fun row hr => (pagedRows_length_le a hpre row hr).trans hL, ?_, fun h => hpre.resolve_right (by omega)⟩
  rw [pagedRows_text a hpre]
  rcases Nat.lt_or_ge 84 a.length with h | h
  · rw [addressLineLen_of_lt h]
  · rw [pagedText, pagedText, if_pos (le_four_mul_addressLineLen h), if_pos h]

/-- `layoutAddress` draws the rows an address needs, and those it leaves are empty. -/
theorem drawn_rows (m : List UInt8) :
    ((pagedRows m 21).toList.take (addressNumLines m.length)).flatten = pagedText m 21 ∧
      ∀ row ∈ (pagedRows m 21).toList.drop (addressNumLines m.length), row = [] := by
  have hdrop : ∀ row ∈ (pagedRows m 21).toList.drop (addressNumLines m.length), row = [] := by
    unfold addressNumLines pagedRows
    split_ifs <;> first | omega | simp (disch := omega) [Rows.toList, chunk_eq_nil]
  refine ⟨?_, hdrop⟩
  rw [← pagedRows_text m (.inl (by decide)), ← List.append_nil (List.flatten _),
    ← List.flatten_eq_nil_iff.2 hdrop, ← List.flatten_append, List.take_append_drop]
  simp [Rows.toList, Rows.text]

/-- `address_n_str` always returns: every write of the raw rendering stays inside its buffer. -/
theorem address_n_str_isSome (coinBySlip44 : Registry) (address_n : List UInt32)
    (address_is_account : Bool) : (address_n_str coinBySlip44 address_n address_is_account).isSome := by
  unfold address_n_str
  split
  · rfl
  · split
    · rfl
    · split
      · rfl
      · rw [rawPath_eq (by omega)]; rfl

/-- **Rows law.** For every address: the rows `render_address_dialog` draws, and those
`layoutAddress` draws for an address of more than 10 characters, hold at most 21 characters and
spell the address, or its first 81 characters and `...` beyond 84; `render_address_dialog`'s
width meets the precondition of `split_message`, `layoutAddress` draws every non-empty row, and
the address `render_address_dialog` shows for a cashaddr coin is the one after
`<cashaddr_prefix>:`. -/
theorem address_rows (coin : Option CoinInfo) {m : List UInt8} (h0 : 0 ∉ m)
    (line1 line2 : List UInt8) (extra_line : Option (List UInt8)) (coinBySlip44 : Registry)
    (desc : Option (List UInt8)) (address_n : List UInt32) (address_is_account : Bool) :
    (∃ d, render_address_dialog coin (m ++ [0]) line1 line2 extra_line = some d ∧
      (∀ row ∈ d.rows.toList, row.length ≤ 21) ∧
      ((shownAddress coin (m ++ [0])).length ≤ 84 → d.rows.text = shownAddress coin (m ++ [0])) ∧
      (84 < (shownAddress coin (m ++ [0])).length →
        d.rows.text = (shownAddress coin (m ++ [0])).take 81 ++ lit "...") ∧
      (4 * addressLineLen (shownAddress coin (m ++ [0])).length <
          (shownAddress coin (m ++ [0])).length →
        3 ≤ addressLineLen (shownAddress coin (m ++ [0])).length)) ∧
    (10 < m.length → ∃ scr str,
      layoutAddress coinBySlip44 (m ++ [0]) desc address_n address_is_account = some scr ∧
      split_message (m ++ [0]) m.length 21 = some str ∧
      scr.rows = str.toList.take (addressNumLines m.length) ∧
      (∀ row ∈ scr.rows, row.length ≤ 21) ∧
      (m.length ≤ 84 → scr.rows.flatten = m) ∧
      (84 < m.length → scr.rows.flatten = m.take 81 ++ lit "...") ∧
      ∀ row ∈ str.toList.drop (addressNumLines m.length), row = []) ∧
    (∀ c p a, coin = some c → c.cashaddr_prefix = some p → m = p ++ Char.toUInt8 ':' :: a →
      shownAddress coin (m ++ [0]) = a) := by
  refine ⟨?_, fun h10 => ?_, fun c p a hc hp hm => ?_⟩
  rotate_right
  · -- the cashaddr prefix
    subst hc hm
    exact shownAddress_cashaddr hp h0
  · obtain ⟨d, e, hlen, htext, hpre⟩ := render_address_dialog_rows coin h0 line1 line2 extra_line
    refine ⟨d, e, hlen, fun h => ?_, fun h => ?_, hpre⟩ <;> rw [htext, pagedText]
    · rw [if_pos h]
    · rw [if_neg (by omega)]
  · have hsplit := split_message_eq h0 [] 21 (.inl (by decide))
    obtain ⟨path, hp⟩ := Option.isSome_iff_exists.1
      (address_n_str_isSome coinBySlip44 address_n address_is_account)
    obtain ⟨hflat, hdrop⟩ := drawn_rows m
    refine ⟨_, _, by simp [layoutAddress, strlen, cstr_append_zero h0 [], h10, hsplit, hp]; rfl,
      hsplit, rfl, fun row hr => pagedRows_length_le m (.inl (by decide)) row
        (List.mem_of_mem_take hr), fun h => ?_, fun h => ?_, hdrop⟩ <;> rw [hflat, pagedText]
    · rw [if_pos h]
    · rw [if_neg (by omega)]

/-- A 90-character address is cut after 81 characters. -/
theorem address_rows_long :
    0 ∉ List.replicate 90 (Char.toUInt8 'q') ∧
      ∃ d, render_address_dialog none (List.replicate 90 (Char.toUInt8 'q') ++ [0]) [] [] none =
        some d ∧ d.rows.text = List.replicate 81 (Char.toUInt8 'q') ++ lit "..." := by
  obtain ⟨⟨d, e, -, -, hcut, -⟩, -, -⟩ := address_rows none (m := List.replicate 90 (Char.toUInt8 'q'))
    (by decide) [] [] none (fun _ => none) none [] false
  exact ⟨by decide, d, e, (hcut (by decide)).trans (by decide)⟩

end BixinLayout
