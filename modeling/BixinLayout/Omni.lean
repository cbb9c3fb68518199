import BixinLayout.Dialogs

/-!
# The Omni simple-send dialog

`layoutConfirmOmni` reads three big-endian fields of an Omni OP_RETURN payload by loading them
as native integers and byte-swapping them: on the little-endian target,
`REVERSE32(*(const uint32_t *)(data + 4))` is the big-endian value of bytes 4 to 7. The
transaction type, the currency id and the amount are read that way, and a simple send (type 0
in a 20-byte payload) is shown with the amount `bn_format_uint64` writes.

`REVERSE32` and `REVERSE64` belong to the absent `sha2.h` and `bn_format_uint64` to the absent
`bignum.c`: the first two are modelled from their name, as byte reversal, and the formatter is
a parameter. A load past the end of the memory is `none`.

**Decoder.** For every payload of at least 8 bytes the dialog shows what the Omni wire format
says it is (`layoutConfirmOmni_decode`).
-/

namespace BixinLayout

/-! ## Byte order -/

/-- The number bytes hold lowest byte first. -/
def leNat : List UInt8 → Nat
  | [] => 0
  | b :: bs => b.toNat + 256 * leNat bs

/-- The number bytes hold highest byte first: the Omni wire format. -/
def beNat (bs : List UInt8) : Nat := leNat bs.reverse

/-- The lowest `n` bytes of `v`, lowest first. -/
def leBytes : Nat → Nat → List UInt8
  | 0, _ => []
  | n + 1, v => (v % 256).toUInt8 :: leBytes n (v / 256)

/-- Modelled from the spec, as `sha2.h` is not in the repository: `REVERSE32(w, x)` leaves in `x`
the word `w` with its four bytes in the opposite order. -/
def REVERSE32 (w : UInt32) : UInt32 := (beNat (leBytes 4 w.toNat)).toUInt32

/-- Modelled from the spec, as `sha2.h` is not in the repository: `REVERSE64(w, x)` leaves in `x`
the word `w` with its eight bytes in the opposite order. -/
def REVERSE64 (w : UInt64) : UInt64 := (beNat (leBytes 8 w.toNat)).toUInt64

/-- `*(const uint32_t *)(data + off)` on the little-endian target. -/
def load32 (data : List UInt8) (off : Nat) : Option UInt32 :=
  if off + 4 ≤ data.length then some (leNat ((data.drop off).take 4)).toUInt32 else none

/-- `memcpy(&x, data + off, sizeof(uint64_t))` on the little-endian target. -/
def load64 (data : List UInt8) (off : Nat) : Option UInt64 :=
  if off + 8 ≤ data.length then some (leNat ((data.drop off).take 8)).toUInt64 else none

theorem byte_toNat_toUInt8 (b : UInt8) : b.toNat.toUInt8 = b :=
  UInt8.toNat.inj (Nat.mod_eq_of_lt b.toNat_lt_size)

theorem leNat_lt (bs : List UInt8) : leNat bs < 256 ^ bs.length := by
  induction bs with
  | nil => decide
  | cons b bs ih =>
    have hb : b.toNat < 256 := b.toNat_lt_size
    simp only [leNat, List.length_cons, Nat.pow_succ]
    omega

/-- Writing a number back as `bs.length` bytes gives `bs`. -/
theorem leBytes_leNat (bs : List UInt8) : leBytes bs.length (leNat bs) = bs := by
  induction bs with
  | nil => rfl
  | cons b bs ih =>
    have hb : b.toNat < 256 := b.toNat_lt_size
    simp only [List.length_cons, leBytes, leNat]
    rw [show (b.toNat + 256 * leNat bs) % 256 = b.toNat by omega,
      show (b.toNat + 256 * leNat bs) / 256 = leNat bs by omega, ih, byte_toNat_toUInt8]

theorem REVERSE32_load {bs : List UInt8} (h : bs.length = 4) :
    REVERSE32 (leNat bs).toUInt32 = (beNat bs).toUInt32 := by
  have hlt := leNat_lt bs
  rw [h] at hlt
  have hn : (leNat bs).toUInt32.toNat = leNat bs := Nat.mod_eq_of_lt (by omega)
  rw [REVERSE32, hn, ← h, leBytes_leNat]

theorem REVERSE64_load {bs : List UInt8} (h : bs.length = 8) :
    REVERSE64 (leNat bs).toUInt64 = (beNat bs).toUInt64 := by
  have hlt := leNat_lt bs
  rw [h] at hlt
  have hn : (leNat bs).toUInt64.toNat = leNat bs := Nat.mod_eq_of_lt (by omega)
  rw [REVERSE64, hn, ← h, leBytes_leNat]

/-- A 32-bit field read and byte-swapped is its big-endian value. -/
theorem load32_reverse (data : List UInt8) (off : Nat) (h : off + 4 ≤ data.length) :
    (load32 data off).map REVERSE32 = some (beNat ((data.drop off).take 4)).toUInt32 := by
  rw [load32, if_pos h, Option.map_some', REVERSE32_load (by simp; omega)]

/-- A 64-bit field copied and byte-swapped is its big-endian value. -/
theorem load64_reverse (data : List UInt8) (off : Nat) (h : off + 8 ≤ data.length) :
    (load64 data off).map REVERSE64 = some (beNat ((data.drop off).take 8)).toUInt64 := by
  rw [load64, if_pos h, Option.map_some', REVERSE64_load (by simp; omega)]

/-! ## The dialog -/

/-- The dialog `layoutConfirmOmni` shows for a description and an amount line. -/
def omniDialog (desc str_out : List UInt8) : Dialog :=
  ⟨.question, some (lit "Cancel"), some (lit "Confirm"), none,
    some (lit "Confirm OMNI Transaction:"), none, some desc, none, some str_out, none⟩

/--
`layoutConfirmOmni(data, size)`, with `bn_format_uint64 amount suffix decimals` the text
`bn_format_uint64(amount, NULL, suffix, decimals, 0, false, str_out, sizeof(str_out))` writes.
-/
def layoutConfirmOmni (bn_format_uint64 : UInt64 → List UInt8 → Nat → List UInt8)
    (data : List UInt8) (size : Nat) : Option Dialog := do
  let tx_type := REVERSE32 (← load32 data 4)
  if tx_type = 0 ∧ size = 20 then
    let currency := REVERSE32 (← load32 data 8)
    let (suffix, divisible) : List UInt8 × Bool :=
      match currency.toNat with
      | 1 => (lit " OMNI", true)
      | 2 => (lit " tOMNI", true)
      | 3 => (lit " MAID", false)
      | 31 => (lit " USDT", true)
      | _ => (lit " UNKN", false)
    let amount := REVERSE64 (← load64 data 12)
    pure (omniDialog (lit "Simple send of ")
      (bn_format_uint64 amount suffix (if divisible then 8 else 0)))
  else
    pure (omniDialog (lit "Unknown transaction") [])

/-- The suffix and the decimals the Omni format gives a currency id. -/
def omniCurrency : Nat → List UInt8 × Nat
  | 1 => (lit " OMNI", 8)
  | 2 => (lit " tOMNI", 8)
  | 31 => (lit " USDT", 8)
  | 3 => (lit " MAID", 0)
  | _ => (lit " UNKN", 0)

theorem beNat_lt {bs : List UInt8} {n : Nat} (h : bs.length = n) : beNat bs < 256 ^ n := by
  have := leNat_lt bs.reverse
  rwa [List.length_reverse, h] at this

theorem beNat_toUInt32_toNat {bs : List UInt8} (h : bs.length = 4) :
    (beNat bs).toUInt32.toNat = beNat bs :=
  Nat.mod_eq_of_lt (beNat_lt h)

/-- **Decoder.** For every payload of at least 8 bytes, the dialog is a simple send, with the
amount and currency the big-endian fields hold, exactly when the payload has 20 bytes and the
big-endian type field is 0; every other payload is an unknown transaction with an empty amount. -/
theorem layoutConfirmOmni_decode (bn_format_uint64 : UInt64 → List UInt8 → Nat → List UInt8)
    (data : List UInt8) (size : Nat) (h8 : 8 ≤ size) (hsize : size ≤ data.length) :
    layoutConfirmOmni bn_format_uint64 data size =
      some
        { icon := .question, btnNo := some (lit "Cancel"), btnYes := some (lit "Confirm"),
          desc := none, line1 := some (lit "Confirm OMNI Transaction:"), line2 := none,
          line3 := some (if size = 20 ∧ beNat ((data.drop 4).take 4) = 0 then lit "Simple send of "
            else lit "Unknown transaction"),
          line4 := none,
          line5 := some (if size = 20 ∧ beNat ((data.drop 4).take 4) = 0 then
            bn_format_uint64 (beNat ((data.drop 12).take 8)).toUInt64
              (omniCurrency (beNat ((data.drop 8).take 4))).1
              (omniCurrency (beNat ((data.drop 8).take 4))).2
            else []),
          line6 := none } := by
  have hl : ∀ off, off + 4 ≤ data.length → ((data.drop off).take 4).length = 4 :=
    fun _ _ => by simp; omega
  obtain ⟨t4, e4, r4⟩ := Option.map_eq_some'.1 (load32_reverse data 4 (by omega))
  simp only [layoutConfirmOmni, e4, r4, Option.bind_eq_bind, Option.some_bind]
  by_cases hs : size = 20 ∧ beNat ((data.drop 4).take 4) = 0
  · obtain ⟨t8, e8, r8⟩ := Option.map_eq_some'.1 (load32_reverse data 8 (by omega))
    obtain ⟨t12, e12, r12⟩ := Option.map_eq_some'.1 (load64_reverse data 12 (by omega))
    rw [if_pos hs, if_pos hs, if_pos ⟨by rw [hs.2]; rfl, hs.1⟩]
    simp only [e8, r8, e12, r12, Option.some_bind, beNat_toUInt32_toNat (hl 8 (by omega))]
    generalize beNat ((data.drop 8).take 4) = c
    unfold omniCurrency
    split <;> simp_all [omniDialog]
  · have hz (h : (beNat ((data.drop 4).take 4)).toUInt32 = 0) : beNat ((data.drop 4).take 4) = 0 := by
      rw [← beNat_toUInt32_toNat (hl 4 (by omega)), h]; rfl
    rw [if_neg (fun h => hs ⟨h.2, hz h.1⟩), if_neg hs, if_neg hs]
    rfl

/-- A USDT simple send of 100 units: `omni`, type 0, currency 31, amount 100. -/
def usdtSend : List UInt8 := lit "omni" ++ [0, 0, 0, 0, 0, 0, 0, 31, 0, 0, 0, 0, 0, 0, 0, 100]

theorem layoutConfirmOmni_usdt :
    8 ≤ 20 ∧ 20 ≤ usdtSend.length ∧
      layoutConfirmOmni (fun amount suffix decimals => suffix ++ [amount.toUInt8, decimals.toUInt8])
          usdtSend 20 =
        some
          { icon := .question, btnNo := some (lit "Cancel"), btnYes := some (lit "Confirm"),
            desc := none, line1 := some (lit "Confirm OMNI Transaction:"), line2 := none,
            line3 := some (lit "Simple send of "), line4 := none,
            line5 := some (lit " USDT" ++ [100, 8]), line6 := none } :=
  ⟨by decide, by decide,
    (layoutConfirmOmni_decode _ usdtSend 20 (by decide) (by decide)).trans (by decide)⟩

end BixinLayout
