import Mathlib.Data.List.Basic
import Mathlib.Algebra.Group.Nat.Basic

/-!
# C strings as byte lists

`layout2.c` keeps its text in NUL-terminated `char` arrays and hands the same bytes to the
display as `uint8_t`. A piece of memory is a `List UInt8` read from a pointer onwards, and the
C string held there is everything before the first NUL; the end of the list reads as one.

`strlcpy` and `strlcat` are the bounded copies every label of the file goes through: they keep at
most `size - 1` bytes, which is how an over-long label is cut instead of overflowing its buffer.
`data2hex` belongs to `util.c`, which is not among the sources.
-/

namespace BixinLayout

/-- The bytes of a string literal of the source: its UTF-8 encoding. -/
def lit (s : String) : List UInt8 := s.toList.flatMap String.utf8EncodeChar

/-- The C string at a pointer: the bytes before the first NUL. -/
def cstr (mem : List UInt8) : List UInt8 := mem.takeWhile (· != 0)

/-- `strlen`. -/
def strlen (mem : List UInt8) : Nat := (cstr mem).length

/-- The string `strlcpy(dst, src, size)` leaves in `dst`. -/
def strlcpy (src : List UInt8) (size : Nat) : List UInt8 := (cstr src).take (size - 1)

/-- The string `strlcat(dst, src, size)` leaves in `dst`, for `dst` holding the C string `dst`. -/
def strlcat (dst src : List UInt8) (size : Nat) : List UInt8 :=
  dst ++ (cstr src).take (size - 1 - dst.length)

/-- The lowercase hexadecimal digit of a nibble. -/
def hexDigit (n : Nat) : UInt8 := if n < 10 then (48 + n).toUInt8 else (87 + n).toUInt8

/--
Modelled from the spec: `data2hex(data, len, str)` of the absent `util.c` writes each byte as
two hexadecimal digits, high nibble first, then a NUL.
-/
def data2hex (data : List UInt8) : List UInt8 :=
  data.flatMap fun b => [hexDigit (b.toNat / 16), hexDigit (b.toNat % 16)]

/-- A byte in `' '..'~'`, the range `is_valid_ascii` accepts. -/
def Printable (b : UInt8) : Prop := 32 ≤ b.toNat ∧ b.toNat ≤ 126

instance : DecidablePred Printable := fun b =>
  inferInstanceAs (Decidable (32 ≤ b.toNat ∧ b.toNat ≤ 126))

/-! ## Reading a C string back -/

@[simp] theorem cstr_nil : cstr [] = [] := rfl

theorem cstr_of_not_mem {m : List UInt8} (h : 0 ∉ m) : cstr m = m :=
  List.takeWhile_eq_self_iff.2 fun x hx => by
    simpa using fun h0 : x = 0 => h (h0 ▸ hx)

/-- A string without NUL, followed by a NUL, reads back as itself. -/
theorem cstr_append_zero {m : List UInt8} (h : 0 ∉ m) (rest : List UInt8) :
    cstr (m ++ 0 :: rest) = m := by
  unfold cstr
  rw [List.takeWhile_append_of_pos fun x hx => by simpa using fun h0 : x = 0 => h (h0 ▸ hx)]
  simp

theorem cstr_append_of_not_mem {m : List UInt8} (h : 0 ∉ m) (rest : List UInt8) :
    cstr (m ++ rest) = m ++ cstr rest := by
  unfold cstr
  rw [List.takeWhile_append_of_pos fun x hx => by simpa using fun h0 : x = 0 => h (h0 ▸ hx)]

theorem cstr_append_replicate_zero {m : List UInt8} (h : 0 ∉ m) (n : Nat) :
    cstr (m ++ List.replicate n 0) = m := by
  rw [cstr_append_of_not_mem h]
  cases n <;> simp [cstr, List.replicate_succ]

theorem isPrefix_cstr (mem : List UInt8) : cstr mem <+: mem := List.takeWhile_prefix _

theorem zero_not_mem_cstr (mem : List UInt8) : 0 ∉ cstr mem := fun h => by
  simpa using List.mem_takeWhile_imp h

theorem cstr_length_le (mem : List UInt8) : (cstr mem).length ≤ mem.length :=
  (isPrefix_cstr mem).length_le

/-- A NUL-terminated string read from inside itself: the rest of it. -/
theorem cstr_drop_append_zero_cons {m : List UInt8} (h : 0 ∉ m) {k : Nat} (hk : k ≤ m.length)
    (rest : List UInt8) : cstr ((m ++ 0 :: rest).drop k) = m.drop k := by
  rw [List.drop_append_of_le_length hk]
  exact cstr_append_zero (fun h0 => h (List.mem_of_mem_drop h0)) rest

theorem cstr_drop_append_zero {m : List UInt8} (h : 0 ∉ m) (k : Nat) :
    cstr ((m ++ [0]).drop k) = m.drop k := by
  rcases Nat.lt_or_ge m.length k with hk | hk
  · simp [List.drop_eq_nil_of_le (by simp; omega : (m ++ [0]).length ≤ k),
      List.drop_eq_nil_of_le hk.le]
  · exact cstr_drop_append_zero_cons h hk []

/-- `strlcpy` from inside a NUL-terminated string takes the next `size - 1` bytes. -/
theorem strlcpy_drop {m : List UInt8} (h : 0 ∉ m) {k : Nat} (hk : k ≤ m.length)
    (rest : List UInt8) (size : Nat) :
    strlcpy ((m ++ 0 :: rest).drop k) size = (m.drop k).take (size - 1) := by
  rw [strlcpy, cstr_drop_append_zero_cons h hk]

theorem zero_not_mem_strlcpy (src : List UInt8) (size : Nat) : 0 ∉ strlcpy src size :=
  fun h => zero_not_mem_cstr src (List.mem_of_mem_take h)

theorem zero_not_mem_strlcat {dst : List UInt8} (h : 0 ∉ dst) (src : List UInt8) (size : Nat) :
    0 ∉ strlcat dst src size := by
  simpa [strlcat, not_or, h] using fun h' => zero_not_mem_cstr src (List.mem_of_mem_take h')

/-- A string that fits is copied whole. -/
theorem strlcpy_of_lt {s : List UInt8} (hs : 0 ∉ s) (rest : List UInt8) {size : Nat}
    (h : s.length < size) : strlcpy (s ++ 0 :: rest) size = s := by
  rw [strlcpy, cstr_append_zero hs, List.take_of_length_le (by omega)]

/-- A string that fits behind `dst` is appended whole. -/
theorem strlcat_of_lt {dst s : List UInt8} (hs : 0 ∉ s) (rest : List UInt8) {size : Nat}
    (h : dst.length + s.length < size) : strlcat dst (s ++ 0 :: rest) size = dst ++ s := by
  rw [strlcat, cstr_append_zero hs, List.take_of_length_le (by omega)]

/-! ## Hex digits -/

theorem hexDigit_printable {n : Nat} (h : n < 16) : Printable (hexDigit n) :=
  (by decide : ∀ n < 16, Printable (hexDigit n)) n h

theorem data2hex_length (data : List UInt8) : (data2hex data).length = 2 * data.length := by
  induction data with
  | nil => rfl
  | cons b bs ih => simp [data2hex] at ih ⊢; omega

theorem data2hex_append (a b : List UInt8) : data2hex (a ++ b) = data2hex a ++ data2hex b :=
  List.flatMap_append _ _ _

theorem printable_of_mem_data2hex {data : List UInt8} {c : UInt8} (h : c ∈ data2hex data) :
    Printable c := by
  obtain ⟨b, -, hb⟩ := List.mem_flatMap.1 h
  have h16 : b.toNat / 16 < 16 := by have := b.toNat_lt_size; simp [UInt8.size] at this; omega
  rcases List.mem_pair.1 hb with rfl | rfl
  · exact hexDigit_printable h16
  · exact hexDigit_printable (Nat.mod_lt _ (by decide))

theorem ne_zero_of_printable {c : UInt8} (h : Printable c) : c ≠ 0 := by
  rintro rfl; exact absurd h.1 (by decide)

theorem zero_not_mem_data2hex (data : List UInt8) : 0 ∉ data2hex data :=
  fun h => ne_zero_of_printable (printable_of_mem_data2hex h) rfl

end BixinLayout
