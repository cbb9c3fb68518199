import BixinLayout.CString

/-!
# The message pager

`split_message` cuts a message into the four rows of a dialog, `rowlen` bytes each, through a
static `char str[4][32 + 1]`: every row is `memzero`ed, filled by `strlcpy` from the message,
and when the message does not fit, the last three bytes of row 3 are overwritten with dots.
`split_message_hex` hex-encodes at most 32 bytes into a 65-byte buffer, marks a cut with two
dots, and pages the result at width 16.

The dots are written at `rowlen - 1`, `rowlen - 2` and `rowlen - 3` computed in `uint32_t`, so for
`rowlen < 3` they land far outside the row. That write is modelled as `none`, and it is the only
one: `split_message` is undefined exactly when the message is cut at a width below 3
(`split_message_none`).

**Pager law.** For a message without NUL and followed by one, and a width `r` with `r ≥ 3` or a
message of at most `4 * r` bytes, the rows are the consecutive `r`-byte chunks of the message,
the fourth ending in `"..."` exactly when the message is longer than `4 * r`.

**Hex pager.** The hex `split_message_hex` hands to `split_message` is at most 64 bytes without a
NUL, so its rows are the four 16-byte chunks of it, with no dots written over them
(`split_message_hex_rows`).
-/

namespace BixinLayout

/-- The four strings `split_message` returns, in order. -/
structure Rows where
  r0 : List UInt8
  r1 : List UInt8
  r2 : List UInt8
  r3 : List UInt8
deriving DecidableEq, Repr

/-- The rows read one after the other. -/
def Rows.text (rows : Rows) : List UInt8 := rows.r0 ++ rows.r1 ++ rows.r2 ++ rows.r3

/-- The rows as a list, top to bottom. -/
def Rows.toList (rows : Rows) : List (List UInt8) := [rows.r0, rows.r1, rows.r2, rows.r3]

/-- One row `str[k]` of `char str[4][32 + 1]`, zeroed, after `strlcpy` left `s` in it. -/
def rowBuf (s : List UInt8) : List UInt8 := s ++ List.replicate (33 - s.length) 0

/-- `buf[i] = c`; `none` when `i` is outside the buffer. -/
def poke (buf : List UInt8) (i : Nat) (c : UInt8) : Option (List UInt8) :=
  if i < buf.length then some (buf.set i c) else none

/-- `a - b` in `uint32_t`. -/
def u32sub (a b : Nat) : Nat := (a + 2 ^ 32 - b) % 2 ^ 32

/-- `is_valid_ascii(data, size)`. -/
def is_valid_ascii (data : List UInt8) (size : Nat) : Bool :=
  (data.take size).all fun b => decide (Printable b)

/-- `str[3][rowlen - 1] = '.'; str[3][rowlen - 2] = '.'; str[3][rowlen - 3] = '.';` -/
def markCut (row : List UInt8) (rowlen : Nat) : Option (List UInt8) := do
  let b ← poke row (u32sub rowlen 1) (Char.toUInt8 '.')
  let b ← poke b (u32sub rowlen 2) (Char.toUInt8 '.')
  poke b (u32sub rowlen 3) (Char.toUInt8 '.')

/-- `split_message(msg, len, rowlen)`; `msg` is the memory at the pointer. -/
def split_message (msg : List UInt8) (len rowlen : Nat) : Option Rows := do
  let rowlen := if rowlen > 32 then 32 else rowlen
  let str0 := rowBuf (strlcpy msg (rowlen + 1))
  let str1 := rowBuf (if len > rowlen then strlcpy (msg.drop rowlen) (rowlen + 1) else [])
  let str2 :=
    rowBuf (if len > rowlen * 2 then strlcpy (msg.drop (rowlen * 2)) (rowlen + 1) else [])
  let str3 :=
    rowBuf (if len > rowlen * 3 then strlcpy (msg.drop (rowlen * 3)) (rowlen + 1) else [])
  let str3 ← if len > rowlen * 4 then markCut str3 rowlen else pure str3
  pure ⟨cstr str0, cstr str1, cstr str2, cstr str3⟩

/-- `split_message_hex(msg, len)`. -/
def split_message_hex (msg : List UInt8) (len : Nat) : Option Rows :=
  let size := if len > 32 then 32 else len
  let encoded := data2hex (msg.take size)
  let hex := encoded ++ List.replicate (65 - encoded.length) 0
  let hex := if len > 32 then (hex.set 63 (Char.toUInt8 '.')).set 62 (Char.toUInt8 '.') else hex
  split_message hex (size * 2) 16

/-! ## The rows as chunks -/

/-- Bytes `[k * r, (k + 1) * r)` of `m`, cut at its end. -/
def chunk (m : List UInt8) (r k : Nat) : List UInt8 := (m.drop (k * r)).take r

theorem chunk_length_le (m : List UInt8) (r k : Nat) : (chunk m r k).length ≤ r :=
  List.length_take_le _ _

theorem chunk_eq_nil {m : List UInt8} {r k : Nat} (h : m.length ≤ k * r) : chunk m r k = [] := by
  simp [chunk, List.drop_eq_nil_of_le h]

/-- The first three chunks spell the first `3 * r` bytes. -/
theorem chunks3_text (m : List UInt8) (r : Nat) :
    chunk m r 0 ++ chunk m r 1 ++ chunk m r 2 = m.take (3 * r) := by
  simp only [chunk, show 3 * r = r + r + r by omega, List.take_add, List.drop_drop,
    List.append_assoc, Nat.zero_mul, List.drop_zero, Nat.one_mul, show 2 * r = r + r by omega]

/-- The first four chunks spell the first `4 * r` bytes. -/
theorem chunks_text (m : List UInt8) (r : Nat) :
    chunk m r 0 ++ chunk m r 1 ++ chunk m r 2 ++ chunk m r 3 = m.take (4 * r) := by
  rw [chunks3_text, chunk, show 4 * r = 3 * r + r by omega, List.take_add]

theorem cstr_rowBuf {s : List UInt8} (h : 0 ∉ s) : cstr (rowBuf s) = s :=
  cstr_append_replicate_zero h _

theorem rowBuf_length {s : List UInt8} (h : s.length ≤ 33) : (rowBuf s).length = 33 := by
  simp [rowBuf]; omega

theorem clamp_eq_min (r0 : Nat) : (if r0 > 32 then 32 else r0) = min r0 32 := by
  split <;> omega

/-- Row `k` of a NUL-terminated message, read from inside it, is its `k`-th chunk. -/
theorem row_eq_chunk {m : List UInt8} (h : 0 ∉ m) (rest : List UInt8) {r k : Nat}
    (hk : r * k ≤ m.length) : strlcpy ((m ++ 0 :: rest).drop (r * k)) (r + 1) = chunk m r k := by
  rw [strlcpy_drop h hk, chunk, Nat.mul_comm]; rfl

/-- A row `split_message` fills only when `len > rowlen * k` is the chunk all the same. -/
theorem guarded_row_eq_chunk {m : List UInt8} (h : 0 ∉ m) (rest : List UInt8) (r k : Nat) :
    (if m.length > r * k then strlcpy ((m ++ 0 :: rest).drop (r * k)) (r + 1) else []) =
      chunk m r k := by
  split
  · exact row_eq_chunk h rest (by omega)
  · exact (chunk_eq_nil (by rw [Nat.mul_comm]; omega)).symm

theorem zero_not_mem_chunk {m : List UInt8} (h : 0 ∉ m) (r k : Nat) : 0 ∉ chunk m r k :=
  fun h0 => h (List.mem_of_mem_drop (List.mem_of_mem_take h0))

/-! ## The truncation marker -/

theorem poke_of_lt {buf : List UInt8} {i : Nat} (h : i < buf.length) (c : UInt8) :
    poke buf i c = some (buf.set i c) := if_pos h

theorem poke_append_length (p l : List UInt8) {k : Nat} (h : k < l.length) (c : UInt8) :
    poke (p ++ l) (p.length + k) c = some (p ++ l.set k c) := by
  rw [poke_of_lt (by simp; omega), List.set_append_right _ _ (by omega)]; simp

theorem u32sub_of_le {a b : Nat} (h : b ≤ a) (ha : a < 2 ^ 32) : u32sub a b = a - b := by
  unfold u32sub; omega

/-- The three dots of a full last row land on its last three bytes. -/
theorem markCut_rowBuf {s : List UInt8} {r : Nat} (hs : s.length = r) (h3 : 3 ≤ r) (h32 : r ≤ 32) :
    markCut (rowBuf s) r = some (s.take (r - 3) ++ lit "..." ++ List.replicate (33 - r) 0) := by
  subst hs
  unfold markCut
  obtain ⟨p, q, rfl, hq⟩ : ∃ p q, s = p ++ q ∧ q.length = 3 :=
    ⟨_, _, (List.take_append_drop (s.length - 3) s).symm, by simp; omega⟩
  match q, hq with
  | [a, b, c], _ =>
    simp only [List.length_append, List.length_cons, List.length_nil] at h3 h32 ⊢
    have e : rowBuf (p ++ [a, b, c]) = p ++ a :: b :: c :: List.replicate (30 - p.length) 0 := by
      simp [rowBuf]
    rw [e, u32sub_of_le (by omega) (by omega), u32sub_of_le (by omega) (by omega),
      u32sub_of_le (by omega) (by omega), show p.length + (0 + 1 + 1 + 1) - 1 = p.length + 2 by omega,
      show p.length + (0 + 1 + 1 + 1) - 2 = p.length + 1 by omega,
      show p.length + (0 + 1 + 1 + 1) - 3 = p.length + 0 by omega,
      poke_append_length _ _ (by simp), Option.bind_eq_bind, Option.some_bind]
    simp only [List.set_cons_succ, List.set_cons_zero]
    rw [poke_append_length _ _ (by simp), Option.some_bind, poke_append_length _ _ (by simp)]
    simp [lit]
    rfl

@[simp] theorem length_lit_dots : (lit "...").length = 3 := by decide

theorem zero_not_mem_lit_dots : 0 ∉ lit "..." := by decide

theorem cstr_dots {p : List UInt8} (h : 0 ∉ p) (n : Nat) :
    cstr (p ++ lit "..." ++ List.replicate n 0) = p ++ lit "..." :=
  cstr_append_replicate_zero (by simp [h, zero_not_mem_lit_dots]) n

theorem poke_eq_none {buf : List UInt8} {i : Nat} {c : UInt8} :
    poke buf i c = none ↔ buf.length ≤ i := by
  unfold poke; split <;> simp <;> omega

theorem poke_bind_eq_none {buf : List UInt8} {i : Nat} {c : UInt8}
    {f : List UInt8 → Option (List UInt8)} :
    (poke buf i c).bind f = none ↔ buf.length ≤ i ∨ f (buf.set i c) = none := by
  unfold poke; split <;> simp <;> omega

theorem u32sub_ge_33 {r j : Nat} (hr : r ≤ 32) (hj : j ≤ 3) : 33 ≤ u32sub r j ↔ r < j := by
  unfold u32sub
  have : (2 : Nat) ^ 32 = 4294967296 := rfl
  omega

/-- The dots fall outside a 33-byte row exactly when the width is below 3. -/
theorem markCut_eq_none {row : List UInt8} (hrow : row.length = 33) {r : Nat} (hr : r ≤ 32) :
    markCut row r = none ↔ r < 3 := by
  simp only [markCut, Option.bind_eq_bind, poke_bind_eq_none, poke_eq_none, List.length_set, hrow,
    u32sub_ge_33 hr (by decide : 1 ≤ 3), u32sub_ge_33 hr (by decide : 2 ≤ 3),
    u32sub_ge_33 hr le_rfl]
  omega

/-! ## The pager law -/

/-- The rows of a NUL-free message at width `r`: its chunks, the last one marked when cut. -/
def pagedRows (m : List UInt8) (r : Nat) : Rows :=
  if m.length ≤ 4 * r then ⟨chunk m r 0, chunk m r 1, chunk m r 2, chunk m r 3⟩
  else ⟨chunk m r 0, chunk m r 1, chunk m r 2, (chunk m r 3).take (r - 3) ++ lit "..."⟩

/-- `split_message` on a NUL-terminated message, as chunks. -/
theorem split_message_eq {m : List UInt8} (h0 : 0 ∉ m) (rest : List UInt8) (r0 : Nat)
    (hpre : 3 ≤ min r0 32 ∨ m.length ≤ 4 * min r0 32) :
    split_message (m ++ 0 :: rest) m.length r0 = some (pagedRows m (min r0 32)) := by
  simp only [split_message, clamp_eq_min]
  have hr : min r0 32 ≤ 32 := Nat.min_le_right _ _
  generalize min r0 32 = r at hpre hr ⊢
  have row0 : strlcpy (m ++ 0 :: rest) (r + 1) = chunk m r 0 := by
    simpa using row_eq_chunk h0 rest (k := 0) (r := r) (Nat.zero_le _)
  have row1 := guarded_row_eq_chunk h0 rest r 1
  rw [Nat.mul_one] at row1
  simp only [row0, row1, guarded_row_eq_chunk h0 rest, pagedRows,
    cstr_rowBuf (zero_not_mem_chunk h0 _ _)]
  by_cases hcut : m.length > r * 4
  · have h3 : (chunk m r 3).length = r := by simp [chunk]; omega
    rw [if_pos hcut, if_neg (by omega), markCut_rowBuf h3 (by omega) hr]
    simp only [Option.bind_eq_bind, Option.some_bind, cstr_dots
      (fun h => zero_not_mem_chunk h0 r 3 (List.mem_of_mem_take h))]
    rfl
  · rw [if_neg hcut, if_pos (by omega)]
    simp only [pure_bind, cstr_rowBuf (zero_not_mem_chunk h0 _ _)]
    rfl

theorem pagedRows_length_le (m : List UInt8) {r : Nat} (h : 3 ≤ r ∨ m.length ≤ 4 * r) :
    ∀ row ∈ (pagedRows m r).toList, row.length ≤ r := by
  unfold pagedRows
  split <;> simp only [Rows.toList, List.mem_cons, List.mem_singleton, List.not_mem_nil,
    or_false] <;> rintro row (rfl | rfl | rfl | rfl) <;> try exact chunk_length_le _ _ _
  simp; omega

/-- **Pager law.** At width `r = min r0 32` the rows are the `r`-byte chunks of the message,
spelling it when it fits in four rows; otherwise row 3 is a full row whose last three bytes
are the dots. -/
theorem split_message_rows {m : List UInt8} (h0 : 0 ∉ m) (r0 : Nat)
    (hpre : 3 ≤ min r0 32 ∨ m.length ≤ 4 * min r0 32) :
    ∃ rows, split_message (m ++ [0]) m.length r0 = some rows ∧
      (∀ row ∈ rows.toList, row.length ≤ min r0 32) ∧
      (m.length ≤ 4 * min r0 32 →
        rows = ⟨chunk m (min r0 32) 0, chunk m (min r0 32) 1, chunk m (min r0 32) 2,
          chunk m (min r0 32) 3⟩ ∧ rows.text = m) ∧
      (4 * min r0 32 < m.length →
        rows = ⟨chunk m (min r0 32) 0, chunk m (min r0 32) 1, chunk m (min r0 32) 2,
          (m.drop (3 * min r0 32)).take (min r0 32 - 3) ++ lit "..."⟩ ∧
        rows.r3.length = min r0 32) := by
  refine ⟨_, split_message_eq h0 [] r0 hpre, pagedRows_length_le m hpre, fun hfit => ?_, fun hcut => ?_⟩
  · rw [pagedRows, if_pos hfit]
    refine ⟨rfl, ?_⟩
    rw [Rows.text, chunks_text, List.take_of_length_le hfit]
  · have h3 : (chunk m (min r0 32) 3).take (min r0 32 - 3) =
        (m.drop (3 * min r0 32)).take (min r0 32 - 3) := by
      rw [chunk, List.take_take, Nat.min_eq_left (Nat.sub_le _ _)]
    rw [pagedRows, if_neg (by omega), h3]
    refine ⟨rfl, ?_⟩
    simp; omega

theorem split_message_rows_cut :
    0 ∉ lit "abcdefghijklm" ∧ 3 ≤ min 3 32 ∧
      split_message (lit "abcdefghijklm" ++ [0]) 13 3 =
        some ⟨lit "abc", lit "def", lit "ghi", lit "..."⟩ :=
  ⟨by decide, by decide, by
    obtain ⟨rows, h, -, -, hcut⟩ := split_message_rows (m := lit "abcdefghijklm") (by decide) 3
      (.inl (by decide))
    rw [show (lit "abcdefghijklm").length = 13 by decide] at h
    rw [h, (hcut (by decide)).1]; decide⟩

/-! ## Undefined behaviour -/

theorem strlcpy_length_le (src : List UInt8) (size : Nat) : (strlcpy src size).length ≤ size - 1 :=
  List.length_take_le _ _

/-- The one step of `split_message` that can fail is the cut marker on row 3, a 33-byte
buffer; the rows are read off after it. -/
theorem split_message_shape (msg : List UInt8) (len r0 : Nat) :
    ∃ (row3 : List UInt8) (f : List UInt8 → Rows), row3.length = 33 ∧
      split_message msg len r0 =
        if len > min r0 32 * 4 then (markCut row3 (min r0 32)).map f else some (f row3) := by
  have hr : min r0 32 ≤ 32 := Nat.min_le_right _ _
  have h3 : (if len > min r0 32 * 3 then strlcpy (msg.drop (min r0 32 * 3)) (min r0 32 + 1)
      else []).length ≤ 33 := by
    split
    · exact (strlcpy_length_le _ _).trans (by omega)
    · simp
  exact ⟨_, _, rowBuf_length h3, by
    simp only [split_message, clamp_eq_min, bind_pure_comp, Option.map_eq_map]; rfl⟩

/-- **Undefined behaviour.** For every message, length and width, `split_message` writes outside
its row exactly when the message is cut and the width, clamped to 32, is below 3. -/
theorem split_message_none (msg : List UInt8) (len r0 : Nat) :
    split_message msg len r0 = none ↔ min r0 32 < 3 ∧ 4 * min r0 32 < len := by
  obtain ⟨row3, f, h3, e⟩ := split_message_shape msg len r0
  rw [e]
  split_ifs with hc
  · rw [Option.map_eq_none', markCut_eq_none h3 (Nat.min_le_right _ _)]
    omega
  · simp only [reduceCtorEq, false_iff, not_and]
    omega

/-- At a width of 3 or more, clamped, `split_message` never writes outside its rows. -/
theorem split_message_isSome (msg : List UInt8) (len r0 : Nat) (h : 3 ≤ min r0 32) :
    (split_message msg len r0).isSome := by
  obtain ⟨row3, f, h3, e⟩ := split_message_shape msg len r0
  rw [e]
  split_ifs
  · rw [Option.isSome_map']
    exact Option.isSome_iff_ne_none.2 fun hn => absurd ((markCut_eq_none h3 (by omega)).1 hn) (by omega)
  · rfl

/-- `split_message_hex` pages at width 16, so it is defined for every message and length. -/
theorem split_message_hex_isSome (msg : List UInt8) (len : Nat) :
    (split_message_hex msg len).isSome :=
  split_message_isSome _ _ 16 (by decide)


/-! ## The text shown -/

/-- The text the spec's pager shows for `m` at width `r`: `m` when it fits in four rows, else its
first `4 * r - 3` bytes and the marker. -/
def pagedText (m : List UInt8) (r : Nat) : List UInt8 :=
  if m.length ≤ 4 * r then m else m.take (4 * r - 3) ++ lit "..."

theorem pagedRows_text (m : List UInt8) {r : Nat} (h : 3 ≤ r ∨ m.length ≤ 4 * r) :
    (pagedRows m r).text = pagedText m r := by
  unfold pagedRows pagedText
  split
  · rw [Rows.text, chunks_text, List.take_of_length_le ‹_›]
  · rw [Rows.text, ← List.append_assoc, chunks3_text, chunk, List.take_take,
      Nat.min_eq_left (Nat.sub_le _ _), ← List.take_add, show 3 * r + (r - 3) = 4 * r - 3 by omega]

/-- What `split_message_hex(msg, len)` encodes: the hex of the first `min len 32` bytes, its last
two digits replaced by `..` when `len > 32`. -/
def hexShown (msg : List UInt8) (len : Nat) : List UInt8 :=
  if len ≤ 32 then data2hex (msg.take len) else (data2hex (msg.take 32)).take 62 ++ lit ".."

@[simp] theorem length_lit_two_dots : (lit "..").length = 2 := by decide

theorem zero_not_mem_hexShown (msg : List UInt8) (len : Nat) : 0 ∉ hexShown msg len := by
  unfold hexShown
  split
  · exact zero_not_mem_data2hex _
  · simp only [List.mem_append, not_or]
    exact ⟨fun h => zero_not_mem_data2hex _ (List.mem_of_mem_take h), by decide⟩

theorem hexShown_length {msg : List UInt8} {len : Nat} (h : min len 32 ≤ msg.length) :
    (hexShown msg len).length = 2 * min len 32 := by
  unfold hexShown
  split <;> simp [data2hex_length] <;> omega

/-- `hex[63] = '.'; hex[62] = '.';` on the 64 digits and the NUL of a cut message. -/
theorem set_dots {p : List UInt8} (hp : p.length = 62) (a b : UInt8) :
    (((p ++ [a, b]) ++ [0]).set 63 (Char.toUInt8 '.')).set 62 (Char.toUInt8 '.') =
      (p ++ lit "..") ++ [0] := by
  simp only [List.append_assoc, List.set_append_right _ _ (show p.length ≤ 63 by omega),
    List.set_append_right _ _ (show p.length ≤ 62 by omega), hp]
  rfl

/-- `split_message_hex` pages the hex it encodes at width 16, in four rows or fewer. -/
theorem split_message_hex_eq (msg : List UInt8) {len : Nat} (h : min len 32 ≤ msg.length) :
    split_message_hex msg len = some (pagedRows (hexShown msg len) 16) := by
  have h0 := zero_not_mem_hexShown msg len
  have hlen := hexShown_length h
  unfold split_message_hex
  by_cases h32 : len ≤ 32
  · have e : hexShown msg len = data2hex (msg.take len) := if_pos h32
    rw [e] at h0 hlen ⊢
    have hz : 65 - (data2hex (msg.take len)).length = (64 - 2 * len) + 1 := by omega
    simp only [show ¬len > 32 by omega, if_false, hz, List.replicate_succ]
    rw [show len * 2 = (data2hex (msg.take len)).length by omega]
    exact split_message_eq h0 _ 16 (.inl (by decide))
  · have e : hexShown msg len = (data2hex (msg.take 32)).take 62 ++ lit ".." := if_neg h32
    have h64 : (data2hex (msg.take 32)).length = 64 := by simp [data2hex_length]; omega
    rw [e] at h0 ⊢
    simp only [show len > 32 by omega, if_true]
    generalize data2hex (msg.take 32) = d at h0 h64 ⊢
    obtain ⟨a, b, hab⟩ := List.length_eq_two.1 (show (d.drop 62).length = 2 by simp [h64])
    obtain ⟨p, rfl, hp⟩ : ∃ p, d = p ++ [a, b] ∧ p.length = 62 :=
      ⟨d.take 62, by rw [← hab, List.take_append_drop], by simp [h64]⟩
    rw [List.take_left' hp] at h0 ⊢
    rw [show 65 - (p ++ [a, b]).length = 1 by simp [hp], List.replicate_one, set_dots hp,
      show 32 * 2 = (p ++ lit "..").length by simp [hp]]
    exact split_message_eq h0 [] 16 (.inl (by decide))

/-- The cut hex is the hex of the first 31 bytes. -/
theorem hexShown_of_gt {msg : List UInt8} {len : Nat} (h32 : 32 < len) (h : 32 ≤ msg.length) :
    hexShown msg len = data2hex (msg.take 31) ++ lit ".." := by
  rw [hexShown, if_neg (by omega), show msg.take 32 = msg.take (31 + 1) from rfl, List.take_add,
    data2hex_append, List.take_left' (by simp [data2hex_length]; omega)]

/-- **Hex pager.** For every message and length whose bytes are read, the encoded text is at most
64 bytes and has no NUL, so the rows are its four 16-byte chunks with no marker written over
them; they spell the hex of the message, or of its first 31 bytes and `..` when it is longer than
32. -/
theorem split_message_hex_rows (msg : List UInt8) (len : Nat) (h : min len 32 ≤ msg.length) :
    ∃ t, t = (if len ≤ 32 then data2hex (msg.take len) else data2hex (msg.take 31) ++ lit "..") ∧
      t.length ≤ 64 ∧ 0 ∉ t ∧
      ∃ str, split_message_hex msg len = some str ∧
        str = ⟨chunk t 16 0, chunk t 16 1, chunk t 16 2, chunk t 16 3⟩ ∧ str.text = t ∧
        ∀ row ∈ str.toList, row.length ≤ 16 := by
  have ht : hexShown msg len =
      if len ≤ 32 then data2hex (msg.take len) else data2hex (msg.take 31) ++ lit ".." := by
    split
    · exact if_pos ‹_›
    · exact hexShown_of_gt (by omega) (by omega)
  have h64 : (hexShown msg len).length ≤ 64 := by rw [hexShown_length h]; omega
  refine ⟨hexShown msg len, ht, h64, zero_not_mem_hexShown msg len, _, split_message_hex_eq msg h,
    if_pos h64, ?_, pagedRows_length_le _ (.inl (by decide))⟩
  rw [pagedRows_text _ (.inl (by decide)), pagedText, if_pos h64]

/-- Thirty-three bytes: row 3 ends in the hex of byte 30 and the two dots. -/
theorem split_message_hex_rows_33 :
    min 33 32 ≤ (List.replicate 33 (0xab : UInt8)).length ∧
      ∃ str, split_message_hex (List.replicate 33 0xab) 33 = some str ∧
        str.r2 = lit "abababababababab" ∧ str.r3 = lit "ababababababab.." := by
  obtain ⟨t, rfl, -, -, str, e, hs, -⟩ := split_message_hex_rows (List.replicate 33 0xab) 33
    (by decide)
  exact ⟨by decide, str, e, by rw [hs]; decide, by rw [hs]; decide⟩

end BixinLayout
