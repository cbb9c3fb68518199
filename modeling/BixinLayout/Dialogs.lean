import BixinLayout.Pager

/-!
# Message and key dialogs

The confirmation dialogs of `layout2.c` that page a caller's message all end in
`layoutDialogSwipe(icon, btnNo, btnYes, desc, line1, ..., line6)`; a `Dialog` is that call's
arguments. This is the English build: `_()` is the identity, and the `ui_language` branches of
these dialogs, which draw the same rows with other texts, are left out (the amount dialogs, whose
Chinese branches differ, are in `BixinLayout.Amounts`).

Three dialogs test the message with `is_valid_ascii` first and page its hex when a byte is not
printable (`pageChecked_shows`): signing, verifying, and an OP_RETURN output. Encrypting and
decrypting a message, and a NEM payload that does not start with `0xFE`, hand the bytes to
`split_message` as they are, so a binary byte reaches the screen and a NUL hides the rest of the
message (`layoutEncryptMessage_raw`).

`layoutPublicKey` passes `32 * 2` as the length of a 32-byte key, so `split_message_hex` sees a
long message: it marks a cut and the key's last byte is never shown (`layoutPublicKey_cut`).

Every width these dialogs page at is 16 or more, so none of them reaches the write outside a row
that `split_message` makes below width 3 (`message_dialogs_defined`).

`layoutNEMDialog` shows an address in thirds of `NEM_ADDRESS_SIZE / 3` characters, the last from
`NEM_ADDRESS_SIZE * 2 / 3` on; nothing is lost exactly when the size leaves a remainder of 0 or 1
by 3, as the 40 of NEM does (`layoutNEMDialog_thirds`).
-/

namespace BixinLayout

/-- The icons of these dialogs. -/
inductive Icon where
  | question
  | info
deriving DecidableEq, Repr

/-- The arguments of `layoutDialogSwipe`; `none` is a `NULL` text. -/
structure Dialog where
  icon : Icon
  btnNo : Option (List UInt8)
  btnYes : Option (List UInt8)
  desc : Option (List UInt8)
  line1 : Option (List UInt8)
  line2 : Option (List UInt8)
  line3 : Option (List UInt8)
  line4 : Option (List UInt8)
  line5 : Option (List UInt8)
  line6 : Option (List UInt8)
deriving DecidableEq, Repr

/-- `layoutDialogSwipe(icon, btnNo, btnYes, desc, str[0], str[1], str[2], str[3], NULL, NULL)`. -/
def rowsDialog (icon : Icon) (btnNo btnYes desc : Option (List UInt8)) (str : Rows) : Dialog :=
  ⟨icon, btnNo, btnYes, desc, some str.r0, some str.r1, some str.r2, some str.r3, none, none⟩

/-! ## Messages -/

/-- `str = !is_valid_ascii(msg, len) ? split_message_hex(msg, len) : split_message(msg, len, w)`. -/
def pageChecked (msg : List UInt8) (len rowlen : Nat) : Option Rows :=
  if !is_valid_ascii msg len then split_message_hex msg len else split_message msg len rowlen

/-- `layoutConfirmOpReturn(data, size)`. -/
def layoutConfirmOpReturn (data : List UInt8) (size : Nat) : Option Dialog := do
  let str ← pageChecked data size 20
  pure ⟨.question, some (lit "Cancel"), some (lit "Confirm"), none, some (lit "Confirm OP_RETURN:"),
    some str.r0, some str.r1, some str.r2, some str.r3, none⟩

/-- `layoutSignMessage(msg, len)`. -/
def layoutSignMessage (msg : List UInt8) (len : Nat) : Option Dialog :=
  if !is_valid_ascii msg len then
    (split_message_hex msg len).map (rowsDialog .question (some (lit "Cancel"))
      (some (lit "Confirm")) (some (lit "Sign binary message?")))
  else
    (split_message msg len 18).map (rowsDialog .question (some (lit "Cancel"))
      (some (lit "Confirm")) (some (lit "Sign message?")))

/-- `layoutVerifyMessage(msg, len)`. -/
def layoutVerifyMessage (msg : List UInt8) (len : Nat) : Option Dialog :=
  if !is_valid_ascii msg len then
    (split_message_hex msg len).map (rowsDialog .info (some (lit "Cancel"))
      (some (lit "Confirm")) (some (lit "Verified binary message")))
  else
    (split_message msg len 20).map (rowsDialog .info (some (lit "Cancel"))
      (some (lit "Confirm")) (some (lit "Verified message")))

/-- `layoutCipherKeyValue(encrypt, key)`. -/
def layoutCipherKeyValue (encrypt : Bool) (key : List UInt8) : Option Dialog :=
  (split_message key (strlen key) 16).map (rowsDialog .question (some (lit "Cancel"))
    (some (lit "Confirm"))
    (some (if encrypt then lit "Encrypt value of this key?" else lit "Decrypt value of this key?")))

/-- `layoutEncryptMessage(msg, len, signing)`. -/
def layoutEncryptMessage (msg : List UInt8) (len : Nat) (signing : Bool) : Option Dialog :=
  (split_message msg len 16).map (rowsDialog .question (some (lit "Cancel")) (some (lit "Confirm"))
    (some (if signing then lit "Encrypt+Sign message?" else lit "Encrypt message?")))

/-- `layoutDecryptMessage(msg, len, address)`; only whether `address` is `NULL` matters. -/
def layoutDecryptMessage (msg : List UInt8) (len : Nat) (address : Option (List UInt8)) :
    Option Dialog :=
  (split_message msg len 16).map (rowsDialog .info none (some (lit "OK"))
    (some (if address.isSome then lit "Decrypted signed message" else lit "Decrypted message")))

/-- `layoutNEMTransferPayload(payload, length, encrypted)`: the hex of a payload marked `0xFE`,
from a zeroed `char encoded[(length - 1) * 2 + 1]`, or the payload itself. -/
def layoutNEMTransferPayload (payload : List UInt8) (length : Nat) (encrypted : Bool) :
    Option Dialog :=
  if length ≥ 1 ∧ payload.head? = some 0xFE then
    let encoded := data2hex ((payload.drop 1).take (length - 1))
    (split_message (encoded ++ [0]) ((length - 1) * 2) 16).map (rowsDialog .question
      (some (lit "Cancel")) (some (lit "Next"))
      (some (if encrypted then lit "Encrypted hex data" else lit "Unencrypted hex data")))
  else
    (split_message payload length 16).map (rowsDialog .question (some (lit "Cancel"))
      (some (lit "Next"))
      (some (if encrypted then lit "Encrypted message" else lit "Unencrypted message")))

/-! ## What the checked dialogs show -/

/-- The spec's rendering of a message in a dialog that tests for binary content, at width `w`:
the message paged with `...` when every byte is printable, its hex otherwise. -/
def shownText (m : List UInt8) (w : Nat) : List UInt8 :=
  if m.all (fun b => decide (Printable b)) then pagedText m w else hexShown m m.length

theorem printable_lit_dots : ∀ c ∈ lit "...", Printable c := by decide

theorem printable_lit_two_dots : ∀ c ∈ lit "..", Printable c := by decide

theorem is_valid_ascii_append (m rest : List UInt8) :
    is_valid_ascii (m ++ rest) m.length = m.all (fun b => decide (Printable b)) := by
  simp [is_valid_ascii]

theorem hexShown_append (m rest : List UInt8) : hexShown (m ++ rest) m.length = hexShown m m.length := by
  unfold hexShown
  split
  · simp
  · rw [List.take_append_of_le_length (by omega)]

theorem printable_of_mem_hexShown {msg : List UInt8} {len : Nat} {c : UInt8}
    (h : c ∈ hexShown msg len) : Printable c := by
  unfold hexShown at h
  split at h
  · exact printable_of_mem_data2hex h
  · rcases List.mem_append.1 h with h | h
    · exact printable_of_mem_data2hex (List.mem_of_mem_take h)
    · exact printable_lit_two_dots c h

theorem printable_of_mem_pagedText {m : List UInt8} {r : Nat} (hm : ∀ c ∈ m, Printable c)
    {c : UInt8} (h : c ∈ pagedText m r) : Printable c := by
  unfold pagedText at h
  split at h
  · exact hm c h
  · rcases List.mem_append.1 h with h | h
    · exact hm c (List.mem_of_mem_take h)
    · exact printable_lit_dots c h

/-- The hex path: the rows spell what `split_message_hex` encodes, four rows or fewer. -/
theorem split_message_hex_text (msg : List UInt8) (len : Nat) (h : min len 32 ≤ msg.length) :
    ∃ str, split_message_hex msg len = some str ∧ str.text = hexShown msg len := by
  refine ⟨_, split_message_hex_eq msg h, ?_⟩
  rw [pagedRows_text _ (.inl (by decide)), pagedText, if_pos (by rw [hexShown_length h]; omega)]

/-- **What a checked dialog shows.** For every message followed by a NUL and every width from 3
to 32, the rows are printable ASCII and spell the spec's rendering: the message, or its hex,
cut to a prefix and a marker when it does not fit. -/
theorem pageChecked_shows (m : List UInt8) {w : Nat} (hw : 3 ≤ w) (hw32 : w ≤ 32) :
    ∃ str, pageChecked (m ++ [0]) m.length w = some str ∧
      (∀ c ∈ str.text, Printable c) ∧ str.text = shownText m w := by
  unfold pageChecked shownText
  rw [is_valid_ascii_append]
  by_cases hp : m.all (fun b => decide (Printable b))
  · have hm : ∀ c ∈ m, Printable c := by simpa using hp
    have h0 : 0 ∉ m := fun h => ne_zero_of_printable (hm 0 h) rfl
    have e := split_message_eq h0 [] w (.inl (by omega))
    rw [Nat.min_eq_left hw32] at e
    rw [if_neg (by simp [hp]), if_pos hp]
    refine ⟨_, e, ?_⟩
    rw [pagedRows_text _ (.inl hw)]
    exact ⟨fun c hc => printable_of_mem_pagedText hm hc, rfl⟩
  · obtain ⟨str, e, ht⟩ := split_message_hex_text (m ++ [0]) m.length
      (by rw [List.length_append]; omega)
    rw [hexShown_append] at ht
    simp only [hp, Bool.not_false, if_true, if_false, e]
    exact ⟨str, rfl, ht ▸ fun c hc => printable_of_mem_hexShown hc, ht⟩

/-- The byte `0x01` is shown as its hex, `01`. -/
theorem pageChecked_shows_binary :
    3 ≤ 18 ∧ 18 ≤ 32 ∧ ∃ str, pageChecked ([1] ++ [0]) 1 18 = some str ∧ str.text = lit "01" := by
  obtain ⟨str, e, -, ht⟩ := pageChecked_shows [1] (w := 18) (by decide) (by decide)
  exact ⟨by decide, by decide, str, e, ht.trans (by decide)⟩

theorem layoutSignMessage_eq (msg : List UInt8) (len : Nat) :
    layoutSignMessage msg len = (pageChecked msg len 18).map (rowsDialog .question
      (some (lit "Cancel")) (some (lit "Confirm"))
      (some (if is_valid_ascii msg len then lit "Sign message?" else lit "Sign binary message?"))) := by
  unfold layoutSignMessage pageChecked
  cases is_valid_ascii msg len <;> rfl

theorem layoutVerifyMessage_eq (msg : List UInt8) (len : Nat) :
    layoutVerifyMessage msg len = (pageChecked msg len 20).map (rowsDialog .info
      (some (lit "Cancel")) (some (lit "Confirm"))
      (some (if is_valid_ascii msg len then lit "Verified message"
        else lit "Verified binary message"))) := by
  unfold layoutVerifyMessage pageChecked
  cases is_valid_ascii msg len <;> rfl

/-- A NEM payload marked `0xFE` shows the hex of the rest, paged at width 16 with `...`. -/
theorem layoutNEMTransferPayload_hex (p : List UInt8) (encrypted : Bool) :
    layoutNEMTransferPayload (0xFE :: p) (p.length + 1) encrypted =
      some (rowsDialog .question (some (lit "Cancel")) (some (lit "Next"))
        (some (if encrypted then lit "Encrypted hex data" else lit "Unencrypted hex data"))
        (pagedRows (data2hex p) 16)) := by
  have e := split_message_eq (zero_not_mem_data2hex p) [] 16 (.inl (by decide))
  rw [data2hex_length, show 2 * p.length = p.length * 2 by omega] at e
  simp [layoutNEMTransferPayload, e]

/-! ## The dialogs that do not check -/

/-- Encrypting pages the message as it is, at width 16. -/
theorem layoutEncryptMessage_eq {m : List UInt8} (h0 : 0 ∉ m) (signing : Bool) :
    layoutEncryptMessage (m ++ [0]) m.length signing =
      some (rowsDialog .question (some (lit "Cancel")) (some (lit "Confirm"))
        (some (if signing then lit "Encrypt+Sign message?" else lit "Encrypt message?"))
        (pagedRows m 16)) := by
  simp [layoutEncryptMessage, split_message_eq h0 [] 16 (.inl (by decide))]

/-- A one-byte message `0x01` is shown as that byte, and in `A\0B` the `B` is hidden without a
marker. -/
theorem layoutEncryptMessage_raw :
    layoutEncryptMessage [1, 0] 1 false =
        some
          { icon := .question, btnNo := some (lit "Cancel"), btnYes := some (lit "Confirm"),
            desc := some (lit "Encrypt message?"), line1 := some [1], line2 := some [],
            line3 := some [], line4 := some [], line5 := none, line6 := none } ∧
      ¬ Printable 1 ∧
      layoutEncryptMessage (lit "A" ++ 0 :: lit "B" ++ [0]) 3 false =
        some
          { icon := .question, btnNo := some (lit "Cancel"), btnYes := some (lit "Confirm"),
            desc := some (lit "Encrypt message?"), line1 := some (lit "A"), line2 := some [],
            line3 := some [], line4 := some [], line5 := none, line6 := none } :=
  ⟨rfl, by decide, rfl⟩

/-! ## The public key -/

/-- `layoutPublicKey(pubkey)`: the key type in the title, the 32 key bytes in the rows. The code
reads `pubkey[0]` and, through `split_message_hex(pubkey + 1, 32 * 2)`, the 32 bytes after it: a
key of fewer than 33 bytes is read past its end, which is `none`. -/
def layoutPublicKey (pubkey : List UInt8) : Option Dialog := do
  if pubkey.length < 33 then none
  let desc := strlcpy (lit "Public Key: 00" ++ [0]) 16
  let desc ← match pubkey.head? with
    | some 1 => pure desc
    | some _ => pure (desc.take 12 ++ data2hex (pubkey.take 1))
    | none => none
  let str ← split_message_hex (pubkey.drop 1) (32 * 2)
  pure ⟨.question, none, some (lit "Continue"), none, some desc, some str.r0, some str.r1,
    some str.r2, some str.r3, none⟩

/-- **The key's last byte is cut.** For every 33-byte key the four rows spell the first 62 hex
digits of the key bytes and `..`: `32 * 2` is more than 32, so `split_message_hex` marks a cut. -/
theorem layoutPublicKey_cut (pubkey : List UInt8) (h : pubkey.length = 33) :
    ∃ str : Rows,
      (layoutPublicKey pubkey).map (fun d => [d.line2, d.line3, d.line4, d.line5]) =
        some [some str.r0, some str.r1, some str.r2, some str.r3] ∧
      str.text = (data2hex (pubkey.drop 1)).take 62 ++ lit ".." := by
  obtain ⟨k, key, rfl⟩ : ∃ k key, pubkey = k :: key := List.exists_cons_of_length_eq_add_one h
  obtain ⟨str, e, ht⟩ := split_message_hex_text key (32 * 2) (by simp at h; omega)
  have hkey : key.take 32 = key := List.take_of_length_le (by simp at h; omega)
  refine ⟨str, ?_, by rw [ht, hexShown, if_neg (by decide), hkey]; rfl⟩
  simp only [layoutPublicKey, h, lt_self_iff_false, if_false, List.head?_cons, List.drop_succ_cons,
    List.drop_zero, e]
  split <;> first | rfl | contradiction

/-- A compressed key `02 ab .. ab`: the rows end in `..`, not in the last `ab`. -/
theorem layoutPublicKey_cut_ab :
    (2 :: List.replicate 32 0xab).length = 33 ∧ ∃ str : Rows,
      (layoutPublicKey (2 :: List.replicate 32 0xab)).map
          (fun d => [d.line2, d.line3, d.line4, d.line5]) =
        some [some str.r0, some str.r1, some str.r2, some str.r3] ∧
      str.text ≠ data2hex (List.replicate 32 0xab) := by
  obtain ⟨str, e, ht⟩ := layoutPublicKey_cut (2 :: List.replicate 32 0xab) rfl
  exact ⟨rfl, str, e, by rw [ht]; decide⟩

/-! ## Defined for every input -/

theorem pageChecked_isSome (msg : List UInt8) (len w : Nat) (hw : 3 ≤ min w 32) :
    (pageChecked msg len w).isSome := by
  unfold pageChecked
  split
  · exact split_message_hex_isSome msg len
  · exact split_message_isSome msg len w hw

/-- **No message dialog writes outside its rows.** Every width these dialogs page at is 16, 18 or
20, never below the 3 that `split_message`'s cut marker needs, so for every message, length and
flag each of them is defined. -/
theorem message_dialogs_defined (msg : List UInt8) (len : Nat) (flag : Bool)
    (address : Option (List UInt8)) :
    (layoutConfirmOpReturn msg len).isSome ∧ (layoutSignMessage msg len).isSome ∧
      (layoutVerifyMessage msg len).isSome ∧ (layoutCipherKeyValue flag msg).isSome ∧
      (layoutEncryptMessage msg len flag).isSome ∧ (layoutDecryptMessage msg len address).isSome ∧
      (layoutNEMTransferPayload msg len flag).isSome := by
  have h16 (m : List UInt8) (n : Nat) : (split_message m n 16).isSome :=
    split_message_isSome m n 16 (by decide)
  obtain ⟨str, e⟩ := Option.isSome_iff_exists.1 (pageChecked_isSome msg len 20 (by decide))
  refine ⟨by simp [layoutConfirmOpReturn, e], ?_, ?_, by simp [layoutCipherKeyValue, h16],
    by simp [layoutEncryptMessage, h16], by simp [layoutDecryptMessage, h16], ?_⟩
  · simpa [layoutSignMessage_eq] using pageChecked_isSome msg len 18 (by decide)
  · simpa [layoutVerifyMessage_eq] using pageChecked_isSome msg len 20 (by decide)
  · unfold layoutNEMTransferPayload
    split <;> simp [h16]

/-! ## NEM addresses -/

/-- `layoutNEMDialog(icon, btnNo, btnYes, desc, line1, address)` for the `NEM_ADDRESS_SIZE` of the
absent `nem.h`: the address in thirds, the first two copied into buffers of a third and a NUL, the
last read in place; `none` where a third would start past the address's memory. -/
def layoutNEMDialog (NEM_ADDRESS_SIZE : Nat) (icon : Icon) (btnNo btnYes desc line1 : Option (List UInt8))
    (address : List UInt8) : Option Dialog :=
  if NEM_ADDRESS_SIZE * 2 / 3 ≤ address.length then
    let first_third := strlcpy address (NEM_ADDRESS_SIZE / 3 + 1)
    let second_third := strlcpy (address.drop (NEM_ADDRESS_SIZE / 3)) (NEM_ADDRESS_SIZE / 3 + 1)
    let third_third := cstr (address.drop (NEM_ADDRESS_SIZE * 2 / 3))
    some ⟨icon, btnNo, btnYes, desc, line1, some first_third, some second_third, some third_third,
      none, none⟩
  else none

/-- **NEM address thirds.** For every address size `N` and every address of `N` characters followed
by a NUL, the three rows spell the address exactly when `N % 3 ≠ 2`: the first two thirds cover
`2 * (N / 3)` characters and the last starts at `N * 2 / 3`. -/
theorem layoutNEMDialog_thirds (N : Nat) (icon : Icon) (btnNo btnYes desc line1 : Option (List UInt8))
    {m : List UInt8} (h0 : 0 ∉ m) (hN : m.length = N) :
    ∃ r1 r2 r3, layoutNEMDialog N icon btnNo btnYes desc line1 (m ++ [0]) =
        some ⟨icon, btnNo, btnYes, desc, line1, some r1, some r2, some r3, none, none⟩ ∧
      (r1 ++ r2 ++ r3 = m ↔ N % 3 ≠ 2) := by
  have hlen : N * 2 / 3 ≤ (m ++ [0]).length := by simp; omega
  refine ⟨_, _, _, by rw [layoutNEMDialog, if_pos hlen], ?_⟩
  rw [strlcpy, cstr_append_zero h0, strlcpy_drop h0 (by omega), cstr_drop_append_zero h0,
    Nat.add_sub_cancel, ← List.take_add]
  constructor
  · intro h
    have := congrArg List.length h
    simp only [List.length_append, List.length_take, List.length_drop] at this
    omega
  · intro h
    rw [show N / 3 + N / 3 = N * 2 / 3 by omega, List.take_append_drop]

/-- A 40-character address, the NEM size, is shown whole. -/
theorem layoutNEMDialog_thirds_forty :
    0 ∉ List.replicate 40 (Char.toUInt8 'T') ∧ (List.replicate 40 (Char.toUInt8 'T')).length = 40 ∧
      ∃ r1 r2 r3, layoutNEMDialog 40 .question none none none none
          (List.replicate 40 (Char.toUInt8 'T') ++ [0]) =
          some ⟨.question, none, none, none, none, some r1, some r2, some r3, none, none⟩ ∧
        r1 ++ r2 ++ r3 = List.replicate 40 (Char.toUInt8 'T') := by
  obtain ⟨r1, r2, r3, e, h⟩ := layoutNEMDialog_thirds 40 .question none none none none
    (m := List.replicate 40 (Char.toUInt8 'T')) (by decide) (List.length_replicate _ _)
  exact ⟨by decide, List.length_replicate _ _, r1, r2, r3, e, h.2 (by decide)⟩

end BixinLayout
