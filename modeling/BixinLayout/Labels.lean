import BixinLayout.Dialogs
import BixinLayout.HumanizerProof

/-!
# Labels composed in fixed buffers

These screens of `layout2.c` compose their text in stack buffers of a fixed size, with `strlcpy`,
`strlcat`, `snprintf` and byte writes, before handing it to the display.

**Identity rows.** `layoutSignIdentity` and `layoutDecryptIdentity` build the same host and user
rows, and a protocol row of 20 bytes: the protocol upper-cased and a suffix, cut to 19 characters.
The buffer is sized `8 + 11 + 1`, for a protocol of 8 characters and a suffix of 11, which
` login to:` meets and ` decrypt for:` does not (`identity_proto_rows`). For a GPG identity
`Name <email>`, the sign-in dialog shows the name and the email on two rows
(`layoutSignIdentity_gpg`).

**Reset word.** `layoutResetWord` writes the word's position into `"##th word is:"` with `char`
arithmetic and fixes the suffix for 1, 2, 3, 21, 22 and 23 only.

**XPUB pages.** `layoutXPUB` writes the index and the page into `"XPUB #__ _/2 (______)"` and skips
81 bytes a page, the four rows of 21 less the dots, so that the two pages of a key of up to 165
bytes show all of it (`layoutXPUB_pages`).

**Auto-lock delay.** `layoutConfirmAutoLockDelay` states the delay in the largest unit it reaches,
in a buffer sized for the longest such line (`layoutConfirmAutoLockDelay_line`).

**CoSi.** `layoutCosiCommitSign` writes a SLIP-18 index over the `#` of its description at a fixed
offset, and shows a 32-byte message as four rows of 16 hex digits (`layoutCosiCommitSign_shows`).

**Change count.** `layoutChangeCountOverThreshold` prints the count into 21 bytes, which every
`uint32_t` fits (`layoutChangeCountOverThreshold_count`).
-/

namespace BixinLayout

/-! ## Identity dialogs -/

/-- The fields of an `IdentityType` the two dialogs read, each string as the bytes of its
buffer. -/
structure IdentityType where
  has_proto : Bool
  proto : List UInt8
  has_user : Bool
  user : List UInt8
  has_host : Bool
  host : List UInt8
  has_port : Bool
  port : List UInt8
deriving DecidableEq, Repr

/-- `toupper` in the C locale. -/
def toupper (c : UInt8) : UInt8 := if 97 ≤ c.toNat ∧ c.toNat ≤ 122 then c - 32 else c

/-- `row[0] ? row : NULL`. -/
def rowOrNull (row : List UInt8) : Option (List UInt8) := if row = [] then none else some row

/-- `row_proto` naming the protocol: `strlcpy` of the protocol, the `toupper` loop over it, then
`strlcat` of `suffix`, in `char row_proto[8 + 11 + 1]`. -/
def upperProtoRow (proto suffix : List UInt8) : List UInt8 :=
  strlcat ((strlcpy proto 20).map toupper) suffix 20

/-- `row_hostport`: the host, and `:port` when there is a port, in `char row_hostport[64 + 6 + 1]`;
empty without a host. -/
def hostportRow (identity : IdentityType) : List UInt8 :=
  if identity.has_host ∧ cstr identity.host ≠ [] then
    let row := strlcpy identity.host 71
    if identity.has_port ∧ cstr identity.port ≠ [] then
      strlcat (strlcat row (lit ":" ++ [0]) 71) identity.port 71
    else row
  else []

/-- `row_user`: `user: ` and the user, in `char row_user[64 + 8 + 1]`; empty without a user. -/
def userRow (identity : IdentityType) : List UInt8 :=
  if identity.has_user ∧ cstr identity.user ≠ [] then
    strlcat (strlcpy (lit "user: " ++ [0]) 73) identity.user 73
  else []

/-- The GPG split of `layoutSignIdentity`: at the first `<` of `row_hostport`, the name stays in
`row_hostport` and `row_user` gets the email, up to its `>`. -/
def gpgSplit (row_hostport row_user : List UInt8) : List UInt8 × List UInt8 :=
  let email_start := row_hostport.indexOf (Char.toUInt8 '<')
  if email_start < row_hostport.length then
    let row_user := strlcpy (row_hostport.drop (email_start + 1)) 73
    (row_hostport.take email_start, row_user.take (row_user.indexOf (Char.toUInt8 '>')))
  else (row_hostport, row_user)

/-- `layoutSignIdentity(identity, challenge)`. -/
def layoutSignIdentity (identity : IdentityType) (challenge : Option (List UInt8)) : Dialog :=
  let is_gpg := cstr identity.proto = lit "gpg"
  let row_proto :=
    if identity.has_proto ∧ cstr identity.proto ≠ [] then
      if cstr identity.proto = lit "https" then strlcpy (lit "Web sign in to:" ++ [0]) 20
      else if is_gpg then strlcpy (lit "GPG sign for:" ++ [0]) 20
      else upperProtoRow identity.proto (lit " login to:" ++ [0])
    else strlcpy (lit "Login to:" ++ [0]) 20
  let rows := if is_gpg then gpgSplit (hostportRow identity) (userRow identity)
    else (hostportRow identity, userRow identity)
  ⟨.question, some (lit "Cancel"), some (lit "Confirm"), some (lit "Do you want to sign in?"),
    rowOrNull row_proto, rowOrNull rows.1, rowOrNull rows.2, challenge, none, none⟩

/-- `layoutDecryptIdentity(identity)`. -/
def layoutDecryptIdentity (identity : IdentityType) : Dialog :=
  let row_proto :=
    if identity.has_proto ∧ cstr identity.proto ≠ [] then
      upperProtoRow identity.proto (lit " decrypt for:" ++ [0])
    else strlcpy (lit "Decrypt for:" ++ [0]) 20
  ⟨.question, some (lit "Cancel"), some (lit "Confirm"), some (lit "Do you want to decrypt?"),
    rowOrNull row_proto, rowOrNull (hostportRow identity), rowOrNull (userRow identity), none,
    none, none⟩

/-! ### The protocol row -/

theorem rowOrNull_eq_some {row x : List UInt8} (hx : x ≠ []) : rowOrNull row = some x ↔ row = x := by
  unfold rowOrNull
  split <;> simp_all [eq_comm]

theorem upperProtoRow_eq {proto suffix : List UInt8} (hp : 0 ∉ proto) (hs : 0 ∉ suffix) :
    upperProtoRow proto (suffix ++ [0]) =
      (proto.take 19).map toupper ++ suffix.take (19 - min 19 proto.length) := by
  rw [upperProtoRow, strlcpy, strlcat, cstr_of_not_mem hp, cstr_append_zero hs, List.length_map,
    List.length_take]

/-- The protocol row is whole exactly when the protocol and the suffix fit in 19 characters. -/
theorem upperProtoRow_whole {proto suffix : List UInt8} (hp : 0 ∉ proto) (hs : 0 ∉ suffix) :
    upperProtoRow proto (suffix ++ [0]) = proto.map toupper ++ suffix ↔
      proto.length + suffix.length ≤ 19 := by
  rw [upperProtoRow_eq hp hs]
  constructor
  · intro h
    have := congrArg List.length h
    simp only [List.length_append, List.length_map, List.length_take] at this
    omega
  · intro h
    rw [List.take_of_length_le (by omega), List.take_of_length_le (by omega)]

/-- **Protocol rows.** For every protocol other than `https` and `gpg`, the sign-in dialog's first
row is the protocol upper-cased and ` login to:` exactly when the protocol has at most 9
characters, and the decrypt dialog's first row is the protocol upper-cased and ` decrypt for:`
exactly when it has at most 6. -/
theorem identity_proto_rows (identity : IdentityType) (challenge : Option (List UInt8))
    (hp : identity.has_proto = true) (h0 : 0 ∉ identity.proto) (hne : identity.proto ≠ [])
    (https : identity.proto ≠ lit "https") (hgpg : identity.proto ≠ lit "gpg") :
    ((layoutSignIdentity identity challenge).line1 =
        some (identity.proto.map toupper ++ lit " login to:") ↔ identity.proto.length ≤ 9) ∧
    ((layoutDecryptIdentity identity).line1 =
        some (identity.proto.map toupper ++ lit " decrypt for:") ↔ identity.proto.length ≤ 6) := by
  have hc : cstr identity.proto = identity.proto := cstr_of_not_mem h0
  simp only [layoutSignIdentity, layoutDecryptIdentity, hc, hp, hne, https, hgpg, ne_eq,
    not_false_eq_true, and_self, if_true, if_false]
  rw [rowOrNull_eq_some (by simp [hne]), rowOrNull_eq_some (by simp [hne]),
    upperProtoRow_whole h0 (by decide), upperProtoRow_whole h0 (by decide)]
  exact ⟨by simp only [show (lit " login to:").length = 10 from rfl]; omega,
    by simp only [show (lit " decrypt for:").length = 13 from rfl]; omega⟩

/-- An OpenPGP identity: a protocol of 7 characters. -/
def openpgpIdentity : IdentityType := ⟨true, lit "openpgp", false, [], false, [], false, []⟩

theorem identity_proto_rows_openpgp :
    openpgpIdentity.has_proto = true ∧ 0 ∉ openpgpIdentity.proto ∧ openpgpIdentity.proto ≠ [] ∧
      openpgpIdentity.proto ≠ lit "https" ∧ openpgpIdentity.proto ≠ lit "gpg" ∧
      (layoutSignIdentity openpgpIdentity none).line1 = some (lit "OPENPGP login to:") ∧
      (layoutDecryptIdentity openpgpIdentity).line1 ≠ some (lit "OPENPGP decrypt for:") := by
  have h := identity_proto_rows openpgpIdentity none rfl (by decide) (by decide) (by decide)
    (by decide)
  exact ⟨rfl, by decide, by decide, by decide, by decide, (h.1.2 (by decide)).trans rfl,
    fun e => absurd (h.2.1 (e.trans rfl)) (by decide)⟩

/-! ### The GPG rows -/

theorem zero_not_mem_hostportRow (identity : IdentityType) : 0 ∉ hostportRow identity := by
  unfold hostportRow
  split_ifs
  · exact zero_not_mem_strlcat (zero_not_mem_strlcat (zero_not_mem_strlcpy _ _) _ _) _ _
  · exact zero_not_mem_strlcpy _ _
  · simp

/-- With a host, `row_hostport` starts with the host's first 70 bytes. -/
theorem hostportRow_eq (identity : IdentityType)
    (h : identity.has_host = true ∧ cstr identity.host ≠ []) :
    ∃ more, hostportRow identity = (cstr identity.host).take 70 ++ more := by
  unfold hostportRow
  rw [if_pos h]
  split
  · exact ⟨_, by simp only [strlcat, List.append_assoc]; rfl⟩
  · exact ⟨[], (List.append_nil _).symm⟩

/-- The split of a row `name<email>...`: the name, and the email up to its `>`. -/
theorem gpgSplit_eq {name email t : List UInt8} (row_user : List UInt8)
    (hname : Char.toUInt8 '<' ∉ name) (hemail : Char.toUInt8 '>' ∉ email)
    (h0 : 0 ∉ email ++ Char.toUInt8 '>' :: t) (hlen : email.length < 72) :
    gpgSplit (name ++ Char.toUInt8 '<' :: (email ++ Char.toUInt8 '>' :: t)) row_user =
      (name, email) := by
  have hi : (name ++ Char.toUInt8 '<' :: (email ++ Char.toUInt8 '>' :: t)).indexOf
      (Char.toUInt8 '<') = name.length := by
    rw [List.indexOf_append_of_not_mem hname, List.indexOf_cons_self, Nat.add_zero]
  have hu : strlcpy (email ++ Char.toUInt8 '>' :: t) 73 =
      email ++ Char.toUInt8 '>' :: t.take (71 - email.length) := by
    rw [strlcpy, cstr_of_not_mem h0, List.take_append_eq_append_take,
      List.take_of_length_le (by omega), show 73 - 1 - email.length = 71 - email.length + 1 by omega]
    rfl
  have he : (email ++ Char.toUInt8 '>' :: t.take (71 - email.length)).indexOf (Char.toUInt8 '>') =
      email.length := by
    rw [List.indexOf_append_of_not_mem hemail, List.indexOf_cons_self, Nat.add_zero]
  simp only [gpgSplit, hi, List.length_append, List.length_cons, List.take_left',
    if_pos (Nat.lt_add_of_pos_right (Nat.succ_pos _)), List.drop_append, List.drop_succ_cons,
    List.drop_zero, hu, he]

/-- **GPG rows.** For a GPG identity whose host reads `name<email>` and more, with the `>` among
the 70 bytes `row_hostport` keeps, the sign-in dialog shows the name on its second row and the
email on its third, whatever the port and the user. -/
theorem layoutSignIdentity_gpg (identity : IdentityType) (challenge : Option (List UInt8))
    (name email rest : List UInt8) (hgpg : cstr identity.proto = lit "gpg")
    (hh : identity.has_host = true)
    (hhost : identity.host = name ++ Char.toUInt8 '<' :: (email ++ Char.toUInt8 '>' :: rest))
    (hn0 : 0 ∉ name) (he0 : 0 ∉ email) (hname : Char.toUInt8 '<' ∉ name)
    (hemail : Char.toUInt8 '>' ∉ email) (hlen : name.length + email.length + 2 ≤ 70) :
    (layoutSignIdentity identity challenge).line2 = rowOrNull name ∧
      (layoutSignIdentity identity challenge).line3 = rowOrNull email := by
  let pre := name ++ Char.toUInt8 '<' :: (email ++ [Char.toUInt8 '>'])
  have hpre : 0 ∉ pre := by
    simp [pre, hn0, he0, show (0 : UInt8) ≠ Char.toUInt8 '<' by decide,
      show (0 : UInt8) ≠ Char.toUInt8 '>' by decide]
  have hc : cstr identity.host = pre ++ cstr rest := by
    rw [← cstr_append_of_not_mem hpre, hhost]
    simp [pre]
  have hlen' : pre.length ≤ 70 := by simp [pre]; omega
  obtain ⟨more, e⟩ := hostportRow_eq identity ⟨hh, by simp [hc, pre]⟩
  have hrow : hostportRow identity = name ++ Char.toUInt8 '<' :: (email ++ Char.toUInt8 '>' ::
      ((cstr rest).take (70 - pre.length) ++ more)) := by
    rw [e, hc, List.take_append_eq_append_take, List.take_of_length_le hlen']
    simp [pre]
  have h0 := zero_not_mem_hostportRow identity
  rw [hrow] at h0
  simp only [layoutSignIdentity, hgpg, if_true, hrow,
    gpgSplit_eq _ hname hemail (fun h => h0 (List.mem_append_right _ (List.mem_cons_of_mem _ h)))
      (by omega), and_self]

/-- The identity of the source's comment, `First Last <first@last.com>`, with a user. -/
def gpgIdentity : IdentityType :=
  ⟨true, lit "gpg", true, lit "first", true, lit "First Last <first@last.com>", false, []⟩

theorem layoutSignIdentity_gpg_first_last :
    cstr gpgIdentity.proto = lit "gpg" ∧ gpgIdentity.has_host = true ∧
      gpgIdentity.host =
        lit "First Last " ++ Char.toUInt8 '<' :: (lit "first@last.com" ++ [Char.toUInt8 '>']) ∧
      0 ∉ lit "First Last " ∧ 0 ∉ lit "first@last.com" ∧ Char.toUInt8 '<' ∉ lit "First Last " ∧
      Char.toUInt8 '>' ∉ lit "first@last.com" ∧
      (lit "First Last ").length + (lit "first@last.com").length + 2 ≤ 70 ∧
      (layoutSignIdentity gpgIdentity none).line2 = some (lit "First Last ") ∧
      (layoutSignIdentity gpgIdentity none).line3 = some (lit "first@last.com") := by
  have h := layoutSignIdentity_gpg gpgIdentity none (lit "First Last ") (lit "first@last.com") []
    rfl rfl rfl (by decide) (by decide) (by decide) (by decide) (by decide)
  exact ⟨rfl, rfl, rfl, by decide, by decide, by decide, by decide, by decide, h.1.trans rfl,
    h.2.trans rfl⟩

/-! ## The reset word -/

/-- An `int` stored into a `char`: its value modulo 256, as the target's `char` is unsigned. -/
def toChar (v : Int) : UInt8 := (v % 256).toNat.toUInt8

/-- `index_str` once `layoutResetWord` has written the word's position into `"##th word is:"`;
C's `/` and `%` on `int` truncate. -/
def index_str (word_pos : Int) : List UInt8 :=
  let s := lit "##th word is:" ++ [0]
  let s := s.set 0 (if word_pos < 10 then Char.toUInt8 ' '
    else toChar (('0'.toNat : Int) + word_pos.tdiv 10))
  let s := s.set 1 (toChar (('0'.toNat : Int) + word_pos.tmod 10))
  if word_pos = 1 ∨ word_pos = 21 then (s.set 2 (Char.toUInt8 's')).set 3 (Char.toUInt8 't')
  else if word_pos = 2 ∨ word_pos = 22 then (s.set 2 (Char.toUInt8 'n')).set 3 (Char.toUInt8 'd')
  else if word_pos = 3 ∨ word_pos = 23 then (s.set 2 (Char.toUInt8 'r')).set 3 (Char.toUInt8 'd')
  else s

/-- What `layoutResetWord` draws: the action, the word's position, the word and the button. -/
structure ResetWordScreen where
  action : List UInt8
  index : List UInt8
  word : List UInt8
  btnYes : List UInt8
deriving DecidableEq, Repr

/-- `layoutResetWord(word, pass, word_pos, last)`: the position line starts at `index_str + 1`
below 10. -/
def layoutResetWord (word : List UInt8) (pass word_pos : Int) (last : Bool) : ResetWordScreen :=
  let btnYes := if last then (if pass = 1 then lit "Finish" else lit "Again") else lit "Next"
  let action := if pass = 1 then lit "Please check the seed" else lit "Write down the seed"
  ⟨action, cstr (if word_pos < 10 then (index_str word_pos).drop 1 else index_str word_pos),
    cstr word, btnYes⟩

/-! ## The XPUB pages -/

/-- The assignments `buf[off] = bytes[0]; buf[off + 1] = bytes[1]; ...`, in order. -/
def writeBytes (buf : List UInt8) (off : Nat) : List UInt8 → List UInt8
  | [] => buf
  | c :: cs => writeBytes (buf.set off c) (off + 1) cs

/-- `desc[6]` and `desc[7]` as `layoutXPUB` writes them from `index`. -/
def xpubIndexDigits (index : Int) : UInt8 × UInt8 :=
  if index + 1 ≥ 10 then
    (toChar (('0'.toNat : Int) + ((index + 1).tdiv 10).tmod 10),
      toChar (('0'.toNat : Int) + (index + 1).tmod 10))
  else (toChar (('0'.toNat : Int) + (index + 1).tmod 10), Char.toUInt8 ' ')

/-- `desc` of `layoutXPUB` once the index, the page and the owner are written into
`"XPUB #__ _/2 (______)"`. -/
def xpubDesc (index page : Int) (ours : Bool) : List UInt8 :=
  let desc := lit "XPUB #__ _/2 (______)" ++ [0]
  let desc := ((desc.set 6 (xpubIndexDigits index).1).set 7 (xpubIndexDigits index).2).set 9
    (toChar (('1'.toNat : Int) + page))
  cstr (if ours then writeBytes desc 14 (lit "yours)" ++ [0]) else writeBytes desc 14 (lit "others"))

/-- What `layoutXPUB` draws: the description, the four rows of the page and the buttons. -/
structure XpubScreen where
  desc : List UInt8
  rows : Rows
  btnNo : List UInt8
  btnYes : List UInt8
deriving DecidableEq, Repr

/-- `layoutXPUB(xpub, index, page, ours)`, `xpub` being the memory at the pointer: `none` where
`index + 1` overflows an `int` or `xpub + page * 81` leaves the buffer. -/
def layoutXPUB (xpub : List UInt8) (index page : Int) (ours : Bool) : Option XpubScreen :=
  if index < 2147483647 ∧ 0 ≤ page ∧ page * 81 < xpub.length then
    let shown := xpub.drop (page * 81).toNat
    (split_message shown (strlen shown) 21).map fun str =>
      ⟨xpubDesc index page ours, str, lit "Next", lit "Confirm"⟩
  else none

theorem layoutXPUB_eq {m : List UInt8} (h0 : 0 ∉ m) {index : Int} (hi : index < 2147483647)
    {page : Nat} (hp : page * 81 ≤ m.length) (ours : Bool) :
    layoutXPUB (m ++ [0]) index page ours =
      some ⟨xpubDesc index page ours, pagedRows (m.drop (page * 81)) 21, lit "Next",
        lit "Confirm"⟩ := by
  have h0' : 0 ∉ m.drop (page * 81) := fun h => h0 (List.mem_of_mem_drop h)
  rw [layoutXPUB, if_pos ⟨hi, by omega, by simp; omega⟩]
  dsimp only
  rw [show ((page : Int) * 81).toNat = page * 81 by omega, List.drop_append_of_le_length hp, strlen,
    cstr_append_zero h0' [], split_message_eq h0' [] 21 (.inl (by decide))]
  rfl

/-- A key of 111 characters, the length of a Base58Check-encoded extended public key. -/
def xpub111 : List UInt8 :=
  lit "xpub661MyMwAqRbcFtXgS5sYJABqqG9YLmC4Q1Rdap9gSE8NqtwybGhePY2gZ29ESFjqJoCu1Rupje8YtGqsefD265TMg7usUDFdp6W1EGMcet8"

/-- **XPUB page stride.** For every index whose successor is an `int`, every key without NUL and
every page `p` that starts inside it, the rows spell the key from byte `81 * p` on when at most 84
bytes remain, and otherwise the next 81 bytes and `...`. So for a key of 85 to 165 bytes, page 0
less its dots and page 1 put together are the key: every byte shown once, in order. -/
theorem layoutXPUB_page_rows (index : Int) (hi : index < 2147483647) (ours : Bool)
    {x : List UInt8} (h0 : 0 ∉ x) :
    (∀ p : Nat, 81 * p < x.length → ∃ scr, layoutXPUB (x ++ [0]) index p ours = some scr ∧
      scr.rows.text = if x.length - 81 * p ≤ 84 then x.drop (81 * p)
        else (x.drop (81 * p)).take 81 ++ lit "...") ∧
    (84 < x.length → x.length ≤ 165 → ∃ page0 page1,
      layoutXPUB (x ++ [0]) index 0 ours = some page0 ∧
      layoutXPUB (x ++ [0]) index 1 ours = some page1 ∧
      ∃ shown0, page0.rows.text = shown0 ++ lit "..." ∧ shown0 ++ page1.rows.text = x) := by
  have rows : ∀ p : Nat, 81 * p < x.length → ∃ scr, layoutXPUB (x ++ [0]) index p ours = some scr ∧
      scr.rows.text = if x.length - 81 * p ≤ 84 then x.drop (81 * p)
        else (x.drop (81 * p)).take 81 ++ lit "..." := fun p hp => by
    refine ⟨_, layoutXPUB_eq h0 hi (show p * 81 ≤ x.length by omega) ours, ?_⟩
    rw [pagedRows_text _ (.inl (by decide)), pagedText, List.length_drop, Nat.mul_comm p]
  refine ⟨rows, fun h84 h165 => ?_⟩
  obtain ⟨page0, e0, t0⟩ := rows 0 (by omega)
  obtain ⟨page1, e1, t1⟩ := rows 1 (by omega)
  rw [if_neg (by omega), Nat.mul_zero, List.drop_zero] at t0
  rw [if_pos (by omega), Nat.mul_one] at t1
  exact ⟨page0, page1, e0, e1, x.take 81, t0, by rw [t1, List.take_append_drop]⟩

/-- A key of 111 characters: page 0 shows 81 of them and the dots, page 1 the other 30. -/
theorem layoutXPUB_page_rows_111 :
    (0 : Int) < 2147483647 ∧ 0 ∉ xpub111 ∧ 84 < xpub111.length ∧ xpub111.length ≤ 165 ∧
      ∃ page0 page1, layoutXPUB (xpub111 ++ [0]) 0 0 false = some page0 ∧
        layoutXPUB (xpub111 ++ [0]) 0 1 false = some page1 ∧
        page1.rows.text = lit "GqsefD265TMg7usUDFdp6W1EGMcet8" := by
  obtain ⟨rows, -⟩ := layoutXPUB_page_rows 0 (by decide) false (x := xpub111) (by decide)
  obtain ⟨page0, e0, -⟩ := rows 0 (by decide)
  obtain ⟨page1, e1, t1⟩ := rows 1 (by decide)
  exact ⟨by decide, by decide, by decide, by decide, page0, page1, e0, e1, t1.trans (by decide)⟩

/-! ## The auto-lock delay -/

/-- The unit `layoutConfirmAutoLockDelay` names and the count `num` of it. -/
def autoLockUnit (delay_ms : UInt32) : List UInt8 × UInt32 :=
  if delay_ms ≥ 60 * 60 * 1000 then (lit "hour", delay_ms / 1000 / (60 * 60))
  else if delay_ms ≥ 60 * 1000 then (lit "minute", delay_ms / 1000 / 60)
  else (lit "second", delay_ms / 1000)

/-- `line` of `layoutConfirmAutoLockDelay` for the unit `unit` and the count `num`, with
`bn_format_uint64 amount suffix decimals` the text `bn_format_uint64` writes, as in
`layoutConfirmOmni`, into the bytes of `line` left to it. -/
def autoLockLine (bn_format_uint64 : UInt64 → List UInt8 → Nat → List UInt8) (unit : List UInt8)
    (num : UInt32) : List UInt8 :=
  let size := (lit "after 4294967296 minutes?").length + 1
  let line := strlcpy (lit "after " ++ [0]) size
  let off := line.length
  let line := line ++ strlcpy (bn_format_uint64 num.toUInt64 [] 0 ++ [0]) (size - off)
  let line := strlcat line (lit " " ++ [0]) size
  let line := strlcat line (unit ++ [0]) size
  let line := if num > 1 then strlcat line (lit "s" ++ [0]) size else line
  strlcat line (lit "?" ++ [0]) size

/-- `layoutConfirmAutoLockDelay(delay_ms)`. -/
def layoutConfirmAutoLockDelay (bn_format_uint64 : UInt64 → List UInt8 → Nat → List UInt8)
    (delay_ms : UInt32) : Dialog :=
  ⟨.question, some (lit "Cancel"), some (lit "Confirm"), none, some (lit "Do you really want to"),
    some (lit "auto-lock your device"),
    some (autoLockLine bn_format_uint64 (autoLockUnit delay_ms).1 (autoLockUnit delay_ms).2), none,
    none, none⟩

/-- The delay in the largest of hours, minutes and seconds it reaches, rounded down. -/
def delayInUnit (ms : Nat) : Nat × List UInt8 :=
  if 3600000 ≤ ms then (ms / 3600000, lit "hour")
  else if 60000 ≤ ms then (ms / 60000, lit "minute")
  else (ms / 1000, lit "second")

theorem autoLockUnit_eq (delay_ms : UInt32) :
    (autoLockUnit delay_ms).1 = (delayInUnit delay_ms.toNat).2 ∧
      (autoLockUnit delay_ms).2.toNat = (delayInUnit delay_ms.toNat).1 := by
  have h1 : delay_ms ≥ 60 * 60 * 1000 ↔ 3600000 ≤ delay_ms.toNat := Iff.rfl
  have h2 : delay_ms ≥ 60 * 1000 ↔ 60000 ≤ delay_ms.toNat := Iff.rfl
  unfold autoLockUnit delayInUnit
  by_cases hh : 3600000 ≤ delay_ms.toNat
  · rw [if_pos (h1.2 hh), if_pos hh]
    exact ⟨rfl, by rw [UInt32.toNat_div, UInt32.toNat_div, Nat.div_div_eq_div_mul]; rfl⟩
  rw [if_neg (mt h1.1 hh), if_neg hh]
  by_cases hm : 60000 ≤ delay_ms.toNat
  · rw [if_pos (h2.2 hm), if_pos hm]
    exact ⟨rfl, by rw [UInt32.toNat_div, UInt32.toNat_div, Nat.div_div_eq_div_mul]; rfl⟩
  · rw [if_neg (mt h2.1 hm), if_neg hm]
    exact ⟨rfl, UInt32.toNat_div _ _⟩

theorem delayInUnit_unit (ms : Nat) :
    (delayInUnit ms).2.length ≤ 6 ∧ 0 ∉ (delayInUnit ms).2 := by
  unfold delayInUnit
  split_ifs <;> dsimp only <;> decide

/-- A unit of at most six letters and a count of at most ten digits fit the 26 bytes of `line`. -/
theorem autoLockLine_eq (bn_format_uint64 : UInt64 → List UInt8 → Nat → List UInt8)
    (hfmt : ∀ v, bn_format_uint64 v [] 0 = decimal v.toNat) {unit : List UInt8}
    (hu : unit.length ≤ 6) (hu0 : 0 ∉ unit) (num : UInt32) :
    autoLockLine bn_format_uint64 unit num = lit "after " ++ decimal num.toNat ++ lit " " ++ unit ++
      (if 1 < num.toNat then lit "s" else []) ++ lit "?" := by
  have hd := decimal_length_le num.toNat_lt_size
  have hd0 : 0 ∉ decimal num.toNat := fun h => ne_zero_of_printable (printable_of_mem_decimal h) rfl
  have h6 : (lit "after ").length = 6 := rfl
  have h1 : (lit " ").length = 1 := rfl
  simp only [autoLockLine, show (lit "after 4294967296 minutes?").length + 1 = 26 from rfl,
    strlcpy_of_lt (show 0 ∉ lit "after " by decide) [] (show 6 < 26 by decide), hfmt,
    show num.toUInt64.toNat = num.toNat from rfl, h6,
    strlcpy_of_lt hd0 [] (show (decimal num.toNat).length < 26 - 6 by omega)]
  rw [strlcat_of_lt (s := lit " ") (by decide) [] (by simp only [List.length_append, h6, h1]; omega),
    strlcat_of_lt hu0 [] (by simp only [List.length_append, h6, h1]; omega)]
  have hlen : (lit "after " ++ decimal num.toNat ++ lit " " ++ unit).length ≤ 23 := by
    simp only [List.length_append, h6, h1]; omega
  by_cases hn : 1 < num.toNat
  · rw [if_pos (show num > 1 from hn), if_pos hn,
      strlcat_of_lt (s := lit "s") (by decide) [] (by rw [show (lit "s").length = 1 from rfl]; omega),
      strlcat_of_lt (s := lit "?") (by decide) []
        (by rw [List.length_append, show (lit "s").length = 1 from rfl,
          show (lit "?").length = 1 from rfl]; omega)]
  · rw [if_neg (show ¬ num > 1 from hn), if_neg hn, List.append_nil,
      strlcat_of_lt (s := lit "?") (by decide) [] (by rw [show (lit "?").length = 1 from rfl]; omega)]

/-- **Auto-lock line.** When `bn_format_uint64` writes a number's decimal digits, for every delay the
third line is `after `, the delay in the largest unit it reaches, rounded down, the unit, an `s`
when the count is above 1, and `?`: the 26-byte buffer never cuts it. -/
theorem layoutConfirmAutoLockDelay_line
    (bn_format_uint64 : UInt64 → List UInt8 → Nat → List UInt8)
    (hfmt : ∀ v, bn_format_uint64 v [] 0 = decimal v.toNat) (delay_ms : UInt32) :
    (layoutConfirmAutoLockDelay bn_format_uint64 delay_ms).line3 =
      some (lit "after " ++ decimal (delayInUnit delay_ms.toNat).1 ++ lit " " ++
        (delayInUnit delay_ms.toNat).2 ++
        (if 1 < (delayInUnit delay_ms.toNat).1 then lit "s" else []) ++ lit "?") := by
  obtain ⟨hu, hn⟩ := autoLockUnit_eq delay_ms
  obtain ⟨hl, h0⟩ := delayInUnit_unit delay_ms.toNat
  rw [layoutConfirmAutoLockDelay, autoLockLine_eq bn_format_uint64 hfmt (hu ▸ hl) (hu ▸ h0), hu, hn]

/-- Ninety minutes read as one hour. -/
theorem layoutConfirmAutoLockDelay_line_90min :
    (∀ v : UInt64, (fun amount (_ : List UInt8) (_ : Nat) => decimal amount.toNat) v [] 0 =
        decimal v.toNat) ∧
      (layoutConfirmAutoLockDelay (fun amount _ _ => decimal amount.toNat) 5400000).line3 =
        some (lit "after 1 hour?") :=
  ⟨fun _ => rfl, (layoutConfirmAutoLockDelay_line _ (fun _ => rfl) 5400000).trans (by decide)⟩

/-! ## The CoSi dialog -/

/-- `is_slip18(address_n, address_n_count)`. -/
def is_slip18 (address_n : List UInt32) : Bool :=
  match address_n with
  | [a0, a1] => a0 == 0x80000000 + 10018 && a1 &&& 0x80000000 != 0 && a1 &&& 0x7FFFFFFF ≤ 9
  | _ => false

/-- The description of `layoutCosiCommitSign`: for a SLIP-18 path, `char desc_buf[32]` with the
index written at offset 16 or 18. -/
def cosiDesc (address_n : List UInt32) (final_sign : Bool) : List UInt8 :=
  if is_slip18 address_n then
    let digit := toChar (('0'.toNat + (address_n.getD 1 0 &&& 0x7FFFFFFF).toNat : Nat) : Int)
    if final_sign then cstr ((strlcpy (lit "CoSi sign index #?" ++ [0]) 32 ++ [0]).set 16 digit)
    else cstr ((strlcpy (lit "CoSi commit index #?" ++ [0]) 32 ++ [0]).set 18 digit)
  else if final_sign then lit "CoSi sign message?" else lit "CoSi commit message?"

/-- `char str[4][17]` of `layoutCosiCommitSign`: the hex of four 8-byte blocks of a 32-byte
message, or four words; `none` where `data2hex` would read past the data. -/
def cosiRows (data : List UInt8) (len : Nat) : Option Rows :=
  if len = 32 then
    if 32 ≤ data.length then
      some ⟨data2hex (chunk data 8 0), data2hex (chunk data 8 1), data2hex (chunk data 8 2),
        data2hex (chunk data 8 3)⟩
    else none
  else some ⟨lit "Data", lit "of", lit "unsupported", lit "length"⟩

/-- `layoutCosiCommitSign(address_n, address_n_count, data, len, final_sign)`. -/
def layoutCosiCommitSign (address_n : List UInt32) (data : List UInt8) (len : Nat)
    (final_sign : Bool) : Option Dialog :=
  (cosiRows data len).map (rowsDialog .question (some (lit "Cancel")) (some (lit "Confirm"))
    (some (cosiDesc address_n final_sign)))

theorem is_slip18_index {address_n : List UInt32} (h : is_slip18 address_n = true) :
    (address_n.getD 1 0 &&& 0x7FFFFFFF).toNat < 10 := by
  unfold is_slip18 at h
  split at h
  · simp only [Bool.and_eq_true, decide_eq_true_eq] at h
    exact Nat.lt_succ_of_le h.2
  · cases h

/-- The offsets 16 and 18 are those of the `#` in the two texts. -/
theorem cosiDesc_eq (address_n : List UInt32) (final_sign : Bool) :
    cosiDesc address_n final_sign =
      if is_slip18 address_n then
        (if final_sign then lit "CoSi sign index " else lit "CoSi commit index ") ++
          decimal (address_n.getD 1 0 &&& 0x7FFFFFFF).toNat ++ lit "?"
      else if final_sign then lit "CoSi sign message?" else lit "CoSi commit message?" := by
  unfold cosiDesc
  split
  · rename_i h
    have hi := is_slip18_index h
    generalize (address_n.getD 1 0 &&& 0x7FFFFFFF).toNat = i at hi
    cases final_sign
    · exact (by decide : ∀ i < 10, cstr ((strlcpy (lit "CoSi commit index #?" ++ [0]) 32 ++ [0]).set
        18 (toChar (('0'.toNat + i : Nat) : Int))) = lit "CoSi commit index " ++ decimal i ++ lit "?")
        i hi
    · exact (by decide : ∀ i < 10, cstr ((strlcpy (lit "CoSi sign index #?" ++ [0]) 32 ++ [0]).set
        16 (toChar (('0'.toNat + i : Nat) : Int))) = lit "CoSi sign index " ++ decimal i ++ lit "?")
        i hi
  · rfl

theorem cosiRows_eq {data : List UInt8} (h : data.length = 32) :
    ∃ str, cosiRows data 32 = some str ∧ str.text = data2hex data ∧
      ∀ row ∈ str.toList, row.length = 16 := by
  have hc : ∀ k < 4, (chunk data 8 k).length = 8 := fun k hk => by
    simp only [chunk, List.length_take, List.length_drop, h]; omega
  refine ⟨_, if_pos rfl |>.trans (if_pos h.ge), ?_, ?_⟩
  · rw [Rows.text, ← data2hex_append, ← data2hex_append, ← data2hex_append, chunks_text,
      List.take_of_length_le (by omega)]
  · simp only [Rows.toList, List.mem_cons, List.mem_singleton, List.not_mem_nil, or_false]
    rintro row (rfl | rfl | rfl | rfl) <;> rw [data2hex_length, hc _ (by decide)]

/-- **CoSi dialog.** For every path and every 32-byte message, the description names the SLIP-18
index in decimal where the path is a SLIP-18 one, and the four rows, of 16 hex digits each, spell
the hex of the message. -/
theorem layoutCosiCommitSign_shows (address_n : List UInt32) (data : List UInt8)
    (final_sign : Bool) (h : data.length = 32) :
    ∃ str : Rows, layoutCosiCommitSign address_n data 32 final_sign =
        some
          { icon := .question, btnNo := some (lit "Cancel"), btnYes := some (lit "Confirm"),
            desc := some (if is_slip18 address_n then
                (if final_sign then lit "CoSi sign index " else lit "CoSi commit index ") ++
                  decimal (address_n.getD 1 0 &&& 0x7FFFFFFF).toNat ++ lit "?"
              else if final_sign then lit "CoSi sign message?" else lit "CoSi commit message?"),
            line1 := some str.r0, line2 := some str.r1, line3 := some str.r2,
            line4 := some str.r3, line5 := none, line6 := none } ∧
      str.text = data2hex data ∧ ∀ row ∈ str.toList, row.length = 16 := by
  obtain ⟨str, e, ht, hl⟩ := cosiRows_eq h
  exact ⟨str, by rw [layoutCosiCommitSign, e, Option.map_some', cosiDesc_eq]; rfl, ht, hl⟩

/-- Signing 32 bytes at SLIP-18 index 3. -/
theorem layoutCosiCommitSign_index_3 :
    (List.replicate 32 (0xab : UInt8)).length = 32 ∧
      (layoutCosiCommitSign [0x80000000 + 10018, 0x80000003] (List.replicate 32 0xab) 32
          true).map Dialog.desc = some (some (lit "CoSi sign index 3?")) := by
  obtain ⟨str, e, -, -⟩ := layoutCosiCommitSign_shows [0x80000000 + 10018, 0x80000003]
    (List.replicate 32 0xab) true rfl
  exact ⟨rfl, by rw [e]; rfl⟩

/-! ## The change-output count -/

/-- The text `snprintf(str, size, ...)` leaves in `str` for a formatted text `text`. -/
def snprintf (size : Nat) (text : List UInt8) : List UInt8 := text.take (size - 1)

/-- `layoutChangeCountOverThreshold(change_count)`: `%` `PRIu32` writes the count in decimal. -/
def layoutChangeCountOverThreshold (change_count : UInt32) : Dialog :=
  let str_change := snprintf 21 (lit "There are " ++ decimal change_count.toNat)
  ⟨.question, some (lit "Cancel"), some (lit "Confirm"), none, some (lit "Warning!"),
    some str_change, some (lit "change-outputs."), none, some (lit "Continue?"), none⟩

/-- **Change count.** For every count the second line is `There are ` and the whole count:
`char str_change[21]` holds ten digits behind the ten characters of the text. -/
theorem layoutChangeCountOverThreshold_count (change_count : UInt32) :
    (layoutChangeCountOverThreshold change_count).line2 =
      some (lit "There are " ++ decimal change_count.toNat) := by
  have hd := decimal_length_le change_count.toNat_lt_size
  rw [layoutChangeCountOverThreshold, snprintf, List.take_of_length_le]
  rw [List.length_append, show (lit "There are ").length = 10 from rfl]
  omega

end BixinLayout
