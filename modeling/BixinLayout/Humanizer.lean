import BixinLayout.CString

/-!
# The derivation-path humanizer

`address_n_str` names a derivation path for the user. A BIP-44/49/84 path whose coin the registry
(or the small `slip44_extras` table) knows, with an account or address number below 100, becomes
a label such as `BTC segwit account #1`, assembled with `strlcpy`/`strlcat` in a 100-byte static
buffer. Every other path of at most eight components is written out as `Path: m/44'/0'/0'/0/0`,
right to left from the end of a static buffer of `7 + 8 * (1 + 10 + 1) + 1` bytes.

The right-to-left writes are modelled with their pointer: `put` refuses a write that would land
before the buffer, so that `address_n_str` returning `some` says every write stayed inside.
-/

namespace BixinLayout

/-- The fields of a registry coin that this file reads; both strings are C strings. -/
structure CoinInfo where
  coin_shortcut : List UInt8
  has_segwit : Bool
  bech32_prefix : Option (List UInt8)
  cashaddr_prefix : Option (List UInt8)
  shortcut_cstr : 0 ∉ coin_shortcut
  cashaddr_cstr : ∀ p ∈ cashaddr_prefix, 0 ∉ p
  /-- The coin table writes every shortcut after a space, the one `coin_shortcut + 1` skips. -/
  shortcut_space : coin_shortcut.head? = some (Char.toUInt8 ' ')

/-- `coinBySlip44`, the coin registry, keyed by the coin-type component as it stands. -/
def Registry := UInt32 → Option CoinInfo

/-- `coin->coin_shortcut + 1`: the shortcut without its leading space. -/
def CoinInfo.abbr (coin : CoinInfo) : List UInt8 := (coin.coin_shortcut ++ [0]).drop 1

/-- `slip44_extras(coin_type)`. -/
def slip44_extras (coin_type : UInt32) : Option (List UInt8) :=
  if coin_type &&& 0x80000000 = 0 then none
  else match (coin_type &&& 0x7fffffff).toNat with
    | 40 => some (lit "EXP")
    | 43 => some (lit "NEM")
    | 60 => some (lit "ETH")
    | 61 => some (lit "ETC")
    | 108 => some (lit "UBQ")
    | 137 => some (lit "RSK")
    | 37310 => some (lit "tRSK")
    | _ => none

/-- `BIP32_MAX_LAST_ELEMENT`. -/
def BIP32_MAX_LAST_ELEMENT : UInt32 := 1000000

/-- The guard of the known-path branch of `address_n_str`. -/
def isKnownPath (a0 a1 a2 a3 a4 : UInt32) : Bool :=
  (a0 == 0x80000000 + 44 || a0 == 0x80000000 + 49 || a0 == 0x80000000 + 84) &&
    a1 &&& 0x80000000 != 0 && a2 &&& 0x80000000 != 0 && a3 ≤ 1 && a4 ≤ BIP32_MAX_LAST_ELEMENT

/-- The abbreviation and the `legacy` flag chosen for a known path. -/
def pathAbbr (coin : Option CoinInfo) (a0 a1 : UInt32) : Option (List UInt8) × Bool :=
  if a0 == 0x80000000 + 84 then
    match coin with
    | some c => (if c.has_segwit && c.bech32_prefix.isSome then some c.abbr else none, false)
    | none => (none, false)
  else if a0 == 0x80000000 + 49 then
    match coin with
    | some c => (if c.has_segwit then some c.abbr else none, false)
    | none => (none, false)
  else
    match coin with
    | some c => (some c.abbr, c.has_segwit)
    | none => (slip44_extras a1, false)

/-- `acc`: `accnum` in one or two digits. -/
def accDigits (accnum : Nat) : List UInt8 :=
  if accnum < 10 then [(48 + accnum).toUInt8]
  else [(48 + accnum / 10).toUInt8, (48 + accnum % 10).toUInt8]

/-- The label `address_n_str` composes in `char path[100]`. -/
def knownLabel (abbr : List UInt8) (legacy native_segwit address_is_account : Bool)
    (accnum : Nat) : List UInt8 :=
  let path := strlcpy abbr 100
  let path := if legacy then strlcat path (lit " legacy" ++ [0]) 100 else path
  let path := if native_segwit then strlcat path (lit " segwit" ++ [0]) 100 else path
  let path := strlcat path
    ((if address_is_account then lit " address #" else lit " account #") ++ [0]) 100
  strlcat path (accDigits accnum ++ [0]) 100

/-- The known-path branch: the label, or `none` to fall through to the raw path. -/
def knownPathLabel (coinBySlip44 : Registry) (address_n : List UInt32)
    (address_is_account : Bool) : Option (List UInt8) :=
  match address_n with
  | [a0, a1, a2, a3, a4] =>
    if isKnownPath a0 a1 a2 a3 a4 then
      let (abbr, legacy) := pathAbbr (coinBySlip44 a1) a0 a1
      let accnum : UInt32 :=
        if address_is_account then (a4 &&& 0x7fffffff) + 1 else (a2 &&& 0x7fffffff) + 1
      match abbr with
      | some abbr =>
        if accnum < 100 then
          some (knownLabel abbr legacy (a0 == 0x80000000 + 84) address_is_account accnum.toNat)
        else none
      | none => none
    else none
  | _ => none

/-- `sizeof(address_str)`: `"Path: m"`, eight `/i'` of at most ten digits, the NUL. -/
def addressStrSize : Nat := 7 + 8 * (1 + 10 + 1) + 1

/--
`*c = x; c--;` on `address_str`, the bytes from `c + 1` to the end being `tail`: `c` is
`addressStrSize - 1 - tail.length`, and `none` is a write before the buffer.
-/
def put (x : UInt8) (tail : List UInt8) : Option (List UInt8) :=
  if tail.length < addressStrSize then some (x :: tail) else none

/-- The `'` of a hardened component. -/
def hardenedMark : UInt8 := 39

/-- `do { *c = '0' + (i % 10); c--; i /= 10; } while (i > 0);`, `fuel` bounding the passes. -/
def putDigits : (fuel i : Nat) → List UInt8 → Option (List UInt8)
  | 0, _, tail => some tail
  | fuel + 1, i, tail => do
    let tail ← put (48 + i % 10).toUInt8 tail
    if i / 10 > 0 then putDigits fuel (i / 10) tail else some tail

/-- One pass of the `for` loop over components, on component `i`. -/
def putComponent (i : UInt32) (tail : List UInt8) : Option (List UInt8) := do
  let tail ← if i &&& 0x80000000 != 0 then put hardenedMark tail else some tail
  let v := (i &&& 0x7fffffff).toNat
  let tail ← putDigits (v + 1) v tail
  put (Char.toUInt8 '/') tail

/-- Writes `s` so that it ends where `tail` starts, last byte first. -/
def putAll (s tail : List UInt8) : Option (List UInt8) :=
  s.foldr (fun x acc => acc.bind (put x)) (some tail)

/-- The raw rendering of `address_n_str`: `Path: m` and the components, built from the end. -/
def rawPath (address_n : List UInt32) : Option (List UInt8) := do
  let tail ← put 0 []
  let tail ← address_n.foldr (fun i acc => acc.bind (putComponent i)) (some tail)
  let tail ← putAll (lit "Path: m") tail
  pure (cstr tail)

/-- `address_n_str(address_n, address_n_count, address_is_account)`. -/
def address_n_str (coinBySlip44 : Registry) (address_n : List UInt32)
    (address_is_account : Bool) : Option (List UInt8) :=
  if address_n.length > 8 then some (lit "Unknown long path")
  else if address_n.length = 0 then some (lit "Path: m")
  else match knownPathLabel coinBySlip44 address_n address_is_account with
    | some label => some label
    | none => rawPath address_n

end BixinLayout
