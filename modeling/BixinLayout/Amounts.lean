import BixinLayout.Dialogs

/-!
# Amount dialogs

The dialogs that confirm an amount take its text from formatters outside this file:
`bn_format_uint64` of `bignum.c` and the `nem_mosaicFormat*` functions of `nem.c`. Each text is a
parameter here, as the formatter wrote it into the dialog's buffer. The Chinese branches go through
`layoutDialogSwipe_zh`, which takes four lines, and are modelled with the same `Dialog` record,
their fifth and sixth lines `NULL`.

The Chinese `layoutFeeOverThreshold` formats the fee and then does not show it; the English one
names the fee on its second line.

The NEM transfer of an unknown mosaic shows the amount cut at its first `'.'`, the raw units, and
the levy dialog names the levy's mosaic from what the mosaic lookup finds.
-/

namespace BixinLayout

/-- `layoutConfirmTx(coin, amount_out, amount_fee)`, with `str_out` and `str_fee` the texts
`bn_format_uint64` writes for the two amounts. -/
def layoutConfirmTx (ui_language : Bool) (str_out str_fee : List UInt8) : Dialog :=
  if ui_language then
    ⟨.question, some (lit "取消"), some (lit "确认"), none, some (lit "确认发送:"), some str_out,
      some (lit "包含手续费 :"), some str_fee, none, none⟩
  else
    ⟨.question, some (lit "Cancel"), some (lit "Confirm"), none, some (lit "Really send"),
      some str_out, some (lit "from your wallet?"), some (lit "Fee included:"), some str_fee, none⟩

/-- `layoutFeeOverThreshold(coin, fee)`, with `str_fee` the text `bn_format_uint64` writes. -/
def layoutFeeOverThreshold (ui_language : Bool) (str_fee : List UInt8) : Dialog :=
  if ui_language then
    ⟨.question, some (lit "取消"), some (lit "确认"), none, some (lit "手续费过高:"), none,
      some (lit "确认发送"), none, none, none⟩
  else
    ⟨.question, some (lit "Cancel"), some (lit "Confirm"), none, some (lit "Fee"), some str_fee,
      some (lit "is unexpectedly high."), none, some (lit "Send anyway?"), none⟩

/-! ## NEM -/

/-- `layoutNEMTransferXEM(desc, quantity, multiplier, fee)`, with the two texts
`nem_mosaicFormatAmount` writes. -/
def layoutNEMTransferXEM (desc : Option (List UInt8)) (str_out str_fee : List UInt8) : Dialog :=
  ⟨.question, some (lit "Cancel"), some (lit "Next"), desc, some (lit "Confirm transfer of"),
    some str_out, some (lit "and network fee of"), some str_fee, none, none⟩

/-- `layoutNEMNetworkFee(desc, confirm, fee1_desc, fee1, fee2_desc, fee2)`; the second fee is
formatted only when it has a description. -/
def layoutNEMNetworkFee (desc : Option (List UInt8)) (confirm : Bool)
    (fee1_desc : Option (List UInt8)) (str_fee1 : List UInt8) (fee2_desc : Option (List UInt8))
    (str_fee2 : List UInt8) : Dialog :=
  ⟨.question, some (lit "Cancel"), some (if confirm then lit "Confirm" else lit "Next"), desc,
    fee1_desc, some str_fee1, fee2_desc, if fee2_desc.isSome then some str_fee2 else none, none,
    none⟩

/-- What the NEM dialogs read of a `NEMMosaicDefinition`. -/
structure NEMMosaicDefinition where
  /-- `definition->name` when `has_name`. -/
  name : Option (List UInt8)
  has_levy : Bool
  /-- `definition->levy == NEMMosaicLevy_MosaicLevy_Percentile`. -/
  percentile : Bool

/-- `layoutNEMTransferMosaic(definition, quantity, multiplier, network)`, with the amount and levy
texts `nem_mosaicFormatAmount` and `nem_mosaicFormatLevy` write. -/
def layoutNEMTransferMosaic (definition : NEMMosaicDefinition) (str_out str_levy : List UInt8) :
    Dialog :=
  ⟨.question, some (lit "Cancel"), some (lit "Next"), some (definition.name.getD (lit "Mosaic")),
    some (lit "Confirm transfer of"), some str_out,
    if definition.has_levy then some (lit "and levy of") else none,
    if definition.has_levy then some str_levy else none, none, none⟩

/-- `strchr(str_out, '.')` and `*decimal = '\0'`: the amount up to its first `'.'`. -/
def cutAtDecimal (str_out : List UInt8) : List UInt8 :=
  (cstr str_out).takeWhile (· != '.'.toUInt8)

/-- `layoutNEMTransferUnknownMosaic(namespace, mosaic, quantity, multiplier)`, with the name
`nem_mosaicFormatName` writes and the amount `nem_mosaicFormatAmount` writes. -/
def layoutNEMTransferUnknownMosaic (mosaic_name str_out : List UInt8) : Dialog :=
  ⟨.question, some (lit "Cancel"), some (lit "I take the risk"), some (lit "Unknown Mosaic"),
    some (lit "Confirm transfer of"), some (cutAtDecimal str_out), some (lit "raw units of"),
    some (cstr mosaic_name), none, none⟩

/-- `layoutNEMMosaicDescription(description)`. -/
def layoutNEMMosaicDescription (description : List UInt8) : Option Dialog :=
  (split_message description (strlen description) 16).map
    (rowsDialog .question (some (lit "Cancel")) (some (lit "Next"))
      (some (lit "Mosaic Description")))

/-- The mosaic `layoutNEMLevy` finds for the levy: the definition itself, a mosaic of the table
by its name, or none. -/
inductive LevyMosaic where
  | same
  | known (name : List UInt8)
  | unknown
deriving DecidableEq, Repr

/-- The lookup: `nem_mosaicMatches(...)` first, then `nem_mosaicByName(...)`. A mosaic of the
table is never the definition being confirmed. -/
def levyMosaic (nem_mosaicMatches : Bool) (nem_mosaicByName : Option (List UInt8)) : LevyMosaic :=
  if nem_mosaicMatches then .same
  else match nem_mosaicByName with
    | some name => .known name
    | none => .unknown

/-- `layoutNEMLevy(definition, network)`, with the name `nem_mosaicFormatName` writes for an
unknown mosaic and the levy text: `bn_format_uint64` of the raw fee for a percentile levy,
`nem_mosaicFormatAmount` otherwise. -/
def layoutNEMLevy (definition : NEMMosaicDefinition) (mosaic : LevyMosaic)
    (mosaic_name str_out : List UInt8) : Dialog :=
  if definition.percentile then
    ⟨.question, some (lit "Cancel"), some (lit "Next"), some (lit "Percentile Levy"),
      some (lit "Raw levy value is"), some str_out, some (lit "in"),
      some (match mosaic with
        | .same => lit "the same mosaic"
        | .known name => name
        | .unknown => cstr mosaic_name), none, none⟩
  else
    ⟨.question, some (lit "Cancel"), some (lit "Next"), some (lit "Absolute Levy"),
      some (lit "Levy is"), some str_out,
      (match mosaic with
        | .same => some (lit "in the same mosaic")
        | .known _ => none
        | .unknown => some (lit "in raw units of")),
      (match mosaic with
        | .unknown => some (cstr mosaic_name)
        | _ => none), none, none⟩

end BixinLayout
