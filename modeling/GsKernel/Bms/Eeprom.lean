import GsKernel.Bms.StorageProviders
import GsKernel.Lib.ByteSpans

/-!
# The battery EEPROM

The tags are cells at fixed offsets, and the history is an array of records. The two later layouts
have their own place for some tags and take the others from the default one; the second moves the
history, and the third has a longer one. One routine writes the records of all three.
-/

namespace GsKernel.Bms

open Lib.ByteSpans

/-- The tags that the EEPROM knows in some layout, and any other tag. -/
inductive GbmsTag where
  | minf | dinf | hist | snum | bgpn | gmsr | bcnt | cnhs | lotr | selc | celc | strd | acim
  | gcfe | ravg | rfcn | thas | aymd | mymd | fcru | fgst | brid | bpst | aawc | other
deriving DecidableEq

/-- `BATT_ONE_HIST_LEN`. -/
def battOneHistLen : Nat := 12

/-- `BATT_MAX_HIST_CNT` of google_eeprom.c. -/
def battMaxHistCnt : Nat := 75

/-- `BATT_MAX_HIST_CNT` of google_eeprom_02.c. -/
def battMaxHistCnt02 : Nat := 200

/-- `GBMS_STORAGE_INDEX_INVALID`. -/
def gbmsStorageIndexInvalid : Int := -1

/-- `gbee_storage_info`, with `none` for `-ENOENT`. -/
def gbeeStorageInfo : GbmsTag → Option Span
  | .minf => some ⟨0x00, 30⟩
  | .dinf => some ⟨0x3EE, 16⟩
  | .hist => some ⟨0x5E, battOneHistLen⟩
  | .snum => some ⟨0x03, 10⟩
  | .bgpn => some ⟨0x03, 10⟩
  | .gmsr => some ⟨0x42, 23⟩
  | .bcnt => some ⟨0x2E, 20⟩
  | .cnhs => some ⟨0x5A, 2⟩
  | .lotr => some ⟨0x59, 1⟩
  | .selc => some ⟨0x5C, 1⟩
  | .celc => some ⟨0x5D, 1⟩
  | .strd => some ⟨0x1E, 12⟩
  | .acim => some ⟨0x2C, 2⟩
  | .gcfe => some ⟨0x3E8, 2⟩
  | .ravg => some ⟨0x3EA, 2⟩
  | .rfcn => some ⟨0x3EC, 2⟩
  | .thas => some ⟨0x3FE, 2⟩
  | .aymd => some ⟨0x3E5, 3⟩
  | .mymd => some ⟨0x0F, 3⟩
  | .fcru => some ⟨0x3E2, 2⟩
  | .fgst => some ⟨0x3E4, 1⟩
  | .brid => none
  | .bpst => none
  | .aawc => none
  | .other => none

/-- `gbee_storage01_info`. -/
def gbeeStorage01Info : GbmsTag → Option Span
  | .bpst => some ⟨0x5E, 1⟩
  | .hist => some ⟨0x64, battOneHistLen⟩
  | tag => gbeeStorageInfo tag

/-- `gbee_storage02_info`. -/
def gbeeStorage02Info : GbmsTag → Option Span
  | .dinf => some ⟨0x1FEE, 16⟩
  | .hist => some ⟨0x5E, battOneHistLen⟩
  | .gcfe => some ⟨0x1FE8, 2⟩
  | .ravg => some ⟨0x1FEA, 2⟩
  | .rfcn => some ⟨0x1FEC, 2⟩
  | .thas => some ⟨0x1FFE, 2⟩
  | .aymd => some ⟨0x1FE5, 3⟩
  | .fgst => some ⟨0x1FE4, 1⟩
  | .fcru => some ⟨0x1FE2, 2⟩
  | .aawc => some ⟨0x1FDE, 4⟩
  | tag => gbeeStorageInfo tag

/-- The layouts: `gbee_storage_dsc`, `gbee_storage01_dsc` and `gbee_storage02_dsc`. -/
inductive Layout where
  | storage
  | storage01
  | storage02
deriving DecidableEq

/-- `GBEE_STORAGE_INFO`, with the layout as the registered descriptor. -/
def Layout.info : Layout → GbmsTag → Option Span
  | .storage => gbeeStorageInfo
  | .storage01 => gbeeStorage01Info
  | .storage02 => gbeeStorage02Info

/-- What a read returns and the bytes it leaves in the caller's buffer. -/
structure ReadResult where
  ret : Int
  bytes : List UInt8
deriving DecidableEq

/-- `BATT_EEPROM_TAG_BRID_OFFSET` with its length. -/
def bridSpan : Span := ⟨0x17, 1⟩

/-- `gbee_storage_read`. The battery id is one byte that is returned as a word. -/
def gbeeStorageRead (layout : Layout) (tag : GbmsTag) (size : Nat) (nvmem : Memory) : ReadResult :=
  if tag = .brid then
    if size ≠ 4 then ⟨-ENOMEM, []⟩ else ⟨0, readBytes nvmem bridSpan ++ [0, 0, 0]⟩
  else
    match layout.info tag with
    | none => ⟨-ENOENT, []⟩
    | some span =>
      if span.length = 0 then ⟨-ENOENT, []⟩
      else if size < span.length then ⟨-ENOMEM, []⟩
      else ⟨span.length, readBytes nvmem span⟩

/-- `gbee_storage_is_writable`. -/
def gbeeStorageIsWritable : GbmsTag → Bool
  | .dinf | .gmsr | .bcnt | .cnhs | .selc | .celc | .bpst | .strd | .acim | .gcfe | .ravg | .rfcn
  | .thas | .aymd | .fgst | .fcru | .aawc => true
  | _ => false

/-- What a write returns, the memory it leaves, and how many bytes of the caller's buffer it
has read. -/
structure WriteResult where
  ret : Int
  nvmem : Memory
  taken : Nat

/-- The first bytes of a buffer. -/
def bytesOf (buffer : Nat → UInt8) (count : Nat) : List UInt8 := (List.range count).map buffer

/-- `gbee_storage_write`. -/
def gbeeStorageWrite (layout : Layout) (tag : GbmsTag) (buffer : Nat → UInt8) (size : Nat)
    (nvmem : Memory) : WriteResult :=
  if !gbeeStorageIsWritable tag then ⟨-ENOENT, nvmem, 0⟩
  else
    match layout.info tag with
    | none => ⟨-ENOENT, nvmem, 0⟩
    | some span =>
      if span.length < size then ⟨-ENOMEM, nvmem, 0⟩
      else ⟨size, writeBytes nvmem span.offset (bytesOf buffer size), size⟩

/-- `gbee_storage_read_data` and `gbee_storage_read_data_02`, for the place of the history and
the number of its records. -/
def readDataOf (info : GbmsTag → Option Span) (maxHistCnt : Nat) (tag : GbmsTag) (hasData : Bool)
    (count : Nat) (index : Int) (nvmem : Memory) : ReadResult :=
  match if tag = .hist then info tag else none with
  | none => ⟨-ENOENT, []⟩
  | some span =>
    if !hasData ∨ count = 0 then
      if index = gbmsStorageIndexInvalid then ⟨0, []⟩ else ⟨maxHistCnt, []⟩
    else if index < 0 then ⟨-EINVAL, []⟩
    else if maxHistCnt ≤ index then ⟨-ENODATA, []⟩
    else if count < span.length then ⟨-EINVAL, []⟩
    else ⟨span.length, readBytes nvmem ⟨span.offset + span.length * index.toNat, span.length⟩⟩

/-- `gbee_storage_read_data`. -/
def gbeeStorageReadData (layout : Layout) : GbmsTag → Bool → Nat → Int → Memory → ReadResult :=
  readDataOf layout.info battMaxHistCnt

/-- `gbee_storage_read_data_02`. -/
def gbeeStorageReadData02 : GbmsTag → Bool → Nat → Int → Memory → ReadResult :=
  readDataOf gbeeStorage02Info battMaxHistCnt02

/-- The `read_data` of a layout. -/
def Layout.readData : Layout → GbmsTag → Bool → Nat → Int → Memory → ReadResult
  | .storage => gbeeStorageReadData .storage
  | .storage01 => gbeeStorageReadData .storage01
  | .storage02 => gbeeStorageReadData02

/-- `gbee_storage_write_data`, the `write_data` of every layout. It writes the whole record,
whatever the count. -/
def gbeeStorageWriteData (layout : Layout) (tag : GbmsTag) (data : Option (Nat → UInt8))
    (count : Nat) (index : Int) (nvmem : Memory) : WriteResult :=
  match if tag = .hist then layout.info tag else none with
  | none => ⟨-ENOENT, nvmem, 0⟩
  | some span =>
    match data with
    | none => ⟨-EINVAL, nvmem, 0⟩
    | some record =>
      if index < 0 ∨ count = 0 then ⟨-EINVAL, nvmem, 0⟩
      else if battMaxHistCnt ≤ index then ⟨-ENODATA, nvmem, 0⟩
      else if span.length < count then ⟨-EINVAL, nvmem, 0⟩
      else
        ⟨span.length, writeBytes nvmem (span.offset + span.length * index.toNat)
          (bytesOf record span.length), span.length⟩

end GsKernel.Bms
