import GsKernel.Lib.Runs
import GsKernel.Lib.Errno

/-!
# Image configurations

`gcip_image_config_parse` replaces the IOMMU mappings of the last image configuration by those of
a new one, and restores them when one of these fails. The IOMMU is the set of its live mappings,
each a device address with a size.
-/

namespace GsKernel.Gcip

/-- `GCIP_IMG_CFG_MAP_FLAGS_MASK` -/
def mapFlagsMask : UInt32 := 4096 - 1

/-- `GCIP_IMAGE_CONFIG_MAP_SHARED` -/
def mapShared (flags : UInt32) : Bool := flags &&& 2 ≠ 0

/-- `GCIP_IMAGE_CONFIG_MAP_36BIT` -/
def map36Bit (flags : UInt32) : Bool := flags &&& 8 ≠ 0

/-- `GCIP_FW_PRIV_LEVEL_NS` -/
def privLevelNs : UInt32 := 2

/-- `GCIP_IMG_CFG_SIZE_MODE_BIT` -/
def sizeModeBit : UInt32 := 2048

/-- `GCIP_IMG_CFG_SECURE_SIZE_MASK` and `GCIP_IMG_CFG_NS_SIZE_MASK` -/
def sizeMask : UInt32 := sizeModeBit - 1

/-- `GCIP_IMG_CFG_ADDR_MASK`, on 32 bits -/
def addrMask : UInt32 := ~~~(4096 - 1)

/-- `gcip_ns_config_to_size` -/
def nsConfigToSize (cfg : UInt32) : UInt32 :=
  if cfg &&& sizeModeBit ≠ 0 then (cfg &&& sizeMask) <<< 12 else (cfg &&& sizeMask) <<< 20

/-- `gcip_config_to_size`. Shifts of a 64 bit word are modulo 64, as the processor has
them. -/
def configToSize (cfg : UInt32) : UInt32 :=
  if cfg &&& sizeModeBit ≠ 0 then (cfg &&& sizeMask) <<< 12
  else (((1 : UInt64) <<< (cfg &&& sizeMask).toUInt64) <<< 12).toUInt32

/-- An entry of `iommu_mappings`. -/
structure IommuMapping where
  virtAddress : UInt32
  imageConfigValue : UInt32
deriving DecidableEq

/-- `struct gcip_image_config`. `others` are the fields that only the comparison with the
last configuration reads. -/
structure ImageConfig where
  privilegeLevel : UInt32
  numIommuMappings : Nat
  iommuMappings : Vector IommuMapping 18
  numNsIommuMappings : Nat
  nsIommuMappings : Vector UInt32 5
  others : List UInt32
  numIommuMappings_le : numIommuMappings ≤ 18
  numNsIommuMappings_le : numNsIommuMappings ≤ 5
deriving DecidableEq

/-- A device address and a size. -/
abbrev Mapping := UInt64 × UInt64

/-- The results of the calls of `map`, for each entry. -/
structure MapResults where
  secure : Nat → Int
  ns : Nat → Int

def virtAddressToDma (virtAddress : UInt32) : UInt64 :=
  let daddr := (virtAddress &&& ~~~mapFlagsMask).toUInt64
  if map36Bit (virtAddress &&& mapFlagsMask) then daddr <<< 4 else daddr

namespace ImageConfig

variable (config : ImageConfig)

def isSecure : Bool := config.privilegeLevel ≠ privLevelNs

/-- The entries that the loops over `iommu_mappings` visit. -/
def entries : List IommuMapping := config.iommuMappings.toList.take config.numIommuMappings

def nsEntries : List UInt32 := config.nsIommuMappings.toList.take config.numNsIommuMappings

def skipSecureMapping (mapFlags : UInt32) : Bool := config.isSecure && !mapShared mapFlags

def skips (entry : IommuMapping) : Bool :=
  config.skipSecureMapping (entry.virtAddress &&& mapFlagsMask)

end ImageConfig

namespace IommuMapping

variable (entry : IommuMapping)

def size : UInt64 := (configToSize entry.imageConfigValue).toUInt64

def paddr : UInt64 := (entry.imageConfigValue &&& addrMask).toUInt64

/-- The mapping of an entry, as `setup_iommu_mappings` and `clear_iommu_mappings` compute
it. -/
def mapping : Mapping := (virtAddressToDma entry.virtAddress, entry.size)

/-- The mapping that the error path of `setup_iommu_mappings` removes for an entry. -/
def rollbackMapping : Mapping := ((entry.virtAddress &&& ~~~mapFlagsMask).toUInt64, entry.size)

end IommuMapping

/-- The mapping of an entry of `ns_iommu_mappings`. -/
def nsMapping (entry : UInt32) : Mapping :=
  ((entry &&& addrMask).toUInt64, (nsConfigToSize entry).toUInt64)

/-- `daddr + size` or `paddr + size` overflows, or the size is 0. -/
def overflows (mapping : Mapping) (paddr : UInt64) : Bool :=
  decide (mapping.1 + mapping.2 ≤ mapping.1 ∨ paddr + mapping.2 ≤ paddr)

section Loops

variable (config : ImageConfig)

/-- The error path of `setup_iommu_mappings`, over the entries before the one that failed,
the last one first. -/
def rollbackIommuMappings (done : List IommuMapping) (live : Finset Mapping) : Finset Mapping :=
  done.foldl (fun live entry => if config.skips entry then live else live.erase entry.rollbackMapping)
    live

/-- The loop of `setup_iommu_mappings`, with the entries that it has done, the last one
first, and those to come. -/
def setupIommuLoop (results : MapResults) :
    List IommuMapping → List IommuMapping → Finset Mapping → Int × Finset Mapping
  | _, [], live => (0, live)
  | done, entry :: entries, live =>
    if config.skips entry then setupIommuLoop results (entry :: done) entries live
    else if entry.mapping.1 = 0 then (- EIO, rollbackIommuMappings config done live)
    else if overflows entry.mapping entry.paddr then
      (-EOVERFLOW, rollbackIommuMappings config done live)
    else if results.secure done.length ≠ 0 then
      (results.secure done.length, rollbackIommuMappings config done live)
    else setupIommuLoop results (entry :: done) entries (insert entry.mapping live)

def setupIommuMappings (results : MapResults) (live : Finset Mapping) : Int × Finset Mapping :=
  setupIommuLoop config results [] config.entries live

def clearIommuMappings (live : Finset Mapping) : Finset Mapping :=
  config.entries.reverse.foldl
    (fun live entry => if config.skips entry then live else live.erase entry.mapping) live

/-- The removal of the mappings of entries of `ns_iommu_mappings`. -/
def removeNsMappings (done : List UInt32) (live : Finset Mapping) : Finset Mapping :=
  done.foldl (fun live entry => live.erase (nsMapping entry)) live

/-- The loop of `setup_ns_iommu_mappings`. The physical address is the sum of the sizes
before. -/
def setupNsIommuLoop (results : MapResults) :
    List UInt32 → UInt64 → List UInt32 → Finset Mapping → Int × Finset Mapping
  | _, _, [], live => (0, live)
  | done, paddr, entry :: entries, live =>
    if (nsMapping entry).1 = 0 then (- EIO, removeNsMappings done live)
    else if overflows (nsMapping entry) paddr then (-EOVERFLOW, removeNsMappings done live)
    else if results.ns done.length ≠ 0 then (results.ns done.length, removeNsMappings done live)
    else setupNsIommuLoop results (entry :: done) (paddr + (nsMapping entry).2) entries
      (insert (nsMapping entry) live)

def setupNsIommuMappings (results : MapResults) (live : Finset Mapping) : Int × Finset Mapping :=
  setupNsIommuLoop results [] 0 config.nsEntries live

def clearNsIommuMappings (live : Finset Mapping) : Finset Mapping :=
  removeNsMappings config.nsEntries.reverse live

def mapImageConfig (results : MapResults) (live : Finset Mapping) : Int × Finset Mapping :=
  let ns := setupNsIommuMappings config results live
  if ns.1 ≠ 0 then ns
  else
    let secure := setupIommuMappings config results ns.2
    if secure.1 ≠ 0 then (secure.1, clearNsIommuMappings config secure.2) else secure

def unmapImageConfig (live : Finset Mapping) : Finset Mapping :=
  clearNsIommuMappings config (clearIommuMappings config live)

end Loops

/-- A configuration of zeros. -/
def ImageConfig.zero (numOthers : Nat) : ImageConfig where
  privilegeLevel := 0
  numIommuMappings := 0
  iommuMappings := Vector.replicate 18 ⟨0, 0⟩
  numNsIommuMappings := 0
  nsIommuMappings := Vector.replicate 5 0
  others := List.replicate numOthers 0
  numIommuMappings_le := Nat.zero_le 18
  numNsIommuMappings_le := Nat.zero_le 5

/-- The parser and the live mappings of the IOMMU. `others` is the number of the other
fields of a configuration. -/
structure ConfigParser where
  others : Nat
  lastConfig : ImageConfig
  lastConfigValid : Bool
  live : Finset Mapping

namespace ConfigParser

/-- `gcip_image_config_parser_init`, for an IOMMU without mappings. -/
def init (others : Nat) : ConfigParser := ⟨others, .zero others, false, ∅⟩

variable (parser : ConfigParser)

/-- `gcip_image_config_parse`, with the results of `map` for the new configuration.
Mapping the last one again succeeds unless its own checks fail. -/
def imageConfigParse (config : ImageConfig) (results : MapResults) : Int × ConfigParser :=
  if config = parser.lastConfig then (0, parser)
  else
    let unmapped := unmapImageConfig parser.lastConfig parser.live
    let mapped := mapImageConfig config results unmapped
    if mapped.1 ≠ 0 then
      (mapped.1, { parser with
        live := (mapImageConfig parser.lastConfig ⟨fun _ => 0, fun _ => 0⟩ mapped.2).2 })
    else (0, { parser with lastConfig := config, lastConfigValid := true, live := mapped.2 })

/-- `gcip_image_config_clear` -/
def imageConfigClear : ConfigParser :=
  { parser with
    lastConfig := .zero parser.others
    lastConfigValid := false
    live := unmapImageConfig parser.lastConfig parser.live }

end ConfigParser

end GsKernel.Gcip
