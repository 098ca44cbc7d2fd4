import GsKernel.Lib.PackedWord

/-!
# Compile-time layout of the S2MPU permission tables

The constants of `kvm_s2mpu.h`. A build fixes the hardware version (`S2MPU_V1` covers V1 and V2)
and the kernel page size. In a word of an SMPT (`Config.slots`) an entry has `MPT_PROT_BITS` bits
and its access field starts at bit `MPT_ACCESS_SHIFT`.
-/

namespace GsKernel.S2mpu

open Lib.PackedWord

/-- `S2MPU_V1` and `S2MPU_V9`; V1 represents the V1 and V2 variants. -/
inductive Version where
  | v1
  | v9
deriving DecidableEq

/-- The page sizes of an arm64 kernel. -/
inductive PageSize where
  | sz4K
  | sz16K
  | sz64K
deriving DecidableEq

/-- What a build of the driver fixes. -/
structure Config where
  version : Version
  pageSize : PageSize
deriving DecidableEq

def SZ_4K : Nat := 0x1000
def SZ_64K : Nat := 0x10000
def SZ_1G : Nat := 0x40000000

def NR_GIGABYTES : Nat := 64
def RO_GIGABYTES_FIRST : Nat := 4
def RO_GIGABYTES_LAST : Nat := 33
def NR_VIDS : Nat := 8

/-- `PA_MAX`, the end of the physical range the S2MPU covers. -/
def PA_MAX : Nat := SZ_1G * NR_GIGABYTES

/-- `enum mpt_prot`. -/
inductive MptProt where
  | none
  | r
  | w
  | rw
deriving DecidableEq

namespace MptProt

/-- The two access bits of an `enum mpt_prot`. -/
def bits : MptProt → BitVec 2
  | none => 0
  | r => 1
  | w => 2
  | rw => 3

/-- An `enum mpt_prot` as the 32-bit value the driver shifts into a word. -/
def val (prot : MptProt) : BitVec 32 := prot.bits.setWidth 32

/-- `MPT_PROT_MASK`. -/
def mask : BitVec 32 := rw.val

lemma mask_eq : mask = (BitVec.allOnes 2).setWidth 32 := by decide

end MptProt

namespace Config

variable (cfg : Config)

/-- `SMPT_GRAN`. -/
def smptGran : Nat :=
  match cfg.pageSize with
  | .sz64K => SZ_64K
  | _ => SZ_4K

/-- `SMPT_GRAN_ATTR`. -/
def smptGranAttr : Nat :=
  match cfg.pageSize with
  | .sz64K => 1
  | _ => 0

/-- `PAGE_SHIFT`. -/
def pageShift : Nat :=
  match cfg.pageSize with
  | .sz4K => 12
  | .sz16K => 14
  | .sz64K => 16

/-- `MPT_PROT_BITS`. -/
def mptProtBits : Nat :=
  match cfg.version with
  | .v1 => 2
  | .v9 => 4

/-- `MPT_ACCESS_SHIFT`. -/
def mptAccessShift : Nat :=
  match cfg.version with
  | .v1 => 0
  | .v9 => 2

/-- `SMPT_ELEMS_PER_BYTE(MPT_PROT_BITS)`. -/
def smptElemsPerByte : Nat := 8 / cfg.mptProtBits

/-- `SMPT_ELEMS_PER_WORD(MPT_PROT_BITS)`; an SMPT word is a `u32`. -/
def smptElemsPerWord : Nat := 4 * cfg.smptElemsPerByte

/-- `SMPT_WORD_BYTE_RANGE(MPT_PROT_BITS)`, the bytes one SMPT word describes. -/
def smptWordByteRange : Nat := cfg.smptGran * cfg.smptElemsPerWord

/-- `SMPT_NUM_ELEMS`, the pages of one gigabyte. -/
def smptNumElems : Nat := SZ_1G / cfg.smptGran

/-- `SMPT_SIZE(MPT_PROT_BITS)` in bytes. -/
def smptSize : Nat := cfg.smptNumElems / cfg.smptElemsPerByte

/-- `SMPT_NUM_WORDS(MPT_PROT_BITS)`. -/
def smptNumWords : Nat := cfg.smptSize / 4

/-- The `u64` every doubleword of a uniform SMPT holds, `mpt_prot_doubleword`.
The V9 entry also carries the granule, which `GRAN_DWORD` replicates. -/
def mptProtDoubleword (prot : MptProt) : BitVec 64 :=
  match cfg.version with
  | .v1 =>
    match prot with
    | .none => 0x0000000000000000
    | .r => 0x5555555555555555
    | .w => 0xaaaaaaaaaaaaaaaa
    | .rw => 0xffffffffffffffff
  | .v9 =>
    let gran := BitVec.ofNat 64 cfg.smptGranAttr
    let granByte := (gran <<< cfg.mptProtBits) ||| gran
    let granHword := (granByte <<< 8) ||| granByte
    let granWord := (granHword <<< 16) ||| granHword
    let granDword := (granWord <<< 32) ||| granWord
    match prot with
    | .none => 0x0000000000000000 ||| granDword
    | .r => 0x4444444444444444 ||| granDword
    | .w => 0x8888888888888888 ||| granDword
    | .rw => 0xcccccccccccccccc ||| granDword

/-- The access fields of an SMPT word. -/
def slots : Layout 2 where
  stride := cfg.mptProtBits
  shift := cfg.mptAccessShift
  fits := by cases version : cfg.version <;> simp [mptProtBits, mptAccessShift, version]

/-- Every access field of a word lies inside its 32 bits. -/
lemma slots_inside {elem : Nat} (inside : elem < cfg.smptElemsPerWord) :
    cfg.slots.pos elem + 2 ≤ 32 := by
  simp only [Layout.pos, slots]
  revert inside
  cases version : cfg.version <;>
    simp [smptElemsPerWord, smptElemsPerByte, mptProtBits, mptAccessShift, version] <;> omega

/-- The page arithmetic of the four table layouts, in numbers. Everything the
proofs need about granules and words follows from this case distinction. -/
lemma layout_cases : (cfg.smptGran = 4096 ∨ cfg.smptGran = 65536) ∧
    (cfg.smptElemsPerWord = 16 ∨ cfg.smptElemsPerWord = 8) ∧
    cfg.smptWordByteRange = cfg.smptGran * cfg.smptElemsPerWord ∧
    cfg.smptNumElems * cfg.smptGran = SZ_1G ∧
    cfg.smptNumWords * cfg.smptElemsPerWord = cfg.smptNumElems ∧
    cfg.smptSize = 4 * cfg.smptNumWords ∧
    2 * (cfg.smptNumWords / 2) = cfg.smptNumWords := by
  obtain ⟨version, pageSize⟩ := cfg
  cases version <;> cases pageSize <;> decide

end Config
end GsKernel.S2mpu
