import GsKernel.S2mpu.Layout

/-!
# Second-level tables

The SMPT editing functions of `io-mpt-s2mpu.c` over word-addressed memory. An SMPT is named by the
address of its first word. `access_setSmptRange`: an update sets the pages of its range and no
other page, whatever the words held before.
-/

namespace GsKernel.S2mpu

open Function Lib.PackedWord BitVec Nat Config

/-- Physical memory in units of `u32`. -/
abbrev Mem := Nat → BitVec 32

/-- `ALIGN_DOWN`. -/
def alignDown (value size : Nat) : Nat := value / size * size

/-- `ALIGN`. -/
def align (value size : Nat) : Nat := (value + (size - 1)) / size * size

variable (cfg : Config)

/-- `BYTE_TO_SMPT_INDEX`. -/
def byteToSmptIndex (byte : Nat) : Nat := byte / cfg.smptWordByteRange

/-- `SMPT_NUM_TO_BYTE`, the table bytes describing `range` bytes of memory. -/
def smptNumToByte (range : Nat) : Nat := range / cfg.smptGran / cfg.smptElemsPerByte

/-- `pte_from_addr_smpt`. -/
def pteFromAddrSmpt (mem : Mem) (smpt addr : Nat) : BitVec 32 :=
  let wordIdx := byteToSmptIndex cfg addr
  let val := mem (smpt + wordIdx)
  let idx := (addr / cfg.smptGran) % cfg.smptElemsPerWord
  (val >>> (idx * cfg.mptProtBits)) &&& ((1#32 <<< cfg.mptProtBits) - 1)

/-- `prot_from_addr_smpt`. -/
def protFromAddrSmpt (mem : Mem) (smpt addr : Nat) : BitVec 32 :=
  pteFromAddrSmpt cfg mem smpt addr >>> cfg.mptAccessShift

/-- One turn of the inner loop of `__set_smpt_range_slow`. -/
def setElem (prot : MptProt) (val : BitVec 32) (i : Nat) : BitVec 32 :=
  (val &&& ~~~(MptProt.mask <<< (i * cfg.mptProtBits + cfg.mptAccessShift))) |||
    (prot.val <<< (i * cfg.mptProtBits + cfg.mptAccessShift))

/-- End of the bytes `__set_smpt_range_slow` covers with the word it is at. -/
def endWordByte (startWordByte endGbByte : Nat) : Nat :=
  min (align (startWordByte + 1) cfg.smptWordByteRange) endGbByte

lemma endWordByte_gt {startWordByte endGbByte : Nat} (less : startWordByte < endGbByte) :
    startWordByte < endWordByte cfg startWordByte endGbByte := by
  have positive : 0 < cfg.smptWordByteRange := by
    obtain ⟨gran | gran, elems | elems, range, -⟩ := cfg.layout_cases <;> simp [range, gran, elems]
  have division := div_add_mod (startWordByte + 1 + (cfg.smptWordByteRange - 1))
    cfg.smptWordByteRange
  have remainder := mod_lt (startWordByte + 1 + (cfg.smptWordByteRange - 1)) positive
  rw [mul_comm] at division
  simp only [endWordByte, align]
  omega

/-- `__set_smpt_range_slow`: edit the access bits word by word. -/
def setSmptRangeSlow (smpt : Nat) (prot : MptProt) (startWordByte endGbByte : Nat)
    (mem : Mem) : Mem :=
  if startWordByte < endGbByte then
    let wordIdx := byteToSmptIndex cfg startWordByte
    let endWord := endWordByte cfg startWordByte endGbByte
    let firstElem := (startWordByte / cfg.smptGran) % cfg.smptElemsPerWord
    let lastElem := ((endWord - 1) / cfg.smptGran) % cfg.smptElemsPerWord
    let val := (List.range' firstElem (lastElem + 1 - firstElem)).foldl (setElem cfg prot)
      (mem (smpt + wordIdx))
    setSmptRangeSlow smpt prot endWord endGbByte (update mem (smpt + wordIdx) val)
  else mem
termination_by endGbByte - startWordByte
decreasing_by
  have progress := endWordByte_gt cfg (by assumption : startWordByte < endGbByte)
  omega

/-- The `u32` that `memset` leaves in a word it covers completely. -/
def memsetWord (byte : BitVec 8) : BitVec 32 := byte ++ byte ++ byte ++ byte

/-- `memset` of `bytes` bytes from a word address; the driver only passes whole
words (`interlude_whole_words`). -/
def memset (mem : Mem) (dst : Nat) (byte : BitVec 8) (bytes : Nat) : Mem := fun addr =>
  if dst ≤ addr ∧ addr < dst + bytes / 4 then memsetWord byte else mem addr

/-- `__set_smpt_range`: bit edits for the partial words at both ends, `memset`
for the words in between. -/
def setSmptRange (smpt : Nat) (prot : MptProt) (startGbByte endGbByte : Nat) (mem : Mem) : Mem :=
  let protByte := (cfg.mptProtDoubleword prot).setWidth 8
  if startGbByte ≥ endGbByte then mem
  else
    let interludeStart := align startGbByte cfg.smptWordByteRange
    let interludeEnd := alignDown endGbByte cfg.smptWordByteRange
    if interludeStart ≥ interludeEnd then
      setSmptRangeSlow cfg smpt prot startGbByte endGbByte mem
    else
      let wordIdx := byteToSmptIndex cfg interludeStart
      let interludeBytes := smptNumToByte cfg (interludeEnd - interludeStart)
      let mem := setSmptRangeSlow cfg smpt prot startGbByte interludeStart mem
      let mem := memset mem (smpt + wordIdx) protByte interludeBytes
      setSmptRangeSlow cfg smpt prot interludeEnd endGbByte mem

/-- The `u64` at doubleword `index` of an SMPT, as the little-endian CPU reads it. -/
def doubleword (mem : Mem) (smpt index : Nat) : BitVec 64 :=
  mem (smpt + (2 * index + 1)) ++ mem (smpt + 2 * index)

/-- `__is_smpt_uniform`. -/
def isSmptUniform (smpt : Nat) (prot : MptProt) (mem : Mem) : Bool :=
  (List.range (cfg.smptNumWords / 2)).all fun index =>
    doubleword mem smpt index == cfg.mptProtDoubleword prot

/-- The access bits an SMPT holds for a page of its gigabyte. -/
def access (mem : Mem) (smpt page : Nat) : BitVec 2 :=
  cfg.slots.get (mem (smpt + page / cfg.smptElemsPerWord)) (page % cfg.smptElemsPerWord)

/-- The entry mask of `pte_from_addr_smpt`, bit by bit. -/
lemma getLsbD_pteMask {bits bit : Nat} (inside : bit < 32) (small : bits = 2 ∨ bits = 4) :
    ((1#32 <<< bits) - 1).getLsbD bit = decide (bit < bits) := by
  rcases small with rfl | rfl
  · rw [show (1#32 <<< 2) - 1 = (allOnes 2).setWidth 32 by decide,
      getLsbD_setWidth, getLsbD_allOnes]
    simp [inside]
  · rw [show (1#32 <<< 4) - 1 = (allOnes 4).setWidth 32 by decide,
      getLsbD_setWidth, getLsbD_allOnes]
    simp [inside]

/-- What the two shifts and the mask of `prot_from_addr_smpt` read. -/
lemma protFromAddrSmpt_eq (mem : Mem) (smpt addr : Nat) : protFromAddrSmpt cfg mem smpt addr =
      (cfg.slots.get (mem (smpt + addr / cfg.smptWordByteRange))
        ((addr / cfg.smptGran) % cfg.smptElemsPerWord)).setWidth 32 := by
  have width : cfg.mptProtBits = cfg.mptAccessShift + 2 ∧
      (cfg.mptProtBits = 2 ∨ cfg.mptProtBits = 4) := by
    cases version : cfg.version <;> simp [mptProtBits, mptAccessShift, version]
  apply eq_of_getLsbD_eq
  intro bit inside
  simp only [protFromAddrSmpt, pteFromAddrSmpt, byteToSmptIndex, Layout.get, Layout.pos,
    slots, getLsbD_ushiftRight, getLsbD_and, getLsbD_setWidth,
    getLsbD_extractLsb', inside, decide_true, Bool.true_and]
  by_cases field : bit < 2
  · rw [getLsbD_pteMask (by omega) width.2]
    have covered : cfg.mptAccessShift + bit < cfg.mptProtBits := by omega
    simp [field, covered, add_assoc]
  by_cases high : cfg.mptAccessShift + bit < 32
  · rw [getLsbD_pteMask high width.2]
    have uncovered : ¬ cfg.mptAccessShift + bit < cfg.mptProtBits := by omega
    simp [field, uncovered]
  · rw [getLsbD_of_ge ((1#32 <<< cfg.mptProtBits) - 1) _ (by omega)]
    simp [field]

lemma setElem_eq_put (prot : MptProt) (val : BitVec 32) (i : Nat) :
    setElem cfg prot val i = cfg.slots.put val i prot.bits := by
  rw [setElem, MptProt.mask_eq]
  rfl

lemma smptGran_pos : 0 < cfg.smptGran := by
  obtain ⟨gran | gran, -⟩ := cfg.layout_cases <;> simp [gran]

lemma smptElemsPerWord_pos : 0 < cfg.smptElemsPerWord := by
  obtain ⟨-, elems | elems, -⟩ := cfg.layout_cases <;> simp [elems]

lemma byteToSmptIndex_page (page : Nat) :
    byteToSmptIndex cfg (page * cfg.smptGran) = page / cfg.smptElemsPerWord := by
  rw [byteToSmptIndex, smptWordByteRange, Nat.mul_comm page,
    Nat.mul_div_mul_left _ _ (smptGran_pos cfg)]

lemma endWordByte_page (first last : Nat) :
    endWordByte cfg (first * cfg.smptGran) (last * cfg.smptGran) =
      min ((first / cfg.smptElemsPerWord + 1) * cfg.smptElemsPerWord) last * cfg.smptGran := by
  have positive : 0 < cfg.smptWordByteRange :=
    Nat.mul_pos (smptGran_pos cfg) (smptElemsPerWord_pos cfg)
  have rounded : align (first * cfg.smptGran + 1) cfg.smptWordByteRange =
      (first / cfg.smptElemsPerWord + 1) * cfg.smptElemsPerWord * cfg.smptGran := by
    have shifted : first * cfg.smptGran + 1 + (cfg.smptWordByteRange - 1) =
        first * cfg.smptGran + cfg.smptWordByteRange := by omega
    rw [align, shifted, Nat.add_div_right _ positive]
    have index := byteToSmptIndex_page cfg first
    rw [byteToSmptIndex] at index
    rw [index, smptWordByteRange, Nat.mul_comm cfg.smptGran, Nat.mul_assoc]
  rw [endWordByte, rounded, Nat.mul_min_mul_right]

lemma lastByte_page {last : Nat} (positive : 0 < last) :
    (last * cfg.smptGran - 1) / cfg.smptGran = last - 1 := by
  have gran := smptGran_pos cfg
  obtain ⟨before, rfl⟩ : ∃ before, last = before + 1 := ⟨last - 1, by omega⟩
  have split : (before + 1) * cfg.smptGran - 1 = (cfg.smptGran - 1) + before * cfg.smptGran := by
    rw [Nat.succ_mul]
    omega
  rw [split, Nat.add_mul_div_right _ _ gran,
    Nat.div_eq_of_lt (Nat.sub_one_lt (Nat.ne_of_gt gran)), Nat.zero_add, Nat.add_sub_cancel]

lemma lastElem_count (first last : Nat) (less : first < last)
    (word : last ≤ (first / cfg.smptElemsPerWord + 1) * cfg.smptElemsPerWord) :
    (last * cfg.smptGran - 1) / cfg.smptGran % cfg.smptElemsPerWord + 1 -
      first % cfg.smptElemsPerWord = last - first := by
  rw [lastByte_page cfg (zero_lt_of_lt less)]
  obtain ⟨-, elems | elems, -⟩ := cfg.layout_cases <;> rw [elems] at word ⊢ <;> omega

/-- One turn of the outer loop, counted in pages. -/
lemma setSmptRangeSlow_pages (smpt : Nat) (prot : MptProt) (first last : Nat) (mem : Mem)
    (less : first < last) :
    let next := min ((first / cfg.smptElemsPerWord + 1) * cfg.smptElemsPerWord) last
    let addr := smpt + first / cfg.smptElemsPerWord
    setSmptRangeSlow cfg smpt prot (first * cfg.smptGran) (last * cfg.smptGran) mem =
      setSmptRangeSlow cfg smpt prot (next * cfg.smptGran) (last * cfg.smptGran) (update mem addr
          (cfg.slots.putRange (mem addr) (first % cfg.smptElemsPerWord) (next - first)
            prot.bits)) := by
  intro next addr
  have nonempty : first * cfg.smptGran < last * cfg.smptGran :=
    Nat.mul_lt_mul_of_pos_right less (smptGran_pos cfg)
  have wordEnd : first < (first / cfg.smptElemsPerWord + 1) * cfg.smptElemsPerWord := by
    obtain ⟨-, elems | elems, -⟩ := cfg.layout_cases <;> rw [elems] <;> omega
  have count := lastElem_count cfg first next (by omega) (Nat.min_le_left _ _)
  have edits : setElem cfg prot = fun acc slot => cfg.slots.put acc slot prot.bits := by
    funext acc slot
    exact setElem_eq_put cfg prot acc slot
  rw [setSmptRangeSlow, if_pos nonempty]
  simp only [byteToSmptIndex_page, endWordByte_page, Nat.mul_div_cancel _ (smptGran_pos cfg),
    count, edits, next]
  rfl

/-- The page whose entry in a table holds bit `bit` of word `word`. -/
def pageAt (word bit : Nat) : Nat := word * cfg.smptElemsPerWord + bit / cfg.mptProtBits

/-- Bit `bit` of the word at `addr` once the access bits of the pages from `first`
up to `last` are set to `prot` and nothing else is changed. -/
def bitAfter (smpt : Nat) (prot : MptProt) (first last : Nat) (mem : Mem) (addr bit : Nat) : Bool :=
  if smpt ≤ addr ∧ first ≤ pageAt cfg (addr - smpt) bit ∧ pageAt cfg (addr - smpt) bit < last ∧
      cfg.mptAccessShift ≤ bit % cfg.mptProtBits then
    prot.bits.getLsbD (bit % cfg.mptProtBits - cfg.mptAccessShift)
  else (mem addr).getLsbD bit

/-- The entry widths of the two versions. -/
lemma entry_cases :
    cfg.mptProtBits = 2 ∧ cfg.mptAccessShift = 0 ∧ cfg.smptElemsPerWord = 16 ∨
      cfg.mptProtBits = 4 ∧ cfg.mptAccessShift = 2 ∧ cfg.smptElemsPerWord = 8 := by
  cases version : cfg.version <;> simp [mptProtBits, mptAccessShift,
    smptElemsPerWord, smptElemsPerByte, version]

/-- The slow loop sets the access bits of its pages and keeps every other bit. -/
lemma getLsbD_setSmptRangeSlow (smpt : Nat) (prot : MptProt) (first last : Nat) (mem : Mem)
    (addr : Nat) {bit : Nat} (inside : bit < 32) :
    (setSmptRangeSlow cfg smpt prot (first * cfg.smptGran) (last * cfg.smptGran) mem
      addr).getLsbD bit = bitAfter cfg smpt prot first last mem addr bit := by
  induction size : last - first using Nat.strongRecOn generalizing first mem with
  | ind remaining ih =>
    by_cases less : first < last
    · rw [setSmptRangeSlow_pages cfg smpt prot first last mem less]
      generalize nextEq :
        min ((first / cfg.smptElemsPerWord + 1) * cfg.smptElemsPerWord) last = next
      have progress : last - next < remaining := by
        obtain ⟨-, elems | elems, -⟩ := cfg.layout_cases <;> rw [elems] at nextEq <;> omega
      rw [ih (last - next) progress next _ rfl]
      by_cases here : addr = smpt + first / cfg.smptElemsPerWord
      · subst here
        simp only [bitAfter, update_self, cfg.slots.getLsbD_putRange _ _ _ _ _ inside]
        obtain ⟨width, shift, elems⟩ | ⟨width, shift, elems⟩ := entry_cases cfg <;>
          simp only [pageAt, slots, width, shift, elems] at nextEq ⊢ <;>
          split_ifs <;> first | rfl | omega
      · simp only [bitAfter, update_of_ne here, pageAt]
        obtain ⟨width, shift, elems⟩ | ⟨width, shift, elems⟩ := entry_cases cfg <;>
          simp only [width, shift, elems] at here nextEq ⊢ <;> split_ifs <;> first | rfl | omega
    · have empty : ¬ first * cfg.smptGran < last * cfg.smptGran := by
        have ordered := Nat.mul_le_mul_right cfg.smptGran (Nat.le_of_not_lt less)
        omega
      have uncovered : ¬ (smpt ≤ addr ∧ first ≤ pageAt cfg (addr - smpt) bit ∧
          pageAt cfg (addr - smpt) bit < last ∧
          cfg.mptAccessShift ≤ bit % cfg.mptProtBits) := by omega
      rw [setSmptRangeSlow, if_neg empty, bitAfter, if_neg uncovered]

/-- A word filled with the low byte of `mpt_prot_doubleword` holds `prot` in every
access field, and the granule below it. -/
lemma getLsbD_memsetWord (prot : MptProt) : ∀ bit < 32,
    (memsetWord ((cfg.mptProtDoubleword prot).setWidth 8)).getLsbD bit =
      if cfg.mptAccessShift ≤ bit % cfg.mptProtBits then
        prot.bits.getLsbD (bit % cfg.mptProtBits - cfg.mptAccessShift)
      else cfg.smptGranAttr.testBit (bit % cfg.mptProtBits) := by
  obtain ⟨version, pageSize⟩ := cfg
  cases version <;> cases pageSize <;> cases prot <;> decide

lemma get_doubleword (prot : MptProt) : ∀ elem < cfg.smptElemsPerWord,
    cfg.slots.get ((cfg.mptProtDoubleword prot).extractLsb' 0 32) elem = prot.bits ∧
    cfg.slots.get ((cfg.mptProtDoubleword prot).extractLsb' 32 32) elem = prot.bits := by
  obtain ⟨version, pageSize⟩ := cfg
  cases version <;> cases pageSize <;> cases prot <;> decide

/-- First word that a range starting at page `first` covers from its first slot. -/
def interludeFirst (first : Nat) : Nat :=
  (first + (cfg.smptElemsPerWord - 1)) / cfg.smptElemsPerWord

lemma align_page (first : Nat) : align (first * cfg.smptGran) cfg.smptWordByteRange =
      interludeFirst cfg first * cfg.smptElemsPerWord * cfg.smptGran := by
  have elems := smptElemsPerWord_pos cfg
  have joined : first * cfg.smptGran + (cfg.smptGran * cfg.smptElemsPerWord - 1) =
      (first + cfg.smptElemsPerWord) * cfg.smptGran - 1 := by
    have positive := Nat.mul_pos (smptGran_pos cfg) elems
    rw [Nat.add_mul, Nat.mul_comm cfg.smptElemsPerWord]
    omega
  have last : first + cfg.smptElemsPerWord - 1 = first + (cfg.smptElemsPerWord - 1) := by omega
  rw [align, smptWordByteRange, joined, ← Nat.div_div_eq_div_mul,
    lastByte_page cfg (by omega), last, interludeFirst, Nat.mul_comm cfg.smptGran, Nat.mul_assoc]

lemma alignDown_page (last : Nat) : alignDown (last * cfg.smptGran) cfg.smptWordByteRange =
      last / cfg.smptElemsPerWord * cfg.smptElemsPerWord * cfg.smptGran := by
  have index := byteToSmptIndex_page cfg last
  rw [byteToSmptIndex] at index
  rw [alignDown, index, smptWordByteRange, mul_comm cfg.smptGran, mul_assoc]

/-- The bytes `memset` covers for `words` whole words of the table. -/
lemma interlude_whole_words (words : Nat) :
    smptNumToByte cfg (words * cfg.smptElemsPerWord * cfg.smptGran) = 4 * words := by
  have bytes : 0 < cfg.smptElemsPerByte := by
    cases version : cfg.version <;> simp [smptElemsPerByte, mptProtBits, version]
  rw [smptNumToByte, Nat.mul_div_cancel _ (smptGran_pos cfg), smptElemsPerWord,
    ← Nat.mul_assoc, Nat.mul_div_cancel _ bytes, Nat.mul_comm]

/-- `__set_smpt_range` counted in pages and words. -/
lemma setSmptRange_pages (smpt : Nat) (prot : MptProt) (first last : Nat) (mem : Mem)
    (less : first < last) :
    setSmptRange cfg smpt prot (first * cfg.smptGran) (last * cfg.smptGran) mem =
      if interludeFirst cfg first < last / cfg.smptElemsPerWord then
        setSmptRangeSlow cfg smpt prot
          (last / cfg.smptElemsPerWord * cfg.smptElemsPerWord * cfg.smptGran) (last * cfg.smptGran)
          (memset (setSmptRangeSlow cfg smpt prot (first * cfg.smptGran)
              (interludeFirst cfg first * cfg.smptElemsPerWord * cfg.smptGran) mem)
            (smpt + interludeFirst cfg first) ((cfg.mptProtDoubleword prot).setWidth 8)
            (4 * (last / cfg.smptElemsPerWord - interludeFirst cfg first)))
      else setSmptRangeSlow cfg smpt prot (first * cfg.smptGran) (last * cfg.smptGran) mem := by
  have nonempty : ¬ first * cfg.smptGran ≥ last * cfg.smptGran :=
    Nat.not_le_of_lt (Nat.mul_lt_mul_of_pos_right less (smptGran_pos cfg))
  have range : 0 < cfg.smptElemsPerWord * cfg.smptGran :=
    Nat.mul_pos (smptElemsPerWord_pos cfg) (smptGran_pos cfg)
  simp only [setSmptRange, if_neg nonempty, align_page, alignDown_page]
  by_cases interlude : interludeFirst cfg first < last / cfg.smptElemsPerWord
  · have some : ¬ interludeFirst cfg first * cfg.smptElemsPerWord * cfg.smptGran ≥
        last / cfg.smptElemsPerWord * cfg.smptElemsPerWord * cfg.smptGran := by
      rw [Nat.mul_assoc, Nat.mul_assoc]
      exact Nat.not_le_of_lt (Nat.mul_lt_mul_of_pos_right interlude range)
    rw [if_neg some, if_pos interlude, byteToSmptIndex_page,
      Nat.mul_div_cancel _ (smptElemsPerWord_pos cfg), ← Nat.sub_mul, ← Nat.sub_mul,
      interlude_whole_words]
  · have none : interludeFirst cfg first * cfg.smptElemsPerWord * cfg.smptGran ≥
        last / cfg.smptElemsPerWord * cfg.smptElemsPerWord * cfg.smptGran := by
      rw [Nat.mul_assoc, Nat.mul_assoc]
      exact Nat.mul_le_mul_right _ (Nat.le_of_not_lt interlude)
    rw [if_pos none, if_neg interlude]

/-- Bit by bit, `__set_smpt_range` differs from the slow loop only in the bits below
the access field of the words that `memset` fills: they get the granule. -/
lemma getLsbD_setSmptRange (smpt : Nat) (prot : MptProt) (first last : Nat) (mem : Mem)
    (addr : Nat) {bit : Nat} (inside : bit < 32) :
    (setSmptRange cfg smpt prot (first * cfg.smptGran) (last * cfg.smptGran) mem
      addr).getLsbD bit =
      if bit % cfg.mptProtBits < cfg.mptAccessShift ∧ smpt + interludeFirst cfg first ≤ addr ∧
          addr < smpt + last / cfg.smptElemsPerWord then
        cfg.smptGranAttr.testBit (bit % cfg.mptProtBits)
      else bitAfter cfg smpt prot first last mem addr bit := by
  by_cases less : first < last
  · rw [setSmptRange_pages cfg smpt prot first last mem less]
    by_cases interlude : interludeFirst cfg first < last / cfg.smptElemsPerWord
    · have filled := getLsbD_memsetWord cfg prot bit inside
      have quotient : ∀ words, 4 * words / 4 = words := by omega
      rw [if_pos interlude, getLsbD_setSmptRangeSlow cfg _ _ _ _ _ _ inside]
      simp only [bitAfter, memset, quotient, apply_ite (getLsbD · bit), filled,
        getLsbD_setSmptRangeSlow cfg _ _ _ _ _ _ inside, pageAt, interludeFirst] at interlude ⊢
      obtain ⟨width, shift, elems⟩ | ⟨width, shift, elems⟩ := entry_cases cfg <;>
        simp only [width, shift, elems] at interlude ⊢ <;> split_ifs <;> first | rfl | omega
    · rw [if_neg interlude, getLsbD_setSmptRangeSlow cfg _ _ _ _ _ _ inside,
        if_neg (by omega)]
  · have empty : first * cfg.smptGran ≥ last * cfg.smptGran :=
      Nat.mul_le_mul_right _ (Nat.le_of_not_lt less)
    have below := Nat.div_le_div_right (c := cfg.smptElemsPerWord) (Nat.le_of_not_lt less)
    have above : first / cfg.smptElemsPerWord ≤ interludeFirst cfg first :=
      Nat.div_le_div_right (Nat.le_add_right _ _)
    rw [setSmptRange, if_pos empty, if_neg (by omega), bitAfter, if_neg (by omega)]

/-- `__set_smpt_range` sets the pages of its range and no other page of the
table, whatever the words held before. -/
lemma access_setSmptRange (smpt : Nat) (prot : MptProt) (first last page : Nat) (mem : Mem) :
    access cfg (setSmptRange cfg smpt prot (first * cfg.smptGran) (last * cfg.smptGran) mem)
        smpt page =
      if first ≤ page ∧ page < last then prot.bits else access cfg mem smpt page := by
  have inside := cfg.slots_inside (Nat.mod_lt page (smptElemsPerWord_pos cfg))
  apply eq_of_getLsbD_eq
  intro bit narrow
  generalize elem : page % cfg.smptElemsPerWord = slot at inside
  have index : (cfg.slots.pos slot + bit) / cfg.mptProtBits = slot :=
    ((cfg.slots.mem_field_iff slot _).1 ⟨Nat.le_add_right _ bit, by omega⟩).1
  have offset : (cfg.slots.pos slot + bit) % cfg.mptProtBits = cfg.mptAccessShift + bit := by
    have division := Nat.div_add_mod' (cfg.slots.pos slot + bit) cfg.mptProtBits
    rw [index] at division
    simp only [Layout.pos, slots] at division ⊢
    omega
  have same : page / cfg.smptElemsPerWord * cfg.smptElemsPerWord + slot = page :=
    elem ▸ Nat.div_add_mod' page _
  rw [apply_ite (getLsbD · bit)]
  simp only [access, Layout.get, getLsbD_extractLsb', narrow, decide_true, Bool.true_and, elem,
    getLsbD_setSmptRange cfg _ _ _ _ _ _ (by omega : cfg.slots.pos slot + bit < 32), bitAfter,
    pageAt, Nat.add_sub_cancel_left, index, offset, same]
  simp

/-- `__set_smpt_range` writes no word outside the table. -/
lemma setSmptRange_frame (smpt : Nat) (prot : MptProt) (first last addr : Nat) (mem : Mem)
    (bounded : last ≤ cfg.smptNumElems) (outside : addr < smpt ∨ smpt + cfg.smptNumWords ≤ addr) :
    setSmptRange cfg smpt prot (first * cfg.smptGran) (last * cfg.smptGran) mem addr =
      mem addr := by
  obtain ⟨-, -, -, -, words, -⟩ := cfg.layout_cases
  apply eq_of_getLsbD_eq
  intro bit inside
  rw [getLsbD_setSmptRange cfg _ _ _ _ _ _ inside, bitAfter, pageAt]
  obtain ⟨width, -, elems⟩ | ⟨width, -, elems⟩ := entry_cases cfg <;>
    simp only [width, elems] at words ⊢ <;> rw [if_neg (by omega), if_neg (by omega)]

/-- The granule field of every entry of a table holds `SMPT_GRAN_ATTR`. -/
def GranulesSet (smpt : Nat) (mem : Mem) : Prop :=
  ∀ word < cfg.smptNumWords, ∀ elem < cfg.smptElemsPerWord,
    (mem (smpt + word)).extractLsb' (elem * cfg.mptProtBits) 2 = BitVec.ofNat 2 cfg.smptGranAttr

/-- Inside a table whose granules are set, `__set_smpt_range` and the slow loop over
the whole range leave the same memory. -/
lemma setSmptRange_eq_slow (smpt : Nat) (prot : MptProt) (first last : Nat) (mem : Mem)
    (bounded : last ≤ cfg.smptNumElems) (granules : cfg.version = .v9 → GranulesSet cfg smpt mem) :
    setSmptRange cfg smpt prot (first * cfg.smptGran) (last * cfg.smptGran) mem =
      setSmptRangeSlow cfg smpt prot (first * cfg.smptGran) (last * cfg.smptGran) mem := by
  funext addr
  apply eq_of_getLsbD_eq
  intro bit inside
  rw [getLsbD_setSmptRange cfg _ _ _ _ _ _ inside, getLsbD_setSmptRangeSlow cfg _ _ _ _ _ _ inside]
  split_ifs with filled
  · obtain ⟨-, -, -, -, words, -⟩ := cfg.layout_cases
    obtain ⟨low, lower, upper⟩ := filled
    obtain ⟨width, shift, elems⟩ | ⟨width, shift, elems⟩ := entry_cases cfg
    · omega
    rw [elems] at words upper
    have new : cfg.version = .v9 := by
      cases version : cfg.version
      · simp [mptAccessShift, version] at shift
      · rfl
    have held := congrArg (getLsbD · (bit % 4))
      (granules new (addr - smpt) (by omega) (bit / 4) (by omega))
    have position : bit / 4 * 4 + bit % 4 = bit := div_add_mod' bit 4
    have word : smpt + (addr - smpt) = addr := by omega
    simp only [getLsbD_extractLsb', width, position, word, getLsbD_ofNat] at held
    rw [width, shift] at low
    simp only [low, decide_true, Bool.true_and] at held
    rw [bitAfter, width, shift, if_neg (by omega), held]
  · rfl

/-- `__set_smpt_range` is a faster `__set_smpt_range_slow`. For a range of granules
inside the gigabyte both leave the same memory: the access bits of the pages of the
range hold `prot`, every other bit is what it was. Each turn of the slow loop moves
on and stays within the range, so the loop ends. -/
theorem smpt_fast_path_exact (smpt : Nat) (prot : MptProt) (startGbByte endGbByte : Nat)
    (mem : Mem) (startAligned : cfg.smptGran ∣ startGbByte) (endAligned : cfg.smptGran ∣ endGbByte)
    (bounded : endGbByte ≤ SZ_1G) (granules : cfg.version = .v9 → GranulesSet cfg smpt mem) :
    let slow := setSmptRangeSlow cfg smpt prot startGbByte endGbByte mem
    let inRange := fun page => startGbByte ≤ page * cfg.smptGran ∧ page * cfg.smptGran < endGbByte
    setSmptRange cfg smpt prot startGbByte endGbByte mem = slow ∧
      (∀ page, inRange page → access cfg slow smpt page = prot.bits) ∧
      (∀ addr, ∀ bit < 32, (∀ page, inRange page → addr = smpt + page / cfg.smptElemsPerWord →
          bit < cfg.slots.pos (page % cfg.smptElemsPerWord) ∨
            cfg.slots.pos (page % cfg.smptElemsPerWord) + 2 ≤ bit) →
        (slow addr).getLsbD bit = (mem addr).getLsbD bit) ∧
      ∀ byte < endGbByte, byte < endWordByte cfg byte endGbByte ∧
        endWordByte cfg byte endGbByte ≤ endGbByte := by
  obtain ⟨first, rfl⟩ := exists_eq_mul_left_of_dvd startAligned
  obtain ⟨last, rfl⟩ := exists_eq_mul_left_of_dvd endAligned
  have gran := smptGran_pos cfg
  have inside : last ≤ cfg.smptNumElems := by
    obtain ⟨-, -, -, table, -⟩ := cfg.layout_cases
    rw [← table] at bounded
    exact Nat.le_of_mul_le_mul_right bounded gran
  have same := setSmptRange_eq_slow cfg smpt prot first last mem inside granules
  simp only [Nat.mul_le_mul_right_iff gran, Nat.mul_lt_mul_right gran]
  refine ⟨same, fun page range => ?_, fun addr bit narrow apart => ?_, fun byte less =>
    ⟨endWordByte_gt cfg less, Nat.min_le_right _ _⟩⟩
  · rw [← same, access_setSmptRange, if_pos range]
  · rw [getLsbD_setSmptRangeSlow cfg _ _ _ _ _ _ narrow, bitAfter, if_neg]
    rintro ⟨above, low, high, field⟩
    have clear := apart _ ⟨low, high⟩
    simp only [pageAt, Layout.pos, slots] at clear
    obtain ⟨width, shift, elems⟩ | ⟨width, shift, elems⟩ := entry_cases cfg <;>
      simp only [width, shift, elems] at clear field <;> omega

theorem smpt_fast_path_exact_v9 : GranulesSet ⟨.v9, .sz64K⟩ 0 (fun _ => 0x11111111) ∧
    setSmptRange ⟨.v9, .sz64K⟩ 0 .rw 0x10000 0x40000000 (fun _ => 0x11111111) =
      setSmptRangeSlow ⟨.v9, .sz64K⟩ 0 .rw 0x10000 0x40000000 (fun _ => 0x11111111) := by
  have granules : GranulesSet ⟨.v9, .sz64K⟩ 0 (fun _ => 0x11111111) := by
    intro word _
    beta_reduce
    decide
  exact ⟨granules, (smpt_fast_path_exact ⟨.v9, .sz64K⟩ 0 .rw 0x10000 0x40000000 _
    (by decide) (by decide) (by decide) (fun _ => granules)).1⟩

/-- A table `__is_smpt_uniform` accepts holds `prot` for every page. -/
lemma access_of_isSmptUniform {smpt : Nat} {prot : MptProt} {mem : Mem} {page : Nat}
    (uniform : isSmptUniform cfg smpt prot mem = true) (bounded : page < cfg.smptNumElems) :
    access cfg mem smpt page = prot.bits := by
  have slot := mod_lt page (smptElemsPerWord_pos cfg)
  have halves := get_doubleword cfg prot _ slot
  have word : page / cfg.smptElemsPerWord < cfg.smptNumWords := by
    obtain ⟨-, -, -, -, words, -⟩ := cfg.layout_cases
    rw [← words, mul_comm] at bounded
    exact Nat.div_lt_of_lt_mul bounded
  have even : 2 * (cfg.smptNumWords / 2) = cfg.smptNumWords := by
    obtain ⟨-, -, -, -, -, -, even⟩ := cfg.layout_cases
    exact even
  simp only [isSmptUniform, List.all_eq_true, List.mem_range, beq_iff_eq] at uniform
  have pair := uniform (page / cfg.smptElemsPerWord / 2) (by omega)
  rw [access]
  rcases mod_two_eq_zero_or_one (page / cfg.smptElemsPerWord) with low | high
  · have index : page / cfg.smptElemsPerWord = 2 * (page / cfg.smptElemsPerWord / 2) := by omega
    have half := congrArg (extractLsb' 0 32) pair
    rw [doubleword, extractLsb'_append_eq_right] at half
    rw [index, half]
    exact halves.1
  · have index : page / cfg.smptElemsPerWord = 2 * (page / cfg.smptElemsPerWord / 2) + 1 := by
      omega
    have half := congrArg (extractLsb' 32 32) pair
    rw [doubleword, extractLsb'_append_eq_left] at half
    rw [index, half]
    exact halves.2

end GsKernel.S2mpu
