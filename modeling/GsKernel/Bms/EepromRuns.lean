import GsKernel.Bms.EepromCells

/-!
# Writing and reading the battery EEPROM

A write of a tag or of a history record changes one cell. So a cell holds the last value that
was written to it, unless a cell that lies over it was written in between.
-/

namespace GsKernel.Bms

open Lib.ByteSpans Layout

/-- A write of a tag or of a history record. -/
inductive EepromCall where
  | write (tag : GbmsTag) (buffer : Nat → UInt8) (size : Nat)
  | writeData (data : Option (Nat → UInt8)) (count : Nat) (index : Int)

/-- The memory after a call. -/
def Layout.step (layout : Layout) (nvmem : Memory) : EepromCall → Memory
  | .write tag buffer size => (gbeeStorageWrite layout tag buffer size nvmem).nvmem
  | .writeData data count index => (gbeeStorageWriteData layout .hist data count index nvmem).nvmem

/-- `write_data` takes the record of this index and these counts. -/
def AcceptsData (data : Option (Nat → UInt8)) (count : Nat) (index : Int) : Prop :=
  data.isSome = true ∧ 0 ≤ index ∧ index < battMaxHistCnt ∧ count ≠ 0 ∧ count ≤ battOneHistLen

instance acceptsDataDecidable (data : Option (Nat → UInt8)) (count : Nat) (index : Int) :
    Decidable (AcceptsData data count index) := instDecidableAnd

/-- The cell that a call writes, with the bytes it gets. -/
def EepromCall.written : EepromCall → Option (Cell × List UInt8)
  | .write tag buffer size => some (.tag tag, bytesOf buffer size)
  | .writeData data count index =>
    if AcceptsData data count index then
      data.map fun record => (.record index.toNat, bytesOf record battOneHistLen)
    else none

/-- A write of a tag that has the full length and succeeds. -/
def EepromCall.FullLength (layout : Layout) : EepromCall → Prop
  | .write tag _ size => gbeeStorageIsWritable tag = true ∧
    ∃ span, layout.info tag = some span ∧ size = span.length
  | .writeData _ _ _ => True

/-- The cells, each with a value of its own, after some calls. -/
def Layout.stored (layout : Layout) (nvmem : Memory) (calls : List EepromCall) :
    Cell → List UInt8 :=
  (calls.filterMap EepromCall.written).foldl storeWrite fun cell =>
    readBytes nvmem (layout.span cell)

section Steps

variable {layout : Layout} {nvmem : Memory}

lemma bytesOf_length (buffer : Nat → UInt8) (count : Nat) :
    (bytesOf buffer count).length = count := by
  simp [bytesOf]

/-- `write_data` takes a record or refuses it and changes nothing. -/
lemma gbeeStorageWriteData_eq (layout : Layout) (data : Option (Nat → UInt8)) (count : Nat)
    (index : Int) (nvmem : Memory) :
    (AcceptsData data count index ∧ ∃ record, data = some record ∧
      gbeeStorageWriteData layout .hist data count index nvmem =
        ⟨battOneHistLen, writeBytes nvmem (layout.histOffset + battOneHistLen * index.toNat)
          (bytesOf record battOneHistLen), battOneHistLen⟩) ∨
    (¬ AcceptsData data count index ∧
      (gbeeStorageWriteData layout .hist data count index nvmem).ret < 0 ∧
      (gbeeStorageWriteData layout .hist data count index nvmem).nvmem = nvmem ∧
      (gbeeStorageWriteData layout .hist data count index nvmem).taken = 0) := by
  unfold gbeeStorageWriteData AcceptsData
  rw [if_pos rfl, layout.info_hist]
  cases data with
  | none => exact .inr ⟨by simp, show -EINVAL < 0 by decide, rfl, rfl⟩
  | some record =>
    simp only [Option.isSome_some, true_and]
    by_cases bad : index < 0 ∨ count = 0
    · rw [if_pos bad]
      exact .inr ⟨by omega, show -EINVAL < 0 by decide, rfl, rfl⟩
    rw [if_neg bad]
    by_cases beyond : battMaxHistCnt ≤ index
    · rw [if_pos beyond]
      exact .inr ⟨by omega, show -ENODATA < 0 by decide, rfl, rfl⟩
    rw [if_neg beyond]
    by_cases long : battOneHistLen < count
    · rw [if_pos long]
      exact .inr ⟨by omega, show -EINVAL < 0 by decide, rfl, rfl⟩
    · rw [if_neg long]
      exact .inl ⟨by omega, record, rfl, rfl⟩

/-- A tag that can be written has the place that the layout gives for it. -/
lemma span_of_writable {tag : GbmsTag} (writable : gbeeStorageIsWritable tag = true) {span : Span}
    (isSpan : layout.info tag = some span) : layout.span (.tag tag) = span := by
  have notBrid : tag ≠ .brid := by
    rintro rfl
    exact absurd writable (by decide)
  simp only [Layout.span, Layout.tagSpan, if_neg notBrid, isSpan, Option.getD_some]

variable {call : EepromCall}

/-- A call writes its cell, or nothing. -/
lemma Layout.step_eq (full : call.FullLength layout) : layout.step nvmem call =
      match call.written with
      | none => nvmem
      | some write => applyWrite layout.span nvmem write := by
  cases call with
  | write tag buffer size =>
    obtain ⟨writable, span, isSpan, rfl⟩ := full
    have place : (layout.span (.tag tag)).offset = span.offset := by
      rw [span_of_writable writable isSpan]
    simp only [step, gbeeStorageWrite, writable, Bool.not_true, Bool.false_eq_true, if_false,
      isSpan, lt_irrefl, EepromCall.written, applyWrite, place]
  | writeData data count index =>
    simp only [step, EepromCall.written]
    rcases gbeeStorageWriteData_eq layout data count index nvmem with
      ⟨accepts, record, rfl, taken⟩ | ⟨refuses, -, same, -⟩
    · rw [taken, if_pos accepts]
      rfl
    · rw [same, if_neg refuses]

variable {calls : List EepromCall}

lemma Layout.foldl_step_eq (full : ∀ call ∈ calls, call.FullLength layout) :
    calls.foldl layout.step nvmem =
      (calls.filterMap EepromCall.written).foldl (applyWrite layout.span) nvmem := by
  induction calls generalizing nvmem with
  | nil => rfl
  | cons call calls ih =>
    rw [List.forall_mem_cons] at full
    rw [List.foldl_cons, ih full.2, step_eq full.1, List.filterMap_cons]
    cases call.written with
    | none => rfl
    | some write => rfl

/-- A write of full length has the length of its cell, and the cell can be written. -/
lemma EepromCall.FullLength.written (full : call.FullLength layout)
    {write : Cell × List UInt8} (isWritten : call.written = some write) :
    write.2.length = (layout.span write.1).length ∧ layout.Writable write.1 := by
  cases call with
  | write tag buffer size =>
    obtain ⟨writable, span, isSpan, rfl⟩ := full
    cases isWritten
    refine ⟨?_, writable, by rw [isSpan]; rfl⟩
    rw [span_of_writable writable isSpan]
    exact bytesOf_length buffer _
  | writeData data count index =>
    by_cases accepts : AcceptsData data count index
    · simp only [EepromCall.written, if_pos accepts, Option.map_eq_some_iff] at isWritten
      obtain ⟨record, -, rfl⟩ := isWritten
      refine ⟨bytesOf_length record _, ?_⟩
      have nonneg := accepts.2.1
      have inside := accepts.2.2.1
      change index.toNat < battMaxHistCnt
      omega
    · simp [EepromCall.written, if_neg accepts] at isWritten

/-- A cell that clashes with no cell written holds the last value written to it. -/
lemma Layout.read_cell {cell : Cell} (readable : layout.Readable cell)
    (full : ∀ call ∈ calls, call.FullLength layout)
    (noClash : ∀ call ∈ calls, ∀ write, call.written = some write → ¬ layout.Clash write.1 cell) :
    readBytes (calls.foldl layout.step nvmem) (layout.span cell) =
      layout.stored nvmem calls cell := by
  rw [foldl_step_eq full]
  refine readBytes_foldl_applyWrite layout.span ?_ ?_ rfl
  · intro write isWrite
    obtain ⟨call, isCall, isWritten⟩ := List.mem_filterMap.mp isWrite
    exact ((full call isCall).written isWritten).1
  · intro write isWrite ne
    obtain ⟨call, isCall, isWritten⟩ := List.mem_filterMap.mp isWrite
    exact apart ne ((full call isCall).written isWritten).2 readable
      (noClash call isCall write isWritten)

end Steps

/-! ## Reads -/

section Reads

variable {layout : Layout} {nvmem : Memory}

/-- A read of a tag returns its cell. -/
lemma gbeeStorageRead_eq {tag : GbmsTag} {span : Span} (isSpan : layout.info tag = some span)
    {size : Nat} (room : span.length ≤ size) :
    gbeeStorageRead layout tag size nvmem =
      ⟨span.length, readBytes nvmem (layout.span tag.cell)⟩ := by
  have table : ∀ layout ∈ [storage, storage01, storage02],
      ∀ tag ∈ GbmsTag.all, ∀ span ∈ layout.info tag,
        tag ≠ .brid ∧ span.length ≠ 0 ∧ layout.span tag.cell = span := by
    decide +kernel
  obtain ⟨notBrid, notEmpty, isCell⟩ :=
    table layout layout.mem_all tag tag.mem_all span isSpan
  simp only [gbeeStorageRead, if_neg notBrid, isSpan, if_neg notEmpty, if_neg (not_lt.mpr room),
    isCell]

/-- A read of a record returns its cell. -/
lemma readData_eq {index : Nat} (inside : index < layout.histCnt) {count : Nat}
    (room : battOneHistLen ≤ count) :
    layout.readData .hist true count index nvmem =
      ⟨battOneHistLen, readBytes nvmem (layout.span (.record index))⟩ := by
  have general : layout.readData = readDataOf layout.info layout.histCnt := by
    cases layout <;> rfl
  have notEmpty : ¬ ((!true) = true ∨ count = 0) := by
    rintro (isFalse | isZero)
    · exact absurd isFalse (by decide)
    · rw [isZero] at room
      exact absurd room (by decide)
  rw [general, readDataOf, if_pos rfl, layout.info_hist]
  simp only [if_neg notEmpty, if_neg (show ¬ (index : Int) < 0 by omega),
    if_neg (show ¬ (layout.histCnt : Int) ≤ index by omega), if_neg (not_lt.mpr room),
    Int.toNat_natCast, span]

end Reads

/-- For each layout and each content of the EEPROM. After any sequence of full-length writes of
tags and any calls of `write_data`, a tag reads as the last value written to it, and a record as
the last one written at its index, if no cell that lies over it was written: that concerns only
the last record of the second layout and the tags FCRU, FGST and AYMD. An index below the count
that `read_data` reports is accepted by `write_data` exactly when it is below 75. And
`write_data` reads no more than the count of the caller's bytes exactly when it refuses the
record or the count is the length of a record. -/
theorem eeprom_cells_independent (layout : Layout) (nvmem : Memory) :
    (∀ calls : List EepromCall, (∀ call ∈ calls, call.FullLength layout) →
      (∀ tag span size, layout.info tag = some span → span.length ≤ size →
        (∀ call ∈ calls, ∀ write, call.written = some write → ¬ layout.Clash write.1 tag.cell) →
        gbeeStorageRead layout tag size (calls.foldl layout.step nvmem) =
          ⟨span.length, layout.stored nvmem calls tag.cell⟩) ∧
      (∀ index count, index < layout.histCnt → battOneHistLen ≤ count →
        (∀ call ∈ calls, ∀ write, call.written = some write →
          ¬ layout.Clash write.1 (.record index)) →
        layout.readData .hist true count index (calls.foldl layout.step nvmem) =
          ⟨battOneHistLen, layout.stored nvmem calls (.record index)⟩)) ∧
    (∀ record count (index : Nat), 0 < count → count ≤ battOneHistLen →
      index < (layout.readData .hist false 0 0 nvmem).ret →
      (0 ≤ (gbeeStorageWriteData layout .hist (some record) count index nvmem).ret ↔
        index < battMaxHistCnt)) ∧
    (∀ data count index, (gbeeStorageWriteData layout .hist data count index nvmem).taken ≤ count ↔
        (AcceptsData data count index → count = battOneHistLen)) := by
  refine ⟨fun calls full => ⟨?_, ?_⟩, ?_, ?_⟩
  · intro tag span size isSpan room noClash
    have readable : layout.Readable tag.cell := by
      unfold GbmsTag.cell
      split
      · exact (by cases layout <;> decide : 0 < layout.histCnt)
      · assumption
    rw [gbeeStorageRead_eq isSpan room, read_cell readable full noClash]
  · intro index count inside room noClash
    rw [readData_eq inside room,
      read_cell (show layout.Readable (.record index) from inside) full noClash]
  · intro record count index positive short _
    rcases gbeeStorageWriteData_eq layout (some record) count index nvmem with
      ⟨accepts, _, -, taken⟩ | ⟨refuses, failed, -, -⟩
    · have inside := accepts.2.2.1
      rw [taken]
      exact ⟨fun _ => by omega, fun _ => Int.natCast_nonneg _⟩
    · refine ⟨fun returned => absurd returned (by omega), fun inside => ?_⟩
      exact absurd ⟨rfl, by omega, by omega, by omega, short⟩ refuses
  · intro data count index
    rcases gbeeStorageWriteData_eq layout data count index nvmem with
      ⟨accepts, _, -, taken⟩ | ⟨refuses, -, -, nothing⟩
    · have short := accepts.2.2.2.2
      rw [taken]
      exact ⟨fun enough _ => le_antisymm short enough, fun whole => (whole accepts).ge⟩
    · rw [nothing]
      exact ⟨fun _ accepts => absurd accepts refuses, fun _ => Nat.zero_le _⟩

/-- A buffer that holds one byte throughout. -/
def constantBuffer (byte : UInt8) : Nat → UInt8 := fun _ => byte

/-- In the third layout a tag keeps its value when a record is written. -/
theorem eeprom_cells_independent_thas : gbeeStorageRead .storage02 .thas 2
        (([.write .thas (constantBuffer 7) 2, .writeData (some (constantBuffer 9)) 12 74].foldl
          (step .storage02) fun _ => 0)) =
      ⟨2, [7, 7]⟩ := by
  have kept := ((eeprom_cells_independent .storage02 fun _ => 0).1
    [.write .thas (constantBuffer 7) 2, .writeData (some (constantBuffer 9)) 12 74]
    (by
      intro call isCall
      rcases List.mem_cons.mp isCall with rfl | isCall
      · exact ⟨rfl, ⟨0x1FFE, 2⟩, rfl, rfl⟩
      · obtain rfl := List.mem_singleton.mp isCall
        trivial)).1 .thas ⟨0x1FFE, 2⟩ 2 rfl le_rfl
    (by
      intro call _ write _ clash
      revert clash
      cases write.1 <;> simp [Clash, GbmsTag.cell])
  rw [kept]
  decide +kernel

/-- In the second layout the last record overwrites a tag. In the third one the index 75 is
reported and refused. A record of one byte is read with twelve. -/
theorem eeprom_cells_overlap : gbeeStorageRead .storage01 .aymd 3
        (([.write .aymd (constantBuffer 7) 3, .writeData (some (constantBuffer 9)) 12 74].foldl
          (step .storage01) fun _ => 0)) = ⟨3, [9, 9, 9]⟩ ∧
      (storage02.readData .hist false 0 0 fun _ => 0).ret = 200 ∧
      (gbeeStorageWriteData .storage02 .hist (some (constantBuffer 9)) 12 75 fun _ => 0).ret =
        -ENODATA ∧
      (gbeeStorageWriteData .storage .hist (some (constantBuffer 9)) 1 0 fun _ => 0).taken = 12 := by
  decide +kernel

end GsKernel.Bms
