import GsKernel.Bms.Eeprom

/-!
# The cells of the battery EEPROM

Tags and history records are the cells of the EEPROM. Cells that can be written are apart from
all others that can be read, except that in the second layout the last history record lies over
three of the tags that are taken from the default layout.
-/

namespace GsKernel.Bms

open Lib.ByteSpans Layout

/-- A tag or a record of the history. -/
inductive Cell where
  | tag (tag : GbmsTag)
  | record (index : Nat)
deriving DecidableEq

/-- Where a tag is read. -/
def Layout.tagSpan (layout : Layout) (tag : GbmsTag) : Option Span :=
  if tag = .brid then some bridSpan else layout.info tag

/-- Where the history starts. -/
def Layout.histOffset : Layout → Nat
  | .storage => 0x5E
  | .storage01 => 0x64
  | .storage02 => 0x5E

/-- The number of records that `read_data` reports. -/
def Layout.histCnt : Layout → Nat
  | .storage02 => battMaxHistCnt02
  | _ => battMaxHistCnt

/-- The place of a cell. -/
def Layout.span (layout : Layout) : Cell → Span
  | .tag tag => (layout.tagSpan tag).getD ⟨0, 0⟩
  | .record index => ⟨layout.histOffset + battOneHistLen * index, battOneHistLen⟩

/-- The tag of the history is its first record. -/
def GbmsTag.cell (tag : GbmsTag) : Cell := if tag = .hist then .record 0 else .tag tag

/-- The tags that the last record of the second layout lies over. -/
def GbmsTag.underHistory (tag : GbmsTag) : Bool :=
  tag = .fcru || tag = .fgst || tag = .aymd

/-- Two cells of the second layout that lie over each other. -/
def Layout.Clash (layout : Layout) : Cell → Cell → Prop
  | .tag tag, .record index => layout = .storage01 ∧ tag.underHistory = true ∧ index = 74
  | .record index, .tag tag => layout = .storage01 ∧ tag.underHistory = true ∧ index = 74
  | _, _ => False

/-- All tags. -/
def GbmsTag.all : List GbmsTag :=
  [.minf, .dinf, .hist, .snum, .bgpn, .gmsr, .bcnt, .cnhs, .lotr, .selc, .celc, .strd, .acim,
    .gcfe, .ravg, .rfcn, .thas, .aymd, .mymd, .fcru, .fgst, .brid, .bpst, .aawc, .other]

lemma GbmsTag.mem_all (tag : GbmsTag) : tag ∈ GbmsTag.all := by
  cases tag <;> decide

lemma Layout.mem_all (layout : Layout) : layout ∈ [storage, storage01, storage02] := by
  cases layout <;> decide

/-- The history is where the layout says, with records of one length. -/
lemma Layout.info_hist (layout : Layout) :
    layout.info .hist = some ⟨layout.histOffset, battOneHistLen⟩ := by
  cases layout <;> rfl

variable {layout : Layout}

/-- A tag that can be written is apart from every other tag. -/
lemma tagSpan_apart {written tag : GbmsTag} (ne : written ≠ tag)
    (writable : gbeeStorageIsWritable written = true) (notHist : tag ≠ .hist) :
    (layout.span (.tag written)).Apart (layout.span (.tag tag)) := by
  have table : ∀ layout ∈ [storage, storage01, storage02],
      ∀ written ∈ GbmsTag.all, ∀ tag ∈ GbmsTag.all, written ≠ tag →
        gbeeStorageIsWritable written = true → tag ≠ .hist →
          (layout.span (.tag written)).Apart (layout.span (.tag tag)) := by
    decide +kernel
  exact table layout layout.mem_all written written.mem_all tag tag.mem_all ne writable notHist

/-- A tag lies before the history or behind it, or behind all records but the last. -/
lemma tagSpan_history {tag : GbmsTag} (notHist : tag ≠ .hist) :
    (layout.span (.tag tag)).offset + (layout.span (.tag tag)).length ≤ layout.histOffset ∨
      layout.histOffset + battOneHistLen * layout.histCnt ≤ (layout.span (.tag tag)).offset ∨
      (layout = .storage01 ∧ tag.underHistory = true) ∧
        layout.histOffset + battOneHistLen * 74 ≤ (layout.span (.tag tag)).offset := by
  revert notHist
  cases layout <;> cases tag <;> decide +kernel

lemma tagSpan_record_apart {tag : GbmsTag} {index : Nat}
    (notHist : tag ≠ .hist) (inside : index < layout.histCnt)
    (noClash : ¬ layout.Clash (.tag tag) (.record index)) :
    (layout.span (.tag tag)).Apart (layout.span (.record index)) := by
  have record : layout.span (.record index) =
      ⟨layout.histOffset + battOneHistLen * index, battOneHistLen⟩ := rfl
  rw [record]
  unfold Span.Apart
  have position := @tagSpan_history layout tag notHist
  rcases position with before | behind | ⟨under, behind⟩
  · exact .inl (by simp only; omega)
  · have next : battOneHistLen * index + battOneHistLen ≤ battOneHistLen * layout.histCnt :=
      Nat.mul_le_mul_left battOneHistLen inside
    exact .inr (by simp only; omega)
  · have notLast : index ≠ 74 := fun last => noClash ⟨under.1, under.2, last⟩
    have cnt : layout.histCnt = 75 := by rw [under.1]; rfl
    have next : battOneHistLen * index + battOneHistLen ≤ battOneHistLen * 74 :=
      Nat.mul_le_mul_left battOneHistLen (show index + 1 ≤ 74 by omega)
    exact .inr (by simp only; omega)

lemma record_apart {first second : Nat} (ne : first ≠ second) :
    (layout.span (.record first)).Apart (layout.span (.record second)) := by
  simp only [span, Span.Apart, battOneHistLen]
  omega

/-- A cell that can be read. -/
def Layout.Readable (layout : Layout) : Cell → Prop
  | .tag tag => tag ≠ .hist
  | .record index => index < layout.histCnt

/-- A cell that can be written. -/
def Layout.Writable (layout : Layout) : Cell → Prop
  | .tag tag => gbeeStorageIsWritable tag = true ∧ (layout.info tag).isSome = true
  | .record index => index < battMaxHistCnt

/-- Cells do not overlap unless they clash. -/
lemma Layout.apart {written cell : Cell} (ne : written ≠ cell)
    (writable : layout.Writable written) (readable : layout.Readable cell)
    (noClash : ¬ layout.Clash written cell) : (layout.span written).Apart (layout.span cell) := by
  cases written with
  | tag writtenTag =>
    have notHist : writtenTag ≠ .hist := by
      rintro rfl
      exact absurd writable.1 (by decide)
    cases cell with
    | tag tag => exact tagSpan_apart (fun same => ne (by rw [same])) writable.1 readable
    | record index => exact tagSpan_record_apart notHist readable noClash
  | record writtenIndex =>
    cases cell with
    | tag tag =>
      have inside : writtenIndex < layout.histCnt := by
        have least : battMaxHistCnt ≤ layout.histCnt := by cases layout <;> decide
        exact lt_of_lt_of_le writable least
      exact (tagSpan_record_apart readable inside noClash).symm
    | record index => exact record_apart fun same => ne (by rw [same])

end GsKernel.Bms
