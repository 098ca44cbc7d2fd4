import Mathlib

/-!
# Spans of a byte memory

A memory is written byte by byte and read span by span. Spans that are apart do not affect
each other, so a memory whose keys have spans apart from an observed one behaves, for that
key, like a store that keeps one value for each key.
-/

namespace GsKernel.Lib.ByteSpans

open Function List

/-- A memory of bytes. -/
abbrev Memory := Nat → UInt8

/-- A range of addresses. -/
structure Span where
  offset : Nat
  length : Nat
deriving DecidableEq

/-- Two spans without a common address. -/
def Span.Apart (left right : Span) : Prop :=
  left.offset + left.length ≤ right.offset ∨ right.offset + right.length ≤ left.offset

instance apartDecidable (left right : Span) : Decidable (left.Apart right) := instDecidableOr

lemma Span.Apart.symm {left right : Span} (apart : left.Apart right) : right.Apart left :=
  Or.symm apart

/-- The bytes of a span. -/
def readBytes (memory : Memory) (span : Span) : List UInt8 :=
  (range span.length).map fun index => memory (span.offset + index)

/-- The memory after bytes are written one after the other. -/
def writeBytes : Memory → Nat → List UInt8 → Memory
  | memory, _, [] => memory
  | memory, offset, byte :: bytes =>
    writeBytes (update memory offset byte) (offset + 1) bytes

variable {memory : Memory} {offset address : Nat}

lemma writeBytes_of_lt (bytes : List UInt8)
    (before : address < offset) : writeBytes memory offset bytes address = memory address := by
  induction bytes generalizing memory offset with
  | nil => rfl
  | cons byte bytes ih =>
    rw [writeBytes, ih (by omega), update_of_ne (by omega)]

lemma writeBytes_of_ge (bytes : List UInt8) (after : offset + bytes.length ≤ address) :
    writeBytes memory offset bytes address = memory address := by
  induction bytes generalizing memory offset with
  | nil => rfl
  | cons byte bytes ih =>
    rw [length_cons] at after
    rw [writeBytes, ih (by omega), update_of_ne (by omega)]

variable {bytes : List UInt8}

lemma writeBytes_add {offset index : Nat} (inside : index < bytes.length) :
    writeBytes memory offset bytes (offset + index) = bytes[index] := by
  induction bytes generalizing memory offset index with
  | nil => exact absurd inside (Nat.not_lt_zero _)
  | cons byte bytes ih =>
    cases index with
    | zero =>
      have kept : writeBytes (update memory offset byte) (offset + 1) bytes offset =
          update memory offset byte offset :=
        writeBytes_of_lt bytes (Nat.lt_succ_self _)
      exact kept.trans (update_self _ _ _)
    | succ index =>
      rw [writeBytes, show offset + (index + 1) = offset + 1 + index by omega,
        ih (Nat.lt_of_succ_lt_succ inside)]
      rfl

/-- Bytes written in two parts, the second behind the first. -/
lemma writeBytes_append (memory : Memory) (offset : Nat) (front back : List UInt8) :
    writeBytes memory offset (front ++ back) =
      writeBytes (writeBytes memory offset front) (offset + front.length) back := by
  induction front generalizing memory offset with
  | nil => rfl
  | cons byte front ih =>
    rw [cons_append, writeBytes, writeBytes, ih, length_cons, Nat.add_assoc,
      Nat.add_comm 1]

/-- A span read in two parts. -/
lemma readBytes_add (memory : Memory) (offset front back : Nat) :
    readBytes memory ⟨offset, front + back⟩ =
      readBytes memory ⟨offset, front⟩ ++ readBytes memory ⟨offset + front, back⟩ := by
  simp [readBytes, range_add, Nat.add_assoc, Function.comp_def]

lemma readBytes_writeBytes_same (memory : Memory) {span : Span}
    (full : bytes.length = span.length) :
    readBytes (writeBytes memory span.offset bytes) span = bytes := by
  refine ext_getElem (by simp [readBytes, full]) fun index _ inside => ?_
  simp only [readBytes, getElem_map, getElem_range]
  exact writeBytes_add inside

lemma readBytes_writeBytes_apart (memory : Memory) {written span : Span}
    (full : bytes.length = written.length) (apart : written.Apart span) :
    readBytes (writeBytes memory written.offset bytes) span = readBytes memory span := by
  refine map_congr_left fun index isIndex => ?_
  have inside := mem_range.mp isIndex
  rcases apart with before | after
  · exact writeBytes_of_ge bytes (by omega)
  · exact writeBytes_of_lt bytes (by omega)

section Store

variable {κ : Type*} [DecidableEq κ]

/-- A write to the span of a key. -/
def applyWrite (span : κ → Span) (memory : Memory) (write : κ × List UInt8) : Memory :=
  writeBytes memory (span write.1).offset write.2

/-- The same write to a store with a value for each key. -/
def storeWrite (store : κ → List UInt8) (write : κ × List UInt8) : κ → List UInt8 :=
  update store write.1 write.2

/-- A key whose span is apart from those of the other keys that are written holds what a store
would hold for it. -/
lemma readBytes_foldl_applyWrite (span : κ → Span) {key : κ} {writes : List (κ × List UInt8)}
    (full : ∀ write ∈ writes, write.2.length = (span write.1).length)
    (apart : ∀ write ∈ writes, write.1 ≠ key → (span write.1).Apart (span key))
    {memory : Memory} {store : κ → List UInt8} (agree : readBytes memory (span key) = store key) :
    readBytes (writes.foldl (applyWrite span) memory) (span key) =
      writes.foldl storeWrite store key := by
  induction writes generalizing memory store with
  | nil => exact agree
  | cons write writes ih =>
    rw [forall_mem_cons] at full apart
    refine ih full.2 apart.2 ?_
    by_cases same : write.1 = key
    · subst same
      rw [applyWrite, readBytes_writeBytes_same memory full.1, storeWrite, update_self]
    · rw [applyWrite, readBytes_writeBytes_apart memory full.1 (apart.1 same), agree, storeWrite,
        update_of_ne (Ne.symm same)]

end Store

end GsKernel.Lib.ByteSpans
