import GsKernel.Gcip.ImageConfig

/-!
# Parsing an image configuration is transactional

The error path of `setup_iommu_mappings` removes what it has mapped as long as none of it
uses a 36 bit address; then the live mappings are those of the last configuration after
every call.
-/

namespace GsKernel.Gcip

open ConfigParser ImageConfig IommuMapping List

namespace ImageConfig

variable (config : ImageConfig)

/-- The mappings of the entries that are not skipped. -/
def mapped (entries : List IommuMapping) : List Mapping :=
  (entries.filter fun entry => !config.skips entry).map IommuMapping.mapping

def rolledBack (entries : List IommuMapping) : List Mapping :=
  (entries.filter fun entry => !config.skips entry).map IommuMapping.rollbackMapping

/-- The mappings that a configuration asks for. -/
def mappings : Finset Mapping :=
  (config.nsEntries.map nsMapping).toFinset ∪ (config.mapped config.entries).toFinset

/-- `setup_iommu_mappings` fails at this entry. -/
def failsAt (results : MapResults) (index : Nat) (entry : IommuMapping) : Bool :=
  !config.skips entry && (decide (entry.mapping.1 = 0) || overflows entry.mapping entry.paddr ||
    decide (results.secure index ≠ 0))

/-- Unless the non-secure mappings fail, no entry that is mapped to a 36 bit address comes before
the first entry that fails. -/
def NoWideBeforeFailure (results : MapResults) : Prop :=
  (setupNsIommuMappings config results ∅).1 = 0 → ∀ index : Fin config.entries.length,
    config.failsAt results index config.entries[index] = true →
    (∀ earlier < index, config.failsAt results earlier config.entries[earlier] = false) →
    ∀ entry ∈ config.entries.take index, config.skips entry = true ∨
      map36Bit (entry.virtAddress &&& mapFlagsMask) = false

end ImageConfig

lemma foldl_erase_eq_sdiff {α β : Type*} [DecidableEq β] (skips : α → Bool) (key : α → β)
    (entries : List α) (live : Finset β) :
    entries.foldl (fun live entry => if skips entry then live else live.erase (key entry)) live =
      live \ ((entries.filter fun entry => !skips entry).map key).toFinset := by
  induction entries generalizing live with
  | nil => simp
  | cons entry entries ih =>
    rw [foldl_cons, ih]
    cases skipped : skips entry with
    | true => simp [skipped]
    | false =>
      simp only [skipped, Bool.false_eq_true, if_false, filter_cons, Bool.not_false,
        if_true, map_cons, toFinset_cons]
      ext mapping
      simp only [Finset.mem_sdiff, Finset.mem_erase, Finset.mem_insert, not_or]
      tauto

section Loops

variable {config : ImageConfig} {results : MapResults}

lemma rollbackIommuMappings_eq (done : List IommuMapping) (live : Finset Mapping) :
    rollbackIommuMappings config done live = live \ (config.rolledBack done).toFinset :=
  foldl_erase_eq_sdiff config.skips rollbackMapping done live

lemma clearIommuMappings_eq (live : Finset Mapping) :
    clearIommuMappings config live = live \ (config.mapped config.entries).toFinset := by
  have erased := foldl_erase_eq_sdiff config.skips mapping config.entries.reverse live
  rw [filter_reverse, map_reverse, toFinset_reverse] at erased
  exact erased

lemma removeNsMappings_eq (done : List UInt32) (live : Finset Mapping) :
    removeNsMappings done live = live \ (done.map nsMapping).toFinset := by
  have erased := foldl_erase_eq_sdiff (fun _ => false) nsMapping done live
  simp only [Bool.false_eq_true, if_false, Bool.not_false, filter_true] at erased
  exact erased

lemma clearNsIommuMappings_eq (live : Finset Mapping) :
    clearNsIommuMappings config live = live \ (config.nsEntries.map nsMapping).toFinset := by
  rw [clearNsIommuMappings, removeNsMappings_eq, map_reverse, toFinset_reverse]

/-- Unmapping a configuration removes its mappings. -/
lemma unmapImageConfig_eq (live : Finset Mapping) :
    unmapImageConfig config live = live \ config.mappings := by
  rw [unmapImageConfig, clearNsIommuMappings_eq, clearIommuMappings_eq, sdiff_sdiff_left,
    mappings, Finset.union_comm]
  rfl

/-- The results of `map` calls that all succeed. -/
def allMapped : MapResults := ⟨fun _ => 0, fun _ => 0⟩

variable {entry : IommuMapping}

lemma mapped_cons (mapped : config.skips entry = false) (entries : List IommuMapping) :
    config.mapped (entry :: entries) = entry.mapping :: config.mapped entries := by
  simp [ImageConfig.mapped, mapped]

lemma mapped_cons_skip (skipped : config.skips entry = true)
    (entries : List IommuMapping) : config.mapped (entry :: entries) = config.mapped entries := by
  simp [mapped, skipped]

variable {live : Finset Mapping} {done entries : List IommuMapping}

/-- A loop of `setup_iommu_mappings` that succeeds adds the mappings of all entries, and
would do so again when no `map` fails. -/
lemma setupIommuLoop_succeeds
    (succeeds : (setupIommuLoop config results done entries live).1 = 0) :
    (setupIommuLoop config results done entries live).2 = live ∪ (config.mapped entries).toFinset ∧
    ∀ others other, setupIommuLoop config allMapped others entries other =
      (0, other ∪ (config.mapped entries).toFinset) := by
  fun_induction setupIommuLoop config results done entries live with
  | case1 done live => simp [setupIommuLoop, mapped]
  | case2 done entry entries live skipped ih =>
    obtain ⟨added, again⟩ := ih succeeds
    rw [mapped_cons_skip skipped]
    refine ⟨added, fun others other => ?_⟩
    rw [setupIommuLoop, if_pos skipped]
    exact again _ _
  | case3 => exact absurd succeeds (by decide : - EIO ≠ 0)
  | case4 => exact absurd succeeds (by decide : -EOVERFLOW ≠ 0)
  | case5 done entry entries live unskipped nonzero inside failed => exact absurd succeeds failed
  | case6 done entry entries live unskipped nonzero inside mapped ih =>
    obtain ⟨added, again⟩ := ih succeeds
    rw [mapped_cons (by simpa using unskipped), toFinset_cons]
    refine ⟨by rw [added, Finset.insert_union, Finset.union_insert], fun others other => ?_⟩
    rw [setupIommuLoop, if_neg unskipped, if_neg nonzero, if_neg inside, if_neg (by simp [allMapped]),
      again, Finset.insert_union, Finset.union_insert]

lemma first_cons (passes : config.failsAt results done.length entry = false)
    (first : ∀ index (inside : index < entries.length),
      config.failsAt results ((entry :: done).length + index) entries[index] = false)
    (index : Nat) (inside : index < (entry :: entries).length) :
    config.failsAt results (done.length + index) (entry :: entries)[index] = false := by
  cases index with
  | zero => exact passes
  | succ index =>
    have later := first index (Nat.succ_lt_succ_iff.mp inside)
    rwa [length_cons, Nat.add_assoc, Nat.add_comm 1] at later

/-- A loop of `setup_iommu_mappings` that fails does so at the first entry it can, and rolls those
before it back. -/
lemma setupIommuLoop_fails (fails : (setupIommuLoop config results done entries live).1 ≠ 0) :
    ∃ before failed after, entries = before ++ failed :: after ∧
      config.failsAt results (done.length + before.length) failed = true ∧
      (∀ index (inside : index < before.length),
        config.failsAt results (done.length + index) before[index] = false) ∧
      (setupIommuLoop config results done entries live).2 =
        (live ∪ (config.mapped before).toFinset) \
          (config.rolledBack (before.reverse ++ done)).toFinset := by
  fun_induction setupIommuLoop config results done entries live with
  | case1 done live => exact absurd rfl fails
  | case2 done entry entries live skipped ih =>
    obtain ⟨before, failed, after, rfl, fails, first, left⟩ := ih fails
    refine ⟨entry :: before, failed, after, rfl, ?_, first_cons (by simp [failsAt, skipped]) first,
      ?_⟩
    · simpa [Nat.add_assoc, Nat.add_comm 1] using fails
    · rw [mapped_cons_skip skipped]
      simpa using left
  | case3 done entry entries live unskipped zero =>
    refine ⟨[], entry, entries, rfl, ?_, nofun, ?_⟩
    · simp [failsAt, unskipped, zero]
    · simp [rollbackIommuMappings_eq, mapped]
  | case4 done entry entries live unskipped nonzero overflow =>
    refine ⟨[], entry, entries, rfl, ?_, nofun, ?_⟩
    · simp [failsAt, unskipped, overflow]
    · simp [rollbackIommuMappings_eq, mapped]
  | case5 done entry entries live unskipped nonzero inside failed =>
    refine ⟨[], entry, entries, rfl, ?_, nofun, ?_⟩
    · simp [failsAt, unskipped, failed]
    · simp [rollbackIommuMappings_eq, mapped]
  | case6 done entry entries live unskipped nonzero inside mapped ih =>
    obtain ⟨before, failed, after, rfl, fails, first, left⟩ := ih fails
    have passes : config.failsAt results done.length entry = false := by
      simpa [failsAt, inside, nonzero] using fun _ => mapped
    refine ⟨entry :: before, failed, after, rfl, ?_, first_cons passes first, ?_⟩
    · simpa [Nat.add_assoc, Nat.add_comm 1] using fails
    · rw [mapped_cons (by simpa using unskipped), left]
      simp [Finset.insert_union, Finset.union_insert]

variable {done entries : List UInt32}

/-- A loop of `setup_ns_iommu_mappings` that succeeds adds the mappings of all entries, and
would do so again when no `map` fails. -/
lemma setupNsIommuLoop_succeeds {paddr : UInt64}
    (succeeds : (setupNsIommuLoop results done paddr entries live).1 = 0) :
    (setupNsIommuLoop results done paddr entries live).2 = live ∪ (entries.map nsMapping).toFinset ∧
    ∀ others other, setupNsIommuLoop allMapped others paddr entries other =
      (0, other ∪ (entries.map nsMapping).toFinset) := by
  fun_induction setupNsIommuLoop results done paddr entries live with
  | case1 done paddr live => simp [setupNsIommuLoop]
  | case2 => exact absurd succeeds (by decide : - EIO ≠ 0)
  | case3 => exact absurd succeeds (by decide : -EOVERFLOW ≠ 0)
  | case4 done paddr entry entries live nonzero inside failed => exact absurd succeeds failed
  | case5 done paddr entry entries live nonzero inside mapped ih =>
    obtain ⟨added, again⟩ := ih succeeds
    rw [map_cons, toFinset_cons]
    refine ⟨by rw [added, Finset.insert_union, Finset.union_insert], fun others other => ?_⟩
    rw [setupNsIommuLoop, if_neg nonzero, if_neg inside, if_neg (by simp [allMapped]), again,
      Finset.insert_union, Finset.union_insert]

/-- A loop of `setup_ns_iommu_mappings` that fails leaves nothing of what it or the entries
done have mapped. -/
lemma setupNsIommuLoop_fails {paddr : UInt64}
    (fails : (setupNsIommuLoop results done paddr entries live).1 ≠ 0)
    (own : live = (done.map nsMapping).toFinset) :
    (setupNsIommuLoop results done paddr entries live).2 = ∅ := by
  fun_induction setupNsIommuLoop results done paddr entries live with
  | case1 done paddr live => exact absurd rfl fails
  | case2 | case3 | case4 => rw [removeNsMappings_eq, own, sdiff_self, Finset.bot_eq_empty]
  | case5 done paddr entry entries live nonzero inside mapped ih =>
    refine ih fails ?_
    rw [own, map_cons, toFinset_cons]

/-- The error path of `setup_iommu_mappings` names the mappings of entries without 36 bit
addresses. -/
lemma rolledBack_eq {entries : List IommuMapping}
    (narrow : ∀ entry ∈ entries, config.skips entry = true ∨
      map36Bit (entry.virtAddress &&& mapFlagsMask) = false) :
    config.rolledBack entries = config.mapped entries := by
  refine map_congr_left fun entry mem => ?_
  obtain ⟨inside, unskipped⟩ := mem_filter.mp mem
  have plain := (narrow entry inside).resolve_left (by simpa using unskipped)
  simp [rollbackMapping, mapping, virtAddressToDma, plain]

/-- A configuration that has been mapped can be mapped again. -/
def ImageConfig.Mappable (config : ImageConfig) : Prop :=
  ∀ live, mapImageConfig config allMapped live = (0, live ∪ config.mappings)

lemma mapImageConfig_succeeds (succeeds : (mapImageConfig config results live).1 = 0) :
    (mapImageConfig config results live).2 = live ∪ config.mappings ∧ config.Mappable := by
  unfold mapImageConfig setupNsIommuMappings setupIommuMappings at succeeds ⊢
  simp only at succeeds ⊢
  split at succeeds
  · rename_i failed
    exact absurd succeeds failed
  rename_i nsMapped
  obtain ⟨nsAdded, nsAgain⟩ := setupNsIommuLoop_succeeds (not_not.mp nsMapped)
  split at succeeds
  · rename_i failed
    exact absurd succeeds failed
  rename_i mapped
  obtain ⟨added, again⟩ := setupIommuLoop_succeeds (not_not.mp mapped)
  rw [if_neg nsMapped, if_neg mapped]
  refine ⟨by rw [added, nsAdded, Finset.union_assoc, mappings], fun other => ?_⟩
  simp only [mapImageConfig, setupNsIommuMappings, setupIommuMappings, nsAgain, again,
    ne_eq, not_true_eq_false, if_false, Finset.union_assoc, mappings]

/-- A failure leaves no mapping of the configuration. -/
lemma mapImageConfig_fails (narrow : config.NoWideBeforeFailure results)
    (fails : (mapImageConfig config results ∅).1 ≠ 0) :
    (mapImageConfig config results ∅).2 = ∅ := by
  unfold mapImageConfig setupNsIommuMappings setupIommuMappings at fails ⊢
  simp only at fails ⊢
  split at fails
  · rename_i nsFailed
    rw [if_pos nsFailed]
    exact setupNsIommuLoop_fails nsFailed rfl
  rename_i nsMapped
  rw [if_neg nsMapped]
  obtain ⟨nsAdded, -⟩ := setupNsIommuLoop_succeeds (not_not.mp nsMapped)
  split at fails
  · rename_i failed
    rw [if_pos failed]
    obtain ⟨before, entry, after, entries, fails, first, left⟩ := setupIommuLoop_fails failed
    have inside : before.length < config.entries.length := by
      rw [entries, length_append, length_cons]
      omega
    have early : config.entries.take before.length = before := by rw [entries, take_left]
    have here : config.entries[before.length] = entry := by simp [entries]
    have same : config.rolledBack before = config.mapped before := by
      refine rolledBack_eq fun other mem => ?_
      refine narrow (not_not.mp nsMapped) ⟨before.length, inside⟩ ?_ (fun earlier less => ?_) other
        (by rwa [early])
      · simpa [here] using fails
      · have passes := first earlier less
        simpa [entries, getElem_append_left less] using passes
    have reversed : (config.rolledBack (before.reverse ++ [])).toFinset =
        (config.mapped before).toFinset := by
      rw [append_nil, rolledBack, filter_reverse, map_reverse,
        toFinset_reverse, ← same]
      rfl
    rw [clearNsIommuMappings_eq, left, reversed, nsAdded, Finset.empty_union]
    ext mapping
    simp only [Finset.mem_sdiff, Finset.mem_union, Finset.notMem_empty, iff_false]
    tauto
  · rename_i mapped
    exact absurd (not_not.mp mapped) fails

end Loops

/-- A call of `gcip_image_config_parse`, with the results of `map`, or of
`gcip_image_config_clear`. -/
inductive ConfigCall where
  | parse (config : ImageConfig) (results : MapResults)
  | clear

namespace ConfigParser

def step (parser : ConfigParser) : ConfigCall → ConfigParser
  | .parse config results => (parser.imageConfigParse config results).2
  | .clear => parser.imageConfigClear

/-- No entry of a parsed configuration that is mapped to a 36 bit address comes before the first
one that fails. -/
def Narrow (_ : ConfigParser) : ConfigCall → Prop
  | .parse config results => config.NoWideBeforeFailure results
  | .clear => True

/-- The live mappings are those of the last configuration, which could be mapped again. -/
structure Consistent (parser : ConfigParser) : Prop where
  live : parser.live = parser.lastConfig.mappings
  mappable : parser.lastConfig.Mappable

variable {parser : ConfigParser}

lemma mappings_zero (others : Nat) : (ImageConfig.zero others).mappings = ∅ := rfl

lemma mappable_zero (others : Nat) : (ImageConfig.zero others).Mappable := by
  intro live
  rw [mappings_zero, Finset.union_empty]
  rfl

lemma Consistent.parse (consistent : parser.Consistent) {config : ImageConfig}
    {results : MapResults} (narrow : config.NoWideBeforeFailure results) :
    (parser.imageConfigParse config results).2.Consistent ∧
      ((parser.imageConfigParse config results).1 = 0 →
        (parser.imageConfigParse config results).2.lastConfig = config) ∧
      ((parser.imageConfigParse config results).1 ≠ 0 →
        (parser.imageConfigParse config results).2 = parser) := by
  unfold imageConfigParse
  by_cases same : config = parser.lastConfig
  · rw [if_pos same]
    exact ⟨consistent, fun _ => same.symm, fun failed => absurd rfl failed⟩
  have emptied : unmapImageConfig parser.lastConfig parser.live = ∅ := by
    rw [unmapImageConfig_eq, consistent.live, sdiff_self, Finset.bot_eq_empty]
  rw [if_neg same]
  simp only [emptied]
  by_cases fails : (mapImageConfig config results ∅).1 ≠ 0
  · have restored : ({ parser with live := (mapImageConfig parser.lastConfig
        ⟨fun _ => 0, fun _ => 0⟩ (mapImageConfig config results ∅).2).2 } : ConfigParser) =
          parser := by
      rw [mapImageConfig_fails narrow fails]
      have again := consistent.mappable ∅
      rw [allMapped, Finset.empty_union, ← consistent.live] at again
      rw [again]
    rw [if_pos fails, restored]
    exact ⟨consistent, fun succeeds => absurd succeeds fails, fun _ => rfl⟩
  · obtain ⟨added, mappable⟩ := mapImageConfig_succeeds (not_not.mp fails)
    rw [if_neg fails, added, Finset.empty_union]
    exact ⟨⟨rfl, mappable⟩, fun _ => rfl, fun failed => absurd rfl failed⟩

lemma Consistent.clear (consistent : parser.Consistent) :
    parser.imageConfigClear.Consistent ∧ parser.imageConfigClear.live = ∅ := by
  have emptied : unmapImageConfig parser.lastConfig parser.live = ∅ := by
    rw [unmapImageConfig_eq, consistent.live, sdiff_self, Finset.bot_eq_empty]
  exact ⟨⟨emptied.trans (mappings_zero _).symm, mappable_zero _⟩, emptied⟩

end ConfigParser

/-- After every sequence of calls in which no entry mapped to a 36 bit address comes before the
first one that fails, the live mappings are those of the last configuration; a further parse
makes them those of its configuration or leaves them as they are, and clearing removes
them. -/
theorem imageConfig_transactional (others : Nat) (calls : List ConfigCall)
    (along : Lib.Runs.Along step Narrow (.init others) calls) :
    (calls.foldl step (.init others)).live = (calls.foldl step (.init others)).lastConfig.mappings ∧
    (∀ config results, config.NoWideBeforeFailure results →
      let before := calls.foldl step (.init others)
      let after := before.imageConfigParse config results
      (after.1 = 0 → after.2.lastConfig = config ∧ after.2.live = config.mappings) ∧
        (after.1 ≠ 0 → after.2 = before)) ∧
    (calls.foldl step (.init others)).imageConfigClear.live = ∅ := by
  have consistent : (calls.foldl step (.init others)).Consistent :=
    Lib.Runs.foldl_invariant_along Consistent step Narrow (fun parser call kept narrow => by
        cases call with
        | parse config results => exact (kept.parse narrow).1
        | clear => exact kept.clear.1)
      calls ⟨(mappings_zero others).symm, mappable_zero others⟩ along
  refine ⟨consistent.live, fun config results narrow => ?_, consistent.clear.2⟩
  obtain ⟨next, succeeds, fails⟩ := consistent.parse narrow
  refine ⟨fun zero => ⟨succeeds zero, ?_⟩, fails⟩
  rw [next.live, succeeds zero]

/-- A configuration of a non-secure firmware with the given entries. -/
def nsFirmware (entries : List IommuMapping) (few : entries.length ≤ 18) : ImageConfig :=
  { ImageConfig.zero 0 with
    privilegeLevel := privLevelNs
    numIommuMappings := entries.length
    iommuMappings := Vector.ofFn fun index => entries.getD index ⟨0, 0⟩
    numIommuMappings_le := few }

/-- Two pages, the second at a 36 bit address. -/
def widePageLast : ImageConfig :=
  nsFirmware [⟨0x1000, 0x1000 + 2049⟩, ⟨0x2008, 0x2000 + 2049⟩] (by decide)

/-- Two pages, the first at a 36 bit address. -/
def widePageFirst : ImageConfig :=
  nsFirmware [⟨0x2008, 0x2000 + 2049⟩, ⟨0x1000, 0x1000 + 2049⟩] (by decide)

/-- The second `map` fails. -/
def secondFails : MapResults := ⟨fun index => if index = 1 then -12 else 0, fun _ => 0⟩

theorem imageConfig_transactional_widePageLast :
    ((init 0).imageConfigParse widePageLast secondFails).1 = -12 ∧
      ((init 0).imageConfigParse widePageLast secondFails).2 = .init 0 := by
  have failed : ((init 0).imageConfigParse widePageLast secondFails).1 = -12 := by
    decide +kernel
  obtain ⟨-, parses, -⟩ := imageConfig_transactional 0 [] trivial
  refine ⟨failed, (parses widePageLast secondFails ?_).2 ?_⟩
  · unfold NoWideBeforeFailure
    decide +kernel
  · exact fun succeeds => absurd (failed.symm.trans succeeds) (by decide)

/-- The page at the 36 bit address stays mapped after the failure, though there is no last
configuration. -/
theorem imageConfig_leaks : ((init 0).imageConfigParse widePageFirst secondFails).1 = -12 ∧
      ((init 0).imageConfigParse widePageFirst secondFails).2.live =
        {(0x20000, 0x1000)} ∧
      ((init 0).imageConfigParse widePageFirst secondFails).2.lastConfig.mappings = ∅ := by
  refine ⟨?_, ?_, ?_⟩ <;> decide +kernel

end GsKernel.Gcip
