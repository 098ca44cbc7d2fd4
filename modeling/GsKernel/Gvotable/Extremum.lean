import GsKernel.Gvotable.Ballots
import GsKernel.Lib.Runs

/-!
# Elections that select an extremum

The winner is the first enabled ballot of the list, so it is the extremum while the enabled
ballots stay sorted. Insertion compares with disabled ballots too: it loses the order when a
disabled ballot that the new vote orders before stands in front of an enabled one that orders
before the new vote.
-/

namespace GsKernel.Gvotable

open Lib.Strings List

/-- The comparators that order votes by value. -/
inductive ValueComparator where
  | intMin
  | intMax
  | uintMin
  | uintMax
deriving DecidableEq

namespace ValueComparator

/-- The comparator function. -/
def cmp : ValueComparator → Ptr → Ptr → Int
  | .intMin => comparatorIntMin
  | .intMax => comparatorIntMax
  | .uintMin => comparatorUintMin
  | .uintMax => comparatorUintMax

/-- What the comparator sorts by, smallest first. -/
def key : ValueComparator → Ptr → Int
  | .intMin, vote => ptrToInt vote
  | .intMax, vote => -ptrToInt vote
  | .uintMin, vote => -(ptrToUint vote : Int)
  | .uintMax, vote => ptrToUint vote

lemma cmp_neg_iff (comparator : ValueComparator) (a b : Ptr) :
    comparator.cmp a b < 0 ↔ comparator.key a < comparator.key b := by
  cases comparator <;>
    simp only [cmp, key, comparatorIntMin, comparatorIntMax, comparatorUintMin, comparatorUintMax,
      comparatorInt] <;>
    split_ifs <;> omega

lemma cmp_eq_zero_iff (comparator : ValueComparator) (a b : Ptr) :
    comparator.cmp a b = 0 ↔ comparator.key a = comparator.key b := by
  cases comparator <;>
    simp only [cmp, key, comparatorIntMin, comparatorIntMax, comparatorUintMin, comparatorUintMax,
      comparatorInt] <;>
    split_ifs <;> grind

/-- The parameters of an int election with this comparator. -/
abbrev params (comparator : ValueComparator) (hasCallback : Bool) (hash : CString → BitVec 32) :
    Params Ptr :=
  intParams comparator.cmp hasCallback hash

end ValueComparator

variable (comparator : ValueComparator)

/-- The enabled ballots stand in the comparator's order. -/
def Sorted (votes : List (Ballot Ptr)) : Prop :=
  votes.Pairwise fun first second => first.enabled = true → second.enabled = true →
    comparator.key first.vote ≤ comparator.key second.vote

/-- No disabled ballot that the vote orders before stands in front of an enabled one
that orders before the vote. -/
def Fits (vote : Ptr) (votes : List (Ballot Ptr)) : Prop :=
  votes.Pairwise fun tmp later => tmp.enabled = false → later.enabled = true →
    comparator.key vote < comparator.key tmp.vote → comparator.key vote ≤ comparator.key later.vote

section Order

variable {comparator} {votes front back : List (Ballot Ptr)} {ballot : Ballot Ptr}

lemma Sorted.remove (sorted : Sorted comparator (front ++ ballot :: back)) :
    Sorted comparator (front ++ back) :=
  Pairwise.sublist (Sublist.append_left (sublist_cons_self _ _) _) sorted

/-- A disabled ballot may stand anywhere. -/
lemma Sorted.insert_disabled (sorted : Sorted comparator (front ++ back))
    (disabled : ballot.enabled = false) : Sorted comparator (front ++ ballot :: back) := by
  obtain ⟨frontSorted, backSorted, across⟩ := pairwise_append.mp sorted
  refine pairwise_append.mpr ⟨frontSorted, pairwise_cons.mpr ⟨?_, backSorted⟩, ?_⟩
  · intro later _ enabled
    exact absurd (disabled.symm.trans enabled) Bool.false_ne_true
  · rintro first mem second (_ | ⟨_, inBack⟩) firstEnabled secondEnabled
    · exact absurd (disabled.symm.trans secondEnabled) Bool.false_ne_true
    · exact across first mem second inBack firstEnabled secondEnabled

/-- An enabled ballot keeps the order behind everything it does not order before and
in front of a ballot it orders before, when its vote fits. -/
lemma Sorted.insert_enabled (sorted : Sorted comparator (front ++ back))
    (fits : Fits comparator ballot.vote (front ++ back))
    (behind : ∀ before ∈ front, ¬ comparator.key ballot.vote < comparator.key before.vote)
    (ahead : ∀ tmp ∈ back.head?, comparator.key ballot.vote < comparator.key tmp.vote) :
    Sorted comparator (front ++ ballot :: back) := by
  obtain ⟨frontSorted, backSorted, across⟩ := pairwise_append.mp sorted
  have first : ∀ later ∈ back, later.enabled = true →
      comparator.key ballot.vote ≤ comparator.key later.vote := by
    intro later mem laterEnabled
    cases back with
    | nil => exact absurd mem nofun
    | cons tmp rest =>
      have before := ahead tmp rfl
      rcases mem_cons.mp mem with rfl | inRest
      · exact Int.le_of_lt before
      cases tmpEnabled : tmp.enabled with
      | true =>
        exact Int.le_trans (Int.le_of_lt before)
          ((pairwise_cons.mp backSorted).1 later inRest tmpEnabled laterEnabled)
      | false =>
        have tail := (pairwise_append.mp fits).2.1
        exact (pairwise_cons.mp tail).1 later inRest tmpEnabled laterEnabled before
  refine pairwise_append.mpr ⟨frontSorted, pairwise_cons.mpr ⟨?_, backSorted⟩, ?_⟩
  · intro later mem _
    exact first later mem
  · rintro before mem second (_ | ⟨_, inBack⟩) beforeEnabled secondEnabled
    · exact Int.not_lt.mp (behind before mem)
    · exact across before mem second inBack beforeEnabled secondEnabled

/-- The first enabled ballot of a sorted list is the smallest of the enabled ones. -/
lemma Sorted.first_le (sorted : Sorted comparator votes)
    (first : votes.find? (·.enabled) = some ballot) :
    ∀ other ∈ votes, other.enabled = true →
      comparator.key ballot.vote ≤ comparator.key other.vote := by
  obtain ⟨ballotEnabled, front, back, rfl, skipped⟩ := find?_eq_some_iff_append.mp first
  intro other mem otherEnabled
  rcases mem_append.mp mem with inFront | inBack
  · exact absurd otherEnabled (by simpa using skipped other inFront)
  · rcases mem_cons.mp inBack with rfl | later
    · exact Int.le_refl _
    · have tail := (pairwise_append.mp sorted).2.1
      exact (pairwise_cons.mp tail).1 other later ballotEnabled otherEnabled

end Order

/-- The vote a call inserts into the list, and the ballots it is inserted among: its
voter's own ballot is taken out first. -/
def insertedVote (params : Params Ptr) (env : Env Ptr) (el : Election Ptr) :
    Call Ptr → Option (Ptr × List (Ballot Ptr))
  | .castVote reason vote true =>
    if reason.chars = [] then none
    else
      match locateBallot params reason el.votes with
      | none => if env.ballotAlloc then some (vote.getD params.zeroVote, el.votes) else none
      | some (front, _, back) => some (vote.getD params.zeroVote, front ++ back)
  | .recastBallot reason true =>
    (locateBallot params reason el.votes).map fun (front, ballot, back) =>
      (ballot.vote, front ++ back)
  | _ => none

/-- The vote a call inserts, if any, fits among the other ballots. -/
def InsertsInOrder (params : Params Ptr) (el : Election Ptr) (step : Env Ptr × Call Ptr) : Prop :=
  ∀ inserted ∈ insertedVote params step.1 el step.2, Fits comparator inserted.1 inserted.2

instance (vote : Ptr) (votes : List (Ballot Ptr)) : Decidable (Fits comparator vote votes) :=
  inferInstanceAs (Decidable (Pairwise _ _))

instance (params : Params Ptr) (el : Election Ptr) (step : Env Ptr × Call Ptr) :
    Decidable (InsertsInOrder comparator params el step) :=
  inferInstanceAs (Decidable (∀ inserted ∈ _, _))

/-- The result is that of the first enabled ballot, up to what the comparator
distinguishes, and invalid when there is none. -/
def Declared (el : Election Ptr) : Prop :=
  match el.votes.find? (·.enabled) with
  | some ballot =>
    el.resultIsValid = true ∧ comparator.key el.result = comparator.key ballot.vote
  | none => el.resultIsValid = false

/-- What every call of a run that inserts in order keeps. -/
structure Extremal (el : Election Ptr) : Prop where
  unforced : el.forceResultIsEnabled = false
  unused : el.hasDefaultVote ≠ 1
  sorted : Sorted comparator el.votes
  declared : Declared comparator el

/-- The current vote is the extremum of the enabled ballots, or `-EAGAIN` when none is
enabled. -/
def SelectsExtremum (params : Params Ptr) (el : Election Ptr) : Prop :=
  match getCurrentVote params el with
  | .ok vote =>
    (∃ ballot ∈ el.votes, ballot.enabled = true ∧
      comparator.key vote = comparator.key ballot.vote) ∧
    ∀ ballot ∈ el.votes, ballot.enabled = true → comparator.key vote ≤ comparator.key ballot.vote
  | .error code => code = -EAGAIN ∧ ∀ ballot ∈ el.votes, ballot.enabled = false

instance (params : Params Ptr) (el : Election Ptr) :
    Decidable (SelectsExtremum comparator params el) := by
  unfold SelectsExtremum
  split <;> infer_instance

section Steps

variable {comparator} {hasCallback : Bool} {hash : CString → BitVec 32} {env : Env Ptr}
  {el next : Election Ptr} {params : Params Ptr}

lemma Extremal.selects (extremal : Extremal comparator el) :
    SelectsExtremum comparator params el := by
  have declared := extremal.declared
  unfold Declared at declared
  unfold SelectsExtremum getCurrentVote
  rw [extremal.unforced]
  cases first : el.votes.find? (·.enabled) with
  | none =>
    rw [first] at declared
    simp only [declared]
    exact ⟨rfl, by simpa using first⟩
  | some ballot =>
    rw [first] at declared
    simp only [declared.1]
    refine ⟨⟨ballot, mem_of_find?_eq_some first, find?_some first, declared.2⟩, ?_⟩
    rw [declared.2]
    exact extremal.sorted.first_le first

lemma declared_internalRunElection (unforced : el.forceResultIsEnabled = false)
    (unused : el.hasDefaultVote ≠ 1) :
    Declared comparator (internalRunElection (comparator.params hasCallback hash) el).2 := by
  unfold Declared
  rw [(resultOnly_internalRunElection el).votes]
  cases first : el.votes.find? (·.enabled) with
  | none => rw [internalRunElection_invalid unforced first unused]
  | some ballot =>
    rw [internalRunElection_ballot unforced first]
    refine ⟨declareResult_valid _ _ _, ?_⟩
    rcases declareResult_result ballot.reason.toCString ballot.vote ballot.vote with new | ⟨old, equal⟩
    · exact congrArg comparator.key new
    · exact (congrArg comparator.key old).trans ((comparator.cmp_eq_zero_iff _ _).mp equal)

lemma sorted_addBallot {ballot : Ballot Ptr} (sorted : Sorted comparator el.votes)
    (fits : ballot.enabled = true → Fits comparator ballot.vote el.votes) :
    Sorted comparator
      (addBallot (comparator.params hasCallback hash) el ballot ballot.enabled).votes := by
  obtain ⟨front, back, split, placed, behind, ahead⟩ :=
    @addBallot_votes Ptr (comparator.params hasCallback hash) el ballot ballot.enabled
  rw [placed]
  rw [split] at sorted fits
  cases isEnabled : ballot.enabled with
  | false => exact sorted.insert_disabled isEnabled
  | true =>
    refine sorted.insert_enabled (fits isEnabled) ?_ ?_
    · intro before mem ordered
      exact behind isEnabled before mem ((comparator.cmp_neg_iff _ _).mpr ordered)
    · intro tmp isHead
      exact (comparator.cmp_neg_iff _ _).mp (ahead tmp isHead).2

/-- Recording a vote that fits fails without effect or leaves the enabled ballots sorted. -/
lemma sorted_recorded {reason : CString} {adds enabled : Bool} {value : Ptr → Ptr}
    {after : Int × Election Ptr} (sorted : Sorted comparator el.votes)
    (recorded : Recorded (comparator.params hasCallback hash) env el reason adds value enabled after)
    (fitsNew : adds = true → enabled = true → env.ballotAlloc = true →
      locateBallot (comparator.params hasCallback hash) reason el.votes = none →
        Fits comparator (value 0) el.votes) (fits : enabled = true → ∀ front ballot back,
      locateBallot (comparator.params hasCallback hash) reason el.votes =
        some (front, ballot, back) → Fits comparator (value ballot.vote) (front ++ back)) :
    after.1 < 0 ∧ after.2 = el ∨ after.1 = 0 ∧ Sorted comparator after.2.votes := by
  cases recorded with
  | refused absent failed => exact Or.inl ⟨failed, rfl⟩
  | unbuffered absent adding allocated copies | lost found copies =>
    exact absurd copies Bool.false_ne_true
  | entered absent adding allocated =>
    exact Or.inr ⟨rfl, sorted_addBallot sorted fun isEnabled =>
      fitsNew adding isEnabled allocated absent⟩
  | moved found =>
    rw [(locateBallot_eq_some found).1] at sorted
    exact Or.inr ⟨rfl, sorted_addBallot sorted.remove fun isEnabled => fits isEnabled _ _ _ found⟩
  | disabled found off =>
    rw [(locateBallot_eq_some found).1] at sorted
    exact Or.inr ⟨rfl, sorted.remove.insert_disabled off⟩

/-- Running the election on sorted ballots makes the first of them the result. -/
lemma extremal_settle {recorded : Int × Election Ptr}
    (extremal : Extremal comparator el) (kept : BallotsOnly el recorded.2)
    (ballots : recorded.1 < 0 ∧ recorded.2 = el ∨
      recorded.1 = 0 ∧ Sorted comparator recorded.2.votes) :
    Extremal comparator (settle (comparator.params hasCallback hash) env recorded).el := by
  unfold settle
  rcases ballots with ⟨failed, same⟩ | ⟨success, sorted⟩
  · rw [if_pos failed]
    exact same ▸ extremal
  have unforced := kept.forceResultIsEnabled.trans extremal.unforced
  have unused : recorded.2.hasDefaultVote ≠ 1 := kept.hasDefaultVote ▸ extremal.unused
  rw [success, if_neg (Int.lt_irrefl 0), conclude_of_quiet (quiet_intParams env)]
  have frame : ResultOnly recorded.2
      (internalRunElection (comparator.params hasCallback hash) recorded.2).2 :=
    resultOnly_internalRunElection recorded.2
  exact {
    unforced := frame.forceResultIsEnabled.trans unforced
    unused := frame.hasDefaultVote ▸ unused
    sorted := frame.votes ▸ sorted
    declared := declared_internalRunElection unforced unused }

/-- A cast or recast that inserts in order keeps the invariant. -/
lemma extremal_callStep (extremal : Extremal comparator el) {step : Env Ptr × Call Ptr}
    (isVote : step.2.IsVote)
    (inOrder : InsertsInOrder comparator (comparator.params hasCallback hash) el step) :
    Extremal comparator (callStep (comparator.params hasCallback hash) el step) := by
  obtain ⟨env, call⟩ := step
  cases call with
  | castVote reason vote enabled =>
    by_cases named : reason.chars = []
    · simpa only [callStep, Call.run, castVote, if_pos named] using extremal
    have recorded := recorded_vote (comparator.params hasCallback hash) env el reason
      (vote.getD 0) enabled
    have ballots := sorted_recorded extremal.sorted recorded (by
        rintro - rfl allocated absent
        exact inOrder (vote.getD 0, el.votes) (by simp [insertedVote, named, absent, allocated]))
      (by
        rintro rfl front ballot back found
        exact inOrder (vote.getD 0, front ++ back) (by simp [insertedVote, named, found]))
    simpa [callStep, Call.run, castVote, castValue, named, intParams, Outcome.afterLock] using
      extremal_settle extremal (ballotsOnly_recorded env recorded) ballots
  | recastBallot reason enabled =>
    have recorded := recorded_recast (comparator.params hasCallback hash) env el reason enabled
    refine extremal_settle extremal (ballotsOnly_recorded env recorded)
      (sorted_recorded extremal.sorted recorded nofun ?_)
    rintro rfl front ballot back found
    exact inOrder (ballot.vote, front ++ back) (by simp [insertedVote, found])
  | _ => exact absurd isVote id

end Steps

/-- An election starts without ballots, result and default. -/
lemma extremal_createElection (params : Params Ptr) :
    Extremal comparator (createElection params) where
  unforced := rfl
  unused := by simp [createElection]
  sorted := Pairwise.nil
  declared := rfl

/-- In every state of a run of casts and recasts in which each inserted vote fits among
the other ballots, the current vote is the extremum of the enabled ballots. -/
theorem selectsExtremum_foldl (hasCallback : Bool) (hash : CString → BitVec 32)
    (calls : List (Env Ptr × Call Ptr))
    (along : Lib.Runs.Along (callStep (comparator.params hasCallback hash))
      (fun el step => step.2.IsVote ∧
        InsertsInOrder comparator (comparator.params hasCallback hash) el step)
      (createElection (comparator.params hasCallback hash)) calls) :
    SelectsExtremum comparator (comparator.params hasCallback hash)
      (calls.foldl (callStep (comparator.params hasCallback hash))
        (createElection (comparator.params hasCallback hash))) := by
  refine Extremal.selects (Lib.Runs.foldl_invariant_along (Extremal comparator) _ _ ?_ calls
    (extremal_createElection comparator _) along)
  intro el step extremal admissible
  exact extremal_callStep extremal admissible.1 admissible.2

/-- Two voters of a minimum election; the first one's vote is disabled in place with a
larger value, and a third vote is inserted in front of it. -/
def misplacingCalls : List (Env Ptr × Call Ptr) :=
  [(quietEnv, .castVote voterA (some 10) true), (quietEnv, .castVote voterB (some 20) true),
    (quietEnv, .castVote voterA (some 30) false), (quietEnv, .castVote voterC (some 25) true)]

/-- With two enabled votes the smaller one is current. -/
theorem selectsExtremum_two_voters :
    SelectsExtremum .intMin (ValueComparator.intMin.params true fullNameHash)
      ((misplacingCalls.take 2).foldl (callStep (ValueComparator.intMin.params true fullNameHash))
        (createElection (ValueComparator.intMin.params true fullNameHash))) :=
  selectsExtremum_foldl .intMin true fullNameHash (misplacingCalls.take 2)
    ⟨⟨trivial, by decide +kernel⟩, ⟨trivial, by decide +kernel⟩, trivial⟩

/-- The vote 25 is inserted in front of the disabled 30 and so in front of the enabled
20: it is current although it is not the minimum. -/
theorem castVote_misplaced :
    ¬ SelectsExtremum .intMin (ValueComparator.intMin.params true fullNameHash)
      (misplacingCalls.foldl (callStep (ValueComparator.intMin.params true fullNameHash))
        (createElection (ValueComparator.intMin.params true fullNameHash))) := by
  decide +kernel

end GsKernel.Gvotable
