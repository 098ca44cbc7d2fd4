import GsKernel.Lib.Strings
import GsKernel.Lib.Errno

/-!
# Elections and their ballots

The data of `gvotable.c` and the functions that work on it under the locks. Votes are of an
arbitrary type `V`: the `void *` itself where `useAlloc` is unset, and the bytes it leads to where
elections copy. `auto_callback` is always set and a ballot keeps one vote (`VOTES_HISTORY_DEPTH`
is 1), so neither `auto_callback` nor `idx` has a field.
-/

namespace GsKernel.Gvotable

open Lib.Strings

def GVOTABLE_MAX_REASON_LEN : Nat := 32

instance : NeZero GVOTABLE_MAX_REASON_LEN := ⟨by decide⟩

/-- `char reason[GVOTABLE_MAX_REASON_LEN]`. -/
abbrev StoredReason := Buffer GVOTABLE_MAX_REASON_LEN

/-- A `void *`. -/
abbrev Ptr := BitVec 64

/-- `default_reason`, "Default". -/
def defaultReason : CString := ⟨[68, 101, 102, 97, 117, 108, 116], by decide +kernel⟩

/-- The empty reason of an election without a result. -/
def nullReason : StoredReason := ⟨⟨[], by simp⟩, by decide⟩

section Comparators

/-- The `int` a comparator reads from a vote of an int election. -/
def ptrToInt (vote : Ptr) : Int := (vote.setWidth 32).toInt

/-- The `unsigned int` a comparator reads from a vote. -/
def ptrToUint (vote : Ptr) : Nat := (vote.setWidth 32).toNat

/-- `gvotable_comparator_uint_max`. -/
def comparatorUintMax (l r : Ptr) : Int :=
  if ptrToUint l > ptrToUint r then 1 else if ptrToUint l < ptrToUint r then -1 else 0

/-- `gvotable_comparator_int`. -/
def comparatorInt (l r : Ptr) : Int :=
  if ptrToInt l > ptrToInt r then 1 else if ptrToInt l < ptrToInt r then -1 else 0

/-- `gvotable_comparator_int_max`. -/
def comparatorIntMax (a b : Ptr) : Int := -comparatorInt a b

/-- `gvotable_comparator_int_min`. -/
def comparatorIntMin (a b : Ptr) : Int := comparatorInt a b

/-- `gvotable_comparator_uint_min`. -/
def comparatorUintMin (a b : Ptr) : Int := -comparatorUintMax a b

/-- `gvotable_comparator_most_recent`, also used for bool and none elections. -/
def comparatorMostRecent {V : Type} (_ _ : V) : Int := -1

/-- `gvotable_comparator_least_recent`. -/
def comparatorLeastRecent {V : Type} (_ _ : V) : Int := 1

end Comparators

/-- What does not change over the life of an election. `hash` is `full_name_hash`, `deref` the
vote a default pointer stands for, `zeroVote` the NULL vote, or the zeroed buffer when votes are
copied. `cmpIsNone` is set for `gvotable_comparator_none`. Bool elections have a comparator that
never finds two votes equal. -/
structure Params (V : Type) where
  cmp : V → V → Int
  cmpIsNone : Bool
  useAlloc : Bool
  isBoolType : Bool
  hasCallback : Bool
  hash : CString → BitVec 32
  deref : Ptr → V
  zeroVote : V
  boolVote : Bool → V
  boolCompares : isBoolType = true → cmp = comparatorMostRecent
  noneCompares : cmpIsNone = true → cmp = comparatorMostRecent

/-- The parameters of an election made by `gvotable_create_int_election` with a
comparator of its own: votes are small enough to be kept in the pointer. -/
def intParams (cmp : Ptr → Ptr → Int) (hasCallback : Bool) (hash : CString → BitVec 32) :
    Params Ptr where
  cmp := cmp
  cmpIsNone := false
  useAlloc := false
  isBoolType := false
  hasCallback := hasCallback
  hash := hash
  deref := id
  zeroVote := 0
  boolVote := fun enabled => if enabled then 1 else 0
  boolCompares := nofun
  noneCompares := nofun

@[simp]
lemma intParams_zeroVote (cmp : Ptr → Ptr → Int) (hasCallback : Bool)
    (hash : CString → BitVec 32) : (intParams cmp hasCallback hash).zeroVote = 0 := rfl

/-- The byte-wise `full_name_hash` with no salt, for concrete elections. -/
def fullNameHash (name : CString) : BitVec 32 :=
  let hash : BitVec 64 := name.chars.foldl (fun hash c =>
    (hash + BitVec.ofNat 64 (c.toNat * 16) + BitVec.ofNat 64 (c.toNat / 16)) * 11) 0
  (hash * 0x61C8864680B583EB).extractLsb' 32 32

/-- `struct ballot`; `hasBuffer` is set once a copying ballot owns a buffer. -/
structure Ballot (V : Type) where
  enabled : Bool
  reasonHash : BitVec 32
  reason : StoredReason
  vote : V
  hasBuffer : Bool
  numVotes : BitVec 32
deriving DecidableEq

/-- The part of `struct gvotable_election` that changes. -/
structure Election (V : Type) where
  votes : List (Ballot V)
  numVoters : BitVec 32
  numVotes : BitVec 32
  result : V
  reason : StoredReason
  resultIsValid : Bool
  defaultVote : Ptr
  hasDefaultVote : Int
  forceResult : Ptr
  forceResultIsEnabled : Bool
deriving DecidableEq

variable {V : Type} (params : Params V)

/-- `gvotable_create_election`: no ballots, no result, no default. -/
def createElection : Election V where
  votes := []
  numVoters := 0
  numVotes := 0
  result := params.zeroVote
  reason := nullReason
  resultIsValid := false
  defaultVote := 0
  hasDefaultVote := -1
  forceResult := 0
  forceResultIsEnabled := false

/-- Whether there is no result yet, or its reason is another one. -/
def Election.reasonDiffers (el : Election V) (reason : CString) : Bool :=
  !el.resultIsValid || decide (strncmp el.reason.toCString reason GVOTABLE_MAX_REASON_LEN ≠ 0)

/-- Update reason and result when they differ, as `gvotable_internal_run_election`
does both for a ballot and for the default vote. The comparison is with `vote`,
the new result is `newResult`. -/
def declareResult (el : Election V) (reason : CString) (vote newResult : V) : Bool × Election V :=
  let reasonDiffers := el.reasonDiffers reason
  let el := if reasonDiffers then { el with reason := strlcpy reason GVOTABLE_MAX_REASON_LEN }
    else el
  if reasonDiffers || decide (params.cmp el.result vote ≠ 0) then
    (true, { el with result := newResult, resultIsValid := true })
  else (false, { el with resultIsValid := true })

/-- `gvotable_internal_run_election`: whether the callback has to be called. -/
def internalRunElection (el : Election V) : Bool × Election V :=
  if el.forceResultIsEnabled then (false, el)
  else
    match el.votes.find? (·.enabled) with
    | some ballot =>
      let newResult := if params.isBoolType then params.boolVote true else ballot.vote
      let (callbackRequired, el) := declareResult params el ballot.reason.toCString ballot.vote
        newResult
      (callbackRequired && params.hasCallback, el)
    | none =>
      if el.hasDefaultVote = 1 then
        let vote := params.deref el.defaultVote
        let (callbackRequired, el) := declareResult params el defaultReason vote vote
        (callbackRequired && params.hasCallback, el)
      else
        (el.resultIsValid && params.hasCallback,
          { el with resultIsValid := false, reason := nullReason })

section RunElection

variable {params} {el : Election V}

lemma declareResult_valid (reason : CString) (vote newResult : V) :
    (declareResult params el reason vote newResult).2.resultIsValid = true := by
  unfold declareResult
  dsimp only
  split_ifs <;> rfl

/-- The reason is always the one declared: it is left alone only when it is equal. -/
lemma declareResult_reason (reason : CString) (vote newResult : V) :
    (declareResult params el reason vote newResult).2.reason =
      strlcpy reason GVOTABLE_MAX_REASON_LEN := by
  unfold declareResult
  cases differs : el.reasonDiffers reason with
  | true => simp
  | false =>
    have equal : el.reason.toCString = reason := by
      rw [← strncmp_buffer]
      simpa using (Bool.or_eq_false_iff.mp differs).2
    rw [← equal, strlcpy_buffer]
    dsimp only [Bool.false_or]
    split_ifs <;> rfl

/-- The result is the one declared, unless the comparator finds the old one equal to
the vote. -/
lemma declareResult_result (reason : CString) (vote newResult : V) :
    (declareResult params el reason vote newResult).2.result = newResult ∨
      (declareResult params el reason vote newResult).2.result = el.result ∧
        params.cmp el.result vote = 0 := by
  unfold declareResult
  cases el.reasonDiffers reason with
  | true => exact Or.inl (by simp)
  | false =>
    by_cases equal : params.cmp el.result vote = 0
    · exact Or.inr ⟨by simp [equal], equal⟩
    · exact Or.inl (by simp [equal])

lemma internalRunElection_forced (forced : el.forceResultIsEnabled = true) :
    internalRunElection params el = (false, el) := by
  rw [internalRunElection, if_pos forced]

section

variable (unforced : el.forceResultIsEnabled = false)
include unforced

lemma internalRunElection_ballot {ballot : Ballot V}
    (first : el.votes.find? (·.enabled) = some ballot) :
    (internalRunElection params el).2 = (declareResult params el ballot.reason.toCString ballot.vote
      (if params.isBoolType then params.boolVote true else ballot.vote)).2 := by
  simp only [internalRunElection, unforced, Bool.false_eq_true, if_false, first]

lemma internalRunElection_default
    (disabled : el.votes.find? (·.enabled) = none) (inUse : el.hasDefaultVote = 1) :
    (internalRunElection params el).2 = (declareResult params el defaultReason
      (params.deref el.defaultVote) (params.deref el.defaultVote)).2 := by
  simp only [internalRunElection, unforced, Bool.false_eq_true, if_false, disabled, if_pos inUse]

lemma internalRunElection_invalid
    (disabled : el.votes.find? (·.enabled) = none) (unused : el.hasDefaultVote ≠ 1) :
    (internalRunElection params el).2 = { el with resultIsValid := false, reason := nullReason } := by
  simp only [internalRunElection, unforced, Bool.false_eq_true, if_false, disabled, if_neg unused]

end

end RunElection

/-- `gvotable_create_bool_election`: the default is FALSE and the result starts as
the default. -/
def createBoolElection : Election V :=
  (internalRunElection { params with isBoolType := false, boolCompares := nofun }
    { createElection params with defaultVote := 0, hasDefaultVote := 1 }).2

/-- The election of `gvotable_create_election` or `gvotable_create_bool_election`. -/
def created : Election V :=
  if params.isBoolType then createBoolElection params else createElection params

/-- `gvotable_get_current_result_unlocked`: the current vote, as
`gvotable_get_current_vote` returns it, or an error. -/
def getCurrentVote (el : Election V) : Except Int V :=
  if el.forceResultIsEnabled then .ok (params.deref el.forceResult)
  else if el.resultIsValid then .ok el.result
  else .error (-EAGAIN)

/-- Whether a ballot is the one `gvotable_ballot_find_internal` looks for. -/
def Ballot.matches (reason : CString) (ballot : Ballot V) : Bool :=
  decide (params.hash reason = ballot.reasonHash ∧
    strncmp ballot.reason.toCString reason GVOTABLE_MAX_REASON_LEN = 0)

/-- `gvotable_ballot_find_internal`, with the ballots before and after the one found. -/
def locateBallot (reason : CString) :
    List (Ballot V) → Option (List (Ballot V) × Ballot V × List (Ballot V))
  | [] => none
  | ballot :: rest =>
    if ballot.matches params reason then some ([], ballot, rest)
    else (locateBallot reason rest).map fun (front, found, back) => (ballot :: front, found, back)

/-- `gvotable_update_ballot`; `voteAlloc` is whether `kzalloc` of a vote buffer
succeeds. -/
def updateBallot (voteAlloc : Bool) (ballot : Ballot V) (vote : V) (enabled : Bool) :
    Int × Ballot V :=
  let ballot := { ballot with enabled := enabled }
  if params.useAlloc = false then
    (0, { ballot with vote := vote, numVotes := ballot.numVotes + 1 })
  else if ballot.hasBuffer = false ∧ voteAlloc = false then (-ENOMEM, ballot)
  else
    (0, { ballot with hasBuffer := true, vote := vote, numVotes := ballot.numVotes + 1 })

/-- The loop of `gvotable_add_ballot`: in front of the first ballot, enabled or not,
that the new vote orders before. -/
def insertBefore (ballot : Ballot V) : List (Ballot V) → Option (List (Ballot V))
  | [] => none
  | tmp :: rest =>
    if params.cmp ballot.vote tmp.vote < 0 then some (ballot :: tmp :: rest)
    else (insertBefore ballot rest).map (tmp :: ·)

/-- `gvotable_add_ballot`. -/
def addBallot (el : Election V) (ballot : Ballot V) (enabled : Bool) : Election V :=
  match el.votes with
  | [] => { el with votes := [ballot] }
  | votes =>
    match (if enabled then insertBefore params ballot votes else none) with
    | some votes => { el with votes := votes }
    | none => { el with votes := votes ++ [ballot], numVotes := el.numVotes + 1 }

end GsKernel.Gvotable
