import GsKernel.Gvotable.Calls

/-!
# The ballot list

Lookup splits the list at the ballot it finds and insertion puts a ballot between two parts.
Recording a vote touches only the ballots and counters of the election (`BallotsOnly`); running it
and its callback touch only the result (`ResultOnly`).
-/

namespace GsKernel.Gvotable

open Lib.Strings List

variable {V : Type} {params : Params V} {ballot : Ballot V} {reason : CString}

/-- A lookup that succeeds splits the list at the first match. -/
lemma locateBallot_eq_some {votes front back : List (Ballot V)}
    (found : locateBallot params reason votes = some (front, ballot, back)) :
    votes = front ++ ballot :: back ∧ ballot.matches params reason = true := by
  induction votes generalizing front with
  | nil => exact absurd found nofun
  | cons first votes ih =>
    unfold locateBallot at found
    split_ifs at found with isMatch
    · obtain ⟨rfl, rfl, rfl⟩ : [] = front ∧ first = ballot ∧ votes = back := by simpa using found
      exact ⟨rfl, isMatch⟩
    · obtain ⟨⟨front', ballot', back'⟩, located, split⟩ := Option.map_eq_some_iff.mp found
      obtain ⟨rfl, rfl, rfl⟩ : first :: front' = front ∧ ballot' = ballot ∧ back' = back := by
        simpa using split
      obtain ⟨rfl, matched⟩ := ih located
      exact ⟨rfl, matched⟩

/-- A lookup fails exactly when no ballot matches. -/
lemma locateBallot_eq_none {votes : List (Ballot V)} : locateBallot params reason votes = none ↔
      ∀ ballot ∈ votes, ballot.matches params reason = false := by
  induction votes with
  | nil => simp [locateBallot]
  | cons first votes ih =>
    unfold locateBallot
    cases isMatch : first.matches params reason <;> simp [isMatch, ih]

/-- The loop of `gvotable_add_ballot` puts the ballot behind everything it does not order
before. -/
lemma insertBefore_split (ballot : Ballot V) (votes : List (Ballot V)) :
    ∃ front back, votes = front ++ back ∧
      (insertBefore params ballot votes).getD (votes ++ [ballot]) = front ++ ballot :: back ∧
      (∀ before ∈ front, ¬ params.cmp ballot.vote before.vote < 0) ∧
      ∀ tmp ∈ back.head?, params.cmp ballot.vote tmp.vote < 0 := by
  induction votes with
  | nil => exact ⟨[], [], rfl, rfl, by simp, by simp⟩
  | cons tmp votes ih =>
    unfold insertBefore
    split_ifs with ordered
    · exact ⟨[], tmp :: votes, rfl, rfl, by simp, by simpa using ordered⟩
    obtain ⟨front, back, split, placed, passed, ahead⟩ := ih
    refine ⟨tmp :: front, back, by rw [split]; rfl, ?_, ?_, ahead⟩
    · show _ = tmp :: (front ++ ballot :: back)
      rw [← placed]
      cases insertBefore params ballot votes <;> rfl
    · exact forall_mem_cons.mpr ⟨ordered, passed⟩

/-- `gvotable_add_ballot` puts the ballot between two parts of the list: an enabled
one behind everything it does not order before, a disabled one at the end. -/
lemma addBallot_votes (el : Election V) (ballot : Ballot V) (enabled : Bool) :
    ∃ front back, el.votes = front ++ back ∧
      (addBallot params el ballot enabled).votes = front ++ ballot :: back ∧
      (enabled = true → ∀ before ∈ front, ¬ params.cmp ballot.vote before.vote < 0) ∧
      (∀ tmp ∈ back.head?, enabled = true ∧ params.cmp ballot.vote tmp.vote < 0) := by
  unfold addBallot
  cases votes : el.votes with
  | nil => exact ⟨[], [], rfl, rfl, by simp, by simp⟩
  | cons first rest =>
    cases enabled with
    | false => exact ⟨first :: rest, [], by simp, rfl, by simp, by simp⟩
    | true =>
      obtain ⟨front, back, split, placed, passed, ahead⟩ :=
        insertBefore_split ballot (first :: rest)
      refine ⟨front, back, split, ?_, fun _ => passed, fun tmp head => ⟨rfl, ahead tmp head⟩⟩
      rw [← placed]
      cases inserted : insertBefore params ballot (first :: rest) <;> simp [inserted]

lemma addBallot_perm (el : Election V) (ballot : Ballot V) (enabled : Bool) :
    (addBallot params el ballot enabled).votes.Perm (ballot :: el.votes) := by
  obtain ⟨front, back, split, placed, _⟩ := @addBallot_votes V params el ballot enabled
  rw [split, placed]
  exact perm_middle

/-- The ballot that `gvotable_update_ballot` leaves when it succeeds. -/
def updatedBallot (params : Params V) (ballot : Ballot V) (vote : V) (enabled : Bool) : Ballot V :=
  { ballot with
    enabled := enabled, vote := vote, numVotes := ballot.numVotes + 1
    hasBuffer := params.useAlloc || ballot.hasBuffer }

/-- A ballot is updated, unless it needs a buffer and gets none. -/
lemma updateBallot_cases (params : Params V) (voteAlloc : Bool) (ballot : Ballot V) (vote : V)
    (enabled : Bool) :
    updateBallot params voteAlloc ballot vote enabled =
        (0, updatedBallot params ballot vote enabled) ∨
      (params.useAlloc = true ∧ ballot.hasBuffer = false ∧ voteAlloc = false) ∧
        updateBallot params voteAlloc ballot vote enabled =
          (-ENOMEM, { ballot with enabled := enabled }) := by
  unfold updateBallot updatedBallot
  cases params.useAlloc <;> cases ballot.hasBuffer <;> cases voteAlloc <;> simp

/-- What recording a vote may come to. `adds` is set when a reason without a ballot gets one,
as in a cast; the new vote is `value` of the old one. -/
inductive Recorded (params : Params V) (env : Env V) (el : Election V) (reason : CString)
    (adds : Bool) (value : V → V) (enabled : Bool) : Int × Election V → Prop
  | refused {code : Int} (absent : locateBallot params reason el.votes = none)
      (failed : code < 0) (why : adds = true → env.ballotAlloc = false) :
      Recorded params env el reason adds value enabled (code, el)
  | unbuffered (absent : locateBallot params reason el.votes = none) (adding : adds = true)
      (allocated : env.ballotAlloc = true) (copies : params.useAlloc = true)
      (full : env.voteAlloc = false) :
      Recorded params env el reason adds value enabled
        (-ENOMEM, { el with numVoters := el.numVoters + 1 })
  | entered (absent : locateBallot params reason el.votes = none) (adding : adds = true)
      (allocated : env.ballotAlloc = true) :
      Recorded params env el reason adds value enabled
        (0, addBallot params { el with numVoters := el.numVoters + 1 }
          (updatedBallot params (newBallot params reason) (value params.zeroVote) enabled) enabled)
  | moved {front back : List (Ballot V)} {ballot : Ballot V}
      (found : locateBallot params reason el.votes = some (front, ballot, back)) :
      Recorded params env el reason adds value enabled
        (0, addBallot params { el with votes := front ++ back }
          (updatedBallot params ballot (value ballot.vote) enabled) enabled)
  | disabled {front back : List (Ballot V)} {ballot : Ballot V}
      (found : locateBallot params reason el.votes = some (front, ballot, back))
      (off : enabled = false) :
      Recorded params env el reason adds value enabled (0, { el with
          votes := front ++ updatedBallot params ballot (value ballot.vote) enabled :: back })
  | lost {front back votes : List (Ballot V)} {ballot : Ballot V}
      (found : locateBallot params reason el.votes = some (front, ballot, back))
      (copies : params.useAlloc = true) (missing : ballot.hasBuffer = false) :
      Recorded params env el reason adds value enabled (-ENOMEM, { el with votes := votes })

lemma recorded_vote (params : Params V) (env : Env V) (el : Election V) (reason : CString)
    (vote : V) (enabled : Bool) :
    Recorded params env el reason true (fun _ => vote) enabled
      (recordVote params env el reason vote enabled) := by
  unfold recordVote
  cases located : locateBallot params reason el.votes with
  | none =>
    cases allocated : env.ballotAlloc with
    | false => exact .refused located (by decide) fun _ => allocated
    | true =>
      rcases updateBallot_cases params env.voteAlloc (newBallot params reason) vote enabled with
        updated | ⟨⟨copies, -, full⟩, updated⟩
      · dsimp only
        rw [updated]
        exact .entered located rfl allocated
      · dsimp only
        rw [updated]
        exact .unbuffered located rfl allocated copies full
  | some found =>
    obtain ⟨front, ballot, back⟩ := found
    rcases updateBallot_cases params env.voteAlloc ballot vote enabled with
      updated | ⟨⟨copies, missing, -⟩, updated⟩
    · dsimp only
      rw [updated]
      cases enabled with
      | true => exact .moved located
      | false => exact .disabled located rfl
    · dsimp only
      rw [updated]
      cases enabled <;> exact .lost located copies missing

lemma recorded_recast (params : Params V) (env : Env V) (el : Election V) (reason : CString)
    (enabled : Bool) : Recorded params env el reason false id enabled
      (recordRecast params env el reason enabled) := by
  unfold recordRecast
  cases located : locateBallot params reason el.votes with
  | none => exact .refused located (by decide) fun adds => absurd adds Bool.false_ne_true
  | some found =>
    obtain ⟨front, ballot, back⟩ := found
    rcases updateBallot_cases params env.voteAlloc ballot ballot.vote enabled with
      updated | ⟨⟨copies, missing, -⟩, updated⟩
    · dsimp only
      rw [updated]
      exact .moved located
    · dsimp only
      rw [updated]
      exact .lost located copies missing

section Frames

/-- Everything but the ballots and their counters is kept. -/
structure BallotsOnly (el next : Election V) : Prop where
  result : next.result = el.result
  reason : next.reason = el.reason
  resultIsValid : next.resultIsValid = el.resultIsValid
  defaultVote : next.defaultVote = el.defaultVote
  hasDefaultVote : next.hasDefaultVote = el.hasDefaultVote
  forceResult : next.forceResult = el.forceResult
  forceResultIsEnabled : next.forceResultIsEnabled = el.forceResultIsEnabled

/-- Everything but the result, its reason and its validity is kept. -/
structure ResultOnly (el next : Election V) : Prop where
  votes : next.votes = el.votes
  numVoters : next.numVoters = el.numVoters
  numVotes : next.numVotes = el.numVotes
  defaultVote : next.defaultVote = el.defaultVote
  hasDefaultVote : next.hasDefaultVote = el.hasDefaultVote
  forceResult : next.forceResult = el.forceResult
  forceResultIsEnabled : next.forceResultIsEnabled = el.forceResultIsEnabled

lemma ResultOnly.refl (el : Election V) : ResultOnly el el :=
  ⟨rfl, rfl, rfl, rfl, rfl, rfl, rfl⟩

lemma ResultOnly.trans {el middle next : Election V} (first : ResultOnly el middle)
    (second : ResultOnly middle next) : ResultOnly el next where
  votes := second.votes.trans first.votes
  numVoters := second.numVoters.trans first.numVoters
  numVotes := second.numVotes.trans first.numVotes
  defaultVote := second.defaultVote.trans first.defaultVote
  hasDefaultVote := second.hasDefaultVote.trans first.hasDefaultVote
  forceResult := second.forceResult.trans first.forceResult
  forceResultIsEnabled := second.forceResultIsEnabled.trans first.forceResultIsEnabled

variable (env : Env V) (el : Election V)

lemma ballotsOnly_addBallot {el next : Election V} (kept : BallotsOnly el next)
    (ballot : Ballot V) (enabled : Bool) :
    BallotsOnly el (addBallot params next ballot enabled) := by
  obtain ⟨result, reason, valid, default, inUse, forced, forcing⟩ := kept
  unfold addBallot
  split
  · exact ⟨result, reason, valid, default, inUse, forced, forcing⟩
  · split <;> exact ⟨result, reason, valid, default, inUse, forced, forcing⟩

lemma ballotsOnly_of_votes (votes : List (Ballot V)) (numVoters : BitVec 32) :
    BallotsOnly el { el with votes := votes, numVoters := numVoters } :=
  ⟨rfl, rfl, rfl, rfl, rfl, rfl, rfl⟩

lemma ballotsOnly_recorded {el : Election V} {reason : CString} {adds enabled : Bool}
    {value : V → V} {after : Int × Election V}
    (recorded : Recorded params env el reason adds value enabled after) :
    BallotsOnly el after.2 := by
  cases recorded with
  | refused => exact ballotsOnly_of_votes el el.votes el.numVoters
  | unbuffered => exact ballotsOnly_of_votes el el.votes _
  | entered => exact ballotsOnly_addBallot (ballotsOnly_of_votes el el.votes _) _ enabled
  | moved => exact ballotsOnly_addBallot (ballotsOnly_of_votes el _ el.numVoters) _ enabled
  | disabled | lost => exact ballotsOnly_of_votes el _ el.numVoters

lemma resultOnly_declareResult (reason : CString) (vote newResult : V) :
    ResultOnly el (declareResult params el reason vote newResult).2 := by
  unfold declareResult
  dsimp only
  split_ifs <;> exact ⟨rfl, rfl, rfl, rfl, rfl, rfl, rfl⟩

lemma resultOnly_internalRunElection : ResultOnly el (internalRunElection params el).2 := by
  cases forced : el.forceResultIsEnabled with
  | true => simpa only [internalRunElection_forced forced] using .refl el
  | false =>
    cases first : el.votes.find? (·.enabled) with
    | some ballot =>
      rw [internalRunElection_ballot forced first]
      exact resultOnly_declareResult el _ _ _
    | none =>
      by_cases inUse : el.hasDefaultVote = 1
      · rw [internalRunElection_default forced first inUse]
        exact resultOnly_declareResult el _ _ _
      · rw [internalRunElection_invalid forced first inUse]
        exact ⟨rfl, rfl, rfl, rfl, rfl, rfl, rfl⟩

lemma resultOnly_electionSetResult (reason : CString) (result : Option V) :
    ResultOnly el (electionSetResult params el reason result).2 := by
  unfold electionSetResult
  split_ifs <;> exact ⟨rfl, rfl, rfl, rfl, rfl, rfl, rfl⟩

lemma resultOnly_callback : ResultOnly el (callback params env el).2 := by
  unfold callback
  dsimp only
  induction env.callback.setResults generalizing el with
  | nil => exact .refl el
  | cons first rest ih =>
    exact (resultOnly_electionSetResult el first.1 first.2).trans (ih _)

lemma resultOnly_conclude (ret : Int) : ResultOnly el (conclude params env ret el).el := by
  have ran : ResultOnly el (internalRunElection params el).2 := resultOnly_internalRunElection el
  unfold conclude
  dsimp only
  split_ifs
  · exact ran.trans (resultOnly_callback env _)
  · exact ran

lemma resultOnly_settle (recorded : Int × Election V) :
    ResultOnly recorded.2 (settle params env recorded).el := by
  unfold settle
  split_ifs
  · exact .refl _
  · exact resultOnly_conclude env _ _

end Frames

/-- A callback that sets no result: `gvotable_election_set_result` works for elections
with the none comparator only. -/
def Quiet (params : Params V) (env : Env V) : Prop :=
  params.cmpIsNone = true → env.callback.setResults = []

lemma quiet_intParams {cmp : Ptr → Ptr → Int} {hasCallback : Bool} {hash : CString → BitVec 32}
    (env : Env Ptr) : Quiet (intParams cmp hasCallback hash) env :=
  fun none => absurd none Bool.false_ne_true

lemma callback_of_quiet {env : Env V} (quiet : Quiet params env) (el : Election V) :
    (callback params env el).2 = el := by
  unfold callback
  dsimp only
  cases none : params.cmpIsNone with
  | true => rw [quiet none, foldl_nil]
  | false =>
    induction env.callback.setResults with
    | nil => rfl
    | cons first rest ih =>
      have refused : (electionSetResult params el first.1 first.2).2 = el := by
        simp only [electionSetResult, none]
        split_ifs <;> rfl
      simpa only [foldl_cons, refused] using ih

lemma conclude_of_quiet {env : Env V} (quiet : Quiet params env) (el : Election V) (ret : Int) :
    (conclude params env ret el).el = (internalRunElection params el).2 := by
  unfold conclude
  dsimp only
  split_ifs
  · exact callback_of_quiet quiet _
  · rfl

/-- In an election that copies, every listed ballot has its buffer. -/
def Buffered (params : Params V) (votes : List (Ballot V)) : Prop :=
  params.useAlloc = true → ∀ ballot ∈ votes, ballot.hasBuffer = true

lemma Buffered.remove {front back : List (Ballot V)}
    (buffered : Buffered params (front ++ ballot :: back)) : Buffered params (front ++ back) :=
  fun copies listed mem => buffered copies listed
    ((Sublist.append_left (sublist_cons_self _ _) _).subset mem)

/-- An updated ballot has its buffer. -/
lemma Buffered.insert {votes others : List (Ballot V)} {vote : V}
    {enabled : Bool} (buffered : Buffered params others)
    (placed : votes.Perm (updatedBallot params ballot vote enabled :: others)) :
    Buffered params votes := by
  intro copies listed mem
  rcases mem_cons.mp (placed.mem_iff.mp mem) with rfl | old
  · simp [updatedBallot, copies]
  · exact buffered copies listed old

section Recording

variable {env : Env V} {el : Election V} {reason : CString} {adds enabled : Bool} {value : V → V}
  {after : Int × Election V}

/-- A ballot that is listed can be updated. -/
lemma Buffered.found {front back : List (Ballot V)} {ballot : Ballot V}
    (buffered : Buffered params el.votes)
    (found : locateBallot params reason el.votes = some (front, ballot, back))
    (copies : params.useAlloc = true) : ballot.hasBuffer = true := by
  obtain ⟨split, -⟩ := locateBallot_eq_some found
  exact buffered copies ballot (by simp [split])

/-- A vote that cannot be recorded leaves the list alone. -/
lemma Recorded.failed (recorded : Recorded params env el reason adds value enabled after)
    (buffered : Buffered params el.votes) (failed : after.1 < 0) : after.2.votes = el.votes := by
  cases recorded with
  | refused | unbuffered => rfl
  | entered | moved | disabled => exact absurd failed (Int.lt_irrefl 0)
  | lost found copies missing =>
    exact absurd ((buffered.found found copies).symm.trans missing) Bool.noConfusion

lemma Recorded.buffered (recorded : Recorded params env el reason adds value enabled after)
    (buffered : Buffered params el.votes) : Buffered params after.2.votes := by
  cases recorded with
  | refused | unbuffered => exact buffered
  | entered => exact buffered.insert (addBallot_perm _ _ _)
  | moved found =>
    rw [(locateBallot_eq_some found).1] at buffered
    exact buffered.remove.insert (addBallot_perm _ _ _)
  | disabled found =>
    rw [(locateBallot_eq_some found).1] at buffered
    exact buffered.remove.insert perm_middle
  | lost found copies missing =>
    exact absurd ((buffered.found found copies).symm.trans missing) Bool.noConfusion

end Recording

end GsKernel.Gvotable
