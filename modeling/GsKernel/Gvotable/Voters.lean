import GsKernel.Gvotable.Ballots

/-!
# One ballot per voter

The ballot list against a ledger that maps each reason to the vote and the flag of
the last cast or recast recorded for it. A stored reason is cut to 31 characters,
so a voter is found again exactly when its reason is shorter than the buffer.
-/

namespace GsKernel.Gvotable

open Function Lib.Strings List

variable {V : Type}

/-- For each reason, the vote and the flag recorded last. -/
abbrev Ledger (V : Type) := CString → Option (V × Bool)

/-- The list has one ballot for each entry of the ledger. -/
structure Records (params : Params V) (ledger : Ledger V) (votes : List (Ballot V)) : Prop where
  hashed : ∀ ballot ∈ votes, ballot.reasonHash = params.hash ballot.reason.toCString
  distinct : votes.Pairwise fun first second => first.reason.toCString ≠ second.reason.toCString
  listed : ∀ ballot ∈ votes, ledger ballot.reason.toCString = some (ballot.vote, ballot.enabled)
  complete : ∀ reason, ledger reason ≠ none → ∃ ballot ∈ votes, ballot.reason.toCString = reason

namespace Records

variable {params : Params V} {ledger : Ledger V} {votes others : List (Ballot V)}
  {ballot : Ballot V} {reason : CString}

section

variable (records : Records params ledger votes)
include records

lemma perm (same : others.Perm votes) : Records params ledger others where
  hashed := fun listed mem => records.hashed listed (same.mem_iff.mp mem)
  distinct := same.symm.pairwise records.distinct fun differ => Ne.symm differ
  listed := fun listed mem => records.listed listed (same.mem_iff.mp mem)
  complete := fun reason entered =>
    (records.complete reason entered).imp fun _ found => ⟨same.mem_iff.mpr found.1, found.2⟩

/-- A ballot of a recorded list is looked up by its reason alone. -/
lemma matches_iff (mem : ballot ∈ votes) :
    ballot.matches params reason = true ↔ ballot.reason.toCString = reason := by
  unfold Ballot.matches
  rw [decide_eq_true_eq, strncmp_buffer, records.hashed ballot mem]
  constructor
  · exact And.right
  · rintro rfl
    exact ⟨rfl, rfl⟩

lemma locate_none (absent : locateBallot params reason votes = none) : ledger reason = none := by
  by_contra entered
  obtain ⟨ballot, mem, rfl⟩ := records.complete reason entered
  have mismatch := locateBallot_eq_none.mp absent ballot mem
  exact Bool.false_ne_true (mismatch.symm.trans ((records.matches_iff mem).mpr rfl))

end

lemma locate_some {front back : List (Ballot V)} (records : Records params ledger votes)
    (found : locateBallot params reason votes = some (front, ballot, back)) :
    ballot.reason.toCString = reason ∧ votes.Perm (ballot :: (front ++ back)) ∧
      ledger reason = some (ballot.vote, ballot.enabled) := by
  obtain ⟨split, isMatch⟩ := locateBallot_eq_some found
  have mem : ballot ∈ votes := by simp [split]
  have same := (records.matches_iff mem).mp isMatch
  exact ⟨same, split ▸ perm_middle, same ▸ records.listed ballot mem⟩

/-- Putting the ballot of a reason in front of the ballots of the other reasons enters
its vote and flag in the ledger. -/
lemma enter (hashed : ∀ other ∈ others, other.reasonHash = params.hash other.reason.toCString)
    (distinct : others.Pairwise fun first second =>
      first.reason.toCString ≠ second.reason.toCString)
    (listed : ∀ other ∈ others, ledger other.reason.toCString = some (other.vote, other.enabled))
    (complete : ∀ reason, reason ≠ ballot.reason.toCString → ledger reason ≠ none →
      ∃ other ∈ others, other.reason.toCString = reason)
    (fresh : ∀ other ∈ others, other.reason.toCString ≠ ballot.reason.toCString)
    (ownHash : ballot.reasonHash = params.hash ballot.reason.toCString) :
    Records params (update ledger ballot.reason.toCString (some (ballot.vote, ballot.enabled)))
      (ballot :: others) where
  hashed := forall_mem_cons.mpr ⟨ownHash, hashed⟩
  distinct := pairwise_cons.mpr ⟨fun other mem => (fresh other mem).symm, distinct⟩
  listed := by
    refine forall_mem_cons.mpr ⟨update_self .., ?_⟩
    intro other mem
    rw [update_of_ne (fresh other mem)]
    exact listed other mem
  complete := by
    intro reason entered
    by_cases own : reason = ballot.reason.toCString
    · exact ⟨ballot, by simp, own.symm⟩
    · rw [update_of_ne own] at entered
      obtain ⟨other, mem, same⟩ := complete reason own entered
      exact ⟨other, mem_cons_of_mem _ mem, same⟩

/-- A ballot for a reason without one. -/
lemma insert (records : Records params ledger votes)
    (absent : ledger ballot.reason.toCString = none)
    (ownHash : ballot.reasonHash = params.hash ballot.reason.toCString) :
    Records params (update ledger ballot.reason.toCString (some (ballot.vote, ballot.enabled)))
      (ballot :: votes) := by
  refine enter records.hashed records.distinct records.listed
    (fun reason _ => records.complete reason) ?_ ownHash
  intro other mem same
  have entered := records.listed other mem
  rw [same, absent] at entered
  exact absurd entered nofun

/-- A new vote and flag for a reason that has a ballot. -/
lemma replace {old : Ballot V} (records : Records params ledger (old :: others))
    (sameReason : ballot.reason = old.reason) (sameHash : ballot.reasonHash = old.reasonHash) :
    Records params (update ledger ballot.reason.toCString (some (ballot.vote, ballot.enabled)))
      (ballot :: others) := by
  obtain ⟨differ, distinct⟩ := pairwise_cons.mp records.distinct
  obtain ⟨ownHash, hashed⟩ := forall_mem_cons.mp records.hashed
  refine enter hashed distinct (forall_mem_cons.mp records.listed).2 ?_ ?_ ?_
  · intro reason other entered
    obtain ⟨found, mem, rfl⟩ := records.complete reason entered
    rcases mem_cons.mp mem with rfl | inOthers
    · exact absurd (congrArg Buffer.toCString sameReason.symm) other
    · exact ⟨found, inOthers, rfl⟩
  · intro other mem
    rw [sameReason]
    exact (differ other mem).symm
  · rw [sameHash, sameReason, ownHash]

end Records

/-- What a call enters in the ledger: a cast or recast that is not refused. -/
def ledgerStep (params : Params V) (ledger : Ledger V) (step : Env V × Call V) : Ledger V :=
  match step.2 with
  | .castVote reason vote enabled =>
    if reason.chars = [] ∨ (params.useAlloc = true ∧ vote = none) ∨
        ((ledger reason).isNone = true ∧ step.1.ballotAlloc = false) then ledger
    else update ledger reason (some (castValue params vote enabled, enabled))
  | .recastBallot reason enabled =>
    match ledger reason with
    | none => ledger
    | some (vote, _) => update ledger reason (some (vote, enabled))
  | _ => ledger

/-- A recast, or a cast with a reason that fits its buffer for which a vote buffer can
be allocated. -/
def OrdinaryVote (params : Params V) (step : Env V × Call V) : Prop :=
  match step.2 with
  | .castVote reason _ _ =>
    reason.chars.length < GVOTABLE_MAX_REASON_LEN ∧
      (params.useAlloc = true → step.1.voteAlloc = true)
  | .recastBallot _ _ => True
  | _ => False

/-- The election keeps the ledger, and counts its voters. -/
structure Keeps (params : Params V) (ledger : Ledger V) (el : Election V) : Prop where
  records : Records params ledger el.votes
  counted : el.numVoters = BitVec.ofNat 32 el.votes.length
  buffered : Buffered params el.votes

/-- What `gvotable_get_vote` answers for an entry of the ledger. -/
def entryVote (params : Params V) : Option (V × Bool) → Except Int (Option V)
  | none => if params.isBoolType then .ok none else .error (-ENODEV)
  | some (vote, enabled) =>
    if params.isBoolType = false ∧ enabled = false then .error (-EINVAL) else .ok (some vote)

/-- What `gvotable_is_enabled` answers for an entry of the ledger. -/
def entryEnabled : Option (V × Bool) → Except Int Bool
  | none => .error (-ENODEV)
  | some (_, enabled) => .ok enabled

section Steps

variable {params : Params V} {ledger : Ledger V} {env : Env V} {el next : Election V}
  {reason : CString}

section

variable (keeps : Keeps params ledger el)
include keeps

lemma Keeps.getVote (reason : CString) :
    getVote params el reason = entryVote params (ledger reason) := by
  unfold Gvotable.getVote
  cases located : locateBallot params reason el.votes with
  | none => rw [keeps.records.locate_none located]; rfl
  | some found => rw [(keeps.records.locate_some located).2.2]; rfl

lemma Keeps.isEnabled (reason : CString) :
    isEnabled params el reason = entryEnabled (ledger reason) := by
  unfold Gvotable.isEnabled
  cases located : locateBallot params reason el.votes with
  | none => rw [keeps.records.locate_none located]; rfl
  | some found => rw [(keeps.records.locate_some located).2.2]; rfl

lemma Keeps.resultOnly (kept : ResultOnly el next) : Keeps params ledger next where
  records := kept.votes ▸ keeps.records
  counted := by rw [kept.numVoters, kept.votes, keeps.counted]
  buffered := kept.votes ▸ keeps.buffered

end

lemma addBallot_numVoters (ballot : Ballot V) (enabled : Bool) :
    (addBallot params el ballot enabled).numVoters = el.numVoters := by
  unfold addBallot
  split
  · rfl
  · split <;> rfl

section

variable (keeps : Keeps params ledger el)
include keeps

/-- Recording a vote for a reason with a ballot enters it. -/
lemma Keeps.replace {ballot : Ballot V} {others : List (Ballot V)}
    (updated : Ballot V) (split : el.votes.Perm (ballot :: others))
    (placed : next.votes.Perm (updated :: others)) (sameVoters : next.numVoters = el.numVoters)
    (sameReason : updated.reason = ballot.reason)
    (sameHash : updated.reasonHash = ballot.reasonHash) (buffered : Buffered params next.votes) :
    Keeps params (update ledger updated.reason.toCString (some (updated.vote, updated.enabled)))
      next where
  records := ((keeps.records.perm split.symm).replace sameReason sameHash).perm placed
  counted := by
    rw [sameVoters, keeps.counted, split.length_eq, placed.length_eq]
    rfl
  buffered := buffered

/-- Recording a vote for a new reason enters it and counts the voter. -/
lemma Keeps.insert (ballot : Ballot V)
    (placed : next.votes.Perm (ballot :: el.votes)) (oneMore : next.numVoters = el.numVoters + 1)
    (absent : ledger ballot.reason.toCString = none)
    (hashed : ballot.reasonHash = params.hash ballot.reason.toCString)
    (buffered : Buffered params next.votes) :
    Keeps params (update ledger ballot.reason.toCString (some (ballot.vote, ballot.enabled)))
      next where
  records := (keeps.records.insert absent hashed).perm placed
  counted := by
    rw [oneMore, keeps.counted, placed.length_eq, length_cons, BitVec.ofNat_add]
    rfl
  buffered := buffered

/-- What is recorded for a reason is entered in the ledger. -/
lemma keeps_recorded {adds enabled : Bool} {value : V → V} {after : Int × Election V}
    (recorded : Recorded params env el reason adds value enabled after)
    (short : adds = true → reason.chars.length < GVOTABLE_MAX_REASON_LEN)
    (room : adds = true → params.useAlloc = true → env.voteAlloc = true) :
    Keeps params (match ledger reason with
        | none =>
          if adds && env.ballotAlloc then
            update ledger reason (some (value params.zeroVote, enabled))
          else ledger
        | some (vote, _) => update ledger reason (some (value vote, enabled)))
      after.2 := by
  have buffered := recorded.buffered keeps.buffered
  cases recorded with
  | refused absent failed why =>
    rw [keeps.records.locate_none absent]
    cases adds with
    | false => exact keeps
    | true => simpa [why rfl] using keeps
  | unbuffered absent adding allocated copies full =>
    exact absurd (full.symm.trans (room adding copies)) Bool.false_ne_true
  | entered absent adding allocated =>
    have entry := keeps.records.locate_none absent
    have stored : (strlcpy reason GVOTABLE_MAX_REASON_LEN).toCString = reason :=
      strlcpy_of_fits (short adding)
    have entered := keeps.insert
      (updatedBallot params (newBallot params reason) (value params.zeroVote) enabled)
      (addBallot_perm { el with numVoters := el.numVoters + 1 } _ _) (addBallot_numVoters _ _)
      (stored.symm ▸ entry) (congrArg params.hash stored.symm) buffered
    simpa [entry, adding, allocated, updatedBallot, newBallot, stored] using entered
  | moved found =>
    obtain ⟨rfl, split, entry⟩ := keeps.records.locate_some found
    rw [entry]
    exact keeps.replace (updatedBallot params _ _ enabled) split (addBallot_perm _ _ _)
      (addBallot_numVoters _ _) rfl rfl buffered
  | disabled found =>
    obtain ⟨rfl, split, entry⟩ := keeps.records.locate_some found
    rw [entry]
    exact keeps.replace (updatedBallot params _ _ enabled) split perm_middle rfl rfl rfl
      buffered
  | lost found copies missing =>
    exact absurd ((keeps.buffered.found found copies).symm.trans missing) Bool.noConfusion

/-- The ballots keep up with the ledger. -/
lemma keeps_callStep {step : Env V × Call V} (ordinary : OrdinaryVote params step) :
    Keeps params (ledgerStep params ledger step) (callStep params el step) := by
  obtain ⟨env, call⟩ := step
  cases call with
  | castVote reason vote enabled =>
    simp only [callStep, Call.run, castVote, ledgerStep]
    by_cases empty : reason.chars = []
    · simpa [empty] using keeps
    by_cases missing : params.useAlloc = true ∧ vote = none
    · simpa [empty, missing] using keeps
    have kept := keeps_recorded keeps (recorded_vote params env el reason
      (castValue params vote enabled) enabled) (fun _ => ordinary.1) fun _ => ordinary.2
    simp only [empty, missing, if_false, false_or, Outcome.afterLock]
    refine Keeps.resultOnly ?_ (resultOnly_settle env _)
    cases entry : ledger reason <;> cases allocated : env.ballotAlloc <;>
      simpa [entry, allocated] using kept
  | recastBallot reason enabled =>
    have kept := keeps_recorded keeps (recorded_recast params env el reason enabled)
      (absurd · Bool.false_ne_true) (absurd · Bool.false_ne_true)
    refine Keeps.resultOnly ?_ (resultOnly_settle env _)
    simpa [ledgerStep] using kept
  | _ => exact absurd ordinary id

end

lemma keeps_of_empty (empty : el.votes = []) (uncounted : el.numVoters = 0) :
    Keeps params (fun _ => none) el where
  records := by
    rw [empty]
    exact ⟨nofun, .nil, nofun, fun _ entered => absurd rfl entered⟩
  counted := by rw [uncounted, empty]; rfl
  buffered := by
    rw [empty]
    exact fun _ => nofun

lemma keeps_created : Keeps params (fun _ => none) (created params) := by
  unfold created
  split
  · exact keeps_of_empty (resultOnly_internalRunElection _).votes
      (resultOnly_internalRunElection _).numVoters
  · exact keeps_of_empty rfl rfl

end Steps

/-- After every run of casts and recasts with reasons that fit their buffer, and vote
buffers that can be allocated: no two ballots are of one reason, the voters are
counted, and the answers for every reason are those of its last recorded vote. -/
theorem voters_foldl (params : Params V) (calls : List (Env V × Call V))
    (ordinary : ∀ step ∈ calls, OrdinaryVote params step) :
    let el := calls.foldl (callStep params) (created params)
    let ledger := calls.foldl (ledgerStep params) fun _ => none
    el.votes.Pairwise (fun first second => first.reason.toCString ≠ second.reason.toCString) ∧
    el.numVoters = BitVec.ofNat 32 el.votes.length ∧
    ∀ reason, getVote params el reason = entryVote params (ledger reason) ∧
      isEnabled params el reason = entryEnabled (ledger reason) := by
  have keeps : Keeps params (calls.foldl (ledgerStep params) fun _ => none)
      (calls.foldl (callStep params) (created params)) := by
    induction calls using reverseRecOn with
    | nil => exact keeps_created
    | append_singleton calls step ih =>
      rw [foldl_concat, foldl_concat]
      rw [forall_mem_append] at ordinary
      exact keeps_callStep (ih ordinary.1) (ordinary.2 step (by simp))
  exact ⟨keeps.records.distinct, keeps.counted, fun reason =>
    ⟨keeps.getVote reason, keeps.isEnabled reason⟩⟩

/-- A voter votes, and votes again with another value, disabled. -/
def withdrawingCalls : List (Env Ptr × Call Ptr) :=
  [(quietEnv, .castVote voterA (some 5) true), (quietEnv, .castVote voterA (some 7) false)]

/-- The second vote acts on the ballot of the first: one voter, flag off. -/
theorem voters_withdraw :
    let el := withdrawingCalls.foldl (callStep exampleParams) (created exampleParams)
    el.numVoters = BitVec.ofNat 32 el.votes.length ∧ isEnabled exampleParams el voterA =
        entryEnabled (withdrawingCalls.foldl (ledgerStep exampleParams) (fun _ => none) voterA) := by
  have ordinary : ∀ step ∈ withdrawingCalls, OrdinaryVote exampleParams step := by
    rintro step (_ | ⟨_, _ | ⟨_, ⟨⟩⟩⟩) <;> exact ⟨by decide, fun _ => rfl⟩
  have voters := voters_foldl exampleParams withdrawingCalls ordinary
  exact ⟨voters.2.1, (voters.2.2 voterA).2⟩

/-- A reason as long as its buffer. -/
def longVoter : CString := ⟨replicate 32 65, by decide +kernel⟩

/-- An election that copies its votes. -/
def copyingParams : Params Ptr :=
  { exampleParams with useAlloc := true }

/-- `gvotable_get_vote` refuses the disabled vote; a voter whose reason fills the buffer
gets a second ballot; and a vote whose buffer cannot be allocated is counted. -/
theorem voters_exceptions : getVote exampleParams
      (withdrawingCalls.foldl (callStep exampleParams) (created exampleParams)) voterA =
        .error (-EINVAL) ∧
    (let calls := [(quietEnv, Call.castVote longVoter (some 1) true),
      (quietEnv, .castVote longVoter (some 2) true)]
    (calls.foldl (callStep exampleParams) (created exampleParams)).votes.map (·.reasonHash) =
      [fullNameHash longVoter, fullNameHash longVoter]) ∧
    (let el := callStep copyingParams (created copyingParams)
      (⟨true, false, ⟨0, []⟩⟩, .castVote voterA (some 1) true)
    el.numVoters = 1 ∧ el.votes = []) := by
  decide +kernel

end GsKernel.Gvotable
