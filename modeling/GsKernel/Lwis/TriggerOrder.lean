import GsKernel.Lwis.TriggerJudgement

/-!
# The order of the nodes of a level-triggered condition

An event at its counter overwrites the flag to queue immediately, and the test for the last node
is made on whichever node completes the count. What an order of the nodes leads to, and for which
nodes every order leads to the same decision.
-/

namespace GsKernel.Lwis

open Tally List

variable {replies : SubmitReplies} {info : TransactionInfo}

/-! ## What an order of the states leads to -/

/-- How many nodes of a list count. -/
def signaledNodes (states : List NodeState) : Nat := states.countP (· ≠ .waiting)

@[simp] lemma signaledNodes_append (states : List NodeState) (state : NodeState) :
    signaledNodes (states ++ [state]) =
      signaledNodes states + if state = .waiting then 0 else 1 := by
  cases state <;> simp [signaledNodes]

lemma signaledNodes_le (states : List NodeState) : signaledNodes states ≤ states.length :=
  countP_le_length

variable {states : List NodeState}

lemma signaledNodes_eq (none : .waiting ∉ states) : signaledNodes states = states.length :=
  countP_eq_length.mpr fun _ mem => decide_eq_true fun same => none (same ▸ mem)

lemma signaledNodes_lt (some : .waiting ∈ states) : signaledNodes states < states.length := by
  refine lt_of_le_of_ne (signaledNodes_le states) fun equal => ?_
  have counted := countP_eq_length.mp equal _ some
  simp at counted

variable {operator : TriggerOperator} {all : Nat} {queue : Bool} {states : List NodeState}

lemma foldl_count (states : List NodeState) :
    (states.foldl (add operator all) ⟨0, queue, false⟩).count = signaledNodes states := by
  induction states using reverseRecOn with
  | nil => rfl
  | append_singleton states state ih =>
    cases state <;> simp [add, ih]

/-- With the operator AND any failed fence cancels. -/
lemma and_cancelled (states : List NodeState) :
    (states.foldl (add .and all) ⟨0, queue, false⟩).cancelled = decide (.failed ∈ states) := by
  induction states using reverseRecOn with
  | nil => rfl
  | append_singleton states state ih =>
    cases state <;> simp [add, ih]

/-- What a node that is not the last one to count does to the fields. -/
def Tally.note (operator : TriggerOperator) (tally : Tally) : NodeState → Tally
  | .waiting => tally
  | .reached => ⟨tally.count + 1, operator ≠ .and, tally.cancelled⟩
  | .signaled => ⟨tally.count + 1, tally.queue || operator == .or, tally.cancelled⟩
  | .failed =>
    ⟨tally.count + 1, tally.queue || operator == .and, tally.cancelled || operator == .and⟩

section

variable (below : signaledNodes states < all)
include below

/-- While some node waits, no node is the last one to count. -/
lemma foldl_note : states.foldl (add operator all) ⟨0, queue, false⟩ =
      states.foldl (note operator) ⟨0, queue, false⟩ := by
  induction states using reverseRecOn with
  | nil => rfl
  | append_singleton states state ih =>
    rw [signaledNodes_append] at below
    have counted : (states.foldl (add operator all) ⟨0, queue, false⟩).count =
        signaledNodes states := foldl_count states
    rw [foldl_append, foldl_append, ← ih (by omega)]
    cases state with
    | waiting => rfl
    | reached | signaled | failed =>
      have early : (signaledNodes states + 1 == all) = false := by
        rw [if_neg (by decide)] at below
        simpa using below.ne
      simp [add, note, counted, early]

/-- While some node waits, the last of the events and the failed fences decides about the flag
of an AND. -/
lemma and_waiting : (.reached ∉ states → (states.foldl (add .and all) ⟨0, queue, false⟩).queue =
      (queue || decide (.failed ∈ states))) ∧
    (.failed ∉ states → .reached ∈ states →
      (states.foldl (add .and all) ⟨0, queue, false⟩).queue = false) := by
  rw [foldl_note below]
  clear below
  induction states using reverseRecOn with
  | nil => simp
  | append_singleton states state ih => cases state <;> simp_all [note]

/-- While some node waits, an OR is never cancelled and queued for satisfied nodes only. -/
lemma or_waiting : (states.foldl (add .or all) ⟨0, queue, false⟩).cancelled = false ∧
    (states.foldl (add .or all) ⟨0, queue, false⟩).queue =
      (queue || decide (.reached ∈ states ∨ .signaled ∈ states)) := by
  rw [foldl_note below]
  clear below
  induction states using reverseRecOn with
  | nil => simp
  | append_singleton states state ih => cases state <;> simp_all [note]

end

lemma judgeNodes_append (states : List NodeState) (state : NodeState) :
    judgeNodes operator queue (states ++ [state]) =
      (states.foldl (add operator (states.length + 1)) ⟨0, queue, false⟩).add operator
        (states.length + 1) state := by
  simp [judgeNodes]

/-- An AND whose last node is a failed fence is cancelled. -/
lemma and_last_failed (front : List NodeState) :
    (judgeNodes .and queue (front ++ [.failed])).decision = .cancel := by
  simp [judgeNodes_append, add, decision]

variable {front : List NodeState}

/-- An AND whose last node is an event at its counter is left pending when another waits,
whether a fence has failed or not. -/
lemma and_last_reached (waits : .waiting ∈ front) :
    (judgeNodes .and queue (front ++ [.reached])).decision = .pending := by
  have below := signaledNodes_lt waits
  have counted : (front.foldl (add .and (front.length + 1)) ⟨0, queue, false⟩).count =
      signaledNodes front := foldl_count front
  simp [judgeNodes_append, add, decision, counted, Nat.ne_of_lt below]

/-- An OR whose last node is a failed fence is cancelled when no other waits, whether one is
satisfied or not. -/
lemma or_last_failed (none : .waiting ∉ front) :
    (judgeNodes .or queue (front ++ [.failed])).decision = .cancel := by
  have counted : (front.foldl (add .or (front.length + 1)) ⟨0, queue, false⟩).count =
      front.length := (foldl_count front).trans (signaledNodes_eq none)
  simp [judgeNodes_append, add, decision, counted]

/-- An OR whose last node is satisfied is executed. -/
lemma or_last_satisfied {state : NodeState} (satisfied : state = .reached ∨ state = .signaled)
    (front : List NodeState) : (judgeNodes .or queue (front ++ [state])).decision = .execute := by
  have uncancelled : (front.foldl (add .or (front.length + 1))
      ⟨0, queue, false⟩).cancelled = false :=
    (or_waiting (Nat.lt_succ_of_le (signaledNodes_le front))).1
  rcases satisfied with rfl | rfl <;> simp [judgeNodes_append, add, decision, uncancelled]

/-- The nodes for which the order does not matter. An AND may not have a failed fence and an
event at its counter while a third node waits, an OR may not have a failed fence and a
satisfied node while none waits. -/
def OrderFree (operator : TriggerOperator) (states : List NodeState) : Prop :=
  (operator = .and → ¬(.failed ∈ states ∧ .reached ∈ states ∧ .waiting ∈ states)) ∧
  (operator = .or → ¬(.failed ∈ states ∧ .waiting ∉ states ∧
    (.reached ∈ states ∨ .signaled ∈ states)))

instance OrderFree.instDecidable (operator : TriggerOperator) (states : List NodeState) :
    Decidable (OrderFree operator states) :=
  inferInstanceAs (Decidable (_ ∧ _))

/-- The decision that the nodes have in every order, if they have one. -/
def settledDecision (operator : TriggerOperator) (queue : Bool) (states : List NodeState) :
    Decision :=
  if operator = .and ∧ .failed ∈ states then .cancel
  else if operator = .and ∧ states ≠ [] ∧ .waiting ∉ states then .execute
  else if operator = .and ∧ .reached ∈ states then .pending
  else if operator = .or ∧ (.reached ∈ states ∨ .signaled ∈ states) then .execute
  else if operator = .or ∧ .failed ∈ states ∧ .waiting ∉ states then .cancel
  else if queue then .execute else .pending

variable {order : List NodeState}

/-- The decision depends only on which states occur. -/
lemma settledDecision_perm (perm : order.Perm states) :
    settledDecision operator queue order = settledDecision operator queue states := by
  have empty : order = [] ↔ states = [] := by
    rw [← length_eq_zero_iff, ← length_eq_zero_iff, perm.length_eq]
  simp only [settledDecision, perm.mem_iff, ne_eq, empty]

lemma OrderFree.perm (perm : order.Perm states)
    (free : OrderFree operator states) : OrderFree operator order := by
  simpa only [OrderFree, perm.mem_iff] using free

/-- When no node waits, the last one completes the count and sets the flag. -/
lemma judgeNodes_full (none : .waiting ∉ states) (some : states ≠ []) :
    (judgeNodes operator queue states).queue = true := by
  obtain ⟨front, state, rfl⟩ := (eq_nil_or_concat states).resolve_left some
  simp only [concat_eq_append, mem_append, mem_singleton, not_or] at none ⊢
  have counted : (front.foldl (add operator (front.length + 1)) ⟨0, queue, false⟩).count =
      front.length := (foldl_count front).trans (signaledNodes_eq none.1)
  rw [judgeNodes_append]
  cases state with
  | waiting => exact absurd rfl none.2
  | reached | signaled | failed => simp [add, counted]

/-- With the operator AND every order of such nodes has the settled decision. -/
lemma and_settled (free : OrderFree .and states) :
    (judgeNodes .and queue states).decision = settledDecision .and queue states := by
  have cancelled : (judgeNodes .and queue states).cancelled = decide (.failed ∈ states) :=
    and_cancelled states
  by_cases waits : .waiting ∈ states
  · obtain ⟨unreached, unfailed⟩ : _ ∧ (_ → _ → (judgeNodes .and queue states).queue = false) :=
      and_waiting (signaledNodes_lt waits)
    by_cases reached : .reached ∈ states
    · have none : .failed ∉ states := fun failed => free.1 rfl ⟨failed, reached, waits⟩
      simp [decision, settledDecision, unfailed none reached, none, reached, waits]
    · have flag : (judgeNodes .and queue states).queue = _ := unreached reached
      by_cases failed : .failed ∈ states <;>
        simp [decision, settledDecision, cancelled, flag, failed, reached, waits]
  · by_cases some : states = []
    · simp [some, judgeNodes, decision, settledDecision]
    · by_cases failed : .failed ∈ states <;>
        simp [decision, settledDecision, cancelled, judgeNodes_full waits some, failed, some, waits]

/-- With the operator OR every order of such nodes has the settled decision. -/
lemma or_settled (free : OrderFree .or states) :
    (judgeNodes .or queue states).decision = settledDecision .or queue states := by
  by_cases waits : .waiting ∈ states
  · obtain ⟨cancelled, flag⟩ : (judgeNodes .or queue states).cancelled = false ∧
        (judgeNodes .or queue states).queue = _ := or_waiting (signaledNodes_lt waits)
    by_cases satisfied : .reached ∈ states ∨ .signaled ∈ states <;>
      simp [decision, settledDecision, flag, cancelled, satisfied, waits]
  rcases eq_nil_or_concat states with rfl | ⟨front, state, rfl⟩
  · simp [judgeNodes, decision, settledDecision]
  rw [concat_eq_append] at waits free ⊢
  have unwaiting : .waiting ∉ front := fun mem => waits (mem_append_left _ mem)
  cases state with
  | waiting => exact absurd (mem_append_right _ (mem_singleton_self _)) waits
  | reached | signaled =>
    rw [or_last_satisfied (by simp)]
    simp [settledDecision]
  | failed =>
    have unsatisfied : ¬(.reached ∈ front ∨ .signaled ∈ front) := fun satisfied =>
      free.2 rfl ⟨by simp, waits, satisfied.imp (mem_append_left _) (mem_append_left _)⟩
    rw [or_last_failed unwaiting]
    simpa [settledDecision, unwaiting] using unsatisfied

/-- Every order of such nodes has the settled decision. -/
lemma judgeNodes_settled (combined : operator = .and ∨ operator = .or)
    (free : OrderFree operator states) :
    (judgeNodes operator queue states).decision = settledDecision operator queue states := by
  rcases combined with rfl | rfl
  · exact and_settled free
  · exact or_settled free

variable {nodes : List TriggerNode}

/-- Any node can come last. -/
lemma exists_order_last {node : TriggerNode} (mem : node ∈ nodes) :
    ∃ front, (front ++ [node]).Perm nodes :=
  ⟨nodes.erase node, (perm_append_singleton ..).trans (perm_cons_erase mem).symm⟩

/-! ## The submission -/

/-- The submission of the same transaction with its nodes in another order. -/
def TransactionInfo.reorder (info : TransactionInfo) (order : List TriggerNode) : TransactionInfo :=
  { info with triggerNodes := order }

variable {order : List TriggerNode}

lemma checkTransactionParam_reorder (perm : order.Perm info.triggerNodes) :
    checkTransactionParam replies (info.reorder order) = checkTransactionParam replies info := by
  have same : (info.reorder order).triggeredByCondition = info.triggeredByCondition := by
    simp [TransactionInfo.triggeredByCondition, TransactionInfo.reorder, perm.length_eq]
  unfold checkTransactionParam
  rw [same]
  rfl

lemma SubmitReplies.Admits.reorder (admits : replies.Admits info)
    (perm : order.Perm info.triggerNodes) : replies.Admits (info.reorder order) where
  checked := by rw [checkTransactionParam_reorder perm]; exact admits.checked
  response := admits.response
  weak := admits.weak
  callback := admits.callback
  completion := admits.completion
  highPriority := admits.highPriority
  eventList := admits.eventList
  few := perm.length_eq.trans_le admits.few
  fences := fun node mem => admits.fences node (perm.mem_iff.mp mem)

/-- What the submission with the nodes in another order decides. -/
lemma submitDecision_reorder (client : Client) (level : info.isLevelTriggered = true)
    (combined : info.operatorType = .and ∨ info.operatorType = .or)
    (admits : replies.Admits info) {queueImmediately : Bool}
    (checked : checkTransactionParam replies info = .ok queueImmediately)
    (perm : order.Perm info.triggerNodes) :
    client.submitDecision (info.reorder order) replies = some (judgeNodes info.operatorType
      queueImmediately (order.map replies.nodeState)).decision :=
  @submitDecision_eq replies (info.reorder order) client level combined (admits.reorder perm)
    queueImmediately ((checkTransactionParam_reorder perm).trans checked)

/-- Nodes that are decided alike in every order are not of the kinds whose order matters:
otherwise the failed fence and another node, each put last, lead to different decisions. -/
lemma OrderFree.of_same {client : Client} (level : info.isLevelTriggered = true)
    (combined : info.operatorType = .and ∨ info.operatorType = .or) (admits : replies.Admits info)
    (same : ∀ order : List TriggerNode, order.Perm info.triggerNodes →
      client.submitDecision (info.reorder order) replies = client.submitDecision info replies) :
    OrderFree info.operatorType (info.triggerNodes.map replies.nodeState) := by
  obtain ⟨queueImmediately, checked⟩ := admits.checked
  have agree {first second : TriggerNode} {front back : List TriggerNode}
      (one : (front ++ [first]).Perm info.triggerNodes)
      (other : (back ++ [second]).Perm info.triggerNodes) :
      (judgeNodes info.operatorType queueImmediately
        (front.map replies.nodeState ++ [replies.nodeState first])).decision =
      (judgeNodes info.operatorType queueImmediately
        (back.map replies.nodeState ++ [replies.nodeState second])).decision := by
    have equal := (same _ one).trans (same _ other).symm
    rw [submitDecision_reorder client level combined admits checked one,
      submitDecision_reorder client level combined admits checked other] at equal
    simpa using equal
  refine ⟨fun operator => ?_, fun operator => ?_⟩
  · rintro ⟨failed, reached, waits⟩
    obtain ⟨node, mem, failed⟩ := mem_map.mp failed
    obtain ⟨event, listed, reached⟩ := mem_map.mp reached
    obtain ⟨front, one⟩ := exists_order_last mem
    obtain ⟨back, other⟩ := exists_order_last listed
    have waiting : .waiting ∈ back.map replies.nodeState := by
      have among := ((other.map replies.nodeState).mem_iff).mpr waits
      simpa [reached] using among
    have equal := agree one other
    rw [operator, failed, reached, and_last_failed, and_last_reached waiting] at equal
    cases equal
  · rintro ⟨failed, none, satisfied⟩
    obtain ⟨node, mem, failed⟩ := mem_map.mp failed
    obtain ⟨front, one⟩ := exists_order_last mem
    have unwaiting : .waiting ∉ front.map replies.nodeState := fun waits =>
      none ((one.map replies.nodeState).mem_iff.mp (by simp [mem_map.mp waits]))
    obtain ⟨good, listed, state⟩ : ∃ good ∈ info.triggerNodes,
        replies.nodeState good = .reached ∨ replies.nodeState good = .signaled := by
      rcases satisfied with satisfied | satisfied
      · obtain ⟨good, listed, state⟩ := mem_map.mp satisfied
        exact ⟨good, listed, Or.inl state⟩
      · obtain ⟨good, listed, state⟩ := mem_map.mp satisfied
        exact ⟨good, listed, Or.inr state⟩
    obtain ⟨back, other⟩ := exists_order_last listed
    have equal := agree one other
    rw [operator, failed, or_last_failed unwaiting, or_last_satisfied state] at equal
    cases equal

/-- A level-triggered condition is decided alike in every order of its nodes, an OR with a
satisfied node is executed and an AND with a failed fence is cancelled, exactly when its
nodes are not of the two kinds whose order matters. -/
theorem level_triggered_order (client : Client) (info : TransactionInfo)
    (replies : SubmitReplies) (level : info.isLevelTriggered = true)
    (combined : info.operatorType = .and ∨ info.operatorType = .or) (admits : replies.Admits info) :
    ((∀ order : List TriggerNode, order.Perm info.triggerNodes →
        client.submitDecision (info.reorder order) replies = client.submitDecision info replies) ∧
      (info.operatorType = .or → (∃ node ∈ info.triggerNodes,
          replies.nodeState node = .reached ∨ replies.nodeState node = .signaled) →
        client.submitDecision info replies = some .execute) ∧
      (info.operatorType = .and → (∃ node ∈ info.triggerNodes, replies.nodeState node = .failed) →
        client.submitDecision info replies = some .cancel)) ↔
      OrderFree info.operatorType (info.triggerNodes.map replies.nodeState) := by
  refine ⟨fun ⟨same, _, _⟩ => OrderFree.of_same level combined admits same, fun free => ?_⟩
  obtain ⟨queueImmediately, checked⟩ := admits.checked
  have settled (order : List TriggerNode) (perm : order.Perm info.triggerNodes) :
      client.submitDecision (info.reorder order) replies =
        some (settledDecision info.operatorType queueImmediately
          (info.triggerNodes.map replies.nodeState)) := by
    have states := perm.map replies.nodeState
    rw [submitDecision_reorder client level combined admits checked perm,
      judgeNodes_settled combined (free.perm states), settledDecision_perm states]
  have given : client.submitDecision info replies = _ := settled info.triggerNodes (Perm.refl _)
  refine ⟨fun order perm => (settled order perm).trans given.symm, ?_, ?_⟩
  · rintro operator ⟨node, mem, satisfied⟩
    have among : .reached ∈ info.triggerNodes.map replies.nodeState ∨
        .signaled ∈ info.triggerNodes.map replies.nodeState :=
      satisfied.imp (fun state => mem_map.mpr ⟨node, mem, state⟩)
        (fun state => mem_map.mpr ⟨node, mem, state⟩)
    rw [given, operator]
    simp only [settledDecision, reduceCtorEq, false_and, if_false, true_and, if_pos among]
  · rintro operator ⟨node, mem, failed⟩
    have among : .failed ∈ info.triggerNodes.map replies.nodeState :=
      mem_map.mpr ⟨node, mem, failed⟩
    rw [given, operator]
    simp only [settledDecision, true_and, if_pos among]

/-- An event 5 that has occurred three times, a fence 0 that is not signaled, a fence 1 that is
signaled successfully, and others that have failed. -/
def orderReplies : SubmitReplies where
  eventCounter := fun id => if id = 5 then some 3 else none
  outputsValid := true
  responseAllocated := true
  fenceStatus := fun fd => some (if fd = 0 then 0 else if fd = 1 then 1 else -5)
  weakAllocated := fun _ => true
  weakListed := fun _ => true
  callbackAllocated := fun _ => true
  completionFences := none
  highPriorityAdded := true
  eventListFound := true

/-- A level-triggered transaction with these nodes. -/
def orderInfo (operator : TriggerOperator) (nodes : List TriggerNode) : TransactionInfo :=
  ⟨eventIdNone, 0, nodes, operator, true, false, false⟩

lemma orderReplies_admits (operator : TriggerOperator) (few : nodes.length ≤ triggerNodesMaxNum) :
    orderReplies.Admits (orderInfo operator nodes) where
  checked := ⟨!(orderInfo operator nodes).triggeredByCondition, by
    simp [checkTransactionParam, orderInfo, orderReplies, eventIdNone]⟩
  response := rfl
  weak := fun _ => ⟨rfl, rfl⟩
  callback := fun _ => rfl
  completion := rfl
  highPriority := rfl
  eventList := rfl
  few := few
  fences := fun _ _ _ _ => rfl

/-- An AND of a failed fence and a fence that waits is cancelled in both orders. -/
theorem level_triggered_order_failed :
    (Client.initial false).submitDecision (orderInfo .and [.fence 2, .fence 0]) orderReplies =
      some .cancel ∧
    (Client.initial false).submitDecision
        ((orderInfo .and [.fence 2, .fence 0]).reorder [.fence 0, .fence 2]) orderReplies =
      some .cancel := by
  obtain ⟨same, -, cancelled⟩ := (level_triggered_order (Client.initial false)
    (orderInfo .and [.fence 2, .fence 0]) orderReplies rfl (Or.inl rfl)
    (orderReplies_admits .and (by decide))).mpr (by decide)
  have given := cancelled rfl ⟨.fence 2, by decide, by decide⟩
  exact ⟨given, (same [.fence 0, .fence 2] (Perm.swap ..)).trans given⟩

/-- An AND with a failed fence is left pending, with the error in its response, when an event
at its counter follows the fence and a third node waits. An OR with a satisfied event is
cancelled when a failed fence comes last. In another order each is decided as it should be. -/
theorem level_triggered_order_matters : (Client.initial false).submitDecision
        (orderInfo .and [.fence 2, .event 5 3 none, .fence 0]) orderReplies = some .pending ∧
    (Client.initial false).submitDecision
        (orderInfo .and [.event 5 3 none, .fence 2, .fence 0]) orderReplies = some .cancel ∧
    (Client.initial false).submitDecision
        (orderInfo .or [.event 5 3 none, .fence 2]) orderReplies = some .cancel ∧
    (Client.initial false).submitDecision
        (orderInfo .or [.fence 2, .event 5 3 none]) orderReplies = some .execute := by
  decide +kernel

end GsKernel.Lwis
