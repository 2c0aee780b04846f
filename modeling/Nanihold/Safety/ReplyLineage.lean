import Mathlib
import Nanihold.AuditTrace.Reply
import Nanihold.Safety.Naming
import Nanihold.Safety.PreflightCache

/-!
# The lineage of replies

A draft that an agent writes under its name is traced back to that name, to its work item and to
its execution. The names of the registry come from a table in several languages and may have 512
characters; a draft is accepted under ASCII names of 64 characters at most.

## Main definitions

* `ReplyRoundTrip` — drafts can be written under a name and are traced back to their author.
* `deliveredRecords` — the records of a draft that has been approved and sent.

## Main results

* `matchLineage_lineage` — the lineage of a draft gives back its three parts.
* `replyRoundTrip_iff` — an issued name makes the round trip exactly if drafts accept it.
-/

namespace Nanihold

/-! ### The law -/

/-- The content of a draft is acceptable. -/
structure ReplyContent.IsValid (content : ReplyContent) : Prop where
  draft_identifier : isIdentifier s!"sup:{content.uuid}" = true
  observation_identifier : isIdentifier content.incomingObservationId = true
  recipient_nonblank : isNonBlank content.recipient = true
  body_bounded : isReplyBody content.body = true
  drafted_aware : content.draftedAt ≠ none
  thread_nonblank : ∀ thread ∈ content.threadRef, isNonBlank thread = true

/-- The owner's approval of a draft. -/
def replyApproval (approvalId draftId : String) : Supplemental :=
  named [("id", text approvalId), ("kind", text "reply-approval@1"),
    ("derived_from", .dict (named [("observations", .list []), ("blobs", .list []),
      ("supplementals", .list [text draftId])])),
    ("payload", .dict (named [("state", text "approved")]))]

/-- The record of the bridge that has sent a draft. -/
def replySendRecord (sendRecordId approvalId draftId channel messageRef : String) : Supplemental :=
  named [("id", text sendRecordId), ("kind", text "send-record@1"),
    ("derived_from", .dict (named [("observations", .list []), ("blobs", .list []),
      ("supplementals", .list [text draftId])])),
    ("payload", .dict (named [("channel", text channel), ("mode", text "approved"),
      ("approval_id", text approvalId), ("message_ref", text messageRef)]))]

/-- The records of a draft that has been approved and sent. -/
def deliveredRecords (submission : ReplyDraftSubmission)
    (approvalId sendRecordId messageRef : String) : List PyValue :=
  [.dict submission.supplemental, .dict (replyApproval approvalId submission.draftId),
    .dict (replySendRecord sendRecordId approvalId submission.draftId submission.channel.value
      messageRef)]

/-- The id of a record of LETHE. -/
def IsRecordId (value : String) : Prop :=
  isIdentifier value = true ∧ isSupplementalId value = true

/-- **The round trip** of an assignment: a draft can be written under its name, the trace of a
delivered draft returns, and every trace that returns names the assignment's work item, execution
and name. -/
structure ReplyRoundTrip (assignment : AgentNameAssignment) : Prop where
  authored : ∀ content : ReplyContent, content.IsValid → ∃ submission,
    ReplyDraftSubmission.new content assignment.agentName assignment.workItemId
      assignment.executionId = .ok submission
  traced : ∀ content submission, ReplyDraftSubmission.new content assignment.agentName
      assignment.workItemId assignment.executionId = .ok submission →
    ∀ approvalId sendRecordId messageRef, IsRecordId approvalId → IsRecordId sendRecordId →
      [submission.draftId, approvalId, sendRecordId].Nodup →
      ∃ trace, traceReply (deliveredRecords submission approvalId sendRecordId messageRef)
        submission.draftId none = .ok trace
  decoded : ∀ content submission, ReplyDraftSubmission.new content assignment.agentName
      assignment.workItemId assignment.executionId = .ok submission →
    ∀ records, .dict submission.supplemental ∈ records → ∀ kernel trace,
      traceReply records submission.draftId kernel = .ok trace →
        trace.author = ⟨assignment.workItemId, assignment.executionId, assignment.agentName⟩

/-! ### The text of a lineage -/

section Lineage

private theorem toList_ne_nil_of_isIdentifier {value : String} (h : isIdentifier value = true) :
    value.toList ≠ [] := by
  intro hnil
  rw [isIdentifier, hnil] at h
  cases h

variable (submission : ReplyDraftSubmission)

theorem toList_lineage : submission.lineage.toList = ['/'].intercalate
    ["nanihold".toList, "work-item".toList, submission.workItemId.toList, "execution".toList,
      submission.executionId.toList, "agent".toList, submission.agentName.toList] := by
  have hroot : "nanihold/work-item/".toList =
      "nanihold".toList ++ ['/'] ++ "work-item".toList ++ ['/'] := by decide
  have hexecution : "/execution/".toList = ['/'] ++ "execution".toList ++ ['/'] := by decide
  have hagent : "/agent/".toList = ['/'] ++ "agent".toList ++ ['/'] := by decide
  change ("nanihold/work-item/" ++ submission.workItemId ++ "/execution/" ++
    submission.executionId ++ "/agent/" ++ submission.agentName).toList = _
  simp only [String.toList_append, hroot, hexecution, hagent, List.intercalate_cons_cons,
    List.intercalate_singleton, List.append_assoc]

/-- **The lineage of a draft** gives back its three parts. -/
theorem matchLineage_lineage : matchLineage submission.lineage =
    some ⟨submission.workItemId, submission.executionId, submission.agentName⟩ := by
  obtain ⟨hpattern, -⟩ := Bool.and_eq_true_iff.mp submission.agent_name_pattern
  have hsplit : submission.lineage.toList.splitOn '/' =
      ["nanihold".toList, "work-item".toList, submission.workItemId.toList, "execution".toList,
        submission.executionId.toList, "agent".toList, submission.agentName.toList] := by
    rw [toList_lineage]
    refine List.splitOn_intercalate '/' ?_ (List.cons_ne_nil _ _)
    simp only [List.forall_mem_cons, List.not_mem_nil, false_imp_iff, implies_true, and_true]
    exact ⟨by decide, by decide, slash_notMem_of_isIdentifier submission.work_item_identifier,
      by decide, slash_notMem_of_isIdentifier submission.execution_identifier, by decide,
      slash_notMem_of_isNamePattern hpattern⟩
  rw [matchLineage, hsplit]
  refine (if_pos ⟨rfl, rfl, toList_ne_nil_of_isIdentifier submission.work_item_identifier, rfl,
    toList_ne_nil_of_isIdentifier submission.execution_identifier, rfl, ?_⟩).trans ?_
  · simp only [String.ofList_toList]
  · rwa [String.ofList_toList]

/-- The author behind `agent:`. -/
theorem agentOf_createdBy (agentName : String) :
    agentOf s!"agent:{agentName}" = some agentName := by
  have hlist : (s!"agent:{agentName}").toList = "agent:".toList ++ agentName.toList :=
    String.toList_append
  rw [agentOf, hlist, if_pos (List.prefix_append _ _)]
  exact congrArg some (String.ofList_toList ..)

end Lineage

/-! ### Reading a draft -/

section Draft

variable (submission : ReplyDraftSubmission)

theorem requiredString_text {value : String} (h : value ≠ "") (field context : String) :
    requiredString (some (text value)) field context = .ok value := by
  rw [requiredString, text, Option.bind_some, nonEmptyString, if_neg h]
  rfl

theorem validateId_of {value : String} (h : isIdentifier value = true) :
    validatedId value = .ok value := by
  rw [validatedId, require, Checked.check_bind_of h]
  rfl

private theorem ne_empty_of_isIdentifier {value : String} (h : isIdentifier value = true) :
    value ≠ "" := by
  rintro rfl
  cases h

private theorem createdBy_ne_empty (agentName : String) : s!"agent:{agentName}" ≠ "" := by
  intro h
  have hlist := congrArg String.toList h
  cases hlist.symm.trans (show (s!"agent:{agentName}").toList = "agent:".toList ++ agentName.toList
    from String.toList_append)

private theorem lineage_ne_empty : submission.lineage ≠ "" := by
  intro h
  have hmatch := matchLineage_lineage submission
  rw [h] at hmatch
  cases hmatch

/-- **The author** of a draft is read out of its envelope. -/
theorem replyAuthor_supplemental : replyAuthor submission.supplemental =
    .ok ⟨submission.workItemId, submission.executionId, submission.agentName⟩ := by
  have hpattern := (Bool.and_eq_true_iff.mp submission.agent_name_pattern).1
  simp only [replyAuthor, ReplyDraftSubmission.supplemental, getName_named_cons, String.reduceEq,
    if_true, if_false]
  refine Checked.bind_eq_ok_iff.mpr ⟨_, requiredString_text (createdBy_ne_empty _) _ _, ?_⟩
  refine Checked.orRaise_bind_eq_ok_iff.mpr ⟨_, agentOf_createdBy _, ?_⟩
  refine Checked.check_bind_eq_ok_iff.mpr ⟨ne_empty_of_isNamePattern hpattern, ?_⟩
  refine Checked.bind_eq_ok_iff.mpr ⟨_, requiredString_text (lineage_ne_empty _) _ _, ?_⟩
  refine Checked.orRaise_bind_eq_ok_iff.mpr ⟨_, matchLineage_lineage _, ?_⟩
  refine Checked.check_bind_eq_ok_iff.mpr ⟨rfl, ?_⟩
  refine Checked.bind_eq_ok_iff.mpr ⟨_, validateId_of submission.work_item_identifier, ?_⟩
  exact Checked.bind_eq_ok_iff.mpr ⟨_, validateId_of submission.execution_identifier, rfl⟩

theorem recordId_of {record : Supplemental} {value : String}
    (hget : getName record "id" = some (text value)) (h : IsRecordId value) (context : String) :
    recordId record context = .ok value := by
  refine Checked.bind_eq_ok_iff.mpr ⟨value, ?_, ?_⟩
  · rw [hget]
    exact requiredString_text (ne_empty_of_isIdentifier h.1) _ _
  · exact Checked.check_bind_eq_ok_iff.mpr
      ⟨h.1, Checked.check_bind_eq_ok_iff.mpr ⟨h.2, rfl⟩⟩

/-- **An indexed record** is found under its id. -/
theorem get?_of_indexRecords {records : List PyValue}
    {indexed : OrderedDict String Supplemental} (h : indexRecords records = .ok indexed)
    {record : Supplemental} (hmem : .dict record ∈ records) {recordKey : String}
    (hkey : recordId record "supplemental audit record" = .ok recordKey) :
    indexed.get? recordKey = some record := by
  -- What has been indexed stays, since a second record of one id is refused.
  suffices hall : ∀ start, records.foldlM indexRecord start = .ok indexed →
      (∀ key kept, start.get? key = some kept → indexed.get? key = some kept) ∧
        (.dict record ∈ records → indexed.get? recordKey = some record) from
    (hall .empty h).2 hmem
  clear h hmem
  induction records with
  | nil =>
    intro start h
    obtain rfl := Except.ok.inj h
    exact ⟨fun _ _ => id, fun hmem => by cases hmem⟩
  | cons head rest ih =>
    intro start h
    rw [List.foldlM_cons] at h
    obtain ⟨next, hnext, h⟩ := Checked.bind_eq_ok_iff.mp h
    obtain ⟨first, hfirst, hnext⟩ := Checked.orRaise_bind_eq_ok_iff.mp hnext
    obtain ⟨firstKey, hfirstKey, hnext⟩ := Checked.bind_eq_ok_iff.mp hnext
    obtain ⟨hnew, hnext⟩ := Checked.check_bind_eq_ok_iff.mp hnext
    obtain rfl := Checked.pure_eq_ok_iff.mp hnext
    obtain ⟨hkept, hrest⟩ := ih _ h
    refine ⟨fun key kept hget => hkept key kept ?_, fun hmem => ?_⟩
    · have hne : firstKey ≠ key := by
        rintro rfl
        rw [OrderedDict.contains_eq_false_iff, hget] at hnew
        cases hnew
      rwa [OrderedDict.get?_set_of_ne _ _ hne]
    · rcases List.mem_cons.mp hmem with heq | hmem
      · rw [← heq] at hfirst
        obtain rfl := Option.some.inj hfirst
        obtain rfl := Except.ok.inj (hkey.symm.trans hfirstKey)
        exact hkept _ _ (OrderedDict.get?_set_self ..)
      · exact hrest hmem

end Draft

/-! ### Delivered drafts -/

section Delivered

variable {kind context draftId : String} {record : Supplemental}

private theorem isAnchored_of_ne {found : String} (hget : getName record "kind" = some (text found))
    (hblank : found ≠ "") (hne : found ≠ kind) :
    isAnchored kind context draftId record = .ok false := by
  refine Checked.bind_eq_ok_iff.mpr ⟨found, ?_, if_neg hne⟩
  rw [recordKind, hget]
  exact requiredString_text hblank _ _

private theorem isAnchored_of_eq (hget : getName record "kind" = some (text kind))
    (hblank : kind ≠ "") {derivedFrom : Supplemental}
    (hderived : getName record "derived_from" = some (.dict derivedFrom))
    (hlist : getName derivedFrom "supplementals" = some (.list [text draftId]))
    (hdraft : draftId ≠ "") : isAnchored kind context draftId record = .ok true := by
  refine Checked.bind_eq_ok_iff.mpr ⟨kind, ?_, (if_pos rfl).trans ?_⟩
  · rw [recordKind, hget]
    exact requiredString_text hblank _ _
  · refine Checked.bind_eq_ok_iff.mpr ⟨[draftId], ?_, ?_⟩
    · refine Checked.orRaise_bind_eq_ok_iff.mpr ⟨derivedFrom, ?_, ?_⟩
      · rw [hderived]
        rfl
      · have hstring : nonEmptyString (text draftId) = some draftId := if_neg hdraft
        rw [hlist, Option.bind_some, nonEmptyStrings, List.mapM_cons, hstring]
        rfl
    · rw [Checked.pure_eq_ok_iff]
      exact decide_eq_true (List.mem_singleton_self draftId)

/-- The one record of its kind among three. -/
private theorem filterM_three {p : Supplemental → Except VsmError Bool}
    {first second third : Supplemental} {x y z : Bool} (hx : p first = .ok x)
    (hy : p second = .ok y) (hz : p third = .ok z) :
    [first, second, third].filterM p = .ok
      ((if x then [first] else []) ++ ((if y then [second] else []) ++ if z then [third] else []))
    := by
  simp only [List.filterM, List.filterAuxM, hx, hy, hz]
  cases x <;> cases y <;> cases z <;> rfl

variable {submission : ReplyDraftSubmission}

variable (submission) in
private theorem getName_supplemental :
    getName submission.supplemental "id" = some (text submission.draftId) ∧
      getName submission.supplemental "kind" = some (text "reply-draft@1") := by
  simp only [ReplyDraftSubmission.supplemental, getName_named_cons, String.reduceEq, if_true,
    if_false, and_self]

private theorem getName_replyApproval (approvalId draftId : String) :
    getName (replyApproval approvalId draftId) "id" = some (text approvalId) ∧
      getName (replyApproval approvalId draftId) "kind" = some (text "reply-approval@1") := by
  simp only [replyApproval, getName_named_cons, String.reduceEq, if_true, if_false, and_self]

private theorem getName_replySendRecord
    (sendRecordId approvalId draftId channel messageRef : String) :
    getName (replySendRecord sendRecordId approvalId draftId channel messageRef) "id" =
        some (text sendRecordId) ∧
      getName (replySendRecord sendRecordId approvalId draftId channel messageRef) "kind" =
        some (text "send-record@1") := by
  simp only [replySendRecord, getName_named_cons, String.reduceEq, if_true, if_false, and_self]

private theorem indexRecord_of {indexed : OrderedDict String Supplemental} {recordKey : String}
    (hkey : recordId record "supplemental audit record" = .ok recordKey)
    (hnew : indexed.get? recordKey = none) :
    indexRecord indexed (.dict record) = .ok (indexed.set recordKey record) ∧
      (indexed.set recordKey record).values = indexed.values ++ [record] := by
  refine ⟨?_, OrderedDict.values_set_of_get?_eq_none hnew record⟩
  refine Checked.orRaise_bind_eq_ok_iff.mpr ⟨record, rfl, ?_⟩
  refine Checked.bind_eq_ok_iff.mpr ⟨recordKey, hkey, ?_⟩
  exact Checked.check_bind_eq_ok_iff.mpr ⟨(OrderedDict.contains_eq_false_iff ..).mpr hnew, rfl⟩

/-- The records of a delivered draft are indexed. -/
private theorem indexRecords_delivered {approvalId sendRecordId messageRef : String}
    (hdraft : IsRecordId submission.draftId) (happroval : IsRecordId approvalId)
    (hsend : IsRecordId sendRecordId)
    (hnodup : [submission.draftId, approvalId, sendRecordId].Nodup) :
    ∃ indexed, indexRecords (deliveredRecords submission approvalId sendRecordId messageRef) =
        .ok indexed ∧
      indexed.values = [submission.supplemental, replyApproval approvalId submission.draftId,
        replySendRecord sendRecordId approvalId submission.draftId submission.channel.value
          messageRef] := by
  simp only [List.nodup_cons, List.mem_cons, List.not_mem_nil, or_false, not_or] at hnodup
  obtain ⟨⟨happrovalNe, hsendNe⟩, hsendNe', -⟩ := hnodup
  have hnewFirst : OrderedDict.empty.get? submission.draftId = (none : Option Supplemental) := rfl
  obtain ⟨hfirst, hfirstValues⟩ := indexRecord_of
    (recordId_of (getName_supplemental _).1 hdraft _) hnewFirst
  have hnewSecond : (OrderedDict.empty.set submission.draftId submission.supplemental).get?
      approvalId = none := OrderedDict.get?_set_of_ne _ _ happrovalNe
  obtain ⟨hsecond, hsecondValues⟩ := indexRecord_of
    (recordId_of (getName_replyApproval approvalId submission.draftId).1 happroval _) hnewSecond
  have hnewThird : ((OrderedDict.empty.set submission.draftId submission.supplemental).set
      approvalId (replyApproval approvalId submission.draftId)).get? sendRecordId = none :=
    (OrderedDict.get?_set_of_ne _ _ hsendNe').trans (OrderedDict.get?_set_of_ne _ _ hsendNe)
  obtain ⟨hthird, hthirdValues⟩ := indexRecord_of
    (recordId_of (getName_replySendRecord sendRecordId approvalId submission.draftId
      submission.channel.value messageRef).1 hsend _) hnewThird
  refine ⟨_, ?_, hthirdValues.trans ?_⟩
  · rw [indexRecords, deliveredRecords, List.foldlM_cons]
    refine Checked.bind_eq_ok_iff.mpr ⟨_, hfirst, ?_⟩
    refine Checked.bind_eq_ok_iff.mpr ⟨_, hsecond, ?_⟩
    exact Checked.bind_eq_ok_iff.mpr ⟨_, hthird, rfl⟩
  · rw [hsecondValues, hfirstValues]
    rfl

/-- **The trace** of a delivered draft returns. -/
theorem traceReply_delivered {approvalId sendRecordId : String} (messageRef : String)
    (hdraft : isSupplementalId submission.draftId = true) (happroval : IsRecordId approvalId)
    (hsend : IsRecordId sendRecordId)
    (hnodup : [submission.draftId, approvalId, sendRecordId].Nodup) :
    ∃ trace, traceReply (deliveredRecords submission approvalId sendRecordId messageRef)
      submission.draftId none = .ok trace := by
  have hdraftId : IsRecordId submission.draftId := ⟨submission.draft_identifier, hdraft⟩
  have hdraftBlank : submission.draftId ≠ "" := ne_empty_of_isIdentifier hdraftId.1
  obtain ⟨indexed, hindexed, hvalues⟩ := indexRecords_delivered hdraftId happroval hsend hnodup
  have hget : indexed.get? submission.draftId = some submission.supplemental :=
    get?_of_indexRecords hindexed List.mem_cons_self
      (recordId_of (getName_supplemental _).1 hdraftId _)
  have happrovalKind := (getName_replyApproval approvalId submission.draftId).2
  have hsendKind := (getName_replySendRecord sendRecordId approvalId submission.draftId
    submission.channel.value messageRef).2
  have hchannel : submission.channel.value ≠ "" := by
    cases submission.channel <;> decide
  refine ⟨⟨submission.draftId, submission.incomingObservationId, submission.channel.value,
    ⟨submission.workItemId, submission.executionId, submission.agentName⟩, approvalId,
    sendRecordId, some (text messageRef), none⟩, ?_⟩
  refine Checked.bind_eq_ok_iff.mpr ⟨_, validateId_of hdraftId.1, ?_⟩
  refine Checked.bind_eq_ok_iff.mpr ⟨_, hindexed, ?_⟩
  refine Checked.orRaise_bind_eq_ok_iff.mpr ⟨_, hget, ?_⟩
  refine Checked.bind_eq_ok_iff.mpr ⟨"reply-draft@1", ?_, ?_⟩
  · rw [recordKind, (getName_supplemental _).2]
    exact requiredString_text (by decide) _ _
  refine Checked.check_bind_eq_ok_iff.mpr ⟨rfl, ?_⟩
  refine Checked.bind_eq_ok_iff.mpr ⟨_, replyAuthor_supplemental submission, ?_⟩
  refine Checked.bind_eq_ok_iff.mpr ⟨submission.incomingObservationId, ?_, ?_⟩
  · exact requiredString_text (ne_empty_of_isIdentifier submission.observation_identifier) _ _
  refine Checked.bind_eq_ok_iff.mpr ⟨submission.channel.value, ?_, ?_⟩
  · exact requiredString_text hchannel _ _
  rw [hvalues]
  refine Checked.bind_eq_ok_iff.mpr ⟨replyApproval approvalId submission.draftId, ?_, ?_⟩
  · refine Checked.bind_eq_ok_iff.mpr ⟨_, filterM_three
      (isAnchored_of_ne (getName_supplemental _).2 (by decide) (by decide))
      (isAnchored_of_eq happrovalKind (by decide) rfl rfl hdraftBlank)
      (isAnchored_of_ne hsendKind (by decide) (by decide)), rfl⟩
  refine Checked.bind_eq_ok_iff.mpr ⟨approvalId, recordId_of
    (getName_replyApproval approvalId submission.draftId).1 happroval _, ?_⟩
  refine Checked.bind_eq_ok_iff.mpr ⟨replySendRecord sendRecordId approvalId submission.draftId
    submission.channel.value messageRef, ?_, ?_⟩
  · refine Checked.bind_eq_ok_iff.mpr ⟨_, filterM_three
      (isAnchored_of_ne (getName_supplemental _).2 (by decide) (by decide))
      (isAnchored_of_ne happrovalKind (by decide) (by decide))
      (isAnchored_of_eq hsendKind (by decide) rfl rfl hdraftBlank), rfl⟩
  refine Checked.bind_eq_ok_iff.mpr ⟨sendRecordId, recordId_of
    (getName_replySendRecord sendRecordId approvalId submission.draftId submission.channel.value
      messageRef).1 hsend _, ?_⟩
  refine Checked.bind_eq_ok_iff.mpr ⟨some (text messageRef), ?_, rfl⟩
  refine Checked.orRaise_bind_eq_ok_iff.mpr ⟨_, rfl, ?_⟩
  refine Checked.check_bind_eq_ok_iff.mpr ⟨decide_eq_true rfl, ?_⟩
  refine Checked.check_bind_eq_ok_iff.mpr ⟨rfl, ?_⟩
  exact Checked.check_bind_eq_ok_iff.mpr ⟨decide_eq_true rfl, rfl⟩

end Delivered

/-! ### Issued names -/

section Issued

variable {content : ReplyContent} {agentName workItemId executionId : String}
  {submission : ReplyDraftSubmission}

/-- **A draft that is made** has the given name, work item and execution. -/
theorem ReplyDraftSubmission.new_eq_ok_iff :
    ReplyDraftSubmission.new content agentName workItemId executionId = .ok submission ↔
      ∃ (h : Accepts s!"sup:{content.uuid}" content agentName workItemId executionId)
        (draftedAt : String),
        content.draftedAt = some draftedAt ∧ ofAccepted h draftedAt = submission := by
  rw [ReplyDraftSubmission.new]
  constructor
  · intro h
    obtain ⟨draftId, hid, h⟩ := Checked.bind_eq_ok_iff.mp h
    obtain ⟨-, hid⟩ := Checked.check_bind_eq_ok_iff.mp hid
    obtain rfl := Checked.pure_eq_ok_iff.mp hid
    split_ifs at h with haccepts
    obtain ⟨draftedAt, hdrafted, h⟩ := Checked.orRaise_bind_eq_ok_iff.mp h
    exact ⟨haccepts, draftedAt, hdrafted, Checked.pure_eq_ok_iff.mp h⟩
  · rintro ⟨haccepts, draftedAt, hdrafted, rfl⟩
    refine Checked.bind_eq_ok_iff.mpr ⟨s!"sup:{content.uuid}", ?_, ?_⟩
    · exact Checked.check_bind_eq_ok_iff.mpr ⟨haccepts.draft_identifier, rfl⟩
    · rw [dif_pos haccepts]
      exact Checked.orRaise_bind_eq_ok_iff.mpr ⟨draftedAt, hdrafted, rfl⟩

/-- **A decoded author** is the author of the draft. -/
theorem author_of_traceReply {records : List PyValue} {kernel : Option ReplyKernel}
    {trace : ReplyTrace} (hmem : .dict submission.supplemental ∈ records)
    (hdraft : isSupplementalId submission.draftId = true)
    (h : traceReply records submission.draftId kernel = .ok trace) :
    trace.author = ⟨submission.workItemId, submission.executionId, submission.agentName⟩ := by
  obtain ⟨_, hid, h⟩ := Checked.bind_eq_ok_iff.mp h
  obtain rfl := Except.ok.inj ((validateId_of submission.draft_identifier).symm.trans hid)
  obtain ⟨indexed, hindexed, h⟩ := Checked.bind_eq_ok_iff.mp h
  obtain ⟨draft, hget, h⟩ := Checked.orRaise_bind_eq_ok_iff.mp h
  have hkey := recordId_of (getName_supplemental submission).1
    ⟨submission.draft_identifier, hdraft⟩ "supplemental audit record"
  obtain rfl := Option.some.inj ((get?_of_indexRecords hindexed hmem hkey).symm.trans hget)
  obtain ⟨_, -, h⟩ := Checked.bind_eq_ok_iff.mp h
  obtain ⟨-, h⟩ := Checked.check_bind_eq_ok_iff.mp h
  obtain ⟨author, hauthor, h⟩ := Checked.bind_eq_ok_iff.mp h
  obtain rfl := Except.ok.inj ((replyAuthor_supplemental submission).symm.trans hauthor)
  obtain ⟨_, -, h⟩ := Checked.bind_eq_ok_iff.mp h
  obtain ⟨_, -, h⟩ := Checked.bind_eq_ok_iff.mp h
  obtain ⟨_, -, h⟩ := Checked.bind_eq_ok_iff.mp h
  obtain ⟨_, -, h⟩ := Checked.bind_eq_ok_iff.mp h
  obtain ⟨_, -, h⟩ := Checked.bind_eq_ok_iff.mp h
  obtain ⟨_, -, h⟩ := Checked.bind_eq_ok_iff.mp h
  obtain ⟨_, -, h⟩ := Checked.bind_eq_ok_iff.mp h
  obtain ⟨_, -, h⟩ := Checked.bind_eq_ok_iff.mp h
  rw [← Checked.pure_eq_ok_iff.mp h]

/-- A number that `uuid4` draws makes the id of a record. -/
private theorem isSupplementalId_new (uuid : String) :
    isSupplementalId s!"sup:{uuid}" = true := by
  have hlist : (s!"sup:{uuid}").toList = "sup:".toList ++ uuid.toList := String.toList_append
  rw [isSupplementalId, hlist]
  exact decide_eq_true (List.prefix_append _ _)

/-- Some content that is acceptable. -/
def thanks : ReplyContent where
  uuid := "00000000-0000-4000-8000-000000000000"
  incomingObservationId := "obs:1"
  channel := .slack
  recipient := "C1"
  body := "Thank you."
  draftedAt := some "2026-07-22T12:00:00Z"
  threadRef := none

theorem thanks_isValid : thanks.IsValid where
  draft_identifier := by decide +kernel
  observation_identifier := by decide +kernel
  recipient_nonblank := by decide +kernel
  body_bounded := by decide +kernel
  drafted_aware := by decide
  thread_nonblank := by decide

end Issued

section RoundTrip

variable {a next : AgentNameAllocator} {assignment : AgentNameAssignment}
  {identity dataSpaceId workItemId executionId nodeId pilotId : String}
  {candidate : ModelCandidate}

/-- **An issued name makes the round trip** exactly if drafts accept it. -/
theorem replyRoundTrip_iff
    (h : AgentNameAllocator.allocate identity dataSpaceId workItemId executionId nodeId pilotId
      candidate a = .ok assignment next) :
    ReplyRoundTrip assignment ↔ isAgentName assignment.agentName = true := by
  have hvalid := AgentNameAllocator.isValid_of_allocate h
  simp only [AgentNameAssignment.isValid, Bool.and_eq_true] at hvalid
  obtain ⟨⟨⟨⟨⟨⟨⟨⟨⟨-, -⟩, hworkItem⟩, hexecution⟩, -⟩, -⟩, -⟩, -⟩, -⟩, -⟩ := hvalid
  constructor
  · intro hroundTrip
    obtain ⟨submission, hnew⟩ := hroundTrip.authored thanks thanks_isValid
    obtain ⟨haccepts, -⟩ := ReplyDraftSubmission.new_eq_ok_iff.mp hnew
    exact haccepts.agent_name_pattern
  · intro hname
    refine ⟨fun content hcontent => ?_, fun content submission hnew => ?_,
      fun content submission hnew => ?_⟩
    · obtain ⟨draftedAt, hdrafted⟩ := Option.ne_none_iff_exists'.mp hcontent.drafted_aware
      exact ⟨_, ReplyDraftSubmission.new_eq_ok_iff.mpr
        ⟨⟨hcontent.draft_identifier, hcontent.observation_identifier, hcontent.recipient_nonblank,
          hcontent.body_bounded, hname, hworkItem, hexecution, hcontent.thread_nonblank⟩,
          draftedAt, hdrafted, rfl⟩⟩
    · obtain ⟨haccepts, draftedAt, -, rfl⟩ := ReplyDraftSubmission.new_eq_ok_iff.mp hnew
      intro approvalId sendRecordId messageRef happroval hsend hnodup
      exact traceReply_delivered messageRef (isSupplementalId_new _) happroval hsend hnodup
    · obtain ⟨haccepts, draftedAt, -, rfl⟩ := ReplyDraftSubmission.new_eq_ok_iff.mp hnew
      intro records hmem kernel trace htrace
      exact author_of_traceReply hmem (isSupplementalId_new _) htrace

end RoundTrip

/-! ### A name in Latin letters, and one in kana -/

/-- An allocation that returns, by evaluation. -/
def issuesName (allocator : AgentNameAllocator) (agentName : String) : Bool :=
  match AgentNameAllocator.allocate "assignment:1" "space:1" "work:1" "execution:1" "node:1"
    "pilot:1" cupCandidate allocator with
  | .ok assignment _ => assignment.agentName = agentName
  | .error _ _ => false

theorem exists_of_issuesName {allocator : AgentNameAllocator} {agentName : String}
    (h : issuesName allocator agentName = true) : ∃ assignment next,
      AgentNameAllocator.allocate "assignment:1" "space:1" "work:1" "execution:1" "node:1"
        "pilot:1" cupCandidate allocator = .ok assignment next ∧
      assignment.agentName = agentName := by
  rw [issuesName] at h
  split at h
  · next assignment next heq => exact ⟨assignment, next, heq, of_decide_eq_true h⟩
  · cases h

theorem replyRoundTrip_cup : ∃ assignment next,
    AgentNameAllocator.allocate "assignment:1" "space:1" "work:1" "execution:1" "node:1" "pilot:1"
      cupCandidate cupAllocator = .ok assignment next ∧
    (ReplyRoundTrip assignment ↔ isAgentName assignment.agentName = true) := by
  have hissues : issuesName cupAllocator "Cup" = true := by decide +kernel
  obtain ⟨assignment, next, h, -⟩ := exists_of_issuesName hissues
  exact ⟨assignment, next, h, replyRoundTrip_iff h⟩

private theorem clock_scale : 2 = 1 ∨ 2 = 2 ∨ 2 = 3 := Or.inr (Or.inl rfl)

private theorem clock_coordinate : isNonBlank "時計" = true := by decide

private theorem clock_japanese : isNonBlank "トケイ" = true := by decide

private theorem clock_english : isNonBlank "Toki" = true := by decide

private theorem clock_latin : isNonBlank "Horologium" = true := by decide

private theorem clock_likes : "1" = "" ∨ "1" = "0" ∨ "1" = "1" := Or.inr (Or.inr rfl)

/-- A table whose Japanese column has a Japanese name. -/
def clockAllocator : AgentNameAllocator :=
  ⟨[⟨2, "時計", "トケイ", "Toki", "Horologium", "1", clock_scale, clock_coordinate,
    clock_japanese, clock_english, clock_latin, clock_likes⟩], .empty, ∅,
    ⟨.empty, .empty⟩⟩

/-- **A Japanese name** is issued to a model of Anthropic, and no draft accepts it. -/
theorem not_replyRoundTrip_clock : ∃ assignment next,
    AgentNameAllocator.allocate "assignment:1" "space:1" "work:1" "execution:1" "node:1" "pilot:1"
      cupCandidate clockAllocator = .ok assignment next ∧
    ¬ReplyRoundTrip assignment := by
  have hissues : issuesName clockAllocator "トケイ" = true := by decide +kernel
  obtain ⟨assignment, next, h, hname⟩ := exists_of_issuesName hissues
  refine ⟨assignment, next, h, ?_⟩
  rw [replyRoundTrip_iff h, hname]
  decide +kernel

end Nanihold
