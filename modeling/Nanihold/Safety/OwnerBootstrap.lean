import Nanihold.Replay.Restart

/-!
# Owner bootstrap in a run

A bootstrap code opens one browser session, before the code expires, and only the token of a
session that was so opened authenticates, before the session expires. Commands of the other
services may come in between, and so may restarts: a code that was exchanged stays used, because
the event of the exchange is replayed.

## Main definitions

* `OwnerGrant`, `ownerGrants` — the codes and the sessions that a run hands out.
* `OwnerMove` — what one step does to the codes and the sessions.
* `OwnerHistory` — the codes and the sessions come from the grants of the run.
* `OwnerBootstrapLaw` — the law of codes and sessions.

## Main results

* `ownerMove_step` — every command and every restart makes a move.
* `ownerHistory_run` — the history is kept by every run whose codes are distinct.
* `ownerBootstrapLaw_run` — the law holds in every such run.
-/

namespace Nanihold

variable [Sha256]

/-- What an owner command hands out: a bootstrap code, or the browser session that a code
opened. -/
inductive OwnerGrant where
  | bootstrap (code : String) (expiresAt : DateTime)
  | session (code sessionToken deviceId : String) (expiresAt : DateTime)
  deriving DecidableEq

/-- The code that a grant hands out. -/
def OwnerGrant.issuedCode : OwnerGrant → Option String
  | .bootstrap code _ => some code
  | .session _ _ _ _ => none

/-- The code that was exchanged for a grant. -/
def OwnerGrant.exchangedCode : OwnerGrant → Option String
  | .bootstrap _ _ => none
  | .session code _ _ _ => some code

/-- The grant of an owner command that returns. -/
def OwnerAuthCommand.grant (clock : Clock) : OwnerAuthCommand → OwnerGrant
  | .issue code _ lifetimeSeconds _ =>
    .bootstrap code (clock 0 + OwnerBootstrapService.seconds lifetimeSeconds)
  | .exchange code token _ deviceId lifetimeSeconds _ =>
    .session code token deviceId (clock 0 + OwnerBootstrapService.seconds lifetimeSeconds)

/-- The grant of a step, if it is an owner command and returns. -/
def ownerGrant (s : MemorySystem) (input : ProcessCommand × Clock) : Option OwnerGrant :=
  match input.1 with
  | .service (.ownerAuth c) =>
    match c.run input.2 s with
    | .ok _ _ => some (c.grant input.2)
    | .error _ _ => none
  | _ => none

/-- The grants of a run, in order. -/
def ownerGrants (dataSpace : DataSpace) (inputs : List (ProcessCommand × Clock)) :
    List OwnerGrant :=
  Run.answers ProcessCommand.step ownerGrant (.new dataSpace) inputs

/-- **The law of codes and sessions** in a run: no code is exchanged twice, each is exchanged
after it was issued and before it expires, and a token authenticates a device only if an exchange
returned that token for that device and its session has not expired. -/
structure OwnerBootstrapLaw (dataSpace : DataSpace) (inputs : List (ProcessCommand × Clock)) :
    Prop where
  exchanged_once : ((ownerGrants dataSpace inputs).filterMap OwnerGrant.exchangedCode).Nodup
  exchanged_in_time : ∀ first input rest, inputs = first ++ input :: rest →
    ∀ code token deviceId sessionExpiresAt,
      ownerGrant (runProcesses (.new dataSpace) first) input =
        some (.session code token deviceId sessionExpiresAt) →
      ∃ expiresAt, .bootstrap code expiresAt ∈ ownerGrants dataSpace first ∧
        input.2 0 < expiresAt
  authenticated : ∀ token clock deviceId,
    (runProcesses (.new dataSpace) inputs).kernel.ownerBootstrap.authenticate token clock =
      .ok deviceId →
    ∃ code expiresAt, .session code token deviceId expiresAt ∈ ownerGrants dataSpace inputs ∧
      clock 0 < expiresAt

/-! ### One step -/

/-- **What one step does** to the codes and the sessions, and what it grants: nothing; or a code
is filed; or an unused code that has not expired is used up and a session is filed. -/
inductive OwnerMove (auth : OwnerBootstrapService) (now : DateTime) :
    Option OwnerGrant → OwnerBootstrapService → Prop
  | kept {next : OwnerBootstrapService} (codes : next.codes = auth.codes)
      (sessions : next.sessions = auth.sessions) : OwnerMove auth now none next
  | issued {next : OwnerBootstrapService} {code : String} (record : BootstrapCodeRecord)
      (digest : record.codeSha256 = hexdigest (.text code))
      (codes : next.codes = auth.codes.set record.bootstrapId record)
      (sessions : next.sessions = auth.sessions) :
      OwnerMove auth now (some (.bootstrap code record.expiresAt)) next
  | exchanged {next : OwnerBootstrapService} {code token : String} {id : Identifier}
      {record : BootstrapCodeRecord} (session : BrowserSessionRecord)
      (known : auth.codes.get? id = some record)
      (digest : record.codeSha256 = hexdigest (.text code))
      (unused : record.usedAt = none) (in_time : now < record.expiresAt)
      (session_digest : session.tokenSha256 = hexdigest (.text token))
      (codes : next.codes = auth.codes.set id { record with usedAt := some now })
      (sessions : next.sessions = auth.sessions.set session.sessionId session) :
      OwnerMove auth now (some (.session code token session.deviceId session.expiresAt)) next

variable {s : MemorySystem}

omit [Sha256] in
/-- An event of another service leaves the owner bootstrap alone. -/
theorem System.Stepped.ownerBootstrap_eq {event : EventEnvelope} {s' : MemorySystem}
    (hs : s.KernelSynced) (h : s.Stepped event s') (hnot : ¬ event.payload.IsOwnerAuth) :
    s'.kernel.ownerBootstrap = s.kernel.ownerBootstrap := by
  cases h.wrote with
  | kernel payload _ _ happlied =>
    exact (Kernel.changes_of_applyKernel hs.consistent happlied).owner_bootstrap
  | activation _ _ _ _ _ hkernel => rw [hkernel]
  | ownerAuth payload hpayload _ _ _ => exact absurd ⟨payload, hpayload⟩ hnot
  | other _ hkernel => rw [hkernel]

/-- Events of the Activation service leave the owner bootstrap alone. -/
theorem ownerBootstrap_of_reaches {s' : MemorySystem} (hs : s.KernelSynced)
    (h : System.Reaches EventPayload.IsActivation s s') :
    s'.kernel.ownerBootstrap = s.kernel.ownerBootstrap := by
  have hkept : s'.KernelSynced ∧ s'.kernel.ownerBootstrap = s.kernel.ownerBootstrap := by
    refine h.invariant (I := fun mid => mid.KernelSynced ∧
      mid.kernel.ownerBootstrap = s.kernel.ownerBootstrap) ?_ ?_ ⟨hs, rfl⟩
    · intro mid event next hmid hactivation hmirrored
      obtain ⟨hmid, hauth⟩ := hmid
      obtain ⟨payload, hpayload⟩ := hactivation
      refine ⟨System.kernelSynced_of_stepped hmid hmirrored.stepped, ?_⟩
      rw [← hauth]
      refine hmirrored.stepped.ownerBootstrap_eq hmid fun howner => ?_
      obtain ⟨_, howner⟩ := howner
      cases hpayload.symm.trans howner
    · intro mid data hmid
      obtain ⟨hmid, hauth⟩ := hmid
      exact ⟨System.kernelSynced_putBlob hmid data, hauth⟩
  exact hkept.2

/-- Commands of the other services, and restarts, leave the owner bootstrap alone. -/
theorem ownerBootstrap_step_of_other (hs : s.Synced) (input : ProcessCommand × Clock)
    (hother : ∀ c, input.1 ≠ .service (.ownerAuth c)) :
    (ProcessCommand.step s input).kernel.ownerBootstrap = s.kernel.ownerBootstrap := by
  have hkernel := hs.toKernelSynced
  obtain ⟨command, clock⟩ := input
  cases command with
  | restart pageSize =>
    rw [ProcessCommand.step, ProcessCommand.run]
    rcases finalState_bootstrap hs pageSize clock with hsame | hinterrupted
    · rw [hsame]
    · rw [hinterrupted]
      have hrestarted := (System.synced_restarted hs).toKernelSynced
      exact (ownerBootstrap_of_reaches hrestarted
        (interruptLostReorientation_reaches hrestarted clock)).trans rfl
  | service c =>
    rw [ProcessCommand.step, ProcessCommand.run]
    cases c with
    | kernel c =>
      have hnot {event : EventEnvelope} {payload : KernelPayload}
          (hpayload : event.payload = .kernel payload) : ¬ event.payload.IsOwnerAuth := by
        rintro ⟨_, howner⟩
        cases hpayload.symm.trans howner
      change ((c.run clock).finalState s).kernel.ownerBootstrap = _
      have hout := c.outcome hkernel clock
      generalize (c.run clock).finalState s = s' at hout ⊢
      cases hout with
      | unchanged => rfl
      | recorded _ hpayload _ hmirrored =>
        exact hmirrored.stepped.ownerBootstrap_eq hkernel (hnot hpayload)
      | promoted hcreated _ hfirst hlinked hsecond =>
        have hmid := System.kernelSynced_of_stepped hkernel hfirst.stepped
        rw [hsecond.stepped.ownerBootstrap_eq hmid (hnot hlinked),
          hfirst.stepped.ownerBootstrap_eq hkernel (hnot hcreated)]
    | activation c => exact ownerBootstrap_of_reaches hkernel (c.outcome hkernel clock)
    | history c => exact ownerBootstrap_of_reaches hkernel (c.outcome hkernel clock)
    | ownerAuth c => exact absurd rfl (hother c)

/-- An owner command whose recordings make a move when they return makes that move, or it raises
and changes nothing. -/
theorem ownerMove_of_plan (c : OwnerAuthCommand) (clock : Clock)
    (plan : MemorySystem → Except VsmError (Recording OwnerBootstrapService))
    (hrun : c.run clock = perform plan >>= fun _ => pure ())
    (hplan : ∀ r, plan s = .ok r → ∃ payload key occurredAt assign,
      r = s.kernel.ownerBootstrap.recording payload key occurredAt assign ∧
        ∀ version, OwnerMove s.kernel.ownerBootstrap (clock 0) (some (c.grant clock))
          (assign { s.kernel.ownerBootstrap with version := version })) :
    OwnerMove s.kernel.ownerBootstrap (clock 0)
      (ownerGrant s (.service (.ownerAuth c), clock))
      (ProcessCommand.step s (.service (.ownerAuth c), clock)).kernel.ownerBootstrap := by
  have hraise {e : VsmError} (herror : perform plan s = .error e s) :
      OwnerMove s.kernel.ownerBootstrap (clock 0)
        (ownerGrant s (.service (.ownerAuth c), clock))
        (ProcessCommand.step s (.service (.ownerAuth c), clock)).kernel.ownerBootstrap := by
    have hstep : c.run clock s = .error e s := by
      rw [hrun, EStateM.run_bind_of_error herror]
    simp only [ProcessCommand.step, ProcessCommand.run, ServiceCommand.run, ownerGrant, hstep,
      EStateM.finalState_of_error hstep]
    exact .kept rfl rfl
  cases hr : plan s with
  | error e => exact hraise (perform_of_error hr)
  | ok r =>
    obtain ⟨payload, key, occurredAt, assign, rfl, hmove⟩ := hplan r hr
    rcases record_cases (s.kernel.ownerBootstrap.recording payload key occurredAt assign) s with
      ⟨e, herror⟩ | ⟨event, result, ledger, -, -, hrecord⟩
    · exact hraise ((perform_of_ok hr).trans herror)
    · have hstep := EStateM.run_bind_of_ok (f := fun _ => pure ())
        ((perform_of_ok hr).trans hrecord)
      rw [← hrun, EStateM.run_pure_eq] at hstep
      simp only [ProcessCommand.step, ProcessCommand.run, ServiceCommand.run, ownerGrant, hstep,
        EStateM.finalState_of_ok hstep]
      exact hmove result.streamVersion

/-- **Issuing a code** files it. -/
theorem ownerMove_issue (code : String) (bootstrapId : Identifier) (lifetimeSeconds : Int)
    (key : String) (clock : Clock) :
    OwnerMove s.kernel.ownerBootstrap (clock 0)
      (ownerGrant s (.service (.ownerAuth (.issue code bootstrapId lifetimeSeconds key)), clock))
      (ProcessCommand.step s
        (.service (.ownerAuth (.issue code bootstrapId lifetimeSeconds key)),
          clock)).kernel.ownerBootstrap := by
  refine ownerMove_of_plan _ clock _ rfl fun r hr => ?_
  obtain ⟨_, -, hr⟩ := Checked.bind_eq_ok_iff.mp hr
  rw [Checked.check_bind_eq_ok_iff] at hr
  obtain ⟨-, hr⟩ := hr
  obtain rfl := Checked.pure_eq_ok_iff.mp hr
  exact ⟨_, _, _, _, rfl, fun version => .issued ⟨bootstrapId,
    s.kernel.ownerBootstrap.ownerId, hexdigest (.text code), clock 0,
    clock 0 + OwnerBootstrapService.seconds lifetimeSeconds, none⟩ rfl rfl rfl⟩

/-- **Exchanging a code** uses it up and files the session. -/
theorem ownerMove_exchange (hkeyed : s.kernel.ownerBootstrap.Keyed) (code token : String)
    (sessionId : Identifier) (deviceId : String) (lifetimeSeconds : Int) (key : String)
    (clock : Clock) :
    OwnerMove s.kernel.ownerBootstrap (clock 0)
      (ownerGrant s (.service (.ownerAuth
        (.exchange code token sessionId deviceId lifetimeSeconds key)), clock))
      (ProcessCommand.step s (.service (.ownerAuth
        (.exchange code token sessionId deviceId lifetimeSeconds key)),
          clock)).kernel.ownerBootstrap := by
  refine ownerMove_of_plan _ clock _ rfl fun r hr => ?_
  obtain ⟨_, -, hr⟩ := Checked.bind_eq_ok_iff.mp hr
  simp only [Checked.check_bind_eq_ok_iff, Checked.orRaise_bind_eq_ok_iff] at hr
  obtain ⟨-, -, record, hfound, -, hunused, hin_time, hr⟩ := hr
  split at hr
  · cases hr
  · obtain rfl := Checked.pure_eq_ok_iff.mp hr
    have hdigest : record.codeSha256 = hexdigest (.text code) := by
      simpa using List.find?_some hfound
    obtain ⟨id, hid⟩ := (OrderedDict.mem_values_iff _ _).mp (List.mem_of_find?_eq_some hfound)
    obtain rfl := hkeyed id record hid
    exact ⟨_, _, _, _, rfl, fun version => .exchanged ⟨sessionId,
      s.kernel.ownerBootstrap.ownerId, deviceId, hexdigest (.text token), clock 0,
      clock 0 + OwnerBootstrapService.seconds lifetimeSeconds, .active⟩
      hid hdigest hunused hin_time rfl rfl rfl⟩

/-- **Every command and every restart** makes a move. -/
theorem ownerMove_step (hs : s.Synced) (input : ProcessCommand × Clock) :
    OwnerMove s.kernel.ownerBootstrap (input.2 0) (ownerGrant s input)
      (ProcessCommand.step s input).kernel.ownerBootstrap := by
  by_cases howner : ∃ c, input.1 = .service (.ownerAuth c)
  · obtain ⟨command, clock⟩ := input
    obtain ⟨c, rfl⟩ := howner
    cases c with
    | issue code bootstrapId lifetimeSeconds key => exact ownerMove_issue code _ _ key clock
    | exchange code token sessionId deviceId lifetimeSeconds key =>
      exact ownerMove_exchange hs.toKernelSynced.keyed code token _ _ _ key clock
  · have hother : ∀ c, input.1 ≠ .service (.ownerAuth c) := fun c heq => howner ⟨c, heq⟩
    have hgrant : ownerGrant s input = none := by
      rw [ownerGrant]
      split
      · next c heq => exact absurd heq (hother c)
      · rfl
    have hkept := ownerBootstrap_step_of_other hs input hother
    rw [hgrant]
    exact .kept (by rw [hkept]) (by rw [hkept])

/-! ### A run -/

/-- The codes and the sessions come from the grants of the run, every exchanged code is used up,
and none was exchanged twice. -/
structure OwnerHistory (auth : OwnerBootstrapService) (grants : List OwnerGrant) : Prop where
  code_granted : ∀ id record, auth.codes.get? id = some record →
    ∃ code, record.codeSha256 = hexdigest (.text code) ∧
      .bootstrap code record.expiresAt ∈ grants
  digest_unique : ∀ id id' record record', auth.codes.get? id = some record →
    auth.codes.get? id' = some record' → record.codeSha256 = record'.codeSha256 → id = id'
  exchanged_used : ∀ id record code, auth.codes.get? id = some record →
    record.codeSha256 = hexdigest (.text code) →
    code ∈ grants.filterMap OwnerGrant.exchangedCode → record.usedAt ≠ none
  session_granted : ∀ id session, auth.sessions.get? id = some session →
    ∃ code token, session.tokenSha256 = hexdigest (.text token) ∧
      .session code token session.deviceId session.expiresAt ∈ grants
  exchanged_granted : ∀ code ∈ grants.filterMap OwnerGrant.exchangedCode,
    code ∈ grants.filterMap OwnerGrant.issuedCode
  exchanged_once : (grants.filterMap OwnerGrant.exchangedCode).Nodup

theorem ownerHistory_new (dataSpaceId ownerId : String) :
    OwnerHistory (.new dataSpaceId ownerId) [] where
  code_granted _ _ h := by cases h
  digest_unique _ _ _ _ h := by cases h
  exchanged_used _ _ _ h := by cases h
  session_granted _ _ h := by cases h
  exchanged_granted _ h := by cases h
  exchanged_once := .nil

variable {auth next : OwnerBootstrapService} {now : DateTime} {grants : List OwnerGrant}
  {grant : Option OwnerGrant}

omit [Sha256] in
theorem OwnerGrant.mem_issuedCodes {code : String} :
    code ∈ grants.filterMap issuedCode ↔ ∃ expiresAt, .bootstrap code expiresAt ∈ grants := by
  rw [List.mem_filterMap]
  constructor
  · rintro ⟨grant, hgrant, hcode⟩
    cases grant with
    | bootstrap known expiresAt =>
      obtain rfl := Option.some.inj hcode
      exact ⟨expiresAt, hgrant⟩
    | session => cases hcode
  · rintro ⟨expiresAt, hgrant⟩
    exact ⟨_, hgrant, rfl⟩

/-- A code that was not issued before keeps the history. -/
theorem OwnerHistory.issued
    (hinjective : Function.Injective fun content => hexdigest (.text content))
    (h : OwnerHistory auth grants) {code : String} (record : BootstrapCodeRecord)
    (hdigest : record.codeSha256 = hexdigest (.text code))
    (hcodes : next.codes = auth.codes.set record.bootstrapId record)
    (hsessions : next.sessions = auth.sessions)
    (hfresh : code ∉ grants.filterMap OwnerGrant.issuedCode) :
    OwnerHistory next (grants ++ [.bootstrap code record.expiresAt]) := by
  have hold {id : Identifier} {known : BootstrapCodeRecord}
      (hknown : auth.codes.get? id = some known) : known.codeSha256 ≠ record.codeSha256 := by
    obtain ⟨issued, hissued, hgranted⟩ := h.code_granted id known hknown
    intro hsame
    obtain rfl := hinjective (hissued.symm.trans (hsame.trans hdigest))
    exact hfresh (OwnerGrant.mem_issuedCodes.mpr ⟨_, hgranted⟩)
  have hexchanged : (grants ++ [OwnerGrant.bootstrap code record.expiresAt]).filterMap
      OwnerGrant.exchangedCode = grants.filterMap OwnerGrant.exchangedCode := by
    rw [List.filterMap_append]
    exact List.append_nil _
  constructor
  · intro id known hknown
    rw [hcodes, OrderedDict.get?_set] at hknown
    split at hknown
    · obtain rfl := Option.some.inj hknown
      exact ⟨code, hdigest, by simp⟩
    · obtain ⟨issued, hissued, hgranted⟩ := h.code_granted id known hknown
      exact ⟨issued, hissued, List.mem_append_left _ hgranted⟩
  · intro id id' known known' hknown hknown' hsame
    rw [hcodes, OrderedDict.get?_set] at hknown hknown'
    split at hknown <;> split at hknown'
    · next hid hid' => exact hid.symm.trans hid'
    · obtain rfl := Option.some.inj hknown
      exact absurd hsame.symm (hold hknown')
    · obtain rfl := Option.some.inj hknown'
      exact absurd hsame (hold hknown)
    · exact h.digest_unique id id' known known' hknown hknown' hsame
  · intro id known exchanged hknown hsame hmem
    rw [hexchanged] at hmem
    rw [hcodes, OrderedDict.get?_set] at hknown
    split at hknown
    · obtain rfl := Option.some.inj hknown
      obtain rfl := hinjective (hdigest.symm.trans hsame)
      exact absurd (h.exchanged_granted _ hmem) hfresh
    · exact h.exchanged_used id known exchanged hknown hsame hmem
  · intro id session hsession
    rw [hsessions] at hsession
    obtain ⟨exchanged, token, htoken, hgranted⟩ := h.session_granted id session hsession
    exact ⟨exchanged, token, htoken, List.mem_append_left _ hgranted⟩
  · intro exchanged hmem
    rw [hexchanged] at hmem
    rw [List.filterMap_append]
    exact List.mem_append_left _ (h.exchanged_granted exchanged hmem)
  · rw [hexchanged]
    exact h.exchanged_once

/-- The code of an unused record was issued, with the expiry of the record, and was not
exchanged. -/
theorem OwnerHistory.code_of_unused
    (hinjective : Function.Injective fun content => hexdigest (.text content))
    (h : OwnerHistory auth grants) {id : Identifier} {record : BootstrapCodeRecord}
    (hknown : auth.codes.get? id = some record) {code : String}
    (hdigest : record.codeSha256 = hexdigest (.text code)) (hunused : record.usedAt = none) :
    .bootstrap code record.expiresAt ∈ grants ∧
      code ∉ grants.filterMap OwnerGrant.exchangedCode := by
  obtain ⟨issued, hissued, hgranted⟩ := h.code_granted id record hknown
  obtain rfl := hinjective (hissued.symm.trans hdigest)
  exact ⟨hgranted, fun hmem => h.exchanged_used id record issued hknown hdigest hmem hunused⟩

/-- An exchange of an unused code keeps the history. -/
theorem OwnerHistory.exchanged
    (hinjective : Function.Injective fun content => hexdigest (.text content))
    (h : OwnerHistory auth grants) {code token : String} {id : Identifier}
    {record : BootstrapCodeRecord} (session : BrowserSessionRecord)
    (hknown : auth.codes.get? id = some record)
    (hdigest : record.codeSha256 = hexdigest (.text code)) (hunused : record.usedAt = none)
    (htoken : session.tokenSha256 = hexdigest (.text token))
    (hcodes : next.codes = auth.codes.set id { record with usedAt := some now })
    (hsessions : next.sessions = auth.sessions.set session.sessionId session) :
    OwnerHistory next (grants ++ [.session code token session.deviceId session.expiresAt]) := by
  obtain ⟨hgranted, hnot_exchanged⟩ := h.code_of_unused hinjective hknown hdigest hunused
  set granted := OwnerGrant.session code token session.deviceId session.expiresAt with hgrant
  have hexchanged : (grants ++ [granted]).filterMap OwnerGrant.exchangedCode =
      grants.filterMap OwnerGrant.exchangedCode ++ [code] := by
    rw [List.filterMap_append]
    rfl
  have hissued : (grants ++ [granted]).filterMap OwnerGrant.issuedCode =
      grants.filterMap OwnerGrant.issuedCode := by
    rw [List.filterMap_append]
    exact List.append_nil _
  -- A record after the exchange: its digest is that of a record before it.
  have hbefore {id' : Identifier} {known : BootstrapCodeRecord}
      (hget : next.codes.get? id' = some known) :
      ∃ old, auth.codes.get? id' = some old ∧ old.codeSha256 = known.codeSha256 ∧
        old.expiresAt = known.expiresAt ∧ (known.usedAt ≠ none ∨ id' ≠ id ∧ known = old) := by
    rw [hcodes, OrderedDict.get?_set] at hget
    split at hget
    · next hid =>
      obtain rfl := hid
      obtain rfl := Option.some.inj hget
      exact ⟨record, hknown, rfl, rfl, Or.inl (by simp)⟩
    · next hid => exact ⟨known, hget, rfl, rfl, Or.inr ⟨fun heq => hid heq.symm, rfl⟩⟩
  constructor
  · intro id' known hget
    obtain ⟨old, hold, hsame, hexpires, -⟩ := hbefore hget
    obtain ⟨issued, hcode, hmem⟩ := h.code_granted id' old hold
    rw [← hsame, ← hexpires]
    exact ⟨issued, hcode, List.mem_append_left _ hmem⟩
  · intro id' id'' known known' hget hget' heq
    obtain ⟨old, hold, hsame, -⟩ := hbefore hget
    obtain ⟨old', hold', hsame', -⟩ := hbefore hget'
    exact h.digest_unique id' id'' old old' hold hold' (hsame.trans (heq.trans hsame'.symm))
  · intro id' known other hget hother hmem
    obtain ⟨old, hold, hsame, -, hused | ⟨hne, rfl⟩⟩ := hbefore hget
    · exact hused
    · rw [hexchanged, List.mem_append, List.mem_singleton] at hmem
      rcases hmem with hmem | rfl
      · exact h.exchanged_used id' known other hold hother hmem
      · exact absurd (h.digest_unique id' id _ _ hold hknown (hother.trans hdigest.symm)) hne
  · intro id' opened hget
    rw [hsessions, OrderedDict.get?_set] at hget
    split at hget
    · obtain rfl := Option.some.inj hget
      exact ⟨code, token, htoken, by simp [hgrant]⟩
    · obtain ⟨other, known, hopened, hmem⟩ := h.session_granted id' opened hget
      exact ⟨other, known, hopened, List.mem_append_left _ hmem⟩
  · intro other hmem
    rw [hexchanged, List.mem_append, List.mem_singleton] at hmem
    rw [hissued]
    rcases hmem with hmem | rfl
    · exact h.exchanged_granted other hmem
    · exact OwnerGrant.mem_issuedCodes.mpr ⟨_, hgranted⟩
  · rw [hexchanged, ← List.concat_eq_append]
    exact h.exchanged_once.concat hnot_exchanged

/-- **A move** keeps the history, if the code that it issues is new. -/
theorem OwnerHistory.move
    (hinjective : Function.Injective fun content => hexdigest (.text content))
    (h : OwnerHistory auth grants) (hmove : OwnerMove auth now grant next)
    (hdistinct : ((grants ++ grant.toList).filterMap OwnerGrant.issuedCode).Nodup) :
    OwnerHistory next (grants ++ grant.toList) := by
  cases hmove with
  | kept hcodes hsessions =>
    rw [Option.toList_none, List.append_nil]
    exact { h with
      code_granted := by rw [hcodes]; exact h.code_granted
      digest_unique := by rw [hcodes]; exact h.digest_unique
      exchanged_used := by rw [hcodes]; exact h.exchanged_used
      session_granted := by rw [hsessions]; exact h.session_granted }
  | @issued _ code record hdigest hcodes hsessions =>
    refine h.issued hinjective record hdigest hcodes hsessions fun hmem => ?_
    rw [List.filterMap_append] at hdistinct
    exact List.disjoint_of_nodup_append hdistinct hmem (List.mem_singleton.mpr rfl)
  | exchanged session hknown hdigest hunused _ htoken hcodes hsessions =>
    exact h.exchanged hinjective session hknown hdigest hunused htoken hcodes hsessions

/-- **The history** is kept by every run whose issued codes are distinct. -/
theorem ownerHistory_run (dataSpace : DataSpace)
    (hinjective : Function.Injective fun content => hexdigest (.text content))
    (inputs : List (ProcessCommand × Clock))
    (hdistinct : ((ownerGrants dataSpace inputs).filterMap OwnerGrant.issuedCode).Nodup) :
    OwnerHistory (runProcesses (.new dataSpace) inputs).kernel.ownerBootstrap
      (ownerGrants dataSpace inputs) := by
  induction inputs using List.reverseRecOn with
  | nil => exact ownerHistory_new _ _
  | append_singleton inputs input ih =>
    have hmove := ownerMove_step (syncedIn_runProcesses dataSpace inputs).1 input
    rw [ownerGrants, Run.answers_concat] at hdistinct ⊢
    rw [runProcesses, Run.exec_concat]
    refine (ih ?_).move hinjective hmove hdistinct
    rw [List.filterMap_append] at hdistinct
    exact hdistinct.of_append_left

/-- **The law of codes and sessions** holds in every run whose issued codes are distinct, where
SHA-256 tells texts apart. -/
theorem ownerBootstrapLaw_run (dataSpace : DataSpace)
    (hinjective : Function.Injective fun content => hexdigest (.text content))
    (inputs : List (ProcessCommand × Clock))
    (hdistinct : ((ownerGrants dataSpace inputs).filterMap OwnerGrant.issuedCode).Nodup) :
    OwnerBootstrapLaw dataSpace inputs := by
  have hhistory := ownerHistory_run dataSpace hinjective inputs hdistinct
  constructor
  · exact hhistory.exchanged_once
  · rintro first input rest rfl code token deviceId sessionExpiresAt hgrant
    have hmove := ownerMove_step (syncedIn_runProcesses dataSpace first).1 input
    rw [ownerGrants, Run.answers_append, List.filterMap_append] at hdistinct
    have hfirst := ownerHistory_run dataSpace hinjective first hdistinct.of_append_left
    rw [hgrant] at hmove
    cases hmove with
    | exchanged session hknown hdigest hunused hin_time _ _ _ =>
      exact ⟨_, (hfirst.code_of_unused hinjective hknown hdigest hunused).1, hin_time⟩
  · intro token clock deviceId hauthenticated
    rw [OwnerBootstrapService.authenticate, Checked.orRaise_bind_eq_ok_iff] at hauthenticated
    obtain ⟨session, hfound, hauthenticated⟩ := hauthenticated
    rw [Checked.check_bind_eq_ok_iff] at hauthenticated
    obtain ⟨⟨-, -, hin_time⟩, hdevice⟩ := hauthenticated
    obtain rfl := Checked.pure_eq_ok_iff.mp hdevice
    have hdigest : session.tokenSha256 = hexdigest (.text token) := by
      simpa using List.find?_some hfound
    obtain ⟨id, hid⟩ := (OrderedDict.mem_values_iff _ _).mp (List.mem_of_find?_eq_some hfound)
    obtain ⟨code, known, hknown, hgranted⟩ := hhistory.session_granted id session hid
    obtain rfl := hinjective (hknown.symm.trans hdigest)
    exact ⟨code, session.expiresAt, hgranted, hin_time⟩

/-- A digest function for runs on concrete inputs that tells texts apart. -/
@[reducible]
def Sha256.verbatim : Sha256 where
  hexdigest
    | .text content => content
    | document => Sha256.polynomial.hexdigest document

/-- The owner of the commissioned company exchanges a code after a restart, and tries it again
after another. -/
def ownerLogin : List (ProcessCommand × Clock) :=
  commissioning.map (fun input => (.service input.1, input.2)) ++
    [(.service (.ownerAuth (.issue "code:1" "bootstrap:1" 900 "issue:1")), fun _ => 0),
      (.restart 500, fun _ => 0),
      (.service (.ownerAuth (.exchange "code:1" "token:1" "session:1" "device:1" 3600
        "exchange:1")), fun _ => 60000000),
      (.restart 500, fun _ => 0),
      (.service (.ownerAuth (.exchange "code:1" "token:2" "session:2" "device:2" 3600
        "exchange:2")), fun _ => 60000000)]

omit [Sha256] in
/-- The second exchange is refused, and the first token authenticates. -/
theorem ownerBootstrapLaw_ownerLogin :
    letI := Sha256.verbatim
    OwnerBootstrapLaw companySpace ownerLogin ∧
      ownerGrants companySpace ownerLogin =
        [.bootstrap "code:1" 900000000, .session "code:1" "token:1" "device:1" 3660000000] ∧
      (runProcesses (.new companySpace) ownerLogin).kernel.ownerBootstrap.authenticate "token:1"
        (fun _ => 60000000) = .ok "device:1" := by
  let := Sha256.verbatim
  have hgrants : ownerGrants companySpace ownerLogin =
      [.bootstrap "code:1" 900000000, .session "code:1" "token:1" "device:1" 3660000000] := by
    decide +kernel
  refine ⟨ownerBootstrapLaw_run companySpace (fun _ _ heq => heq) ownerLogin ?_, hgrants,
    by decide +kernel⟩
  rw [hgrants]
  decide

end Nanihold
