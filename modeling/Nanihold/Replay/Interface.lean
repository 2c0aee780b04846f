import Nanihold.Projection

/-!
# What Interface and Token Lab events leave alone

The handlers of Interface and Token Lab events write down the version of the event's stream
and no other version.

## Main results

* `versions_of_applyInterface`, `versions_of_applyTokenLab` — the versions after an event.
-/

namespace Nanihold

variable {event : EventEnvelope} {cursor : Nat}

theorem projectAction_versions (conversationId : String) (i : InterfaceService)
    (action : InterfaceAction) :
    (projectAction conversationId i action).versions = i.versions := by
  cases action <;> rfl

theorem foldl_projectAction_versions (conversationId : String) :
    ∀ (actions : List InterfaceAction) (i : InterfaceService),
      (actions.foldl (projectAction conversationId) i).versions = i.versions
  | [], _ => rfl
  | action :: actions, i => by
    rw [List.foldl_cons, foldl_projectAction_versions conversationId actions,
      projectAction_versions]

theorem foldlM_projectCommitment_versions :
    ∀ (commitments : List Commitment) (i : InterfaceService),
      Checked.Yields (commitments.foldlM projectCommitment i) fun next =>
        next.versions = i.versions
  | [], i => Checked.yields_pure.mpr rfl
  | commitment :: commitments, i => by
    rw [List.foldlM_cons, projectCommitment]
    simp only [bind_assoc, Checked.yields_check_bind, pure_bind]
    exact fun _ => foldlM_projectCommitment_versions commitments _

private theorem yields_versions (i : InterfaceService) (payload : InterfacePayload) :
    Checked.Yields (onInterface event cursor i payload) fun next =>
      next.versions = i.versions := by
  cases payload with
  | historyCommitmentsMaterialized commitments resultEventIds =>
    simp only [onInterface, Checked.yields_bind, Checked.yields_pure]
    intro _ _ mid hmid
    exact (foldlM_projectCommitment_versions commitments i).of_ok hmid
  | interfaceResponseRecorded response =>
    simp [onInterface, onInterfaceResponseRecorded, InterfaceService.appendMessage,
      foldl_projectAction_versions]
  | _ => simp [onInterface, InterfaceService.appendMessage, onReorientationSessionAdvanced]

theorem versions_of_applyInterface {payload : InterfacePayload} {i next : InterfaceService}
    (h : applyInterface event payload cursor i = .ok next) :
    next.versions = i.versions.set event.streamId event.streamVersion := by
  obtain ⟨mid, hmid, hnext⟩ := Checked.bind_eq_ok_iff.mp h
  obtain rfl := Checked.pure_eq_ok_iff.mp hnext
  rw [← (yields_versions i payload).of_ok hmid]

theorem versions_of_applyTokenLab {payload : TokenLabPayload} {t next : TokenLabEventService}
    (h : applyTokenLab event payload t = .ok next) :
    next.versions = t.versions.set event.streamId event.streamVersion := by
  have hyields : Checked.Yields (applyTokenLab event payload t) fun next =>
      next.versions = t.versions.set event.streamId event.streamVersion := by
    cases payload <;> simp [applyTokenLab]
  exact hyields.of_ok h

end Nanihold
