import Mathlib.Data.List.Forall2
import Nanihold.Safety.PreflightCache

/-!
# Replaced cache entries

The gate means to replace the entry of a verification tuple when it stores newer evidence for the
tuple. It looks for the tuple in the evidence of an entry, where the tuple stands one level deeper,
and so it replaces nothing: the file holds all that was ever stored. There is one entry for each
tuple, the last, as long as no step stores evidence for a tuple that has an entry.

## Main definitions

* `CacheLog` — the cache file with the evidence that was stored in it.
* `ReplacesEntries` — the file holds for each tuple what was stored last, and returns nothing else.
* `PreflightStep.Supersedes` — a step that stores evidence for a tuple that has an entry.

## Main results

* `keepsEverything_exec` — no run ever drops an entry.
* `replacesEntries_exec` — the entries are the last ones if no step supersedes an entry.
-/

namespace Nanihold

/-- The entry has been made for the tuple. -/
def isEntryOf (verificationTuple : VerificationTuple) (entry : PyValue) : Bool :=
  match asMapping (some entry) with
  | none => false
  | some entry => sameVerificationTuple (getName entry "verification_tuple") verificationTuple

/-- The entry of some evidence, as it is read back. -/
def GateEvidence.StoredAs (evidence : GateEvidence) (entry : PyValue) : Prop :=
  ∃ capabilities,
    (PyValue.dict evidence.measuredCapabilities).reload = some (.dict capabilities) ∧
    entry = (evidence.withCapabilities capabilities).entry

/-! ### Steps with their log -/

/-- A cache file, and the evidence that was stored in it, the oldest first. -/
structure CacheLog where
  cache : CacheFile
  stored : List GateEvidence

/-- The evidence that was stored last for a tuple. -/
def CacheLog.lastStored (s : CacheLog) (verificationTuple : VerificationTuple) :
    Option GateEvidence :=
  (s.stored.filter fun evidence => evidence.verificationTuple = verificationTuple).getLast?

namespace PreflightStep

/-- The file after a call, and what has been stored. -/
def logged (s : CacheLog) (step : PreflightStep) : CacheLog :=
  match step.gate.dispatchPreflight step.call s.cache with
  | .ok (result, cache') =>
    ⟨cache', if result.cacheHit = true then s.stored else s.stored ++ [result.evidence]⟩
  | .error _ => s

/-- **A call stores evidence**: nothing is found, the trial passes, the hooks agree and the file can
be written. -/
structure Stores (cache : CacheFile) (step : PreflightStep) (evidence : GateEvidence) : Prop where
  measured : ∃ adapter requirement cliVersion,
    step.gate.request step.call = .ok (adapter, requirement, cliVersion) ∧
    cache.find step.gate.cachePath (step.gate.key adapter cliVersion) = .ok none ∧
    step.gate.runTrial adapter requirement cliVersion step.call = .ok evidence
  declared : step.call.updateDeclaration evidence = .ok ()
  hooked : step.call.evidenceHook evidence = .ok ()
  writable : step.call.cacheWritable = true

/-- **A call supersedes an entry**: it stores evidence for a tuple that has an entry, of another
time of the version file or of another machine. -/
def Supersedes (cache : CacheFile) (step : PreflightStep) : Prop :=
  ∃ evidence, step.Stores cache evidence ∧ ∃ entries,
    cache.load step.gate.cachePath = .ok entries ∧
      ∃ entry ∈ entries, isEntryOf evidence.verificationTuple entry = true

end PreflightStep

/-- **Entries are replaced**: the entries of a tuple are what was stored last for it, and what a
call finds in the cache is what was stored last. -/
structure ReplacesEntries (s : CacheLog) : Prop where
  entries : ∀ cachePath entries, s.cache.load cachePath = .ok entries → ∀ verificationTuple,
    List.Forall₂ GateEvidence.StoredAs (s.lastStored verificationTuple).toList
      (entries.filter (isEntryOf verificationTuple))
  returned : ∀ (step : PreflightStep) result cache',
    step.gate.dispatchPreflight step.call s.cache = .ok (result, cache') →
      result.cacheHit = true → ∃ evidence ∈ s.lastStored result.evidence.verificationTuple,
        evidence.ReadBack result.evidence

/-! ### Entries -/

section Entries

variable {evidence : GateEvidence} {entry : PyValue}

/-- **Nothing is replaced**: the filter keeps every entry of the gate. -/
theorem isKept_entry (verificationTuple : VerificationTuple) :
    isKept verificationTuple evidence.entry = true := by
  simp only [isKept, GateEvidence.entry, GateEvidence.toDict, sameVerificationTuple, asMapping,
    hasText, getName_named_cons, String.reduceEq, if_true, if_false]
  rfl

private theorem parts_eq_iff {s t : VerificationTuple} :
    (s.adapter = t.adapter ∧ s.cliVersion = t.cliVersion ∧ s.sandboxMode = t.sandboxMode ∧
      s.environmentFingerprint = t.environmentFingerprint) ↔ s = t := by
  cases s
  cases t
  rw [VerificationTuple.mk.injEq]

theorem isEntryOf_entry {verificationTuple : VerificationTuple} :
    isEntryOf verificationTuple evidence.entry = true ↔
      evidence.verificationTuple = verificationTuple := by
  simp only [isEntryOf, GateEvidence.entry, VerificationTuple.asDict, sameVerificationTuple,
    asMapping, hasText, getName_named_cons, String.reduceEq, if_true, if_false, text,
    Bool.and_eq_true, decide_eq_true_eq, and_assoc]
  exact parts_eq_iff

theorem GateEvidence.StoredAs.isKept (h : evidence.StoredAs entry)
    (verificationTuple : VerificationTuple) : isKept verificationTuple entry = true := by
  obtain ⟨_, -, rfl⟩ := h
  exact isKept_entry verificationTuple

theorem GateEvidence.StoredAs.isEntryOf (h : evidence.StoredAs entry)
    {verificationTuple : VerificationTuple} :
    isEntryOf verificationTuple entry = true ↔
      evidence.verificationTuple = verificationTuple := by
  obtain ⟨_, -, rfl⟩ := h
  exact isEntryOf_entry

end Entries

/-! ### What runs keep -/

section Runs

variable {s : CacheLog} {step : PreflightStep}

private theorem orTrial_eq_ok {α : Type} {message : String} {result : Except PreflightError α}
    {value : α} (h : orTrial message result = .ok value) : result = .ok value := by
  rw [orTrial.eq_def] at h
  split at h
  · cases h
  · exact h

private theorem alwaysTrial_eq_ok {α : Type} {message : String} {result : Except PreflightError α}
    {value : α} (h : alwaysTrial message result = .ok value) : result = .ok value := by
  rw [alwaysTrial.eq_def] at h
  split at h
  · cases h
  · exact h

/-- A call that returns found evidence, or stores what it returns. -/
private theorem found_or_stores {result : PreflightResult} {cache cache' : CacheFile}
    (h : step.gate.dispatchPreflight step.call cache = .ok (result, cache')) :
    (result.cacheHit = true ∧ cache' = cache) ∨
      (result.cacheHit = false ∧ step.Stores cache result.evidence ∧
        cache.store step.gate.cachePath result.evidence step.call.cacheWritable = .ok cache') := by
  obtain ⟨⟨adapter, requirement, cliVersion⟩, hrequest, h⟩ := Checked.bind_eq_ok_iff.mp h
  obtain ⟨found, hfound, h⟩ := Checked.bind_eq_ok_iff.mp h
  cases found with
  | some evidence =>
    obtain ⟨rfl, rfl⟩ := Prod.mk.inj (Except.ok.inj h)
    exact Or.inl ⟨rfl, rfl⟩
  | none =>
    obtain ⟨evidence, htrial, h⟩ := Checked.bind_eq_ok_iff.mp h
    obtain ⟨_, hdeclared, h⟩ := Checked.bind_eq_ok_iff.mp h
    obtain ⟨_, hhooked, h⟩ := Checked.bind_eq_ok_iff.mp h
    obtain ⟨stored, hstore, h⟩ := Checked.bind_eq_ok_iff.mp h
    obtain ⟨rfl, rfl⟩ := Prod.mk.inj (Except.ok.inj h)
    refine Or.inr ⟨rfl, ⟨⟨adapter, requirement, cliVersion, hrequest, hfound, htrial⟩, ?_, ?_, ?_⟩,
      hstore⟩
    · exact orTrial_eq_ok hdeclared
    · exact alwaysTrial_eq_ok hhooked
    · obtain ⟨_, -, hstore⟩ := Checked.bind_eq_ok_iff.mp hstore
      obtain ⟨_, -, hstore⟩ := Checked.bind_eq_ok_iff.mp hstore
      exact (Checked.check_bind_eq_ok_iff.mp hstore).1

/-- **The file holds everything** that was ever stored, in the order in which it was stored. -/
structure KeepsEverything (s : CacheLog) : Prop where
  trimmed : ∀ evidence ∈ s.stored, evidence.KeyTrimmed
  entries : ∀ cachePath, ∃ entries, s.cache.load cachePath = .ok entries ∧
    List.Forall₂ GateEvidence.StoredAs s.stored entries

/-- A step changes nothing, or stores evidence at the end of the file. -/
private theorem logged_cases (s : CacheLog) (step : PreflightStep) :
    step.logged s = s ∨ ∃ evidence cache', step.Stores s.cache evidence ∧
      s.cache.store step.gate.cachePath evidence step.call.cacheWritable = .ok cache' ∧
      step.logged s = ⟨cache', s.stored ++ [evidence]⟩ := by
  cases hdispatch : step.gate.dispatchPreflight step.call s.cache with
  | error e =>
    refine Or.inl ?_
    simp only [PreflightStep.logged, hdispatch]
  | ok pair =>
    obtain ⟨result, cache'⟩ := pair
    obtain ⟨hhit, hsame⟩ | ⟨hmiss, hstores, hstore⟩ := found_or_stores hdispatch
    · refine Or.inl ?_
      simp only [PreflightStep.logged, hdispatch, hhit, hsame, if_true]
    · refine Or.inr ⟨result.evidence, cache', hstores, hstore, ?_⟩
      simp only [PreflightStep.logged, hdispatch, hmiss, Bool.false_eq_true, if_false]

private theorem exists_of_mem_right {α β : Type} {R : α → β → Prop} {l : List α} {l' : List β}
    (h : List.Forall₂ R l l') : ∀ b ∈ l', ∃ a ∈ l, R a b := by
  induction h with
  | nil => exact List.forall_mem_nil _
  | cons hab _ ih =>
    refine List.forall_mem_cons.mpr ⟨⟨_, List.mem_cons_self, hab⟩, fun b hb => ?_⟩
    obtain ⟨a, ha, hab⟩ := ih b hb
    exact ⟨a, List.mem_cons_of_mem _ ha, hab⟩

/-- **A step** drops nothing. -/
theorem KeepsEverything.logged (h : KeepsEverything s) : KeepsEverything (step.logged s) := by
  obtain hsame | ⟨evidence, cache', hstores, hstore, heq⟩ := logged_cases s step
  · rwa [hsame]
  obtain ⟨adapter, requirement, cliVersion, hrequest, -, htrial⟩ := hstores.measured
  obtain ⟨old, copies, hload, hcopies, hload'⟩ := CacheFile.load_of_store hstore
  obtain ⟨entries, hentries, hall⟩ := h.entries step.gate.cachePath
  obtain rfl := Except.ok.inj (hload.symm.trans hentries)
  have hkept : old.filter (isKept evidence.verificationTuple) = old := by
    rw [List.filter_eq_self]
    intro entry hentry
    obtain ⟨earlier, -, hstored⟩ := exists_of_mem_right hall entry hentry
    exact hstored.isKept _
  rw [hkept] at hload'
  rw [heq]
  refine ⟨fun e hmem => ?_, fun cachePath => ?_⟩
  · rcases List.mem_append.mp hmem with hold | hnew
    · exact h.trimmed e hold
    · rw [List.mem_singleton.mp hnew]
      exact (PreflightGate.keyTrimmed_of_runTrial hrequest htrial).1
  · exact ⟨_, CacheFile.load_path hload', List.rel_append hall
      (List.Forall₂.cons ⟨copies, hcopies, rfl⟩ List.Forall₂.nil)⟩

/-- **No run** ever drops an entry. -/
theorem keepsEverything_exec (steps : List PreflightStep) :
    KeepsEverything (Run.exec PreflightStep.logged ⟨.absent, []⟩ steps) :=
  Run.exec_invariant (fun _ _ h => h.logged) steps
    ⟨List.forall_mem_nil _, fun _ => ⟨[], rfl, List.Forall₂.nil⟩⟩

/-! ### The last entries -/

/-- Each tuple has been stored once. -/
def CacheLog.StoredOnce (s : CacheLog) : Prop :=
  (s.stored.map (·.verificationTuple)).Nodup

/-- A step that supersedes no entry stores its tuple for the first time. -/
theorem storedOnce_logged (h : KeepsEverything s) (honce : s.StoredOnce)
    (hnew : ¬step.Supersedes s.cache) : (step.logged s).StoredOnce := by
  obtain hsame | ⟨evidence, cache', hstores, -, heq⟩ := logged_cases s step
  · rwa [hsame]
  rw [heq, CacheLog.StoredOnce, List.map_append, List.map_singleton, List.nodup_append']
  refine ⟨honce, List.nodup_singleton _, ?_⟩
  rw [List.disjoint_singleton]
  intro hmem
  obtain ⟨earlier, hearlier, htuple⟩ := List.mem_map.mp hmem
  obtain ⟨entries, hload, hall⟩ := h.entries step.gate.cachePath
  obtain ⟨entry, hentry, hstored⟩ := exists_of_mem_right hall.flip earlier hearlier
  have hentryOf := (GateEvidence.StoredAs.isEntryOf hstored).mpr htuple
  exact hnew ⟨evidence, hstores, entries, hload, entry, hentry, hentryOf⟩

private theorem filter_eq_getLast? {α β : Type} [DecidableEq β] {f : α → β} {l : List α}
    (h : (l.map f).Nodup) (b : β) :
    l.filter (fun a => f a = b) = (l.filter fun a => f a = b).getLast?.toList := by
  induction l with
  | nil => rfl
  | cons a l ih =>
    rw [List.map_cons, List.nodup_cons] at h
    by_cases hab : f a = b
    · have hnone : (l.filter fun a => f a = b) = [] := by
        rw [List.filter_eq_nil_iff]
        intro c hc hcb
        rw [decide_eq_true_eq] at hcb
        exact h.1 (List.mem_map.mpr ⟨c, hc, hcb.trans hab.symm⟩)
      rw [List.filter_cons, if_pos (decide_eq_true hab), hnone]
      rfl
    · rw [List.filter_cons, if_neg (by rwa [decide_eq_true_eq])]
      exact ih h.2

/-- What has been stored once is what was stored last. -/
theorem replacesEntries_of_storedOnce (h : KeepsEverything s) (honce : s.StoredOnce) :
    ReplacesEntries s where
  entries cachePath entries hload verificationTuple := by
    obtain ⟨found, hfound, hall⟩ := h.entries cachePath
    obtain rfl := Except.ok.inj (hload.symm.trans hfound)
    rw [CacheLog.lastStored, ← filter_eq_getLast? honce]
    refine List.rel_filter (fun evidence entry hstored => ?_) hall
    exact decide_eq_true_iff.trans hstored.isEntryOf.symm
  returned step result cache' hdispatch hhit := by
    obtain ⟨adapter, requirement, cliVersion, -, hcases⟩ := PreflightGate.dispatch_cases hdispatch
    obtain ⟨found, hfind, rfl, -⟩ | ⟨evidence, -, -, -, rfl⟩ := hcases
    · obtain ⟨entries, hload, hfind⟩ := Checked.bind_eq_ok_iff.mp hfind
      obtain ⟨-, entry, hentry, hdecode⟩ := mem_of_findEntry hfind
      obtain ⟨all, hloadAll, hall⟩ := h.entries step.gate.cachePath
      obtain rfl := Except.ok.inj (hload.symm.trans hloadAll)
      obtain ⟨evidence, hmem, copies, hcopies, rfl⟩ := exists_of_mem_right hall entry hentry
      rw [GateEvidence.decodeEntry_withCapabilities] at hdecode
      obtain ⟨-, rfl⟩ := hdecode
      have htuple := congrArg CacheKey.verificationTuple
        ((h.trimmed evidence hmem).key_stripped copies)
      refine ⟨evidence, Option.mem_toList.mp ?_, Or.inr ⟨copies, hcopies, rfl⟩⟩
      rw [CacheLog.lastStored, ← filter_eq_getLast? honce, List.mem_filter]
      exact ⟨hmem, decide_eq_true htuple.symm⟩
    · cases hhit

/-- **Over every run** whose steps supersede no entry, the entries are the last ones. -/
theorem replacesEntries_exec (steps : List PreflightStep)
    (h : Run.Along PreflightStep.logged (fun s step => ¬step.Supersedes s.cache) ⟨.absent, []⟩
      steps) :
    ReplacesEntries (Run.exec PreflightStep.logged ⟨.absent, []⟩ steps) := by
  suffices hboth : KeepsEverything (Run.exec PreflightStep.logged ⟨.absent, []⟩ steps) ∧
      (Run.exec PreflightStep.logged ⟨.absent, []⟩ steps).StoredOnce by
    exact replacesEntries_of_storedOnce hboth.1 hboth.2
  refine Run.exec_invariant_along (I := fun s => KeepsEverything s ∧ s.StoredOnce)
    (fun s step hs hnew => ?_) steps h ?_
  · exact ⟨hs.1.logged, storedOnce_logged hs.1 hs.2 hnew⟩
  · exact ⟨keepsEverything_exec [], List.nodup_nil⟩

/-! ### An updated installation -/

/-- A first call supersedes nothing. -/
theorem replacesEntries_exec_first :
    ReplacesEntries (Run.exec PreflightStep.logged ⟨.absent, []⟩ [companyStep]) := by
  refine replacesEntries_exec [companyStep] ⟨?_, trivial⟩
  rintro ⟨_, -, entries, hload, entry, hentry, -⟩
  obtain rfl := Except.ok.inj hload
  cases hentry

/-- The same version has been installed again. -/
def updatedStep : PreflightStep :=
  ⟨companyGate, { companyTrial "workspace-write" false with
    versionFile := some ⟨2, 2, "1.2.3", none⟩ }⟩

def companyTuple : VerificationTuple :=
  ⟨"codex-cli", "1.2.3", "workspace-write", companyContract.environmentFingerprint⟩

/-- The number of entries of a tuple, by evaluation. -/
def countEntries (cache : CacheFile) (verificationTuple : VerificationTuple) : ℕ :=
  match cache.load companyGate.cachePath with
  | .ok entries => (entries.filter (isEntryOf verificationTuple)).length
  | .error _ => 0

/-- **Two entries** of one tuple: the evidence of the new installation does not replace that of the
old one. -/
theorem not_replacesEntries_updated :
    ¬ReplacesEntries (Run.exec PreflightStep.logged ⟨.absent, []⟩ [companyStep, updatedStep]) := by
  intro h
  have hcount : countEntries (Run.exec PreflightStep.logged ⟨.absent, []⟩
      [companyStep, updatedStep]).cache companyTuple = 2 := by decide +kernel
  rw [countEntries] at hcount
  split at hcount
  · next entries hload =>
    have hlength := (h.entries _ entries hload companyTuple).length_eq
    rw [hcount] at hlength
    have hle := Option.length_toList_le
      (o := CacheLog.lastStored (Run.exec PreflightStep.logged ⟨.absent, []⟩
        [companyStep, updatedStep]) companyTuple)
    omega
  · cases hcount

end Runs

end Nanihold
