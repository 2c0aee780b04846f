import Nanihold.Preflight.Gate

/-!
# The preflight cache

What the gate stores is read back with the same key exactly if its fields survive the checks and
the stripping of the decoder and its capabilities survive JSON. A lookup that finds something finds
evidence of a trial that passed the checks for the same key.

## Main definitions

* `GateEvidence.Storable` — evidence that the cache gives back.
* `CacheRoundTrip` — what storing evidence owes to later lookups.
* `PreflightStep` — a call of one of several gates that share a cache file.

## Main results

* `cacheRoundTrip_iff` — stored evidence keeps the law exactly if it is storable.
* `preflight_sound` — every result of a run is backed by a trial for the same key.
-/

namespace Nanihold

/-! ### Reading back what is written -/

section Read

theorem nonblank_text {value label result : String} :
    nonblank (some (text value)) label = .ok result ↔ strip value ≠ "" ∧ strip value = result := by
  rw [text, nonblank]
  exact Checked.check_bind_eq_ok_iff.trans (and_congr_right fun _ => Checked.pure_eq_ok_iff)

theorem optionalNonblank_text {value : Option String} {label : String} {result : Option String} :
    optionalNonblank (some (value.elim (.scalar .none) text)) label = .ok result ↔
      (∀ t ∈ value, strip t ≠ "") ∧ value.map strip = result := by
  cases value with
  | none =>
    refine Iff.trans ?_ (and_iff_right (by simp)).symm
    exact ⟨Except.ok.inj, congrArg _⟩
  | some t =>
    change some <$> nonblank (some (text t)) label = _ ↔ _
    rw [Checked.map_eq_ok_iff]
    simp only [nonblank_text, Option.mem_some_iff, forall_eq', Option.map_some]
    constructor
    · rintro ⟨_, ⟨hne, rfl⟩, rfl⟩
      exact ⟨hne, rfl⟩
    · rintro ⟨hne, rfl⟩
      exact ⟨_, ⟨hne, rfl⟩, rfl⟩

theorem getName_named_cons (name key : String) (value : PyValue)
    (rest : List (String × PyValue)) :
    getName (named ((key, value) :: rest)) name =
      if name = key then some value else getName (named rest) name := by
  rw [getName, named, List.map_cons, List.lookup_cons]
  by_cases h : name = key
  · rw [h, if_pos rfl, beq_self_eq_true]
  · rw [if_neg h, beq_eq_false_iff_ne.mpr fun heq => h (PyScalar.str.inj heq)]
    rfl

end Read

namespace GateEvidence

/-- The evidence with its text stripped. -/
def stripped (evidence : GateEvidence) : GateEvidence where
  verificationTuple :=
    ⟨strip evidence.verificationTuple.adapter, strip evidence.verificationTuple.cliVersion,
      strip evidence.verificationTuple.sandboxMode,
      strip evidence.verificationTuple.environmentFingerprint⟩
  measuredSandboxPolicy := strip evidence.measuredSandboxPolicy
  measuredCapabilities := evidence.measuredCapabilities
  instanceFingerprint := strip evidence.instanceFingerprint
  checkedAt := strip evidence.checkedAt
  rolloutRef := evidence.rolloutRef.map strip
  versionFile := strip evidence.versionFile
  versionFileMtimeNs := evidence.versionFileMtimeNs
  bridged := evidence.bridged

/-- The checks of the decoder. -/
structure Decodes (evidence : GateEvidence) : Prop where
  adapter : strip evidence.verificationTuple.adapter ≠ ""
  cliVersion : strip evidence.verificationTuple.cliVersion ≠ ""
  sandboxMode : strip evidence.verificationTuple.sandboxMode ≠ ""
  environmentFingerprint : strip evidence.verificationTuple.environmentFingerprint ≠ ""
  policy : strip evidence.measuredSandboxPolicy ≠ ""
  instanceFingerprint : strip evidence.instanceFingerprint ≠ ""
  checkedAt : strip evidence.checkedAt ≠ ""
  rolloutRef : ∀ t ∈ evidence.rolloutRef, strip t ≠ ""
  versionFile : strip evidence.versionFile ≠ ""
  mtime : 0 ≤ evidence.versionFileMtimeNs

/-- **Decoding** an encoded record checks it and strips it. -/
theorem fromDict_toDict_eq_ok_iff {evidence result : GateEvidence} :
    fromDict evidence.toDict = .ok result ↔ evidence.Decodes ∧ evidence.stripped = result := by
  simp only [fromDict, toDict, VerificationTuple.asDict, getName_named_cons, String.reduceEq,
    if_true, if_false, asMapping, asInt, asBool, mappingOrEmpty, boolOrFalse,
    Checked.orRaise, Checked.bind_eq_ok_iff, nonblank_text,
    optionalNonblank_text, Checked.check_eq_ok_iff, Checked.pure_eq_ok_iff, Except.ok.injEq,
    exists_eq_left', and_assoc, exists_and_left, exists_const]
  constructor
  · rintro ⟨hadapter, hversion, hmode, hprint, hmtime, hpolicy, hinstance, htime, href, hfile, h⟩
    exact ⟨⟨hadapter, hversion, hmode, hprint, hpolicy, hinstance, htime, href, hfile, hmtime⟩, h⟩
  · rintro ⟨⟨hadapter, hversion, hmode, hprint, hpolicy, hinstance, htime, href, hfile, hmtime⟩, h⟩
    exact ⟨hadapter, hversion, hmode, hprint, hmtime, hpolicy, hinstance, htime, href, hfile, h⟩

end GateEvidence

/-! ### Writing -/

section Write

theorem reload_text {value : String} {w : PyValue} :
    (text value).reload = some w ↔ text value = w := by
  rw [text, PyValue.reload]
  exact ⟨Option.some.inj, congrArg some⟩

theorem reload_optionalText {value : Option String} {w : PyValue} :
    (value.elim (.scalar .none) text).reload = some w ↔
      value.elim (.scalar .none) text = w := by
  cases value with
  | none => exact ⟨Option.some.inj, congrArg some⟩
  | some t => exact reload_text

theorem reload_bool {b : Bool} {w : PyValue} :
    (PyValue.scalar (.bool b)).reload = some w ↔ PyValue.scalar (.bool b) = w :=
  ⟨Option.some.inj, congrArg some⟩

theorem reload_int {n : Int} {w : PyValue} (h : (PyValue.scalar (.int n)).reload = some w) :
    PyValue.scalar (.int n) = w := by
  obtain ⟨s, hs, rfl⟩ := Option.map_eq_some_iff.mp h
  rw [PyScalar.reload] at hs
  split at hs
  · rw [← Option.some.inj hs]
  · cases hs

/-- A dictionary comes back as one. -/
theorem reload_dict {entries : List (PyScalar × PyValue)} {w : PyValue}
    (h : (PyValue.dict entries).reload = some w) :
    ∃ copies, PyValue.reloadEntries entries = some copies ∧ w = .dict copies := by
  rw [PyValue.reload] at h
  split at h
  · obtain ⟨copies, hcopies, rfl⟩ := Option.map_eq_some_iff.mp h
    exact ⟨copies, hcopies, rfl⟩
  · cases h

theorem reloadEntries_named_nil {copies : List (PyScalar × PyValue)} :
    PyValue.reloadEntries (named []) = some copies ↔ [] = copies :=
  ⟨Option.some.inj, congrArg some⟩

theorem reloadEntries_named_cons {name : String} {value : PyValue}
    {rest : List (String × PyValue)} {copies : List (PyScalar × PyValue)} :
    PyValue.reloadEntries (named ((name, value) :: rest)) = some copies ↔
      ∃ copy, value.reload = some copy ∧ ∃ tail, PyValue.reloadEntries (named rest) = some tail ∧
        (.str name, copy) :: tail = copies := by
  rw [named, List.map_cons, PyValue.reloadEntries]
  constructor
  · intro h
    obtain ⟨_, hname, h⟩ := Option.bind_eq_some_iff.mp h
    obtain ⟨copy, hcopy, h⟩ := Option.bind_eq_some_iff.mp h
    obtain ⟨tail, htail, h⟩ := Option.bind_eq_some_iff.mp h
    obtain rfl := Option.some.inj hname
    exact ⟨copy, hcopy, tail, htail, Option.some.inj h⟩
  · rintro ⟨copy, hcopy, tail, htail, rfl⟩
    rw [named] at htail
    rw [hcopy, htail]
    rfl

theorem reload_asDict {verificationTuple : VerificationTuple} {w : PyValue}
    (h : verificationTuple.asDict.reload = some w) : verificationTuple.asDict = w := by
  obtain ⟨copies, hcopies, rfl⟩ := reload_dict h
  simp only [reloadEntries_named_cons, reloadEntries_named_nil, reload_text, exists_eq_left']
    at hcopies
  exact congrArg PyValue.dict hcopies

end Write

namespace GateEvidence

/-- The evidence with other capabilities. -/
def withCapabilities (evidence : GateEvidence) (capabilities : List (PyScalar × PyValue)) :
    GateEvidence := { evidence with measuredCapabilities := capabilities }

/-- **A record comes back** with the capabilities that JSON gives back. -/
theorem reload_toDict {evidence : GateEvidence} {w : PyValue}
    (h : (PyValue.dict evidence.toDict).reload = some w) :
    ∃ copies, (PyValue.dict evidence.measuredCapabilities).reload = some (.dict copies) ∧
      w = .dict (evidence.withCapabilities copies).toDict := by
  obtain ⟨copies, hcopies, rfl⟩ := reload_dict h
  simp only [toDict, reloadEntries_named_cons, reloadEntries_named_nil, reload_text,
    reload_optionalText, reload_bool, exists_eq_left', exists_exists_and_eq_and] at hcopies
  obtain ⟨tuple, htuple, _, ⟨capabilities, hcapabilities, mtime, hmtime, rfl⟩, rfl⟩ := hcopies
  obtain ⟨entries, -, rfl⟩ := reload_dict hcapabilities
  obtain rfl := reload_asDict htuple
  obtain rfl := reload_int hmtime
  exact ⟨entries, hcapabilities, rfl⟩

theorem reload_entry {evidence : GateEvidence} {w : PyValue}
    (h : evidence.entry.reload = some w) :
    ∃ copies, (PyValue.dict evidence.measuredCapabilities).reload = some (.dict copies) ∧
      w = (evidence.withCapabilities copies).entry := by
  obtain ⟨copies, hcopies, rfl⟩ := reload_dict h
  simp only [reloadEntries_named_cons, reloadEntries_named_nil, exists_eq_left'] at hcopies
  obtain ⟨tuple, htuple, _, ⟨mtime, hmtime, _, ⟨record, hrecord, rfl⟩, rfl⟩, rfl⟩ := hcopies
  obtain rfl := reload_asDict htuple
  obtain rfl := reload_int hmtime
  obtain ⟨capabilities, hcapabilities, rfl⟩ := reload_toDict hrecord
  exact ⟨capabilities, hcapabilities, rfl⟩

theorem decodeEntry_entry (evidence : GateEvidence) :
    decodeEntry evidence.entry = fromDict evidence.toDict := by
  rw [decodeEntry, entry]
  rfl

end GateEvidence

/-! ### The cache file -/

section Cache

variable {cache cache' : CacheFile} {cachePath : String} {entries : List PyValue}

private theorem reload_of_mem_items {items : List PyValue}
    (h : PyValue.reloadItems items = some items) : ∀ v ∈ items, v.reload = some v := by
  induction items with
  | nil => exact List.forall_mem_nil _
  | cons v rest ih =>
    obtain ⟨w, hw, h⟩ := Option.bind_eq_some_iff.mp h
    obtain ⟨ws, hws, h⟩ := Option.bind_eq_some_iff.mp h
    obtain ⟨rfl, rfl⟩ := List.cons.inj (Option.some.inj h)
    exact List.forall_mem_cons.mpr ⟨hw, ih hws⟩

private theorem reload_of_mem_entries {items : List (PyScalar × PyValue)}
    (h : PyValue.reloadEntries items = some items) :
    ∀ entry ∈ items, entry.2.reload = some entry.2 := by
  induction items with
  | nil => exact List.forall_mem_nil _
  | cons entry rest ih =>
    obtain ⟨key, v⟩ := entry
    obtain ⟨name, -, h⟩ := Option.bind_eq_some_iff.mp h
    obtain ⟨w, hw, h⟩ := Option.bind_eq_some_iff.mp h
    obtain ⟨ws, hws, h⟩ := Option.bind_eq_some_iff.mp h
    obtain ⟨hentry, rfl⟩ := List.cons.inj (Option.some.inj h)
    obtain ⟨-, rfl⟩ := Prod.mk.inj hentry
    exact List.forall_mem_cons.mpr ⟨hw, ih hws⟩

theorem asMapping_eq_some_iff {value : Option PyValue} {entries : List (PyScalar × PyValue)} :
    asMapping value = some entries ↔ value = some (.dict entries) := by
  rw [asMapping.eq_def]
  split
  · rw [Option.some_inj, Option.some_inj, PyValue.dict.injEq]
  · next hnot => exact iff_of_false (fun h => by cases h) fun h => hnot _ h

theorem CacheFile.load_document {stored : JsonDocument} :
    (CacheFile.document stored).load cachePath = .ok entries ↔
      ∃ raw, stored.value = .dict raw ∧
        asInt (getName raw "schema_version") = some cacheSchemaVersion ∧
        getName raw "entries" = some (.list entries) := by
  rw [CacheFile.load, Checked.orRaise_bind_eq_ok_iff]
  refine exists_congr fun raw => ?_
  rw [asMapping_eq_some_iff, Option.some_inj, Checked.check_bind_eq_ok_iff]
  refine and_congr_right fun _ => and_congr_right fun _ => ?_
  split
  · next found heq =>
    rw [heq, Checked.pure_eq_ok_iff, Option.some_inj, PyValue.list.injEq]
  · next hnot => exact iff_of_false (fun h => by cases h) fun h => hnot _ h

/-- The entries of the file have been loaded from JSON. -/
theorem CacheFile.reload_of_load (h : cache.load cachePath = .ok entries) :
    ∀ entry ∈ entries, entry.reload = some entry := by
  cases cache with
  | absent =>
    obtain rfl := Except.ok.inj h
    exact List.forall_mem_nil _
  | unreadable => cases h
  | document stored =>
    obtain ⟨raw, hvalue, -, hentries⟩ := CacheFile.load_document.mp h
    have hreloads := stored.reloads
    rw [hvalue] at hreloads
    obtain ⟨copies, hcopies, heq⟩ := reload_dict hreloads
    rw [← PyValue.dict.inj heq] at hcopies
    obtain ⟨before, after, hraw, -⟩ := List.lookup_eq_some_iff.mp hentries
    have hlist := reload_of_mem_entries hcopies (.str "entries", .list entries) (by
      rw [hraw]
      exact List.mem_append_right _ List.mem_cons_self)
    obtain ⟨items, hitems, heq⟩ := Option.map_eq_some_iff.mp hlist
    rw [PyValue.list.inj heq] at hitems
    exact reload_of_mem_items hitems

private theorem reloadItems_concat {items copies : List PyValue} {last : PyValue}
    (hitems : ∀ v ∈ items, v.reload = some v)
    (h : PyValue.reloadItems (items ++ [last]) = some copies) :
    ∃ copy, last.reload = some copy ∧ copies = items ++ [copy] := by
  induction items generalizing copies with
  | nil =>
    obtain ⟨copy, hcopy, h⟩ := Option.bind_eq_some_iff.mp h
    exact ⟨copy, hcopy, (Option.some.inj h).symm⟩
  | cons v rest ih =>
    obtain ⟨hv, hrest⟩ := List.forall_mem_cons.mp hitems
    obtain ⟨w, hw, h⟩ := Option.bind_eq_some_iff.mp h
    obtain ⟨ws, hws, h⟩ := Option.bind_eq_some_iff.mp h
    obtain ⟨copy, hcopy, rfl⟩ := ih hrest hws
    obtain rfl := Option.some.inj (hv.symm.trans hw)
    exact ⟨copy, hcopy, (Option.some.inj h).symm⟩

theorem JsonDocument.reload_of_dump {value : PyValue} {document : JsonDocument}
    (h : JsonDocument.dump value = .ok document) : value.reload = some document.value := by
  rw [JsonDocument.dump] at h
  split at h
  · next copy hcopy =>
    obtain rfl := Except.ok.inj h
    exact hcopy
  · cases h

/-- **A stored entry** stands behind the entries that are kept. -/
theorem CacheFile.load_of_store {evidence : GateEvidence} {writable : Bool}
    (h : cache.store cachePath evidence writable = .ok cache') :
    ∃ entries copies, cache.load cachePath = .ok entries ∧
      (PyValue.dict evidence.measuredCapabilities).reload = some (.dict copies) ∧
      cache'.load cachePath = .ok (entries.filter (isKept evidence.verificationTuple) ++
        [(evidence.withCapabilities copies).entry]) := by
  obtain ⟨entries, hload, h⟩ := Checked.bind_eq_ok_iff.mp h
  obtain ⟨document, hdump, h⟩ := Checked.bind_eq_ok_iff.mp h
  obtain ⟨-, h⟩ := Checked.check_bind_eq_ok_iff.mp h
  obtain rfl := Except.ok.inj h
  obtain ⟨fields, hfields, hvalue⟩ := reload_dict (JsonDocument.reload_of_dump hdump)
  simp only [reloadEntries_named_cons, reloadEntries_named_nil, exists_eq_left'] at hfields
  obtain ⟨version, hversion, _, ⟨list, hlist, rfl⟩, rfl⟩ := hfields
  obtain rfl := reload_int hversion
  obtain ⟨items, hitems, rfl⟩ := Option.map_eq_some_iff.mp hlist
  obtain ⟨copy, hcopy, rfl⟩ := reloadItems_concat (fun v hv =>
    CacheFile.reload_of_load hload v (List.mem_of_mem_filter hv)) hitems
  obtain ⟨copies, hcopies, rfl⟩ := GateEvidence.reload_entry hcopy
  exact ⟨entries, copies, hload, hcopies, CacheFile.load_document.mpr ⟨_, hvalue, rfl, rfl⟩⟩

/-! ### Lookups -/

theorem findEntry_cons {key : CacheKey} {entry : PyValue} {rest : List PyValue}
    {result : Option GateEvidence} :
    findEntry key (entry :: rest) = .ok result ↔
      ∃ evidence, decodeEntry entry = .ok evidence ∧
        (if evidence.key = key then some evidence = result
          else findEntry key rest = .ok result) := by
  rw [findEntry, Checked.bind_eq_ok_iff]
  refine exists_congr fun evidence => and_congr_right fun _ => ?_
  split
  · exact Checked.pure_eq_ok_iff
  · rfl

/-- Nothing is found exactly if all entries can be decoded and none has the key. -/
theorem findEntry_eq_none_iff {key : CacheKey} :
    findEntry key entries = .ok none ↔
      ∀ entry ∈ entries, ∃ evidence, decodeEntry entry = .ok evidence ∧ evidence.key ≠ key := by
  induction entries with
  | nil => exact iff_of_true rfl (List.forall_mem_nil _)
  | cons entry rest ih =>
    rw [findEntry_cons, List.forall_mem_cons, ← ih]
    constructor
    · rintro ⟨evidence, hdecode, h⟩
      split at h
      · cases h
      · next hkey => exact ⟨⟨evidence, hdecode, hkey⟩, h⟩
    · rintro ⟨⟨evidence, hdecode, hkey⟩, h⟩
      exact ⟨evidence, hdecode, by rwa [if_neg hkey]⟩

/-- Behind entries without the key, the search goes on. -/
theorem findEntry_append {key : CacheKey} (h : findEntry key entries = .ok none)
    (rest : List PyValue) : findEntry key (entries ++ rest) = findEntry key rest := by
  induction entries with
  | nil => rfl
  | cons entry entries ih =>
    obtain ⟨evidence, hdecode, h⟩ := findEntry_cons.mp h
    split at h
    · cases h
    · next hkey =>
      rw [List.cons_append, findEntry, hdecode]
      exact (if_neg hkey).trans (ih h)

/-- A search over entries that can be decoded returns. -/
theorem exists_findEntry (key : CacheKey)
    (h : ∀ entry ∈ entries, ∃ evidence, decodeEntry entry = .ok evidence) :
    ∃ result, findEntry key entries = .ok result := by
  induction entries with
  | nil => exact ⟨none, rfl⟩
  | cons entry rest ih =>
    obtain ⟨⟨evidence, hdecode⟩, hrest⟩ := List.forall_mem_cons.mp h
    by_cases hkey : evidence.key = key
    · exact ⟨some evidence, findEntry_cons.mpr ⟨evidence, hdecode, by rw [if_pos hkey]⟩⟩
    · obtain ⟨result, hresult⟩ := ih hrest
      exact ⟨result, findEntry_cons.mpr ⟨evidence, hdecode, by rwa [if_neg hkey]⟩⟩

/-- What is found is the evidence of an entry, under the key. -/
theorem mem_of_findEntry {key : CacheKey} {evidence : GateEvidence}
    (h : findEntry key entries = .ok (some evidence)) :
    evidence.key = key ∧ ∃ entry ∈ entries, decodeEntry entry = .ok evidence := by
  induction entries with
  | nil => cases h
  | cons entry rest ih =>
    obtain ⟨found, hdecode, h⟩ := findEntry_cons.mp h
    split at h
    · next hkey =>
      obtain rfl := Option.some.inj h
      exact ⟨hkey, entry, List.mem_cons_self, hdecode⟩
    · obtain ⟨hkey, entry', hmem, hdecode'⟩ := ih h
      exact ⟨hkey, entry', List.mem_cons_of_mem _ hmem, hdecode'⟩

end Cache

/-! ### Calls of the gate -/

section Gate

variable {gate : PreflightGate} {call : PreflightCall} {cache cache' : CacheFile}

theorem isTrimmed_value (mode : SandboxMode) : IsTrimmed mode.value := by
  cases mode <;> decide +kernel

private theorem isSpace_of_between {c : Char} (hlow : 33 ≤ c.toNat) (hhigh : c.toNat ≤ 126) :
    isSpace c = false := by
  simp only [isSpace, Bool.or_eq_false_iff, Bool.and_eq_false_iff, decide_eq_false_iff_not,
    beq_eq_false_iff_ne]
  omega

theorem isTrimmed_fingerprint (contract : GateContract) :
    IsTrimmed contract.environmentFingerprint := by
  have h := contract.fingerprint_wellFormed
  rw [EnvironmentInstanceService.isEnvironmentFingerprint, Bool.and_eq_true, Bool.and_eq_true,
    decide_eq_true_iff, decide_eq_true_iff, List.all_eq_true] at h
  obtain ⟨⟨hpath, hlength⟩, hdigest⟩ := h
  constructor
  · refine strip_of_forall fun c hc => ?_
    rw [← List.take_append_drop EnvironmentInstanceService.fingerprintPrefix.length
      contract.environmentFingerprint.toList, hpath, List.mem_append] at hc
    rcases hc with hc | hc
    · have hall : (EnvironmentInstanceService.fingerprintPrefix.toList.all
          fun c => !isSpace c) = true := by decide +kernel
      exact Bool.not_eq_true' _ ▸ List.all_eq_true.mp hall c hc
    · have hchar := hdigest c hc
      rw [Bool.or_eq_true, Bool.and_eq_true, decide_eq_true_iff, decide_eq_true_iff] at hchar
      rcases hchar with hdigit | ⟨hlow, hhigh⟩
      · obtain ⟨hlow, hhigh⟩ := Char.isDigit_iff_toNat.mp hdigit
        exact isSpace_of_between (le_trans (by decide) hlow) (le_trans hhigh (by decide))
      · exact isSpace_of_between (le_trans (by decide) hlow) (le_trans hhigh (by decide))
  · intro hempty
    rw [hempty] at hlength
    cases hlength

theorem CliVersionReader.isTrimmed_of_read {reader : CliVersionReader} {file : Option VersionFile}
    {cliVersion : CliVersion} (h : reader.read file = .ok cliVersion) :
    IsTrimmed cliVersion.version := by
  obtain ⟨file, -, h⟩ := Checked.orRaise_bind_eq_ok_iff.mp h
  obtain ⟨-, h⟩ := Checked.check_bind_eq_ok_iff.mp h
  obtain ⟨version, -, h⟩ := Checked.bind_eq_ok_iff.mp h
  split at h
  · obtain ⟨hblank, h⟩ := Checked.check_bind_eq_ok_iff.mp h
    obtain rfl := Except.ok.inj h
    exact isTrimmed_strip hblank
  · cases h

/-- A request names a trimmed adapter and a trimmed version. -/
theorem PreflightGate.isTrimmed_of_request {adapter : String} {requirement : AdapterRequirement}
    {cliVersion : CliVersion} (h : gate.request call = .ok (adapter, requirement, cliVersion)) :
    IsTrimmed adapter ∧ IsTrimmed cliVersion.version := by
  obtain ⟨hblank, h⟩ := Checked.check_bind_eq_ok_iff.mp h
  obtain ⟨requirement, -, h⟩ := Checked.orRaise_bind_eq_ok_iff.mp h
  obtain ⟨reader, -, h⟩ := Checked.orRaise_bind_eq_ok_iff.mp h
  obtain ⟨-, h⟩ := Checked.check_bind_eq_ok_iff.mp h
  obtain ⟨version, hread, h⟩ := Checked.bind_eq_ok_iff.mp h
  obtain ⟨rfl, rfl, rfl⟩ := Prod.mk.inj (Except.ok.inj h)
  exact ⟨isTrimmed_strip hblank, CliVersionReader.isTrimmed_of_read hread⟩

/-- **A call that returns** found evidence, or its trial gave evidence that has been stored. -/
theorem PreflightGate.dispatch_cases {result : PreflightResult}
    (h : gate.dispatchPreflight call cache = .ok (result, cache')) :
    ∃ adapter requirement cliVersion, gate.request call = .ok (adapter, requirement, cliVersion) ∧
      ((∃ evidence, cache.find gate.cachePath (gate.key adapter cliVersion) = .ok (some evidence) ∧
          result = ⟨evidence, true⟩ ∧ cache' = cache) ∨
        ∃ evidence, cache.find gate.cachePath (gate.key adapter cliVersion) = .ok none ∧
          gate.runTrial adapter requirement cliVersion call = .ok evidence ∧
          cache.store gate.cachePath evidence call.cacheWritable = .ok cache' ∧
          result = ⟨evidence, false⟩) := by
  obtain ⟨⟨adapter, requirement, cliVersion⟩, hrequest, h⟩ := Checked.bind_eq_ok_iff.mp h
  refine ⟨adapter, requirement, cliVersion, hrequest, ?_⟩
  obtain ⟨found, hfound, h⟩ := Checked.bind_eq_ok_iff.mp h
  cases found with
  | some evidence =>
    obtain ⟨rfl, rfl⟩ := Prod.mk.inj (Except.ok.inj h)
    exact Or.inl ⟨evidence, hfound, rfl, rfl⟩
  | none =>
    obtain ⟨evidence, htrial, h⟩ := Checked.bind_eq_ok_iff.mp h
    obtain ⟨-, -, h⟩ := Checked.bind_eq_ok_iff.mp h
    obtain ⟨-, -, h⟩ := Checked.bind_eq_ok_iff.mp h
    obtain ⟨stored, hstore, h⟩ := Checked.bind_eq_ok_iff.mp h
    obtain ⟨rfl, rfl⟩ := Prod.mk.inj (Except.ok.inj h)
    exact Or.inr ⟨evidence, hfound, htrial, hstore, rfl⟩

/-- **The evidence of a trial** records an observation that passed the checks. -/
theorem PreflightGate.runTrial_eq_ok_iff {adapter : String} {requirement : AdapterRequirement}
    {cliVersion : CliVersion} {evidence : GateEvidence} :
    gate.runTrial adapter requirement cliVersion call = .ok evidence ↔
      ∃ observation, PreflightGate.observe call.trial = .ok observation ∧
        gate.contract.validateObservation (gate.verificationTuple adapter cliVersion) observation
          requirement = .ok () ∧
        ∃ checkedAt, call.clock = some checkedAt ∧
          gate.evidenceOf adapter cliVersion observation checkedAt = evidence := by
  rw [PreflightGate.runTrial, Checked.bind_eq_ok_iff]
  refine exists_congr fun observation => and_congr_right fun _ => ?_
  rw [Checked.bind_eq_ok_iff]
  constructor
  · rintro ⟨_, hvalid, h⟩
    obtain ⟨checkedAt, hclock, h⟩ := Checked.orRaise_bind_eq_ok_iff.mp h
    exact ⟨hvalid, checkedAt, hclock, Except.ok.inj h⟩
  · rintro ⟨hvalid, checkedAt, hclock, rfl⟩
    exact ⟨(), hvalid, Checked.orRaise_bind_eq_ok_iff.mpr ⟨checkedAt, hclock, rfl⟩⟩

end Gate

/-! ### Round trips -/

/-- Evidence whose fields the decoder leaves alone and whose capabilities are plain JSON. -/
structure GateEvidence.Storable (evidence : GateEvidence) : Prop where
  policy : IsTrimmed evidence.measuredSandboxPolicy
  rolloutRef : ∀ t ∈ evidence.rolloutRef, IsTrimmed t
  versionFile : IsTrimmed evidence.versionFile
  mtime : 0 ≤ evidence.versionFileMtimeNs
  capabilities : (PyValue.dict evidence.measuredCapabilities).isPlain = true

/-- `evidence == copy`. -/
def GateEvidence.SameAsCopy (evidence copy : GateEvidence) : Prop :=
  evidence = copy ∧ PyValue.SameAsCopy (.dict evidence.measuredCapabilities)
    (.dict copy.measuredCapabilities)

/-- **What storing evidence owes** to later lookups: its own key finds an equal record, decoding
undoes encoding, and no lookup of another key fails. -/
structure CacheRoundTrip (cachePath : String) (cache : CacheFile) (evidence : GateEvidence) :
    Prop where
  found : ∃ copy, cache.find cachePath evidence.key = .ok (some copy) ∧ evidence.SameAsCopy copy
  decoded : GateEvidence.fromDict evidence.toDict = .ok evidence
  others : ∀ key, key ≠ evidence.key → ∃ result, cache.find cachePath key = .ok result

/-- The components of a key are text that the decoder leaves alone. -/
structure GateEvidence.KeyTrimmed (evidence : GateEvidence) : Prop where
  adapter : IsTrimmed evidence.verificationTuple.adapter
  cliVersion : IsTrimmed evidence.verificationTuple.cliVersion
  sandboxMode : IsTrimmed evidence.verificationTuple.sandboxMode
  environmentFingerprint : IsTrimmed evidence.verificationTuple.environmentFingerprint
  instanceFingerprint : IsTrimmed evidence.instanceFingerprint
  checkedAt : IsTrimmed evidence.checkedAt

section RoundTrip

variable {gate : PreflightGate} {call : PreflightCall} {cache cache' : CacheFile}
  {evidence : GateEvidence}

/-- Storable evidence passes the decoder as it is. -/
private theorem GateEvidence.Storable.decodes (h : evidence.Storable) (hkey : evidence.KeyTrimmed) :
    evidence.Decodes ∧ evidence.stripped = evidence := by
  have hblank {t : String} (ht : IsTrimmed t) : strip t ≠ "" := by
    rw [ht.1]
    exact ht.2
  obtain ⟨hadapter, hversion, hmode, hprint, hinstance, htime⟩ := hkey
  refine ⟨⟨hblank hadapter, hblank hversion, hblank hmode, hblank hprint, hblank h.policy,
    hblank hinstance, hblank htime, fun t ht => hblank (h.rolloutRef t ht), hblank h.versionFile,
    h.mtime⟩, ?_⟩
  have href : evidence.rolloutRef.map strip = evidence.rolloutRef := by
    have hall := h.rolloutRef
    cases hr : evidence.rolloutRef with
    | none => rfl
    | some t => exact congrArg some (hall t hr).1
  rw [GateEvidence.stripped, hadapter.1, hversion.1, hmode.1, hprint.1, h.policy.1, hinstance.1,
    htime.1, href, h.versionFile.1]

/-- The decoder knows the capabilities of a record only as they are. -/
theorem GateEvidence.decodes_withCapabilities {capabilities : List (PyScalar × PyValue)} :
    (evidence.withCapabilities capabilities).Decodes ↔ evidence.Decodes :=
  ⟨fun ⟨h1, h2, h3, h4, h5, h6, h7, h8, h9, h10⟩ => ⟨h1, h2, h3, h4, h5, h6, h7, h8, h9, h10⟩,
    fun ⟨h1, h2, h3, h4, h5, h6, h7, h8, h9, h10⟩ => ⟨h1, h2, h3, h4, h5, h6, h7, h8, h9, h10⟩⟩

/-- What a record is read back as. -/
theorem GateEvidence.decodeEntry_withCapabilities {capabilities : List (PyScalar × PyValue)}
    {copy : GateEvidence} :
    decodeEntry (evidence.withCapabilities capabilities).entry = .ok copy ↔
      evidence.Decodes ∧ evidence.stripped.withCapabilities capabilities = copy := by
  rw [GateEvidence.decodeEntry_entry, GateEvidence.fromDict_toDict_eq_ok_iff,
    GateEvidence.decodes_withCapabilities]
  rfl

/-- The key of the evidence of a trial is trimmed. -/
theorem PreflightGate.keyTrimmed_of_runTrial {adapter : String} {requirement : AdapterRequirement}
    {cliVersion : CliVersion}
    (hrequest : gate.request call = .ok (adapter, requirement, cliVersion))
    (htrial : gate.runTrial adapter requirement cliVersion call = .ok evidence) :
    evidence.KeyTrimmed ∧ evidence.key = gate.key adapter cliVersion := by
  obtain ⟨hadapter, hversion⟩ := PreflightGate.isTrimmed_of_request hrequest
  obtain ⟨observation, -, -, checkedAt, -, rfl⟩ := PreflightGate.runTrial_eq_ok_iff.mp htrial
  exact ⟨⟨hadapter, hversion, isTrimmed_value _, isTrimmed_fingerprint _,
    gate.instanceFingerprint.2, checkedAt.2⟩, rfl⟩

/-- **Where stored evidence stands**: behind entries that can be decoded and have other keys. -/
theorem PreflightGate.load_of_dispatch
    (h : gate.dispatchPreflight call cache = .ok (⟨evidence, false⟩, cache')) :
    evidence.KeyTrimmed ∧ ∃ kept copies,
      (∀ entry ∈ kept, ∃ found, decodeEntry entry = .ok found ∧ found.key ≠ evidence.key) ∧
      (PyValue.dict evidence.measuredCapabilities).reload = some (.dict copies) ∧
      cache'.load gate.cachePath = .ok (kept ++ [(evidence.withCapabilities copies).entry]) := by
  obtain ⟨adapter, requirement, cliVersion, hrequest, hcases⟩ := PreflightGate.dispatch_cases h
  obtain ⟨_, -, hresult, -⟩ | ⟨evidence, hfind, htrial, hstore, hresult⟩ := hcases
  · cases hresult
  obtain rfl := (PreflightResult.mk.inj hresult).1
  obtain ⟨htrimmed, hkey⟩ := PreflightGate.keyTrimmed_of_runTrial hrequest htrial
  obtain ⟨entries, copies, hload, hcopies, hload'⟩ := CacheFile.load_of_store hstore
  rw [← hkey, CacheFile.find, hload] at hfind
  exact ⟨htrimmed, _, copies, fun entry hentry =>
    findEntry_eq_none_iff.mp hfind entry (List.mem_of_mem_filter hentry), hcopies, hload'⟩

theorem GateEvidence.storable_of_cacheRoundTrip
    (h : gate.dispatchPreflight call cache = .ok (⟨evidence, false⟩, cache'))
    (hroundTrip : CacheRoundTrip gate.cachePath cache' evidence) : evidence.Storable := by
  obtain ⟨-, kept, copies, hkept, hcopies, hload⟩ := PreflightGate.load_of_dispatch h
  obtain ⟨⟨copy, hfound, hsame, hcapabilities⟩, hdecoded, -⟩ := hroundTrip
  obtain ⟨hdecodes, hstripped⟩ := GateEvidence.fromDict_toDict_eq_ok_iff.mp hdecoded
  rw [CacheFile.find, hload] at hfound
  have hlast := (findEntry_append (findEntry_eq_none_iff.mpr hkept) _).symm.trans hfound
  obtain ⟨-, entry, hentry, hdecode⟩ := mem_of_findEntry hlast
  rw [List.mem_singleton.mp hentry, GateEvidence.decodeEntry_withCapabilities] at hdecode
  obtain rfl := hdecode.2
  have hpolicy := congrArg GateEvidence.measuredSandboxPolicy hstripped
  have hfile := congrArg GateEvidence.versionFile hstripped
  refine ⟨⟨hpolicy, ?_⟩, fun t ht => ⟨?_, ?_⟩, ⟨hfile, ?_⟩, hdecodes.mtime,
    (PyValue.sameAsCopy_iff hcopies).mp hcapabilities⟩
  · rw [← hpolicy]
    exact hdecodes.policy
  · have href := congrArg GateEvidence.rolloutRef hstripped
    rw [GateEvidence.stripped, Option.mem_def.mp ht] at href
    exact Option.some.inj href
  · rintro rfl
    exact hdecodes.rolloutRef "" ht rfl
  · rw [← hfile]
    exact hdecodes.versionFile

theorem GateEvidence.cacheRoundTrip_of_storable
    (h : gate.dispatchPreflight call cache = .ok (⟨evidence, false⟩, cache'))
    (hstorable : evidence.Storable) : CacheRoundTrip gate.cachePath cache' evidence := by
  obtain ⟨htrimmed, kept, copies, hkept, hcopies, hload⟩ := PreflightGate.load_of_dispatch h
  obtain ⟨hdecodes, hstripped⟩ := hstorable.decodes htrimmed
  have hsame := (PyValue.sameAsCopy_iff hcopies).mpr hstorable.capabilities
  have hcapabilities := PyValue.dict.inj hsame.1
  have hdecode : decodeEntry (evidence.withCapabilities copies).entry = .ok evidence := by
    rw [GateEvidence.decodeEntry_withCapabilities, hstripped, ← hcapabilities]
    exact ⟨hdecodes, rfl⟩
  refine ⟨⟨evidence, ?_, rfl, rfl, hsame.2⟩, ?_, fun key _ => ?_⟩
  · rw [CacheFile.find, hload]
    refine (findEntry_append (findEntry_eq_none_iff.mpr hkept) _).trans ?_
    exact findEntry_cons.mpr ⟨evidence, hdecode, by rw [if_pos rfl]⟩
  · exact GateEvidence.fromDict_toDict_eq_ok_iff.mpr ⟨hdecodes, hstripped⟩
  · rw [CacheFile.find, hload]
    refine exists_findEntry key fun entry hentry => ?_
    rcases List.mem_append.mp hentry with hold | hnew
    · obtain ⟨found, hfound, -⟩ := hkept entry hold
      exact ⟨found, hfound⟩
    · rw [List.mem_singleton.mp hnew]
      exact ⟨evidence, hdecode⟩

/-- **Stored evidence keeps its law** exactly if it is storable. -/
theorem cacheRoundTrip_iff
    (h : gate.dispatchPreflight call cache = .ok (⟨evidence, false⟩, cache')) :
    CacheRoundTrip gate.cachePath cache' evidence ↔ evidence.Storable :=
  ⟨GateEvidence.storable_of_cacheRoundTrip h, GateEvidence.cacheRoundTrip_of_storable h⟩

/-- A call that stores evidence of the given policy, by evaluation. -/
def storesPolicy (gate : PreflightGate) (call : PreflightCall) (cache : CacheFile)
    (policy : String) : Bool :=
  match gate.dispatchPreflight call cache with
  | .ok (⟨evidence, false⟩, _) => evidence.measuredSandboxPolicy = policy
  | _ => false

theorem exists_of_storesPolicy {policy : String} (h : storesPolicy gate call cache policy = true) :
    ∃ evidence cache', gate.dispatchPreflight call cache = .ok (⟨evidence, false⟩, cache') ∧
      evidence.measuredSandboxPolicy = policy := by
  rw [storesPolicy] at h
  split at h
  · next evidence cache' heq => exact ⟨evidence, cache', heq, of_decide_eq_true h⟩
  · cases h

/-- A contract of one adapter. -/
def companyContract : GateContract where
  environmentFingerprint := "environment-contract-sha256:" ++
    "00000000000000000000000000000000" ++ "00000000000000000000000000000000"
  pathMappingNames := ["workspace-root"]
  supportedShells := ["posix"]
  workspaceWritable := true
  minimumMemoryMb := 1
  supportedSandboxes := [.workspaceWrite]
  requiredSandbox := .workspaceWrite
  adapters := OrderedDict.empty.set "codex-cli" ⟨["api.openai.com"], some "1.2", by decide +kernel⟩
  fingerprint_wellFormed := by decide +kernel
  required_supported := by decide +kernel

def companyGate : PreflightGate where
  contract := companyContract
  instanceFingerprint := ⟨"machine:1", by decide +kernel⟩
  versionReaders := OrderedDict.empty.set "codex-cli" ⟨"version.txt", "version", false⟩
  preflightRunners := ["codex-cli"]
  cachePath := "preflight.json"

/-- A trial that measures all that the contract asks for. -/
def companyTrial (policy : String) (bridged : Bool) : PreflightCall where
  adapter := "codex-cli"
  versionFile := some ⟨1, 1, "1.2.3", none⟩
  trial := .ok (.observation ⟨policy, named [("workspace_writable", .scalar (.bool true)),
    ("endpoint_reachable", .list [text "api.openai.com"]),
    ("memory_bytes", .scalar (.int 2097152)), ("shell", text "posix"),
    ("path_mappings", .dict (named [("workspace-root", text "/work")]))], none, bridged⟩)
  clock := some ⟨"2026-01-01T00:00:00+00:00", by decide +kernel⟩
  updateDeclaration _ := .ok ()
  evidenceHook _ := .ok ()
  cacheWritable := true

theorem cacheRoundTrip_company : ∃ evidence cache',
    companyGate.dispatchPreflight (companyTrial "workspace-write" false) .absent =
      .ok (⟨evidence, false⟩, cache') ∧
    (CacheRoundTrip companyGate.cachePath cache' evidence ↔ evidence.Storable) := by
  have hstores : storesPolicy companyGate (companyTrial "workspace-write" false) .absent
      "workspace-write" = true := by decide +kernel
  obtain ⟨evidence, cache', h, -⟩ := exists_of_storesPolicy hstores
  exact ⟨evidence, cache', h, cacheRoundTrip_iff h⟩

/-- **A bridged trial** may report a policy that the decoder refuses. -/
theorem not_cacheRoundTrip_blankPolicy : ∃ evidence cache',
    companyGate.dispatchPreflight (companyTrial " " true) .absent =
      .ok (⟨evidence, false⟩, cache') ∧
    ¬CacheRoundTrip companyGate.cachePath cache' evidence := by
  have hstores : storesPolicy companyGate (companyTrial " " true) .absent " " = true := by
    decide +kernel
  obtain ⟨evidence, cache', h, hpolicy⟩ := exists_of_storesPolicy hstores
  refine ⟨evidence, cache', h, fun hroundTrip => ?_⟩
  have htrimmed := (GateEvidence.storable_of_cacheRoundTrip h hroundTrip).policy
  rw [hpolicy] at htrimmed
  exact absurd htrimmed (by decide +kernel)

end RoundTrip

/-! ### Runs -/

/-- A call of one of the gates that share a cache file. -/
structure PreflightStep where
  gate : PreflightGate
  call : PreflightCall

namespace PreflightStep

/-- The cache file after a call. -/
def next (cache : CacheFile) (step : PreflightStep) : CacheFile :=
  match step.gate.dispatchPreflight step.call cache with
  | .ok (_, cache') => cache'
  | .error _ => cache

/-- **The trial of a step** passed the checks and gave the evidence. -/
def Verified (step : PreflightStep) (evidence : GateEvidence) : Prop :=
  ∃ adapter requirement cliVersion observation checkedAt,
    step.gate.request step.call = .ok (adapter, requirement, cliVersion) ∧
    PreflightGate.observe step.call.trial = .ok observation ∧
    step.gate.contract.validateObservation (step.gate.verificationTuple adapter cliVersion)
      observation requirement = .ok () ∧
    step.gate.evidenceOf adapter cliVersion observation checkedAt = evidence

theorem verified_of_runTrial {step : PreflightStep} {adapter : String}
    {requirement : AdapterRequirement} {cliVersion : CliVersion} {evidence : GateEvidence}
    (hrequest : step.gate.request step.call = .ok (adapter, requirement, cliVersion))
    (htrial : step.gate.runTrial adapter requirement cliVersion step.call = .ok evidence) :
    step.Verified evidence := by
  obtain ⟨observation, hobserve, hvalid, checkedAt, -, hevidence⟩ :=
    PreflightGate.runTrial_eq_ok_iff.mp htrial
  exact ⟨adapter, requirement, cliVersion, observation, checkedAt, hrequest, hobserve, hvalid,
    hevidence⟩

end PreflightStep

/-- A record, or what the cache gives back of it. -/
def GateEvidence.ReadBack (evidence copy : GateEvidence) : Prop :=
  copy = evidence ∨ ∃ capabilities,
    (PyValue.dict evidence.measuredCapabilities).reload = some (.dict capabilities) ∧
    copy = evidence.stripped.withCapabilities capabilities

/-- **The cache is backed** by the steps: what it holds is evidence of their trials. -/
def CacheFile.BackedBy (cache : CacheFile) (steps : List PreflightStep) : Prop :=
  ∀ cachePath entries, cache.load cachePath = .ok entries → ∀ entry ∈ entries, ∀ found,
    decodeEntry entry = .ok found →
      ∃ step ∈ steps, ∃ evidence, step.Verified evidence ∧ evidence.key = found.key ∧
        evidence.ReadBack found

/-- **Evidence is backed** for a step: one of the steps ran a trial that passed the checks of the
contract of that step, and the evidence is the record of this trial under the step's own adapter,
CLI version, version file time, contract fingerprint and instance fingerprint. -/
def PreflightStep.Backed (steps : List PreflightStep) (step : PreflightStep)
    (result : GateEvidence) : Prop :=
  ∃ adapter requirement cliVersion,
    step.gate.request step.call = .ok (adapter, requirement, cliVersion) ∧
    ∃ earlier ∈ steps, ∃ evidence, earlier.Verified evidence ∧
      evidence.key = step.gate.key adapter cliVersion ∧
      earlier.gate.contract = step.gate.contract ∧ evidence.ReadBack result

section Runs

variable {cache cache' : CacheFile} {steps : List PreflightStep} {step : PreflightStep}

/-- The path only names the file. -/
theorem CacheFile.load_path {path path' : String} {entries : List PyValue}
    (h : cache.load path = .ok entries) : cache.load path' = .ok entries := by
  cases cache with
  | absent => exact h
  | unreadable => cases h
  | document stored => exact CacheFile.load_document.mpr (CacheFile.load_document.mp h)

theorem CacheFile.BackedBy.mono {steps' : List PreflightStep} (h : cache.BackedBy steps)
    (hsub : steps ⊆ steps') : cache.BackedBy steps' := by
  intro cachePath entries hload entry hentry found hdecode
  obtain ⟨step, hmem, hstep⟩ := h cachePath entries hload entry hentry found hdecode
  exact ⟨step, hsub hmem, hstep⟩

/-- The key survives the decoder. -/
theorem GateEvidence.KeyTrimmed.key_stripped {evidence : GateEvidence}
    (h : evidence.KeyTrimmed) (capabilities : List (PyScalar × PyValue)) :
    (evidence.stripped.withCapabilities capabilities).key = evidence.key := by
  rw [GateEvidence.key, GateEvidence.key, GateEvidence.withCapabilities, GateEvidence.stripped]
  simp only [h.adapter.1, h.cliVersion.1, h.sandboxMode.1, h.environmentFingerprint.1,
    h.instanceFingerprint.1]

/-- **A step** keeps the cache backed. -/
theorem CacheFile.BackedBy.next (h : cache.BackedBy steps) :
    (PreflightStep.next cache step).BackedBy (steps ++ [step]) := by
  rw [PreflightStep.next]
  cases hdispatch : step.gate.dispatchPreflight step.call cache with
  | error e => exact h.mono (List.subset_append_left ..)
  | ok pair =>
    obtain ⟨result, cache'⟩ := pair
    obtain ⟨adapter, requirement, cliVersion, hrequest, hcases⟩ :=
      PreflightGate.dispatch_cases hdispatch
    obtain ⟨_, -, -, hsame⟩ | ⟨evidence, -, htrial, hstore, -⟩ := hcases
    · exact hsame ▸ h.mono (List.subset_append_left ..)
    · intro cachePath entries hload entry hentry found hdecode
      obtain ⟨old, copies, hold, hcopies, hnew⟩ := CacheFile.load_of_store hstore
      obtain rfl := Except.ok.inj (hload.symm.trans (CacheFile.load_path hnew))
      rcases List.mem_append.mp hentry with hkept | hlast
      · exact h.mono (List.subset_append_left ..) _ old hold entry
          (List.mem_of_mem_filter hkept) found hdecode
      · rw [List.mem_singleton.mp hlast, GateEvidence.decodeEntry_withCapabilities] at hdecode
        obtain ⟨-, rfl⟩ := hdecode
        have htrimmed := (PreflightGate.keyTrimmed_of_runTrial hrequest htrial).1
        exact ⟨step, List.mem_append_right _ (List.mem_singleton_self step), evidence,
          PreflightStep.verified_of_runTrial hrequest htrial, (htrimmed.key_stripped copies).symm,
          Or.inr ⟨copies, hcopies, rfl⟩⟩

/-- **After a run**, the cache is backed by its steps. -/
theorem backedBy_exec (steps : List PreflightStep) :
    (Run.exec PreflightStep.next .absent steps).BackedBy steps := by
  induction steps using List.reverseRecOn with
  | nil =>
    intro cachePath entries hload entry hentry
    obtain rfl := Except.ok.inj hload
    cases hentry
  | append_singleton steps step ih =>
    rw [Run.exec_concat]
    exact ih.next

/-- **Soundness over runs**: every result is backed by a trial of the run, if the fingerprint of a
contract identifies it. -/
theorem preflight_sound (steps : List PreflightStep) (step : PreflightStep)
    (hsha : ∀ s ∈ steps ++ [step], ∀ t ∈ steps ++ [step],
      s.gate.contract.environmentFingerprint = t.gate.contract.environmentFingerprint →
        s.gate.contract = t.gate.contract)
    {result : PreflightResult}
    (h : step.gate.dispatchPreflight step.call (Run.exec PreflightStep.next .absent steps) =
      .ok (result, cache')) :
    PreflightStep.Backed (steps ++ [step]) step result.evidence := by
  have hcontract {earlier : PreflightStep} {evidence : GateEvidence} {adapter : String}
      {cliVersion : CliVersion} (hmem : earlier ∈ steps ++ [step])
      (hverified : earlier.Verified evidence)
      (hkey : evidence.key = step.gate.key adapter cliVersion) :
      earlier.gate.contract = step.gate.contract := by
    obtain ⟨_, _, _, _, _, -, -, -, rfl⟩ := hverified
    exact hsha _ hmem _ (List.mem_append_right _ (List.mem_singleton_self step))
      (congrArg (·.verificationTuple.environmentFingerprint) hkey)
  obtain ⟨adapter, requirement, cliVersion, hrequest, hcases⟩ := PreflightGate.dispatch_cases h
  refine ⟨adapter, requirement, cliVersion, hrequest, ?_⟩
  obtain ⟨found, hfind, rfl, -⟩ | ⟨evidence, -, htrial, -, rfl⟩ := hcases
  · obtain ⟨entries, hload, hfind⟩ := Checked.bind_eq_ok_iff.mp hfind
    obtain ⟨hkey, entry, hentry, hdecode⟩ := mem_of_findEntry hfind
    obtain ⟨earlier, hmem, evidence, hverified, hsame, hread⟩ :=
      backedBy_exec steps _ entries hload entry hentry found hdecode
    have hmem' : earlier ∈ steps ++ [step] := List.mem_append_left _ hmem
    exact ⟨earlier, hmem', evidence, hverified, hsame.trans hkey,
      hcontract hmem' hverified (hsame.trans hkey), hread⟩
  · have hself : step ∈ steps ++ [step] := List.mem_append_right _ (List.mem_singleton_self step)
    have hverified := PreflightStep.verified_of_runTrial hrequest htrial
    have hkey := (PreflightGate.keyTrimmed_of_runTrial hrequest htrial).2
    exact ⟨step, hself, evidence, hverified, hkey, rfl, Or.inl rfl⟩

/-- A call that returns evidence of the cache, by evaluation. -/
def hits (gate : PreflightGate) (call : PreflightCall) (cache : CacheFile) : Bool :=
  match gate.dispatchPreflight call cache with
  | .ok (result, _) => result.cacheHit
  | .error _ => false

theorem exists_of_hits {gate : PreflightGate} {call : PreflightCall}
    (h : hits gate call cache = true) : ∃ result cache',
      gate.dispatchPreflight call cache = .ok (result, cache') ∧ result.cacheHit = true := by
  rw [hits] at h
  split at h
  · next result cache' heq => exact ⟨result, cache', heq, h⟩
  · cases h

def companyStep : PreflightStep := ⟨companyGate, companyTrial "workspace-write" false⟩

/-- A second call finds what the first one stored. -/
theorem preflight_sound_hit : ∃ result cache',
    companyStep.gate.dispatchPreflight companyStep.call
      (Run.exec PreflightStep.next .absent [companyStep]) = .ok (result, cache') ∧
    result.cacheHit = true ∧
    PreflightStep.Backed ([companyStep] ++ [companyStep]) companyStep result.evidence := by
  have hhit : hits companyStep.gate companyStep.call
      (Run.exec PreflightStep.next .absent [companyStep]) = true := by decide +kernel
  obtain ⟨result, cache', heq, hcacheHit⟩ := exists_of_hits hhit
  have hcontract : ∀ s ∈ [companyStep] ++ [companyStep], s.gate.contract = companyContract :=
    List.forall_mem_cons.mpr ⟨rfl, List.forall_mem_cons.mpr ⟨rfl, List.forall_mem_nil _⟩⟩
  refine ⟨result, cache', heq, hcacheHit, preflight_sound [companyStep] companyStep ?_ heq⟩
  intro s hs t ht _
  rw [hcontract s hs, hcontract t ht]

end Runs

end Nanihold
