import Prometheus.Codec.Sha256
import Prometheus.ThreatHint.ObservableGrammar

/-!
# The two implementations of observable bundles agree

Both loops over the observables come to one condition: every observable follows its grammar and the
policy, and the keys increase strictly. Both parsers are canonical for it.
-/

namespace Prometheus.ThreatHint

open Prometheus.Codec

/-! ## What the loops check -/

theorem isAscii_of_all {s : Str} {p : Nat → Bool} (all : s.all p = true)
    (small : ∀ c, p c = true → c < 128) : IsAscii s :=
  fun c hc => small c (List.all_eq_true.mp all c hc)

/-- Every valid observable is ASCII. -/
theorem isAscii_of_valid {kind : ObservableKind} {value : Str}
    (h : Python.validateObservable kind value = .ok ()) : IsAscii value := by
  cases kind with
  | fileSha256 =>
    have h : Python.validateFileSha256 value = .ok () := h
    rw [Python.validateFileSha256, ite_error_eq_ok, ite_error_eq_ok] at h
    refine isAscii_of_all (not_not.mp h.2.1).2 fun c hc => ?_
    simp only [isLowerHex, Bool.or_eq_true, Bool.and_eq_true, decide_eq_true_eq] at hc
    omega
  | apiImport =>
    have h : Python.validateApiImport value = .ok () := h
    rw [Python.validateApiImport, ite_error_eq_ok, ite_error_eq_ok, not_not] at h
    have isChar (c : Nat) (hc : Python.isImportChar c = true) : c < 128 := by
      simp only [Python.isImportChar, Bool.or_eq_true, Bool.and_eq_true, decide_eq_true_eq,
        beq_iff_eq] at hc
      omega
    cases value with
    | nil => exact isAscii_nil
    | cons first rest =>
      have isMatch := h.2.1
      simp only [Python.matchesApiImport, Bool.and_eq_true] at isMatch
      exact isAscii_cons.mpr ⟨isChar first (isImportChar_of_start isMatch.1.1),
        isAscii_of_all isMatch.1.2 isChar⟩
  | bytePattern =>
    have h : Python.validateBytePattern value = .ok () := h
    rw [Python.validateBytePattern, ite_error_eq_ok, not_not] at h
    exact isAscii_of_all h.1 fun c hc => of_decide_eq_true hc

namespace Python

/-- The key of an ASCII observable. -/
def Observable.order (o : Observable) : ObservableKey :=
  toLex (str (ObservableKind.value o.kind), o.value)

/-- An observable that a policy admits. -/
structure Observable.Admissible (policy : DisclosurePolicy) (o : Observable) : Prop where
  grammar : validateObservable o.kind o.value = .ok ()
  disclosed : ¬ (policy = .publicAutoV1 ∧ o.kind = .bytePattern)

theorem mem_kinds (k : ObservableKind) : k ∈ observableKinds := by
  cases k <;> decide

/-- The lists of names of the format: its members and the values of its enumerations. -/
def vocabulary : List (List String) :=
  [ObservableBundle.keys, ["platform", "format"], ["kind", "value"],
    disclosurePolicies.map DisclosurePolicy.value, scopePlatforms.map ScopePlatform.value,
    scopeFormats.map ScopeFormat.value, observableKinds.map ObservableKind.value]

theorem vocabulary_plain : ∀ names ∈ vocabulary, Plain names := by decide

theorem isAscii_kind (k : ObservableKind) : IsAscii (str (ObservableKind.value k)) :=
  (vocabulary_plain _ (by simp [vocabulary])).isAscii (mem_kinds k)

theorem Observable.key_eq {o : Observable} (h : IsAscii o.value) : o.key = some o.order := by
  simp only [key, encodeUtf8_of_ascii (isAscii_kind o.kind), encodeUtf8_of_ascii h,
    map_toNat_encodeAscii (isAscii_kind o.kind).small, map_toNat_encodeAscii h.small]
  rfl

end Python

/-- The accumulators of a loop: the previous key is the greatest one seen. -/
structure LoopState (previous : Option ObservableKey) (seen : List ObservableKey) : Prop where
  greatest : ∀ k ∈ seen, ∃ prev, previous = some prev ∧ k ≤ prev
  isSeen : ∀ prev, previous = some prev → prev ∈ seen

theorem LoopState.start : LoopState none [] := ⟨by simp, by simp⟩

theorem LoopState.next {previous : Option ObservableKey} {seen seen' : List ObservableKey}
    (h : LoopState previous seen) {current : ObservableKey}
    (after : ∀ prev, previous = some prev → prev < current)
    (seen_eq : ∀ k, k ∈ seen' ↔ k = current ∨ k ∈ seen) : LoopState (some current) seen' := by
  constructor
  · intro k hk
    refine ⟨current, rfl, ?_⟩
    rcases (seen_eq k).mp hk with rfl | hk
    · exact le_refl k
    · obtain ⟨prev, isPrev, le⟩ := h.greatest k hk
      exact le.trans (after prev isPrev).le
  · rintro prev ⟨⟩
    exact (seen_eq _).mpr (.inl rfl)

/-- A key that is new and not below the previous one is above it. -/
theorem LoopState.after_iff {previous : Option ObservableKey} {seen : List ObservableKey}
    (h : LoopState previous seen) {current : ObservableKey} :
    (current ∉ seen ∧ ¬ previous.any (fun prev => current < prev)) ↔
      ∀ prev, previous = some prev → prev < current := by
  constructor
  · rintro ⟨isNew, notBelow⟩ prev rfl
    have differs : current ≠ prev := fun same => isNew (same ▸ h.isSeen prev rfl)
    refine lt_of_le_of_ne (not_lt.mp fun below => notBelow ?_) differs.symm
    simpa using below
  · intro after
    constructor
    · intro isSeen
      obtain ⟨prev, isPrev, le⟩ := h.greatest current isSeen
      exact absurd (after prev isPrev) (not_lt.mpr le)
    · intro below
      obtain ⟨prev, isPrev, lt⟩ := (Option.any_eq_true _ _).mp below
      exact absurd (after prev isPrev) (not_lt.mpr (of_decide_eq_true lt).le)

/-- Keys that continue after the previous one and increase strictly. -/
def Increasing (previous : Option ObservableKey) (keys : List ObservableKey) : Prop :=
  (previous.toList ++ keys).Pairwise (· < ·)

theorem increasing_cons {previous : Option ObservableKey} {current : ObservableKey}
    {keys : List ObservableKey} :
    Increasing previous (current :: keys) ↔
      (∀ prev, previous = some prev → prev < current) ∧ Increasing (some current) keys := by
  unfold Increasing
  cases previous with
  | none => simp
  | some prev =>
    simp only [Option.toList_some, List.singleton_append, List.pairwise_cons,
      List.forall_mem_cons, Option.some.injEq, forall_eq']
    constructor
    · rintro ⟨⟨first, -⟩, rest⟩
      exact ⟨first, rest⟩
    · rintro ⟨first, rest⟩
      exact ⟨⟨first, fun k hk => first.trans (rest.1 k hk)⟩, rest⟩

namespace Python.ObservableBundle

theorem checkObservable_iff {policy : DisclosurePolicy} {previous : Option ObservableKey}
    {seen : List ObservableKey} (h : LoopState previous seen) {o : Observable}
    {current : ObservableKey} :
    checkObservable policy previous seen o = .ok current ↔
      o.Admissible policy ∧ current = o.order ∧
        ∀ prev, previous = some prev → prev < o.order := by
  rw [← h.after_iff]
  unfold checkObservable
  constructor
  · intro checked
    split at checked
    · cases checked
    rename_i grammar
    rw [ite_error_eq_ok] at checked
    obtain ⟨disclosed, checked⟩ := checked
    rw [Observable.key_eq (isAscii_of_valid grammar)] at checked
    simp only [ite_error_eq_ok, Except.ok.injEq] at checked
    obtain ⟨isNew, notBelow, rfl⟩ := checked
    exact ⟨⟨grammar, disclosed⟩, rfl, isNew, notBelow⟩
  · rintro ⟨admissible, rfl, isNew, notBelow⟩
    simp only [admissible.grammar, Observable.key_eq (isAscii_of_valid admissible.grammar),
      ite_error_eq_ok]
    exact ⟨admissible.disclosed, isNew, notBelow, trivial⟩

/-- The loop passes when every observable is admitted and the keys increase. -/
theorem validateObservableState_iff {policy : DisclosurePolicy} {observables : List Observable}
    {previous : Option ObservableKey} {seen : List ObservableKey} (h : LoopState previous seen) :
    validateObservableState policy previous seen observables = .ok () ↔
      (∀ o ∈ observables, o.Admissible policy) ∧
        Increasing previous (observables.map Observable.order) := by
  induction observables generalizing previous seen with
  | nil =>
    cases previous <;> simp [validateObservableState, Increasing]
  | cons o observables ih =>
    rw [validateObservableState, List.map_cons, List.forall_mem_cons, increasing_cons, bind_eq_ok]
    constructor
    · rintro ⟨current, checked, rest⟩
      obtain ⟨admissible, rfl, after⟩ := (checkObservable_iff h).mp checked
      obtain ⟨others, increasing⟩ := (ih (h.next after (by simp))).mp rest
      exact ⟨⟨admissible, others⟩, after, increasing⟩
    · rintro ⟨⟨admissible, others⟩, after, increasing⟩
      exact ⟨_, (checkObservable_iff h).mpr ⟨admissible, rfl, after⟩,
        (ih (h.next after (by simp))).mpr ⟨others, increasing⟩⟩

/-! ## The Python parser is canonical -/

/-- The checks of a bundle. -/
structure Checked (bundle : ObservableBundle) : Prop where
  schemaVersion : bundle.schemaVersion = 1
  count : minObservables ≤ bundle.observables.length ∧ bundle.observables.length ≤ maxObservables
  admissible : ∀ o ∈ bundle.observables, o.Admissible bundle.disclosurePolicy
  increasing : Increasing none (bundle.observables.map Observable.order)

theorem validateState_iff {bundle : ObservableBundle} :
    bundle.validateState = .ok () ↔ bundle.Checked := by
  rw [validateState, ite_error_eq_ok, ite_error_eq_ok, not_not, not_or, not_lt, not_lt,
    validateObservableState_iff .start]
  constructor
  · rintro ⟨schemaVersion, count, admissible, increasing⟩
    exact ⟨schemaVersion, count, admissible, increasing⟩
  · intro h
    exact ⟨h.schemaVersion, h.count, h.admissible, h.increasing⟩

/-- A document under its names has its keys. -/
theorem sameKeys_document {fields : List (String × Json)} {keys : List String}
    (same : fields.map Prod.fst = keys) :
    sameKeys (fields.map fun f => (str f.1, f.2)) keys = true := by
  subst same
  rw [sameKeys, keys_document, Bool.and_eq_true, List.all_eq_true, List.all_eq_true]
  constructor
  · intro f hf
    obtain ⟨g, hg, rfl⟩ := List.mem_map.mp hf
    exact decide_eq_true (List.mem_map_of_mem (List.mem_map_of_mem hg))
  · intro key hkey
    exact decide_eq_true (List.mem_map_of_mem hkey)

theorem keys_plain : Plain keys := vocabulary_plain _ (by simp [vocabulary])

theorem scopeKeys_plain : Plain ["platform", "format"] :=
  vocabulary_plain _ (by simp [vocabulary])

theorem observableKeys_plain : Plain ["kind", "value"] :=
  vocabulary_plain _ (by simp [vocabulary])

theorem policies_plain : Plain (disclosurePolicies.map DisclosurePolicy.value) :=
  vocabulary_plain _ (by simp [vocabulary])

theorem platforms_plain : Plain (scopePlatforms.map ScopePlatform.value) :=
  vocabulary_plain _ (by simp [vocabulary])

theorem formats_plain : Plain (scopeFormats.map ScopeFormat.value) :=
  vocabulary_plain _ (by simp [vocabulary])

theorem kinds_plain : Plain (observableKinds.map ObservableKind.value) :=
  vocabulary_plain _ (by simp [vocabulary])

theorem mem_policies (p : DisclosurePolicy) : p ∈ disclosurePolicies := by
  cases p <;> decide

theorem mem_platforms (p : ScopePlatform) : p ∈ scopePlatforms := by
  cases p <;> decide

theorem mem_formats (f : ScopeFormat) : f ∈ scopeFormats := by
  cases f <;> decide

theorem readable_scope (scope : ObservableScope) : Readable (document (scopePayload scope)) := by
  refine readable_document (show _ = ["platform", "format"] from rfl) scopeKeys_plain.distinct
    scopeKeys_plain.ascii ?_
  simp only [scopePayload, List.forall_mem_cons]
  exact ⟨readable_string (platforms_plain.isAscii (mem_platforms _)),
    readable_string (formats_plain.isAscii (mem_formats _)), by simp⟩

theorem readable_observable {o : Observable} (h : IsAscii o.value) :
    Readable (document (observablePayload o)) := by
  refine readable_document (show _ = ["kind", "value"] from rfl) observableKeys_plain.distinct
    observableKeys_plain.ascii ?_
  simp only [observablePayload, List.forall_mem_cons]
  exact ⟨readable_string (isAscii_kind o.kind), readable_string h, by simp⟩

theorem readable_payload {bundle : ObservableBundle} (h : bundle.Checked) :
    Readable (document bundle.payload) := by
  refine readable_document (show _ = keys from rfl) keys_plain.distinct keys_plain.ascii ?_
  simp only [payload, List.forall_mem_cons, h.schemaVersion]
  refine ⟨readable_int (.of_le (by decide) (by decide)), readable_string (policies_plain.isAscii (mem_policies _)), readable_scope _,
    readable_array ?_, by simp⟩
  exact List.forall_mem_map.mpr fun o ho => readable_observable
    (isAscii_of_valid (h.admissible o ho).grammar)

theorem parseScope_document (scope : ObservableScope) :
    parseScope (some (document (scopePayload scope))) = .ok scope := by
  have unique : (((scopePayload scope).map Prod.fst).map str).Nodup := scopeKeys_plain.distinct
  have platform := enumValue_document unique "platform" (platforms_plain.nodup ScopePlatform.value)
    (mem_platforms scope.platform) (by simp [scopePayload])
  have format := enumValue_document unique "format" (formats_plain.nodup ScopeFormat.value)
    (mem_formats scope.format) (by simp [scopePayload])
  have same : sameKeys ((scopePayload scope).map fun f => (str f.1, f.2)) ["platform", "format"] =
      true :=
    sameKeys_document rfl
  rw [document, parseScope, if_neg (not_not.mpr same)]
  simp only [platform, format]

theorem readObservable_document (o : Observable) :
    readObservable (document (observablePayload o)) = .ok o := by
  have unique : (((observablePayload o).map Prod.fst).map str).Nodup :=
    observableKeys_plain.distinct
  have kind := enumValue_document unique "kind" (kinds_plain.nodup ObservableKind.value)
    (mem_kinds o.kind)
    (by simp [observablePayload])
  have value : Json.field ((observablePayload o).map fun f => (str f.1, f.2)) (str "value") =
      some (.string o.value) :=
    field_document unique (by simp [observablePayload])
  have same : sameKeys ((observablePayload o).map fun f => (str f.1, f.2)) ["kind", "value"] =
      true :=
    sameKeys_document rfl
  rw [document, readObservable, if_neg (not_not.mpr same)]
  simp only [kind, value, Option.bind_some, Json.asString]

/-- Checked observables are what their documents parse to. -/
theorem parseObservables_document {policy : DisclosurePolicy} {observables : List Observable}
    {previous : Option ObservableKey} {seen : List ObservableKey} (h : LoopState previous seen)
    (admissible : ∀ o ∈ observables, o.Admissible policy)
    (increasing : Increasing previous (observables.map Observable.order)) :
    parseObservables policy previous seen
      (observables.map fun o => document (observablePayload o)) = .ok observables := by
  induction observables generalizing previous seen with
  | nil => rfl
  | cons o observables ih =>
    rw [List.forall_mem_cons] at admissible
    rw [List.map_cons, increasing_cons] at increasing
    have checked := (checkObservable_iff h).mpr ⟨admissible.1, rfl, increasing.1⟩
    have rest := ih (h.next increasing.1 fun k => List.mem_cons) admissible.2 increasing.2
    rw [List.map_cons, parseObservables, bind_eq_ok]
    refine ⟨o, readObservable_document o, ?_⟩
    rw [bind_eq_ok]
    refine ⟨_, checked, ?_⟩
    rw [bind_eq_ok]
    exact ⟨observables, rest, rfl⟩

/-- A checked bundle is what its payload parses to. -/
theorem parseObject_payload {bundle : ObservableBundle} (h : bundle.Checked) :
    parseObject (bundle.payload.map fun f => (str f.1, f.2)) = .ok bundle := by
  have unique : ((bundle.payload.map Prod.fst).map str).Nodup := keys_plain.distinct
  have schemaVersion :
      Json.field (bundle.payload.map fun f => (str f.1, f.2)) (str "schema_version") =
        some (.int bundle.schemaVersion) :=
    field_document unique (by simp [payload])
  have policy := enumValue_document unique "disclosure_policy"
    (policies_plain.nodup DisclosurePolicy.value)
    (mem_policies bundle.disclosurePolicy) (by simp [payload])
  have scope : Json.field (bundle.payload.map fun f => (str f.1, f.2)) (str "scope") =
      some (document (scopePayload bundle.scope)) :=
    field_document unique (by simp [payload])
  have items : Json.field (bundle.payload.map fun f => (str f.1, f.2)) (str "observables") =
      some (.array (bundle.observables.map fun o => document (observablePayload o))) :=
    field_document unique (by simp [payload])
  have observables := parseObservables_document .start h.admissible h.increasing
  have same : sameKeys (bundle.payload.map fun f => (str f.1, f.2)) keys = true :=
    sameKeys_document rfl
  have count : ¬ ((bundle.observables.map fun o => document (observablePayload o)).length <
      minObservables ∨ maxObservables <
        (bundle.observables.map fun o => document (observablePayload o)).length) := by
    rw [List.length_map, not_or, not_lt, not_lt]
    exact h.count
  rw [parseObject, if_neg (not_not.mpr same)]
  simp only [schemaVersion, Option.bind_some, Json.asInt, h.schemaVersion, ne_eq,
    not_true_eq_false, if_false, bind_eq_ok]
  refine ⟨bundle.disclosurePolicy, by rw [parseDisclosurePolicy, policy], bundle.scope, ?_, ?_⟩
  · rw [scope, parseScope_document]
  · simp only [items, if_neg count, bind_eq_ok]
    refine ⟨bundle.observables, observables, ?_⟩
    rw [← h.schemaVersion]

/-- The reader reads back what was dumped. -/
theorem readsBack (floatRepr : Str → Str) :
    Canonical.ReadsBack
      (fun wire => (readObject floatRepr wire).bind fun fields => (parseObject fields).toOption)
      Checked fun bundle => dump bundle.payload := by
  intro bundle h
  show (readObject floatRepr _).bind _ = some bundle
  rw [readObject_document floatRepr (readable_payload h), Option.bind_some,
    parseObject_payload h]
  rfl

theorem canonicalBytes_iff {bundle : ObservableBundle} {wire : Bytes} :
    bundle.canonicalBytes = .ok wire ↔ bundle.Checked ∧
      (dump bundle.payload).length ≤ maxCanonicalObservableBundleBytes ∧
      dump bundle.payload = wire := by
  rw [canonicalBytes, bind_eq_ok]
  constructor
  · rintro ⟨_, isValid, h⟩
    have checked := validateState_iff.mp isValid
    simp only [dumpsUtf8_document (readable_payload checked), ite_error_eq_ok, not_or, not_lt,
      Except.ok.injEq] at h
    exact ⟨checked, h.1.2, h.2⟩
  · rintro ⟨checked, bounded, rfl⟩
    refine ⟨(), validateState_iff.mpr checked, ?_⟩
    simp only [dumpsUtf8_document (readable_payload checked), ite_error_eq_ok, not_or, not_lt]
    exact ⟨⟨List.length_pos_iff.mpr (dump_ne_nil _), bounded⟩, trivial⟩

/-- What the parser keeps. -/
structure Accepts (bundle : ObservableBundle) : Prop where
  checked : bundle.Checked
  bounded : (dump bundle.payload).length ≤ maxCanonicalObservableBundleBytes

theorem canonical (floatRepr : Str → Str) :
    Canonical (fun wire => (parseCanonical floatRepr wire).toOption) Accepts
      fun bundle => dump bundle.payload := by
  refine .of_readsBack (readsBack floatRepr) (fun bundle h => h.checked) fun wire bundle => ?_
  rw [toOption_eq_some, parseCanonical, ite_error_eq_ok, ite_error_eq_ok]
  simp only [Option.bind_eq_some_iff, toOption_eq_some]
  constructor
  · rintro ⟨-, -, h⟩
    split at h
    · cases h
    rename_i fields isRead
    simp only [bind_eq_ok, ite_error_eq_ok, Except.ok.injEq, not_not, ne_eq] at h
    obtain ⟨bundle', isParsed, canonical, isCanonical, same, rfl⟩ := h
    obtain ⟨checked, bounded, isDump⟩ := canonicalBytes_iff.mp isCanonical
    exact ⟨⟨fields, isRead, isParsed⟩, ⟨checked, bounded⟩, isDump.trans same⟩
  · rintro ⟨⟨fields, isRead, isParsed⟩, ⟨checked, bounded⟩, rfl⟩
    refine ⟨dump_ne_nil _, not_lt.mpr bounded, ?_⟩
    simp only [isRead, bind_eq_ok, ite_error_eq_ok, not_not, ne_eq]
    exact ⟨bundle, isParsed, _, canonicalBytes_iff.mpr ⟨checked, bounded, rfl⟩, rfl, rfl⟩

end Python.ObservableBundle

/-! ## The Rust parser is canonical -/

namespace Rust

/-- The observable in Python's types. -/
def ObservableBundleObservable.toPython (o : ObservableBundleObservable) : Python.Observable where
  kind := o.kind
  value := o.value.map UInt8.toNat

namespace ObservableBundle

/-- The bundle in Python's types. -/
def toPython (bundle : ObservableBundle) : Python.ObservableBundle where
  schemaVersion := bundle.schemaVersion.toNat
  disclosurePolicy := bundle.disclosurePolicy
  scope := bundle.scope
  observables := bundle.observables.map ObservableBundleObservable.toPython

/-- The bundle in Rust's types. -/
def ofPython (bundle : Python.ObservableBundle) : ObservableBundle where
  schemaVersion := UInt16.ofNat bundle.schemaVersion.toNat
  disclosurePolicy := bundle.disclosurePolicy
  scope := bundle.scope
  observables := bundle.observables.map fun o => { kind := o.kind, value := encodeAscii o.value }

theorem ofPython_toPython (bundle : ObservableBundle) : ofPython bundle.toPython = bundle := by
  have observables : (bundle.observables.map ObservableBundleObservable.toPython).map (fun o =>
      (⟨o.kind, encodeAscii o.value⟩ : ObservableBundleObservable)) = bundle.observables := by
    rw [List.map_map]
    refine (List.map_congr_left fun o ho => ?_).trans bundle.observables.map_id
    simp [ObservableBundleObservable.toPython, encodeAscii_toNat]
  simp [ofPython, toPython, observables]

theorem toPython_ofPython {bundle : Python.ObservableBundle} (h : bundle.Checked) :
    (ofPython bundle).toPython = bundle := by
  have observables : (bundle.observables.map fun o =>
      (⟨o.kind, encodeAscii o.value⟩ : ObservableBundleObservable)).map
        ObservableBundleObservable.toPython = bundle.observables := by
    rw [List.map_map]
    refine (List.map_congr_left fun o ho => ?_).trans bundle.observables.map_id
    have ascii := isAscii_of_valid (h.admissible o ho).grammar
    simp [ObservableBundleObservable.toPython, map_toNat_encodeAscii ascii.small]
  have version : (UInt16.ofNat bundle.schemaVersion.toNat).toNat = (1 : Int) := by
    rw [h.schemaVersion]
    rfl
  unfold ofPython toPython
  simp only [observables, version]
  rw [← h.schemaVersion]

theorem names_eq (p : DisclosurePolicy) (s : ScopePlatform) (f : ScopeFormat) (k : ObservableKind) :
    DisclosurePolicy.name p = Python.DisclosurePolicy.value p ∧
      ScopePlatform.name s = Python.ScopePlatform.value s ∧
      ScopeFormat.name f = Python.ScopeFormat.value f ∧
      ObservableKind.asStr k = Python.ObservableKind.value k := by
  refine ⟨?_, ?_, ?_, ?_⟩
  · cases p <;> rfl
  · cases s <;> rfl
  · cases f <;> rfl
  · cases k <;> rfl

theorem scope_eq (scope : ObservableScope) :
    serdeStruct
      [("platform", serdeString (ascii (ScopePlatform.name scope.platform))),
        ("format", serdeString (ascii (ScopeFormat.name scope.format)))] =
      encodeAscii ((document (Python.ObservableBundle.scopePayload scope)).compact quoteRaw) := by
  obtain ⟨-, platform, format, -⟩ := names_eq .publicAutoV1 scope.platform scope.format .apiImport
  rw [document, ← serdeStruct_eq, platform, format, serdeString_eq, serdeString_eq]
  rfl

theorem observable_eq (o : ObservableBundleObservable) :
    serdeStruct
      [("kind", serdeString (ascii (ObservableKind.asStr o.kind))),
        ("value", serdeString o.value)] =
      encodeAscii ((document (Python.ObservableBundle.observablePayload o.toPython)).compact
        quoteRaw) := by
  obtain ⟨-, -, -, kind⟩ := names_eq .publicAutoV1 .any .pe o.kind
  rw [document, ← serdeStruct_eq, kind, serdeString_eq, serdeString_eq]
  rfl

/-- Both languages write the same bytes. -/
theorem toVec_eq (bundle : ObservableBundle) : bundle.toVec = dump bundle.toPython.payload := by
  have observables : serdeArray (bundle.observables.map fun o => serdeStruct
      [("kind", serdeString (ascii (ObservableKind.asStr o.kind))),
        ("value", serdeString o.value)]) =
      encodeAscii ((Json.array (bundle.toPython.observables.map fun o =>
        document (Python.ObservableBundle.observablePayload o))).compact quoteRaw) := by
    rw [← serdeArray_eq, List.map_map, toPython, List.map_map]
    exact congrArg serdeArray (List.map_congr_left fun o _ => observable_eq o)
  obtain ⟨policy, -, -, -⟩ := names_eq bundle.disclosurePolicy .any .pe .apiImport
  rw [← serdeStruct_dump, toVec, observables, scope_eq, policy, serdeString_eq, serdeNat_eq]
  rfl

/-- The key in Rust is the key in Python. -/
theorem key_eq (o : ObservableBundleObservable) : o.key = o.toPython.order := by
  rw [ObservableBundleObservable.key, (names_eq .publicAutoV1 .any .pe o.kind).2.2.2]
  rfl

theorem cmp_gt {a b : ObservableKey} : cmp a b = .gt ↔ b < a := by
  unfold cmp
  by_cases below : a < b
  · rw [if_pos below]
    exact iff_of_false (by decide) below.le.not_gt
  · rw [if_neg below]
    by_cases same : a = b
    · rw [if_pos same, same]
      exact iff_of_false (by decide) (lt_irrefl b)
    · rw [if_neg same]
      exact iff_of_true rfl (lt_of_le_of_ne (not_lt.mp below) (Ne.symm same))

/-- One turn of the loop. -/
theorem validateObservables_cons {policy : DisclosurePolicy} {o : ObservableBundleObservable}
    {rest : List ObservableBundleObservable} {previous : Option ObservableKey}
    {seen : List ObservableKey} (h : LoopState previous seen) :
    validateObservables policy previous seen (o :: rest) = .ok () ↔
      (o.toPython.Admissible policy ∧ ∀ prev, previous = some prev → prev < o.key) ∧
        validateObservables policy (some o.key) (seen ++ [o.key]) rest = .ok () := by
  rw [validateObservables, validateObservable_eq]
  constructor
  · intro passed
    split at passed
    · cases passed
    rename_i grammar
    rw [ite_error_eq_ok, ite_error_eq_ok] at passed
    obtain ⟨disclosed, isNew, passed⟩ := passed
    cases previous with
    | none => exact ⟨⟨⟨grammar, disclosed⟩, by simp⟩, passed⟩
    | some prev =>
      cases order : cmp o.key prev with
      | lt => simp only [order, reduceCtorEq] at passed
      | eq => simp only [order, reduceCtorEq] at passed
      | gt =>
        simp only [order] at passed
        refine ⟨⟨⟨grammar, disclosed⟩, ?_⟩, passed⟩
        rintro _ ⟨⟩
        exact cmp_gt.mp order
  · rintro ⟨⟨⟨grammar, disclosed⟩, after⟩, passed⟩
    have grammar : Python.validateObservable o.kind (o.value.map UInt8.toNat) = .ok () := grammar
    rw [grammar]
    simp only [ite_error_eq_ok]
    refine ⟨disclosed, (h.after_iff.mpr after).1, ?_⟩
    cases previous with
    | none => exact passed
    | some prev =>
      have order : cmp o.key prev = .gt := cmp_gt.mpr (after prev rfl)
      simp only [order]
      exact passed

/-- The loop passes when every observable is admitted and the keys increase. -/
theorem validateObservables_iff {policy : DisclosurePolicy}
    {observables : List ObservableBundleObservable} {previous : Option ObservableKey}
    {seen : List ObservableKey} (h : LoopState previous seen) :
    validateObservables policy previous seen observables = .ok () ↔
      (∀ o ∈ observables, o.toPython.Admissible policy) ∧
        Increasing previous (observables.map fun o => o.toPython.order) := by
  induction observables generalizing previous seen with
  | nil => cases previous <;> simp [validateObservables, Increasing]
  | cons o observables ih =>
    have seen_eq (k : ObservableKey) : k ∈ seen ++ [o.key] ↔ k = o.key ∨ k ∈ seen := by
      simp [or_comm]
    rw [validateObservables_cons h, List.map_cons, List.forall_mem_cons, increasing_cons,
      key_eq] at *
    constructor
    · rintro ⟨⟨admissible, after⟩, rest⟩
      obtain ⟨others, increasing⟩ := (ih (h.next after seen_eq)).mp rest
      exact ⟨⟨admissible, others⟩, after, increasing⟩
    · rintro ⟨⟨admissible, others⟩, after, increasing⟩
      exact ⟨⟨admissible, after⟩, (ih (h.next after seen_eq)).mpr ⟨others, increasing⟩⟩

/-- Both languages make the same checks. -/
theorem validate_iff {bundle : ObservableBundle} :
    bundle.validate = .ok () ↔ bundle.toPython.Checked := by
  have schemaVersion : bundle.schemaVersion = 1 ↔ (bundle.schemaVersion.toNat : Int) = 1 :=
    toNat_eq_16
  rw [validate, ite_error_eq_ok, ite_error_eq_ok, not_not, not_or, not_lt, not_lt,
    validateObservables_iff .start, schemaVersion]
  have count : bundle.toPython.observables.length = bundle.observables.length :=
    List.length_map _
  have keys : bundle.toPython.observables.map Python.Observable.order =
      bundle.observables.map fun o => o.toPython.order := by
    rw [toPython, List.map_map]
    rfl
  constructor
  · rintro ⟨version, range, admissible, increasing⟩
    exact ⟨version, by rwa [count], List.forall_mem_map.mpr admissible, by rwa [keys]⟩
  · intro h
    have range := h.count
    have increasing := h.increasing
    rw [count] at range
    rw [keys] at increasing
    exact ⟨h.schemaVersion, range, List.forall_mem_map.mp h.admissible, increasing⟩

theorem toCanonicalBytes_iff {bundle : ObservableBundle} {wire : Bytes} :
    bundle.toCanonicalBytes = .ok wire ↔ bundle.toPython.Checked ∧
      (dump bundle.toPython.payload).length ≤ maxCanonicalObservableBundleBytes ∧
      dump bundle.toPython.payload = wire := by
  simp only [toCanonicalBytes, bind_eq_ok, ite_error_eq_ok, toVec_eq, dump_ne_nil, false_or,
    not_lt, Except.ok.injEq]
  constructor
  · rintro ⟨_, isValid, bounded, same⟩
    exact ⟨validate_iff.mp isValid, bounded, same⟩
  · rintro ⟨checked, bounded, same⟩
    exact ⟨(), validate_iff.mpr checked, bounded, same⟩

/-- `serde_json` reads back the bundles that it wrote. -/
def ReadsBack (fromSlice : Bytes → Option ObservableBundle) : Prop :=
  Canonical.ReadsBack fromSlice (fun bundle => bundle.validate = .ok ()) toVec

theorem canonical {fromSlice : Bytes → Option ObservableBundle} (readsBack : ReadsBack fromSlice) :
    Canonical (fun wire => (parseCanonical fromSlice wire).toOption)
      (fun bundle => bundle.toPython.Accepts) toVec := by
  refine .of_readsBack readsBack (fun bundle h => validate_iff.mpr h.checked) fun wire bundle => ?_
  rw [toOption_eq_some, parseCanonical, ite_error_eq_ok, ite_error_eq_ok, toVec_eq]
  constructor
  · rintro ⟨-, -, h⟩
    split at h
    · cases h
    rename_i isRead
    simp only [bind_eq_ok, ite_error_eq_ok, Except.ok.injEq, not_not, ne_eq] at h
    obtain ⟨_, -, canonical, isCanonical, same, rfl⟩ := h
    obtain ⟨checked, bounded, isDump⟩ := toCanonicalBytes_iff.mp isCanonical
    exact ⟨isRead, ⟨checked, bounded⟩, isDump.trans same⟩
  · rintro ⟨isRead, ⟨checked, bounded⟩, rfl⟩
    refine ⟨dump_ne_nil _, not_lt.mpr bounded, ?_⟩
    simp only [isRead, bind_eq_ok, ite_error_eq_ok, not_not, ne_eq]
    exact ⟨(), validate_iff.mpr checked, _, toCanonicalBytes_iff.mpr ⟨checked, bounded, rfl⟩, rfl,
      trivial⟩

end ObservableBundle

end Rust

/-! ## Commitments -/

theorem hexDigit_hexValue {c : Nat} (h : isLowerHex c = true) : hexDigit (hexValue c) = c := by
  simp only [isLowerHex, Bool.or_eq_true, Bool.and_eq_true, decide_eq_true_eq] at h
  unfold hexDigit hexValue
  split <;> split <;> omega

/-- Lower-case hex is what the decoded bytes are written as. -/
theorem hex_fromHex : ∀ s : Str, s.length % 2 = 0 → (∀ c ∈ s, isLowerHex c = true) →
    hex (fromHex s) = s
  | [], _, _ => rfl
  | [_], h, _ => by simp at h
  | a :: b :: rest, h, digits => by
    have ih := hex_fromHex rest (by simp only [List.length_cons] at h; omega)
      fun c hc => digits c (by simp [hc])
    have high := digits a (by simp)
    have low := digits b (by simp)
    have highSmall := hexValue_lt high
    have lowSmall := hexValue_lt low
    have value : (UInt8.ofNat (16 * hexValue a + hexValue b)).toNat =
        16 * hexValue a + hexValue b :=
      UInt8.toNat_ofNat_of_lt' (by show _ < 256; omega)
    have quotient : (16 * hexValue a + hexValue b) / 16 = hexValue a := by omega
    have remainder : (16 * hexValue a + hexValue b) % 16 = hexValue b := by omega
    rw [hex] at ih ⊢
    rw [fromHex, List.flatMap_cons, ih, value, quotient, remainder, hexDigit_hexValue high,
      hexDigit_hexValue low]
    rfl

theorem isHash_iff {s : Str} :
    isHash s = true ↔ s.length = 64 ∧ ∀ c ∈ s, isLowerHex c = true := by
  rw [isHash, Bool.and_eq_true, decide_eq_true_eq, List.all_eq_true]

theorem fromHex_inj {s t : Str} (hs : isHash s = true) (ht : isHash t = true)
    (h : fromHex s = fromHex t) : s = t := by
  obtain ⟨sLength, sDigits⟩ := isHash_iff.mp hs
  obtain ⟨tLength, tDigits⟩ := isHash_iff.mp ht
  rw [← hex_fromHex s (by rw [sLength]) sDigits, h, hex_fromHex t (by rw [tLength]) tDigits]

/-- What a commitment hashes. -/
def commitmentPreimage (network nonce : Str) (canonical : Bytes) : Bytes :=
  Python.ObservableBundle.commitmentDomain ++ [UInt8.ofNat network.length] ++
    encodeAscii network ++ fromHex nonce ++ toBytesBig 4 canonical.length ++ canonical

/-- What both languages commit to. -/
structure Committable (network nonce : Str) (canonical : Bytes) : Prop where
  network : IsNetworkId network
  nonce : isHash nonce = true
  bounded : canonical.length ≤ maxCanonicalObservableBundleBytes

/-- A preimage determines the network, the nonce and the canonical bytes. -/
theorem commitmentPreimage_inj {network nonce network' nonce' : Str} {canonical canonical' : Bytes}
    (h : Committable network nonce canonical) (h' : Committable network' nonce' canonical')
    (same : commitmentPreimage network nonce canonical =
      commitmentPreimage network' nonce' canonical') :
    network = network' ∧ nonce = nonce' ∧ canonical = canonical' := by
  have networkLength := h.network.length.2
  have networkLength' := h'.network.length.2
  rw [maxNetworkLen] at networkLength networkLength'
  have nonceLength : (fromHex nonce).length = (fromHex nonce').length := by
    rw [length_fromHex, length_fromHex, (isHash_iff.mp h.nonce).1, (isHash_iff.mp h'.nonce).1]
  simp only [commitmentPreimage, List.append_assoc, List.append_cancel_left_eq,
    List.singleton_append] at same
  obtain ⟨lengthByte, same⟩ := List.cons_eq_cons.mp same
  have length : network.length = network'.length := by
    have numbers := congrArg UInt8.toNat lengthByte
    rwa [UInt8.toNat_ofNat_of_lt' (by show _ < 256; omega),
      UInt8.toNat_ofNat_of_lt' (by show _ < 256; omega)] at numbers
  obtain ⟨sameNetwork, same⟩ := List.append_inj same (by simp only [encodeAscii, List.length_map, length])
  obtain ⟨sameNonce, same⟩ := List.append_inj same nonceLength
  obtain ⟨-, sameCanonical⟩ := List.append_inj same (by simp only [length_toBytesBig])
  exact ⟨encodeAscii_inj h.network.isAscii.small h'.network.isAscii.small sameNetwork,
    fromHex_inj h.nonce h'.nonce sameNonce, sameCanonical⟩

theorem decodeNonce_python {nonce : Str} {decoded : Bytes} :
    Python.ObservableBundle.decodeHex nonce = .ok decoded ↔
      isHash nonce = true ∧ fromHex nonce = decoded := by
  rw [Python.ObservableBundle.decodeHex, ite_error_eq_ok, ite_error_eq_ok, not_not, not_not,
    isHash_iff, List.all_eq_true, Except.ok.injEq, and_assoc]
  rfl

theorem decodeNonce_rust {nonce decoded : Bytes} :
    (Rust.decodeHex nonce = some decoded ∧ decoded.length = nonceBytes) ↔
      isHash (nonce.map UInt8.toNat) = true ∧ fromHex (nonce.map UInt8.toNat) = decoded := by
  rw [isHash_iff, List.length_map, ← List.all_eq_true]
  by_cases even : nonce.length % 2 = 0
  · rw [decodeHex_eq even]
    constructor
    · rintro ⟨h, size⟩
      split at h
      · rename_i digits
        obtain rfl := Option.some.inj h
        rw [length_fromHex, List.length_map, nonceBytes] at size
        exact ⟨⟨by omega, digits⟩, rfl⟩
      · cases h
    · rintro ⟨⟨length, digits⟩, rfl⟩
      rw [if_pos digits, length_fromHex, List.length_map, length]
      exact ⟨rfl, rfl⟩
  · rw [Rust.decodeHex, if_pos even]
    constructor
    · rintro ⟨⟨⟩, -⟩
    · rintro ⟨⟨length, -⟩, -⟩
      omega

/-- A commitment in Rust is to a network identifier and a nonce. -/
theorem commitment_rust {sha256 : Bytes → Bytes} {bundle : Rust.ObservableBundle}
    {network nonce : Str} {networkBytes nonceBytes digest : Bytes}
    (isNetwork : encodeUtf8 network = some networkBytes)
    (isNonce : encodeUtf8 nonce = some nonceBytes)
    (h : bundle.commitment sha256 networkBytes nonceBytes = .ok digest) :
    IsNetworkId network ∧ isHash nonce = true := by
  rw [Rust.ObservableBundle.commitment, ite_error_eq_ok, not_not] at h
  obtain ⟨validNetwork, h⟩ := h
  split at h
  · cases h
  rename_i decoded isDecoded
  rw [ite_error_eq_ok, not_not] at h
  have network_eq := Rust.validateNetworkId_iff.mp validNetwork
  have nonce_eq := (decodeNonce_rust.mp ⟨isDecoded, h.1⟩).1
  rw [toNat_encodeUtf8 isNetwork (.inl network_eq.isAscii)] at network_eq
  rw [toNat_encodeUtf8 isNonce (.inl (isAscii_of_isHash nonce_eq))] at nonce_eq
  exact ⟨network_eq, nonce_eq⟩

/-- A commitment in Python is to a network identifier and a nonce. -/
theorem commitment_python {sha256 : Bytes → Bytes} {bundle : Python.ObservableBundle}
    {network nonce : Str} {digest : Bytes}
    (h : bundle.commitment sha256 network nonce = .ok digest) :
    IsNetworkId network ∧ isHash nonce = true := by
  rw [Python.ObservableBundle.commitment, ite_error_eq_ok, not_not, bind_eq_ok] at h
  obtain ⟨validNetwork, decoded, isDecoded, -⟩ := h
  exact ⟨Python.validateNetworkId_iff.mp validNetwork, (decodeNonce_python.mp isDecoded).1⟩

theorem error_of_not_ok {ε α : Type} {x : Except ε α} (h : ∀ a, x ≠ .ok a) : ∃ e, x = .error e := by
  cases x with
  | error e => exact ⟨e, rfl⟩
  | ok a => exact absurd rfl (h a)

/-- To a network identifier and a nonce both languages commit with the hash of one preimage. -/
theorem commitments_of_valid (sha256 : Bytes → Bytes) {bundle : Rust.ObservableBundle}
    (h : bundle.toPython.Accepts) {network nonce : Str} {networkBytes nonceBytes : Bytes}
    (isNetwork : encodeUtf8 network = some networkBytes)
    (isNonce : encodeUtf8 nonce = some nonceBytes) (validNetwork : IsNetworkId network)
    (validNonce : isHash nonce = true) :
    Committable network nonce bundle.toVec ∧
      bundle.commitment sha256 networkBytes nonceBytes =
        .ok (sha256 (commitmentPreimage network nonce bundle.toVec)) ∧
      bundle.toPython.commitment sha256 network nonce =
        .ok (sha256 (commitmentPreimage network nonce bundle.toVec)) := by
  have same := (Rust.ObservableBundle.toVec_eq bundle).symm
  have bounded := h.bounded
  rw [same] at bounded
  have rustBytes :=
    Rust.ObservableBundle.toCanonicalBytes_iff.mpr ⟨h.checked, h.bounded, same⟩
  have pythonBytes := Python.ObservableBundle.canonicalBytes_iff.mpr ⟨h.checked, h.bounded, same⟩
  have networkText := toNat_encodeUtf8 isNetwork (.inr validNetwork.isAscii)
  have nonceText := toNat_encodeUtf8 isNonce (.inr (isAscii_of_isHash validNonce))
  obtain ⟨isDecoded, size⟩ := decodeNonce_rust.mpr ⟨by rwa [nonceText], rfl⟩
  rw [nonceText] at isDecoded size
  have rustNetwork : Rust.validateNetworkId networkBytes = true :=
    Rust.validateNetworkId_iff.mpr (by rwa [networkText])
  have networkBytes_eq : encodeAscii network = networkBytes := by
    rw [← networkText, encodeAscii_toNat]
  have short : networkBytes.length = network.length := by
    rw [← networkText, List.length_map]
  have long := validNetwork.length.2
  rw [maxNetworkLen] at long
  refine ⟨⟨validNetwork, validNonce, bounded⟩, ?_, ?_⟩
  · rw [Rust.ObservableBundle.commitment, if_neg (not_not.mpr rustNetwork)]
    simp only [isDecoded, if_neg (not_not.mpr size), bind_eq_ok]
    refine ⟨_, rustBytes, ?_⟩
    rw [if_neg (by omega), commitmentPreimage, networkBytes_eq, short]
    rfl
  · have decoded := decodeNonce_python.mpr ⟨validNonce, rfl⟩
    rw [Python.ObservableBundle.commitment,
      if_neg (not_not.mpr (Python.validateNetworkId_iff.mpr validNetwork)), bind_eq_ok]
    refine ⟨_, decoded, ?_⟩
    rw [if_neg (not_not.mpr size), bind_eq_ok]
    exact ⟨_, pythonBytes, rfl⟩

/-- Both commitments of one checked bundle are refused, or are the hash of one preimage. -/
theorem commitment_agree (sha256 : Bytes → Bytes) {bundle : Rust.ObservableBundle}
    (h : bundle.toPython.Accepts) {network nonce : Str} {networkBytes nonceBytes : Bytes}
    (isNetwork : encodeUtf8 network = some networkBytes)
    (isNonce : encodeUtf8 nonce = some nonceBytes) :
    ((∃ e, bundle.commitment sha256 networkBytes nonceBytes = .error e) ∧
      ∃ e, bundle.toPython.commitment sha256 network nonce = .error e) ∨
    (Committable network nonce bundle.toVec ∧
      bundle.commitment sha256 networkBytes nonceBytes =
        .ok (sha256 (commitmentPreimage network nonce bundle.toVec)) ∧
      bundle.toPython.commitment sha256 network nonce =
        .ok (sha256 (commitmentPreimage network nonce bundle.toVec))) := by
  by_cases valid : IsNetworkId network ∧ isHash nonce = true
  · exact .inr (commitments_of_valid sha256 h isNetwork isNonce valid.1 valid.2)
  · exact .inl ⟨error_of_not_ok fun d accepted => valid (commitment_rust isNetwork isNonce accepted),
      error_of_not_ok fun d accepted => valid (commitment_python accepted)⟩

/-! ## Agreement -/

/-- The two observables expose the same fields. -/
structure SameObservable (rust : Rust.ObservableBundleObservable) (python : Python.Observable) :
    Prop where
  kind : python.kind = rust.kind
  value : encodeUtf8 python.value = some rust.value

/-- The two bundles expose the same fields. -/
structure SameBundle (rust : Rust.ObservableBundle) (python : Python.ObservableBundle) : Prop where
  schemaVersion : python.schemaVersion = rust.schemaVersion.toNat
  disclosurePolicy : python.disclosurePolicy = rust.disclosurePolicy
  scope : python.scope = rust.scope
  observables : List.Forall₂ SameObservable rust.observables python.observables

theorem sameBundle_toPython {bundle : Rust.ObservableBundle} (h : bundle.toPython.Checked) :
    SameBundle bundle bundle.toPython where
  schemaVersion := rfl
  disclosurePolicy := rfl
  scope := rfl
  observables := by
    refine List.forall₂_map_right_iff.mpr (List.forall₂_same.mpr fun o ho => ⟨rfl, ?_⟩)
    have admissible := h.admissible o.toPython (List.mem_map_of_mem ho)
    exact encodeUtf8_toNat (isAscii_of_valid admissible.grammar)

/-- On every wire both parsers refuse, or both accept with the same observables and the wire as the
canonical bytes; then on every network and nonce both commitments refuse, or are the hash of one
preimage. A preimage determines the network, the nonce and the canonical bytes. -/
theorem observable_bundle_agree {fromSlice : Bytes → Option Rust.ObservableBundle}
    (readsBack : Rust.ObservableBundle.ReadsBack fromSlice) (floatRepr : Str → Str)
    (sha256 : Bytes → Bytes) :
    (∀ wire,
      ((∃ e, Rust.ObservableBundle.parseCanonical fromSlice wire = .error e) ∧
        ∃ e, Python.ObservableBundle.parseCanonical floatRepr wire = .error e) ∨
      ∃ rust python,
        Rust.ObservableBundle.parseCanonical fromSlice wire = .ok rust ∧
        Python.ObservableBundle.parseCanonical floatRepr wire = .ok python ∧
        SameBundle rust python ∧
        rust.toCanonicalBytes = .ok wire ∧ python.canonicalBytes = .ok wire ∧
        ∀ network nonce networkBytes nonceBytes, encodeUtf8 network = some networkBytes →
          encodeUtf8 nonce = some nonceBytes →
          ((∃ e, rust.commitment sha256 networkBytes nonceBytes = .error e) ∧
            ∃ e, python.commitment sha256 network nonce = .error e) ∨
          (Committable network nonce wire ∧
            rust.commitment sha256 networkBytes nonceBytes =
              .ok (sha256 (commitmentPreimage network nonce wire)) ∧
            python.commitment sha256 network nonce =
              .ok (sha256 (commitmentPreimage network nonce wire)))) ∧
    (∀ network nonce canonical network' nonce' canonical',
      Committable network nonce canonical → Committable network' nonce' canonical' →
      commitmentPreimage network nonce canonical = commitmentPreimage network' nonce' canonical' →
      network = network' ∧ nonce = nonce' ∧ canonical = canonical') := by
  refine ⟨fun wire => ?_, fun _ _ _ _ _ _ h h' => commitmentPreimage_inj h h'⟩
  have isRust := Rust.ObservableBundle.canonical readsBack
  have agree := isRust.agree (Python.ObservableBundle.canonical floatRepr)
    Rust.ObservableBundle.toPython
    (fun bundle h => ⟨h, (Rust.ObservableBundle.toVec_eq bundle).symm⟩)
    (fun bundle h => by
      have same := Rust.ObservableBundle.toPython_ofPython h.checked
      exact ⟨.ofPython bundle, by rwa [same], same⟩) wire
  cases accepted : Rust.ObservableBundle.parseCanonical fromSlice wire with
  | error e =>
    refine .inl ⟨⟨e, rfl⟩, error_of_not_ok fun bundle accepted' => ?_⟩
    rw [accepted, accepted'] at agree
    cases agree
  | ok bundle =>
    rw [accepted] at agree
    have accepts := isRust.valid (toOption_eq_some.mpr accepted)
    have isWire := isRust.encode_eq (toOption_eq_some.mpr accepted)
    have same := (Rust.ObservableBundle.toVec_eq bundle).symm.trans isWire
    refine .inr ⟨bundle, bundle.toPython, rfl, toOption_eq_some.mp agree,
      sameBundle_toPython accepts.checked,
      Rust.ObservableBundle.toCanonicalBytes_iff.mpr ⟨accepts.checked, accepts.bounded, same⟩,
      Python.ObservableBundle.canonicalBytes_iff.mpr ⟨accepts.checked, accepts.bounded, same⟩, ?_⟩
    intro network nonce networkBytes nonceBytes isNetwork isNonce
    rw [← isWire]
    exact commitment_agree sha256 accepts isNetwork isNonce

/-- A reader of the wire struct. -/
def observableBundleReader (wire : Bytes) : Option Rust.ObservableBundle :=
  ((Python.readObject id wire).bind fun fields =>
    (Python.ObservableBundle.parseObject fields).toOption).map Rust.ObservableBundle.ofPython

theorem observableBundleReader_readsBack :
    Rust.ObservableBundle.ReadsBack observableBundleReader := by
  intro bundle h
  have checked := Rust.ObservableBundle.validate_iff.mp h
  have isRead : (Python.readObject id (dump bundle.toPython.payload)).bind _ =
      some bundle.toPython :=
    Python.ObservableBundle.readsBack id _ checked
  show ((Python.readObject id bundle.toVec).bind _).map _ = some bundle
  rw [Rust.ObservableBundle.toVec_eq, isRead, Option.map_some,
    Rust.ObservableBundle.ofPython_toPython]

/-- A bundle with an import and a byte pattern. -/
def baseBundle : Rust.ObservableBundle where
  schemaVersion := 1
  disclosurePolicy := .reviewRequiredV1
  scope := { platform := .windows, format := .pe }
  observables :=
    [{ kind := .apiImport, value := ascii "CreateRemoteThread" },
      { kind := .bytePattern, value := ascii "4d 5a ?? 90 00 03 00 00 ff" }]

theorem observable_bundle_agree_base :
    ∃ rust python digest,
      Rust.ObservableBundle.parseCanonical observableBundleReader baseBundle.toVec = .ok rust ∧
      Python.ObservableBundle.parseCanonical id baseBundle.toVec = .ok python ∧
      SameBundle rust python ∧
      rust.commitment sha256 (ascii "testnet-10") (List.replicate 64 97) = .ok digest ∧
      python.commitment sha256 (str "testnet-10") (List.replicate 64 97) = .ok digest := by
  have isNetwork : encodeUtf8 (str "testnet-10") = some (ascii "testnet-10") := by decide
  have isNonce : encodeUtf8 (List.replicate 64 97) = some (List.replicate 64 97) := by
    decide
  have committable : Python.validateNetworkId (str "testnet-10") = true ∧
      isHash (List.replicate 64 97) = true := by
    decide
  have isValid : baseBundle.validate.toOption = some () := by decide
  have short : baseBundle.toVec.length ≤ maxCanonicalObservableBundleBytes := by decide +kernel
  have checked := Rust.ObservableBundle.validate_iff.mp (toOption_eq_some.mp isValid)
  have bounded := short
  rw [Rust.ObservableBundle.toVec_eq] at bounded
  have accepted := (Rust.ObservableBundle.canonical
    observableBundleReader_readsBack).parse_encode (a := baseBundle) ⟨checked, bounded⟩
  have agree := (observable_bundle_agree observableBundleReader_readsBack id sha256).1
    baseBundle.toVec
  rw [toOption_eq_some] at accepted
  obtain ⟨⟨e, refused⟩, -⟩ | ⟨rust, python, isRust, isPython, same, -, bytes, commitments⟩ := agree
  · rw [accepted] at refused
    cases refused
  · obtain ⟨-, e, refused⟩ | ⟨-, rustDigest, pythonDigest⟩ :=
      commitments _ _ _ _ isNetwork isNonce
    · have size : (fromHex (List.replicate 64 97)).length = nonceBytes := by
        rw [length_fromHex]
        rfl
      have decoded := decodeNonce_python.mpr ⟨committable.2, rfl⟩
      rw [Python.ObservableBundle.commitment, if_neg (not_not.mpr committable.1), decoded] at refused
      simp only [bind, Except.bind, size, ne_eq, not_true_eq_false, if_false, bytes,
        reduceCtorEq] at refused
    · exact ⟨rust, python, _, isRust, isPython, same, rustDigest, pythonDigest⟩

end Prometheus.ThreatHint
