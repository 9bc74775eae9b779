import Prometheus.Machine.Lexer
import Prometheus.ThreatHint.ObservableProducer

/-!
# A produced byte pattern is canonical and decodes to the selection

The tokens are written with one space between them, so splitting at spaces gives them back. A bundle
with one short observable, none of whose bytes is escaped, is within the limit of a canonical bundle.
-/

namespace Prometheus.ThreatHint.Rust

open Prometheus.Codec
open Prometheus.Machine (intercalate_cons)

/-! ## Bundles of one observable -/

/-- A byte that `serde_json` writes as it is. -/
def IsPrinted (b : UInt8) : Prop := serdeByte b = [b]

theorem isPrinted_of_range {b : UInt8} (small : b.toNat < 128)
    (printed : 32 ≤ b.toNat ∧ b.toNat ≠ 34 ∧ b.toNat ≠ 92) : IsPrinted b := by
  have each : ∀ n < 128, 32 ≤ n ∧ n ≠ 34 ∧ n ≠ 92 →
      serdeByte (UInt8.ofNat n) = [UInt8.ofNat n] := by
    decide
  have here := each b.toNat small printed
  rwa [UInt8.ofNat_toNat] at here

theorem length_serdeString {s : Bytes} (printed : ∀ b ∈ s, IsPrinted b) :
    (serdeString s).length = s.length + 2 := by
  have same : s.flatMap serdeByte = s := by
    induction s with
    | nil => rfl
    | cons b s ih =>
      rw [List.flatMap_cons, printed b List.mem_cons_self,
        ih fun c hc => printed c (List.mem_cons_of_mem b hc)]
      rfl
  rw [serdeString, same, List.length_append, List.length_append, List.length_singleton]
  omega

/-- The longest name of an enumeration has 18 letters. -/
theorem length_names (p : DisclosurePolicy) (s : ScopePlatform) (f : ScopeFormat)
    (k : ObservableKind) :
    (serdeString (ascii (DisclosurePolicy.name p))).length ≤ 20 ∧
      (serdeString (ascii (ScopePlatform.name s))).length ≤ 20 ∧
      (serdeString (ascii (ScopeFormat.name f))).length ≤ 20 ∧
      (serdeString (ascii (ObservableKind.asStr k))).length ≤ 20 := by
  refine ⟨?_, ?_, ?_, ?_⟩
  · cases p <;> decide
  · cases s <;> decide
  · cases f <;> decide
  · cases k <;> decide

/-- The keys of a bundle with their quotes. -/
theorem length_keys :
    ["schema_version", "disclosure_policy", "scope", "platform", "format", "observables", "kind",
      "value"].map (fun key => (serdeString (ascii key)).length) = [16, 19, 7, 10, 8, 13, 6, 7] := by
  decide

namespace ObservableBundle

variable {platform : ScopePlatform} {format : ScopeFormat} {kind : ObservableKind} {value : Bytes}

theorem length_toVec (printed : ∀ b ∈ value, IsPrinted b) :
    (reviewRequired platform format kind value).toVec.length ≤ value.length + 256 := by
  have names := length_names .reviewRequiredV1 platform format kind
  have keys := length_keys
  have version : (serdeNat 1).length = 1 := by decide
  simp only [List.map_cons, List.map_nil, List.cons.injEq, and_true] at keys
  simp only [toVec, reviewRequired, serdeStruct, serdeArray, List.map_cons, List.map_nil,
    List.intercalate, List.intersperse_cons_cons, List.intersperse_singleton, List.flatten_cons,
    List.flatten_nil, List.length_append, List.length_cons, List.length_nil,
    length_serdeString printed, UInt16.toNat_one, version]
  omega

/-- The checks of a bundle with one observable are those of the observable. -/
theorem validate_reviewRequired (valid : validateObservable kind value = .ok ()) :
    (reviewRequired platform format kind value).validate = .ok () := by
  have one : ¬ ((reviewRequired platform format kind value).observables.length < minObservables ∨
      maxObservables < (reviewRequired platform format kind value).observables.length) := by
    simp [reviewRequired, minObservables, maxObservables]
  rw [validate, if_neg (by simp [reviewRequired]), if_neg one, reviewRequired, validateObservables,
    valid]
  simp [validateObservables]

theorem toCanonicalBytes_reviewRequired (valid : validateObservable kind value = .ok ())
    (printed : ∀ b ∈ value, IsPrinted b) (short : value.length ≤ 1024) :
    (reviewRequired platform format kind value).toCanonicalBytes =
      .ok (reviewRequired platform format kind value).toVec := by
  have isValid : (reviewRequired platform format kind value).validate = .ok () :=
    validate_reviewRequired valid
  have checked := validate_iff.mp isValid
  have bounded : (reviewRequired platform format kind value).toVec.length ≤ value.length + 256 :=
    length_toVec printed
  rw [toVec_eq] at bounded
  refine toCanonicalBytes_iff.mpr ⟨checked, ?_, (toVec_eq _).symm⟩
  have limit : 1024 + 256 ≤ maxCanonicalObservableBundleBytes := by decide
  omega

/-- The reader takes a bundle that was written. -/
theorem parseCanonical_toVec {fromSlice : Bytes → Option ObservableBundle}
    (readsBack : ReadsBack fromSlice) {bundle : ObservableBundle} {wire : Bytes}
    (isCanonical : bundle.toCanonicalBytes = .ok wire) :
    parseCanonical fromSlice bundle.toVec = .ok bundle := by
  obtain ⟨checked, bounded, -⟩ := toCanonicalBytes_iff.mp isCanonical
  exact toOption_eq_some.mp ((canonical readsBack).parse_encode (a := bundle) ⟨checked, bounded⟩)

end ObservableBundle

/-! ## The tokens of a byte pattern -/

/-- A token as the reader of a byte pattern understands it. -/
def decodeToken (token : Bytes) : Option (Option UInt8) :=
  if token = [63, 63] then some none
  else
    match decodeHex token with
    | some [byte] => some (some byte)
    | _ => none

/-- The bytes and wildcards that a byte pattern stands for. -/
def decodeBytePattern (value : Bytes) : Option (List (Option UInt8)) :=
  (value.splitOn 32).mapM decodeToken

open ObservableBundle (tokenText pushTokens)

/-- The tokens with one space between them. -/
def joinTokens (tokens : List (Option UInt8)) : Bytes :=
  List.intercalate [32] (tokens.map tokenText)

theorem pushTokens_succ (value : Bytes) (index : Nat) (tokens : List (Option UInt8)) :
    pushTokens value (index + 1) tokens =
      value ++ tokens.flatMap fun token => 32 :: tokenText token := by
  induction tokens generalizing value index with
  | nil => simp [pushTokens]
  | cons token tokens ih =>
    rw [pushTokens, if_pos (Nat.succ_ne_zero index), ih, List.flatMap_cons]
    simp

theorem joinTokens_cons (token : Option UInt8) (tokens : List (Option UInt8)) :
    joinTokens (token :: tokens) =
      tokenText token ++ tokens.flatMap fun token => 32 :: tokenText token := by
  rw [joinTokens, List.map_cons, intercalate_cons, List.flatMap_map]

/-- What the loop writes. -/
theorem pushTokens_eq (tokens : List (Option UInt8)) : pushTokens [] 0 tokens = joinTokens tokens := by
  cases tokens with
  | nil => rfl
  | cons token tokens =>
    rw [pushTokens, if_neg (not_not.mpr rfl), pushTokens_succ, joinTokens_cons, List.nil_append]

/-- A byte of a token: a lower-case hex digit or a question mark. -/
def IsTokenByte (b : UInt8) : Prop := isLowerHex b.toNat = true ∨ b = 63

theorem isLowerHex_tokenText {byte b : UInt8} (h : b ∈ tokenText (some byte)) :
    isLowerHex b.toNat = true := by
  rw [tokenText, encodeAscii, List.mem_map] at h
  obtain ⟨c, hc, rfl⟩ := h
  have isHex := isLowerHex_of_mem_hex hc
  have small : c < 256 := by
    simp only [isLowerHex, Bool.or_eq_true, Bool.and_eq_true, decide_eq_true_eq] at isHex
    omega
  rwa [UInt8.toNat_ofNat_of_lt' small]

theorem isTokenByte_tokenText {token : Option UInt8} {b : UInt8} (h : b ∈ tokenText token) :
    IsTokenByte b := by
  cases token with
  | none =>
    refine .inr ?_
    simpa [tokenText] using h
  | some byte => exact .inl (isLowerHex_tokenText h)

theorem length_tokenText (token : Option UInt8) : (tokenText token).length = 2 := by
  cases token with
  | none => rfl
  | some byte => rw [tokenText, encodeAscii, List.length_map, length_hex, List.length_singleton]

/-- What holds of every byte of a token. -/
theorem IsTokenByte.range {b : UInt8} (h : IsTokenByte b) :
    (48 ≤ b.toNat ∧ b.toNat ≤ 57) ∨ (97 ≤ b.toNat ∧ b.toNat ≤ 102) ∨ b.toNat = 63 := by
  rcases h with h | rfl
  · simp only [isLowerHex, Bool.or_eq_true, Bool.and_eq_true, decide_eq_true_eq] at h
    omega
  · exact .inr (.inr rfl)

theorem IsTokenByte.ne_space {b : UInt8} (h : IsTokenByte b) : b ≠ 32 := by
  rintro rfl
  have range := h.range
  simp at range

theorem decodeToken_tokenText (token : Option UInt8) : decodeToken (tokenText token) = some token := by
  cases token with
  | none => rfl
  | some byte =>
    have isHex : ∀ b ∈ tokenText (some byte), isLowerHex b.toNat = true :=
      fun b hb => isLowerHex_tokenText hb
    have notWild : tokenText (some byte) ≠ [63, 63] := by
      intro wild
      have question := isHex 63 (by simp [wild])
      exact absurd question (by decide)
    have text : (tokenText (some byte)).map UInt8.toNat = hex [byte] := by
      refine map_toNat_encodeAscii fun c hc => ?_
      have digit := isLowerHex_of_mem_hex hc
      simp only [isLowerHex, Bool.or_eq_true, Bool.and_eq_true, decide_eq_true_eq] at digit
      omega
    have decoded : decodeHex (tokenText (some byte)) = some [byte] := by
      rw [decodeHex_eq (by rw [length_tokenText]), text, fromHex_hex,
        if_pos (List.all_eq_true.mpr fun c hc => isLowerHex_of_mem_hex hc)]
    rw [decodeToken, if_neg notWild, decoded]

/-! ## The grammar of a byte pattern -/

theorem splitOn_joinTokens {tokens : List (Option UInt8)} (nonempty : tokens ≠ []) :
    (joinTokens tokens).splitOn 32 = tokens.map tokenText := by
  refine List.splitOn_intercalate 32 (fun text isText => ?_) (by simpa using nonempty)
  obtain ⟨token, -, rfl⟩ := List.mem_map.mp isText
  exact fun space => (isTokenByte_tokenText space).ne_space rfl

theorem decodeBytePattern_joinTokens {tokens : List (Option UInt8)} (nonempty : tokens ≠ []) :
    decodeBytePattern (joinTokens tokens) = some tokens := by
  rw [decodeBytePattern, splitOn_joinTokens nonempty]
  clear nonempty
  induction tokens with
  | nil => rfl
  | cons token tokens ih =>
    rw [List.map_cons, List.mapM_cons, decodeToken_tokenText, ih]
    rfl

/-- Every byte is a space or belongs to a token. -/
theorem mem_joinTokens {tokens : List (Option UInt8)} {b : UInt8} (h : b ∈ joinTokens tokens) :
    b = 32 ∨ IsTokenByte b := by
  cases tokens with
  | nil => simp [joinTokens, List.intercalate] at h
  | cons token tokens =>
    rw [joinTokens_cons, List.mem_append, List.mem_flatMap] at h
    rcases h with h | ⟨next, -, h⟩
    · exact .inr (isTokenByte_tokenText h)
    · rcases List.mem_cons.mp h with space | h
      · exact .inl space
      · exact .inr (isTokenByte_tokenText h)

/-- A pattern neither starts nor ends with a space. -/
theorem head_joinTokens (token : Option UInt8) (tokens : List (Option UInt8)) :
    (joinTokens (token :: tokens)).head? ≠ some 32 := by
  intro space
  rw [joinTokens_cons, List.head?_append_of_ne_nil _ (List.ne_nil_of_length_eq_add_one
    (length_tokenText token))] at space
  exact (isTokenByte_tokenText (List.mem_of_head? space)).ne_space rfl

theorem getLast_joinTokens (token : Option UInt8) (tokens : List (Option UInt8)) :
    (joinTokens (token :: tokens)).getLast? ≠ some 32 := by
  intro space
  induction tokens generalizing token with
  | nil =>
    rw [joinTokens_cons, List.flatMap_nil, List.append_nil] at space
    exact (isTokenByte_tokenText (List.mem_of_getLast? space)).ne_space rfl
  | cons next tokens ih =>
    have nonempty : joinTokens (next :: tokens) ≠ [] := by
      rw [joinTokens_cons]
      exact List.append_ne_nil_of_left_ne_nil
        (List.ne_nil_of_length_eq_add_one (length_tokenText next)) _
    rw [joinTokens_cons, List.flatMap_cons, List.cons_append, ← joinTokens_cons,
      List.getLast?_append_of_ne_nil _ (List.cons_ne_nil _ _),
      List.getLast?_cons_of_ne_nil nonempty] at space
    exact ih next space

theorem length_joinTokens (tokens : List (Option UInt8)) :
    (joinTokens tokens).length ≤ 3 * tokens.length := by
  cases tokens with
  | nil => simp [joinTokens, List.intercalate]
  | cons token tokens =>
    have each : ∀ next ∈ tokens, (32 :: tokenText next).length = 3 :=
      fun next _ => by rw [List.length_cons, length_tokenText]
    rw [joinTokens_cons, List.length_append, length_tokenText, List.length_flatMap,
      List.map_congr_left each, List.map_const', List.sum_replicate, List.length_cons]
    simp only [smul_eq_mul]
    omega

/-- The loop of the validator counts the tokens that are no wildcards. -/
theorem countFixed_tokenText (fixed : Nat) (tokens : List (Option UInt8)) :
    countFixed fixed (tokens.map tokenText) = .ok (fixed + (tokens.filterMap id).length) := by
  induction tokens generalizing fixed with
  | nil => rfl
  | cons token tokens ih =>
    have nonempty : tokenText token ≠ [] :=
      List.ne_nil_of_length_eq_add_one (length_tokenText token)
    rw [List.map_cons, countFixed, if_neg nonempty]
    cases token with
    | none =>
      have wild : tokenText none = [63, 63] := rfl
      rw [if_pos wild, ih]
      rfl
    | some byte =>
      have isHex : (tokenText (some byte)).all (fun b => isLowerHex b.toNat) = true :=
        List.all_eq_true.mpr fun b hb => isLowerHex_tokenText hb
      have notWild : tokenText (some byte) ≠ [63, 63] := by
        intro wild
        rw [wild] at isHex
        exact absurd isHex (by decide)
      have count : ((some byte :: tokens).filterMap id).length =
          (tokens.filterMap id).length + 1 := rfl
      rw [if_neg notWild, if_neg (by simp [length_tokenText]), if_neg (not_not.mpr isHex), ih, count,
        Nat.add_right_comm, Nat.add_assoc]

/-- The validator takes the patterns that the producer writes. -/
theorem validateBytePattern_joinTokens {tokens : List (Option UInt8)}
    (range : minBytePatternTokens ≤ tokens.length ∧ tokens.length ≤ maxBytePatternTokens)
    (fixed : minFixedBytePatternTokens ≤ (tokens.filterMap id).length) :
    validateBytePattern (joinTokens tokens) = .ok () := by
  obtain ⟨token, rest, rfl⟩ : ∃ token rest, tokens = token :: rest := by
    refine List.exists_cons_of_length_pos ?_
    have positive : 0 < minBytePatternTokens := by decide
    omega
  have isAscii : (joinTokens (token :: rest)).all (fun b => b < 128) = true := by
    refine List.all_eq_true.mpr fun b hb => decide_eq_true ?_
    rw [UInt8.lt_iff_toNat_lt]
    show b.toNat < 128
    rcases mem_joinTokens hb with rfl | isToken
    · decide
    · have range := isToken.range
      omega
  have edges : ¬ (joinTokens (token :: rest) = [] ∨
      (joinTokens (token :: rest)).head? = some 32 ∨
      (joinTokens (token :: rest)).getLast? = some 32) := by
    rw [joinTokens_cons] at *
    rintro (empty | space | space)
    · exact List.append_ne_nil_of_left_ne_nil
        (List.ne_nil_of_length_eq_add_one (length_tokenText token)) _ empty
    · exact head_joinTokens token rest (joinTokens_cons token rest ▸ space)
    · exact getLast_joinTokens token rest (joinTokens_cons token rest ▸ space)
  rw [validateBytePattern, if_neg (not_not.mpr isAscii), if_neg edges]
  simp only [splitOn_joinTokens (List.cons_ne_nil token rest), countFixed_tokenText, List.length_map,
    Nat.zero_add]
  rw [if_neg (not_not.mpr range), if_neg (not_lt.mpr fixed)]

theorem isPrinted_joinTokens {tokens : List (Option UInt8)} {b : UInt8} (h : b ∈ joinTokens tokens) :
    IsPrinted b := by
  rcases mem_joinTokens h with rfl | isToken
  · exact isPrinted_of_range (by decide) (by decide)
  · have range := isToken.range
    exact isPrinted_of_range (by omega) (by omega)

/-! ## The producer -/

/-- What the producer accepts: a mask of a length in range with enough fixed tokens, and a selection
inside the artifact. -/
structure Selectable (artifactBytes : Slice) (start : Nat) (wildcardMask : List Bool) : Prop where
  range : minBytePatternTokens ≤ wildcardMask.length ∧ wildcardMask.length ≤ maxBytePatternTokens
  fixed : minFixedBytePatternTokens ≤ wildcardMask.count false
  inBounds : start + wildcardMask.length ≤ artifactBytes.bytes.length

/-- What a selection stands for: the artifact's bytes, but where the mask is set. -/
def selection (artifactBytes : Slice) (start : Nat) (wildcardMask : List Bool) :
    List (Option UInt8) :=
  (((artifactBytes.bytes.drop start).take wildcardMask.length).zip wildcardMask).map
    fun (byte, wildcard) => if ¬ wildcard then some byte else none

section Producer

variable {artifactBytes : Slice} {start : Nat} {wildcardMask : List Bool}

theorem Selectable.length_selected (h : Selectable artifactBytes start wildcardMask) :
    ((artifactBytes.bytes.drop start).take wildcardMask.length).length = wildcardMask.length := by
  have inBounds := h.inBounds
  rw [List.length_take, List.length_drop]
  omega

theorem Selectable.length_selection (h : Selectable artifactBytes start wildcardMask) :
    (selection artifactBytes start wildcardMask).length = wildcardMask.length := by
  rw [selection, List.length_map, List.length_zip, h.length_selected, Nat.min_self]

/-- The token at an index is the artifact's byte there, or a wildcard. -/
theorem Selectable.getElem?_selection (h : Selectable artifactBytes start wildcardMask) {i : Nat}
    {wildcard : Bool} (isMask : wildcardMask[i]? = some wildcard) :
    (selection artifactBytes start wildcardMask)[i]? =
      some (if wildcard then none else artifactBytes.bytes[start + i]?) := by
  obtain ⟨inMask, -⟩ := List.getElem?_eq_some_iff.mp isMask
  have inBounds := h.inBounds
  have inArtifact : start + i < artifactBytes.bytes.length := by omega
  have isByte := List.getElem?_eq_getElem inArtifact
  have isSelected : ((artifactBytes.bytes.drop start).take wildcardMask.length)[i]? =
      some artifactBytes.bytes[start + i] := by
    rw [List.getElem?_take_of_lt inMask, List.getElem?_drop, isByte]
  have isPair : (((artifactBytes.bytes.drop start).take wildcardMask.length).zip wildcardMask)[i]? =
      some (artifactBytes.bytes[start + i], wildcard) :=
    List.getElem?_zip_eq_some.mpr ⟨isSelected, isMask⟩
  rw [selection, List.getElem?_map, isPair, isByte]
  cases wildcard <;> rfl

/-- As many tokens are fixed as the mask leaves. -/
theorem Selectable.fixed_selection (h : Selectable artifactBytes start wildcardMask) :
    ((selection artifactBytes start wildcardMask).filterMap id).length =
      wildcardMask.count false := by
  have pairs : ∀ (bytes : Bytes) (mask : List Bool), bytes.length = mask.length →
      (((bytes.zip mask).map fun (byte, wildcard) =>
        if ¬ wildcard then some byte else none).filterMap id).length = mask.count false := by
    intro bytes mask
    induction bytes generalizing mask with
    | nil =>
      intro same
      rw [List.length_nil] at same
      rw [List.length_eq_zero_iff.mp same.symm]
      rfl
    | cons byte bytes ih =>
      intro same
      cases mask with
      | nil => cases same
      | cons wildcard mask =>
        have rest := ih mask (Nat.succ.inj same)
        cases wildcard
        · rw [List.count_cons_self, ← rest]
          rfl
        · rw [List.count_cons_of_ne (by decide), ← rest]
          rfl
  exact pairs _ _ h.length_selected

theorem fromBytePatternTokens_eq {platform : ScopePlatform} {format : ScopeFormat}
    {tokens : List (Option UInt8)}
    (range : minBytePatternTokens ≤ tokens.length ∧ tokens.length ≤ maxBytePatternTokens)
    (fixed : minFixedBytePatternTokens ≤ (tokens.filterMap id).length) :
    ObservableBundle.fromBytePatternTokens platform format tokens =
        .ok (.reviewRequired platform format .bytePattern (joinTokens tokens)) ∧
      (ObservableBundle.reviewRequired platform format .bytePattern (joinTokens tokens)).toCanonicalBytes =
        .ok (ObservableBundle.reviewRequired platform format .bytePattern (joinTokens tokens)).toVec := by
  have short : (joinTokens tokens).length ≤ 1024 := by
    have length := length_joinTokens tokens
    have limit : 3 * maxBytePatternTokens ≤ 1024 := by decide
    have upper := range.2
    omega
  have isCanonical : (ObservableBundle.reviewRequired platform format .bytePattern
      (joinTokens tokens)).toCanonicalBytes =
        .ok (ObservableBundle.reviewRequired platform format .bytePattern (joinTokens tokens)).toVec :=
    ObservableBundle.toCanonicalBytes_reviewRequired (validateBytePattern_joinTokens range fixed)
      (fun b hb => isPrinted_joinTokens hb) short
  refine ⟨?_, isCanonical⟩
  rw [ObservableBundle.fromBytePatternTokens,
    if_neg (not_or.mpr ⟨not_not.mpr range, not_lt.mpr fixed⟩)]
  simp only [pushTokens_eq, isCanonical]
  rfl

theorem length_filter_not (mask : List Bool) :
    (mask.filter fun wildcard => !wildcard).length = mask.count false := by
  rw [List.count, List.countP_eq_length_filter]
  congr 1
  refine List.filter_congr fun wildcard _ => ?_
  cases wildcard <;> rfl

/-- The producer writes the selection. -/
theorem Selectable.produce (h : Selectable artifactBytes start wildcardMask)
    (platform : ScopePlatform) (format : ScopeFormat) :
    produceBytePatternBundle artifactBytes start wildcardMask platform format =
      ObservableBundle.fromBytePatternTokens platform format
        (selection artifactBytes start wildcardMask) := by
  have accepted : ¬ (¬ (minBytePatternTokens ≤ wildcardMask.length ∧
      wildcardMask.length ≤ maxBytePatternTokens) ∨
        (wildcardMask.filter fun wildcard => !wildcard).length < minFixedBytePatternTokens) := by
    rw [length_filter_not]
    exact not_or.mpr ⟨not_not.mpr h.range, not_lt.mpr h.fixed⟩
  have noOverflow : ¬ usizeMax < start + wildcardMask.length :=
    not_lt.mpr (h.inBounds.trans artifactBytes.fits)
  rw [produceBytePatternBundle, if_neg accepted, if_neg noOverflow]
  simp only [if_neg (not_lt.mpr h.inBounds), Nat.add_sub_cancel_left]
  rfl

/-- The bundle that the producer returns, what a reader makes of it and what its value stands for. -/
theorem Selectable.bundle (h : Selectable artifactBytes start wildcardMask)
    {fromSlice : Bytes → Option ObservableBundle} (readsBack : ObservableBundle.ReadsBack fromSlice)
    (platform : ScopePlatform) (format : ScopeFormat) :
    ∃ value,
      produceBytePatternBundle artifactBytes start wildcardMask platform format =
        .ok (.reviewRequired platform format .bytePattern value) ∧
      ObservableBundle.parseCanonical fromSlice
          (ObservableBundle.reviewRequired platform format .bytePattern value).toVec =
        .ok (.reviewRequired platform format .bytePattern value) ∧
      decodeBytePattern value = some (selection artifactBytes start wildcardMask) := by
  have range := h.range
  have fixed := h.fixed
  rw [← h.length_selection] at range
  rw [← h.fixed_selection] at fixed
  obtain ⟨produced, isCanonical⟩ :=
    @fromBytePatternTokens_eq platform format _ range fixed
  have nonempty : selection artifactBytes start wildcardMask ≠ [] := by
    refine List.ne_nil_of_length_pos ?_
    have positive : 0 < minBytePatternTokens := by decide
    omega
  exact ⟨_, (h.produce platform format).trans produced,
    ObservableBundle.parseCanonical_toVec readsBack isCanonical,
    decodeBytePattern_joinTokens nonempty⟩

end Producer

end Prometheus.ThreatHint.Rust
