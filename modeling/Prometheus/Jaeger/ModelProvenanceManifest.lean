import Prometheus.Jaeger.ModelProvenance
import Prometheus.Machine.Lexer

/-!
# What a manifest can say

The file lists that `_parse_document` lets pass, and that `parse_model_provenance` accepts exactly
the canonical encodings of them.
-/

namespace Prometheus.Jaeger.Provenance

open Prometheus.Codec Prometheus.Machine

/-! ## Paths -/

/-- A name in a directory. -/
structure IsName (name : Str) : Prop where
  notDots : isDots name = false
  noSlash : 47 ∉ name
  noNul : 0 ∉ name

/-- The names on the way to a file, with slashes between them. -/
def joinPath (names : List Str) : Str := List.intercalate [47] names

/-- A relative path of names within the limit. -/
structure IsPath (path : Str) : Prop where
  names : ∃ names, names ≠ [] ∧ (∀ name ∈ names, IsName name) ∧ joinPath names = path
  short : ∃ encoded, encodeText path = some encoded ∧ encoded.length ≤ maxRelativePathBytes

theorem IsName.ne_nil {name : Str} (h : IsName name) : name ≠ [] := by
  rintro rfl
  cases h.notDots

theorem splitOn_joinPath {names : List Str} (nonempty : names ≠ [])
    (valid : ∀ name ∈ names, IsName name) : (joinPath names).splitOn 47 = names :=
  List.splitOn_intercalate 47 (fun name isName => (valid name isName).noSlash) nonempty

theorem joinPath_inj {names names' : List Str} (nonempty : names ≠ []) (nonempty' : names' ≠ [])
    (valid : ∀ name ∈ names, IsName name) (valid' : ∀ name ∈ names', IsName name)
    (same : joinPath names = joinPath names') : names = names' := by
  rw [← splitOn_joinPath nonempty valid, same, splitOn_joinPath nonempty' valid']

theorem joinPath_cons (name : Str) {names : List Str} (nonempty : names ≠ []) :
    joinPath (name :: names) = name ++ 47 :: joinPath names := by
  cases names with
  | nil => exact absurd rfl nonempty
  | cons next names => simp [joinPath, List.intercalate]

theorem not_mem_of_mem_splitOn {sep : Nat} {s part : Str} (h : part ∈ s.splitOn sep) :
    sep ∉ part := by
  induction s generalizing part with
  | nil =>
    obtain rfl := List.mem_singleton.mp h
    exact List.not_mem_nil
  | cons c s ih =>
    rw [List.splitOn_cons_eq_if_modifyHead] at h
    by_cases isSep : (c == sep) = true
    · rw [if_pos isSep] at h
      rcases List.mem_cons.mp h with rfl | h
      · exact List.not_mem_nil
      · exact ih h
    · rw [if_neg isSep] at h
      cases parts : s.splitOn sep with
      | nil =>
        rw [parts] at h
        cases h
      | cons first rest =>
        rw [parts] at h ih
        rcases List.mem_cons.mp h with rfl | h
        · rw [List.mem_cons]
          rintro (rfl | inside)
          · exact isSep (beq_self_eq_true _)
          · exact ih List.mem_cons_self inside
        · exact ih (List.mem_cons_of_mem _ h)

theorem mem_of_mem_splitOn {sep : Nat} {s part : Str} {c : Nat} (h : part ∈ s.splitOn sep)
    (isChar : c ∈ part) : c ∈ s := by
  have joined : List.intercalate [sep] (s.splitOn sep) = s := List.intercalate_splitOn sep
  rw [← joined]
  cases parts : s.splitOn sep with
  | nil => exact absurd parts (List.splitOn_ne_nil sep s)
  | cons first rest =>
    rw [parts] at h
    rw [intercalate_cons, List.mem_append]
    rcases List.mem_cons.mp h with rfl | h
    · exact .inl isChar
    · exact .inr (List.mem_flatMap.mpr ⟨part, h, List.mem_cons_of_mem _ isChar⟩)

/-- The parser takes the paths of names. -/
theorem parseManifestPath_eq_ok {value : Json} {path : Str} :
    parseManifestPath value = .ok path ↔ value = .string path ∧ IsPath path := by
  constructor
  · intro h
    cases value with
    | string value =>
      rw [parseManifestPath, ite_error_eq_ok] at h
      obtain ⟨-, h⟩ := h
      cases encoded : encodeText value with
      | none =>
        rw [encoded] at h
        cases h
      | some bytes =>
        simp only [encoded, ite_error_eq_ok, not_or, not_lt, Bool.not_eq_true] at h
        obtain ⟨⟨short, noNul, -, -, parts⟩, same⟩ := h
        obtain rfl := Except.ok.inj same
        refine ⟨rfl, ⟨value.splitOn 47, List.splitOn_ne_nil 47 value, fun name isName => ?_,
          List.intercalate_splitOn 47⟩, bytes, encoded, short⟩
        exact ⟨by simpa using List.any_eq_false.mp parts name isName, not_mem_of_mem_splitOn isName,
          fun isNul => noNul (mem_of_mem_splitOn isName isNul)⟩
    | _ => cases h
  · rintro ⟨rfl, ⟨names, nonempty, valid, rfl⟩, encoded, isEncoded, short⟩
    have parts := splitOn_joinPath nonempty valid
    have noDots : ((joinPath names).splitOn 47).any isDots = false := by
      rw [parts, List.any_eq_false]
      exact fun name isName => by simp [(valid name isName).notDots]
    -- Before a first slash, and behind a last one, there would be an empty part.
    have noEmpty : ([] : Str) ∉ (joinPath names).splitOn 47 := by
      rw [parts]
      exact fun isName => (valid [] isName).ne_nil rfl
    have notFirst : (joinPath names).head? ≠ some 47 := by
      intro first
      obtain ⟨rest, starts⟩ := List.head?_eq_some_iff.mp first
      rw [starts, show 47 :: rest = [] ++ 47 :: rest from rfl, List.splitOn_append_cons_self]
        at noEmpty
      exact noEmpty List.mem_cons_self
    have notLast : (joinPath names).getLast? ≠ some 47 := by
      intro last
      obtain ⟨front, ends⟩ := List.getLast?_eq_some_iff.mp last
      rw [ends, List.splitOn_append_cons_self] at noEmpty
      exact noEmpty (List.mem_append_right _ List.mem_cons_self)
    have noNul : 0 ∉ joinPath names := by
      intro isNul
      rcases Machine.mem_intercalate isNul with isSlash | ⟨name, isName, isNul⟩
      · exact absurd isSlash (by decide)
      · exact (valid name isName).noNul isNul
    have nonempty : joinPath names ≠ [] := by
      intro empty
      rw [empty] at noEmpty
      exact noEmpty List.mem_cons_self
    rw [parseManifestPath, if_neg nonempty]
    simp only [isEncoded]
    rw [if_neg]
    rw [noDots]
    simp [notFirst, notLast, noNul, short]

/-! ## Files -/

/-- A file that a manifest can list. -/
structure AdmissibleFile (entry : ModelProvenanceFile) : Prop where
  path : IsPath entry.path
  size : 0 ≤ entry.size ∧ entry.size ≤ maxModelTotalBytes
  digest : entry.sha256.length = hashHexLength ∧ ∀ c ∈ entry.sha256, isLowerHex c = true

theorem hasKeys_iff {fields : List (Str × Json)} {keys : List String} :
    hasKeys fields keys = true ↔ fields.map Prod.fst = keys.map str := by
  rw [hasKeys, beq_iff_eq]

theorem nodup_fileKeys : (fileKeys.map str).Nodup := by decide

theorem nodup_topLevelKeys : (topLevelKeys.map str).Nodup := by decide

/-- An entry is read from its document, and from nothing else. -/
theorem parseFileEntry_eq_ok {item : Json} {entry : ModelProvenanceFile} :
    parseFileEntry item = .ok entry ↔ item = fileDocument entry ∧ AdmissibleFile entry := by
  constructor
  · intro h
    cases item with
    | object fields =>
      by_cases keys : hasKeys fields fileKeys = true
      · rw [parseFileEntry, if_pos keys, bind_eq_ok] at h
        obtain ⟨path, isPath, h⟩ := h
        obtain ⟨pathValue, isPath⟩ := parseManifestPath_eq_ok.mp isPath
        cases sizeAt : Json.intAt fields "size" with
        | none => simp [sizeAt] at h
        | some size =>
          cases digestAt : Json.textAt fields "sha256" with
          | none => simp [sizeAt, digestAt] at h
          | some digest =>
            simp only [sizeAt, digestAt, ite_error_eq_ok, not_not, not_or, Bool.not_eq_true] at h
            obtain ⟨inRange, ⟨long, digits⟩, same⟩ := h
            obtain rfl := Except.ok.inj same
            have pathAt : Json.field fields (str "path") = some (.string path) := by
              cases found : Json.field fields (str "path") with
              | none =>
                rw [found] at pathValue
                cases pathValue
              | some value =>
                rw [found] at pathValue
                exact congrArg some pathValue
            have values : ∀ f ∈ fileFields { path := path, size := size, sha256 := digest },
                Json.field fields (str f.1) = some f.2 := by
              simp only [fileFields, List.forall_mem_cons, List.not_mem_nil, false_imp_iff,
                implies_true, and_true]
              exact ⟨pathAt, intAt_eq_some.mp sizeAt, textAt_eq_some.mp digestAt⟩
            exact ⟨congrArg Json.object (eq_document (hasKeys_iff.mp keys) nodup_fileKeys values),
              isPath, inRange, long, fun c isChar => by
                simpa using List.any_eq_false.mp digits c isChar⟩
      · rw [parseFileEntry, if_neg keys] at h
        cases h
    | _ => cases h
  · rintro ⟨rfl, isPath, inRange, long, digits⟩
    have unique : (((fileFields entry).map Prod.fst).map str).Nodup := nodup_fileKeys
    have keys : hasKeys ((fileFields entry).map fun f => (str f.1, f.2)) fileKeys = true :=
      hasKeys_iff.mpr (keys_document _)
    have pathAt : Json.field ((fileFields entry).map fun f => (str f.1, f.2)) (str "path") =
        some (.string entry.path) := field_document unique (by simp [fileFields])
    have sizeAt : Json.intAt ((fileFields entry).map fun f => (str f.1, f.2)) "size" =
        some entry.size := intAt_eq_some.mpr (field_document unique (by simp [fileFields]))
    have digestAt : Json.textAt ((fileFields entry).map fun f => (str f.1, f.2)) "sha256" =
        some entry.sha256 := textAt_eq_some.mpr (field_document unique (by simp [fileFields]))
    have noOther : entry.sha256.any (fun c => ! isLowerHex c) = false := by
      rw [List.any_eq_false]
      exact fun c isChar => by simp [digits c isChar]
    rw [fileDocument, document, parseFileEntry, if_pos keys, pathAt, Option.getD_some,
      parseManifestPath_eq_ok.mpr ⟨rfl, isPath⟩, sizeAt, digestAt]
    simp [bind, Except.bind, inRange, long, noOther]

theorem parseFileEntries_eq_ok {entries : List Json} {files : List ModelProvenanceFile} :
    entries.mapM parseFileEntry = .ok files ↔
      entries = files.map fileDocument ∧ ∀ entry ∈ files, AdmissibleFile entry := by
  induction entries generalizing files with
  | nil =>
    cases files with
    | nil => simp [pure, Except.pure]
    | cons entry files => simp [pure, Except.pure]
  | cons item entries ih =>
    rw [List.mapM_cons, bind_eq_ok]
    simp only [bind_eq_ok, ih, parseFileEntry_eq_ok]
    constructor
    · rintro ⟨entry, ⟨rfl, isFile⟩, files, ⟨rfl, areFiles⟩, same⟩
      obtain rfl := Except.ok.inj same
      exact ⟨rfl, List.forall_mem_cons.mpr ⟨isFile, areFiles⟩⟩
    · rintro ⟨same, areFiles⟩
      cases files with
      | nil => cases same
      | cons entry files =>
        obtain ⟨rfl, rfl⟩ := List.cons.inj same
        rw [List.forall_mem_cons] at areFiles
        exact ⟨entry, ⟨rfl, areFiles.1⟩, files, ⟨rfl, areFiles.2⟩, rfl⟩

/-! ## File lists -/

/-- A file list that a manifest can have. -/
structure Admissible (files : List ModelProvenanceFile) : Prop where
  each : ∀ entry ∈ files, AdmissibleFile entry
  sorted : files.Pairwise fun a b => a.path < b.path
  count : 1 ≤ files.length ∧ files.length ≤ maxModelFiles
  total : totalSize files ≤ maxModelTotalBytes

theorem totalSize_cons (entry : ModelProvenanceFile) (files : List ModelProvenanceFile) :
    totalSize (entry :: files) = entry.size + totalSize files := by
  rw [totalSize, List.map_cons, List.sum_cons, totalSize]

theorem totalSize_nonneg {files : List ModelProvenanceFile}
    (each : ∀ entry ∈ files, AdmissibleFile entry) : 0 ≤ totalSize files := by
  induction files with
  | nil => exact le_refl 0
  | cons entry files ih =>
    rw [List.forall_mem_cons] at each
    have first := each.1.size
    have rest := ih each.2
    rw [totalSize_cons]
    omega

/-- The check of the paths is that they increase. -/
theorem sortedPaths_iff {files : List ModelProvenanceFile} :
    (files.map (·.path) = sortedBy id (files.map (·.path)) ∧ (files.map (·.path)).Nodup) ↔
      files.Pairwise fun a b => a.path < b.path := by
  constructor
  · rintro ⟨sorted, distinct⟩
    have le := pairwise_sortedBy id (files.map (·.path))
    rw [← sorted] at le
    refine List.pairwise_map.mp ((le.and distinct).imp fun h => lt_of_le_of_ne h.1 h.2)
  · intro increasing
    have lt : (files.map (·.path)).Pairwise (· < ·) := List.pairwise_map.mpr increasing
    refine ⟨(List.mergeSort_of_pairwise ?_).symm, lt.imp ne_of_lt⟩
    exact lt.imp fun below => decide_eq_true (le_of_lt below)

/-- The file list is read from its document, and from nothing else. -/
theorem parseDocument_eq_ok {data : Json} {files : List ModelProvenanceFile} :
    parseDocument data = .ok files ↔ data = manifestDocument files ∧ Admissible files := by
  constructor
  · intro h
    cases data with
    | object fields =>
      simp only [parseDocument, ite_error_eq_ok, not_not] at h
      obtain ⟨keys, version, kind, algorithm, h⟩ := h
      cases countAt : Json.intAt fields "file_count" with
      | none => simp [countAt] at h
      | some fileCount =>
        cases totalAt : Json.intAt fields "total_bytes" with
        | none => simp [countAt, totalAt] at h
        | some totalBytes =>
          simp only [countAt, totalAt, ite_error_eq_ok, not_or, not_not] at h
          obtain ⟨⟨count, total⟩, h⟩ := h
          cases filesAt : Json.field fields (str "files") with
          | none => simp [filesAt] at h
          | some value =>
            cases value with
            | array entries =>
              simp only [filesAt, ite_error_eq_ok, not_not, bind_eq_ok, not_or] at h
              obtain ⟨length, read, isRead, ⟨sorted, distinct⟩, sum, same⟩ := h
              obtain rfl := Except.ok.inj same
              obtain ⟨rfl, each⟩ := parseFileEntries_eq_ok.mp isRead
              rw [List.length_map] at length
              subst sum length
              have values : ∀ f ∈ manifestFields read,
                  Json.field fields (str f.1) = some f.2 := by
                simp only [manifestFields, List.forall_mem_cons, List.not_mem_nil, false_imp_iff,
                  implies_true, and_true]
                exact ⟨intAt_eq_some.mp version, textAt_eq_some.mp kind,
                  textAt_eq_some.mp algorithm, intAt_eq_some.mp countAt, intAt_eq_some.mp totalAt,
                  filesAt⟩
              refine ⟨congrArg Json.object
                (eq_document (hasKeys_iff.mp keys) nodup_topLevelKeys values), each,
                sortedPaths_iff.mp ⟨sorted, distinct⟩, by omega, total.2⟩
            | _ => simp [filesAt] at h
    | _ => cases h
  · rintro ⟨rfl, each, sorted, count, total⟩
    have unique : (((manifestFields files).map Prod.fst).map str).Nodup := nodup_topLevelKeys
    have intOf (key : String) (i : Int) (h : (key, .int i) ∈ manifestFields files) :
        Json.intAt ((manifestFields files).map fun f => (str f.1, f.2)) key = some i :=
      intAt_eq_some.mpr (field_document unique h)
    have textOf (key : String) (s : Str) (h : (key, .string s) ∈ manifestFields files) :
        Json.textAt ((manifestFields files).map fun f => (str f.1, f.2)) key = some s :=
      textAt_eq_some.mpr (field_document unique h)
    have filesAt : Json.field ((manifestFields files).map fun f => (str f.1, f.2)) (str "files") =
        some (.array (files.map fileDocument)) := field_document unique (by simp [manifestFields])
    have keys : hasKeys ((manifestFields files).map fun f => (str f.1, f.2)) topLevelKeys = true :=
      hasKeys_iff.mpr (keys_document _)
    have positive := totalSize_nonneg each
    have inOrder := sortedPaths_iff.mpr sorted
    rw [manifestDocument, document, parseDocument, if_neg (not_not.mpr keys),
      intOf "schema_version" schemaVersion (by simp [manifestFields]), if_neg (not_not.mpr rfl),
      textOf "artifact_kind" artifactKind (by simp [manifestFields]), if_neg (not_not.mpr rfl),
      textOf "hash_algorithm" hashAlgorithm (by simp [manifestFields]), if_neg (not_not.mpr rfl),
      intOf "file_count" files.length (by simp [manifestFields]),
      intOf "total_bytes" (totalSize files) (by simp [manifestFields]), filesAt]
    simp only [List.length_map]
    rw [if_neg (by omega), if_neg (not_not.mpr rfl), parseFileEntries_eq_ok.mpr ⟨rfl, each⟩]
    change (if _ then _ else _) = _
    rw [if_neg (not_or.mpr ⟨not_not.mpr inOrder.1, not_not.mpr inOrder.2⟩),
      if_neg (not_not.mpr rfl)]

/-! ## The canonical encoding -/

/-- The canonical encoding of a file list. -/
def encode (files : List ModelProvenanceFile) : Bytes := dumpsLine (manifestDocument files)

/-- The manifest of a file list. -/
def manifestOf (files : List ModelProvenanceFile) : ModelProvenance where
  fileCount := files.length
  totalBytes := totalSize files
  files := files
  canonicalBytes := encode files
  artifactSha256 := hex (sha256 (encode files))

variable {files : List ModelProvenanceFile} {manifest : ModelProvenance}

theorem isText_of_isScalar {s : Str} (scalar : s.all isScalar = true) : IsText s := by
  rw [List.all_eq_true] at scalar
  have each (c : Nat) (isChar : c ∈ s) := isScalar_iff.mp (scalar c isChar)
  refine ⟨fun c isChar => ?_, List.Pairwise.isChain ?_⟩
  · have := each c isChar
    omega
  · rw [List.pairwise_iff_forall_sublist]
    intro a b pair
    have := each a (pair.subset List.mem_cons_self)
    rintro ⟨⟨low, high⟩, -⟩
    omega

theorem isText_path {path : Str} (h : IsPath path) : IsText path := by
  obtain ⟨encoded, isEncoded, -⟩ := h.short
  rw [encodeText, Option.ite_none_right_eq_some] at isEncoded
  exact isText_of_isScalar isEncoded.1

theorem short_int {i : Int} (h : 0 ≤ i ∧ i ≤ maxModelTotalBytes) :
    (decimal i.natAbs).length ≤ maxStrDigits := by
  have small : i ≤ 2 ^ 40 := h.2
  exact decimal_short (show i.natAbs < 10 ^ 20 by omega) (by decide) (by decide)

theorem short_count (count : files.length ≤ maxModelFiles) :
    (decimal (files.length : Int).natAbs).length ≤ maxStrDigits := by
  have few : files.length ≤ 4096 := count
  exact short_int ⟨by omega, show (files.length : Int) ≤ 2 ^ 40 by omega⟩

theorem isLiteral_str (s : String) (scalar : (str s).all isScalar = true) :
    IsLiteral quote (str s) :=
  isLiteral_quote (isText_of_isScalar scalar)

theorem written_fileDocument {entry : ModelProvenanceFile} (h : AdmissibleFile entry) :
    (fileDocument entry).Written quote := by
  have digest : IsText entry.sha256 := by
    refine isText_of_isScalar (List.all_eq_true.mpr fun c isChar => ?_)
    have hexDigit := h.digest.2 c isChar
    simp only [isLowerHex, Bool.or_eq_true, Bool.and_eq_true, decide_eq_true_eq] at hexDigit
    exact isScalar_iff.mpr (.inl (by omega))
  exact ⟨isLiteral_str "path" (by decide), isLiteral_quote (isText_path h.path),
    isLiteral_str "size" (by decide), short_int h.size, isLiteral_str "sha256" (by decide),
    isLiteral_quote digest, trivial⟩

theorem written_manifestDocument (h : Admissible files) :
    (manifestDocument files).Written quote := by
  have written (files : List ModelProvenanceFile) (each : ∀ entry ∈ files, AdmissibleFile entry) :
      AllWritten quote (files.map fileDocument) := by
    induction files with
    | nil => trivial
    | cons entry files ih =>
      rw [List.forall_mem_cons] at each
      exact ⟨written_fileDocument each.1, ih each.2⟩
  exact ⟨isLiteral_str "schema_version" (by decide), short_int ⟨by decide, by decide⟩,
    isLiteral_str "artifact_kind" (by decide), isLiteral_str _ (by decide),
    isLiteral_str "hash_algorithm" (by decide), isLiteral_str _ (by decide),
    isLiteral_str "file_count" (by decide), short_count h.count.2,
    isLiteral_str "total_bytes" (by decide), short_int ⟨totalSize_nonneg h.each, h.total⟩,
    isLiteral_str "files" (by decide), written files h.each, trivial⟩

theorem unique_manifestDocument (files : List ModelProvenanceFile) :
    (manifestDocument files).uniqueKeys = true := by
  have fileUnique (entry : ModelProvenanceFile) : (fileDocument entry).uniqueKeys = true := by
    rw [fileDocument, document, Json.uniqueKeys, keys_document,
      decide_eq_true (show (((fileFields entry).map Prod.fst).map str).Nodup from nodup_fileKeys)]
    rfl
  have filesUnique (files : List ModelProvenanceFile) :
      Json.uniqueKeys.allUnique (files.map fileDocument) = true := by
    induction files with
    | nil => rfl
    | cons entry files ih => rw [List.map_cons, Json.uniqueKeys.allUnique, fileUnique, ih]; rfl
  rw [manifestDocument, document, Json.uniqueKeys, keys_document,
    decide_eq_true (show (((manifestFields files).map Prod.fst).map str).Nodup from
      nodup_topLevelKeys)]
  simp [manifestFields, Json.uniqueKeys.fieldsUnique, Json.uniqueKeys, filesUnique]

theorem nesting_manifestDocument (files : List ModelProvenanceFile) :
    (manifestDocument files).nesting ≤ 3 := by
  have file (entry : ModelProvenanceFile) : (fileDocument entry).nesting ≤ 1 :=
    nesting_document (by simp [fileFields, Json.nesting])
  have array : (Json.array (files.map fileDocument)).nesting ≤ 2 :=
    nesting_array (List.forall_mem_map.mpr fun entry _ => file entry)
  refine nesting_document ?_
  simp [manifestFields, Json.nesting] at array ⊢
  exact array

theorem canonicalBytes_of_admissible (h : Admissible files) :
    canonicalBytes files = .ok (encode files) := by
  have count : tooManyDigits files.length = false := decide_eq_false (not_lt.mpr (short_count h.count.2))
  have total : tooManyDigits (totalSize files) = false :=
    decide_eq_false (not_lt.mpr (short_int ⟨totalSize_nonneg h.each, h.total⟩))
  have sizes : (files.any fun entry => tooManyDigits entry.size) = false :=
    List.any_eq_false.mpr fun entry isFile => by
      rw [tooManyDigits, decide_eq_true_eq, not_lt]
      exact short_int (h.each entry isFile).size
  rw [canonicalBytes, count, total, sizes, if_neg (by simp)]
  rfl

theorem assemble_of_admissible (h : Admissible files) :
    assemble files = if maxModelManifestBytes < (encode files).length then
      .error .modelProvenanceError else .ok (manifestOf files) := by
  rw [assemble, canonicalBytes_of_admissible h]
  rfl

/-! ## What the parser accepts -/

/-- A text whose value nests at most three deep is within the recursion limit. -/
def Shallow (tooDeep : Str → Bool) : Prop :=
  ∀ value : Json, value.nesting ≤ 3 → tooDeep (lineText value) = false

variable {tooDeep : Str → Bool} {floatRepr : Str → Str} {contents : Bytes}

theorem loads_encode (shallow : Shallow tooDeep) (h : Admissible files) :
    Json.loadsHooked tooDeep floatRepr (lineText (manifestDocument files)) =
      .ok (manifestDocument files) :=
  Json.loadsHooked_of_loads (shallow _ (nesting_manifestDocument files))
    (Json.loads_line floatRepr (written_manifestDocument h)) (unique_manifestDocument files)

/-- The parser accepts the canonical encodings of the admissible file lists, and nothing else. -/
theorem parseModelProvenance_eq_ok (shallow : Shallow tooDeep) :
    parseModelProvenance tooDeep floatRepr contents = .ok manifest ↔
      ∃ files, Admissible files ∧ (encode files).length ≤ maxModelManifestBytes ∧
        encode files = contents ∧ manifestOf files = manifest := by
  constructor
  · intro h
    rw [parseModelProvenance, ite_error_eq_ok] at h
    obtain ⟨-, h⟩ := h
    split at h
    · cases h
    split at h
    · cases h
    · rename_i data _
      simp only [bind_eq_ok, ite_error_eq_ok, not_not] at h
      obtain ⟨files, isFiles, assembled, isAssembled, same, isManifest⟩ := h
      obtain rfl := Except.ok.inj isManifest
      have admissible := (parseDocument_eq_ok.mp isFiles).2
      rw [assemble_of_admissible admissible, ite_error_eq_ok, not_lt] at isAssembled
      obtain ⟨short, isManifest⟩ := isAssembled
      obtain rfl := Except.ok.inj isManifest
      exact ⟨files, admissible, short, same, rfl⟩
  · rintro ⟨files, admissible, short, rfl, rfl⟩
    have written := written_manifestDocument admissible
    have nonempty : encode files ≠ [] := by simp [encode, dumpsLine]
    have framed : ¬ (encode files = [] ∨ maxModelManifestBytes < (encode files).length ∨
        (encode files).count 10 ≠ 1 ∨ (encode files).getLast? ≠ some 10) := by
      rw [encode] at *
      simp [nonempty, short, count_newline_dumpsLine written, getLast_dumpsLine]
    rw [parseModelProvenance, if_neg framed]
    simp only [encode, decodeAscii_dumpsLine written, loads_encode shallow admissible]
    rw [parseDocument_eq_ok.mpr ⟨rfl, admissible⟩]
    change (assemble files >>= _) = _
    rw [assemble_of_admissible admissible, if_neg (not_lt.mpr short)]
    exact if_neg (not_not.mpr rfl)

/-! ## What is raised -/

/-- Nothing but the one error of the module is raised. -/
def Redacted {α : Type} (x : Except Raised α) : Prop :=
  ∀ raised, x = .error raised → raised = .modelProvenanceError

theorem redacted_ok {α : Type} (a : α) : Redacted (.ok a : Except Raised α) := nofun

theorem redacted_error {α : Type} : Redacted (.error .modelProvenanceError : Except Raised α) :=
  fun _ h => (Except.error.inj h).symm

theorem Redacted.ite {α : Type} {p : Prop} [Decidable p] {x y : Except Raised α} (hx : Redacted x)
    (hy : Redacted y) : Redacted (if p then x else y) := by
  split
  · exact hx
  · exact hy

theorem Redacted.bind {α β : Type} {x : Except Raised α} {f : α → Except Raised β}
    (hx : Redacted x) (hf : ∀ a, x = .ok a → Redacted (f a)) : Redacted (x >>= f) := by
  intro raised h
  rcases bind_eq_error.mp h with h | ⟨a, isOk, h⟩
  · exact hx raised h
  · exact hf a isOk raised h

theorem redacted_parseManifestPath (value : Json) : Redacted (parseManifestPath value) := by
  cases value with
  | string value =>
    refine .ite redacted_error ?_
    split
    · exact redacted_error
    · exact .ite redacted_error (redacted_ok _)
  | _ => exact redacted_error

theorem redacted_parseFileEntry (item : Json) : Redacted (parseFileEntry item) := by
  cases item with
  | object fields =>
    refine .ite (.bind (redacted_parseManifestPath _) fun path _ => ?_) redacted_error
    split
    · exact redacted_error
    refine .ite redacted_error ?_
    split
    · exact redacted_error
    · exact .ite redacted_error (redacted_ok _)
  | _ => exact redacted_error

theorem redacted_parseFileEntries (entries : List Json) :
    Redacted (entries.mapM parseFileEntry) := by
  induction entries with
  | nil => exact redacted_ok []
  | cons item entries ih =>
    rw [List.mapM_cons]
    exact .bind (redacted_parseFileEntry item) fun entry _ => .bind ih fun files _ => redacted_ok _

theorem redacted_parseDocument (data : Json) : Redacted (parseDocument data) := by
  cases data with
  | object fields =>
    refine .ite redacted_error (.ite redacted_error (.ite redacted_error (.ite redacted_error ?_)))
    split
    · refine .ite redacted_error ?_
      split
      · exact .ite redacted_error (.bind (redacted_parseFileEntries _) fun files _ =>
          .ite redacted_error (.ite redacted_error (redacted_ok _)))
      · exact redacted_error
    · exact redacted_error
  | _ => exact redacted_error

/-- The integers of an admissible list are not too long for `json.dumps`. -/
theorem redacted_assemble (h : Admissible files) : Redacted (assemble files) := by
  rw [assemble_of_admissible h]
  exact .ite redacted_error (redacted_ok _)

theorem redacted_parseModelProvenance (contents : Bytes) :
    Redacted (parseModelProvenance tooDeep floatRepr contents) := by
  refine .ite redacted_error ?_
  split
  · exact redacted_error
  split
  · exact redacted_error
  · exact .bind (redacted_parseDocument _) fun files isFiles =>
      .bind (redacted_assemble (parseDocument_eq_ok.mp isFiles).2) fun manifest _ =>
        .ite redacted_error (redacted_ok _)

end Prometheus.Jaeger.Provenance
