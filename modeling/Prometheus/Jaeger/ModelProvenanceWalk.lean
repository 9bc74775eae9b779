import Prometheus.Jaeger.ModelProvenanceManifest

/-!
# Manifests of directories

The walk lists every file below the root once, under the path of its names, or fails. So the file
lists that it makes are admissible, a manifest is read back from its canonical bytes, and a
directory verifies against a manifest exactly when it holds the files of the manifest.
-/

namespace Prometheus.Jaeger.Provenance

open Prometheus.Codec Prometheus.Machine

/-! ## The files below a node -/

/-- The node holds a file of this size and with these contents behind these names. -/
inductive Node.Holds : Node → List Str → Int → Bytes → Prop
  | file (entry opened after : StatResult) (contents : Bytes) :
      Holds (.file entry opened contents after) [] entry.size contents
  | child {entry opened before after : StatResult} {names : List Str} {child : Str → Node}
      {name : Str} {path : List Str} {size : Int} {contents : Bytes} (isName : name ∈ names)
      (inside : (child name).Holds path size contents) :
      Holds (.directory entry opened before names child after) (name :: path) size contents

/-- A file that the walk found: its names below some directory, its size and its contents. -/
abbrev Found : Type := List Str × Int × Bytes

/-- The entry of a file found below a directory with these names. -/
def fileOf (above : List Str) (f : Found) : ModelProvenanceFile where
  path := joinPath (above ++ f.1)
  size := f.2.1
  sha256 := hex (sha256 f.2.2)

/-- The files found are those that the node holds. -/
def Lists (node : Node) (found : List Found) : Prop :=
  ∀ path size contents, (path, size, contents) ∈ found ↔ node.Holds path size contents

/-- The tree below the root holds this file. -/
def Node.Contains (root : Node) (entry : ModelProvenanceFile) : Prop :=
  ∃ path size contents, root.Holds path size contents ∧ entry = fileOf [] (path, size, contents)

/-- What a part of the walk does to its state. -/
structure Scanned (above : List Str) (found : List Found) (state state' : ScanState) : Prop where
  files : state'.files = state.files ++ found.map (fileOf above)
  total : state'.totalBytes = state.totalBytes + totalSize (found.map (fileOf above))
  inodes : ∀ i ∈ state.inodes, i ∈ state'.inodes
  fits : state.totalBytes ≤ maxModelTotalBytes → state'.totalBytes ≤ maxModelTotalBytes
  few : state.files.length ≤ maxModelFiles → state'.files.length ≤ maxModelFiles
  valid : ∀ f ∈ found, AdmissibleFile (fileOf above f)
  names : ∀ f ∈ found, ∀ name ∈ f.1, IsName name
  distinct : (found.map Prod.fst).Nodup

variable {euid levels : Nat} {above : List Str} {found found' : List Found}
  {state state' state'' : ScanState} {name : Str}

theorem totalSize_append (files files' : List ModelProvenanceFile) :
    totalSize (files ++ files') = totalSize files + totalSize files' := by
  rw [totalSize, List.map_append, List.sum_append, totalSize, totalSize]

theorem Scanned.nil (above : List Str) (inodes : ∀ i ∈ state.inodes, i ∈ state'.inodes)
    (files : state'.files = state.files) (total : state'.totalBytes = state.totalBytes) :
    Scanned above [] state state' where
  files := by rw [files, List.map_nil, List.append_nil]
  total := by rw [total]; exact (add_zero _).symm
  inodes := inodes
  fits := by rw [total]; exact id
  few := by rw [files]; exact id
  valid := nofun
  names := nofun
  distinct := List.nodup_nil

theorem Scanned.append (h : Scanned above found state state')
    (h' : Scanned above found' state' state'')
    (apart : (found.map Prod.fst).Disjoint (found'.map Prod.fst)) :
    Scanned above (found ++ found') state state'' where
  files := by rw [h'.files, h.files, List.map_append, List.append_assoc]
  total := by rw [h'.total, h.total, List.map_append, totalSize_append, add_assoc]
  inodes i hi := h'.inodes i (h.inodes i hi)
  fits bounded := h'.fits (h.fits bounded)
  few bounded := h'.few (h.few bounded)
  valid f hf := (List.mem_append.mp hf).elim (h.valid f) (h'.valid f)
  names f hf := (List.mem_append.mp hf).elim (h.names f) (h'.names f)
  distinct := by
    rw [List.map_append]
    exact h.distinct.append h'.distinct apart

/-- A file below a name, seen from the directory with that name. -/
def underName (name : Str) (f : Found) : Found := (name :: f.1, f.2)

theorem fileOf_underName (above : List Str) (name : Str) (f : Found) :
    fileOf above (underName name f) = fileOf (above ++ [name]) f := by
  rw [fileOf, fileOf, underName, List.append_assoc, List.singleton_append]

theorem Scanned.under (h : Scanned (above ++ [name]) found state state') (isName : IsName name) :
    Scanned above (found.map (underName name)) state state' := by
  have same : (found.map (underName name)).map (fileOf above) =
      found.map (fileOf (above ++ [name])) := by
    rw [List.map_map]
    exact List.map_congr_left fun f _ => fileOf_underName above name f
  refine ⟨by rw [h.files, same], by rw [h.total, same], h.inodes, h.fits, h.few, ?_, ?_, ?_⟩
  · intro g isUnder
    obtain ⟨f, isFound, rfl⟩ := List.mem_map.mp isUnder
    rw [fileOf_underName]
    exact h.valid f isFound
  · intro g isUnder
    obtain ⟨f, isFound, rfl⟩ := List.mem_map.mp isUnder
    exact List.forall_mem_cons.mpr ⟨isName, h.names f isFound⟩
  · have front : (found.map (underName name)).map Prod.fst =
        (found.map Prod.fst).map (List.cons name) := by
      rw [List.map_map, List.map_map]
      rfl
    rw [front]
    exact h.distinct.map List.cons_injective

/-! ## Paths of the walk -/

theorem joinPath_eq_nil {names : List Str} (valid : ∀ name ∈ names, IsName name) :
    joinPath names = [] ↔ names = [] := by
  constructor
  · intro empty
    by_contra nonempty
    have parts := splitOn_joinPath nonempty valid
    rw [empty] at parts
    exact (valid [] (parts ▸ List.mem_cons_self)).ne_nil rfl
  · rintro rfl
    rfl

theorem joinPath_concat {names : List Str} (nonempty : names ≠ []) (name : Str) :
    joinPath (names ++ [name]) = joinPath names ++ 47 :: name := by
  cases names with
  | nil => exact absurd rfl nonempty
  | cons first names =>
    rw [joinPath, joinPath, List.cons_append, intercalate_cons, intercalate_cons,
      List.flatMap_append, List.append_assoc]
    simp

theorem isName_concat (valid : ∀ part ∈ above, IsName part) (isName : IsName name) :
    ∀ part ∈ above ++ [name], IsName part :=
  List.forall_mem_append.mpr ⟨valid, List.forall_mem_singleton.mpr isName⟩

theorem validatedRelativePath_eq_ok (valid : ∀ name ∈ above, IsName name) {relative : Str}
    (h : validatedRelativePath (joinPath above) name = .ok relative) :
    IsName name ∧ relative = joinPath (above ++ [name]) ∧ IsPath relative := by
  rw [validatedRelativePath, ite_error_eq_ok] at h
  obtain ⟨checked, h⟩ := h
  rw [not_or, not_or, Bool.not_eq_true] at checked
  have isName : IsName name := ⟨checked.1, checked.2.1, checked.2.2⟩
  have joined : (if joinPath above = [] then name else joinPath above ++ 47 :: name) =
      joinPath (above ++ [name]) := by
    by_cases root : above = []
    · subst root
      exact (if_pos rfl).trans (by simp [joinPath, List.intercalate])
    · rw [if_neg (fun empty => root ((joinPath_eq_nil valid).mp empty)), joinPath_concat root]
  rw [joined] at h
  cases encoded : encodeText (joinPath (above ++ [name])) with
  | none =>
    simp only [encoded] at h
    cases h
  | some bytes =>
    simp only [encoded, ite_error_eq_ok, not_lt] at h
    obtain ⟨short, same⟩ := h
    obtain rfl := Except.ok.inj same
    refine ⟨isName, rfl, ⟨above ++ [name], by simp, ?_, rfl⟩, bytes, encoded, short⟩
    exact isName_concat valid isName

/-! ## One entry -/

theorem trackInode_eq_ok {current : StatResult} (h : trackInode state current = .ok state') :
    current.identity ∉ state.inodes ∧
      state' = { state with inodes := current.identity :: state.inodes } := by
  rw [trackInode, ite_error_eq_ok] at h
  exact ⟨h.1, (Except.ok.inj h.2).symm⟩

/-- The device and inode that `os.stat` reports. -/
def Node.identity : Node → Nat × Nat
  | .special => (0, 0)
  | .file entry _ _ _ => entry.identity
  | .directory entry _ _ _ _ _ => entry.identity

/-- The walk of an entry marks its inode, which was not marked before. -/
structure Visits (node : Node) (state state' : ScanState) : Prop where
  fresh : node.identity ∉ state.inodes
  marked : node.identity ∈ state'.inodes

theorem scanRegularFile_eq_ok {before opened after : StatResult} {contents : Bytes}
    (h : scanRegularFile euid (joinPath (above ++ [name])) before opened contents after state =
      .ok state')
    (isPath : IsPath (joinPath (above ++ [name]))) :
    Scanned (above ++ [name]) [([], before.size, contents)] state state' ∧
      Visits (.file before opened contents after) state state' := by
  rw [scanRegularFile, ite_error_eq_ok, not_not] at h
  obtain ⟨safe, h⟩ := h
  obtain ⟨marked, isMarked, h⟩ := bind_eq_ok.mp h
  obtain ⟨fresh, rfl⟩ := trackInode_eq_ok isMarked
  rw [ite_error_eq_ok] at h
  obtain ⟨digest, isDigest, h⟩ := bind_eq_ok.mp h.2
  simp only [ite_error_eq_ok, not_lt] at h
  obtain ⟨-, fits, few, same⟩ := h
  obtain rfl := Except.ok.inj same
  rw [hashFileDescriptor, ite_error_eq_ok] at isDigest
  obtain rfl := Except.ok.inj isDigest.2
  simp only [StatResult.isSafeFile, Bool.and_eq_true, decide_eq_true_eq] at safe
  have entry : fileOf (above ++ [name]) ([], before.size, contents) =
      { path := joinPath (above ++ [name]), size := before.size, sha256 := hex (sha256 contents) } := by
    rw [fileOf, List.append_nil]
  refine ⟨⟨?_, ?_, fun i hi => List.mem_cons_of_mem _ hi, fun _ => fits, fun _ => few, ?_, ?_, ?_⟩,
    fresh, List.mem_cons_self⟩
  · rw [List.map_singleton, entry]
  · rw [List.map_singleton, entry]
    simp [totalSize]
  · rw [List.forall_mem_singleton, entry]
    exact ⟨isPath, ⟨safe.1.2, safe.2⟩, by rw [length_hex, length_sha256]; rfl,
      fun c isChar => isLowerHex_of_mem_hex isChar⟩
  · rw [List.forall_mem_singleton]
    exact List.forall_mem_nil _
  · exact List.nodup_singleton _

/-- What the scan of a directory at this level does. -/
def ScansDirectory (euid levels : Nat) : Prop :=
  ∀ {above : List Str} {entry opened before after : StatResult} {names : List Str}
    {child : Str → Node} {state state' : ScanState}, (∀ name ∈ above, IsName name) →
    scanDirectory euid levels (joinPath above) before names child after state = .ok state' →
      ∃ found, Scanned above found state state' ∧
        Lists (.directory entry opened before names child after) found

theorem scanEntry_eq_ok (below : ScansDirectory euid levels) (valid : ∀ name ∈ above, IsName name)
    {node : Node}
    (h : scanEntry euid (scanDirectory euid levels) (joinPath above) name node state = .ok state') :
    IsName name ∧ Visits node state state' ∧
      ∃ found, Scanned (above ++ [name]) found state state' ∧ Lists node found := by
  obtain ⟨relative, isRelative, h⟩ := bind_eq_ok.mp h
  obtain ⟨isName, rfl, isPath⟩ := validatedRelativePath_eq_ok valid isRelative
  cases node with
  | special => cases h
  | file entry opened contents after =>
    simp only [ite_error_eq_ok] at h
    obtain ⟨-, h⟩ := h
    split at h
    · obtain ⟨scanned, visits⟩ := scanRegularFile_eq_ok h isPath
      refine ⟨isName, visits, _, scanned, fun path size bytes => ?_⟩
      rw [List.mem_singleton]
      constructor
      · intro same
        obtain ⟨rfl, rest⟩ := Prod.mk.inj same
        obtain ⟨rfl, rfl⟩ := Prod.mk.inj rest
        exact .file entry opened after bytes
      · rintro ⟨⟩
        rfl
    · cases h
  | directory entry opened before names child after =>
    simp only [ite_error_eq_ok, bind_eq_ok] at h
    obtain ⟨-, marked, isMarked, -, h⟩ := h
    obtain ⟨fresh, rfl⟩ := trackInode_eq_ok isMarked
    obtain ⟨found, scanned, lists⟩ := below (isName_concat valid isName) h
    have mark : Scanned (above ++ [name]) [] state
        { state with inodes := entry.identity :: state.inodes } :=
      .nil _ (fun i hi => List.mem_cons_of_mem _ hi) rfl rfl
    exact ⟨isName, ⟨fresh, scanned.inodes _ List.mem_cons_self⟩, found,
      mark.append scanned (List.disjoint_nil_left _), lists⟩

/-! ## The loop over the names -/

theorem scanNames_eq_ok (below : ScansDirectory euid levels) (valid : ∀ name ∈ above, IsName name)
    {names : List Str} {child : Str → Node}
    (h : names.foldlM (fun state name =>
      scanEntry euid (scanDirectory euid levels) (joinPath above) name (child name) state) state =
        .ok state') :
    (∀ name ∈ names, (child name).identity ∉ state.inodes) ∧
      ∃ found, Scanned above found state state' ∧ ∀ path size contents,
        (path, size, contents) ∈ found ↔
          ∃ name rest, path = name :: rest ∧ name ∈ names ∧ (child name).Holds rest size contents := by
  induction names generalizing state with
  | nil =>
    obtain rfl := Except.ok.inj h
    exact ⟨nofun, [], .nil above (fun _ => id) rfl rfl, by simp⟩
  | cons name names ih =>
    obtain ⟨state₁, isEntry, h⟩ := bind_eq_ok.mp h
    obtain ⟨isName, visits, found, scanned, lists⟩ := scanEntry_eq_ok below valid isEntry
    obtain ⟨unmarked, found', scanned', lists'⟩ := ih h
    -- The inode of this entry is marked by now, so that its name does not come again.
    have once : name ∉ names := fun again => unmarked name again visits.marked
    have isUnder {path : List Str} {size : Int} {contents : Bytes} :
        (path, size, contents) ∈ found.map (underName name) ↔
          ∃ rest, path = name :: rest ∧ (child name).Holds rest size contents := by
      rw [List.mem_map]
      constructor
      · rintro ⟨f, isFound, same⟩
        obtain ⟨isPath, same⟩ := Prod.mk.inj same
        have isFile : f = (f.1, size, contents) := Prod.ext rfl same
        rw [isFile] at isFound
        exact ⟨f.1, isPath.symm, (lists _ _ _).mp isFound⟩
      · rintro ⟨rest, rfl, holds⟩
        exact ⟨(rest, size, contents), (lists _ _ _).mpr holds, rfl⟩
    have apart : ((found.map (underName name)).map Prod.fst).Disjoint (found'.map Prod.fst) := by
      intro path isFirst isLater
      obtain ⟨f, isF, samePath⟩ := List.mem_map.mp isFirst
      obtain ⟨g, isG, samePath'⟩ := List.mem_map.mp isLater
      obtain ⟨rest, isPath, -⟩ := isUnder.mp (show (f.1, f.2.1, f.2.2) ∈ _ from isF)
      obtain ⟨other, rest', isPath', isOther, -⟩ :=
        (lists' g.1 g.2.1 g.2.2).mp (show (g.1, g.2.1, g.2.2) ∈ _ from isG)
      have same : name :: rest = other :: rest' := by
        rw [← isPath, ← isPath', samePath, samePath']
      obtain ⟨rfl, -⟩ := List.cons.inj same
      exact once isOther
    refine ⟨List.forall_mem_cons.mpr ⟨visits.fresh, fun other isOther marked =>
      unmarked other isOther (scanned.inodes _ marked)⟩, _,
      (scanned.under isName).append scanned' apart, fun path size contents => ?_⟩
    rw [List.mem_append, isUnder, lists']
    constructor
    · rintro (⟨rest, isPath, holds⟩ | ⟨other, rest, isPath, isOther, holds⟩)
      · exact ⟨name, rest, isPath, List.mem_cons_self, holds⟩
      · exact ⟨other, rest, isPath, List.mem_cons_of_mem _ isOther, holds⟩
    · rintro ⟨other, rest, isPath, isOther, holds⟩
      rcases List.mem_cons.mp isOther with rfl | isOther
      · exact .inl ⟨rest, isPath, holds⟩
      · exact .inr ⟨other, rest, isPath, isOther, holds⟩

/-- The walk lists the files below a directory. -/
theorem scansDirectory (euid levels : Nat) : ScansDirectory euid levels := by
  induction levels with
  | zero =>
    intro above entry opened before after names child state state' _ h
    cases h
  | succ levels ih =>
    intro above entry opened before after names child state state' valid h
    obtain ⟨scannedState, isScanned, h⟩ := bind_eq_ok.mp h
    split at h
    · obtain rfl := Except.ok.inj h
      obtain ⟨-, found, scanned, lists⟩ := scanNames_eq_ok ih valid isScanned
      refine ⟨found, scanned, fun path size contents => ?_⟩
      rw [lists]
      constructor
      · rintro ⟨name, rest, rfl, isName, holds⟩
        exact .child (List.mem_mergeSort.mp isName) holds
      · rintro ⟨⟩
        rename_i name path isName holds
        exact ⟨name, path, rfl, List.mem_mergeSort.mpr isName, holds⟩
    · cases h

/-- The walk lists the files below the root. -/
theorem scanRoot_eq_ok {root : Node} (h : scanRoot euid root = .ok state) :
    ∃ found start, start.files = [] ∧ start.totalBytes = 0 ∧ Scanned [] found start state ∧
      Lists root found := by
  cases root with
  | directory entry opened before names child after =>
    simp only [scanRoot, ite_error_eq_ok, bind_eq_ok] at h
    obtain ⟨-, -, start, isStart, h⟩ := h
    obtain ⟨-, rfl⟩ := trackInode_eq_ok isStart
    have atRoot : ∀ name ∈ ([] : List Str), IsName name := nofun
    obtain ⟨found, scanned, lists⟩ := scansDirectory euid (maxModelDepth + 1) atRoot h
    exact ⟨found, _, rfl, rfl, scanned, lists⟩
  | _ => cases h

/-! ## Built manifests -/

variable {root : Node} {manifest manifest' : ModelProvenance} {tooDeep : Str → Bool}
  {floatRepr : Str → Str}

/-- The files found, sorted by their paths, are what a manifest can list. -/
theorem admissible_sortedBy {found : List Found} {start : ScanState} (noFiles : start.files = [])
    (noBytes : start.totalBytes = 0) (scanned : Scanned [] found start state) (nonempty : found ≠ [])
    (nested : ∀ f ∈ found, f.1 ≠ []) :
    Admissible (sortedBy (·.path) (found.map (fileOf []))) := by
  have perm : (sortedBy (·.path) (found.map (fileOf []))).Perm (found.map (fileOf [])) :=
    List.mergeSort_perm _ _
  have paths : (found.map (fileOf [])).map (·.path) = (found.map Prod.fst).map joinPath := by
    rw [List.map_map, List.map_map]
    rfl
  have distinctPaths : ((found.map (fileOf [])).map (·.path)).Nodup := by
    rw [paths, List.nodup_map_iff_inj_on scanned.distinct]
    intro names isNames names' isNames' same
    obtain ⟨f, isFound, rfl⟩ := List.mem_map.mp isNames
    obtain ⟨g, isFound', rfl⟩ := List.mem_map.mp isNames'
    exact joinPath_inj (nested f isFound) (nested g isFound') (scanned.names f isFound)
      (scanned.names g isFound') same
  refine ⟨fun entry isEntry => ?_, ?_, ⟨?_, ?_⟩, ?_⟩
  · obtain ⟨f, isFound, rfl⟩ := List.mem_map.mp (perm.mem_iff.mp isEntry)
    exact scanned.valid f isFound
  · have distinct : (sortedBy (·.path) (found.map (fileOf []))).Pairwise fun a b => a.path ≠ b.path :=
      List.pairwise_map.mp ((perm.map _).nodup_iff.mpr distinctPaths)
    exact ((pairwise_sortedBy _ _).and distinct).imp fun h => lt_of_le_of_ne h.1 h.2
  · rw [perm.length_eq, List.length_map]
    exact List.length_pos_iff.mpr nonempty
  · rw [perm.length_eq]
    have few := scanned.few (by rw [noFiles]; exact Nat.zero_le _)
    rwa [scanned.files, noFiles, List.nil_append] at few
  · have sum : totalSize (sortedBy (·.path) (found.map (fileOf []))) =
        totalSize (found.map (fileOf [])) := (perm.map _).sum_eq
    have fits := scanned.fits (by rw [noBytes]; decide)
    rw [scanned.total, noBytes, zero_add] at fits
    rwa [sum]

/-- A built manifest lists the files of the tree. -/
theorem buildModelProvenance_eq_ok (h : buildModelProvenance euid root = .ok manifest) :
    ∃ files, Admissible files ∧ (encode files).length ≤ maxModelManifestBytes ∧
      manifestOf files = manifest ∧ ∀ entry, entry ∈ files ↔ root.Contains entry := by
  obtain ⟨state, isScanned, h⟩ := bind_eq_ok.mp h
  rw [ite_error_eq_ok] at h
  obtain ⟨someFiles, isAssembled⟩ := h
  obtain ⟨found, start, noFiles, noBytes, scanned, lists⟩ := scanRoot_eq_ok isScanned
  have files : state.files = found.map (fileOf []) := by
    rw [scanned.files, noFiles, List.nil_append]
  have nonempty : found ≠ [] := by
    rintro rfl
    exact someFiles files
  have nested : ∀ f ∈ found, f.1 ≠ [] := by
    intro f isFound
    have holds := (lists f.1 f.2.1 f.2.2).mp isFound
    -- The root itself is a directory.
    cases root with
    | directory =>
      generalize f.1 = path at holds
      generalize f.2.1 = size at holds
      cases holds with
      | child => exact List.cons_ne_nil _ _
    | _ => cases isScanned
  have admissible := admissible_sortedBy noFiles noBytes scanned nonempty nested
  rw [files, assemble_of_admissible admissible, ite_error_eq_ok, not_lt] at isAssembled
  refine ⟨_, admissible, isAssembled.1, Except.ok.inj isAssembled.2, fun entry => ?_⟩
  rw [sortedBy, List.mem_mergeSort, List.mem_map]
  constructor
  · rintro ⟨f, isFound, rfl⟩
    exact ⟨f.1, f.2.1, f.2.2, (lists _ _ _).mp isFound, rfl⟩
  · rintro ⟨path, size, contents, holds, rfl⟩
    exact ⟨(path, size, contents), (lists _ _ _).mpr holds, rfl⟩

/-! ## Issued manifests -/

/-- A manifest that one of the two construction paths returned. -/
def Issued (tooDeep : Str → Bool) (floatRepr : Str → Str) (manifest : ModelProvenance) : Prop :=
  (∃ euid root, buildModelProvenance euid root = .ok manifest) ∨
    ∃ contents, parseModelProvenance tooDeep floatRepr contents = .ok manifest

theorem Issued.exists_files (shallow : Shallow tooDeep) (h : Issued tooDeep floatRepr manifest) :
    ∃ files, Admissible files ∧ (encode files).length ≤ maxModelManifestBytes ∧
      manifestOf files = manifest := by
  rcases h with ⟨euid, root, h⟩ | ⟨contents, h⟩
  · obtain ⟨files, admissible, short, isManifest, -⟩ := buildModelProvenance_eq_ok h
    exact ⟨files, admissible, short, isManifest⟩
  · obtain ⟨files, admissible, short, -, isManifest⟩ :=
      (parseModelProvenance_eq_ok shallow).mp h
    exact ⟨files, admissible, short, isManifest⟩

/-- The encoding determines the file list. -/
theorem encode_inj (shallow : Shallow tooDeep) {files files' : List ModelProvenanceFile}
    (h : Admissible files) (h' : Admissible files')
    (short : (encode files).length ≤ maxModelManifestBytes) (same : encode files = encode files') :
    files = files' := by
  have read : parseModelProvenance tooDeep id (encode files) = .ok (manifestOf files) :=
    (parseModelProvenance_eq_ok shallow).mpr ⟨files, h, short, rfl, rfl⟩
  have read' : parseModelProvenance tooDeep id (encode files) = .ok (manifestOf files') :=
    (parseModelProvenance_eq_ok shallow).mpr ⟨files', h', same ▸ short, same.symm, rfl⟩
  rw [read] at read'
  exact congrArg ModelProvenance.files (Except.ok.inj read')

theorem Issued.files_eq (shallow : Shallow tooDeep) (h : Issued tooDeep floatRepr manifest)
    (h' : Issued tooDeep floatRepr manifest')
    (same : manifest.canonicalBytes = manifest'.canonicalBytes) :
    manifest.files = manifest'.files := by
  obtain ⟨files, admissible, short, rfl⟩ := h.exists_files shallow
  obtain ⟨files', admissible', -, rfl⟩ := h'.exists_files shallow
  exact encode_inj shallow admissible admissible' short same

theorem eq_of_mem_iff {files files' : List ModelProvenanceFile} (h : Admissible files)
    (h' : Admissible files') (same : ∀ entry, entry ∈ files ↔ entry ∈ files') : files = files' := by
  have distinct {files : List ModelProvenanceFile} (h : Admissible files) : files.Nodup :=
    h.sorted.imp fun below same => (same ▸ below).false
  have perm : files.Perm files' :=
    (List.perm_ext_iff_of_nodup (distinct h) (distinct h')).mpr same
  exact perm.eq_of_pairwise (fun a b _ _ below above => absurd below (lt_asymm above)) h.sorted
    h'.sorted

theorem verifyModelProvenance_eq_ok (shallow : Shallow tooDeep)
    (issued : Issued tooDeep floatRepr manifest) :
    verifyModelProvenance manifest euid root = .ok () ↔
      (∃ rebuilt, buildModelProvenance euid root = .ok rebuilt) ∧
        ∀ entry, entry ∈ manifest.files ↔ root.Contains entry := by
  have verified : verifyModelProvenance manifest euid root = .ok () ↔
      ∃ rebuilt, buildModelProvenance euid root = .ok rebuilt ∧
        rebuilt.canonicalBytes = manifest.canonicalBytes := by
    rw [verifyModelProvenance, bind_eq_ok]
    simp only [ite_error_eq_ok, not_not, and_true]
  obtain ⟨files, admissible, -, rfl⟩ := issued.exists_files shallow
  rw [verified]
  constructor
  · rintro ⟨rebuilt, isBuilt, same⟩
    obtain ⟨files', admissible', short, rfl, lists⟩ := buildModelProvenance_eq_ok isBuilt
    obtain rfl := encode_inj shallow admissible' admissible short same
    exact ⟨⟨_, isBuilt⟩, lists⟩
  · rintro ⟨⟨rebuilt, isBuilt⟩, lists⟩
    obtain ⟨files', admissible', -, rfl, lists'⟩ := buildModelProvenance_eq_ok isBuilt
    have same := eq_of_mem_iff admissible' admissible fun entry => by rw [lists', ← lists]; rfl
    exact ⟨_, isBuilt, congrArg encode same⟩

/-- Manifests of model directories round trip. -/
structure RoundTrips (tooDeep : Str → Bool) (floatRepr : Str → Str) : Prop where
  /-- A built manifest is read back from its canonical bytes. -/
  built : ∀ euid root manifest, buildModelProvenance euid root = .ok manifest →
    parseModelProvenance tooDeep floatRepr manifest.canonicalBytes = .ok manifest
  /-- The parser accepts the canonical encodings of the admissible file lists and nothing else. -/
  accepted : ∀ contents manifest,
    parseModelProvenance tooDeep floatRepr contents = .ok manifest ↔
      ∃ files, Admissible files ∧ (encode files).length ≤ maxModelManifestBytes ∧
        encode files = contents ∧ manifestOf files = manifest
  /-- Where it does not accept, it raises the error of the module. -/
  refused : ∀ contents, Redacted (parseModelProvenance tooDeep floatRepr contents)
  /-- The canonical bytes determine the files. -/
  binding : ∀ manifest manifest', Issued tooDeep floatRepr manifest →
    Issued tooDeep floatRepr manifest' → manifest.canonicalBytes = manifest'.canonicalBytes →
      manifest.files = manifest'.files
  /-- A directory verifies when it is accepted and holds the files of the manifest. -/
  verified : ∀ manifest euid root, Issued tooDeep floatRepr manifest →
    (verifyModelProvenance manifest euid root = .ok () ↔
      (∃ rebuilt, buildModelProvenance euid root = .ok rebuilt) ∧
        ∀ entry, entry ∈ manifest.files ↔ root.Contains entry)

theorem manifests_round_trip (tooDeep : Str → Bool) (floatRepr : Str → Str)
    (shallow : Shallow tooDeep) : RoundTrips tooDeep floatRepr where
  built euid root manifest h := by
    obtain ⟨files, admissible, short, rfl, -⟩ := buildModelProvenance_eq_ok h
    exact (parseModelProvenance_eq_ok shallow).mpr ⟨files, admissible, short, rfl, rfl⟩
  accepted contents manifest := parseModelProvenance_eq_ok shallow
  refused contents := redacted_parseModelProvenance contents
  binding manifest manifest' issued issued' same := issued.files_eq shallow issued' same
  verified manifest euid root issued := verifyModelProvenance_eq_ok shallow issued

/-- A directory of user 1000 with the file `d/a` of one byte. -/
def sampleRoot : Node :=
  let directory (ino : Nat) : StatResult := ⟨1, ino, 0o040755, 1000, 1000, 2, 4096, 0, 0⟩
  let file : StatResult := ⟨1, 4, 0o100644, 1000, 1000, 1, 1, 0, 0⟩
  let below : Node := .directory (directory 3) (directory 3) (directory 3) [str "a"]
    (fun _ => .file file file [3] file) (directory 3)
  .directory (directory 2) (directory 2) (directory 2) [str "d"] (fun _ => below) (directory 2)

theorem manifests_round_trip_sample :
    RoundTrips (fun _ => false) id ∧ (buildModelProvenance 1000 sampleRoot).isOk = true :=
  ⟨manifests_round_trip _ _ fun _ _ => rfl, by decide +kernel⟩

end Prometheus.Jaeger.Provenance
