import Prometheus.Codec.JsonLine
import Prometheus.Codec.Sha256
import Prometheus.Machine.Ranking

/-!
# Provenance of a model directory

`model_provenance.py`: the inventory of a directory tree, its canonical manifest on one line of
JSON, the parser of such manifests, and the comparison of a manifest with a tree. A tree is what the
calls on the file system return while it is walked, so that it may change in between.
-/

namespace Prometheus.Jaeger.Provenance

open Prometheus.Codec Prometheus.Machine

def schemaVersion : Int := 1
def artifactKind : Str := str "guardian_model_directory"
def hashAlgorithm : Str := str "sha256"
def maxModelFiles : Nat := 4096
def maxModelTotalBytes : Int := 2 ^ 40
def maxRelativePathBytes : Nat := 512
def maxModelDepth : Nat := 32
def maxModelManifestBytes : Nat := 8 * 1024 * 1024
def hashHexLength : Nat := 64

def topLevelKeys : List String :=
  ["schema_version", "artifact_kind", "hash_algorithm", "file_count", "total_bytes", "files"]

def fileKeys : List String := ["path", "size", "sha256"]

/-- What the module raises: its one error, or the `ValueError` of an integer that `json.dumps`
refuses to write. -/
inductive Raised
  | modelProvenanceError
  | valueError
  deriving DecidableEq, Repr

structure ModelProvenanceFile where
  path : Str
  size : Int
  sha256 : Str
  deriving DecidableEq, Repr

structure ModelProvenance where
  fileCount : Nat
  totalBytes : Int
  files : List ModelProvenanceFile
  canonicalBytes : Bytes
  artifactSha256 : Str
  deriving DecidableEq, Repr

/-! ## The canonical encoding -/

/-- `sum(entry.size for entry in files)` -/
def totalSize (files : List ModelProvenanceFile) : Int := (files.map (·.size)).sum

def fileFields (entry : ModelProvenanceFile) : List (String × Json) :=
  [("path", .string entry.path), ("size", .int entry.size), ("sha256", .string entry.sha256)]

def fileDocument (entry : ModelProvenanceFile) : Json := document (fileFields entry)

def manifestFields (files : List ModelProvenanceFile) : List (String × Json) :=
  [("schema_version", .int schemaVersion), ("artifact_kind", .string artifactKind),
    ("hash_algorithm", .string hashAlgorithm), ("file_count", .int files.length),
    ("total_bytes", .int (totalSize files)), ("files", .array (files.map fileDocument))]

def manifestDocument (files : List ModelProvenanceFile) : Json := document (manifestFields files)

/-- `int.__repr__` raises for an integer of too many digits. -/
def tooManyDigits (i : Int) : Bool := decide (maxStrDigits < (decimal i.natAbs).length)

/-- `_canonical_bytes` -/
def canonicalBytes (files : List ModelProvenanceFile) : Except Raised Bytes :=
  if tooManyDigits files.length ∨ tooManyDigits (totalSize files) ∨
      files.any fun entry => tooManyDigits entry.size then
    .error .valueError
  else .ok (dumpsLine (manifestDocument files))

/-- `_assemble` -/
def assemble (files : List ModelProvenanceFile) : Except Raised ModelProvenance := do
  let canonical ← canonicalBytes files
  if maxModelManifestBytes < canonical.length then .error .modelProvenanceError
  else
    .ok
      { fileCount := files.length
        totalBytes := totalSize files
        files := files
        canonicalBytes := canonical
        artifactSha256 := hex (sha256 canonical) }

/-! ## The parser -/

/-- `value in {"", ".", ".."}` -/
def isDots (part : Str) : Bool := part == [] || part == str "." || part == str ".."

/-- `value.encode("utf-8")`; `none` where it raises `UnicodeEncodeError`. -/
def encodeText (value : Str) : Option Bytes :=
  if value.all isScalar then encodeUtf8 value else none

/-- `_parse_manifest_path` -/
def parseManifestPath : Json → Except Raised Str
  | .string value =>
    if value = [] then .error .modelProvenanceError
    else
      match encodeText value with
      | none => .error .modelProvenanceError
      | some encoded =>
        if maxRelativePathBytes < encoded.length ∨ 0 ∈ value ∨ value.head? = some 47 ∨
            value.getLast? = some 47 ∨ (value.splitOn 47).any isDots then
          .error .modelProvenanceError
        else .ok value
  | _ => .error .modelProvenanceError

/-- The keys of an object are these, in this order. -/
def hasKeys (fields : List (Str × Json)) (keys : List String) : Bool :=
  fields.map Prod.fst == keys.map str

/-- `_parse_file_entry` -/
def parseFileEntry : Json → Except Raised ModelProvenanceFile
  | .object fields =>
    if hasKeys fields fileKeys then do
      let path ← parseManifestPath ((Json.field fields (str "path")).getD .null)
      match Json.intAt fields "size" with
      | none => .error .modelProvenanceError
      | some size =>
        if ¬ (0 ≤ size ∧ size ≤ maxModelTotalBytes) then .error .modelProvenanceError
        else
          match Json.textAt fields "sha256" with
          | none => .error .modelProvenanceError
          | some digest =>
            if digest.length ≠ hashHexLength ∨ digest.any (fun c => ! isLowerHex c) then
              .error .modelProvenanceError
            else .ok { path := path, size := size, sha256 := digest }
    else .error .modelProvenanceError
  | _ => .error .modelProvenanceError

/-- `_parse_document` -/
def parseDocument : Json → Except Raised (List ModelProvenanceFile)
  | .object data =>
    if ¬ hasKeys data topLevelKeys then .error .modelProvenanceError
    else if Json.intAt data "schema_version" ≠ some schemaVersion then .error .modelProvenanceError
    else if Json.textAt data "artifact_kind" ≠ some artifactKind then .error .modelProvenanceError
    else if Json.textAt data "hash_algorithm" ≠ some hashAlgorithm then .error .modelProvenanceError
    else
      match Json.intAt data "file_count", Json.intAt data "total_bytes" with
      | some fileCount, some totalBytes =>
        if ¬ (1 ≤ fileCount ∧ fileCount ≤ maxModelFiles) ∨
            ¬ (0 ≤ totalBytes ∧ totalBytes ≤ maxModelTotalBytes) then
          .error .modelProvenanceError
        else
          match Json.field data (str "files") with
          | some (.array entries) =>
            if entries.length ≠ fileCount then .error .modelProvenanceError
            else do
              let files ← entries.mapM parseFileEntry
              let paths := files.map (·.path)
              if paths ≠ sortedBy id paths ∨ ¬ paths.Nodup then .error .modelProvenanceError
              else if totalSize files ≠ totalBytes then .error .modelProvenanceError
              else .ok files
          | _ => .error .modelProvenanceError
      | _, _ => .error .modelProvenanceError
  | _ => .error .modelProvenanceError

/-- `parse_model_provenance`, with the recursion limit and the floats of `json.loads`. -/
def parseModelProvenance (tooDeep : Str → Bool) (floatRepr : Str → Str) (contents : Bytes) :
    Except Raised ModelProvenance :=
  if contents = [] ∨ maxModelManifestBytes < contents.length ∨ contents.count 10 ≠ 1 ∨
      contents.getLast? ≠ some 10 then
    .error .modelProvenanceError
  else
    match decodeAscii contents with
    | none => .error .modelProvenanceError
    | some text =>
      match Json.loadsHooked tooDeep floatRepr text with
      | .error _ => .error .modelProvenanceError
      | .ok data => do
        let files ← parseDocument data
        let manifest ← assemble files
        if manifest.canonicalBytes ≠ contents then .error .modelProvenanceError else .ok manifest

/-! ## The inventory -/

/-- `os.stat_result` -/
structure StatResult where
  dev : Nat
  ino : Nat
  mode : Nat
  uid : Nat
  gid : Nat
  nlink : Nat
  size : Int
  mtimeNs : Int
  ctimeNs : Int
  deriving DecidableEq, Repr

namespace StatResult

/-- `stat.S_ISDIR` -/
def isDir (current : StatResult) : Bool := current.mode &&& 0o170000 == 0o040000

/-- `stat.S_ISREG` -/
def isReg (current : StatResult) : Bool := current.mode &&& 0o170000 == 0o100000

/-- `_is_trusted_owner` -/
def isTrustedOwner (euid : Nat) (current : StatResult) : Bool :=
  current.uid == euid || current.uid == 0

/-- `_is_safe_directory` -/
def isSafeDirectory (euid : Nat) (current : StatResult) : Bool :=
  current.isDir && current.isTrustedOwner euid && current.mode &&& 0o022 == 0

/-- `_is_safe_file` -/
def isSafeFile (euid : Nat) (current : StatResult) : Bool :=
  current.isReg && current.isTrustedOwner euid && current.mode &&& 0o022 == 0 &&
    current.nlink == 1 && decide (0 ≤ current.size) && decide (current.size ≤ maxModelTotalBytes)

/-- What `_require_same_metadata` compares. -/
def sameMetadata (before after : StatResult) : Bool :=
  before.dev == after.dev && before.ino == after.ino && before.mode == after.mode &&
    before.uid == after.uid && before.gid == after.gid && before.size == after.size &&
    before.mtimeNs == after.mtimeNs && before.ctimeNs == after.ctimeNs

def identity (current : StatResult) : Nat × Nat := (current.dev, current.ino)

end StatResult

/-- What a walk meets under a name: `entry` is the result of `os.stat`, `opened` of the `fstat`
behind `os.open`, `before` and `after` of those around the listing and the reading. -/
inductive Node
  /-- Neither a file nor a directory, or one that cannot be examined, opened or read. -/
  | special
  | file (entry opened : StatResult) (contents : Bytes) (after : StatResult)
  | directory (entry opened before : StatResult) (names : List Str) (child : Str → Node)
      (after : StatResult)

structure ScanState where
  files : List ModelProvenanceFile := []
  inodes : List (Nat × Nat) := []
  totalBytes : Int := 0

/-- `_track_inode` -/
def trackInode (state : ScanState) (current : StatResult) : Except Raised ScanState :=
  if current.identity ∈ state.inodes then .error .modelProvenanceError
  else .ok { state with inodes := current.identity :: state.inodes }

/-- `_validated_relative_path` -/
def validatedRelativePath (pathPrefix name : Str) : Except Raised Str :=
  if isDots name ∨ 47 ∈ name ∨ 0 ∈ name then .error .modelProvenanceError
  else
    let relative := if pathPrefix = [] then name else pathPrefix ++ 47 :: name
    match encodeText relative with
    | none => .error .modelProvenanceError
    | some encoded =>
      if maxRelativePathBytes < encoded.length then .error .modelProvenanceError else .ok relative

/-- `_hash_file_descriptor` -/
def hashFileDescriptor (contents : Bytes) (expectedSize : Int) : Except Raised Str :=
  if (contents.length : Int) ≠ expectedSize then .error .modelProvenanceError
  else .ok (hex (sha256 contents))

/-- `_scan_regular_file` -/
def scanRegularFile (euid : Nat) (relative : Str) (before opened : StatResult) (contents : Bytes)
    (after : StatResult) (state : ScanState) : Except Raised ScanState :=
  if ¬ before.isSafeFile euid then .error .modelProvenanceError
  else do
    let state ← trackInode state before
    if ¬ before.sameMetadata opened ∨ ¬ opened.isSafeFile euid then .error .modelProvenanceError
    else do
      let digest ← hashFileDescriptor contents before.size
      if ¬ before.sameMetadata after then .error .modelProvenanceError
      else
        let totalBytes := state.totalBytes + before.size
        if maxModelTotalBytes < totalBytes then .error .modelProvenanceError
        else
          let files := state.files ++ [{ path := relative, size := before.size, sha256 := digest }]
          if maxModelFiles < files.length then .error .modelProvenanceError
          else .ok { state with files := files, totalBytes := totalBytes }

/-- One name in the loop of `_scan_directory`; `scanDirectory` scans what is below it. -/
def scanEntry (euid : Nat)
    (scanDirectory : Str → StatResult → List Str → (Str → Node) → StatResult → ScanState →
      Except Raised ScanState)
    (pathPrefix name : Str) (node : Node) (state : ScanState) : Except Raised ScanState := do
  let relative ← validatedRelativePath pathPrefix name
  match node with
  | .special => .error .modelProvenanceError
  | .directory entry opened before names child after =>
    -- `_scan_child_directory`
    if ¬ entry.isSafeDirectory euid then .error .modelProvenanceError
    else do
      let state ← trackInode state entry
      if ¬ entry.sameMetadata opened ∨ ¬ opened.isSafeDirectory euid then
        .error .modelProvenanceError
      else scanDirectory relative before names child after state
  | .file entry opened contents after =>
    -- One that `os.stat` took for a directory is refused by `os.open` with `O_DIRECTORY`.
    if entry.isDir then .error .modelProvenanceError
    else if entry.isReg then scanRegularFile euid relative entry opened contents after state
    else .error .modelProvenanceError

/-- `_scan_directory` with `levels` levels left up to `MAX_MODEL_DEPTH`. -/
def scanDirectory (euid : Nat) : Nat → Str → StatResult → List Str → (Str → Node) → StatResult →
    ScanState → Except Raised ScanState
  | 0, _, _, _, _, _, _ => .error .modelProvenanceError
  | levels + 1, pathPrefix, before, names, child, after, state => do
    let state ← (sortedBy id names).foldlM
      (fun state name => scanEntry euid (scanDirectory euid levels) pathPrefix name (child name) state)
      state
    if before.sameMetadata after then .ok state else .error .modelProvenanceError

/-- `_open_root_directory` and the scan below it. -/
def scanRoot (euid : Nat) : Node → Except Raised ScanState
  | .directory entry opened before names child after =>
    if ¬ entry.isSafeDirectory euid then .error .modelProvenanceError
    else if ¬ entry.sameMetadata opened ∨ ¬ opened.isSafeDirectory euid then
      .error .modelProvenanceError
    else do
      let state ← trackInode {} opened
      scanDirectory euid (maxModelDepth + 1) [] before names child after state
  | _ => .error .modelProvenanceError

/-- `build_model_provenance` of the directory at a canonical path. -/
def buildModelProvenance (euid : Nat) (root : Node) : Except Raised ModelProvenance := do
  let state ← scanRoot euid root
  if state.files = [] then .error .modelProvenanceError
  else assemble (sortedBy (·.path) state.files)

/-- `verify_model_provenance` -/
def verifyModelProvenance (manifest : ModelProvenance) (euid : Nat) (root : Node) :
    Except Raised Unit := do
  let rebuilt ← buildModelProvenance euid root
  if rebuilt.canonicalBytes ≠ manifest.canonicalBytes then .error .modelProvenanceError
  else .ok ()

end Prometheus.Jaeger.Provenance
