import Prometheus.Machine.Ranking
import Prometheus.ThreatHint.ObservableAgreement

/-!
# Producers of observables

`byte_pattern_producer.rs`, `api_import_producer.rs`, `pe_api_import_producer.rs` and the
constructors of `observable_bundle.rs` that they call. Each makes a bundle of one observable from an
artifact's bytes and from a selection. What the `object` crate reads in an artifact is a parameter:
the symbols of an ELF file, or the import table of a PE file with the functions that look up its
addresses. An iterator that can fail is the list of what it yields, where `none` is an error.
-/

namespace Prometheus.ThreatHint.Rust

open Prometheus.Codec
open Prometheus.Machine (sortedDistinct)

/-- `usize::MAX`. -/
def usizeMax : Nat := 2 ^ 64 - 1

/-- A slice of bytes. Its length is a `usize`. -/
structure Slice where
  bytes : Bytes
  fits : bytes.length ≤ usizeMax

/-! ## The constructors of a bundle -/

namespace ObservableBundle

/-- A bundle for review with one observable. -/
def reviewRequired (platform : ScopePlatform) (format : ScopeFormat) (kind : ObservableKind)
    (value : Bytes) : ObservableBundle where
  schemaVersion := 1
  disclosurePolicy := .reviewRequiredV1
  scope := { platform, format }
  observables := [{ kind, value }]

/-- A token of a byte pattern. -/
def tokenText : Option UInt8 → Bytes
  | some byte => encodeAscii (hex [byte])
  | none => [63, 63]

/-- The loop that writes the tokens of a byte pattern, from the one at `index` on. -/
def pushTokens (value : Bytes) (index : Nat) : List (Option UInt8) → Bytes
  | [] => value
  | token :: tokens =>
    let value := if index ≠ 0 then value ++ [32] else value
    pushTokens (value ++ tokenText token) (index + 1) tokens

def fromBytePatternTokens (platform : ScopePlatform) (format : ScopeFormat)
    (tokens : List (Option UInt8)) : Except ObservableBundleError ObservableBundle :=
  if ¬ (minBytePatternTokens ≤ tokens.length ∧ tokens.length ≤ maxBytePatternTokens) ∨
      (tokens.filterMap id).length < minFixedBytePatternTokens then
    .error .invalidObservable
  else do
    let value := pushTokens [] 0 tokens
    let bundle := reviewRequired platform format .bytePattern value
    let _ ← bundle.toCanonicalBytes
    .ok bundle

def fromReviewRequiredApiImport (platform : ScopePlatform) (format : ScopeFormat) (value : Bytes) :
    Except ObservableBundleError ObservableBundle := do
  validateApiImport value
  let bundle := reviewRequired platform format .apiImport value
  let _ ← bundle.toCanonicalBytes
  .ok bundle

end ObservableBundle

/-! ## Byte patterns -/

def produceBytePatternBundle (artifactBytes : Slice) (start : Nat) (wildcardMask : List Bool)
    (platform : ScopePlatform) (format : ScopeFormat) :
    Except ObservableBundleError ObservableBundle :=
  if ¬ (minBytePatternTokens ≤ wildcardMask.length ∧ wildcardMask.length ≤ maxBytePatternTokens) ∨
      (wildcardMask.filter fun wildcard => !wildcard).length < minFixedBytePatternTokens then
    .error .invalidObservable
  else if usizeMax < start + wildcardMask.length then .error .invalidObservable
  else
    let stop := start + wildcardMask.length
    if artifactBytes.bytes.length < stop then .error .invalidObservable
    else
      let selected := (artifactBytes.bytes.drop start).take (stop - start)
      let tokens := (selected.zip wildcardMask).map fun (byte, wildcard) =>
        if ¬ wildcard then some byte else none
      ObservableBundle.fromBytePatternTokens platform format tokens

/-! ## Imports -/

/-- What `object::File::format` tells apart: neither producer takes the other formats. -/
inductive BinaryFormat
  | elf | pe | other
  deriving DecidableEq, Repr

/-- A symbol of the dynamic symbol table. -/
structure DynamicSymbol where
  isUndefined : Bool
  nameBytes : Option Bytes

/-- An import descriptor: the fields that are read. -/
structure ImportDescriptor where
  originalFirstThunk : UInt32
  timeDateStamp : UInt32
  name : UInt32
  firstThunk : UInt32

structure Thunk where
  isOrdinal : Bool
  address : UInt32

/-- An import table, with the look-ups of a name, of thunks and of a hinted name by an address. -/
structure ImportTable where
  descriptors : Option (List (Option ImportDescriptor))
  name : UInt32 → Option Bytes
  thunks : UInt32 → Option (List (Option Thunk))
  hintName : UInt32 → Option Bytes

/-- A PE file: reading its import table may fail, and it may have none. -/
structure PeFile where
  importTable : Option (Option ImportTable)

/-- `object::File`. -/
inductive File
  | elf (dynamicSymbols : List DynamicSymbol)
  | pe32 (file : PeFile)
  | pe64 (file : PeFile)
  | other

def File.format : File → BinaryFormat
  | .elf _ => .elf
  | .pe32 _ => .pe
  | .pe64 _ => .pe
  | .other => .other

def File.dynamicSymbols : File → List DynamicSymbol
  | .elf dynamicSymbols => dynamicSymbols
  | _ => []

/-- What names are ordered by. -/
def asBytes (name : Bytes) : Str := name.map UInt8.toNat

/-- The errors of a selection under the names of one producer. -/
structure SelectionErrors (ε : Type) where
  noImports : ε
  invalidSelection : ε
  canonicalization : ε

/-- The end of both producers: sort, drop the repeats and select. -/
def selectImport {ε : Type} (errors : SelectionErrors ε) (platform : ScopePlatform)
    (format : ScopeFormat) (names : List Bytes) (importIndex : Nat) : Except ε ObservableBundle :=
  let names := sortedDistinct asBytes names
  if names = [] then .error errors.noImports
  else
    match names[importIndex]? with
    | none => .error errors.invalidSelection
    | some selected =>
      match ObservableBundle.fromReviewRequiredApiImport platform format selected with
      | .error _ => .error errors.canonicalization
      | .ok bundle => .ok bundle

/-- `str::from_utf8` and `validate_api_import`. -/
def isSupportedImport (name : Bytes) : Bool :=
  match fromUtf8 name with
  | none => false
  | some _ =>
    match validateApiImport name with
    | .error _ => false
    | .ok _ => true

namespace Elf

def maxElfApiImportArtifactBytes : Nat := 16 * 1024 * 1024
def maxElfDynamicSymbols : Nat := 4096

inductive ElfApiImportProducerError
  | invalidArtifact | artifactTooLarge | unsupportedImport | noImports | tooManyDynamicSymbols
  | invalidSelection | canonicalization
  deriving DecidableEq, Repr

/-- The loop over the dynamic symbols, from the one at `symbolIndex` on. -/
def readSymbols (symbolIndex : Nat) (names : List Bytes) :
    List DynamicSymbol → Except ElfApiImportProducerError (List Bytes)
  | [] => .ok names
  | symbol :: symbols =>
    if symbolIndex = maxElfDynamicSymbols then .error .tooManyDynamicSymbols
    else if ¬ symbol.isUndefined then readSymbols (symbolIndex + 1) names symbols
    else
      match symbol.nameBytes with
      | none => .error .invalidArtifact
      | some nameBytes =>
        if nameBytes = [] then readSymbols (symbolIndex + 1) names symbols
        else if ¬ isSupportedImport nameBytes then .error .unsupportedImport
        else readSymbols (symbolIndex + 1) (names ++ [nameBytes]) symbols

/-- The errors of a selection. -/
def selectionErrors : SelectionErrors ElfApiImportProducerError where
  noImports := .noImports
  invalidSelection := .invalidSelection
  canonicalization := .canonicalization

def produceElfApiImportBundle (parse : Bytes → Option File) (artifactBytes : Bytes)
    (importIndex : Nat) : Except ElfApiImportProducerError ObservableBundle :=
  if artifactBytes = [] then .error .invalidArtifact
  else if maxElfApiImportArtifactBytes < artifactBytes.length then .error .artifactTooLarge
  else
    match parse artifactBytes with
    | none => .error .invalidArtifact
    | some artifact =>
      if artifact.format ≠ .elf then .error .invalidArtifact
      else do
        let names ← readSymbols 0 [] artifact.dynamicSymbols
        selectImport selectionErrors .linux .elf names importIndex

end Elf

namespace Pe

def maxPeApiImportArtifactBytes : Nat := 16 * 1024 * 1024
def maxPeImports : Nat := 4096
def maxPeImportDescriptors : Nat := maxPeImports

inductive PeApiImportProducerError
  | invalidArtifact | artifactTooLarge | unsupportedImport | noImports | tooManyImports
  | invalidSelection | canonicalization
  deriving DecidableEq, Repr

/-- The loop over the thunks of a descriptor, with `processed` and `names`. -/
def readThunks (table : ImportTable) (processed : Nat) (names : List Bytes) :
    List (Option Thunk) → Except PeApiImportProducerError (Nat × List Bytes)
  | [] => .ok (processed, names)
  | none :: _ => .error .invalidArtifact
  | some thunk :: thunks =>
    if processed = maxPeImports then .error .tooManyImports
    else if thunk.isOrdinal then .error .unsupportedImport
    else
      match table.hintName thunk.address with
      | none => .error .invalidArtifact
      | some nameBytes =>
        if ¬ isSupportedImport nameBytes then .error .unsupportedImport
        else readThunks table (processed + 1) (names ++ [nameBytes]) thunks

/-- The address of the thunks of a descriptor. -/
def firstThunk (descriptor : ImportDescriptor) : Except PeApiImportProducerError UInt32 :=
  if descriptor.originalFirstThunk = 0 ∧ descriptor.timeDateStamp ≠ 0 then .error .invalidArtifact
  else
    let first_thunk :=
      if descriptor.originalFirstThunk = 0 then descriptor.firstThunk
      else descriptor.originalFirstThunk
    if first_thunk = 0 then .error .invalidArtifact else .ok first_thunk

/-- The loop over the descriptors, with both counters and `names`. -/
def readDescriptors (table : ImportTable) (processedDescriptors processed : Nat)
    (names : List Bytes) :
    List (Option ImportDescriptor) → Except PeApiImportProducerError (List Bytes)
  | [] => .ok names
  | none :: _ => .error .invalidArtifact
  | some descriptor :: descriptors =>
    if processedDescriptors = maxPeImportDescriptors then .error .tooManyImports
    else
      match table.name descriptor.name with
      | none => .error .invalidArtifact
      | some libraryName =>
        if libraryName = [] then .error .invalidArtifact
        else
          match firstThunk descriptor with
          | .error e => .error e
          | .ok address =>
            match table.thunks address with
            | none => .error .invalidArtifact
            | some thunks =>
              match readThunks table processed names thunks with
              | .error e => .error e
              | .ok (processed, names) =>
                readDescriptors table (processedDescriptors + 1) processed names descriptors

def extractNamedImports (file : PeFile) : Except PeApiImportProducerError (List Bytes) :=
  match file.importTable with
  | none => .error .invalidArtifact
  | some none => .ok []
  | some (some importTable) =>
    match importTable.descriptors with
    | none => .error .invalidArtifact
    | some descriptors => readDescriptors importTable 0 0 [] descriptors

/-- The errors of a selection. -/
def selectionErrors : SelectionErrors PeApiImportProducerError where
  noImports := .noImports
  invalidSelection := .invalidSelection
  canonicalization := .canonicalization

def producePeApiImportBundle (parse : Bytes → Option File) (artifactBytes : Bytes)
    (importIndex : Nat) : Except PeApiImportProducerError ObservableBundle :=
  if artifactBytes = [] then .error .invalidArtifact
  else if maxPeApiImportArtifactBytes < artifactBytes.length then .error .artifactTooLarge
  else
    match parse artifactBytes with
    | none => .error .invalidArtifact
    | some artifact =>
      if artifact.format ≠ .pe then .error .invalidArtifact
      else do
        let names ← match artifact with
          | .pe32 file => extractNamedImports file
          | .pe64 file => extractNamedImports file
          | _ => .error .invalidArtifact
        selectImport selectionErrors .windows .pe names importIndex

end Pe

end Prometheus.ThreatHint.Rust
