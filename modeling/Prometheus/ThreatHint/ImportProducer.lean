import Prometheus.ThreatHint.BytePatternProducer

/-!
# A produced import is the one at its rank

Both readers deliver a list of imports or stop at the first that is not supported. A supported import
always makes a canonical bundle, so the selection depends on the set of the imports and on the index
alone, and its last check cannot fail.
-/

namespace Prometheus.ThreatHint.Rust

open Prometheus.Codec
open Prometheus.Machine

/-! ## Supported imports -/

/-- The validator of the bundle takes the name. -/
def Supported (name : Bytes) : Prop := validateApiImport name = .ok ()

theorem Supported.range {name : Bytes} (h : Supported name) :
    name ≠ [] ∧ name.length ≤ maxApiImportLen ∧ ∀ b ∈ name, isImportByte b = true := by
  rw [Supported, validateApiImport, ite_error_eq_ok, ite_error_eq_ok, ite_error_eq_ok, not_or,
    not_lt, not_not, not_not] at h
  exact ⟨h.1.1, h.1.2, List.all_eq_true.mp h.2.2.1⟩

/-- What holds of every byte of an import. -/
theorem range_of_isImportByte {b : UInt8} (h : isImportByte b = true) :
    b.toNat < 128 ∧ 32 ≤ b.toNat ∧ b.toNat ≠ 34 ∧ b.toNat ≠ 92 := by
  rw [isImportByte_eq] at h
  simp only [Python.isImportChar, Bool.or_eq_true, Bool.and_eq_true, decide_eq_true_eq,
    beq_iff_eq] at h
  omega

theorem Supported.isPrinted {name : Bytes} (h : Supported name) {b : UInt8} (mem : b ∈ name) :
    IsPrinted b := by
  obtain ⟨small, printed⟩ := range_of_isImportByte (h.range.2.2 b mem)
  exact isPrinted_of_range small printed

theorem isSupportedImport_iff {name : Bytes} : isSupportedImport name = true ↔ Supported name := by
  unfold isSupportedImport Supported
  constructor
  · intro h
    split at h
    · cases h
    · split at h
      · cases h
      · rename_i isValid
        exact isValid
  · intro h
    have isAscii : ∀ b ∈ name, b.toNat < 128 :=
      fun b hb => (range_of_isImportByte (Supported.range h |>.2.2 b hb)).1
    rw [fromUtf8_of_ascii isAscii, h]

/-- The bundle of an import. -/
def importBundle (platform : ScopePlatform) (format : ScopeFormat) (name : Bytes) :
    ObservableBundle :=
  .reviewRequired platform format .apiImport name

section Selection

variable {platform : ScopePlatform} {format : ScopeFormat} {name : Bytes} {names : List Bytes}

theorem Supported.toCanonicalBytes (h : Supported name) :
    (importBundle platform format name).toCanonicalBytes =
      .ok (importBundle platform format name).toVec := by
  refine ObservableBundle.toCanonicalBytes_reviewRequired h (fun b hb => h.isPrinted hb) ?_
  have limit : maxApiImportLen ≤ 1024 := by decide
  exact h.range.2.1.trans limit

theorem Supported.fromReviewRequiredApiImport (h : Supported name) :
    ObservableBundle.fromReviewRequiredApiImport platform format name =
      .ok (importBundle platform format name) := by
  have isCanonical : (importBundle platform format name).toCanonicalBytes =
      .ok (importBundle platform format name).toVec := h.toCanonicalBytes
  rw [importBundle] at isCanonical
  rw [ObservableBundle.fromReviewRequiredApiImport, h]
  simp only [isCanonical]
  rfl

/-! ## The selection -/

theorem asBytes_injective : Function.Injective asBytes :=
  List.map_injective_iff.mpr fun _ _ => UInt8.toNat_inj.mp

/-- What the selection returns: the import at the index, or one of two errors. -/
theorem selectImport_eq {ε : Type} (errors : SelectionErrors ε)
    (supported : ∀ name ∈ names, Supported name) (index : Nat) :
    selectImport errors platform format names index =
      match (sortedDistinct asBytes names)[index]? with
      | some name => .ok (importBundle platform format name)
      | none =>
        .error (if sortedDistinct asBytes names = [] then errors.noImports
          else errors.invalidSelection) := by
  rw [selectImport]
  by_cases empty : sortedDistinct asBytes names = []
  · simp [empty]
  · simp only [if_neg empty]
    cases isSelected : (sortedDistinct asBytes names)[index]? with
    | none => rfl
    | some name =>
      have mem := (mem_sortedDistinct asBytes_injective).mp (List.mem_of_getElem? isSelected)
      simp only [(supported name mem).fromReviewRequiredApiImport]

theorem selectImport_ok_iff {ε : Type} (errors : SelectionErrors ε)
    (supported : ∀ name ∈ names, Supported name) {index : Nat} {bundle : ObservableBundle} :
    selectImport errors platform format names index = .ok bundle ↔
      ∃ name ∈ names, rank asBytes names name = index ∧
        bundle = importBundle platform format name := by
  rw [selectImport_eq errors supported]
  constructor
  · intro h
    split at h
    · rename_i name isSelected
      obtain ⟨mem, isRank⟩ := (getElem?_sortedDistinct asBytes_injective).mp isSelected
      exact ⟨name, mem, isRank, (Except.ok.inj h).symm⟩
    · cases h
  · rintro ⟨name, mem, isRank, rfl⟩
    rw [(getElem?_sortedDistinct asBytes_injective).mpr ⟨mem, isRank⟩]

theorem selectImport_inRange {ε : Type} (errors : SelectionErrors ε)
    (supported : ∀ name ∈ names, Supported name) {index : Nat} :
    (∃ bundle, selectImport errors platform format names index = .ok bundle) ↔
      index < names.toFinset.card := by
  rw [selectImport_eq errors supported, ← length_sortedDistinct asBytes_injective]
  constructor
  · rintro ⟨bundle, h⟩
    by_contra beyond
    rw [List.getElem?_eq_none (not_lt.mp beyond)] at h
    cases h
  · intro inRange
    rw [List.getElem?_eq_getElem inRange]
    exact ⟨_, rfl⟩

/-- The result depends on the set of the imports alone. -/
theorem selectImport_congr {ε : Type} (errors : SelectionErrors ε) {names' : List Bytes}
    (same : ∀ name, name ∈ names ↔ name ∈ names') (index : Nat) :
    selectImport errors platform format names index =
      selectImport errors platform format names' index := by
  rw [selectImport, selectImport, sortedDistinct_congr asBytes_injective same]

end Selection

/-! ## What the readers deliver -/

/-- The name of an import in the dynamic symbol table: a symbol that is defined elsewhere and has a
name. -/
def DynamicSymbol.importName (symbol : DynamicSymbol) : Option Bytes :=
  if symbol.isUndefined then symbol.nameBytes.filter fun name => decide (name ≠ []) else none

/-- The crate can read the name of an undefined symbol. -/
def DynamicSymbol.IsReadable (symbol : DynamicSymbol) : Prop :=
  symbol.isUndefined = true → symbol.nameBytes ≠ none

/-- The imports of an ELF artifact, which the crate delivers within the limits. -/
structure Elf.Delivers (parse : Bytes → Option File) (artifact : Bytes) (imports : List Bytes) :
    Prop where
  nonempty : artifact ≠ []
  bounded : artifact.length ≤ Elf.maxElfApiImportArtifactBytes
  symbols : ∃ symbols, parse artifact = some (.elf symbols) ∧
    symbols.length ≤ Elf.maxElfDynamicSymbols ∧ (∀ symbol ∈ symbols, symbol.IsReadable) ∧
    imports = symbols.filterMap DynamicSymbol.importName

/-- A symbol of the artifact is an import that is not supported. -/
def Elf.HasUnsupported (parse : Bytes → Option File) (artifact : Bytes) : Prop :=
  ∃ symbols, parse artifact = some (.elf symbols) ∧
    ∃ symbol ∈ symbols, ∃ name, symbol.importName = some name ∧ ¬ Supported name

/-- A thunk that the crate reads is an import by this name. -/
def ImportTable.Named (table : ImportTable) (entry : Option Thunk) (name : Bytes) : Prop :=
  ∃ thunk, entry = some thunk ∧ thunk.isOrdinal = false ∧ table.hintName thunk.address = some name

/-- A descriptor that the crate reads lists these thunks. -/
def ImportTable.Lists (table : ImportTable) (entry : Option ImportDescriptor)
    (thunks : List (Option Thunk)) : Prop :=
  ∃ descriptor library address, entry = some descriptor ∧
    table.name descriptor.name = some library ∧ library ≠ [] ∧
    Pe.firstThunk descriptor = .ok address ∧ table.thunks address = some thunks

/-- A descriptor that the crate reads lists these imports, all by name. -/
def ImportTable.Group (table : ImportTable) (entry : Option ImportDescriptor)
    (imports : List Bytes) : Prop :=
  ∃ thunks, table.Lists entry thunks ∧ List.Forall₂ table.Named thunks imports

/-- The imports of a PE file. -/
def PeFile.Imports (file : PeFile) (imports : List Bytes) : Prop :=
  (file.importTable = some none ∧ imports = []) ∨
    ∃ table descriptors groups, file.importTable = some (some table) ∧
      table.descriptors = some descriptors ∧ descriptors.length ≤ Pe.maxPeImportDescriptors ∧
      List.Forall₂ table.Group descriptors groups ∧ imports = groups.flatten ∧
      imports.length ≤ Pe.maxPeImports

/-- The imports of a PE artifact, which the crate delivers within the limits. -/
structure Pe.Delivers (parse : Bytes → Option File) (artifact : Bytes) (imports : List Bytes) :
    Prop where
  nonempty : artifact ≠ []
  bounded : artifact.length ≤ Pe.maxPeApiImportArtifactBytes
  file : ∃ file, (parse artifact = some (.pe32 file) ∨ parse artifact = some (.pe64 file)) ∧
    file.Imports imports

/-- An import by its ordinal, or by a name that is not supported. -/
def ImportTable.Unsupported (table : ImportTable) (thunk : Thunk) : Prop :=
  thunk.isOrdinal = true ∨ ∃ name, table.hintName thunk.address = some name ∧ ¬ Supported name

/-- A thunk of the artifact is an import that is not supported. -/
def Pe.HasUnsupported (parse : Bytes → Option File) (artifact : Bytes) : Prop :=
  ∃ file table descriptors,
    (parse artifact = some (.pe32 file) ∨ parse artifact = some (.pe64 file)) ∧
    file.importTable = some (some table) ∧ table.descriptors = some descriptors ∧
    ∃ entry ∈ descriptors, ∃ thunks, table.Lists entry thunks ∧
      ∃ thunk, some thunk ∈ thunks ∧ table.Unsupported thunk

/-! ## The reader of ELF symbols -/

namespace Elf

/-- One turn of the loop. -/
theorem readSymbols_cons {index : Nat} {names result : List Bytes} {symbol : DynamicSymbol}
    {symbols : List DynamicSymbol} :
    readSymbols index names (symbol :: symbols) = .ok result ↔
      index ≠ maxElfDynamicSymbols ∧ symbol.IsReadable ∧
      (∀ name, symbol.importName = some name → Supported name) ∧
      readSymbols (index + 1) (names ++ symbol.importName.toList) symbols = .ok result := by
  rw [readSymbols, ite_error_eq_ok]
  refine and_congr_right fun _ => ?_
  unfold DynamicSymbol.IsReadable DynamicSymbol.importName
  by_cases isUndefined : symbol.isUndefined = true
  · rw [if_neg (not_not.mpr isUndefined)]
    cases isName : symbol.nameBytes with
    | none => simp [isUndefined]
    | some name =>
      by_cases empty : name = []
      · simp [isUndefined, empty, Option.filter]
      · simp only [if_neg empty, ite_error_eq_ok, not_not, isSupportedImport_iff, isUndefined]
        simp [empty, Option.filter]
  · rw [if_pos isUndefined]
    simp [isUndefined]

theorem readSymbols_iff {index : Nat} {names result : List Bytes} {symbols : List DynamicSymbol}
    (small : index ≤ maxElfDynamicSymbols) :
    readSymbols index names symbols = .ok result ↔
      index + symbols.length ≤ maxElfDynamicSymbols ∧
      (∀ symbol ∈ symbols, symbol.IsReadable) ∧
      (∀ name ∈ symbols.filterMap DynamicSymbol.importName, Supported name) ∧
      result = names ++ symbols.filterMap DynamicSymbol.importName := by
  induction symbols generalizing index names with
  | nil => simp [readSymbols, small, eq_comm]
  | cons symbol symbols ih =>
    rw [readSymbols_cons]
    have split : (symbol :: symbols).filterMap DynamicSymbol.importName =
        symbol.importName.toList ++ symbols.filterMap DynamicSymbol.importName := by
      cases isImport : symbol.importName <;> simp [isImport]
    rw [split, List.length_cons, List.forall_mem_cons, List.forall_mem_append, ← List.append_assoc]
    simp only [Option.mem_toList]
    by_cases last : index = maxElfDynamicSymbols
    · constructor
      · rintro ⟨notLast, -⟩
        exact absurd last notLast
      · rintro ⟨within, -⟩
        omega
    · rw [ih (by omega)]
      constructor
      · rintro ⟨-, readable, supported, within, others, rest, same⟩
        exact ⟨by omega, ⟨readable, others⟩, ⟨supported, rest⟩, same⟩
      · rintro ⟨within, ⟨readable, others⟩, ⟨supported, rest⟩, same⟩
        exact ⟨last, readable, supported, by omega, others, rest, same⟩

/-- The reader leaves the last error to the selection. -/
theorem readSymbols_ne_canonicalization {index : Nat} {names : List Bytes}
    {symbols : List DynamicSymbol} :
    readSymbols index names symbols ≠ .error .canonicalization := by
  induction symbols generalizing index names with
  | nil => exact fun h => nomatch h
  | cons symbol symbols ih =>
    intro h
    rw [readSymbols] at h
    split_ifs at h
    · cases h
    · split at h
      · cases h
      · split_ifs at h
        · exact ih h
        · exact ih h
        · cases h
    · exact ih h

end Elf

/-! ## The reader of a PE import table -/

namespace Pe

variable {table : ImportTable} {processed processed' : Nat} {names names' : List Bytes}

/-- One turn of the loop over thunks. -/
theorem readThunks_cons {entry : Option Thunk} {thunks : List (Option Thunk)} :
    readThunks table processed names (entry :: thunks) = .ok (processed', names') ↔
      ∃ name, table.Named entry name ∧ Supported name ∧ processed ≠ maxPeImports ∧
        readThunks table (processed + 1) (names ++ [name]) thunks = .ok (processed', names') := by
  unfold ImportTable.Named
  cases entry with
  | none => simp [readThunks]
  | some thunk =>
    rw [readThunks, ite_error_eq_ok, ite_error_eq_ok]
    cases isName : table.hintName thunk.address with
    | none => simp [isName]
    | some name =>
      simp only [ite_error_eq_ok, not_not, isSupportedImport_iff]
      constructor
      · rintro ⟨room, named, supported, rest⟩
        exact ⟨name, ⟨thunk, rfl, by simpa using named, isName⟩, supported, room, rest⟩
      · rintro ⟨name', ⟨thunk', same, named, isName'⟩, supported, room, rest⟩
        cases same
        cases isName.symm.trans isName'
        exact ⟨room, by simpa using named, supported, rest⟩

theorem readThunks_iff {thunks : List (Option Thunk)} (small : processed ≤ maxPeImports) :
    readThunks table processed names thunks = .ok (processed', names') ↔
      ∃ imports, List.Forall₂ table.Named thunks imports ∧ (∀ name ∈ imports, Supported name) ∧
        processed' = processed + imports.length ∧ processed' ≤ maxPeImports ∧
        names' = names ++ imports := by
  induction thunks generalizing processed names with
  | nil =>
    rw [readThunks, Except.ok.injEq, Prod.mk.injEq]
    constructor
    · rintro ⟨rfl, rfl⟩
      exact ⟨[], .nil, by simp, rfl, small, by simp⟩
    · rintro ⟨imports, listed, -, rfl, -, rfl⟩
      cases listed
      exact ⟨rfl, by simp⟩
  | cons entry thunks ih =>
    rw [readThunks_cons]
    constructor
    · rintro ⟨name, named, supported, room, rest⟩
      obtain ⟨imports, listed, others, count, within, rfl⟩ := (ih (by omega)).mp rest
      refine ⟨name :: imports, .cons named listed, List.forall_mem_cons.mpr ⟨supported, others⟩,
        ?_, within, by simp⟩
      rw [count, List.length_cons]
      omega
    · rintro ⟨imports, listed, supported, rfl, within, rfl⟩
      cases listed with
      | cons named listed =>
        rename_i name imports
        rw [List.length_cons] at within ⊢
        refine ⟨name, named, supported name List.mem_cons_self, by omega, (ih (by omega)).mpr ?_⟩
        have count : processed + (imports.length + 1) = processed + 1 + imports.length := by omega
        exact ⟨imports, listed, fun n hn => supported n (List.mem_cons_of_mem name hn), count,
          within, by simp⟩

/-- One turn of the loop over descriptors. -/
theorem readDescriptors_cons {index : Nat} {result : List Bytes} {entry : Option ImportDescriptor}
    {descriptors : List (Option ImportDescriptor)} :
    readDescriptors table index processed names (entry :: descriptors) = .ok result ↔
      index ≠ maxPeImportDescriptors ∧ ∃ thunks, table.Lists entry thunks ∧
        ∃ next, readThunks table processed names thunks = .ok next ∧
          readDescriptors table (index + 1) next.1 next.2 descriptors = .ok result := by
  unfold ImportTable.Lists
  cases entry with
  | none => simp [readDescriptors]
  | some descriptor =>
    rw [readDescriptors, ite_error_eq_ok]
    refine and_congr_right fun _ => ?_
    constructor
    · intro h
      split at h
      · cases h
      rename_i library isLibrary
      rw [ite_error_eq_ok] at h
      obtain ⟨nonempty, h⟩ := h
      split at h
      · cases h
      rename_i address isAddress
      split at h
      · cases h
      rename_i thunks isThunks
      split at h
      · cases h
      rename_i isNext
      exact ⟨thunks, ⟨descriptor, library, address, rfl, isLibrary, nonempty, isAddress, isThunks⟩,
        _, isNext, h⟩
    · rintro ⟨thunks, ⟨descriptor', library, address, same, isLibrary, nonempty, isAddress, isThunks⟩,
        next, isNext, rest⟩
      cases same
      simp only [isLibrary, if_neg nonempty, isAddress, isThunks, isNext]
      exact rest

theorem readDescriptors_iff {index : Nat} {result : List Bytes}
    {descriptors : List (Option ImportDescriptor)} (small : index ≤ maxPeImportDescriptors)
    (room : processed ≤ maxPeImports) :
    readDescriptors table index processed names descriptors = .ok result ↔
      ∃ groups, List.Forall₂ table.Group descriptors groups ∧
        (∀ name ∈ groups.flatten, Supported name) ∧
        index + descriptors.length ≤ maxPeImportDescriptors ∧
        processed + groups.flatten.length ≤ maxPeImports ∧ result = names ++ groups.flatten := by
  induction descriptors generalizing index processed names with
  | nil =>
    rw [readDescriptors, Except.ok.injEq]
    constructor
    · rintro rfl
      exact ⟨[], .nil, by simp, small, by simpa using room, by simp⟩
    · rintro ⟨groups, listed, -, -, -, rfl⟩
      cases listed
      simp
  | cons entry descriptors ih =>
    rw [readDescriptors_cons, List.length_cons]
    constructor
    · rintro ⟨notLast, thunks, lists, ⟨processed', names'⟩, isNext, rest⟩
      obtain ⟨imports, named, supported, rfl, within, rfl⟩ := (readThunks_iff room).mp isNext
      obtain ⟨groups, listed, others, few, all, rfl⟩ := (ih (by omega) within).mp rest
      refine ⟨imports :: groups, .cons ⟨thunks, lists, named⟩ listed, ?_, by omega, ?_, ?_⟩
      · rw [List.flatten_cons]
        exact List.forall_mem_append.mpr ⟨supported, others⟩
      · rw [List.flatten_cons, List.length_append]
        omega
      · rw [List.flatten_cons, List.append_assoc]
    · rintro ⟨groups, listed, supported, few, all, rfl⟩
      cases listed with
      | cons group listed =>
        rename_i imports groups
        obtain ⟨thunks, lists, named⟩ := group
        rw [List.flatten_cons] at supported all ⊢
        rw [List.length_append] at all
        obtain ⟨here, others⟩ := List.forall_mem_append.mp supported
        refine ⟨by omega, thunks, lists, (processed + imports.length, names ++ imports),
          (readThunks_iff room).mpr ⟨imports, named, here, rfl, by omega, rfl⟩, ?_⟩
        refine (ih (by omega) (by show processed + imports.length ≤ _; omega)).mpr ?_
        refine ⟨groups, listed, others, by omega, ?_,
          by rw [List.flatten_cons, List.append_assoc]⟩
        show processed + imports.length + _ ≤ _
        omega

theorem extractNamedImports_iff {file : PeFile} {imports : List Bytes} :
    extractNamedImports file = .ok imports ↔
      file.Imports imports ∧ ∀ name ∈ imports, Supported name := by
  constructor
  · intro h
    unfold extractNamedImports at h
    split at h
    · cases h
    · rename_i isTable
      cases h
      exact ⟨.inl ⟨isTable, rfl⟩, by simp⟩
    · rename_i table isTable
      split at h
      · cases h
      · rename_i descriptors isList
        obtain ⟨groups, listed, supported, few, all, rfl⟩ :=
          (readDescriptors_iff (Nat.zero_le _) (Nat.zero_le _)).mp h
        rw [Nat.zero_add] at few all
        exact ⟨.inr ⟨table, descriptors, groups, isTable, isList, few, listed, rfl, all⟩, supported⟩
  · rintro ⟨⟨noTable, rfl⟩ | ⟨table, descriptors, groups, isTable, isList, few, listed, rfl, all⟩,
      supported⟩
    · simp only [extractNamedImports, noTable]
    · simp only [extractNamedImports, isTable, isList]
      refine (readDescriptors_iff (Nat.zero_le _) (Nat.zero_le _)).mpr ?_
      exact ⟨groups, listed, supported, by rwa [Nat.zero_add], by rwa [Nat.zero_add], rfl⟩

end Pe

/-! ## The producers -/

/-- What both producers come to: a reader that delivers supported imports, and the selection. -/
structure ImportReader {ε : Type} (errors : SelectionErrors ε) (platform : ScopePlatform)
    (format : ScopeFormat) (read : Except ε (List Bytes))
    (produce : Nat → Except ε ObservableBundle) : Prop where
  produces : ∀ index, produce index =
    match read with
    | .error e => .error e
    | .ok names => selectImport errors platform format names index
  supported : ∀ {names}, read = .ok names → ∀ name ∈ names, Supported name
  stopsEarly : read ≠ .error errors.canonicalization
  distinct : errors.noImports ≠ errors.canonicalization ∧
    errors.invalidSelection ≠ errors.canonicalization

namespace ImportReader

variable {ε : Type} {errors : SelectionErrors ε} {platform : ScopePlatform} {format : ScopeFormat}
variable {read : Except ε (List Bytes)} {produce : Nat → Except ε ObservableBundle}

theorem produce_of_read (h : ImportReader errors platform format read produce) {names : List Bytes}
    (isRead : read = .ok names) (index : Nat) :
    produce index = selectImport errors platform format names index := by
  rw [h.produces, isRead]

/-- Whatever is produced is canonical. -/
theorem isCanonical (h : ImportReader errors platform format read produce) {index : Nat}
    {bundle : ObservableBundle} (produced : produce index = .ok bundle) :
    bundle.toCanonicalBytes = .ok bundle.toVec := by
  rw [h.produces] at produced
  split at produced
  · cases produced
  · rename_i names
    have supported := h.supported rfl
    obtain ⟨name, mem, -, rfl⟩ := (selectImport_ok_iff errors supported).mp produced
    exact (supported name mem).toCanonicalBytes

theorem ne_canonicalization (h : ImportReader errors platform format read produce) (index : Nat) :
    produce index ≠ .error errors.canonicalization := by
  intro failed
  rw [h.produces] at failed
  split at failed
  · rename_i e
    exact h.stopsEarly (congrArg Except.error (Except.error.inj failed))
  · rename_i names
    rw [selectImport_eq errors (h.supported rfl)] at failed
    split at failed
    · cases failed
    · split_ifs at failed
      · exact h.distinct.1 (Except.error.inj failed)
      · exact h.distinct.2 (Except.error.inj failed)

/-- An artifact that the reader rejects is rejected for every index. -/
theorem rejects (h : ImportReader errors platform format read produce)
    (notRead : ∀ names, read ≠ .ok names) : ∃ e, ∀ index, produce index = .error e := by
  obtain ⟨e, isError⟩ := error_of_not_ok notRead
  refine ⟨e, fun index => ?_⟩
  rw [h.produces, isError]

end ImportReader

namespace Elf

/-- The part of the producer before the selection. -/
def readImports (parse : Bytes → Option File) (artifactBytes : Bytes) :
    Except ElfApiImportProducerError (List Bytes) :=
  if artifactBytes = [] then .error .invalidArtifact
  else if maxElfApiImportArtifactBytes < artifactBytes.length then .error .artifactTooLarge
  else
    match parse artifactBytes with
    | none => .error .invalidArtifact
    | some artifact =>
      if artifact.format ≠ .elf then .error .invalidArtifact
      else readSymbols 0 [] artifact.dynamicSymbols

variable {parse : Bytes → Option File} {artifact : Bytes} {names : List Bytes}

theorem readImports_iff : readImports parse artifact = .ok names ↔
    Delivers parse artifact names ∧ ∀ name ∈ names, Supported name := by
  rw [readImports, ite_error_eq_ok, ite_error_eq_ok, not_lt]
  constructor
  · rintro ⟨nonempty, bounded, h⟩
    split at h
    · cases h
    · rename_i file isFile
      obtain ⟨isElf, h⟩ := ite_error_eq_ok.mp h
      cases file with
      | elf symbols =>
        obtain ⟨few, readable, supported, rfl⟩ := (readSymbols_iff (Nat.zero_le _)).mp h
        rw [Nat.zero_add] at few
        exact ⟨⟨nonempty, bounded, symbols, isFile, few, readable, rfl⟩, supported⟩
      | pe32 file => exact (isElf nofun).elim
      | pe64 file => exact (isElf nofun).elim
      | other => exact (isElf nofun).elim
  · rintro ⟨⟨nonempty, bounded, symbols, isFile, few, readable, rfl⟩, supported⟩
    refine ⟨nonempty, bounded, ?_⟩
    simp only [isFile]
    refine ite_error_eq_ok.mpr ⟨fun notElf => notElf rfl, ?_⟩
    exact (readSymbols_iff (Nat.zero_le _)).mpr ⟨by rwa [Nat.zero_add], readable, supported, rfl⟩

theorem reader (parse : Bytes → Option File) (artifact : Bytes) :
    ImportReader selectionErrors .linux .elf (readImports parse artifact)
      (produceElfApiImportBundle parse artifact) where
  produces index := by
    unfold produceElfApiImportBundle readImports
    split_ifs
    · rfl
    · rfl
    · cases parse artifact with
      | none => rfl
      | some file =>
        dsimp only
        split_ifs
        · rfl
        · cases readSymbols 0 [] file.dynamicSymbols <;> rfl
  supported isRead := (readImports_iff.mp isRead).2
  stopsEarly failed := by
    unfold readImports at failed
    split_ifs at failed
    · cases failed
    · cases failed
    · split at failed
      · cases failed
      · split_ifs at failed
        · cases failed
        · exact readSymbols_ne_canonicalization failed
  distinct := ⟨nofun, nofun⟩

end Elf

namespace Pe

/-- The reader leaves the last error to the selection. -/
theorem readThunks_ne_canonicalization {table : ImportTable} {processed : Nat} {names : List Bytes}
    {thunks : List (Option Thunk)} :
    readThunks table processed names thunks ≠ .error .canonicalization := by
  induction thunks generalizing processed names with
  | nil => exact fun h => nomatch h
  | cons entry thunks ih =>
    intro h
    cases entry with
    | none => cases h
    | some thunk =>
      rw [readThunks] at h
      split_ifs at h
      · cases h
      · cases h
      · split at h
        · cases h
        · split_ifs at h
          · exact ih h
          · cases h

theorem firstThunk_ne_canonicalization {descriptor : ImportDescriptor} :
    firstThunk descriptor ≠ .error .canonicalization := by
  intro h
  unfold firstThunk at h
  dsimp only at h
  split_ifs at h <;> cases h

theorem readDescriptors_ne_canonicalization {table : ImportTable} {index processed : Nat}
    {names : List Bytes} {descriptors : List (Option ImportDescriptor)} :
    readDescriptors table index processed names descriptors ≠ .error .canonicalization := by
  induction descriptors generalizing index processed names with
  | nil => exact fun h => nomatch h
  | cons entry descriptors ih =>
    intro h
    cases entry with
    | none => cases h
    | some descriptor =>
      rw [readDescriptors] at h
      split_ifs at h
      · cases h
      · split at h
        · cases h
        · split_ifs at h
          · cases h
          · split at h
            · rename_i isError
              cases h
              exact firstThunk_ne_canonicalization isError
            · split at h
              · cases h
              · split at h
                · rename_i isError
                  cases h
                  exact readThunks_ne_canonicalization isError
                · exact ih h

/-- The part of the producer before the selection. -/
def readImports (parse : Bytes → Option File) (artifactBytes : Bytes) :
    Except PeApiImportProducerError (List Bytes) :=
  if artifactBytes = [] then .error .invalidArtifact
  else if maxPeApiImportArtifactBytes < artifactBytes.length then .error .artifactTooLarge
  else
    match parse artifactBytes with
    | some (.pe32 file) => extractNamedImports file
    | some (.pe64 file) => extractNamedImports file
    | _ => .error .invalidArtifact

variable {parse : Bytes → Option File} {artifact : Bytes} {names : List Bytes}

theorem readImports_iff : readImports parse artifact = .ok names ↔
    Delivers parse artifact names ∧ ∀ name ∈ names, Supported name := by
  rw [readImports, ite_error_eq_ok, ite_error_eq_ok, not_lt]
  constructor
  · rintro ⟨nonempty, bounded, h⟩
    split at h
    · rename_i file isFile
      obtain ⟨imports, supported⟩ := extractNamedImports_iff.mp h
      exact ⟨⟨nonempty, bounded, file, .inl isFile, imports⟩, supported⟩
    · rename_i file isFile
      obtain ⟨imports, supported⟩ := extractNamedImports_iff.mp h
      exact ⟨⟨nonempty, bounded, file, .inr isFile, imports⟩, supported⟩
    · cases h
  · rintro ⟨⟨nonempty, bounded, file, isFile, imports⟩, supported⟩
    refine ⟨nonempty, bounded, ?_⟩
    have extracted := extractNamedImports_iff.mpr ⟨imports, supported⟩
    rcases isFile with isFile | isFile
    · simp only [isFile, extracted]
    · simp only [isFile, extracted]

theorem reader (parse : Bytes → Option File) (artifact : Bytes) :
    ImportReader selectionErrors .windows .pe (readImports parse artifact)
      (producePeApiImportBundle parse artifact) where
  produces index := by
    unfold producePeApiImportBundle readImports
    split_ifs
    · rfl
    · rfl
    · cases parse artifact with
      | none => rfl
      | some file =>
        cases file with
        | elf symbols => rfl
        | other => rfl
        | pe32 file =>
          have isPe : ¬ (File.pe32 file).format ≠ .pe := not_not.mpr rfl
          dsimp only
          rw [if_neg isPe]
          cases extractNamedImports file <;> rfl
        | pe64 file =>
          have isPe : ¬ (File.pe64 file).format ≠ .pe := not_not.mpr rfl
          dsimp only
          rw [if_neg isPe]
          cases extractNamedImports file <;> rfl
  supported isRead := (readImports_iff.mp isRead).2
  stopsEarly failed := by
    have extracted (file : PeFile) :
        extractNamedImports file ≠ .error selectionErrors.canonicalization := by
      intro h
      unfold extractNamedImports at h
      split at h
      · cases h
      · cases h
      · split at h
        · cases h
        · exact readDescriptors_ne_canonicalization h
    unfold readImports at failed
    split_ifs at failed
    · cases failed
    · cases failed
    · split at failed
      · exact extracted _ failed
      · exact extracted _ failed
      · cases failed
  distinct := ⟨nofun, nofun⟩

end Pe

/-! ## The selection is recovered -/

/-- The bundle that the producer returns for a selection of bytes is taken by the reader, and its
value decodes to the selected bytes and the mask. -/
def RecoversSelection (fromSlice : Bytes → Option ObservableBundle) : Prop :=
  ∀ artifactBytes start wildcardMask platform format,
    Selectable artifactBytes start wildcardMask →
      ∃ value tokens,
        produceBytePatternBundle artifactBytes start wildcardMask platform format =
          .ok (.reviewRequired platform format .bytePattern value) ∧
        ObservableBundle.parseCanonical fromSlice
            (ObservableBundle.reviewRequired platform format .bytePattern value).toVec =
          .ok (.reviewRequired platform format .bytePattern value) ∧
        decodeBytePattern value = some tokens ∧ tokens.length = wildcardMask.length ∧
        ∀ (i : Nat) (wildcard : Bool), wildcardMask[i]? = some wildcard →
          tokens[i]? = some (if wildcard then none else artifactBytes.bytes[start + i]?)

/-- What a producer of imports does with the imports that the crate delivers. -/
structure RecoversImport {ε : Type} (fromSlice : Bytes → Option ObservableBundle)
    (produce : Bytes → Nat → Except ε ObservableBundle) (bundleOf : Bytes → ObservableBundle)
    (delivers : Bytes → List Bytes → Prop) (hasUnsupported : Bytes → Prop)
    (canonicalization : ε) : Prop where
  selects : ∀ {artifact names}, delivers artifact names → (∀ name ∈ names, Supported name) →
    ∀ index bundle, produce artifact index = .ok bundle ↔
      ∃ name ∈ names, rank asBytes names name = index ∧ bundle = bundleOf name
  inRange : ∀ {artifact names}, delivers artifact names → (∀ name ∈ names, Supported name) →
    ∀ index, (∃ bundle, produce artifact index = .ok bundle) ↔ index < names.toFinset.card
  orderFree : ∀ {artifact artifact' names names'}, delivers artifact names →
    delivers artifact' names' → (∀ name ∈ names, Supported name) →
    (∀ name, name ∈ names ↔ name ∈ names') →
      ∀ index, produce artifact index = produce artifact' index
  accepted : ∀ {artifact index bundle}, produce artifact index = .ok bundle →
    ObservableBundle.parseCanonical fromSlice bundle.toVec = .ok bundle
  neverLate : ∀ artifact index, produce artifact index ≠ .error canonicalization
  rejects : ∀ {artifact}, hasUnsupported artifact → ∃ e, ∀ index, produce artifact index = .error e

/-- A reader that reads exactly what the crate delivers gives such a producer. -/
theorem recoversImport_of_reader {ε : Type} {errors : SelectionErrors ε} {platform : ScopePlatform}
    {format : ScopeFormat} {read : Bytes → Except ε (List Bytes)}
    {produce : Bytes → Nat → Except ε ObservableBundle} {delivers : Bytes → List Bytes → Prop}
    {hasUnsupported : Bytes → Prop} {fromSlice : Bytes → Option ObservableBundle}
    (readsBack : ObservableBundle.ReadsBack fromSlice)
    (reader : ∀ artifact,
      ImportReader errors platform format (read artifact) (produce artifact))
    (read_iff : ∀ {artifact names}, read artifact = .ok names ↔
      delivers artifact names ∧ ∀ name ∈ names, Supported name)
    (notRead : ∀ {artifact}, hasUnsupported artifact → ∀ names, read artifact ≠ .ok names) :
    RecoversImport fromSlice produce (importBundle platform format) delivers hasUnsupported
      errors.canonicalization where
  selects isDelivered supported index bundle := by
    rw [(reader _).produce_of_read (read_iff.mpr ⟨isDelivered, supported⟩)]
    exact selectImport_ok_iff errors supported
  inRange isDelivered supported index := by
    rw [(reader _).produce_of_read (read_iff.mpr ⟨isDelivered, supported⟩)]
    exact selectImport_inRange errors supported
  orderFree isDelivered isDelivered' supported same index := by
    have supported' := fun name mem => supported name ((same name).mpr mem)
    rw [(reader _).produce_of_read (read_iff.mpr ⟨isDelivered, supported⟩),
      (reader _).produce_of_read (read_iff.mpr ⟨isDelivered', supported'⟩)]
    exact selectImport_congr errors same index
  accepted produced := ObservableBundle.parseCanonical_toVec readsBack ((reader _).isCanonical produced)
  neverLate artifact index := (reader artifact).ne_canonicalization index
  rejects unsupported := (reader _).rejects (notRead unsupported)

theorem Elf.notRead {parse : Bytes → Option File} {artifact : Bytes}
    (h : Elf.HasUnsupported parse artifact) (names : List Bytes) :
    Elf.readImports parse artifact ≠ .ok names := by
  obtain ⟨symbols, isFile, symbol, mem, name, isImport, unsupported⟩ := h
  intro isRead
  obtain ⟨⟨-, -, symbols', isFile', -, -, rfl⟩, supported⟩ := Elf.readImports_iff.mp isRead
  cases isFile.symm.trans isFile'
  exact unsupported (supported name (List.mem_filterMap.mpr ⟨symbol, mem, isImport⟩))

/-- Every entry of the first list has a partner in the second. -/
theorem exists_of_forall₂ {α β : Type} {r : α → β → Prop} {as : List α} {bs : List β}
    (h : List.Forall₂ r as bs) {a : α} (mem : a ∈ as) : ∃ b ∈ bs, r a b := by
  induction h with
  | nil => cases mem
  | cons related _ ih =>
    rcases List.mem_cons.mp mem with rfl | mem
    · exact ⟨_, List.mem_cons_self, related⟩
    · obtain ⟨b, hb, related⟩ := ih mem
      exact ⟨b, List.mem_cons_of_mem _ hb, related⟩

theorem Pe.notRead {parse : Bytes → Option File} {artifact : Bytes}
    (h : Pe.HasUnsupported parse artifact) (names : List Bytes) :
    Pe.readImports parse artifact ≠ .ok names := by
  obtain ⟨file, table, descriptors, isFile, isTable, isList, entry, memEntry, thunks, lists, thunk,
    memThunk, unsupported⟩ := h
  intro isRead
  obtain ⟨⟨-, -, file', isFile', imports⟩, supported⟩ := Pe.readImports_iff.mp isRead
  have same : file' = file := by
    rcases isFile with isFile | isFile <;> rcases isFile' with isFile' | isFile' <;>
      cases isFile.symm.trans isFile'
    · rfl
    · rfl
  subst same
  rcases imports with ⟨noTable, -⟩ | ⟨table', descriptors', groups, isTable', isList', -, listed, rfl, -⟩
  · cases isTable.symm.trans noTable
  cases isTable.symm.trans isTable'
  cases isList.symm.trans isList'
  obtain ⟨group, memGroup, thunks', lists', named⟩ := exists_of_forall₂ listed memEntry
  have sameThunks : thunks' = thunks := by
    obtain ⟨descriptor, _, address, rfl, -, -, isAddress, isThunks⟩ := lists
    obtain ⟨descriptor', _, address', same, -, -, isAddress', isThunks'⟩ := lists'
    cases same
    cases isAddress.symm.trans isAddress'
    exact Option.some.inj (isThunks'.symm.trans isThunks)
  subst sameThunks
  obtain ⟨name, memName, thunk', same, byName, isName⟩ := exists_of_forall₂ named memThunk
  cases same
  rcases unsupported with isOrdinal | ⟨name', isName', unsupported⟩
  · rw [byName] at isOrdinal
    cases isOrdinal
  · cases isName.symm.trans isName'
    exact unsupported (supported name (List.mem_flatten.mpr ⟨group, memGroup, memName⟩))

theorem observable_producers_recover {fromSlice : Bytes → Option ObservableBundle}
    (readsBack : ObservableBundle.ReadsBack fromSlice) (parse : Bytes → Option File) :
    RecoversSelection fromSlice ∧
    RecoversImport fromSlice (Elf.produceElfApiImportBundle parse) (importBundle .linux .elf)
      (Elf.Delivers parse) (Elf.HasUnsupported parse) .canonicalization ∧
    RecoversImport fromSlice (Pe.producePeApiImportBundle parse) (importBundle .windows .pe)
      (Pe.Delivers parse) (Pe.HasUnsupported parse) .canonicalization := by
  refine ⟨?_, ?_, ?_⟩
  · intro artifactBytes start wildcardMask platform format selectable
    obtain ⟨value, produced, accepted, decoded⟩ := selectable.bundle readsBack platform format
    exact ⟨value, _, produced, accepted, decoded, selectable.length_selection,
      fun i wildcard isMask => selectable.getElem?_selection isMask⟩
  · exact recoversImport_of_reader readsBack (Elf.reader parse) Elf.readImports_iff Elf.notRead
  · exact recoversImport_of_reader readsBack (Pe.reader parse) Pe.readImports_iff Pe.notRead

/-! ## An ELF artifact -/

/-- A section header of a 64-bit ELF file, without flags and without an address. -/
def sectionHeader (name type offset size link info alignment entrySize : Nat) : Bytes :=
  toBytesLittle 4 name ++ toBytesLittle 4 type ++ List.replicate 16 0 ++ toBytesLittle 8 offset ++
    toBytesLittle 8 size ++ toBytesLittle 4 link ++ toBytesLittle 4 info ++
    toBytesLittle 8 alignment ++ toBytesLittle 8 entrySize

/-- An undefined global function of the dynamic symbol table. -/
def undefinedSymbol (nameOffset : Nat) : Bytes :=
  toBytesLittle 4 nameOffset ++ [0x12] ++ List.replicate 19 0

/-- A shared object whose dynamic symbol table imports `mmap`, `close` and `mmap` again. -/
def elfFixture : Bytes :=
  [0x7f, 69, 76, 70, 2, 1, 1] ++ List.replicate 9 0 ++ toBytesLittle 2 3 ++ toBytesLittle 2 62 ++
    toBytesLittle 4 1 ++ List.replicate 16 0 ++ toBytesLittle 8 216 ++ toBytesLittle 4 0 ++
    toBytesLittle 2 64 ++ toBytesLittle 2 56 ++ toBytesLittle 2 0 ++ toBytesLittle 2 64 ++
    toBytesLittle 2 4 ++ toBytesLittle 2 3 ++
    ([0] ++ ascii "mmap" ++ [0] ++ ascii "close" ++ [0] ++ ascii "mmap" ++ [0]) ++
    List.replicate 7 0 ++
    (List.replicate 24 0 ++ undefinedSymbol 1 ++ undefinedSymbol 6 ++ undefinedSymbol 12) ++
    ([0] ++ ascii ".dynstr" ++ [0] ++ ascii ".dynsym" ++ [0] ++ ascii ".shstrtab" ++ [0]) ++
    List.replicate 5 0 ++ List.replicate 64 0 ++ sectionHeader 1 3 64 17 0 0 1 0 ++
    sectionHeader 9 11 88 96 1 1 8 24 ++ sectionHeader 17 3 184 27 0 0 1 0

/-- The imports of the fixture. -/
def fixtureImports : List Bytes := [ascii "mmap", ascii "close", ascii "mmap"]

/-- What the crate reads in the fixture. -/
def parseFixture (artifact : Bytes) : Option File :=
  if artifact = elfFixture then
    some (.elf (fixtureImports.map fun name => { isUndefined := true, nameBytes := some name }))
  else none

theorem length_elfFixture : elfFixture.length = 472 := by decide +kernel

/-- The bytes of the fixture. -/
def elfSlice : Slice where
  bytes := elfFixture
  fits := by
    rw [length_elfFixture]
    decide

theorem observable_producers_recover_elf :
    (∃ value tokens,
      produceBytePatternBundle elfSlice 0 (true :: List.replicate 8 false) .linux .elf =
        .ok (.reviewRequired .linux .elf .bytePattern value) ∧
      decodeBytePattern value = some tokens ∧ tokens.length = 9 ∧ tokens[0]? = some none ∧
        tokens[3]? = some (some 70)) ∧
    Elf.produceElfApiImportBundle parseFixture elfFixture 0 =
      .ok (importBundle .linux .elf (ascii "close")) ∧
    Elf.produceElfApiImportBundle parseFixture elfFixture 1 =
      .ok (importBundle .linux .elf (ascii "mmap")) ∧
    ¬ ∃ bundle, Elf.produceElfApiImportBundle parseFixture elfFixture 2 = .ok bundle := by
  obtain ⟨pattern, elf, -⟩ :=
    observable_producers_recover observableBundleReader_readsBack parseFixture
  have isDelivered : Elf.Delivers parseFixture elfFixture fixtureImports := by
    have nonempty : 0 < elfFixture.length := by simp only [length_elfFixture, Nat.ofNat_pos]
    refine ⟨List.ne_nil_of_length_pos nonempty, ?_, _, if_pos rfl, by decide, ?_, by decide⟩
    · rw [length_elfFixture]
      decide
    · rw [List.forall_mem_map]
      exact fun name _ _ => nofun
  have supported : ∀ name ∈ fixtureImports, Supported name := by
    have each : ∀ name ∈ fixtureImports, isSupportedImport name = true := by decide
    exact fun name mem => isSupportedImport_iff.mp (each name mem)
  have selects := elf.selects isDelivered supported
  have selectable : Selectable elfSlice 0 (true :: List.replicate 8 false) := by
    refine ⟨by decide, by decide, ?_⟩
    show 9 ≤ elfFixture.length
    rw [length_elfFixture]
    decide
  refine ⟨?_, ?_, ?_, ?_⟩
  · obtain ⟨value, tokens, produced, -, decoded, length, each⟩ :=
      pattern _ _ _ .linux .elf selectable
    exact ⟨value, tokens, produced, decoded, length, each 0 true rfl, (each 3 false rfl).trans rfl⟩
  · exact (selects 0 _).mpr ⟨ascii "close", by decide, by decide, rfl⟩
  · exact (selects 1 _).mpr ⟨ascii "mmap", by decide, by decide, rfl⟩
  · rw [elf.inRange isDelivered supported]
    decide

end Prometheus.ThreatHint.Rust
