import Prometheus.Codec.Bytes
import Prometheus.Machine.Threads

/-!
# The quarantine vault

`QuarantineVault` of `modules/client/src/security/quarantine.rs` on the directory of its root: names
that lead to files, and a file that several names can lead to. A statement with an effect on the
directory is one operation; between two of them other calls can run and the process can be killed,
and what the operations before did stays. Nobody else touches the directory, so every entry is a
regular file with mode 0600 and no operation fails for a reason of its own. A call is told the
process id and the counter that its temporary name is made of; no two running calls have the same.
SHA-256 is a parameter.
-/

namespace Prometheus.Client.Quarantine

open Prometheus.Codec Prometheus.Machine

/-- `MAX_ITEM_LEN`. -/
def maxItemLen : Nat := 16 * 1024 * 1024

/-- `QuarantineRecord`. -/
structure QuarantineRecord where
  digest : Bytes
  len : Nat
  deriving DecidableEq, Repr

/-! ## The directory -/

/-- `std::process::id()` and the value of `TMP_NAME_COUNTER`. -/
abbrev Token := Nat × Nat

/-- A name in the vault root. -/
inductive Name
  | item (digest : Bytes)
  | temp (token : Token)
  deriving DecidableEq, Repr

/-- The directory: which file each name leads to, the content of each file, and the number of the
next file. -/
structure Vault where
  names : List (Name × Nat)
  contents : Nat → Bytes
  next : Nat

/-- The file a name leads to. -/
def Vault.lookup (w : Vault) (name : Name) : Option Nat :=
  (w.names.find? fun entry => entry.1 = name).map Prod.snd

/-- `nlink` of a file. -/
def Vault.links (w : Vault) (file : Nat) : Nat :=
  (w.names.filter fun entry => entry.2 = file).length

/-- A vault that was just created. -/
def Vault.empty : Vault := ⟨[], fun _ => [], 0⟩

inductive LinkResult
  | ok
  | alreadyExists
  | notFound
  deriving DecidableEq, Repr

structure Metadata where
  nlink : Nat
  len : Nat
  deriving DecidableEq, Repr

/-- The operations on the directory. -/
inductive Op
  /-- Whether `symlink_metadata` finds the name. -/
  | exists (name : Name)
  /-- `open` with `create_new`. -/
  | create (name : Name)
  /-- One `write` of `write_all`. -/
  | write (file : Nat) (bytes : Bytes)
  /-- `File::sync_all`. -/
  | sync (file : Nat)
  | hardLink (original link : Name)
  | syncRoot
  | removeFile (name : Name)
  /-- `symlink_metadata` of `inspect_item`; its caller makes `retries` more attempts when the
  inspection fails, which the directory does not see. -/
  | metadata (name : Name) (retries : Nat)
  | openFile (name : Name)
  | readToEnd (file : Nat)
  deriving DecidableEq, Repr

/-- What an operation answers; `none` and `false` where it fails. -/
def Op.Answer : Op → Type
  | .exists _ => Bool
  | .create _ => Option Nat
  | .write _ _ => Nat
  | .hardLink _ _ => LinkResult
  | .removeFile _ => Bool
  | .metadata _ _ => Option Metadata
  | .openFile _ => Option Nat
  | .readToEnd _ => Bytes
  | _ => Unit

/-- How many bytes a `write` takes: as many as the system chooses, but at least one. -/
def written (c : Nat) (bytes : Bytes) : Nat := min (c + 1) bytes.length

/-- Perform one operation. -/
def exec : (op : Op) → Nat → Vault → Vault × op.Answer
  | .exists name, _, w => (w, (w.lookup name).isSome)
  | .create name, _, w =>
    match w.lookup name with
    | some _ => (w, none)
    | none =>
      (⟨w.names ++ [(name, w.next)], Function.update w.contents w.next [], w.next + 1⟩, some w.next)
  | .write file bytes, c, w =>
    ({ w with contents :=
        Function.update w.contents file (w.contents file ++ bytes.take (written c bytes)) },
      written c bytes)
  | .sync _, _, w => (w, ())
  | .hardLink original link, _, w =>
    match w.lookup original, w.lookup link with
    | none, _ => (w, .notFound)
    | some _, some _ => (w, .alreadyExists)
    | some file, none => ({ w with names := w.names ++ [(link, file)] }, .ok)
  | .syncRoot, _, w => (w, ())
  | .removeFile name, _, w =>
    ({ w with names := w.names.filter fun entry => entry.1 ≠ name }, (w.lookup name).isSome)
  | .metadata name _, _, w =>
    (w, (w.lookup name).map fun file => ⟨w.links file, (w.contents file).length⟩)
  | .openFile name, _, w => (w, w.lookup name)
  | .readToEnd file, _, w => (w, (w.contents file).take (maxItemLen + 1))

/-! ## The calls -/

/-- A method of the vault; `throw` is `bail!`. -/
abbrev Process := ExceptT String (Program Op Op.Answer)

/-- One operation. -/
def request (op : Op) : Process op.Answer := ExceptT.mk (.call op fun answer => .ret (.ok answer))

/-- `if ! condition { bail!(…) }`. -/
def ensure (condition : Bool) (error : String) : Process Unit :=
  if condition then pure () else throw error

/-- `inspect_item`. -/
def inspectItem (name : Name) (retries : Nat) : Process Metadata := do
  let found : Option Metadata ← request (.metadata name retries)
  match found with
  | none => throw "failed to inspect quarantine entry metadata"
  | some metadata => do
    ensure (decide (metadata.nlink = 1)) "quarantine entry must not be hard-linked"
    return metadata

variable (sha256 : Bytes → Bytes)

/-- `QuarantineVault::read`. -/
def read (record : QuarantineRecord) (retries : Nat) : Process Bytes := do
  ensure (decide (record.len ≤ maxItemLen)) "quarantine record exceeds the 16 MiB limit"
  let metadata ← inspectItem (.item record.digest) retries
  ensure (decide (metadata.len = record.len)) "quarantine entry length mismatch"
  let opened : Option Nat ← request (.openFile (.item record.digest))
  match opened with
  | none => throw "failed to open quarantine entry"
  | some file => do
    let bytes : Bytes ← request (.readToEnd file)
    ensure (decide (bytes.length = record.len)) "quarantine entry length changed while reading"
    ensure (decide (sha256 bytes = record.digest)) "quarantine entry digest mismatch"
    return bytes

/-- The attempts of `verify_duplicate` that are left, and the last error. -/
def attempts (record : QuarantineRecord) : Nat → Option String → Process Unit
  | 0, some error => throw error
  | 0, none => throw "duplicate verification failed"
  | n + 1, _ => ExceptT.mk do
    match ← (read sha256 record n).run with
    | .ok _ => pure (.ok ())
    | .error error => (attempts record n (some error)).run

/-- `verify_duplicate`. -/
def verifyDuplicate (record : QuarantineRecord) : Process Unit := attempts sha256 record 4 none

/-- `write_all`: a `write` takes at least one byte, so there are at most as many as bytes. -/
def writeAll (file : Nat) : Nat → Bytes → Process Unit
  | 0, _ => pure ()
  | fuel + 1, bytes =>
    if bytes = [] then pure ()
    else do
      let written : Nat ← request (.write file bytes)
      writeAll file fuel (bytes.drop written)

/-- `write_and_publish`. -/
def writeAndPublish (token : Token) (bytes : Bytes) (record : QuarantineRecord) :
    Process Unit := do
  let created : Option Nat ← request (.create (.temp token))
  match created with
  | none => throw "failed to create quarantine temporary file"
  | some file => do
    writeAll file bytes.length bytes
    request (.sync file)
    let linked : LinkResult ← request (.hardLink (.temp token) (.item record.digest))
    match linked with
    | .ok => request .syncRoot
    | .alreadyExists => verifyDuplicate sha256 record
    | .notFound => throw "failed to publish quarantine entry"

/-- The record of the bytes. -/
def recordOf (bytes : Bytes) : QuarantineRecord := ⟨sha256 bytes, bytes.length⟩

/-- `store` from the creation of the temporary file on. -/
def publish (token : Token) (bytes : Bytes) (record : QuarantineRecord) :
    Process QuarantineRecord := ExceptT.mk do
  match ← (writeAndPublish sha256 token bytes record).run with
  | .error error => do
    let _ ← (request (.removeFile (.temp token))).run
    pure (.error error)
  | .ok () => ExceptT.run do
    let removed : Bool ← request (.removeFile (.temp token))
    ensure removed "failed to clean quarantine temporary file"
    request .syncRoot
    return record

/-- `QuarantineVault::store`. -/
def store (token : Token) (bytes : Bytes) : Process QuarantineRecord := do
  ensure (decide (bytes.length ≤ maxItemLen)) "quarantine item exceeds the 16 MiB limit"
  let record := recordOf sha256 bytes
  let isDuplicate : Bool ← request (.exists (.item record.digest))
  if isDuplicate then do
    verifyDuplicate sha256 record
    return record
  else publish sha256 token bytes record

/-! ## The machine -/

/-- A call of the vault. -/
inductive Call
  | store (bytes : Bytes)
  | read (record : QuarantineRecord)
  deriving DecidableEq, Repr

/-- What a call returns. -/
inductive Returned
  | record (record : QuarantineRecord)
  | bytes (bytes : Bytes)
  deriving DecidableEq, Repr

/-- The program of a call. -/
def program (token : Token) : Call → Program Op Op.Answer (Except String Returned)
  | .store bytes => ExceptT.run do return .record (← store sha256 token bytes)
  | .read record => ExceptT.run do return .bytes (← read sha256 record 0)

abbrev VaultHost := Threads Token Call Vault Op Op.Answer (Except String Returned)

/-- One signal: a call is started, performs its next operation, returns or is killed. -/
def step : ThreadSignal Token Call Nat → VaultHost →
    ThreadOutput Token Op (Except String Returned) × VaultHost :=
  Threads.step exec (program sha256)

abbrev VaultEvent :=
  Threads.ThreadEvent Token Call Vault Nat Op Op.Answer (Except String Returned)

/-- An empty vault that nobody uses. -/
def Unused (host : VaultHost) : Prop := host = ⟨Vault.empty, fun _ => none⟩

end Prometheus.Client.Quarantine
