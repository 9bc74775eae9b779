import Prometheus.Codec.Sha256
import Prometheus.Jaeger.Membership.Ledger

/-!
# Atomic updates

A call that raises leaves every table as it was, whatever the file. A file of version 1 is migrated
with all it says, or left alone.
-/

namespace Prometheus.Jaeger.Membership

open Prometheus.Codec Prometheus.Machine

variable {codec : MembershipCodec} {policy : AuthorityPolicy codec} {db db' : LedgerFile} {u : Unit}

/-! ## Calls that raise -/

@[simp] theorem require_ok {p : LedgerFile → Bool} :
    require p db = .ok (u, db') ↔ p db = true ∧ db' = db := by
  simp only [require, Tx.bind_ok, Tx.query_ok, Tx.ensure_ok]
  constructor
  · rintro ⟨_, _, ⟨rfl, rfl⟩, holds, same⟩
    exact ⟨holds, same⟩
  · rintro ⟨holds, same⟩
    exact ⟨_, _, ⟨rfl, rfl⟩, holds, same⟩

/-- A transaction that raises leaves the file alone; one that returns met no fault. -/
theorem runTransaction_cases (raises : Failure MembershipError → MembershipError)
    (fault : Option Bool) (body : LedgerTx Unit) (db : LedgerFile) :
    (∃ e, runTransaction raises fault body db = (.error e, db)) ∨
      ∃ db', runTransaction raises fault body db = (.ok (), db') ∧ fault = none ∧
        body db = .ok ((), db') := by
  unfold runTransaction
  cases fault with
  | some busy => exact .inl ⟨_, rfl⟩
  | none =>
    rcases outcome : transact body db with ⟨result, db'⟩
    cases result with
    | ok u => exact .inr ⟨db', rfl, rfl, transact_ok.mp outcome⟩
    | error failure =>
      obtain rfl := transact_error outcome
      exact .inl ⟨_, rfl⟩

/-- Opening raises and changes nothing, or its transaction has returned. -/
theorem openAuthority_cases (policy : AuthorityPolicy codec) (bootstrapFile : Option Bytes)
    (fault : Option Bool) (db : LedgerFile) :
    (∃ e, openAuthority policy bootstrapFile fault db = (.error e, db)) ∨
      ∃ bootstrap db', openAuthority policy bootstrapFile fault db = (.ok (), db') ∧ fault = none ∧
        loadBootstrap policy bootstrapFile = .ok bootstrap ∧
        initializeLedger policy bootstrap db = .ok ((), db') := by
  unfold openAuthority
  cases loaded : loadBootstrap policy bootstrapFile with
  | error e => exact .inl ⟨e, rfl⟩
  | ok bootstrap =>
    rcases runTransaction_cases openError fault (initializeLedger policy bootstrap) db with
      ⟨e, raised⟩ | ⟨db', returned, faultless, opened⟩
    · exact .inl ⟨e, raised⟩
    · exact .inr ⟨bootstrap, db', returned, faultless, rfl, opened⟩

/-- What a transition returns. -/
def transitionReceipt (transition : ParsedTransition) (nowMs : Int) : TransitionReceipt :=
  ⟨transition.transitionId, transition.nextEpoch, transition.nextSourceDigest, nowMs⟩

/-- `apply_transition` raises and changes nothing, or its transaction has returned. -/
theorem applyTransition_cases (policy : AuthorityPolicy codec) (wire : Bytes)
    (nextSourceFile : Option Bytes) (nowMs : Int) (fault : Option Bool) (db : LedgerFile) :
    (∃ e, applyTransition policy wire nextSourceFile nowMs fault db = (.error e, db)) ∨
      ∃ transition nextSource db',
        applyTransition policy wire nextSourceFile nowMs fault db =
          (.ok (transitionReceipt transition nowMs), db') ∧
        admitTransition policy wire nextSourceFile nowMs = .ok (transition, nextSource) ∧
        applyTransaction policy transition nextSource nowMs db = .ok ((), db') := by
  unfold applyTransition
  cases admitted : admitTransition policy wire nextSourceFile nowMs with
  | error e => exact .inl ⟨e, rfl⟩
  | ok parsed =>
    obtain ⟨transition, nextSource⟩ := parsed
    rcases runTransaction_cases applyError fault
      (applyTransaction policy transition nextSource nowMs) db with
      ⟨e, raised⟩ | ⟨db', returned, -, applied⟩
    · exact .inl ⟨e, by simp only [raised]⟩
    · exact .inr ⟨transition, nextSource, db', by simp only [returned]; rfl, rfl, applied⟩

/-- What a rotation returns. -/
def rotationReceipt (rotation : ParsedAuthorityRotation) (nowMs : Int) : RotationReceipt :=
  ⟨rotation.rotationId, rotation.nextAuthorityEpoch, rotation.nextAuthorityKey, nowMs⟩

/-- `rotate_authority` raises and changes nothing, or its transaction has returned. -/
theorem rotateAuthority_cases (policy : AuthorityPolicy codec) (wire : Bytes) (nowMs : Int)
    (fault : Option Bool) (db : LedgerFile) :
    (∃ e, rotateAuthority policy wire nowMs fault db = (.error e, db)) ∨
      ∃ rotation db',
        rotateAuthority policy wire nowMs fault db =
          (.ok (rotationReceipt rotation nowMs), db') ∧
        admitRotation policy wire nowMs = .ok rotation ∧
        rotateTransaction policy rotation nowMs db = .ok ((), db') := by
  unfold rotateAuthority
  cases admitted : admitRotation policy wire nowMs with
  | error e => exact .inl ⟨e, rfl⟩
  | ok rotation =>
    rcases runTransaction_cases rotateError fault (rotateTransaction policy rotation nowMs) db with
      ⟨e, raised⟩ | ⟨db', returned, -, rotated⟩
    · exact .inl ⟨e, by simp only [raised]⟩
    · exact .inr ⟨rotation, db', by simp only [returned]; rfl, rfl, rotated⟩

/-! ## The migration -/

/-- The new table has the rows of the old one, and no other table changes. -/
theorem copyTransitions_ok (h : copyTransitions db = .ok (u, db')) :
    db'.rows .membershipTransitions = (db.rows .membershipTransitions).map copyTransition ∧
      ∀ name, name ≠ .membershipTransitions → name ≠ .membershipTransitionsV1 →
        db'.rows name = db.rows name := by
  simp only [copyTransitions, createMembershipTransitionsTable, Tx.bind_ok, Sql.renameTable_ok,
    Sql.createTable_ok, Sql.select_ok, Sql.dropTable_ok] at h
  obtain ⟨_, db₁, ⟨old, isOld, -, rfl⟩, _, db₂, ⟨-, rfl⟩, rows, _, ⟨renamed, isRenamed, rfl, rfl⟩, _,
    db₃, inserted, -, rfl⟩ := h
  rw [Database.set_of_ne _ (by decide), Database.set_self] at isRenamed
  obtain rfl := Option.some.inj isRenamed
  have copied := Sql.insertAll_writes inserted
  constructor
  · rw [Database.rows_set_of_ne _ (by decide), copied.rows, Database.rows_set_self,
      Database.rows_of_some isOld, List.filter_true]
    rfl
  · intro name new oldName
    rw [Database.rows_set_of_ne _ oldName, copied.frame name new, Database.rows_set_of_ne _ new,
      Database.rows_set_of_ne _ oldName, Database.rows_set_of_ne _ new]

theorem createAuthorityRotationTables_ok (h : createAuthorityRotationTables db = .ok (u, db')) :
    db'.rows .currentAuthority = [] ∧ db'.rows .authorityKeyHistory = [] ∧
      db'.rows .authorityRotations = [] ∧
      ∀ name, name ≠ .currentAuthority → name ≠ .authorityKeyHistory → name ≠ .authorityRotations →
        db'.rows name = db.rows name := by
  simp only [createAuthorityRotationTables, Tx.bind_ok, Sql.createTable_ok] at h
  obtain ⟨_, db₁, ⟨-, rfl⟩, _, db₂, ⟨-, rfl⟩, -, rfl⟩ := h
  refine ⟨?_, ?_, Database.rows_set_self .., ?_⟩
  · rw [Database.rows_set_of_ne _ (by decide), Database.rows_set_of_ne _ (by decide),
      Database.rows_set_self]
    rfl
  · rw [Database.rows_set_of_ne _ (by decide), Database.rows_set_self]
    rfl
  · intro name authority history rotations
    rw [Database.rows_set_of_ne _ rotations, Database.rows_set_of_ne _ history,
      Database.rows_set_of_ne _ authority]

theorem insertGenesisAuthority_ok (h : insertGenesisAuthority policy db = .ok (u, db')) :
    db'.rows .currentAuthority =
        db.rows .currentAuthority ++ [currentAuthorityRow 0 policy.authorityXonlyPublicKey] ∧
      db'.rows .authorityKeyHistory =
        db.rows .authorityKeyHistory ++ [keyRow 0 policy.authorityXonlyPublicKey] ∧
      ∀ name, name ≠ .currentAuthority → name ≠ .authorityKeyHistory →
        db'.rows name = db.rows name := by
  obtain ⟨_, db₁, first, second⟩ := Tx.bind_ok.mp h
  have authority := Sql.insert_writes first
  have history := Sql.insert_writes second
  refine ⟨?_, ?_, ?_⟩
  · rw [history.frame _ (by decide), authority.rows]
  · rw [history.rows, authority.frame _ (by decide)]
  · intro name notAuthority notHistory
    rw [history.frame name notHistory, authority.frame name notAuthority]

/-- A transition of version 1 and the row it becomes: every column the same, and the authority that
the file was created with. -/
structure SameTransition (old new : LedgerRow) : Prop where
  columns : ∀ column ∈ expectedTransitionsV1.map Column.name, new column = old column
  authority : new .authorityEpoch = .integer 0

theorem sameTransition_copy (row : LedgerRow) : SameTransition row (copyTransition row) where
  columns column isColumn := by
    simp only [expectedTransitionsV1, List.map_cons, List.map_nil, List.mem_cons,
      List.not_mem_nil, or_false] at isColumn
    rcases isColumn with rfl | rfl | rfl | rfl | rfl | rfl | rfl | rfl | rfl | rfl <;> rfl
  authority := rfl

/-- What a migration carries over. -/
structure Migrated (policy : AuthorityPolicy codec) (db db' : LedgerFile) : Prop where
  before : isValidV1Ledger policy db = true
  version : db'.userVersion = 2
  after : isValidLedger policy db' = true
  bootstrap : db'.rows .membershipAuthority = db.rows .membershipAuthority
  membership : db'.rows .currentMembership = db.rows .currentMembership
  clock : db'.rows .membershipClock = db.rows .membershipClock
  transitions :
    (db.rows .membershipTransitions).Forall₂ SameTransition (db'.rows .membershipTransitions)
  authority :
    db'.rows .currentAuthority = [currentAuthorityRow 0 policy.authorityXonlyPublicKey]
  keys : db'.rows .authorityKeyHistory = [keyRow 0 policy.authorityXonlyPublicKey]
  rotations : db'.rows .authorityRotations = []

theorem migrateV1Ledger_ok (h : migrateV1Ledger policy db = .ok (u, db'))
    (after : isValidLedger policy db' = true) : Migrated policy db db' := by
  simp only [migrateV1Ledger, Tx.bind_ok, require_ok, Sql.setUserVersion_ok] at h
  obtain ⟨_, db₀, ⟨before, unread⟩, _, db₁, copied, _, db₂, created, _, db₃, inserted, rfl⟩ := h
  rw [unread] at copied
  obtain ⟨transitions, kept⟩ := copyTransitions_ok copied
  obtain ⟨noAuthority, noKey, noRotation, others⟩ := createAuthorityRotationTables_ok created
  obtain ⟨authority, keys, rest⟩ := insertGenesisAuthority_ok inserted
  have same (name : TableName) (notAuthority : name ≠ .currentAuthority)
      (notKeys : name ≠ .authorityKeyHistory) (notRotations : name ≠ .authorityRotations) :
      db₃.rows name = db₁.rows name := by
    rw [rest name notAuthority notKeys, others name notAuthority notKeys notRotations]
  refine ⟨before, rfl, after, ?_, ?_, ?_, ?_, ?_, ?_, ?_⟩
  · exact (same _ (by decide) (by decide) (by decide)).trans (kept _ (by decide) (by decide))
  · exact (same _ (by decide) (by decide) (by decide)).trans (kept _ (by decide) (by decide))
  · exact (same _ (by decide) (by decide) (by decide)).trans (kept _ (by decide) (by decide))
  · have copies := (same _ (by decide) (by decide) (by decide)).trans transitions
    show (db.rows .membershipTransitions).Forall₂ SameTransition (db₃.rows .membershipTransitions)
    rw [copies, List.forall₂_map_right_iff, List.forall₂_same]
    intro row _
    exact sameTransition_copy row
  · exact authority.trans (by rw [noAuthority, List.nil_append])
  · exact keys.trans (by rw [noKey, List.nil_append])
  · exact (rest _ (by decide) (by decide)).trans noRotation

/-- The stages of an opening that returns. -/
theorem initializeLedger_ok {bootstrap : GuardianMembershipSource}
    (h : initializeLedger policy bootstrap db = .ok (u, db')) :
    isValidLedger policy db' = true ∧
      (db.userVersion = 0 ∧ createSchema policy bootstrap db = .ok ((), db') ∨
        db.userVersion = 1 ∧ migrateV1Ledger policy db = .ok ((), db') ∨
        db.userVersion = 2 ∧ db' = db) := by
  simp only [initializeLedger, Tx.bind_ok, Sql.userVersion_ok, require_ok] at h
  obtain ⟨_, _, ⟨rfl, rfl⟩, _, _, prepared, valid, rfl⟩ := h
  refine ⟨valid, ?_⟩
  simp only [prepareLedger, Tx.ite_ok, Tx.ensure_ok, decide_eq_true_eq] at prepared
  rcases prepared with ⟨zero, created⟩ | ⟨-, ⟨one, migrated⟩ | ⟨-, two, same⟩⟩
  · exact .inl ⟨zero, created⟩
  · exact .inr (.inl ⟨one, migrated⟩)
  · exact .inr (.inr ⟨two, same⟩)

/-! ## Every file -/

/-- For every file, a transition or a rotation that raises leaves it as it was. Opening a file raises
and leaves it as it was too, or has migrated what was of version 1: every transition with all its
columns, the bootstrap, the current epoch and digest, and the clock. -/
theorem updates_atomic (policy : AuthorityPolicy codec) (db : LedgerFile) :
    (∀ wire nextSourceFile nowMs fault e db',
      applyTransition policy wire nextSourceFile nowMs fault db = (.error e, db') → db' = db) ∧
    (∀ wire nowMs fault e db',
      rotateAuthority policy wire nowMs fault db = (.error e, db') → db' = db) ∧
    (∀ bootstrapFile fault e db',
      openAuthority policy bootstrapFile fault db = (.error e, db') → db' = db) ∧
    ∀ bootstrapFile fault db', db.userVersion = 1 →
      openAuthority policy bootstrapFile fault db = (.ok (), db') → Migrated policy db db' := by
  refine ⟨?_, ?_, ?_, ?_⟩
  · intro wire nextSourceFile nowMs fault e db' raised
    rcases applyTransition_cases policy wire nextSourceFile nowMs fault db with
      ⟨_, unchanged⟩ | ⟨_, _, _, returned, -⟩
    · exact (Prod.mk.inj (raised.symm.trans unchanged)).2
    · cases raised.symm.trans returned
  · intro wire nowMs fault e db' raised
    rcases rotateAuthority_cases policy wire nowMs fault db with
      ⟨_, unchanged⟩ | ⟨_, _, returned, -⟩
    · exact (Prod.mk.inj (raised.symm.trans unchanged)).2
    · cases raised.symm.trans returned
  · intro bootstrapFile fault e db' raised
    rcases openAuthority_cases policy bootstrapFile fault db with
      ⟨_, unchanged⟩ | ⟨_, _, returned, -⟩
    · exact (Prod.mk.inj (raised.symm.trans unchanged)).2
    · cases raised.symm.trans returned
  · intro bootstrapFile fault db' one opened
    rcases openAuthority_cases policy bootstrapFile fault db with
      ⟨_, raised⟩ | ⟨bootstrap, _, returned, -, -, prepared⟩
    · cases opened.symm.trans raised
    · obtain rfl := (Prod.mk.inj (opened.symm.trans returned)).2
      obtain ⟨valid, ⟨zero, -⟩ | ⟨-, migrated⟩ | ⟨two, -⟩⟩ := initializeLedger_ok prepared
      · rw [one] at zero
        cases zero
      · exact migrateV1Ledger_ok migrated valid
      · rw [one] at two
        cases two

/-! ### A file of version 1 with a transition

The members, the keys and the times of the tests. -/

def sampleNetwork : Str := str "testnet-10"

def sampleModel : Str := str "7eb04532318c72a03651872c0119da9ecf0edf772d945382bea758985a24abd5"

def sampleMembers : List GuardianSourceMember :=
  [⟨str "1f3c253a5f3817d44fffc45bae50862d88620d9b815cf66718ec836f8667752c",
      str "2f8bde4d1a07209355b4a7250a5c5128e88b84bddc619ab7cba8d569b240efe4", sampleModel⟩,
    ⟨str "6d8a2bcd0ef79e76d74091414c88903bc3930868d12f2e93cc95e400af27d4c7",
      str "f9308a019258c31049344f85f89d5229b531c845836f99b08601f113bce036f9", sampleModel⟩,
    ⟨str "6e3c70deadd4d21cf7dd2d123c5a3dac6f459974ce82dcf7992c2265781fff13",
      str "79be667ef9dcbbac55a06295ce870b07029bfcdb2dce28d959f2815b16f81798", sampleModel⟩,
    ⟨str "aaea99d3ada80482864b1acdf90580149414fdf275319e3430192e0bcb7aa741",
      str "e493dbf1c10d80f3581e4904930b1404cc6c13900ee0758474fa94abe8c4cd13", sampleModel⟩,
    ⟨str "bf8723f5318312b3ef18ac68e780388de504da03fad0d203ec532e58ed5fdbf3",
      str "c6047f9441ed7d6d3045406e95c07cd85c778e4b8cef3ca7abac09b95c709ee5", sampleModel⟩]

/-- The committee of an epoch. -/
def sampleSource (epoch : Int) : Bytes := canonicalBytes sampleNetwork epoch sampleMembers

def sampleDigest : Bytes :=
  fromHex (str "10a3dd344a606ee0595880230ac7e78d4e213c61f926b814ffee203bb294c8dd")

def sampleNextDigest : Bytes :=
  fromHex (str "42ccf733a51e387431796c47959f3cc1c06fba48ff4b38d77e933dbedf457090")

def sampleAuthority : Bytes :=
  fromHex (str "d4d3d528f98b92d5f4c4ecfbab60fd8550f123275b63b3fd5518c1f3d62a82b7")

def sampleNextAuthority : Bytes :=
  fromHex (str "4b1497b9204062c175af526d29fea177c5c30fa5f40e3f90cee14dc42fb74e61")

def samplePayloadDigest : Bytes :=
  fromHex (str "7d1eee60cc84b5a799d6a3389272b3b927eccf9c9bf22b6710f0781fd97340a0")

def sampleSignature : Bytes :=
  fromHex (str "165fa881024bd946c4472cde54f1141814aae1636de752aa9c325a2c1d2fc5fb") ++
    fromHex (str "3e3daf787907a9de7147c20b17fa7f83e1fcaa7d981364af749e19efed7c7885")

/-- The library functions on what the samples hash, decode and verify. -/
def sampleCodec : MembershipCodec where
  sha256 input :=
    if input = sampleSource 0 then sampleDigest
    else if input = sampleSource 1 then sampleNextDigest
    else sha256 input
  tooDeep _ := false
  floatRepr text := text
  isPublicKey key := decide (key ∈ sampleAuthority :: sampleNextAuthority ::
    sampleMembers.map fun member => fromHex member.xonlyPublicKey)
  verify key signature message := decide
    ((key, signature, message) = (sampleAuthority, sampleSignature, samplePayloadDigest))

def samplePolicy : AuthorityPolicy sampleCodec where
  networkId := sampleNetwork
  authorityXonlyPublicKey := sampleAuthority
  bootstrapEpoch := 0
  bootstrapMembershipSourceSha256 := sampleDigest
  network_valid := by decide
  key_length := by decide
  key_valid := by decide
  epoch_valid := by decide
  digest_length := by decide

/-- The time of the tests. -/
def sampleNow : Int := 1800000000000

/-- What the authority signs. -/
def sampleUnsigned : ParsedTransition where
  wire := []
  transitionId := fromHex (str "3eabf1563f052e76faee5d944fe0f8e4d55eea92dbe49af95da2a3ed7ba3d870")
  networkId := sampleNetwork
  previousEpoch := 0
  previousSourceDigest := sampleDigest
  nextEpoch := 1
  nextSourceDigest := sampleNextDigest
  notBeforeMs := 1799999999000
  notAfterMs := 1800000010000
  nonce := fromHex (str "9e3f156324d42f0ea4b6f4fce81d56fbd64a2143a3fdd60a130d9c90e5b4d688")
  payloadDigest := samplePayloadDigest
  signature := sampleSignature

/-- A transition from the bootstrap to epoch 1. -/
def sampleTransition : ParsedTransition :=
  { sampleUnsigned with
    wire := dumpsOrdered (.object (sampleUnsigned.unsigned ++
      [(str "payload_digest", .string (hex samplePayloadDigest)),
        (str "signature", .string (hex sampleSignature))])) }

def versionOneTransition : LedgerRow
  | .authorityEpoch => .null
  | column => transitionRow sampleTransition sampleNow 0 column

def versionOneLayout : Layout TableName ColumnName :=
  strictLayout expectedTransitionsV1 [[.nextEpoch], [.nonce], [.transitionId]]

def versionOneCheck (row : LedgerRow) : Bool :=
  isFixed .transitionId row && isFixed .nonce row && isAtLeast 0 .previousEpoch row &&
    isFixed .previousMembershipSourceSha256 row && isAtLeast 0 .nextEpoch row &&
    isFixed .nextMembershipSourceSha256 row && isAtLeast 1 .notBeforeMs row &&
    Value.lt (row .notBeforeMs) (row .notAfterMs) &&
    Value.le (row .notBeforeMs) (row .appliedAtMs) && isBounded 2048 .transitionWire row

/-- The file that the transition left. -/
def versionOne : LedgerFile where
  userVersion := 1
  tables
    | .membershipAuthority => some ⟨membershipAuthorityLayout, membershipAuthorityCheck,
        ⟨[authorityRow samplePolicy], by decide, by decide⟩⟩
    | .currentMembership => some ⟨currentMembershipLayout, currentMembershipCheck,
        ⟨[membershipRow 1 sampleNextDigest (sampleSource 1)], by decide +kernel,
          by decide⟩⟩
    | .membershipClock => some ⟨membershipClockLayout, membershipClockCheck,
        ⟨[clockRow sampleNow], by decide, by decide⟩⟩
    | .membershipTransitions => some ⟨versionOneLayout, versionOneCheck,
        ⟨[versionOneTransition], by decide +kernel, by decide +kernel⟩⟩
    | _ => none
  otherTables := []
  otherObjects := []

/-- What opening the file answers and leaves. -/
def versionOneOpened : Except MembershipError Unit × LedgerFile :=
  openAuthority samplePolicy (some (sampleSource 0)) none versionOne

theorem updates_atomic_versionOne :
    versionOneOpened.1 = .ok () ∧ Migrated samplePolicy versionOne versionOneOpened.2 := by
  have returned : versionOneOpened.1 = .ok () := by decide +kernel
  have opened : openAuthority samplePolicy (some (sampleSource 0)) none versionOne =
      (.ok (), versionOneOpened.2) := by
    rw [← versionOneOpened, ← returned]
  obtain ⟨-, -, -, migrates⟩ := updates_atomic samplePolicy versionOne
  have isOne : versionOne.userVersion = 1 := by rw [versionOne]
  exact ⟨returned, migrates _ none _ isOne opened⟩

end Prometheus.Jaeger.Membership
