import Prometheus.Jaeger.SignedBallots.Ledger

/-!
# One ballot for each Guardian and nonce of a session

An accepted ballot leaves a row, which stays until the ledger's clock has reached the end of its
session; from then on no envelope of the session is fresh at a time the clock still accepts. Either
way a second ballot of the same Guardian, or with the same nonce, is refused.
-/

namespace Prometheus.Jaeger.SignedBallots

open Prometheus.Codec Prometheus.Machine

variable {codec : BallotCodec} {file file' : ReplayLedger} {call : Call}
  {out : Except BallotError Answer}

/-! ## The clock -/

theorem Advanced.clock {nowMs : Int} (advanced : Advanced nowMs file file') :
    ClockLe file.highWaterMs file'.highWaterMs :=
  ClockLe.of_advanced advanced.highWater advanced.advanced

theorem Effect.clock (effect : Effect codec file call out file') :
    ClockLe file.highWaterMs file'.highWaterMs := by
  cases effect with
  | opened answered tables state =>
    rw [state]
    exact ClockLe.getD _ _
  | accepted envelope parsed verified advanced inserted => exact advanced.clock
  | pruned rows advanced deleted => exact advanced.clock
  | refused | contained | evaluated => exact ClockLe.refl _

/-- The clock has not gone back since an event. -/
def ClockMark (e : BallotEvent) (file : ReplayLedger) : Prop :=
  ClockLe e.post.highWaterMs file.highWaterMs

theorem clockMark_left (codec : BallotCodec) (file : ReplayLedger) (call : Call) :
    ClockMark (callEvent (step codec) file call) (step codec call file).2 :=
  ClockLe.refl _

theorem clockMark_kept (codec : BallotCodec) (e : BallotEvent) (file : ReplayLedger) (call : Call)
    (mark : ClockMark e file) : ClockMark e (step codec call file).2 :=
  mark.trans (step_effect codec call file).clock

/-- The clock never goes back in a run. -/
theorem clock_monotone {h : List BallotEvent} (run : Run (step codec) Unused h file) :
    (∀ e ∈ h, ClockLe e.pre.highWaterMs e.post.highWaterMs) ∧
      h.Pairwise fun e e' => ClockLe e.post.highWaterMs e'.pre.highWaterMs := by
  have always : ∀ s : ReplayLedger, Unused s → True := fun _ _ => trivial
  have kept : ∀ (s : ReplayLedger) (i : Call), True → True := fun _ _ _ => trivial
  constructor
  · exact run.events (fun _ => True) always kept fun s i _ => (step_effect codec i s).clock
  · exact run.pairwise (fun _ => True) always kept (fun s i _ => clockMark_left codec s i)
      (fun e s i _ => clockMark_kept codec e s i) fun e s i _ mark => mark

/-! ## Accepted ballots -/

/-- The session and the envelope of a ballot that an event accepted. -/
def acceptedBallot (codec : BallotCodec) (e : BallotEvent) :
    Option (BallotSession × SignedGuardianBallot) :=
  match e.input, e.output with
  | .acceptWire wire _ _ session _ _, .ok (.vote _) =>
    match fromWire codec wire with
    | .ok (some envelope) => some (session, envelope)
    | _ => none
  | _, _ => none

/-- An accepted ballot was verified at a time the clock accepted, and its row was new. -/
theorem Effect.ballot (effect : Effect codec file call out file') {session : BallotSession}
    {envelope : SignedGuardianBallot}
    (ballot : acceptedBallot codec ⟨file, call, out, file'⟩ = some (session, envelope)) :
    ∃ candidate snapshot nowMs wire, fromWire codec wire = .ok (some envelope) ∧
      Verified codec envelope candidate snapshot session nowMs ∧
      Advanced nowMs file file' ∧
      file.acceptedBallots.insert (acceptedRow envelope session wire nowMs) =
        some file'.acceptedBallots := by
  cases effect with
  | @accepted wire candidate snapshot _ nowMs _ _ envelope' parsed verified advanced inserted =>
    simp only [acceptedBallot, parsed, Option.some.injEq, Prod.mk.injEq] at ballot
    obtain ⟨rfl, rfl⟩ := ballot
    exact ⟨candidate, snapshot, nowMs, wire, parsed, verified, advanced, inserted⟩
  | refused => simp [acceptedBallot] at ballot
  | opened answered => rcases answered with rfl | rfl <;> cases ballot
  | pruned | contained | evaluated => cases ballot

/-- The file still holds a ballot's row, or its clock has reached the end of the session. -/
def Spent (session : BallotSession) (envelope : SignedGuardianBallot) (file : ReplayLedger) :
    Prop :=
  (∃ row ∈ file.acceptedBallots.rows, row.sessionId = session.sessionId ∧
    row.guardianId = envelope.guardianId ∧ row.nonce = envelope.nonce ∧
    row.sessionValidUntilMs = session.validUntilMs) ∨
  ∃ t, file.highWaterMs = some t ∧ session.validUntilMs ≤ t

theorem Spent.kept {session : BallotSession} {envelope : SignedGuardianBallot}
    (spent : Spent session envelope file) (effect : Effect codec file call out file') :
    Spent session envelope file' := by
  rcases spent with ⟨row, stored, isSession, isGuardian, isNonce, isEnd⟩ | ⟨t, isClock, ended⟩
  · cases effect with
    | refused | contained | evaluated =>
      exact .inl ⟨row, stored, isSession, isGuardian, isNonce, isEnd⟩
    | opened answered tables state =>
      exact .inl ⟨row, tables ▸ stored, isSession, isGuardian, isNonce, isEnd⟩
    | accepted envelope' parsed verified advanced inserted =>
      have rows := (Table.insert_eq_some.mp inserted).2.2
      exact .inl ⟨row, rows ▸ List.mem_append_left _ stored, isSession, isGuardian, isNonce, isEnd⟩
    | @pruned nowMs fault _ rows advanced deleted =>
      by_cases expired : row.sessionValidUntilMs ≤ nowMs
      · exact .inr ⟨nowMs, advanced.advanced, isEnd ▸ expired⟩
      · have remains : row ∈ file'.acceptedBallots.rows := by
          rw [deleted]
          exact Table.mem_delete.mpr ⟨stored, by simpa using expired⟩
        exact .inl ⟨row, remains, isSession, isGuardian, isNonce, isEnd⟩
  · obtain ⟨t', isLater, later⟩ := effect.clock t isClock
    exact .inr ⟨t', isLater, le_trans ended later⟩

/-- What an accepted ballot leaves in the file. -/
def BallotMark (codec : BallotCodec) (e : BallotEvent) (file : ReplayLedger) : Prop :=
  ∀ session envelope, acceptedBallot codec e = some (session, envelope) →
    isValidSessionShape codec session = true ∧ Spent session envelope file

theorem ballotMark_left (codec : BallotCodec) (file : ReplayLedger) (call : Call) :
    BallotMark codec (callEvent (step codec) file call) (step codec call file).2 := by
  intro session envelope ballot
  obtain ⟨candidate, snapshot, nowMs, wire, -, verified, -, inserted⟩ :=
    (step_effect codec call file).ballot ballot
  refine ⟨verified.sessionShape, .inl ⟨acceptedRow envelope session wire nowMs, ?_,
    verified.sessionId, rfl, rfl, rfl⟩⟩
  rw [(Table.insert_eq_some.mp inserted).2.2]
  exact List.mem_append_right _ List.mem_cons_self

theorem ballotMark_kept (codec : BallotCodec) (e : BallotEvent) (file : ReplayLedger) (call : Call)
    (mark : BallotMark codec e file) : BallotMark codec e (step codec call file).2 := by
  intro session envelope ballot
  obtain ⟨shape, spent⟩ := mark session envelope ballot
  exact ⟨shape, spent.kept (step_effect codec call file)⟩

/-- A ballot of the same session is of another Guardian and carries another nonce. -/
def Apart (codec : BallotCodec) (e e' : BallotEvent) : Prop :=
  ∀ session session' envelope envelope', acceptedBallot codec e = some (session, envelope) →
    acceptedBallot codec e' = some (session', envelope') →
    NoCollision codec.sha256 session.commitment session'.commitment →
    session'.sessionId = session.sessionId →
      envelope'.guardianId ≠ envelope.guardianId ∧ envelope'.nonce ≠ envelope.nonce

theorem ballotMark_found (codec : BallotCodec) (e : BallotEvent) (file : ReplayLedger) (call : Call)
    (mark : BallotMark codec e file) : Apart codec e (callEvent (step codec) file call) := by
  intro session session' envelope envelope' first second apart same
  obtain ⟨shape, spent⟩ := mark session envelope first
  obtain ⟨candidate, snapshot, nowMs, wire, -, verified, advanced, inserted⟩ :=
    (step_effect codec call file).ballot second
  have digests : codec.sha256 session.commitment = codec.sha256 session'.commitment :=
    hex_inj ((sessionId_eq_digest shape).symm.trans
      (same.symm.trans (sessionId_eq_digest verified.sessionShape)))
  have sameEnd := validUntilMs_eq_of_commitment shape verified.sessionShape (apart digests)
  rcases spent with ⟨row, stored, isSession, isGuardian, isNonce, -⟩ | ⟨t, isClock, ended⟩
  · -- the row is still there, so the keys of the new one differ from it
    have free := (Table.insert_eq_some.mp inserted).2.1 row stored
    have inSession : row.sessionId = envelope'.sessionId :=
      isSession.trans (same.symm.trans verified.sessionId.symm)
    simp only [acceptedSchema, acceptedRow, inSession, isGuardian, isNonce, decide_true,
      Bool.true_and, Bool.or_eq_false_iff, decide_eq_false_iff_not] at free
    exact ⟨fun h => free.1 h.symm, fun h => free.2 h.symm⟩
  · -- the session is over at the ledger's clock, so nothing of it is fresh
    obtain ⟨stored, isStored, notEarlier⟩ := advanced.highWater
    obtain rfl := Option.some.inj (isStored.symm.trans isClock)
    obtain ⟨live, within⟩ := verified.window
    omega

/-- A refused call of the collector, or a refused `prune_expired`, leaves the file as it was. -/
theorem Effect.refused_unchanged (effect : Effect codec file call out file')
    (notOpen : ∀ fault, call ≠ .openLedger fault) (error : BallotError)
    (raised : out = .error error) : file' = file := by
  cases effect with
  | refused => rfl
  | @opened fault _ _ answered tables state => exact absurd rfl (notOpen fault)
  | accepted | pruned | contained | evaluated => cases raised

/-- In every run, two ballots accepted in one session are of different Guardians and carry
different nonces, also when the first one's row has been pruned; a refused call changes nothing;
and the clock never goes back. -/
theorem one_ballot_per_session {h : List BallotEvent} (run : Run (step codec) Unused h file) :
    h.Pairwise (Apart codec) ∧
    (∀ e ∈ h, (∀ fault, e.input ≠ .openLedger fault) → ∀ error, e.output = .error error →
      e.post = e.pre) ∧
    (∀ e ∈ h, ClockLe e.pre.highWaterMs e.post.highWaterMs) ∧
    h.Pairwise fun e e' => ClockLe e.post.highWaterMs e'.pre.highWaterMs := by
  have always : ∀ s : ReplayLedger, Unused s → True := fun _ _ => trivial
  have kept : ∀ (s : ReplayLedger) (i : Call), True → True := fun _ _ _ => trivial
  refine ⟨?_, ?_, clock_monotone run⟩
  · exact run.pairwise (fun _ => True) always kept (fun s i _ => ballotMark_left codec s i)
      (fun e s i _ => ballotMark_kept codec e s i) fun e s i _ => ballotMark_found codec e s i
  · exact run.events (fun _ => True) always kept
      fun s i _ notOpen error raised => (step_effect codec i s).refused_unchanged notOpen error raised

/-! ### A committee of five

The digests, keys and signatures are those of `hashlib` and `coincurve` for the secret keys one to
five. -/

/-- A text of 64 equal characters. -/
def filled (c : Char) : Str := List.replicate 64 c.toNat

/-- The 64 hex digits of a number. -/
def digits (n : Nat) : Str := hex (toBytesBig 32 n)

/-- The public key, ballot digest and ballot signature of each Guardian. -/
def recordedSignatures : List (Str × Str × Str) :=
  [(digits 0x79be667ef9dcbbac55a06295ce870b07029bfcdb2dce28d959f2815b16f81798,
      digits 0x69c50806fb8fb5d52471deae331aa376d7d01cd85511fc46aed962b9bc0bb561,
      digits 0x0b3aee1089e2a825654014b7248c43113df52466f33d60d81b6c0c3d1dea92a4 ++
        digits 0x38772eb64a478c500db95cb12a17e49d4e78f40c99b287103bcfde9150a408c2),
    (digits 0xc6047f9441ed7d6d3045406e95c07cd85c778e4b8cef3ca7abac09b95c709ee5,
      digits 0x7ed0cc300b5f1cf441c4aaf51a5c8b4cb972db63376d3a1bf2999dac1d066f4a,
      digits 0x8a55923533bab582ce01580417a628572dcca2be8d27bb222c0cfaf2507275ca ++
        digits 0xe52bc5784cf0164c9e67afbe3f2c8d590189266d5ef0e7c5595547143d0170f6),
    (digits 0xf9308a019258c31049344f85f89d5229b531c845836f99b08601f113bce036f9,
      digits 0x984f07c76f858028cae856bd1a65eff09bc5252a4adb52ca94e5c24e05b1ce68,
      digits 0xc8f992ff19f66bb710178497202a61541586801e4b5cbdf22732b0609e35eb83 ++
        digits 0xc9d82f793482886af9d20f112bcd26568c8556768db3b044c36ef1aa4c29fe7f),
    (digits 0xe493dbf1c10d80f3581e4904930b1404cc6c13900ee0758474fa94abe8c4cd13,
      digits 0x8b7a3995d26b5509dd9608e59c5a1b3a9668e4207c5b86c75cdf8b9d74e3faa5,
      digits 0xf24bfa73b46619744e4c059427236e55d3c5324399c77e588560c30878677ed1 ++
        digits 0x20e40a3a4ddf282fa4c21ad70f7befa9130b515fb583d5daa35abebf208580e3),
    (digits 0x2f8bde4d1a07209355b4a7250a5c5128e88b84bddc619ab7cba8d569b240efe4,
      digits 0x7419a6bf7599fd6ec222d7324364d56ee1816b6c8dd306b6a8eb7353c1e71c21,
      digits 0x9310b39a1cd8cad6b19d3aec865b39d0290df23379ab8782f045510192111784 ++
        digits 0x506e05ad91bbc8ef3cfc91b6b058aaa1939bbc48e2b3f50217e9da0e1a451b1a)]

def recordedMembers : List GuardianMember :=
  ['1', '2', '3', '4', '5'].map fun c => ⟨filled c, str "8b", filled 'a'⟩

def recordedSnapshot : MembershipSnapshot where
  protocolVersion := 1
  membershipSourceSha256 := filled 'b'
  members := recordedMembers
  snapshotId := digits 0x0d1febd5bd058beff4c3cc0955e71dc36518ca2bcb3747c74686e45a135873e5

def recordedCandidate : EnsembleCandidate where
  protocolVersion := 1
  ruleType := str "yara"
  threatHash := filled 'c'
  ruleName := str "r"
  ruleContent := str "rule r strings: condition:"
  ruleGeneratedAt := 1
  ruleConfidenceBps := 9000
  ruleSha256 := digits 0xfa2e92e46d03ff3a80e1f54ccc475339503a2d563c57465782212098c2fb76ca
  policySha256 := filled 'd'
  modelArtifactSha256 := filled 'a'
  candidateDigest := digits 0xfa6f4acf845324f325fb2dce524cfa3485c3fd6041617a355c3805d6a4d8b98c

/-- A session of ten minutes. -/
def recordedSession : BallotSession where
  protocolVersion := 1
  networkId := str "testnet-10"
  membershipSnapshotId := recordedSnapshot.snapshotId
  candidateDigest := recordedCandidate.candidateDigest
  sessionNonce := filled 'e'
  validFromMs := 1000
  validUntilMs := 601000
  signers := List.zipWith (fun member signature => ⟨member.guardianId, signature.1⟩)
    recordedMembers recordedSignatures
  sessionId := digits 0x14626c1108526f9c32676c013a3c5aa40556db2ba66ae2a2bc0d5d2b2cafef0d

/-- Each Guardian approves, for a minute. -/
def recordedBallots : List SignedGuardianBallot :=
  List.zipWith (fun member signature =>
    { protocolVersion := 1
      voteProtocolVersion := 1
      sessionId := recordedSession.sessionId
      networkId := recordedSession.networkId
      guardianId := member.guardianId
      membershipSnapshotId := recordedSnapshot.snapshotId
      candidateDigest := recordedCandidate.candidateDigest
      decision := str "approve"
      confidenceBps := 9000
      modelTier := str "8b"
      modelArtifactSha256 := filled 'a'
      nonce := member.guardianId
      issuedAtMs := 1000
      expiresAtMs := 61000
      payloadDigest := signature.2.1
      signature := signature.2.2 }) recordedMembers recordedSignatures

/-- The inputs that are hashed, each with its digest. -/
def recordedDigests : List (Bytes × Str) :=
  [(encodeAscii recordedCandidate.ruleContent, recordedCandidate.ruleSha256),
    (candidateDomain ++ [0] ++ (candidatePayload recordedCandidate).dumps,
      recordedCandidate.candidateDigest),
    (snapshotDomain ++ [0] ++ (snapshotPayload 1 (filled 'b') recordedMembers).dumps,
      recordedSnapshot.snapshotId),
    (recordedSession.commitment, recordedSession.sessionId)] ++
  recordedBallots.map fun ballot =>
    (ballotDomain ++ [0] ++ ballot.payload.dumps, ballot.payloadDigest)

/-- The libraries on these inputs. -/
def recordedCodec : BallotCodec where
  sha256 input := (recordedDigests.find? fun d => d.1 = input).elim [] fun d => fromHex d.2
  loads wire :=
    match recordedBallots.find? fun ballot => ballot.toWire = wire with
    | some ballot => .ok ballot.asDict
    | none => .error .decodeError
  tooDeep _ := false
  isPublicKey key := decide (key ∈ recordedSignatures.map fun s => fromHex s.1)
  verify key signature message := decide ((key, signature, message) ∈
    recordedSignatures.map fun s => (fromHex s.1, fromHex s.2.2, fromHex s.2.1))

/-- Hand the frame of one Guardian to the collector. -/
def acceptRecorded (guardian : Nat) (nowMs : Int) : Call :=
  .acceptWire ((recordedBallots.map SignedGuardianBallot.toWire).getD guardian [])
    recordedCandidate recordedSnapshot recordedSession nowMs false

/-- Whether a call returned. -/
def returned : Except BallotError Answer → Bool
  | .ok _ => true
  | .error _ => false

/-- Two Guardians vote, one of them twice; the session is pruned at its end and tried again, at the
old time and at the new one. -/
def replayCalls : List Call :=
  [.openLedger none, acceptRecorded 0 1000, acceptRecorded 0 1000, acceptRecorded 1 1000,
    .pruneExpired 601000 false, .openLedger none, acceptRecorded 0 1000, acceptRecorded 0 601000]

theorem one_ballot_per_session_pruned :
    let run := execute (step recordedCodec) replayCalls ReplayLedger.fresh
    run.1.map (fun e => (returned e.output, e.post.acceptedBallots.count)) =
      [(true, 0), (true, 1), (false, 1), (true, 2), (true, 0), (true, 0), (false, 0), (false, 0)] ∧
      run.1.Pairwise (Apart recordedCodec) := by
  have unused : Unused ReplayLedger.fresh := rfl
  exact ⟨by decide +kernel, (one_ballot_per_session (Run.of_execute unused replayCalls)).1⟩

end Prometheus.Jaeger.SignedBallots
