import Prometheus.Client.RuleCheckpoint

/-!
# The stored checkpoint only moves forward

What one attempt does to the store and to the scanners (`Effect`), and from it, for every run: the
stored checkpoint is replaced by one of a larger order or stays what it is, a scanner takes the
rules of the stored checkpoint only, and an attempt that died before its installation can be run
again until another process has moved the checkpoint.
-/

namespace Prometheus.Client

open Prometheus.Codec Prometheus.Machine

variable {codec : CheckpointCodec} {clients clients' : Clients} {call : Call} {out : Outcome}

/-! ## Candidates -/

/-- The rules and the candidate come from the same verified and fetched entries. -/
structure Prepares (codec : RuleCodec) (request : SyncRequest) (prepared : PreparedSync)
    (verified : List (RuleStateMetadata × VerifiedManifestOutpoint))
    (fetched : List (RuleMetadataSnapshotEntry × Identity)) (order : UInt64) : Prop where
  allowed : request.stubAllowed = true
  observed : verifyEntries request.observe request.entries [] [] [] = some verified
  contents : fetchEntries codec request.fetchRuleContent verified = some fetched
  ordered : snapshotOrder (fetched.map Prod.snd) request.emptySnapshotOrder = some order
  rules : prepare codec (fetched.map Prod.fst) = some prepared.rules
  candidate : prepared.candidate = candidateCheckpoint codec order (fetched.map Prod.snd)
  bounded : prepared.candidate.toVec.length ≤ maxCheckpointBytes

theorem prepareSync_some {codec : RuleCodec} {request : SyncRequest} {prepared : PreparedSync}
    (h : prepareSync codec request = some prepared) :
    ∃ verified fetched order, Prepares codec request prepared verified fetched order := by
  unfold prepareSync at h
  split at h
  · cases h
  rename_i allowed
  split at h
  · cases h
  split at h
  · cases h
  rename_i verified isVerified
  split at h
  · cases h
  rename_i fetched isFetched
  dsimp only at h
  split at h
  · rename_i rules order isRules isOrder
    split at h
    · cases h
    · rename_i bounded
      obtain rfl := Option.some.inj h
      exact ⟨verified, fetched, order, by simpa using allowed, isVerified, isFetched, isOrder,
        isRules, rfl, by simpa using bounded⟩
  · cases h

theorem snapshotOrder_ne_zero {identities : List Identity} {emptySnapshotOrder : Option UInt64}
    {order : UInt64} (h : snapshotOrder identities emptySnapshotOrder = some order) :
    order ≠ 0 := by
  unfold snapshotOrder at h
  simpa using (Option.filter_eq_some_iff.mp h).2

theorem digestSnapshot_shape (codec : RuleCodec) (order : UInt64) (identities : List Identity) :
    (digestSnapshot codec order identities).length = 64 ∧
      (digestSnapshot codec order identities).all isHexByte = true := by
  refine ⟨by simp [digestSnapshot, encodeAscii], ?_⟩
  rw [List.all_eq_true]
  intro b hb
  obtain ⟨c, hc, rfl⟩ := List.mem_map.mp hb
  have hexDigit := isLowerHex_of_mem_hex hc
  have small : c < 256 := by
    simp only [isLowerHex, Bool.or_eq_true, Bool.and_eq_true, decide_eq_true_eq] at hexDigit
    omega
  rw [isHexByte, UInt8.toNat_ofNat_of_lt' small]
  exact hexDigit

theorem candidateCheckpoint_isValid (codec : RuleCodec) {order : UInt64} (positive : order ≠ 0)
    (identities : List Identity) : (candidateCheckpoint codec order identities).isValid = true := by
  obtain ⟨length, digits⟩ := digestSnapshot_shape codec order identities
  simp [Checkpoint.isValid, candidateCheckpoint, positive, length, digits]

theorem toVec_ne_nil (checkpoint : Checkpoint) : checkpoint.toVec ≠ [] := by
  simp [Checkpoint.toVec, serdeStruct]

/-- What the parser reads back from the candidate of an attempt is the candidate. -/
theorem parse_candidate {request : SyncRequest} {prepared : PreparedSync}
    (h : prepareSync codec.toRuleCodec request = some prepared)
    (reads : codec.fromSlice prepared.candidate.toVec = some prepared.candidate) :
    parseCheckpoint codec prepared.candidate.toVec = some prepared.candidate := by
  obtain ⟨verified, fetched, order, prepares⟩ := prepareSync_some h
  have valid : prepared.candidate.isValid = true := by
    rw [prepares.candidate]
    exact candidateCheckpoint_isValid _ (snapshotOrder_ne_zero prepares.ordered) _
  have bounded := prepares.bounded
  simp [parseCheckpoint, toVec_ne_nil, reads, valid, Nat.not_lt.mpr bounded]

/-! ## One attempt -/

/-- The checkpoint the store holds. -/
def stored (codec : CheckpointCodec) (clients : Clients) : Option Checkpoint :=
  clients.checkpoint.bind (parseCheckpoint codec)

/-- Two valid checkpoints of one order and digest are the same. -/
theorem eq_of_order_digest {a b : Checkpoint} (ha : a.isValid = true) (hb : b.isValid = true)
    (order : a.order = b.order) (digest : a.snapshotDigest = b.snapshotDigest) : a = b := by
  simp only [Checkpoint.isValid, Bool.and_eq_true, decide_eq_true_eq] at ha hb
  cases a
  cases b
  simp_all

theorem parseCheckpoint_isValid {bytes : Bytes} {checkpoint : Checkpoint}
    (h : parseCheckpoint codec bytes = some checkpoint) : checkpoint.isValid = true := by
  unfold parseCheckpoint at h
  split at h
  · cases h
  split at h
  · cases h
  split at h
  · rename_i checks
    obtain rfl := Option.some.inj h
    exact checks.2
  · cases h

/-- Under the lock the candidate is the stored checkpoint, or it is ahead of it and replaces it. -/
inductive Moved (codec : CheckpointCodec) (candidate : Checkpoint) (clients : Clients) :
    Option Bytes → Prop
  | replay (same : stored codec clients = some candidate) :
      Moved codec candidate clients clients.checkpoint
  | forward (ahead : ∀ current, stored codec clients = some current →
      current.order < candidate.order) : Moved codec candidate clients (some candidate.toVec)

/-- What a call may do. -/
inductive Effect (codec : CheckpointCodec) (clients : Clients) : Call → Outcome → Clients → Prop
  | refused {process : Nat} {request : SyncRequest} {interruption : Option Interruption} :
      Effect codec clients (.sync process request interruption) .err clients
  | unsynced {process : Nat} {request : SyncRequest} (prepared : PreparedSync)
      {checkpoint : Option Bytes}
      (isPrepared : prepareSync codec.toRuleCodec request = some prepared)
      (moved : Moved codec prepared.candidate clients checkpoint) :
      Effect codec clients (.sync process request (some .afterRename)) .err
        { clients with checkpoint := checkpoint }
  | died {process : Nat} {request : SyncRequest} (prepared : PreparedSync)
      {checkpoint : Option Bytes}
      (isPrepared : prepareSync codec.toRuleCodec request = some prepared)
      (moved : Moved codec prepared.candidate clients checkpoint) :
      Effect codec clients (.sync process request (some .crash)) .crashed
        (Clients.install { clients with checkpoint := checkpoint } process [])
  | installed {process : Nat} {request : SyncRequest} {interruption : Option Interruption}
      (prepared : PreparedSync) {checkpoint : Option Bytes}
      (isPrepared : prepareSync codec.toRuleCodec request = some prepared)
      (moved : Moved codec prepared.candidate clients checkpoint) :
      Effect codec clients (.sync process request interruption) .ok
        (Clients.install { clients with checkpoint := checkpoint } process prepared.rules)
  | restarted {process : Nat} :
      Effect codec clients (.restart process) .crashed (clients.install process [])

/-- The comparison under the lock. -/
theorem moved_of_isReplay {candidate : Checkpoint} {replay : Bool}
    (valid : candidate.isValid = true)
    (h : (readCheckpoint codec clients.checkpoint).bind (isReplay candidate) = some replay) :
    Moved codec candidate clients
      (if replay then clients.checkpoint else some candidate.toVec) := by
  obtain ⟨current, isRead, compared⟩ := Option.bind_eq_some_iff.mp h
  have isStored : stored codec clients = current := by
    unfold readCheckpoint at isRead
    unfold stored
    cases file : clients.checkpoint with
    | none => simpa [file] using isRead
    | some bytes =>
      rw [file] at isRead
      obtain ⟨checkpoint, parsed, rfl⟩ := Option.map_eq_some_iff.mp isRead
      exact parsed
  cases current with
  | none =>
    obtain rfl : false = replay := Option.some.inj compared
    exact .forward fun current isCurrent => by rw [isStored] at isCurrent; cases isCurrent
  | some current =>
    have currentValid : current.isValid = true := by
      obtain ⟨bytes, -, parsed⟩ := Option.bind_eq_some_iff.mp isStored
      exact parseCheckpoint_isValid parsed
    simp only [isReplay] at compared
    split at compared
    · cases compared
    · rename_i notBehind
      obtain rfl := Option.some.inj compared
      by_cases same : candidate.order = current.order
      · have digest : candidate.snapshotDigest = current.snapshotDigest := by
          by_contra differs
          exact notBehind (.inr ⟨same, differs⟩)
        have isCandidate := eq_of_order_digest valid currentValid same digest
        rw [decide_eq_true same, if_pos rfl]
        exact .replay (isCandidate ▸ isStored)
      · rw [decide_eq_false same, if_neg (by simp)]
        refine .forward fun other isOther => ?_
        obtain rfl : current = other := Option.some.inj (isStored.symm.trans isOther)
        have notLess : ¬ candidate.order < current.order := fun less => notBehind (.inl less)
        exact UInt64.lt_of_le_of_ne (UInt64.not_lt.mp notLess) (Ne.symm same)

theorem step_effect (codec : CheckpointCodec) (call : Call) (clients : Clients) :
    Effect codec clients call (step codec call clients).1 (step codec call clients).2 := by
  cases call with
  | restart process => exact .restarted
  | sync process request interruption =>
    simp only [step, syncDurable]
    split
    · exact .refused
    · rename_i prepared isPrepared
      obtain ⟨verified, fetched, order, prepares⟩ := prepareSync_some isPrepared
      have valid : prepared.candidate.isValid = true := by
        rw [prepares.candidate]
        exact candidateCheckpoint_isValid _ (snapshotOrder_ne_zero prepares.ordered) _
      unfold commitSync
      split
      · exact .refused
      · split
        · exact .refused
        · rename_i isReplay
          have moved := moved_of_isReplay valid isReplay
          rw [if_pos rfl] at moved
          split
          · rename_i dies
            rw [dies]
            exact .died prepared isPrepared moved
          · exact .installed prepared isPrepared moved
        · rename_i isForward
          have moved := moved_of_isReplay valid isForward
          rw [if_neg (by simp)] at moved
          dsimp only
          split
          · exact .refused
          · exact .unsynced prepared isPrepared moved
          · exact .died prepared isPrepared moved
          · exact .installed prepared isPrepared moved

/-! ## Runs -/

/-- A checkpoint is the other one, or has a smaller order. -/
def Checkpoint.Precedes (c c' : Checkpoint) : Prop := c.order < c'.order ∨ c' = c

theorem Checkpoint.Precedes.trans {a b c : Checkpoint} (hab : a.Precedes b) (hbc : b.Precedes c) :
    a.Precedes c := by
  rcases hbc with less | rfl
  · rcases hab with less' | rfl
    · exact .inl (UInt64.lt_trans less' less)
    · exact .inl less
  · exact hab

/-- The stored checkpoint has stayed, or has been replaced by one of a larger order. -/
def Onward (codec : CheckpointCodec) (clients clients' : Clients) : Prop :=
  ∀ c, stored codec clients = some c → ∃ c', stored codec clients' = some c' ∧ c.Precedes c'

theorem Onward.refl (codec : CheckpointCodec) (clients : Clients) : Onward codec clients clients :=
  fun c isStored => ⟨c, isStored, .inr rfl⟩

theorem Onward.trans {clients'' : Clients} (first : Onward codec clients clients')
    (second : Onward codec clients' clients'') : Onward codec clients clients'' := by
  intro c isStored
  obtain ⟨c', isStored', precedes⟩ := first c isStored
  obtain ⟨c'', isStored'', precedes'⟩ := second c' isStored'
  exact ⟨c'', isStored'', precedes.trans precedes'⟩

/-- `serde_json` reads back the candidate of a call. -/
def ReadsBack (codec : CheckpointCodec) : Call → Prop
  | .sync _ request _ => ∀ prepared, prepareSync codec.toRuleCodec request = some prepared →
      codec.fromSlice prepared.candidate.toVec = some prepared.candidate
  | .restart _ => True

/-- After a move the store holds the candidate, which the stored checkpoint preceded. -/
theorem Moved.stored {prepared : PreparedSync} {request : SyncRequest} {checkpoint : Option Bytes}
    (moved : Moved codec prepared.candidate clients checkpoint)
    (isPrepared : prepareSync codec.toRuleCodec request = some prepared)
    (reads : codec.fromSlice prepared.candidate.toVec = some prepared.candidate)
    (isCheckpoint : clients'.checkpoint = checkpoint) :
    Client.stored codec clients' = some prepared.candidate ∧ Onward codec clients clients' := by
  have now : Client.stored codec clients' = some prepared.candidate := by
    rw [Client.stored, isCheckpoint]
    cases moved with
    | replay same => exact same
    | forward ahead => exact parse_candidate isPrepared reads
  refine ⟨now, fun c isStored => ⟨prepared.candidate, now, ?_⟩⟩
  cases moved with
  | replay same => exact .inr (Option.some.inj (same.symm.trans isStored))
  | forward ahead => exact .inl (ahead c isStored)

theorem Effect.onward (effect : Effect codec clients call out clients')
    (reads : ReadsBack codec call) : Onward codec clients clients' := by
  cases effect with
  | refused => exact Onward.refl _ _
  | restarted => exact Onward.refl _ _
  | unsynced prepared isPrepared moved =>
    exact (moved.stored isPrepared (reads prepared isPrepared) rfl).2
  | died prepared isPrepared moved =>
    exact (moved.stored isPrepared (reads prepared isPrepared) rfl).2
  | installed prepared isPrepared moved =>
    exact (moved.stored isPrepared (reads prepared isPrepared) rfl).2

theorem onward_run {h : List SyncEvent} (run : Run (step codec) Started h clients)
    (reads : ∀ e ∈ h, ReadsBack codec e.input) :
    (∀ e ∈ h, Onward codec e.pre e.post) ∧ (∀ e ∈ h, Onward codec e.post clients) ∧
      h.Pairwise fun e e' => Onward codec e.post e'.pre := by
  induction run with
  | start => exact ⟨by simp, by simp, List.Pairwise.nil⟩
  | @call h s i run ih =>
    obtain ⟨each, since, pairs⟩ := ih fun e he => reads e (List.mem_append_left _ he)
    have now : Onward codec s (step codec i s).2 :=
      (step_effect codec i s).onward (reads (callEvent (step codec) s i)
        (List.mem_append_right _ List.mem_cons_self))
    refine ⟨?_, ?_, List.pairwise_append.mpr ⟨pairs, List.pairwise_singleton _ _, ?_⟩⟩
    · intro e he
      rcases List.mem_append.mp he with he | he
      · exact each e he
      · rw [List.mem_singleton.mp he]
        exact now
    · intro e he
      rcases List.mem_append.mp he with he | he
      · exact (since e he).trans now
      · rw [List.mem_singleton.mp he]
        exact Onward.refl _ _
    · intro e he e' he'
      rw [List.mem_singleton.mp he']
      exact since e he

/-- A call has installed the rules of the checkpoint that the store holds after it, in the scanner
of its own process. -/
structure Installs (codec : CheckpointCodec) (e : SyncEvent) (process : Nat)
    (prepared : PreparedSync) : Prop where
  call : ∃ request interruption, e.input = .sync process request interruption ∧
    ∃ verified fetched order, Prepares codec.toRuleCodec request prepared verified fetched order
  scanner : e.post.scanners process = prepared.rules
  stored : Client.stored codec e.post = some prepared.candidate
  others : ∀ other ≠ process, e.post.scanners other = e.pre.scanners other

@[simp] theorem install_checkpoint (clients : Clients) (process : Nat) (rules : List CompiledRule) :
    (clients.install process rules).checkpoint = clients.checkpoint := rfl

theorem install_scanners (clients : Clients) (process : Nat) (rules : List CompiledRule)
    (other : Nat) : (clients.install process rules).scanners other =
      if other = process then rules else clients.scanners other := by
  simp [Clients.install, Function.update_apply]

theorem Effect.installs (effect : Effect codec clients call out clients')
    (reads : ReadsBack codec call) (ok : out = .ok) :
    ∃ process prepared, Installs codec ⟨clients, call, out, clients'⟩ process prepared := by
  cases effect with
  | @installed process request interruption prepared _ isPrepared moved =>
    refine ⟨process, prepared, ⟨⟨request, interruption, rfl, prepareSync_some isPrepared⟩, ?_,
      (moved.stored isPrepared (reads prepared isPrepared) rfl).1, ?_⟩⟩
    · rw [install_scanners, if_pos rfl]
    · intro other differs
      rw [install_scanners, if_neg differs]
  | refused | unsynced | died | restarted => cases ok

/-- Only an installation gives a scanner other rules; a crash takes a scanner's rules. -/
theorem Effect.scanners (effect : Effect codec clients call out clients') (notOk : out ≠ .ok)
    (process : Nat) : clients'.scanners process = clients.scanners process ∨
      out = .crashed ∧ clients'.scanners process = [] := by
  cases effect with
  | refused => exact .inl rfl
  | unsynced => exact .inl rfl
  | installed => exact absurd rfl notOk
  | @died own =>
    by_cases same : process = own
    · exact .inr ⟨rfl, by rw [install_scanners, if_pos same]⟩
    · exact .inl (by rw [install_scanners, if_neg same])
  | @restarted own =>
    by_cases same : process = own
    · exact .inr ⟨rfl, by rw [install_scanners, if_pos same]⟩
    · exact .inl (by rw [install_scanners, if_neg same])

/-- An error leaves the scanners alone, and the store unless the file had been renamed. -/
theorem Effect.error (effect : Effect codec clients call out clients') (err : out = .err) :
    clients'.scanners = clients.scanners ∧
      (clients' = clients ∨ ∃ process request, call = .sync process request (some .afterRename)) := by
  cases effect with
  | refused => exact ⟨rfl, .inl rfl⟩
  | @unsynced process request => exact ⟨rfl, .inr ⟨process, request, rfl⟩⟩
  | died | installed | restarted => cases err

theorem readCheckpoint_of_stored {c : Checkpoint} (h : stored codec clients = some c) :
    readCheckpoint codec clients.checkpoint = some (some c) := by
  obtain ⟨bytes, file, parsed⟩ := Option.bind_eq_some_iff.mp h
  rw [file, readCheckpoint, parsed]
  rfl

/-- An uninterrupted attempt whose candidate is the stored checkpoint installs its rules. -/
theorem step_replay {process : Nat} {request : SyncRequest} {prepared : PreparedSync}
    (isPrepared : prepareSync codec.toRuleCodec request = some prepared)
    (isStored : stored codec clients = some prepared.candidate) :
    step codec (.sync process request none) clients =
      (.ok, clients.install process prepared.rules) := by
  simp [step, syncDurable, isPrepared, commitSync, readCheckpoint_of_stored isStored, isReplay]

/-- An attempt that died between its two steps has left its candidate in the store. -/
theorem Effect.died_stored (effect : Effect codec clients call out clients')
    (reads : ReadsBack codec call) {process : Nat} {request : SyncRequest} {prepared : PreparedSync}
    (isCall : call = .sync process request (some .crash)) (crashed : out = .crashed)
    (isPrepared : prepareSync codec.toRuleCodec request = some prepared) :
    stored codec clients' = some prepared.candidate := by
  cases effect with
  | @died _ _ prepared' _ isPrepared' moved =>
    obtain ⟨rfl, rfl, -⟩ := Call.sync.inj isCall
    obtain rfl : prepared' = prepared := Option.some.inj (isPrepared'.symm.trans isPrepared)
    exact (moved.stored isPrepared (reads prepared' isPrepared) rfl).1
  | refused | unsynced | installed => cases crashed
  | restarted => cases isCall

/-- Run again, an attempt that died between its two steps installs its rules, unless another one has
moved the checkpoint to a larger order. -/
theorem rerun_run {h₁ h₂ h₃ : List SyncEvent} {e e' : SyncEvent}
    (run : Run (step codec) Started ((h₁ ++ e :: h₂) ++ e' :: h₃) clients)
    (reads : ∀ d ∈ (h₁ ++ e :: h₂) ++ e' :: h₃, ReadsBack codec d.input)
    {process process' : Nat} {request request' : SyncRequest} {prepared prepared' : PreparedSync}
    (isCall : e.input = .sync process request (some .crash)) (crashed : e.output = .crashed)
    (isPrepared : prepareSync codec.toRuleCodec request = some prepared)
    (isCall' : e'.input = .sync process' request' none)
    (isPrepared' : prepareSync codec.toRuleCodec request' = some prepared')
    (same : prepared'.candidate = prepared.candidate) :
    (∃ c, stored codec e'.pre = some c ∧ prepared.candidate.order < c.order) ∨
      e'.output = .ok ∧ Installs codec e' process' prepared' ∧
        e'.post.checkpoint = e'.pre.checkpoint := by
  have he : e ∈ (h₁ ++ e :: h₂) ++ e' :: h₃ := by simp
  have he' : e' ∈ (h₁ ++ e :: h₂) ++ e' :: h₃ := by simp
  have isStep := run.steps e he
  have isStep' := run.steps e' he'
  have left : stored codec e.post = some prepared.candidate := by
    have effect := step_effect codec e.input e.pre
    rw [isStep] at crashed ⊢
    exact effect.died_stored (reads e he) isCall crashed isPrepared
  have onward : Onward codec e.post e'.pre :=
    (onward_run run.before.1 fun d hd => reads d (List.mem_append_left _ hd)).2.1 e (by simp)
  obtain ⟨c, isStored, precedes⟩ := onward _ left
  rcases precedes with behind | rfl
  · exact .inl ⟨c, isStored, behind⟩
  · rw [← same] at isStored
    have replayed : e' = ⟨e'.pre, .sync process' request' none, .ok,
        e'.pre.install process' prepared'.rules⟩ := by
      rw [isStep', isCall', callEvent, step_replay isPrepared' isStored]
    refine .inr ⟨by rw [replayed], ⟨⟨request', none, isCall', prepareSync_some isPrepared'⟩,
      ?_, ?_, ?_⟩, by rw [replayed]; rfl⟩
    · rw [replayed, install_scanners, if_pos rfl]
    · rw [replayed]
      exact isStored
    · intro other differs
      rw [replayed, install_scanners, if_neg differs]

/-- For every run of attempts, restarts and interruptions on one store. -/
theorem checkpoint_safety {h : List SyncEvent} (run : Run (step codec) Started h clients)
    (reads : ∀ e ∈ h, ReadsBack codec e.input) :
    ((∀ e ∈ h, Onward codec e.pre e.post) ∧ h.Pairwise fun e e' => Onward codec e.post e'.pre) ∧
    (∀ e ∈ h, e.output = .ok → ∃ process prepared, Installs codec e process prepared) ∧
    (∀ e ∈ h, e.output ≠ .ok → ∀ process,
      e.post.scanners process = e.pre.scanners process ∨
        e.output = .crashed ∧ e.post.scanners process = []) ∧
    (∀ e ∈ h, e.output = .err → e.post.scanners = e.pre.scanners ∧
      (e.post = e.pre ∨ ∃ process request, e.input = .sync process request (some .afterRename))) ∧
    ∀ (h₁ h₂ h₃ : List SyncEvent) (e e' : SyncEvent), h = (h₁ ++ e :: h₂) ++ e' :: h₃ →
      ∀ process process' request request' prepared prepared',
        e.input = .sync process request (some .crash) → e.output = .crashed →
        prepareSync codec.toRuleCodec request = some prepared →
        e'.input = .sync process' request' none →
        prepareSync codec.toRuleCodec request' = some prepared' →
        prepared'.candidate = prepared.candidate →
          (∃ c, stored codec e'.pre = some c ∧ prepared.candidate.order < c.order) ∨
            e'.output = .ok ∧ Installs codec e' process' prepared' ∧
              e'.post.checkpoint = e'.pre.checkpoint := by
  have each := onward_run run reads
  have steps := run.steps
  refine ⟨⟨each.1, each.2.2⟩, ?_, ?_, ?_, ?_⟩
  · intro e he ok
    have effect := step_effect codec e.input e.pre
    rw [steps e he] at ok ⊢
    exact effect.installs (reads e he) ok
  · intro e he notOk
    have effect := step_effect codec e.input e.pre
    rw [steps e he] at notOk ⊢
    exact effect.scanners notOk
  · intro e he err
    have effect := step_effect codec e.input e.pre
    rw [steps e he] at err ⊢
    exact effect.error err
  · rintro h₁ h₂ h₃ e e' rfl process process' request request' prepared prepared' isCall crashed
      isPrepared isCall' isPrepared' same
    exact rerun_run run reads isCall crashed isPrepared isCall' isPrepared' same

/-! ### A run

The digests and the CID are those of `sha2` and `multibase`. -/

/-- The bytes of a digest given as a number. -/
def digestOf (n : Nat) : Vector UInt8 32 := Vector.ofFn fun i => (toBytesBig 32 n).getD i 0

def sampleRuleId : Bytes := ascii "PROM-RULE-0001"

def sampleContent : Bytes :=
  ascii "rule PROM-RULE-0001 \x7b\nstrings:\n$a = \"X\"\ncondition:\nany of them\n\x7d\n"

def sampleContentDigest : Nat :=
  0x1380969bb0238b384e59a686ce0c7032e4ea5f15087f47b8364113ff2cf8c79a

def sampleCid : Bytes := ascii "bafkreiatqcljxmbdrm4e4wngq3hay4bs4tvf6fiip5d3qnsbcp7sz6ghti"

/-- The only rule, observed at a virtual DAA score. -/
def sampleIdentity (virtualDaa : UInt64) : Identity :=
  ⟨sampleRuleId, sampleCid, List.replicate 64 97, 0, 5, virtualDaa⟩

/-- Verify and install the rule at a virtual DAA score. -/
def sampleRequest (virtualDaa : UInt64) : SyncRequest where
  stubAllowed := true
  entries := [⟨[], [], [], []⟩]
  emptySnapshotOrder := none
  observe _ := some (⟨sampleRuleId, .yara, sampleCid, true⟩,
    ⟨List.replicate 64 97, 0, 5, virtualDaa⟩)
  fetchRuleContent _ := some sampleContent

/-- The inputs that are hashed, each with its digest. -/
def sampleDigests : List (Bytes × Nat) :=
  [(sampleContent, sampleContentDigest),
    (snapshotPreimage 7 [sampleIdentity 7],
      0xb049d057045c660825bed5f32ecdaa548ce62346577a59a6e223c446f5516e57),
    (snapshotPreimage 9 [sampleIdentity 9],
      0xb2d393ff2dd9334e41dca640474b0c334ebbd3bb6c1f75e074f2bfc13a08adeb)]

/-- The crates on these inputs. -/
def sampleRuleCodec : RuleCodec where
  sha256 input := ((sampleDigests.find? fun d => d.1 = input).map fun d => digestOf d.2).getD
    (digestOf 0)
  decodeBase32 cid :=
    if cid = sampleCid then some (cidRawSha256Header ++ (digestOf sampleContentDigest).toList)
    else none
  encodeBase32 bytes :=
    if bytes = cidRawSha256Header ++ (digestOf sampleContentDigest).toList then sampleCid else []

/-- The checkpoint of the sample at a virtual DAA score. -/
def sampleCandidate (virtualDaa : UInt64) : Checkpoint :=
  candidateCheckpoint sampleRuleCodec virtualDaa [sampleIdentity virtualDaa]

def sampleCheckpointCodec : CheckpointCodec where
  toRuleCodec := sampleRuleCodec
  fromSlice bytes := [sampleCandidate 7, sampleCandidate 9].find? fun c => c.toVec = bytes

/-- One process installs; another dies before it installs a later snapshot, and is run again; the
first one is then behind. -/
def checkpointCalls : List Call :=
  [.sync 0 (sampleRequest 7) none, .sync 1 (sampleRequest 9) (some .crash),
    .sync 1 (sampleRequest 9) none, .sync 0 (sampleRequest 7) none]

/-- An empty store. -/
def Clients.fresh : Clients := ⟨none, fun _ => []⟩

theorem prepareSync_sample_seven :
    (prepareSync sampleRuleCodec (sampleRequest 7)).map PreparedSync.candidate =
      some (sampleCandidate 7) := by
  decide +kernel

theorem prepareSync_sample_nine :
    (prepareSync sampleRuleCodec (sampleRequest 9)).map PreparedSync.candidate =
      some (sampleCandidate 9) := by
  decide +kernel

theorem fromSlice_sample_seven :
    sampleCheckpointCodec.fromSlice (sampleCandidate 7).toVec = some (sampleCandidate 7) := by
  decide +kernel

theorem fromSlice_sample_nine :
    sampleCheckpointCodec.fromSlice (sampleCandidate 9).toVec = some (sampleCandidate 9) := by
  decide +kernel

theorem readsBack_sample {v : UInt64} {process : Nat} {interruption : Option Interruption}
    (isPrepared : (prepareSync sampleRuleCodec (sampleRequest v)).map PreparedSync.candidate =
      some (sampleCandidate v))
    (isRead : sampleCheckpointCodec.fromSlice (sampleCandidate v).toVec = some (sampleCandidate v)) :
    ReadsBack sampleCheckpointCodec (.sync process (sampleRequest v) interruption) := by
  intro prepared h
  obtain ⟨prepared', h', same⟩ := Option.map_eq_some_iff.mp isPrepared
  obtain rfl : prepared' = prepared := Option.some.inj (h'.symm.trans h)
  rw [same]
  exact isRead

theorem checkpoint_safety_crash :
    (execute (step sampleCheckpointCodec) checkpointCalls Clients.fresh).1.map
        (fun e => (e.output, (stored sampleCheckpointCodec e.post).map Checkpoint.order)) =
      [(.ok, some 7), (.crashed, some 9), (.ok, some 9), (.err, some 9)] ∧
    ((execute (step sampleCheckpointCodec) checkpointCalls Clients.fresh).1.Pairwise fun e e' =>
      Onward sampleCheckpointCodec e.post e'.pre) ∧
    ∀ e ∈ (execute (step sampleCheckpointCodec) checkpointCalls Clients.fresh).1,
      e.output = .ok → ∃ process prepared, Installs sampleCheckpointCodec e process prepared := by
  have run : Run (step sampleCheckpointCodec) Started _ _ :=
    Run.of_execute (s := Clients.fresh) (fun _ => rfl) checkpointCalls
  have reads : ∀ e ∈ (execute (step sampleCheckpointCodec) checkpointCalls Clients.fresh).1,
      ReadsBack sampleCheckpointCodec e.input := by
    intro e he
    simp only [checkpointCalls, execute, callEvent, List.mem_cons, List.not_mem_nil, or_false] at he
    rcases he with rfl | rfl | rfl | rfl
    · exact readsBack_sample prepareSync_sample_seven fromSlice_sample_seven
    · exact readsBack_sample prepareSync_sample_nine fromSlice_sample_nine
    · exact readsBack_sample prepareSync_sample_nine fromSlice_sample_nine
    · exact readsBack_sample prepareSync_sample_seven fromSlice_sample_seven
  have safe := checkpoint_safety run reads
  exact ⟨by decide +kernel, safe.1.2, safe.2.1⟩

end Prometheus.Client
