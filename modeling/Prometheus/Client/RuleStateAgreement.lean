import Prometheus.Client.RuleState
import Prometheus.Codec.Serde

/-!
# The decoder and the covenant

`Consistent` is what the decoder asks of a state and `Sound` what every state of the covenant
satisfies. They differ in two places: the decoder takes the submission counter to have been reset no
later than the submission, which heights supplied out of order break, and it multiplies the votes in
unsigned 64-bit arithmetic where the covenant has signed.
-/

namespace Prometheus.Client.RuleState

open Prometheus.Contracts
open Prometheus.Contracts.RuleStorage (State Call finalizeProposal)

variable {s t : State Key} {Sig : Type} {checkSig : Sig → Key → Bool}
variable {h : List (Transition (State Key) (Call Key Sig))}

/-! ## What the decoder accepts -/

/-- The checks of `validateSemantics`. -/
structure Consistent (s : State Key) : Prop where
  status : s.status = statusAccepted ∧ s.active = true
  ruleType : 0 ≤ s.ruleType.val ∧ s.ruleType.val ≤ 2
  confidence : 8500 ≤ s.confidence.val ∧ s.confidence.val ≤ 10000
  proposal : 0 ≤ s.proposalId.val ∧ s.nextProposalId.val = s.proposalId.val + 1
  window : 0 ≤ s.submittedAtBlock.val ∧ s.votingEndBlock.val = s.submittedAtBlock.val + 864000
  votes : 0 ≤ s.votesFor.val ∧ 0 ≤ s.votesAgainst.val ∧ 0 < s.votesFor.val + s.votesAgainst.val
  scaled : s.votesFor.val * 10000 < 2 ^ 64
  consensus : s.votesFor.val * 10000 / (s.votesFor.val + s.votesAgainst.val) = s.consensusScore.val
  quorum : 6700 ≤ s.consensusScore.val ∧ s.consensusScore.val ≤ 10000
  late : s.votingEndBlock.val ≤ s.storedAtBlock.val
  counts : 1 ≤ s.ruleCount.val ∧ 1 ≤ s.countInWindow.val
  reset : 0 ≤ s.lastCountResetBlock.val ∧ s.lastCountResetBlock.val ≤ s.submittedAtBlock.val
  event : s.guardianReputationEvent = guardianEventAccepted

theorem u64?_eq_some {n m : Int} : u64? n = some m ↔ (0 ≤ n ∧ n < 2 ^ 64) ∧ n = m := by
  unfold u64?
  by_cases hn : 0 ≤ n ∧ n < 2 ^ 64
  · rw [if_pos hn, Option.some.injEq]
    exact (and_iff_right hn).symm
  · rw [if_neg hn]
    constructor
    · intro hnone
      cases hnone
    · intro hm
      exact absurd hm.1 hn

theorem validateSemantics_some {u : Unit} : validateSemantics s = some u ↔ Consistent s := by
  simp only [validateSemantics, line_bind, require_eq_some, exists_const, u64?_eq_some, and_assoc,
    exists_and_left, exists_eq_left', I64.le_iff, I64.val_zero, I64.val_ofNat]
  norm_num only [minConfidenceBps, maxBps, votingBlocks, validatorQuorumBps]
  constructor
  · intro hv
    obtain ⟨st, act, t0, t2, c1, c2, n0, _, p0, _, s0, _, f0, _, a0, _, e0, _, r0, _, w0, _, l0, _, k0,
      _, b0, _, _, _, next, _, _, window, _, _, total, _, scaled, consensus, q1, q2, late, rules,
      counted, reset, event⟩ := hv
    exact ⟨⟨st, act⟩, ⟨t0, t2⟩, ⟨c1, c2⟩, ⟨p0, next⟩, ⟨s0, window⟩, ⟨f0, a0, by omega⟩, by omega,
      consensus, ⟨q1, q2⟩, late, ⟨rules, counted⟩, ⟨l0, reset⟩, event⟩
  · intro hc
    obtain ⟨⟨st, act⟩, ⟨t0, t2⟩, ⟨c1, c2⟩, ⟨p0, next⟩, ⟨s0, window⟩, ⟨f0, a0, total⟩, scaled, consensus,
      ⟨q1, q2⟩, late, ⟨rules, counted⟩, ⟨l0, reset⟩, event⟩ := hc
    have := s.nextProposalId.upper
    have := s.proposalId.upper
    have := s.submittedAtBlock.upper
    have := s.votesFor.upper
    have := s.votesAgainst.upper
    have := s.votingEndBlock.upper
    have := s.ruleCount.upper
    have := s.countInWindow.upper
    have := s.lastCountResetBlock.upper
    have := s.consensusScore.upper
    have := s.storedAtBlock.upper
    refine ⟨st, act, t0, t2, c1, c2, ?_⟩
    refine ⟨by omega, by omega, p0, by omega, s0, by omega, f0, by omega, a0, by omega, by omega, by
      omega, by omega, by omega, by omega, by omega, l0, by omega, by omega, by omega, by omega, by
      omega, by omega, by omega, next, by omega, by omega, window, by omega, by omega, by omega, by
      omega, by omega, consensus, q1, q2, late, rules, counted, reset, event⟩

/-- The metadata of a state. -/
def metadata (base32 : Vector UInt8 36 → String) (s : State Key) (ruleType : RuleType) :
    RuleStateMetadata where
  proposalId := s.proposalId.val.toNat
  ruleId := ruleIdOf s.proposalId.val.toNat
  ruleType := ruleType
  ipfsCid := base32 s.ruleContentIpfs
  guardianId := s.guardianPk
  threatHash := s.threatHash
  confidenceBps := s.confidence.val.toNat
  consensusBps := s.consensusScore.val.toNat
  storedAtBlock := s.storedAtBlock.val.toNat
  active := s.active

theorem ruleTypeOf_exists (hr : 0 ≤ s.ruleType.val ∧ s.ruleType.val ≤ 2) :
    ∃ r, ruleTypeOf s.ruleType = some r := by
  have cases : s.ruleType = 0 ∨ s.ruleType = 1 ∨ s.ruleType = 2 := by
    simp only [I64.eq_iff, I64.val_zero, I64.val_one, I64.val_ofNat]
    omega
  unfold ruleTypeOf
  obtain h0 | h1 | h2 := cases
  · exact ⟨.yara, by rw [if_pos h0]⟩
  · refine ⟨.stix, ?_⟩
    rw [h1]
    rfl
  · refine ⟨.sigma, ?_⟩
    rw [h2]
    rfl

theorem u16?_eq_some {n m : Nat} : u16? n = some m ↔ n < 2 ^ 16 ∧ n = m := by
  unfold u16?
  by_cases hn : n < 2 ^ 16
  · rw [if_pos hn, Option.some.injEq]
    exact (and_iff_right hn).symm
  · rw [if_neg hn]
    constructor
    · intro hnone
      cases hnone
    · intro hm
      exact absurd hm.1 hn

/-- A document is decoded exactly when its twenty arguments are consistent, with a threat hash and a
    raw sha2-256 CID. -/
theorem decodeState_some {fromStr : List UInt8 → Option Value} {base32 : Vector UInt8 36 → String}
    {json : List UInt8} {m : RuleStateMetadata} :
    decodeState fromStr base32 json = some m ↔
      json.length ≤ maxStateJsonBytes ∧ ∃ entries s r, fromStr json = some (.array entries) ∧
        parseEntries entries = some s ∧ Consistent s ∧ s.threatHash ≠ Vector.replicate 32 0 ∧
        s.ruleContentIpfs.toList.take 4 = cidRawSha256Header ∧ ruleTypeOf s.ruleType = some r ∧
        m = metadata base32 s r := by
  simp only [decodeState, line_bind, require_eq_some, exists_const, validateSemantics_some,
    u64?_eq_some, u16?_eq_some, and_assoc, exists_and_left, exists_eq_left', pure,
    Option.some.injEq]
  constructor
  · intro hd
    obtain ⟨small, value, hvalue, entries, hentries, _, s, hs, consistent, _, _, _, _, _, _, _, _, hash,
      cid, r, hr, _, _, rfl⟩ := hd
    refine ⟨small, entries, ?_, s, hs, consistent, hash, cid, r, hr, rfl⟩
    cases value with
    | array items =>
      cases hentries
      exact hvalue
    | null => cases hentries
    | bool b => cases hentries
    | integer n => cases hentries
    | float => cases hentries
    | string text => cases hentries
    | object fields => cases hentries
  · intro hd
    obtain ⟨small, entries, hvalue, s, hs, consistent, hash, cid, r, hr, rfl⟩ := hd
    have count : entries.length = stateEntryCount := by
      unfold parseEntries at hs
      split at hs
      · rfl
      · cases hs
    have := s.proposalId.upper
    have := s.confidence.upper
    have := s.consensusScore.upper
    have := s.storedAtBlock.upper
    have proposal := consistent.proposal.1
    have confidence := consistent.confidence
    have quorum := consistent.quorum
    have stored := consistent.late
    have window := consistent.window
    exact ⟨small, .array entries, hvalue, entries, rfl, count, s, hs, consistent, proposal, by omega,
      by omega, by omega, by omega, by omega, by omega, by omega, hash, cid, r, hr, by omega, by omega,
      rfl⟩

/-! ## What the covenant reaches -/

/-- A rule storage at its start: every counter and height is zero. -/
structure Genesis (s : State Key) : Prop where
  nextProposalId : s.nextProposalId = 0
  status : s.status = RuleStorage.statusEmpty
  ruleCount : s.ruleCount = 0
  countInWindow : s.countInWindow = 0
  lastCountResetBlock : s.lastCountResetBlock = 0

/-- A submission carries a raw sha2-256 CID. -/
def RawCid : Call Key Sig → Prop
  | .submitProposal _ _ _ cid _ _ _ => cid.toList.take 4 = cidRawSha256Header
  | .voteOnProposal _ _ _ _ => True
  | .finalizeProposal _ _ => True
  | .deactivateRule _ => True

/-- What holds of the item in the slot. -/
structure ItemSound (s : State Key) : Prop where
  proposal : 0 ≤ s.proposalId.val ∧ s.nextProposalId.val = s.proposalId.val + 1
  ruleType : 0 ≤ s.ruleType.val ∧ s.ruleType.val ≤ 2
  confidence : 8500 ≤ s.confidence.val ∧ s.confidence.val ≤ 10000
  hash : s.threatHash ≠ Vector.replicate 32 0
  cid : s.ruleContentIpfs.toList.take 4 = cidRawSha256Header
  window : 0 ≤ s.submittedAtBlock.val ∧ s.votingEndBlock.val = s.submittedAtBlock.val + 864000
  votes : 0 ≤ s.votesFor.val ∧ 0 ≤ s.votesAgainst.val
  counted : 1 ≤ s.countInWindow.val

/-- What holds of an accepted rule. -/
structure AcceptedSound (s : State Key) : Prop where
  voted : 0 < s.votesFor.val + s.votesAgainst.val
  scaled : s.votesFor.val * 10000 < 2 ^ 63
  consensus : s.votesFor.val * 10000 / (s.votesFor.val + s.votesAgainst.val) = s.consensusScore.val
  quorum : 6700 ≤ s.consensusScore.val
  late : s.votingEndBlock.val ≤ s.storedAtBlock.val
  ruled : 1 ≤ s.ruleCount.val
  event : s.guardianReputationEvent = guardianEventAccepted

/-- What holds of every state of a rule storage. -/
structure Sound (s : State Key) : Prop where
  next : 0 ≤ s.nextProposalId.val
  rules : 0 ≤ s.ruleCount.val
  counted : 0 ≤ s.countInWindow.val
  reset : 0 ≤ s.lastCountResetBlock.val
  item : s.status ≠ RuleStorage.statusEmpty → ItemSound s
  accepted : s.status = RuleStorage.statusAccepted → AcceptedSound s

theorem Genesis.sound (hs : Genesis s) : Sound s := by
  constructor
  · simp [hs.nextProposalId]
  · simp [hs.ruleCount]
  · simp [hs.countInWindow]
  · simp [hs.lastCountResetBlock]
  · intro filled
    exact absurd hs.status filled
  · intro accepted
    rw [hs.status] at accepted
    exact absurd accepted (by decide)

theorem countWindow_sound {height : I64} {window : I64 × I64} (inv : Sound s)
    (hh : 0 ≤ height.val) (hw : RuleStorage.countWindow s height = some window) :
    0 ≤ window.1.val ∧ 0 ≤ window.2.val := by
  obtain ⟨_, rfl⟩ := RuleStorage.countWindow_some.1 hw
  have counted := inv.counted
  have reset := inv.reset
  by_cases past : s.lastCountResetBlock.val + 864000 < height.val
  · rw [if_pos past]
    exact ⟨le_refl _, hh⟩
  · rw [if_neg past]
    exact ⟨counted, reset⟩

theorem tick_nonneg (support side : Bool) : 0 ≤ tick support side := by
  unfold tick
  by_cases hs : support = side <;> simp [hs]

theorem Sound.step {c : Call Key Sig} (inv : Sound s) (raw : RawCid c)
    (hc : RuleStorage.step checkSig c s = some t) : Sound t := by
  cases c with
  | submitProposal pk hash type cid confidence height sig =>
    obtain ⟨_, c1, c2, t1, t2, hne, hh, hn, _, window, next, votingEnd, count, hw, hnext, hv, hcount,
      rfl⟩ := RuleStorage.submitProposal_some.1 hc
    obtain ⟨w1, w2⟩ := countWindow_sound inv hh hw
    constructor
    · simp only
      omega
    · exact inv.rules
    · simp only
      omega
    · exact w2
    · intro _
      exact ⟨⟨hn, hnext⟩, ⟨t1, t2⟩, ⟨c1, c2⟩, hne, raw, ⟨hh, hv⟩, ⟨le_refl _, le_refl _⟩, by
        simp only
        omega⟩
    · intro accepted
      have pending : RuleStorage.statusPending ≠ RuleStorage.statusAccepted := by decide
      exact absurd accepted pending
  | voteOnProposal support height sig pk =>
    obtain ⟨pending, _, _, _, f, a, hf, ha, rfl⟩ := RuleStorage.voteOnProposal_some.1 hc
    have item := inv.item (by rw [pending]; decide)
    have votes := item.votes
    have := tick_nonneg support true
    have := tick_nonneg support false
    constructor
    · exact inv.next
    · exact inv.rules
    · exact inv.counted
    · exact inv.reset
    · intro _
      exact ⟨item.proposal, item.ruleType, item.confidence, item.hash, item.cid, item.window, by
        simp only
        omega, item.counted⟩
    · intro accepted
      simp only [pending] at accepted
      exact absurd accepted (by decide)
  | finalizeProposal height sig =>
    obtain ⟨pending, late, _, total, scaled, approval, ht, positive, hs, ha, count, hcount, rfl⟩ :=
      RuleStorage.finalizeProposal_some.1 hc
    have item := inv.item (by rw [pending]; decide)
    have rules := inv.rules
    unfold RuleStorage.finalized
    by_cases quorum : 6700 ≤ approval.val
    · rw [if_pos quorum]
      have counted := hcount quorum
      constructor
      · exact inv.next
      · simp only
        omega
      · exact inv.counted
      · exact inv.reset
      · intro _
        exact ⟨item.proposal, item.ruleType, item.confidence, item.hash, item.cid, item.window,
          item.votes, item.counted⟩
      · intro _
        have votes := item.votes
        rw [hs, ht, Int.tdiv_eq_ediv_of_nonneg (by omega)] at ha
        have := scaled.upper
        refine ⟨by simp only; omega, by simp only; omega, ha.symm, quorum, late, ?_, rfl⟩
        simp only
        omega
    · rw [if_neg quorum]
      constructor
      · exact inv.next
      · exact inv.rules
      · exact inv.counted
      · exact inv.reset
      · intro _
        exact ⟨item.proposal, item.ruleType, item.confidence, item.hash, item.cid, item.window,
          item.votes, item.counted⟩
      · intro accepted
        have rejected : RuleStorage.statusRejected ≠ RuleStorage.statusAccepted := by decide
        exact absurd accepted rejected
  | deactivateRule sig =>
    obtain ⟨accepted, _, _, rfl⟩ := RuleStorage.deactivateRule_some.1 hc
    have item := inv.item (by rw [accepted]; decide)
    have sound := inv.accepted accepted
    constructor
    · exact inv.next
    · exact inv.rules
    · exact inv.counted
    · exact inv.reset
    · intro _
      exact ⟨item.proposal, item.ruleType, item.confidence, item.hash, item.cid, item.window,
        item.votes, item.counted⟩
    · intro _
      exact ⟨sound.voted, sound.scaled, sound.consensus, sound.quorum, sound.late, sound.ruled,
        sound.event⟩

theorem Genesis.run (hs : Genesis s) (r : Run (RuleStorage.step checkSig) s h t)
    (raw : ∀ x ∈ h, RawCid x.call) : Sound t :=
  r.invariant_of hs.sound fun x hx inv hc => inv.step (raw x hx) hc

/-- An accepted and active state is consistent but for the block its counter was reset at. -/
theorem Sound.consistent_iff (inv : Sound s) (accepted : s.status = RuleStorage.statusAccepted)
    (active : s.active = true) :
    Consistent s ↔ s.lastCountResetBlock.val ≤ s.submittedAtBlock.val := by
  constructor
  · intro consistent
    exact consistent.reset.2
  · intro reset
    have item := inv.item (by rw [accepted]; decide)
    have sound := inv.accepted accepted
    have votes := item.votes
    have voted := sound.voted
    have scaled := sound.scaled
    have most : s.consensusScore.val ≤ 10000 := by
      rw [← sound.consensus]
      apply Int.ediv_le_of_le_mul voted
      omega
    exact ⟨⟨accepted, active⟩, item.ruleType, item.confidence, item.proposal, item.window,
      ⟨votes.1, votes.2, voted⟩, by omega, sound.consensus, ⟨sound.quorum, most⟩, sound.late,
      ⟨sound.ruled, item.counted⟩, ⟨inv.reset, reset⟩, sound.event⟩

/-! ## Agreement -/

/-- The metadata carries what the client reads of a state. -/
structure Carries (m : RuleStateMetadata) (s : State Key) : Prop where
  proposalId : (m.proposalId : Int) = s.proposalId.val
  confidence : (m.confidenceBps : Int) = s.confidence.val
  consensus : (m.consensusBps : Int) = s.consensusScore.val
  threatHash : m.threatHash = s.threatHash

theorem decodes_iff {fromStr : List UInt8 → Option Value} {base32 : Vector UInt8 36 → String}
    {json : List UInt8} (inv : Sound s) (accepted : s.status = RuleStorage.statusAccepted)
    (active : s.active = true) (small : json.length ≤ maxStateJsonBytes)
    (document : fromStr json = some (.array (constructorArgs s))) :
    (∃ m, decodeState fromStr base32 json = some m ∧ Carries m s) ↔
      s.lastCountResetBlock.val ≤ s.submittedAtBlock.val := by
  rw [← inv.consistent_iff accepted active]
  constructor
  · intro hd
    obtain ⟨m, hm, _⟩ := hd
    obtain ⟨_, entries, s', r, hvalue, hs', consistent, _⟩ := decodeState_some.1 hm
    rw [document] at hvalue
    cases hvalue
    rw [parseEntries_constructorArgs] at hs'
    cases hs'
    exact consistent
  · intro consistent
    have item := inv.item (by rw [accepted]; decide)
    obtain ⟨r, hr⟩ := ruleTypeOf_exists item.ruleType
    refine ⟨metadata base32 s r, ?_, ?_⟩
    · apply decodeState_some.2
      exact ⟨small, _, s, r, document, parseEntries_constructorArgs s, consistent, item.hash, item.cid,
        hr, rfl⟩
    · have proposal := item.proposal.1
      have confidence := item.confidence.1
      have quorum := consistent.quorum.1
      constructor
      · simp only [metadata]
        omega
      · simp only [metadata]
        omega
      · simp only [metadata]
        omega
      · rfl

/-- A consistent state is the outcome of a finalization exactly when its votes, in basis points, fit
    a signed script integer. -/
theorem Consistent.finalized_iff (consistent : Consistent s)
    (hsig : ∃ sig, checkSig sig s.governancePk = true) :
    (∃ p height sig, finalizeProposal checkSig p height sig = some s) ↔
      s.votesFor.val * 10000 < 2 ^ 63 := by
  constructor
  · intro hf
    obtain ⟨p, height, sig, hc⟩ := hf
    obtain ⟨_, _, _, _, scaled, approval, _, _, hs, _, count, _, hpost⟩ :=
      RuleStorage.finalizeProposal_some.1 hc
    have votes : s.votesFor = p.votesFor := by
      rw [hpost]
      exact RuleStorage.finalized_votes.1
    have := scaled.upper
    rw [votes]
    omega
  · intro fits
    obtain ⟨sig, hsig⟩ := hsig
    obtain ⟨votesFor, votesAgainst, voted⟩ := consistent.votes
    have consensus := consistent.consensus
    have quorum := consistent.quorum
    have ruled := consistent.counts.1
    have bounds := s.ruleCount.bounds
    have reached : 6700 * (s.votesFor.val + s.votesAgainst.val) ≤ s.votesFor.val * 10000 := by
      apply (Int.le_ediv_iff_mul_le voted).1
      omega
    obtain ⟨total, ht⟩ : ∃ total : I64, total.val = s.votesFor.val + s.votesAgainst.val := by
      apply I64.exists_val.2
      omega
    obtain ⟨scaled, hs⟩ : ∃ scaled : I64, scaled.val = s.votesFor.val * 10000 := by
      apply I64.exists_val.2
      omega
    obtain ⟨rules, hrules⟩ : ∃ rules : I64, rules.val = s.ruleCount.val - 1 := by
      apply I64.exists_val.2
      omega
    refine ⟨{ s with status := RuleStorage.statusPending, ruleCount := rules }, s.storedAtBlock, sig,
      ?_⟩
    apply RuleStorage.finalizeProposal_some.2
    refine ⟨rfl, consistent.late, hsig, total, scaled, s.consensusScore, ht, by omega, hs, ?_,
      s.ruleCount, ?_, ?_⟩
    · rw [hs, ht, Int.tdiv_eq_ediv_of_nonneg (by omega)]
      exact consensus.symm
    · intro _
      simp only
      omega
    · unfold RuleStorage.finalized
      rw [if_pos quorum.1]
      obtain ⟨status, active⟩ := consistent.status
      have event := consistent.event
      cases s
      simp only at status active event
      rw [status, active, event]
      rfl

/-- An accepted and active state that a rule storage reaches is decoded, to its own metadata, exactly
    when its submission is no earlier than the block its counter was last reset at; and what the
    decoder accepts is the outcome of a finalization exactly when its votes fit, in basis points, a
    signed script integer. -/
theorem decoder_agrees_iff (checkSig : Sig → Key → Bool) (fromStr : List UInt8 → Option Value)
    (base32 : Vector UInt8 36 → String) :
    (∀ (s t : State Key) (h : List (Transition (State Key) (Call Key Sig))), Genesis s →
      Run (RuleStorage.step checkSig) s h t → (∀ x ∈ h, RawCid x.call) →
      t.status = RuleStorage.statusAccepted → t.active = true →
      ∀ json : List UInt8, json.length ≤ maxStateJsonBytes →
        fromStr json = some (.array (constructorArgs t)) →
        ((∃ m, decodeState fromStr base32 json = some m ∧ Carries m t) ↔
          t.lastCountResetBlock.val ≤ t.submittedAtBlock.val)) ∧
    (∀ json m, decodeState fromStr base32 json = some m →
      ∃ entries s, fromStr json = some (.array entries) ∧ parseEntries entries = some s ∧
        ((∃ sig, checkSig sig s.governancePk = true) →
          ((∃ p height sig, finalizeProposal checkSig p height sig = some s) ↔
            s.votesFor.val * 10000 < 2 ^ 63))) := by
  constructor
  · intro s t h hs r raw accepted active json small document
    exact decodes_iff (hs.run r raw) accepted active small document
  · intro json m hm
    obtain ⟨_, entries, s, _, hvalue, hparse, consistent, _⟩ := decodeState_some.1 hm
    exact ⟨entries, s, hvalue, hparse, fun hsig => consistent.finalized_iff hsig⟩

/-! ## Examples -/

section Examples

open Prometheus.Codec

/-- `serde_json` on an `i64`. -/
def serdeInt (n : Int) : Bytes := if n < 0 then 45 :: serdeNat n.natAbs else serdeNat n.toNat

def serdeTagged (kind : String) (data : Bytes) : Bytes :=
  serdeStruct [("kind", serdeString (ascii kind)), ("data", data)]

def serdeBytes (bytes : List UInt8) : Bytes :=
  serdeTagged "array" (serdeArray (bytes.map fun b => serdeTagged "byte" (serdeNat b.toNat)))

/-- The text of a state's constructor arguments. -/
def documentText (s : State Key) : Bytes :=
  let int := fun n : I64 => serdeTagged "int" (serdeInt n.val)
  serdeArray
    [serdeBytes s.governancePk.toList, int s.nextProposalId, int s.proposalId,
      serdeBytes s.guardianPk.toList, serdeBytes s.threatHash.toList, int s.ruleType,
      serdeBytes s.ruleContentIpfs.toList, int s.confidence, int s.submittedAtBlock, int s.votesFor,
      int s.votesAgainst, int s.votingEndBlock, int s.status, int s.ruleCount, int s.countInWindow,
      int s.lastCountResetBlock, int s.consensusScore, int s.storedAtBlock,
      serdeTagged "bool" (ascii (if s.active then "true" else "false")),
      int s.guardianReputationEvent]

/-- A reader of the one document of `s`. -/
def readsDocument (s : State Key) (json : Bytes) : Option Value :=
  if json = documentText s then some (.array (constructorArgs s)) else none

def exampleKey (n : UInt8) : Key := Vector.replicate 32 n

/-- A rule storage that never held a proposal, governed by key `9`. -/
def exampleGenesis : State Key where
  governancePk := exampleKey 9
  nextProposalId := 0
  proposalId := 0
  guardianPk := exampleKey 0
  threatHash := RuleStorage.emptyThreatHash
  ruleType := 0
  ruleContentIpfs := Vector.replicate 36 0
  confidence := 0
  submittedAtBlock := 0
  votesFor := 0
  votesAgainst := 0
  votingEndBlock := 0
  status := RuleStorage.statusEmpty
  ruleCount := 0
  countInWindow := 0
  lastCountResetBlock := 0
  consensusScore := 0
  storedAtBlock := 0
  active := false
  guardianReputationEvent := RuleStorage.guardianEventNone

/-- Keys sign with themselves in the examples. -/
def exampleSig (sig pk : Key) : Bool := sig == pk

def exampleCid : Vector UInt8 36 :=
  ⟨(cidRawSha256Header ++ List.replicate 32 7).toArray, rfl⟩

/-- A proposal submitted at `height`, one vote for it, and its finalization. -/
def exampleRule (height vote finalize : I64) : List (Call Key Key) :=
  [.submitProposal (exampleKey 1) (Vector.replicate 32 7) 0 exampleCid 9000 height (exampleKey 1),
    .voteOnProposal true vote (exampleKey 2) (exampleKey 2),
    .finalizeProposal finalize (exampleKey 9)]

theorem exampleGenesis_genesis : Genesis exampleGenesis := ⟨rfl, rfl, rfl, rfl, rfl⟩

/-- What the examples compute of a run: that its CIDs are raw, that it ends accepted and active with
    a small document, and the two blocks the decoder compares. -/
def exampleSummary (p : List (Transition (State Key) (Call Key Key)) × State Key) :
    Bool × I64 × Bool × Bool × I64 × I64 :=
  (p.1.all fun x => match x.call with
      | .submitProposal _ _ _ cid _ _ _ => cid.toList.take 4 == cidRawSha256Header
      | _ => true,
    p.2.status, p.2.active, decide ((documentText p.2).length ≤ maxStateJsonBytes),
    p.2.lastCountResetBlock, p.2.submittedAtBlock)

theorem exampleSummary_run (cs : List (Call Key Key)) (reset submitted : I64)
    (hr : (replay (RuleStorage.step exampleSig) cs [] exampleGenesis).map exampleSummary =
      some (true, RuleStorage.statusAccepted, true, true, reset, submitted)) :
    ∃ h t, Run (RuleStorage.step exampleSig) exampleGenesis h t ∧ (∀ x ∈ h, RawCid x.call) ∧
      t.status = RuleStorage.statusAccepted ∧ t.active = true ∧
      (documentText t).length ≤ maxStateJsonBytes ∧ t.lastCountResetBlock = reset ∧
      t.submittedAtBlock = submitted := by
  obtain ⟨⟨h, t⟩, hp, hsum⟩ := Option.map_eq_some_iff.1 hr
  simp only [exampleSummary, Prod.mk.injEq, decide_eq_true_eq, List.all_eq_true] at hsum
  obtain ⟨raw, accepted, active, small, hreset, hsubmitted⟩ := hsum
  refine ⟨h, t, Run.genesis.of_replay hp, ?_, accepted, active, small, hreset, hsubmitted⟩
  intro x hx
  have := raw x hx
  cases hcall : x.call with
  | submitProposal pk hash type cid confidence height sig =>
    rw [hcall] at this
    simpa [RawCid] using this
  | voteOnProposal support height sig pk => trivial
  | finalizeProposal height sig => trivial
  | deactivateRule sig => trivial

/-- The rule accepted after one submission is decoded. -/
theorem decoder_agrees_iff_first : ∃ (t : State Key) (m : RuleStateMetadata),
    t.status = RuleStorage.statusAccepted ∧
      decodeState (readsDocument t) (fun _ => "") (documentText t) = some m ∧ Carries m t := by
  obtain ⟨h, t, r, raw, accepted, active, small, hreset, hsubmitted⟩ := exampleSummary_run
    (exampleRule 5 6 864005) 0 5 (by decide +kernel)
  have all := (decoder_agrees_iff exampleSig (readsDocument t) (fun _ => "")).1 _ _ _
    exampleGenesis_genesis r raw accepted active (documentText t) small (if_pos rfl)
  obtain ⟨m, hm⟩ := all.2 (by rw [hreset, hsubmitted]; decide)
  exact ⟨t, m, accepted, hm⟩

/-- A rule submitted at a height below an earlier submission's is accepted and never decoded. -/
theorem earlier_submission_undecoded :
    ¬ ∀ (fromStr : Bytes → Option Value) (s t : State Key)
      (h : List (Transition (State Key) (Call Key Key))), Genesis s →
      Run (RuleStorage.step exampleSig) s h t → (∀ x ∈ h, RawCid x.call) →
      t.status = RuleStorage.statusAccepted → t.active = true →
      ∀ json : Bytes, json.length ≤ maxStateJsonBytes →
        fromStr json = some (.array (constructorArgs t)) →
        ∃ m, decodeState fromStr (fun _ => "") json = some m := by
  intro claim
  obtain ⟨h, t, r, raw, accepted, active, small, hreset, hsubmitted⟩ := exampleSummary_run
    (exampleRule 1000000 1000001 1864000 ++ exampleRule 5 6 864005) 1000000 5 (by decide +kernel)
  obtain ⟨m, hm⟩ := claim (readsDocument t) _ _ _ exampleGenesis_genesis r raw accepted active
    (documentText t) small (if_pos rfl)
  obtain ⟨_, entries, s, _, hvalue, hparse, consistent, _⟩ := decodeState_some.1 hm
  rw [readsDocument, if_pos rfl] at hvalue
  cases hvalue
  rw [parseEntries_constructorArgs] at hparse
  cases hparse
  have late := consistent.reset.2
  rw [hreset, hsubmitted] at late
  exact absurd late (by decide)

end Examples

end Prometheus.Client.RuleState
