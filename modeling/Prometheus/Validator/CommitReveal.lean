import Prometheus.Contracts.ValidatorStaking

/-!
# Commit and reveal on the validator node

The node builds a commitment from `u64` values; `ValidatorStakingState` checks it with signed script
integers. `Represents` relates the two: the same number on both sides. A salt and a height that pass
`validateSilvercCommitmentBounds` have a script integer, and on those the eight little-endian bytes
of the node are the contract's `byte[8]`, so both sides hash one preimage.
-/

namespace Prometheus.Validator.CommitReveal

open Prometheus.Codec Prometheus.Contracts

def bondPercent : UInt64 := 10

/-- `vote_byte(1) || salt_le(8) || block_height_le(8)`. -/
def commitmentPreimageLen : Nat := 17

/-- `i64::MAX as u64`. -/
def silvercSignedIntMaxU64 : UInt64 := 9223372036854775807

inductive CommitmentBoundaryError where
  | saltExceedsSilvercInt (salt : UInt64)
  | blockHeightExceedsSilvercInt (blockHeight : UInt64)
  deriving DecidableEq

structure VoteCommitment where
  commitmentHash : Vector UInt8 32
  proposalId : UInt64
  validatorAddr : Vector UInt8 32
  blockHeight : UInt64
  bondKas : UInt64
  deriving DecidableEq

structure CommitmentBuilder where
  validatorAddr : Vector UInt8 32

inductive RevealResult where
  | valid
  | invalidHash (expected got : Vector UInt8 32)
  | bondInsufficient (required provided : UInt64)
  deriving DecidableEq

/-- `u64::saturating_mul`. -/
def saturatingMul (a b : UInt64) : UInt64 :=
  if a.toNat * b.toNat < 2 ^ 64 then a * b else 18446744073709551615

/-- `u64::to_le_bytes`. -/
def toLeBytes (n : UInt64) : Bytes := toBytesLittle 8 n.toNat

def commitmentPreimageBytes (vote : Bool) (salt blockHeight : UInt64) : Bytes :=
  (if vote then 1 else 0) :: (toLeBytes salt ++ toLeBytes blockHeight)

def validateSilvercCommitmentBounds (salt blockHeight : UInt64) :
    Except CommitmentBoundaryError Unit :=
  if salt > silvercSignedIntMaxU64 then
    .error (.saltExceedsSilvercInt salt)
  else if blockHeight > silvercSignedIntMaxU64 then
    .error (.blockHeightExceedsSilvercInt blockHeight)
  else
    .ok ()

/-- `RevealValidator::calculate_bond`; the builder computes the same product. -/
def calculateBond (stakeKas : UInt64) : UInt64 := saturatingMul stakeKas bondPercent / 100

def checkBond (stakeKas providedBond : UInt64) : RevealResult :=
  let required := calculateBond stakeKas
  if providedBond ≥ required then .valid else .bondInsufficient required providedBond

section Hash

variable (sha256 : Bytes → Vector UInt8 32)

def computeCommitmentHash (vote : Bool) (salt blockHeight : UInt64) : Vector UInt8 32 :=
  sha256 (commitmentPreimageBytes vote salt blockHeight)

def CommitmentBuilder.build (self : CommitmentBuilder) (proposalId : UInt64) (vote : Bool)
    (salt blockHeight stakeKas : UInt64) : VoteCommitment where
  commitmentHash := computeCommitmentHash sha256 vote salt blockHeight
  proposalId := proposalId
  validatorAddr := self.validatorAddr
  blockHeight := blockHeight
  bondKas := saturatingMul stakeKas bondPercent / 100

def CommitmentBuilder.buildSilvercChecked (self : CommitmentBuilder) (proposalId : UInt64)
    (vote : Bool) (salt blockHeight stakeKas : UInt64) :
    Except CommitmentBoundaryError VoteCommitment := do
  validateSilvercCommitmentBounds salt blockHeight
  return self.build sha256 proposalId vote salt blockHeight stakeKas

/-- `CommitmentBuilder::verify`. -/
def verify (commitment : VoteCommitment) (vote : Bool) (salt : UInt64) : Bool :=
  computeCommitmentHash sha256 vote salt commitment.blockHeight == commitment.commitmentHash

def validateReveal (commitment : VoteCommitment) (vote : Bool) (salt : UInt64) : RevealResult :=
  let computed := computeCommitmentHash sha256 vote salt commitment.blockHeight
  if computed = commitment.commitmentHash then .valid
  else .invalidHash commitment.commitmentHash computed

end Hash

variable {PubKey Sig : Type} {checkSig : Sig → PubKey → Bool} {sha256 : Bytes → Vector UInt8 32}

/-! ## The bond -/

theorem toNat_saturatingMul {a b : UInt64} (fits : a.toNat * b.toNat < 2 ^ 64) :
    (saturatingMul a b).toNat = a.toNat * b.toNat := by
  rw [saturatingMul, if_pos fits, UInt64.toNat_mul]
  exact Nat.mod_eq_of_lt fits

theorem toNat_calculateBond {stake : UInt64} (fits : stake.toNat * 10 < 2 ^ 64) :
    (calculateBond stake).toNat = stake.toNat * 10 / 100 := by
  rw [calculateBond, UInt64.toNat_div, toNat_saturatingMul fits]
  rfl

/-- The bond a builder posts always passes the node's own check, saturated or not. -/
theorem checkBond_build (builder : CommitmentBuilder) (proposalId : UInt64) (vote : Bool)
    (salt height stake : UInt64) :
    checkBond stake (builder.build sha256 proposalId vote salt height stake).bondKas = .valid := by
  have enough : (builder.build sha256 proposalId vote salt height stake).bondKas ≥
      calculateBond stake := UInt64.le_refl _
  rw [checkBond, if_pos enough]

/-! ## The preimage -/

@[simp] theorem length_commitmentPreimageBytes (vote : Bool) (salt height : UInt64) :
    (commitmentPreimageBytes vote salt height).length = commitmentPreimageLen := by
  simp [commitmentPreimageBytes, toLeBytes, commitmentPreimageLen]

theorem toLeBytes_inj {m n : UInt64} (h : toLeBytes m = toLeBytes n) : m = n := by
  have same := toBytesLittle_inj m.toNat_lt n.toNat_lt h
  exact UInt64.toNat_inj.1 same

theorem commitmentPreimageBytes_inj {vote vote' : Bool} {salt salt' height height' : UInt64}
    (h : commitmentPreimageBytes vote salt height = commitmentPreimageBytes vote' salt' height') :
    vote = vote' ∧ salt = salt' ∧ height = height' := by
  obtain ⟨first, rest⟩ := List.cons.inj h
  obtain ⟨salts, heights⟩ := List.append_inj rest (by simp [toLeBytes])
  refine ⟨?_, toLeBytes_inj salts, toLeBytes_inj heights⟩
  cases vote <;> cases vote' <;> first | rfl | cases first

/-! ## Both readings of a number -/

/-- A script integer and a `u64` that are the same number. -/
def Represents (script : I64) (n : UInt64) : Prop := script.val = n.toNat

theorem exists_represents {n : UInt64} (hn : n.toNat < 2 ^ 63) : ∃ script, Represents script n :=
  I64.exists_val.2 ⟨by omega, by omega⟩

/-- A script integer that is not negative is a `u64`. -/
theorem exists_represented {script : I64} (nonneg : 0 ≤ script.val) :
    ∃ n : UInt64, Represents script n := by
  have bounds := script.bounds
  have small : script.val.toNat < 2 ^ 64 := by omega
  refine ⟨UInt64.ofNat script.val.toNat, ?_⟩
  rw [Represents, UInt64.toNat_ofNat_of_lt' small]
  omega

theorem Represents.eq {a b : I64} {n : UInt64} (ha : Represents a n) (hb : Represents b n) :
    a = b := I64.eq_iff.2 (ha.trans hb.symm)

theorem Represents.byte8 {script : I64} {n : UInt64} (h : Represents script n) :
    ValidatorStaking.byte8 script = toLeBytes n := by
  have nonneg : ¬ script.val < 0 := by
    rw [Represents] at h
    omega
  have same : script.val.natAbs = n.toNat := by
    rw [Represents] at h
    omega
  rw [ValidatorStaking.byte8, if_neg nonneg, same, Nat.add_zero, toLeBytes]

theorem Represents.commitmentHash {salt height : I64} {salt' height' : UInt64} (vote : Bool)
    (hs : Represents salt salt') (hh : Represents height height') :
    ValidatorStaking.commitmentHash sha256 vote salt height =
      computeCommitmentHash sha256 vote salt' height' := by
  rw [ValidatorStaking.commitmentHash, computeCommitmentHash, commitmentPreimageBytes, hs.byte8,
    hh.byte8]
  cases vote <;> rfl

/-- The bounds a checked build has tested. -/
theorem buildSilvercChecked_ok {builder : CommitmentBuilder} {proposalId : UInt64} {vote : Bool}
    {salt height stake : UInt64} {c : VoteCommitment} :
    builder.buildSilvercChecked sha256 proposalId vote salt height stake = .ok c ↔
      salt.toNat < 2 ^ 63 ∧ height.toNat < 2 ^ 63 ∧
        c = builder.build sha256 proposalId vote salt height stake := by
  have limit : silvercSignedIntMaxU64.toNat = 2 ^ 63 - 1 := rfl
  unfold CommitmentBuilder.buildSilvercChecked validateSilvercCommitmentBounds
  by_cases hs : salt > silvercSignedIntMaxU64
  · rw [if_pos hs]
    rw [gt_iff_lt, UInt64.lt_iff_toNat_lt, limit] at hs
    constructor
    · intro h
      cases h
    · intro h
      omega
  · rw [if_neg hs]
    rw [gt_iff_lt, UInt64.lt_iff_toNat_lt, limit] at hs
    by_cases hh : height > silvercSignedIntMaxU64
    · rw [if_pos hh]
      rw [gt_iff_lt, UInt64.lt_iff_toNat_lt, limit] at hh
      constructor
      · intro h
        cases h
      · intro h
        omega
    · rw [if_neg hh]
      rw [gt_iff_lt, UInt64.lt_iff_toNat_lt, limit] at hh
      constructor
      · intro h
        cases h
        exact ⟨by omega, by omega, rfl⟩
      · intro h
        rw [h.2.2]
        rfl

/-! ## The contract on a built commitment -/

/-- The bond checks of `commitVote`, as the script evaluates them. -/
def bondChecks (stakeKas newBondKas : I64) : Option Unit := do
  let scaled ← stakeKas.mul ValidatorStaking.bondPercent
  let leastBond ← scaled.div 100
  require (newBondKas ≥ leastBond)
  require (newBondKas ≤ stakeKas)

/-- Some commitment is accepted from `s`. -/
def CommitEnabled (checkSig : Sig → PubKey → Bool) (s : ValidatorStaking.State PubKey) : Prop :=
  ∃ c bond height sig, (ValidatorStaking.commitVote checkSig s c bond height sig).isSome

theorem calculateBond_bounds {stake : UInt64} (fits : stake.toNat * 10 < 2 ^ 64) :
    ((stake.toNat : Int) * 10).tdiv 100 ≤ (calculateBond stake).toNat ∧
      ((calculateBond stake).toNat : Int) ≤ stake.toNat := by
  rw [toNat_calculateBond fits, Int.tdiv_eq_ediv_of_nonneg (by omega)]
  constructor <;> omega

theorem bondChecks_calculateBond {stake bond : I64} {stake' : UInt64}
    (fits : stake'.toNat * 10 < 2 ^ 63) (hs : Represents stake stake')
    (hb : Represents bond (calculateBond stake')) : bondChecks stake bond = some () := by
  have wide : stake'.toNat * 10 < 2 ^ 64 := by omega
  have bounds := calculateBond_bounds wide
  rw [Represents] at hs hb
  obtain ⟨scaled, hscaled⟩ := I64.exists_val (n := stake.val * 10) |>.2 (by omega)
  obtain ⟨least, hleast⟩ := scaled.exists_tdiv (n := 100) (by decide)
  simp only [bondChecks, line_bind, require_eq_some, exists_const, I64.mul_eq_some, I64.div_eq_some,
    ge_iff_le, I64.le_iff, ValidatorStaking.bondPercent, I64.val_ofNat]
  norm_num only
  refine ⟨scaled, hscaled, least, ⟨trivial, hleast⟩, ?_, ?_⟩
  · rw [hleast, hscaled, hs, hb]
    exact bounds.1
  · rw [hs, hb]
    exact bounds.2

/-- Where any commitment is accepted, one with the node's bond and a valid signature is. -/
theorem CommitEnabled.commitVote {s : ValidatorStaking.State PubKey} {c : Vector UInt8 32}
    {bond height : I64} {stake : UInt64} {sig : Sig} (enabled : CommitEnabled checkSig s)
    (fits : stake.toNat * 10 < 2 ^ 64) (hs : Represents s.stakeKas stake)
    (hb : Represents bond (calculateBond stake)) (hh : 0 ≤ height.val)
    (open' : ValidatorStaking.isEmptyCommitment c = false)
    (signed : checkSig sig s.validatorPk = true) :
    ValidatorStaking.commitVote checkSig s c bond height sig =
      some { s with commitment := c, bondKas := bond, committedAtBlock := height } := by
  obtain ⟨_, _, _, _, accepted⟩ := enabled
  obtain ⟨t, ht⟩ := Option.isSome_iff_exists.1 accepted
  obtain ⟨active, _, idle, empty, _, range, _⟩ := ValidatorStaking.commitVote_some.1 ht
  have bounds := calculateBond_bounds fits
  rw [Represents] at hs hb
  apply ValidatorStaking.commitVote_some.2
  refine ⟨active, hh, idle, empty, open', range, ?_, ?_, signed, rfl⟩
  · rw [hs, hb]
    exact bounds.1
  · rw [hs, hb]
    exact bounds.2

/-- A reveal that the contract accepts either repeats what was committed or exhibits two preimages
    with one hash. -/
theorem revealVote_binding {t u : ValidatorStaking.State PubKey} {vote vote' : Bool}
    {salt : I64} {salt' height : UInt64} {revealHeight script : I64} {sig : Sig}
    (hs : Represents script salt') (committedAt : Represents t.committedAtBlock height)
    (committed : t.commitment = computeCommitmentHash sha256 vote salt' height)
    (accepted :
      ValidatorStaking.revealVote checkSig sha256 t vote' salt revealHeight sig = some u) :
    (vote' = vote ∧ salt = script) ∨
      ∃ other, Represents salt other ∧
        commitmentPreimageBytes vote' other height ≠ commitmentPreimageBytes vote salt' height ∧
        sha256 (commitmentPreimageBytes vote' other height) =
          sha256 (commitmentPreimageBytes vote salt' height) := by
  obtain ⟨_, nonneg, _, _, hash, _⟩ := ValidatorStaking.revealVote_some.1 accepted
  obtain ⟨other, represented⟩ := exists_represented nonneg
  rw [represented.commitmentHash vote' committedAt, committed] at hash
  by_cases same :
      commitmentPreimageBytes vote' other height = commitmentPreimageBytes vote salt' height
  · obtain ⟨votes, salts, _⟩ := commitmentPreimageBytes_inj same
    rw [salts] at represented
    exact Or.inl ⟨votes, represented.eq hs⟩
  · exact Or.inr ⟨other, represented, same, hash⟩

/-- The node and the contract agree on a commitment from the build to the reveal. -/
theorem commit_reveal_agrees {builder : CommitmentBuilder} {proposalId : UInt64} {vote : Bool}
    {salt height stake : UInt64} {c : VoteCommitment}
    (built : builder.buildSilvercChecked sha256 proposalId vote salt height stake = .ok c)
    (fits : stake.toNat * 10 < 2 ^ 64) :
    ∃ saltInt heightInt bondInt : I64, Represents saltInt salt ∧
      Represents heightInt c.blockHeight ∧ Represents bondInt c.bondKas ∧
      c.blockHeight = height ∧
      -- one hash and one bond
      c.commitmentHash = ValidatorStaking.commitmentHash sha256 vote saltInt heightInt ∧
      ((stake.toNat : Int) * 10).tdiv 100 ≤ bondInt.val ∧ bondInt.val ≤ stake.toNat ∧
      (∀ stakeInt, Represents stakeInt stake → stake.toNat * 10 < 2 ^ 63 →
        bondChecks stakeInt bondInt = some ()) ∧
      validateReveal sha256 c vote salt = .valid ∧ checkBond stake c.bondKas = .valid ∧
      -- the honest commit, reveal and attempted slash
      (∀ (checkSig : Sig → PubKey → Bool) (s : ValidatorStaking.State PubKey) (sig : Sig),
        Represents s.stakeKas stake → CommitEnabled checkSig s →
        ValidatorStaking.isEmptyCommitment c.commitmentHash = false →
        checkSig sig s.validatorPk = true →
        ∃ t, ValidatorStaking.commitVote checkSig s c.commitmentHash bondInt heightInt sig =
            some t ∧
          (∀ revealHeight : I64, 0 ≤ revealHeight.val →
            (ValidatorStaking.revealVote checkSig sha256 t vote saltInt revealHeight sig).isSome) ∧
          (∀ anySig,
            ValidatorStaking.slashInvalidReveal checkSig sha256 t vote saltInt anySig = none) ∧
          -- any other opening
          ∀ vote' salt' revealHeight anySig,
            (ValidatorStaking.revealVote checkSig sha256 t vote' salt' revealHeight anySig).isSome →
            (vote' = vote ∧ salt' = saltInt) ∨
              ∃ other, Represents salt' other ∧
                commitmentPreimageBytes vote' other height ≠
                  commitmentPreimageBytes vote salt height ∧
                sha256 (commitmentPreimageBytes vote' other height) =
                  sha256 (commitmentPreimageBytes vote salt height)) ∧
      -- the preimage
      (commitmentPreimageBytes vote salt height).length = 17 ∧
      ∀ vote' salt' height',
        commitmentPreimageBytes vote' salt' height' = commitmentPreimageBytes vote salt height →
          vote' = vote ∧ salt' = salt ∧ height' = height := by
  obtain ⟨saltFits, heightFits, rfl⟩ := buildSilvercChecked_ok.1 built
  have bounds := calculateBond_bounds fits
  have bondFits : (calculateBond stake).toNat < 2 ^ 63 := by
    rw [toNat_calculateBond fits]
    omega
  obtain ⟨saltInt, hsalt⟩ := exists_represents saltFits
  obtain ⟨heightInt, hheight⟩ := exists_represents heightFits
  obtain ⟨bondInt, hbond⟩ := exists_represents bondFits
  have bondVal : bondInt.val = (calculateBond stake).toNat := hbond
  have hash : ValidatorStaking.commitmentHash sha256 vote saltInt heightInt =
      computeCommitmentHash sha256 vote salt height := hsalt.commitmentHash vote hheight
  refine ⟨saltInt, heightInt, bondInt, hsalt, hheight, hbond, rfl, hash.symm, ?_, ?_, ?_, ?_, ?_, ?_,
    ?_, ?_⟩
  · rw [bondVal]
    exact bounds.1
  · rw [bondVal]
    exact bounds.2
  · intro stakeInt hstake small
    exact bondChecks_calculateBond small hstake hbond
  · rw [validateReveal]
    exact if_pos rfl
  · exact checkBond_build builder proposalId vote salt height stake
  · intro checkSig s sig hstake enabled open' signed
    have heightNonneg : 0 ≤ heightInt.val := by
      rw [Represents] at hheight
      omega
    have saltNonneg : 0 ≤ saltInt.val := by
      rw [Represents] at hsalt
      omega
    have commit := enabled.commitVote fits hstake hbond heightNonneg open' signed
    obtain ⟨_, _, _, _, accepted⟩ := enabled
    obtain ⟨_, accepted⟩ := Option.isSome_iff_exists.1 accepted
    have active := (ValidatorStaking.commitVote_some.1 accepted).1
    refine ⟨_, commit, ?_, ?_, ?_⟩
    · intro revealHeight nonneg
      apply Option.isSome_iff_exists.2
      exact ⟨_, ValidatorStaking.revealVote_some.2
        ⟨active, saltNonneg, nonneg, open', hash, signed, rfl⟩⟩
    · intro anySig
      rw [Option.eq_none_iff_forall_ne_some]
      intro u slashed
      exact (ValidatorStaking.slashInvalidReveal_some.1 slashed).2.2.2.2.1 hash
    · intro vote' salt' revealHeight anySig revealed
      obtain ⟨u, revealed⟩ := Option.isSome_iff_exists.1 revealed
      exact revealVote_binding hsalt hheight rfl revealed
  · simp [commitmentPreimageLen]
  · intro vote' salt' height' same
    exact commitmentPreimageBytes_inj same

/-- The commitment of the vote `true` with salt 42 at height 1000, for a stake of 20000. -/
def exampleCommitment : VoteCommitment :=
  CommitmentBuilder.build ValidatorStaking.sha256Digest ⟨Vector.replicate 32 1⟩ 1 true 42 1000 20000

theorem exampleCommitment_hash :
    ValidatorStaking.isEmptyCommitment exampleCommitment.commitmentHash = false := by
  decide

/-- It is committed and revealed from a registered validator. -/
theorem commit_reveal_agrees_example :
    ∃ saltInt heightInt bondInt t,
      ValidatorStaking.commitVote ValidatorStaking.exampleSig
          (ValidatorStaking.exampleValidator 20000 0) exampleCommitment.commitmentHash bondInt
          heightInt 1 = some t ∧
        (ValidatorStaking.revealVote ValidatorStaking.exampleSig ValidatorStaking.sha256Digest t
          true saltInt 1100 1).isSome := by
  have built : CommitmentBuilder.buildSilvercChecked ValidatorStaking.sha256Digest
      ⟨Vector.replicate 32 1⟩ 1 true 42 1000 20000 = .ok exampleCommitment := rfl
  obtain ⟨saltInt, heightInt, bondInt, -, -, -, -, -, -, -, -, -, -, honest, -⟩ :=
    commit_reveal_agrees built (by decide)
  have enabled : CommitEnabled ValidatorStaking.exampleSig
      (ValidatorStaking.exampleValidator 20000 0) := by
    refine ⟨Vector.replicate 32 7, 2000, 9, 1, ?_⟩
    decide
  obtain ⟨t, commit, reveal, -, -⟩ := honest ValidatorStaking.exampleSig
    (ValidatorStaking.exampleValidator 20000 0) 1 rfl enabled exampleCommitment_hash rfl
  exact ⟨saltInt, heightInt, bondInt, t, commit, reveal 1100 (by decide)⟩

end Prometheus.Validator.CommitReveal
