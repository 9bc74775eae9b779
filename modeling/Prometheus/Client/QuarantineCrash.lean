import Prometheus.Client.QuarantineSafety
import Prometheus.Codec.Sha256

/-!
# Crashes and concurrent calls

The runs of the vault in which an item never keeps its second link: no `store` is killed between its
`hard_link` and the removal of its temporary file, the last inspection of a duplicate does not fall
into that time either, and no `store` draws the name of a temporary file that was left behind. In
these runs every `store` returns its record, and the item can be read from then on. The last theorem
is a run in which a `store` is killed there: the item stays unreadable.
-/

namespace Prometheus.Client.Quarantine

open Prometheus.Codec Prometheus.Machine

variable (sha256 : Bytes → Bytes)

/-- The bytes were given to a `store`. -/
def Stored (h : List VaultEvent) (bytes : Bytes) : Prop :=
  ∃ e ∈ h, ∃ k, e.input = .start k (.store bytes)

/-- No two stored byte strings collide. -/
def Apart (h : List VaultEvent) : Prop :=
  ∀ a b, Stored h a → Stored h b → NoCollision sha256 a b

/-- The temporary file of the call is linked as the item. -/
def Linked (k : Token) (d : Bytes) (w : Vault) : Prop :=
  ∃ i, (Name.temp k, i) ∈ w.names ∧ (Name.item d, i) ∈ w.names

/-- The vault has the bytes under their digest, with one link. -/
def Holds (bytes : Bytes) (w : Vault) : Prop :=
  ∃ i, w.lookup (.item (sha256 bytes)) = some i ∧ w.contents i = bytes ∧ w.links i = 1

/-- Nothing goes wrong while an item has a second link. -/
structure Undisturbed (h : List VaultEvent) : Prop where
  /-- A `store` that starts finds no temporary file of its name. -/
  fresh : ∀ e ∈ h, ∀ k bytes, e.input = .start k (.store bytes) → e.pre.live k = none →
    ∀ i, (Name.temp k, i) ∉ e.pre.world.names
  /-- No call is killed while its temporary file is linked. -/
  kills : ∀ e ∈ h, ∀ k, e.input = .kill k → ∀ d, ¬Linked k d e.pre.world
  /-- No `store` makes its last inspection of an item while the temporary file of a running call is
  linked as that item. -/
  inspections : ∀ e ∈ h, ∀ k d thread bytes, e.output = .performed k (.metadata (.item d) 0) →
    e.pre.live k = some thread → thread.call = .store bytes →
    ∀ k', (e.pre.live k').isSome → ¬Linked k' d e.pre.world

variable {sha256} {known : Bytes → Prop} {k : Token} {w w' : Vault}

/-! ## One call -/

variable (sha256) in
/-- What a call returns. -/
def Post (k : Token) (call : Call) (begun : Vault) (r : Except String Returned) (w : Vault) : Prop :=
  (∀ d, ¬Linked k d w) ∧
    match call with
    | .store bytes => bytes.length ≤ maxItemLen →
      r = .ok (.record (recordOf sha256 bytes)) ∧ Settled (sha256 bytes) w
    | .read record => ∀ bytes, record = recordOf sha256 bytes → Holds sha256 bytes begun →
      r = .ok (.bytes bytes)

theorem unlinked_stable :
    Stable sha256 known k fun w => Sound sha256 known w ∧ ∀ d, ¬Linked k d w := by
  rintro w w' changed ⟨sound, unlinked⟩
  refine ⟨changed.sound sound, ?_⟩
  rintro d ⟨i, isMine, isItem⟩
  have isMine := (changed.mine i).mp isMine
  exact unlinked d ⟨i, isMine, changed.unlinked sound d i isMine isItem⟩

theorem Absent.unlinked (absent : Absent sha256 known k w) (d : Bytes) : ¬Linked k d w := by
  rintro ⟨i, isMine, -⟩
  exact absent.none i isMine

/-- A vault that holds bytes got them from a call, and their item is settled. -/
theorem Holds.settled {bytes : Bytes} (sound : Sound sha256 known w) (holds : Holds sha256 bytes w) :
    known bytes ∧ bytes.length ≤ maxItemLen ∧ Settled (sha256 bytes) w := by
  obtain ⟨i, found, rfl, one⟩ := holds
  have isItem := (lookup_eq_some sound).mp found
  obtain ⟨isKnown, small, -⟩ := sound.stored _ i isItem
  exact ⟨isKnown, small, i, isItem, (links_eq_one_iff sound isItem).mp one⟩

theorem Settled.holds {bytes : Bytes} (sound : Sound sha256 known w) (isKnown : known bytes)
    (apart : ∀ a b, known a → known b → NoCollision sha256 a b)
    (settled : Settled (sha256 bytes) w) : Holds sha256 bytes w := by
  obtain ⟨i, isItem, single⟩ := settled
  exact ⟨i, (lookup_eq_some sound).mpr isItem, content_eq sound isKnown apart isItem,
    (links_eq_one_iff sound isItem).mpr single⟩

theorem store_program_coop {bytes : Bytes} (isKnown : known bytes)
    (apart : ∀ a b, known a → known b → NoCollision sha256 a b) (absent : Absent sha256 known k w) :
    (program sha256 k (.store bytes)).Cooperates exec (Rely sha256 known k) (Guar sha256 known k)
      (Admissible (.store bytes)) (Post sha256 k (.store bytes) w) w := by
  show Coop sha256 known k (.store bytes) (store sha256 k bytes >>= fun record =>
    pure (.record record)) (Post sha256 k (.store bytes) w) w
  apply Coop.bind
  by_cases small : bytes.length ≤ maxItemLen
  · refine (store_coop isKnown small apart absent).mono fun r w' done => ?_
    obtain ⟨held, rfl⟩ := done
    exact Coop.pure settled_stable held fun w held => ⟨held.1.unlinked, fun _ => ⟨rfl, held.2⟩⟩
  · apply Coop.check
    · intro fits
      exact absurd (of_decide_eq_true fits) small
    · intro _ w' changed w'' later
      have absent := absent_stable _ _ later (absent_stable _ _ changed absent)
      exact ⟨absent.unlinked, fun fits => absurd fits small⟩

theorem read_program_coop (record : QuarantineRecord)
    (apart : ∀ a b, known a → known b → NoCollision sha256 a b) (sound : Sound sha256 known w)
    (unlinked : ∀ d, ¬Linked k d w) :
    (program sha256 k (.read record)).Cooperates exec (Rely sha256 known k) (Guar sha256 known k)
      (Admissible (.read record)) (Post sha256 k (.read record) w) w := by
  show Coop sha256 known k (.read record) (read sha256 record 0 >>= fun bytes =>
    pure (.bytes bytes)) (Post sha256 k (.read record) w) w
  apply Coop.bind
  by_cases held : ∃ bytes, record = recordOf sha256 bytes ∧ Holds sha256 bytes w
  · obtain ⟨bytes, rfl, holds⟩ := held
    obtain ⟨isKnown, small, settled⟩ := holds.settled sound
    have stable : Stable sha256 known k fun w =>
        (Sound sha256 known w ∧ ∀ d, ¬Linked k d w) ∧ Settled (sha256 bytes) w :=
      fun w w' changed held =>
        ⟨unlinked_stable w w' changed held.1, held.2.rely held.1.1 changed⟩
    have reads : Reads sha256 known k (.read (recordOf sha256 bytes)) bytes fun w =>
        (Sound sha256 known w ∧ ∀ d, ¬Linked k d w) ∧ Settled (sha256 bytes) w :=
      ⟨stable, fun _ held => held.1.1, fun _ held => held.2.present, fun _ held _ => held.2, isKnown,
        small, apart⟩
    refine (read_coop reads 0 ⟨⟨sound, unlinked⟩, settled⟩).mono fun r w' done => ?_
    obtain ⟨held, ⟨rfl, -⟩ | ⟨more, -⟩⟩ := done
    · refine Coop.pure unlinked_stable held.1 fun w'' held => ⟨held.2, fun bytes' same holds' => ?_⟩
      have isKnown' := (holds'.settled sound).1
      rw [apart _ _ isKnown isKnown' (congrArg QuarantineRecord.digest same)]
    · exact absurd rfl more
  · refine (read_any_coop unlinked_stable record 0 ⟨sound, unlinked⟩).mono fun r w' done => ?_
    cases r with
    | error e =>
      exact fun w'' later => ⟨(unlinked_stable _ _ later done).2,
        fun bytes same holds => absurd ⟨bytes, same, holds⟩ held⟩
    | ok bytes =>
      exact Coop.pure unlinked_stable done fun w held' =>
        ⟨held'.2, fun bytes same holds => absurd ⟨bytes, same, holds⟩ held⟩

/-! ## All calls -/

variable (sha256 known) in
/-- What holds between two steps: every call goes as it does alone, and a temporary file that is
linked belongs to a running call. -/
structure Steady (host : VaultHost) : Prop where
  sound : Sound sha256 known host.world
  cooperating : host.Cooperating exec (Rely sha256 known) (Guar sha256 known) Admissible
    (Post sha256)
  owned : ∀ k d, Linked k d host.world → (host.live k).isSome

variable {host : VaultHost}

/-- What one step has to respect. -/
structure Calm (known : Bytes → Prop) (e : VaultEvent) : Prop where
  known : ∀ k bytes, e.input = .start k (.store bytes) → known bytes
  fresh : ∀ k bytes, e.input = .start k (.store bytes) → e.pre.live k = none →
    ∀ i, (Name.temp k, i) ∉ e.pre.world.names
  kills : ∀ k, e.input = .kill k → ∀ d, ¬Linked k d e.pre.world
  inspections : ∀ k d thread bytes, e.output = .performed k (.metadata (.item d) 0) →
    e.pre.live k = some thread → thread.call = .store bytes →
    ∀ k', (e.pre.live k').isSome → ¬Linked k' d e.pre.world

theorem Steady.admissible (steady : Steady sha256 known host) {signal : ThreadSignal Token Call Nat}
    (calm : Calm known (callEvent (step sha256) host signal)) (k : Token) (op : Op)
    (thread : Thread Call Vault Op Op.Answer (Except String Returned))
    (performed : (step sha256 signal host).1 = .performed k op)
    (running : host.live k = some thread) : Admissible thread.call op host.world := by
  cases isCall : thread.call with
  | read record => trivial
  | store bytes =>
    cases op with
    | metadata name retries =>
      cases name with
      | temp t => trivial
      | item d =>
        cases retries with
        | succ n => trivial
        | zero =>
          rintro ⟨i, isItem⟩
          refine ⟨i, isItem, fun t isTemp => ?_⟩
          have linked : Linked t d host.world := ⟨i, isTemp, isItem⟩
          exact calm.inspections k d thread bytes performed running isCall t
            (steady.owned t d linked) linked
    | _ => trivial

theorem Steady.guar (steady : Steady sha256 known host) {signal : ThreadSignal Token Call Nat}
    (calm : Calm known (callEvent (step sha256) host signal)) :
    (step sha256 signal host).2.world = host.world ∨ ∃ k op,
      (step sha256 signal host).1 = .performed k op ∧
        Guar sha256 known k host.world (step sha256 signal host).2.world := by
  have kept : (step sha256 signal host).2.world = host.world ∨
      ∃ k op, (step sha256 signal host).1 = .performed k op := Threads.world_step signal
  obtain same | ⟨k, op, performed⟩ := kept
  · exact .inl same
  · refine .inr ⟨k, op, performed, ?_⟩
    exact steady.cooperating.performs Rely.refl performed fun thread running =>
      steady.admissible calm k op thread performed running

/-- A link that is new belongs to the call that made it. -/
theorem Guar.linked_of {d : Bytes} {t : Token} (kept : Guar sha256 known k w w')
    (sound : Sound sha256 known w) (other : t ≠ k) (linked : Linked t d w') : Linked t d w := by
  obtain ⟨i, isTemp, isItem⟩ := linked
  have isTemp := (kept.temps t other i).mp isTemp
  rcases kept.made d i isItem with old | isMine
  · exact ⟨i, isTemp, old⟩
  · exact absurd (sound.temps t k i isTemp isMine) other

theorem Steady.owned_step (steady : Steady sha256 known host)
    {signal : ThreadSignal Token Call Nat}
    (calm : Calm known (callEvent (step sha256) host signal)) (t : Token) (d : Bytes)
    (linked : Linked t d (step sha256 signal host).2.world) :
    ((step sha256 signal host).2.live t).isSome := by
  have guar := steady.guar calm
  obtain ⟨world, live⟩ := host
  cases signal with
  | start k call =>
    cases running : live k with
    | some thread =>
      simp only [step, Threads.step, running] at linked ⊢
      exact steady.owned t d linked
    | none =>
      simp only [step, Threads.step, running] at linked ⊢
      by_cases same : t = k
      · subst same
        rw [Function.update_self]
        rfl
      · rw [Function.update_of_ne same]
        exact steady.owned t d linked
  | kill k =>
    have unlinked := calm.kills k rfl d
    by_cases same : t = k
    · subst same
      exact absurd linked unlinked
    · show (Function.update live k none t).isSome
      rw [Function.update_of_ne same]
      exact steady.owned t d linked
  | next k c =>
    cases running : live k with
    | none =>
      simp only [step, Threads.step, running] at linked ⊢
      exact steady.owned t d linked
    | some thread =>
      obtain ⟨call, begun, p⟩ := thread
      cases p with
      | ret a =>
        have post := steady.cooperating k _ running world (Rely.refl k world)
        simp only [step, Threads.step, running] at linked ⊢
        by_cases same : t = k
        · subst same
          exact absurd linked (post.1 d)
        · rw [Function.update_of_ne same]
          exact steady.owned t d linked
      | call op rest =>
        simp only [step, Threads.step, running] at linked guar ⊢
        by_cases same : t = k
        · subst same
          rw [Function.update_self]
          rfl
        · rw [Function.update_of_ne same]
          refine steady.owned t d ?_
          rcases guar with unchanged | ⟨k', op', performed, kept⟩
          · rwa [unchanged] at linked
          · obtain ⟨rfl, -⟩ := ThreadOutput.performed.inj performed
            exact kept.linked_of steady.sound same linked

/-- One step. -/
theorem Steady.step (steady : Steady sha256 known host)
    (apart : ∀ a b, known a → known b → NoCollision sha256 a b)
    {signal : ThreadSignal Token Call Nat}
    (calm : Calm known (callEvent (Quarantine.step sha256) host signal)) :
    Steady sha256 known (Quarantine.step sha256 signal host).2 where
  sound := by
    rcases steady.guar calm with same | ⟨k, op, -, kept⟩
    · rw [same]
      exact steady.sound
    · exact kept.sound steady.sound
  cooperating := by
    refine steady.cooperating.step Rely.refl (fun _ _ _ _ => Rely.trans)
      (fun _ _ _ _ other kept => kept.rely other) signal ?_ (steady.admissible calm)
    intro k call isStart idle
    cases call with
    | store bytes =>
      exact store_program_coop (calm.known k bytes isStart) apart
        ⟨steady.sound, calm.fresh k bytes isStart idle⟩
    | read record =>
      refine read_program_coop record apart steady.sound fun d linked => ?_
      have live := steady.owned k d linked
      rw [idle] at live
      cases live
  owned := steady.owned_step calm

/-- An item stays settled. -/
theorem Steady.settled_step (steady : Steady sha256 known host)
    {signal : ThreadSignal Token Call Nat}
    (calm : Calm known (callEvent (Quarantine.step sha256) host signal)) {d : Bytes}
    (settled : Settled d host.world) : Settled d (Quarantine.step sha256 signal host).2.world := by
  rcases steady.guar calm with same | ⟨k, op, -, kept⟩
  · rwa [same]
  · obtain ⟨i, isItem, single⟩ := settled
    exact ⟨i, kept.items d i isItem, fun t isTemp =>
      single t (kept.linked steady.sound d t i isItem isTemp)⟩

/-! ## Runs -/

theorem Undisturbed.calm {h : List VaultEvent} (undisturbed : Undisturbed h)
    (isKnown : ∀ bytes, Stored h bytes → known bytes) {e : VaultEvent} (he : e ∈ h) :
    Calm known e where
  known k bytes isStart := isKnown bytes ⟨e, he, k, isStart⟩
  fresh := undisturbed.fresh e he
  kills := undisturbed.kills e he
  inspections := undisturbed.inspections e he

theorem idle_of_unused (host : VaultHost) (unused : Unused host) (k : Token) :
    host.live k = none := by
  obtain rfl := unused
  rfl

theorem steady_of_unused (unused : Unused host) : Steady sha256 known host := by
  obtain rfl := unused
  refine ⟨⟨List.nodup_nil, ?_, ?_, ?_, ?_⟩, ?_, ?_⟩
  · rintro _ _ ⟨⟩
  · rintro _ _ _ ⟨⟩
  · rintro _ _ _ ⟨⟩
  · rintro _ _ ⟨⟩
  · rintro _ _ ⟨⟩
  · rintro _ _ ⟨_, ⟨⟩, _⟩

theorem steady_of_run {h : List VaultEvent} (run : Run (step sha256) Unused h host)
    (apart : ∀ a b, known a → known b → NoCollision sha256 a b)
    (calm : ∀ e ∈ h, Calm known e) : Steady sha256 known host := by
  induction run with
  | start host unused => exact steady_of_unused unused
  | @call h host signal before ih =>
    have steady := ih fun e he => calm e (List.mem_append_left _ he)
    exact steady.step apart (calm _ (List.mem_append_right _ (List.mem_singleton.mpr rfl)))

/-- Every event finds a steady vault. -/
theorem steady_before {h : List VaultEvent} (run : Run (step sha256) Unused h host)
    (apart : ∀ a b, known a → known b → NoCollision sha256 a b)
    (calm : ∀ e ∈ h, Calm known e) {e : VaultEvent} (he : e ∈ h) :
    Steady sha256 known e.pre ∧ e = callEvent (step sha256) e.pre e.input := by
  obtain ⟨h₁, h₂, rfl⟩ := List.append_of_mem he
  obtain ⟨before, isStep⟩ := run.before
  exact ⟨steady_of_run before apart fun e he => calm e (List.mem_append_left _ he), isStep⟩

/-- What a call returned. -/
theorem post_of_returned {h : List VaultEvent} (run : Run (step sha256) Unused h host)
    (apart : ∀ a b, known a → known b → NoCollision sha256 a b)
    (calm : ∀ e ∈ h, Calm known e) {e : VaultEvent} (he : e ∈ h) {k : Token}
    {a : Except String Returned} {thread : Thread Call Vault Op Op.Answer (Except String Returned)}
    (returned : e.output = .returned k a) (running : e.pre.live k = some thread) :
    Post sha256 k thread.call thread.begun a e.pre.world := by
  obtain ⟨steady, isStep⟩ := steady_before run apart calm he
  rw [isStep] at returned
  obtain ⟨thread', running', post⟩ := steady.cooperating.returns Rely.refl returned
  rw [running] at running'
  obtain rfl := Option.some.inj running'
  exact post

/-- An item that was settled at an event still is. -/
theorem settled_since {h : List VaultEvent} (run : Run (step sha256) Unused h host)
    (apart : ∀ a b, known a → known b → NoCollision sha256 a b)
    (calm : ∀ e ∈ h, Calm known e) {e : VaultEvent} (he : e ∈ h) {d : Bytes}
    (settled : Settled d e.pre.world) : Settled d host.world := by
  induction run with
  | start => cases he
  | @call h host signal before ih =>
    have earlier : ∀ e ∈ h, Calm known e := fun e he => calm e (List.mem_append_left _ he)
    have steady := steady_of_run before apart earlier
    refine steady.settled_step
      (calm _ (List.mem_append_right _ (List.mem_singleton.mpr rfl))) ?_
    rcases List.mem_append.mp he with old | new
    · exact ih earlier old
    · rw [List.mem_singleton.mp new] at settled
      exact settled

/-- Quarantine is crash safe in every run in which nothing goes wrong while an item has a second
link: an item holds stored bytes with its digest, a `store` that returns gives the record of its
bytes and the vault holds them from then on, a `read` that begins when the vault holds the bytes
returns them, and every call that is given its turn returns. -/
theorem quarantine_crash_safe {h : List VaultEvent} {host : VaultHost}
    (run : Run (step sha256) Unused h host) (apart : Apart sha256 h) (undisturbed : Undisturbed h) :
    (∀ d i, host.world.lookup (.item d) = some i →
      Stored h (host.world.contents i) ∧ sha256 (host.world.contents i) = d) ∧
    (∀ e ∈ h, ∀ k a thread bytes, e.output = .returned k a → e.pre.live k = some thread →
      thread.call = .store bytes → bytes.length ≤ maxItemLen →
      a = .ok (.record (recordOf sha256 bytes)) ∧ Holds sha256 bytes host.world) ∧
    (∀ e ∈ h, ∀ k a thread bytes, e.output = .returned k a → e.pre.live k = some thread →
      thread.call = .read (recordOf sha256 bytes) → Holds sha256 bytes thread.begun →
      a = .ok (.bytes bytes)) ∧
    ∀ k, ∀ choices : Nat → Nat, ∃ n, (execute (step sha256)
      ((List.range n).map fun i => ThreadSignal.next k (choices i)) host).2.live k = none := by
  have calm : ∀ e ∈ h, Calm (Stored h) e :=
    fun e he => undisturbed.calm (fun bytes stored => stored) he
  have steady := steady_of_run run apart calm
  refine ⟨?_, ?_, ?_, fun k choices => Threads.finishes k choices host⟩
  · intro d i found
    have isItem := (lookup_eq_some steady.sound).mp found
    obtain ⟨stored, -, hasDigest⟩ := steady.sound.stored d i isItem
    exact ⟨stored, hasDigest⟩
  · intro e he k a thread bytes returned running isCall small
    have post := post_of_returned run apart calm he returned running
    rw [isCall] at post
    obtain ⟨rfl, settled⟩ := post.2 small
    have stored : Stored h bytes := by
      obtain ⟨h₁, h₂, rfl⟩ := List.append_of_mem he
      obtain ⟨started, hs, isStart, -⟩ := Threads.started run.before.1 idle_of_unused running
      rw [isCall] at isStart
      exact ⟨started, List.mem_append_left _ hs, k, isStart⟩
    exact ⟨rfl, (settled_since run apart calm he settled).holds steady.sound stored apart⟩
  · intro e he k a thread bytes returned running isCall holds
    have post := post_of_returned run apart calm he returned running
    rw [isCall] at post
    exact post.2 bytes rfl holds

/-! ## A killed store -/

/-- The file of the name has no other name. -/
def Single (name : Name) (w : Vault) : Prop :=
  ∀ entry ∈ w.names, entry.1 = name → ∀ other ∈ w.names, other.2 = entry.2 → other = entry

instance (name : Name) (w : Vault) : Decidable (Single name w) :=
  inferInstanceAs (Decidable (∀ entry ∈ w.names, entry.1 = name →
    ∀ other ∈ w.names, other.2 = entry.2 → other = entry))

/-- An event that disturbs nothing, whatever calls are running. -/
def isClear (e : VaultEvent) : Bool :=
  (match e.input with
    | .start k (.store _) => decide (e.pre.world.lookup (.temp k) = none)
    | .kill k => decide (Single (.temp k) e.pre.world)
    | _ => true) &&
  match e.output with
    | .performed _ (.metadata name 0) => decide (Single name e.pre.world)
    | _ => true

theorem Single.unlinked_temp (single : Single (.temp k) w) (d : Bytes) : ¬Linked k d w := by
  rintro ⟨i, isTemp, isItem⟩
  cases single _ isTemp rfl _ isItem rfl

theorem Single.unlinked_item {d : Bytes} (single : Single (.item d) w) (k : Token) :
    ¬Linked k d w := by
  rintro ⟨i, isTemp, isItem⟩
  cases single _ isItem rfl _ isTemp rfl

theorem undisturbed_of_isClear {h : List VaultEvent} (clear : ∀ e ∈ h, isClear e = true) :
    Undisturbed h where
  fresh e he k bytes isStart _ := by
    have checked := (Bool.and_eq_true_iff.mp (clear e he)).1
    rw [isStart] at checked
    exact lookup_eq_none.mp (of_decide_eq_true checked)
  kills e he k isKill := by
    have checked := (Bool.and_eq_true_iff.mp (clear e he)).1
    rw [isKill] at checked
    exact (of_decide_eq_true checked : Single (.temp k) e.pre.world).unlinked_temp
  inspections e he k d thread bytes performed _ _ k' _ := by
    have checked := (Bool.and_eq_true_iff.mp (clear e he)).2
    rw [performed] at checked
    exact (of_decide_eq_true checked : Single (.item d) e.pre.world).unlinked_item k'

def sampleBytes : Bytes := [1]

def turns (k : Token) (n : Nat) : List (ThreadSignal Token Call Nat) :=
  List.replicate n (.next k 0)

/-- A `store` is killed after a number of steps, then the bytes are stored twice and read. -/
def killedSignals (n : Nat) : List (ThreadSignal Token Call Nat) :=
  [.start (0, 0) (.store sampleBytes)] ++ turns (0, 0) n ++ [.kill (0, 0)] ++
  [.start (0, 1) (.store sampleBytes)] ++ turns (0, 1) 9 ++
  [.start (0, 2) (.store sampleBytes)] ++ turns (0, 2) 6 ++
  [.start (0, 3) (.read (recordOf Codec.sha256 sampleBytes))] ++ turns (0, 3) 4

def killedRun (n : Nat) : List VaultEvent × VaultHost :=
  execute (step Codec.sha256) (killedSignals n) ⟨Vault.empty, fun _ => none⟩

theorem unused_sample : Unused ⟨Vault.empty, fun _ => none⟩ := rfl

/-- What the calls return. -/
def answers (h : List VaultEvent) : List (Token × Except String Returned) :=
  h.filterMap fun e =>
    match e.output with
    | .returned k a => some (k, a)
    | _ => none

/-- The event is the return of a `store` of the bytes. -/
def isStored (k : Token) (bytes : Bytes) (e : VaultEvent) : Bool :=
  match e.output, e.pre.live k with
  | .returned k' _, some thread => decide (k' = k) && decide (thread.call = .store bytes)
  | _, _ => false

theorem exists_of_isStored {h : List VaultEvent} {bytes : Bytes}
    (stored : h.any (isStored k bytes) = true) : ∃ e ∈ h, ∃ a thread,
      e.output = .returned k a ∧ e.pre.live k = some thread ∧ thread.call = .store bytes := by
  obtain ⟨e, he, checked⟩ := List.any_eq_true.mp stored
  refine ⟨e, he, ?_⟩
  rw [isStored] at checked
  split at checked
  case h_1 k' a thread returned running =>
    simp only [Bool.and_eq_true, decide_eq_true_eq] at checked
    obtain ⟨rfl, isCall⟩ := checked
    exact ⟨a, thread, returned, running, isCall⟩
  case h_2 => cases checked

/-- A `store` that starts is of the sample bytes. -/
def storesSample (e : VaultEvent) : Bool :=
  match e.input with
  | .start _ (.store bytes) => decide (bytes = sampleBytes)
  | _ => true

/-- Killed before the `hard_link`, a `store` leaves only its temporary file. -/
theorem quarantine_crash_safe_killed :
    answers (killedRun 4).1 =
      [((0, 1), .ok (.record (recordOf Codec.sha256 sampleBytes))),
        ((0, 2), .ok (.record (recordOf Codec.sha256 sampleBytes))),
        ((0, 3), .ok (.bytes sampleBytes))] ∧
    Holds Codec.sha256 sampleBytes (killedRun 4).2.world := by
  have run : Run (step Codec.sha256) Unused (killedRun 4).1 (killedRun 4).2 :=
    Run.of_execute unused_sample (killedSignals 4)
  have same : ∀ bytes, Stored (killedRun 4).1 bytes → bytes = sampleBytes := by
    have checked : (killedRun 4).1.all storesSample = true := by decide
    rintro bytes ⟨e, he, k, isStart⟩
    have isSample := List.all_eq_true.mp checked e he
    rw [storesSample, isStart] at isSample
    exact of_decide_eq_true isSample
  have apart : Apart Codec.sha256 (killedRun 4).1 := by
    intro a b isStored isStored' _
    rw [same a isStored, same b isStored']
  have undisturbed : Undisturbed (killedRun 4).1 :=
    undisturbed_of_isClear (List.all_eq_true.mp (by decide))
  obtain ⟨e, he, a, thread, returned, running, isCall⟩ :=
    @exists_of_isStored (0, 1) (killedRun 4).1 sampleBytes (by decide)
  have safe := quarantine_crash_safe run apart undisturbed
  exact ⟨by decide, (safe.2.1 e he _ a thread _ returned running isCall (by decide)).2⟩

/-- Killed between the `hard_link` and the removal, it leaves an item with two links, which neither a
`store` nor a `read` of the same bytes accepts from then on. -/
theorem quarantine_item_lost :
    Run (step Codec.sha256) Unused (killedRun 5).1 (killedRun 5).2 ∧
    answers (killedRun 5).1 =
      [((0, 1), .error "quarantine entry must not be hard-linked"),
        ((0, 2), .error "quarantine entry must not be hard-linked"),
        ((0, 3), .error "quarantine entry must not be hard-linked")] :=
  ⟨Run.of_execute unused_sample (killedSignals 5), by decide⟩

end Prometheus.Client.Quarantine
