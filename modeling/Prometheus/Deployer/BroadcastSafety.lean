import Prometheus.Deployer.Broadcast

/-!
# A deployment is submitted once

`Sound` is what every statement of every broadcast keeps on the files and the node: a submission
needs a journal that is past `verified_pending_submission`, and a result file needs the same result
in the journal. A broadcast that is started on a journal past that status keeps more: it submits
nothing. `Safe` is both, relative to the world in which the broadcast was started; it is proved along
the program, one lemma for each of its parts, and carried to every run of the machine by
`Host.invariant`.
-/

namespace Prometheus.Deployer

open Prometheus.Machine Prometheus.Machine.Program

/-- The journal has left its first status. -/
def BroadcastJournal.IsPast (journal : BroadcastJournal) : Prop :=
  journal.status ≠ "verified_pending_submission"

/-- There is a journal, and it has left its first status. -/
def World.IsPast (w : World) : Prop := ∃ journal, w.journal = some journal ∧ journal.IsPast

/-- What holds of the files and the node after every statement. -/
structure Sound (kaspa : Kaspa) (w : World) : Prop where
  once : w.submissions.length ≤ 1
  marked : w.submissions ≠ [] → w.IsPast
  bound : ∀ transaction ∈ w.submissions, ∃ journal, w.journal = some journal ∧
    kaspa.transactionId transaction = journal.expectedDeployTxId
  published : ∀ result, w.result = some result → ∃ journal, w.journal = some journal ∧
    journal.result = some result

/-- What a broadcast that was started in the world `begun` keeps. -/
structure Safe (kaspa : Kaspa) (begun w : World) : Prop where
  sound : Sound kaspa w
  submissions : begun.IsPast → w.submissions = begun.submissions
  past : begun.IsPast → w.IsPast

variable {kaspa : Kaspa} {begun w : World} {journal : BroadcastJournal}

/-! ## The five changes of the world -/

theorem isPast_of_journal (held : w.journal = some journal) (past : w.IsPast) :
    journal.IsPast := by
  obtain ⟨other, isOther, otherPast⟩ := past
  have same : other = journal := Option.some.inj (isOther.symm.trans held)
  rw [← same]
  exact otherPast

theorem Sound.unsubmitted (sound : Sound kaspa w) (notPast : ¬ w.IsPast) :
    w.submissions = [] := by
  by_contra some
  exact notPast (sound.marked some)

theorem not_isPast_of_absent (absent : w.journal = none) : ¬ w.IsPast := by
  intro past
  obtain ⟨journal, isJournal, -⟩ := past
  rw [absent] at isJournal
  cases isJournal

/-- `create_public_json` of the journal, when there is none. -/
theorem Safe.create (safe : Safe kaspa begun w) (absent : w.journal = none)
    (expected : BroadcastJournal) : Safe kaspa begun { w with journal := some expected } := by
  have notPast : ¬ w.IsPast := not_isPast_of_absent absent
  have unsubmitted : w.submissions = [] := safe.sound.unsubmitted notPast
  refine ⟨⟨safe.sound.once, ?_, ?_, ?_⟩, safe.submissions, ?_⟩
  · intro submitted
    exact absurd unsubmitted submitted
  · intro transaction isSubmitted
    rw [unsubmitted] at isSubmitted
    cases isSubmitted
  · intro result isResult
    obtain ⟨journal, isJournal, -⟩ := safe.sound.published result isResult
    rw [absent] at isJournal
    cases isJournal
  · intro past
    exact absurd (safe.past past) notPast

/-- `write_public_json` of the next journal, while no result is public. -/
theorem Safe.advance (safe : Safe kaspa begun w) (held : w.journal = some journal)
    (private' : w.result = none) {next : BroadcastJournal} (past : next.IsPast)
    (same : next.expectedDeployTxId = journal.expectedDeployTxId) :
    Safe kaspa begun { w with journal := some next } := by
  have nextPast : World.IsPast { w with journal := some next } := ⟨next, rfl, past⟩
  refine ⟨⟨safe.sound.once, fun _ => nextPast, ?_, ?_⟩, safe.submissions, fun _ => nextPast⟩
  · intro transaction isSubmitted
    obtain ⟨other, isOther, isBound⟩ := safe.sound.bound transaction isSubmitted
    have isJournal : other = journal := Option.some.inj (isOther.symm.trans held)
    refine ⟨next, rfl, ?_⟩
    rw [same, ← isJournal]
    exact isBound
  · intro result isResult
    have isPublic : w.result = some result := isResult
    rw [private'] at isPublic
    cases isPublic

/-- `write_public_json` of the result that the journal records. -/
theorem Safe.publish (safe : Safe kaspa begun w) (held : w.journal = some journal)
    {result : BroadcastResult} (recorded : journal.result = some result) :
    Safe kaspa begun { w with result := some result } := by
  refine ⟨⟨safe.sound.once, safe.sound.marked, safe.sound.bound, ?_⟩, safe.submissions, safe.past⟩
  intro other isResult
  have same : result = other := Option.some.inj isResult
  rw [← same]
  exact ⟨journal, held, recorded⟩

/-- `submit_transaction` after the journal has been marked by this broadcast. -/
theorem Safe.submit (safe : Safe kaspa begun w) (held : w.journal = some journal)
    (past : journal.IsPast) (first : ¬ begun.IsPast) (unsubmitted : w.submissions = [])
    {transaction : SignableTransaction}
    (isBound : kaspa.transactionId transaction = journal.expectedDeployTxId) :
    Safe kaspa begun { w with submissions := w.submissions ++ [transaction] } := by
  refine ⟨⟨?_, fun _ => ⟨journal, held, past⟩, ?_, safe.sound.published⟩, ?_, safe.past⟩
  · simp [unsubmitted]
  · intro other isSubmitted
    have only : other ∈ [transaction] := by simpa [unsubmitted] using isSubmitted
    rw [List.mem_singleton.mp only]
    exact ⟨journal, held, isBound⟩
  · intro begunPast
    exact absurd begunPast first

/-! ## Rules for one statement -/

section Statements

variable {σ χ : Type} {exec : (op : Op) → χ → σ → σ × Option op.Answer} {Guar : σ → σ → Prop} {s : σ}

theorem crash_ensure {condition : Bool} {error : BroadcastError} {post : Unit → σ → Prop}
    (h : condition = true → post () s) : CrashOk exec Guar (ensure condition error) post s := by
  cases condition with
  | false => exact CrashOk.raise
  | true => exact CrashOk.pure (h rfl)

theorem crash_request {op : Op} {post : op.Answer → σ → Prop}
    (kept : ∀ c, Guar s (exec op c s).1)
    (returned : ∀ c answer, (exec op c s).2 = some answer → post answer (exec op c s).1) :
    CrashOk exec Guar (request op) post s := by
  intro c
  refine ⟨kept c, ?_⟩
  intro answer isReturned
  apply returned c
  cases reply : (exec op c s).2 with
  | none =>
    rw [reply] at isReturned
    cases isReturned
  | some other =>
    rw [reply] at isReturned
    exact congrArg some (Except.ok.inj isReturned)

end Statements

/-- What one statement of a broadcast guarantees. -/
structure Guarantee (kaspa : Kaspa) (begun w w' : World) : Prop where
  safe : Safe kaspa begun w'
  past : w.IsPast → w'.IsPast

/-- Every statement of the program keeps the guarantee, and when it returns the postcondition
holds. -/
def Keeps (kaspa : Kaspa) (begun : World) {α : Type} (p : Process α) (post : α → World → Prop)
    (w : World) : Prop :=
  Crash exec (Guarantee kaspa begun) p.run (fun r w => ∀ a, r = .ok a → post a w) w

section Rules

variable {α β : Type}

theorem Keeps.pure {a : α} {post : α → World → Prop} (h : post a w) :
    Keeps kaspa begun (Pure.pure a) post w :=
  CrashOk.pure h

theorem Keeps.mono {p : Process α} {post post' : α → World → Prop}
    (h : Keeps kaspa begun p post w) (imp : ∀ a w, post a w → post' a w) :
    Keeps kaspa begun p post' w :=
  CrashOk.mono h imp

theorem Keeps.bind {p : Process α} {f : α → Process β} {post : β → World → Prop}
    (h : Keeps kaspa begun p (fun a w => Keeps kaspa begun (f a) post w) w) :
    Keeps kaspa begun (p >>= f) post w :=
  CrashOk.bind h

/-- A check leaves the world as it is. -/
theorem Keeps.ensure {condition : Bool} {error : BroadcastError} {post : Unit → World → Prop}
    (h : condition = true → post () w) : Keeps kaspa begun (ensure condition error) post w :=
  crash_ensure h

/-- A statement with `?`: what follows is run when it returned. -/
theorem Keeps.request {op : Op} {post : op.Answer → World → Prop}
    (kept : ∀ c, Guarantee kaspa begun w (exec op c w).1)
    (returned : ∀ c answer, (exec op c w).2 = some answer → post answer (exec op c w).1) :
    Keeps kaspa begun (request op) post w :=
  crash_request kept returned

/-- A statement that changes nothing. -/
theorem Keeps.query {op : Op} {post : op.Answer → World → Prop}
    (unchanged : ∀ c, (exec op c w).1 = w) (safe : Safe kaspa begun w)
    (returned : ∀ c answer, (exec op c w).2 = some answer → post answer w) :
    Keeps kaspa begun (Deployer.request op) post w := by
  apply Keeps.request
  · intro c
    rw [unchanged]
    exact ⟨safe, fun past => past⟩
  · intro c answer reply
    rw [unchanged]
    exact returned c answer reply

theorem reply_eq_some {c : Choice} {a : Option α} {b : α} (h : c.reply a = some b) :
    c.outcome = .returns ∧ a = some b := by
  unfold Choice.reply at h
  split at h
  · exact ⟨‹_›, h⟩
  · cases h

/-- A file is replaced or it is not, and it is replaced when the statement returned. -/
theorem Keeps.write {op : Op} {after : World} {answer : op.Answer} {post : op.Answer → World → Prop}
    (isWrite : ∀ c : Choice, exec op c w = (c.effect after w, c.reply (some answer)))
    (before : Safe kaspa begun w) (kept : Safe kaspa begun after) (past : w.IsPast → after.IsPast)
    (returned : post answer after) :
    Keeps kaspa begun (Deployer.request op) post w := by
  apply Keeps.request
  · intro c
    rw [isWrite, Choice.effect]
    by_cases raises : c.outcome = .raisesBefore
    · rw [if_pos raises]
      exact ⟨before, fun past => past⟩
    · rw [if_neg raises]
      exact ⟨kept, past⟩
  · intro c other reply
    rw [isWrite] at reply ⊢
    obtain ⟨outcome, answered⟩ := reply_eq_some reply
    have replaced : c.effect after w = after := by simp [Choice.effect, outcome]
    rw [replaced, ← Option.some.inj answered]
    exact returned

end Rules

/-! ## The parts of the command -/

variable {input : Broadcast}

theorem prepareBroadcastJournal_keeps (safe : Safe kaspa begun w)
    {post : BroadcastJournal → World → Prop}
    (returned : ∀ now,
      kaspa.transactionId input.verified.transaction = input.signingRequest.unsignedTransactionId →
      post (expectedJournal input now) w) :
    Keeps kaspa begun (prepareBroadcastJournal kaspa input) post w := by
  apply Keeps.bind
  apply Keeps.ensure
  intro isBound
  have sameId : kaspa.transactionId input.verified.transaction =
      input.signingRequest.unsignedTransactionId := by
    simp only [isTransactionBound, Bool.and_eq_true, decide_eq_true_eq] at isBound
    exact isBound.1.2.2
  apply Keeps.bind
  apply Keeps.ensure
  intro _
  apply Keeps.bind
  apply Keeps.query (fun _ => rfl) safe
  intro _ now _
  exact Keeps.pure (returned now sameId)

/-- A journal that was validated against the expected one is for its transaction. -/
theorem validateJournal_keeps {expected : BroadcastJournal} {post : Unit → World → Prop}
    (returned : journal.expectedDeployTxId = expected.expectedDeployTxId → post () w) :
    Keeps kaspa begun (validateJournal journal expected) post w := by
  apply Keeps.bind
  apply Keeps.ensure
  intro isBound
  have sameId : journal.expectedDeployTxId = expected.expectedDeployTxId := by
    simp only [isJournalBound, Bool.and_eq_true, decide_eq_true_eq] at isBound
    exact isBound.1.1.1.1.2
  apply Keeps.ensure
  intro _
  exact returned sameId

/-- After the journal is opened it is the one on disk. -/
theorem openJournal_keeps (safe : Safe kaspa begun w) {expected : BroadcastJournal}
    {post : BroadcastJournal → World → Prop}
    (returned : ∀ journal w, Safe kaspa begun w → w.journal = some journal →
      journal.expectedDeployTxId = expected.expectedDeployTxId → post journal w) :
    Keeps kaspa begun (openJournal expected) post w := by
  apply Keeps.bind
  cases held : w.journal with
  | none =>
    have isWrite : ∀ c : Choice, exec (.createJournal expected) c w =
        (c.effect { w with journal := some expected } w, c.reply (some true)) := by
      intro c
      simp only [exec, held]
      rfl
    apply Keeps.write isWrite safe (safe.create held expected)
      fun past => absurd past (not_isPast_of_absent held)
    exact Keeps.pure (returned _ _ (safe.create held expected) rfl rfl)
  | some onDisk =>
    apply Keeps.query
    · intro c
      simp only [exec, held]
    · exact safe
    · intro c created reply
      simp only [exec, held] at reply
      obtain ⟨-, isFalse⟩ := reply_eq_some reply
      have notCreated : false = created := Option.some.inj isFalse
      subst notCreated
      apply Keeps.bind
      apply Keeps.query (fun _ => rfl) safe
      intro c journal reply
      obtain ⟨-, isRead⟩ := reply_eq_some reply
      apply Keeps.bind
      apply validateJournal_keeps
      intro sameId
      exact Keeps.pure (returned _ _ safe isRead sameId)

/-- Publishing the recorded result keeps `Safe`. -/
theorem publishRecorded_keeps (safe : Safe kaspa begun w) (held : w.journal = some journal)
    {recorded : BroadcastResult} (isRecorded : journal.result = some recorded) :
    Keeps kaspa begun (publishRecorded journal recorded) (fun _ _ => True) w := by
  apply Keeps.bind
  apply Keeps.query (fun _ => rfl) safe
  intro c isPublic _
  cases isPublic with
  | true =>
    apply Keeps.bind
    apply Keeps.bind
    apply Keeps.query (fun _ => rfl) safe
    intro _ existing _
    apply Keeps.bind
    apply Keeps.ensure
    intro _
    apply Keeps.pure
    apply Keeps.ensure
    intro _
    trivial
  | false =>
    apply Keeps.write (fun _ => rfl) safe (safe.publish held isRecorded) fun past => past
    trivial

/-- A submission is the last statement of a broadcast that found the journal in its first status;
the journal it leaves is the one on disk. -/
theorem submitVerifiedTransaction_keeps (safe : Safe kaspa begun w)
    (held : w.journal = some journal) (private' : w.result = none)
    (isBound : kaspa.transactionId input.verified.transaction = journal.expectedDeployTxId) :
    Keeps kaspa begun (submitVerifiedTransaction input journal)
      (fun r w => Safe kaspa begun w ∧ w.journal = some r.2 ∧ w.result = none) w := by
  apply Keeps.bind
  apply Keeps.bind
  apply Keeps.ensure
  intro _
  apply Keeps.ensure
  intro isFirst
  have notPast : ¬ w.IsPast := by
    intro past
    exact isPast_of_journal held past (of_decide_eq_true isFirst)
  have unsubmitted : w.submissions = [] := safe.sound.unsubmitted notPast
  have first : ¬ begun.IsPast := fun past => notPast (safe.past past)
  apply Keeps.bind
  apply Keeps.query (fun _ => rfl) safe
  intro _ _ _
  apply Keeps.bind
  apply Keeps.bind
  apply Keeps.ensure
  intro _
  apply Keeps.bind
  apply Keeps.query (fun _ => rfl) safe
  intro _ startedAt _
  have past : (startedJournal journal startedAt).IsPast := by
    simp [BroadcastJournal.IsPast, startedJournal]
  have marked := safe.advance held private' past rfl
  apply Keeps.bind
  apply Keeps.write (fun _ => rfl) safe marked fun _ => ⟨_, rfl, past⟩
  apply Keeps.pure
  have submitted := marked.submit rfl past first unsubmitted isBound
  apply Keeps.bind
  apply Keeps.request
  · intro _
    exact ⟨submitted, fun past => past⟩
  · intro _ submittedId _
    apply Keeps.bind
    apply Keeps.ensure
    intro _
    exact Keeps.pure ⟨submitted, rfl, private'⟩

theorem broadcastVerifiedTransaction_keeps (safe : Safe kaspa begun w)
    (held : w.journal = some journal) (private' : w.result = none) :
    Keeps kaspa begun (broadcastVerifiedTransaction kaspa input journal)
      (fun r w => Safe kaspa begun w ∧ w.journal = some r.2 ∧ w.result = none) w := by
  apply Keeps.bind
  apply prepareBroadcastJournal_keeps safe
  intro now sameId
  apply Keeps.bind
  apply validateJournal_keeps
  intro sameExpected
  have isBound : kaspa.transactionId input.verified.transaction = journal.expectedDeployTxId :=
    sameId.trans sameExpected.symm
  apply Keeps.bind
  apply Keeps.query (fun _ => rfl) safe
  intro _ _ _
  apply Keeps.bind
  apply Keeps.query (fun _ => rfl) safe
  intro _ deployed _
  cases deployed with
  | true => exact Keeps.pure ⟨safe, held, private'⟩
  | false =>
    apply Keeps.bind
    apply Keeps.query (fun _ => rfl) safe
    intro _ pending _
    cases pending with
    | true => exact Keeps.pure ⟨safe, held, private'⟩
    | false => exact submitVerifiedTransaction_keeps safe held private' isBound

theorem recordedJournal_isPast (journal : BroadcastJournal) (result : BroadcastResult) (now : Nat) :
    (recordedJournal journal result now).IsPast := by
  simp [BroadcastJournal.IsPast, recordedJournal]

/-- The whole command keeps `Safe`, wherever it is killed. -/
theorem broadcast_keeps (sound : Sound kaspa w) (input : Broadcast) :
    Keeps kaspa w (broadcast kaspa input) (fun _ _ => True) w := by
  have begins : Safe kaspa w w := ⟨sound, fun _ => rfl, fun past => past⟩
  apply Keeps.bind
  apply prepareBroadcastJournal_keeps begins
  intro now _
  apply Keeps.bind
  apply openJournal_keeps begins
  intro journal v safe held _
  cases recorded : journal.result with
  | some result => exact publishRecorded_keeps safe held recorded
  | none =>
    apply Keeps.bind
    apply Keeps.query (fun _ => rfl) safe
    intro c isPublic reply
    obtain ⟨-, exists'⟩ := reply_eq_some reply
    have isPublicIff : v.result.isSome = isPublic := Option.some.inj exists'
    cases isPublic with
    | true =>
      -- a public result has a recorded one, and this journal records none
      obtain ⟨result, isResult⟩ := Option.isSome_iff_exists.mp isPublicIff
      obtain ⟨other, isJournal, isRecorded⟩ := safe.sound.published result isResult
      rw [← Option.some.inj (held.symm.trans isJournal), recorded] at isRecorded
      cases isRecorded
    | false =>
      have private' : v.result = none := by simpa using isPublicIff
      apply Keeps.bind
      apply (broadcastVerifiedTransaction_keeps safe held private').mono
      rintro ⟨result, journal⟩ u ⟨safe, held, private'⟩
      apply Keeps.bind
      apply Keeps.bind
      apply Keeps.ensure
      intro _
      apply Keeps.bind
      apply Keeps.query (fun _ => rfl) safe
      intro _ now _
      apply Keeps.pure
      have past := recordedJournal_isPast journal result now
      have finalized := safe.advance held private' past rfl
      apply Keeps.bind
      apply Keeps.write (fun _ => rfl) safe finalized fun _ => ⟨_, rfl, past⟩
      apply Keeps.write (fun _ => rfl) finalized (finalized.publish rfl rfl) fun past => past
      trivial

/-! ## Runs of the machine -/

/-- What every statement of every broadcast guarantees, whenever the broadcast was started. -/
def Guaranteed (kaspa : Kaspa) (w w' : World) : Prop := Sound kaspa w' ∧ (w.IsPast → w'.IsPast)

theorem broadcast_guaranteed (sound : Sound kaspa w) (input : Broadcast) :
    (broadcast kaspa input).run.Crash exec (Guaranteed kaspa) (fun _ _ => True) w := by
  have kept : Keeps kaspa w (broadcast kaspa input) (fun _ _ => True) w :=
    broadcast_keeps sound input
  apply Crash.mono (kept.weaken ?_) fun _ _ _ => trivial
  intro v v' guar
  exact ⟨guar.safe.sound, guar.past⟩

/-- A broadcast that is started on a journal past its first status submits nothing. -/
theorem broadcast_frozen (safe : Safe kaspa begun w) (past : begun.IsPast) (input : Broadcast) :
    (broadcast kaspa input).run.Crash exec (Guarantee kaspa begun) (fun _ _ => True) w := by
  have kept : Keeps kaspa w (broadcast kaspa input) (fun _ _ => True) w :=
    broadcast_keeps safe.sound input
  apply Crash.mono (kept.weaken ?_) fun _ _ _ => trivial
  intro v v' guar
  refine ⟨⟨guar.safe.sound, ?_, ?_⟩, guar.past⟩
  · intro _
    exact (guar.safe.submissions (safe.past past)).trans (safe.submissions past)
  · intro _
    exact guar.safe.past (safe.past past)

/-- The transaction an event submits. -/
def submitted (e : DeployEvent) : Option SignableTransaction :=
  match e.output with
  | some (.submitTransaction transaction) => some transaction
  | _ => none

theorem unused_sound (kaspa : Kaspa) {host : DeployHost} (unused : Unused host) :
    host.running = none ∧ Sound kaspa host.world := by
  rw [unused]
  refine ⟨rfl, by simp, ?_, ?_, ?_⟩
  · intro some
    exact absurd rfl some
  · intro transaction isSubmitted
    cases isSubmitted
  · intro result isResult
    cases isResult

/-- The node receives a transaction exactly when a broadcast submits one. -/
theorem step_submissions (signal : Signal Broadcast Choice) (host : DeployHost) :
    (step kaspa signal host).2.world.submissions =
      host.world.submissions ++ (submitted (callEvent (step kaspa) host signal)).toList := by
  obtain ⟨world, running⟩ := host
  cases running with
  | none => cases signal <;> simp [step, Host.step, submitted, callEvent]
  | some p =>
    cases p with
    | ret a => cases signal <;> simp [step, Host.step, submitted, callEvent]
    | call op next =>
      cases signal with
      | start input => simp [step, Host.step, submitted, callEvent]
      | kill => simp [step, Host.step, submitted, callEvent]
      | next c =>
        cases op with
        | createJournal journal =>
          cases held : world.journal <;>
            simp [step, Host.step, submitted, callEvent, exec, held, Choice.effect, apply_ite]
        | writeJournal journal | writeResult result =>
          simp only [step, Host.step, submitted, callEvent, exec, Choice.effect, Option.toList_none,
            List.append_nil]
          split <;> rfl
        | _ => simp [step, Host.step, submitted, callEvent, exec]

theorem submissions_of_run {h : List DeployEvent} {host : DeployHost}
    (run : Run (step kaspa) Unused h host) : host.world.submissions = h.filterMap submitted := by
  induction run with
  | start host unused =>
    have same : host = ⟨⟨none, none, []⟩, none⟩ := unused
    rw [same]
    rfl
  | call signal run ih =>
    rw [step_submissions, ih, List.filterMap_append]
    cases is : submitted (callEvent (step kaspa) _ signal) <;> simp [is]

/-- The machine between two signals: the world is sound and a running broadcast keeps it so. -/
abbrev Steady (kaspa : Kaspa) (host : DeployHost) : Prop :=
  host.Guarded exec (Guaranteed kaspa) (Sound kaspa)

theorem steady_of_unused (host : DeployHost) (unused : Unused host) : Steady kaspa host := by
  obtain ⟨idle, sound⟩ := unused_sound kaspa unused
  refine ⟨sound, ?_⟩
  intro p isRunning
  rw [idle] at isRunning
  cases isRunning

theorem steady_step (host : DeployHost) (signal : Signal Broadcast Choice)
    (steady : Steady kaspa host) : Steady kaspa (step kaspa signal host).2 :=
  steady.step (fun _ _ guar => guar.1) (fun _ sound input => broadcast_guaranteed sound input) signal

/-- A journal that is past its first status stays past it. -/
theorem isPast_step {host : DeployHost} (steady : Steady kaspa host)
    (signal : Signal Broadcast Choice) (past : host.world.IsPast) :
    (step kaspa signal host).2.world.IsPast := by
  rcases steady.world signal with same | guar
  · exact (congrArg World.IsPast same).mpr past
  · exact guar.2 past

/-- Once the journal is past its first status and no broadcast is in between, nothing is
submitted any more. -/
theorem unsubmitted_since {before later : List DeployEvent} {e : DeployEvent} {host : DeployHost}
    (run : Run (step kaspa) Unused (before ++ e :: later) host) (idle : e.pre.running = none)
    (past : e.pre.world.IsPast) : ∀ other ∈ e :: later, submitted other = none := by
  obtain ⟨runBefore, isStep⟩ := run.before
  have sound : Sound kaspa e.pre.world :=
    (runBefore.invariant (Steady kaspa) steady_of_unused steady_step).1
  have frozen : ∀ (s : DeployHost) signal,
      s.Guarded exec (Guarantee kaspa e.pre.world) (Safe kaspa e.pre.world) →
      (step kaspa signal s).2.Guarded exec (Guarantee kaspa e.pre.world)
        (Safe kaspa e.pre.world) :=
    fun s signal guarded => guarded.step (fun _ _ guar => guar.safe)
      (fun _ safe input => broadcast_frozen safe past input) signal
  have begins : e.pre.Guarded exec (Guarantee kaspa e.pre.world) (Safe kaspa e.pre.world) := by
    refine ⟨⟨sound, fun _ => rfl, fun past => past⟩, ?_⟩
    intro p isRunning
    rw [idle] at isRunning
    cases isRunning
  have guarded : host.Guarded exec (Guarantee kaspa e.pre.world) (Safe kaspa e.pre.world) := by
    apply run.since (fun _ => True) (fun _ _ => trivial) (fun _ _ _ => trivial)
      (fun _ s => s.Guarded exec (Guarantee kaspa e.pre.world) (Safe kaspa e.pre.world))
    · intro _
      rw [isStep]
      exact frozen _ _ begins
    · intro _ s signal _ guarded
      exact frozen s signal guarded
  have same : host.world.submissions = e.pre.world.submissions := guarded.1.submissions past
  rw [submissions_of_run run, submissions_of_run runBefore, List.filterMap_append,
    List.append_right_eq_self, List.filterMap_eq_nil_iff] at same
  exact same

/-- For every sequence of broadcasts over one result path, with every answer of the node, every
reading of the clock and every kill: `submit_transaction` is called at most once, with the journaled
transaction; a journal that has left its first status never returns to it, and once it has, no
broadcast that is started submits; and a public result file holds the result of the journal. -/
theorem deployment_submitted_once (kaspa : Kaspa) {h : List DeployEvent} {host : DeployHost}
    (run : Run (step kaspa) Unused h host) :
    (h.filterMap submitted).length ≤ 1 ∧
    (∀ transaction ∈ h.filterMap submitted, ∃ journal, host.world.journal = some journal ∧
      journal.IsPast ∧ kaspa.transactionId transaction = journal.expectedDeployTxId) ∧
    h.Pairwise (fun e later => e.post.world.IsPast → later.post.world.IsPast) ∧
    (∀ before e later, h = before ++ e :: later → e.pre.running = none → e.pre.world.IsPast →
      ∀ other ∈ e :: later, submitted other = none) ∧
    (∀ result, host.world.result = some result → ∃ journal, host.world.journal = some journal ∧
      journal.result = some result) := by
  have sound : Sound kaspa host.world :=
    (run.invariant (Steady kaspa) steady_of_unused steady_step).1
  have received := submissions_of_run run
  refine ⟨?_, ?_, ?_, ?_, sound.published⟩
  · rw [← received]
    exact sound.once
  · intro transaction isSubmitted
    rw [← received] at isSubmitted
    obtain ⟨journal, held, isBound⟩ := sound.bound transaction isSubmitted
    have some' : host.world.submissions ≠ [] := List.ne_nil_of_mem isSubmitted
    exact ⟨journal, held, isPast_of_journal held (sound.marked some'), isBound⟩
  · let Mark : DeployEvent → DeployHost → Prop := fun e s => e.post.world.IsPast → s.world.IsPast
    have kept : ∀ e s signal, Steady kaspa s → Mark e s → Mark e (step kaspa signal s).2 :=
      fun _ _ signal steady mark past => isPast_step steady signal (mark past)
    exact run.pairwise (Steady kaspa) steady_of_unused steady_step (fun _ _ _ past => past) kept kept
  · intro before e later split idle past
    rw [split] at run
    exact unsubmitted_since run idle past

/-! ## A broadcast that is killed after its submission and run again -/

def sampleSigningRequest : SigningRequest where
  network := "testnet"
  networkId := "testnet-10"
  requestSha256 := "aa"
  signingRequestSha256 := "bb"
  contractName := "RuleState"
  deployerAddress := "kaspatest:q"
  deployedInstanceId := "genesis"
  unsignedTransactionId := "cc"
  covenantId := "dd"

def sampleBroadcast : Broadcast where
  verified :=
    { transaction := ⟨1, [true], [1]⟩
      verification :=
        { schemaVersion := 1
          kind := "prometheus.silverc.genesis.signature_verification"
          status := "EXTERNAL_SIGNATURE_AND_TRANSACTION_VERIFIED"
          requestSha256 := "aa"
          signingRequestSha256 := "bb"
          transactionId := "cc"
          covenantId := "dd"
          signatureValidation := "bip340_schnorr_passed"
          transactionValidation := "kaspa_consensus_sign_verify_passed"
          safety := safetyMap } }
  signingRequest := sampleSigningRequest
  acknowledgement := "bb"

def sampleKaspa : Kaspa where
  isSigningRequest request := decide (request = sampleSigningRequest)
  transactionId transaction := if transaction.bytes = [1] then "cc" else "ee"
  isSigned transaction := decide (transaction.bytes = [1])

/-- The first broadcast is killed when the node has the transaction; the second one finds it in the
mempool and publishes the result. -/
def killedSignals : List (Signal Broadcast Choice) :=
  let absent : Signal Broadcast Choice := .next ⟨.returns, 5, false, "cc"⟩
  let pending : Signal Broadcast Choice := .next ⟨.returns, 9, true, "cc"⟩
  [.start sampleBroadcast] ++ List.replicate 11 absent ++ [.kill, .start sampleBroadcast] ++
    List.replicate 7 absent ++ List.replicate 4 pending

theorem deployment_submitted_once_killed :
    let r := execute (step sampleKaspa) killedSignals ⟨⟨none, none, []⟩, none⟩
    (r.1.filterMap submitted).length = 1 ∧ r.2.world.result.isSome = true ∧
    (r.1.filterMap submitted).length ≤ 1 ∧
    (∀ result, r.2.world.result = some result → ∃ journal, r.2.world.journal = some journal ∧
      journal.result = some result) := by
  intro r
  have unused : Unused ⟨⟨none, none, []⟩, none⟩ := rfl
  have once := deployment_submitted_once sampleKaspa (Run.of_execute unused killedSignals)
  refine ⟨by decide, by decide, once.1, once.2.2.2.2⟩

end Prometheus.Deployer
