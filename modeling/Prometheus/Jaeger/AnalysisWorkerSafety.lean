import Prometheus.Jaeger.AnalysisWorker

/-!
# Finished analyses are recorded

A call of the worker that is awaiting its analyzer, or that has left its record behind after a
failure, has an open claim. `Sound` says that the record of an open claim stays leased to it as long
as no transaction was made at or past the expiry of the lease; every step of the system keeps it.
So a valid result that comes back in time finds the lease it needs, and a record that was left
behind is not touched before its lease is over.
-/

namespace Prometheus.Jaeger.AnalysisWorker

open Prometheus.Codec Prometheus.Machine Prometheus.Jaeger.ApprovalLedger

variable {codec : WireCodec} {system : System} {h : List SystemEvent} {s : State} {input : Input}
variable {i : Nat} {claim : OutboxClaim}

/-! ## Claims of a run -/

/-- The claim that a step's transaction returned. -/
def claimed (e : SystemEvent) : Option OutboxClaim :=
  match e.output with
  | some (_, .ok (.claimed (some claim))) => some claim
  | _ => none

/-- The event is the claim of call `i`. -/
def Claims (e : SystemEvent) (i : Nat) (claim : OutboxClaim) : Prop :=
  (∃ action, e.input = .task i action) ∧ claimed e = some claim

/-- The call presents the lease token of the claim. -/
def PresentsToken (call : Call) (claim : OutboxClaim) : Prop :=
  ∃ outbox arguments io, call = .complete outbox (some arguments) io ∧
    arguments.leaseToken = claim.leaseToken

/-- `os.urandom` never draws a lease token again, and only the caller of a claim knows its token:
    whoever is not a worker's call does not present the token of a worker's claim. -/
structure TokensPrivate (h : List SystemEvent) : Prop where
  fresh : ((h.filterMap claimed).map OutboxClaim.leaseToken).Nodup
  kept : ∀ e ∈ h, ∀ call, e.input = .other call → ∀ e' ∈ h, ∀ i claim, Claims e' i claim →
    ¬ PresentsToken call claim

/-- The time for which a step's transaction was made. -/
def timeOf (e : SystemEvent) : Option Int := e.output.bind fun transaction =>
  transaction.1.suppliedTime

/-- The clock that the times of the transactions follow reads `now`: no transaction so far was made
    for a later time. -/
def ReadsAtMost (h : List SystemEvent) (now : Int) : Prop :=
  ∀ time ∈ h.filterMap timeOf, time ≤ now

/-- The call holds the claim. -/
def Point.Carries : Point → OutboxClaim → Prop
  | .analyzing analysis, claim => analysis.claim = claim
  | .completing analysis _, claim => analysis.claim = claim
  | _, _ => False

/-- Call `i` raised while it held the claim. -/
def GaveUp (h : List SystemEvent) (i : Nat) (claim : OutboxClaim) : Prop :=
  ∃ e ∈ h, ∃ action error, e.input = .task i action ∧ (e.pre.points i).Carries claim ∧
    e.post.points i = .ended (.error error)

/-- Call `i` holds the claim, or raised while it held it. -/
def OpenClaim (h : List SystemEvent) (s : State) (i : Nat) (claim : OutboxClaim) : Prop :=
  (s.points i).Carries claim ∨ GaveUp h i claim

theorem TokensPrivate.prefix {h' : List SystemEvent} (tokens : TokensPrivate (h ++ h')) :
    TokensPrivate h where
  fresh := by
    have fresh := tokens.fresh
    rw [List.filterMap_append, List.map_append] at fresh
    exact fresh.of_append_left
  kept := by
    intro e he call isOther e' he' i claim claims
    exact tokens.kept e (List.mem_append_left _ he) call isOther e' (List.mem_append_left _ he') i
      claim claims

/-- One token is drawn by one call. -/
theorem TokensPrivate.same_call (tokens : TokensPrivate h) {e e' : SystemEvent} {j : Nat}
    {claim' : OutboxClaim} (he : e ∈ h) (he' : e' ∈ h) (claims : Claims e i claim)
    (claims' : Claims e' j claim') (same : claim.leaseToken = claim'.leaseToken) : i = j := by
  by_cases one : e = e'
  · obtain ⟨⟨action, isTask⟩, -⟩ := claims
    obtain ⟨⟨action', isTask'⟩, -⟩ := claims'
    rw [one, isTask'] at isTask
    exact (Input.task.inj isTask).1.symm
  · exfalso
    have fresh := tokens.fresh
    rw [List.Nodup, List.pairwise_map, List.pairwise_filterMap] at fresh
    have symmetric : Std.Symm fun e e' : SystemEvent => ∀ claim, claimed e = some claim →
        ∀ claim', claimed e' = some claim' → claim.leaseToken ≠ claim'.leaseToken :=
      ⟨fun _ _ apart second isSecond first isFirst => (apart first isFirst second isSecond).symm⟩
    exact fresh.forall he he' one claim claims.2 claim' claims'.2 same

theorem readsAtMost_append {h' : List SystemEvent} {now : Int} :
    ReadsAtMost (h ++ h') now ↔ ReadsAtMost h now ∧ ReadsAtMost h' now := by
  simp only [ReadsAtMost, List.filterMap_append, List.mem_append, or_imp, forall_and]

/-! ## One step of a call -/

/-- The time of a call was validated. -/
def Progress.Valid (request : Request) (progress : Progress) : Prop :=
  request.currentTime = some progress.now ∧ isTimestamp progress.now = true

/-- What a call past its checks remembers; a claim was made before its lease expired. -/
def Point.Timely (request : Request) : Point → Prop
  | .queued progress | .claiming progress => progress.Valid request
  | .analyzing analysis | .completing analysis _ =>
    analysis.progress.Valid request ∧ analysis.progress.now < analysis.claim.leaseExpiresAt
  | _ => True

theorem enter_cases (currentTime : Option Int) (completed : Nat) :
    (∃ now, currentTime = some now ∧ isTimestamp now = true ∧
      enter currentTime completed = .queued ⟨now, completed⟩) ∨
    enter currentTime completed = failed .worker := by
  unfold enter
  cases currentTime with
  | none => exact .inr rfl
  | some now =>
    by_cases valid : isTimestamp now = true
    · exact .inl ⟨now, rfl, valid, if_pos valid⟩
    · exact .inr (if_neg valid)

theorem timely_enter (request : Request) (completed : Nat) :
    (enter request.currentTime completed).Timely request := by
  rcases enter_cases request.currentTime completed with ⟨now, given, valid, queued⟩ | refused
  · rw [queued]
    exact ⟨given, valid⟩
  · rw [refused]
    trivial

theorem not_carries_enter (currentTime : Option Int) (completed : Nat) :
    ¬ (enter currentTime completed).Carries claim := by
  rcases enter_cases currentTime completed with ⟨now, -, -, queued⟩ | refused
  · rw [queued]
    exact id
  · rw [refused]
    exact id

theorem start_cases (request : Request) :
    start request = enter request.currentTime 0 ∨ start request = failed .worker := by
  unfold start
  split
  · exact .inl rfl
  · split
    · exact .inl rfl
    · exact .inr rfl
  · exact .inr rfl

theorem timely_start (request : Request) : (start request).Timely request := by
  rcases start_cases request with entered | refused
  · rw [entered]
    exact timely_enter request 0
  · rw [refused]
    trivial

theorem not_carries_start (request : Request) : ¬ (start request).Carries claim := by
  rcases start_cases request with entered | refused
  · rw [entered]
    exact not_carries_enter _ _
  · rw [refused]
    exact id

/-- After a claim the call carries the claim that was returned, or ends. -/
theorem afterClaim_cases (method : Method) (progress : Progress)
    (completionToken : Option (Vector UInt8 32)) (out : Except ConsumptionError Answer) :
    (∃ claim token, out = .ok (.claimed (some claim)) ∧
      afterClaim method progress completionToken out = .analyzing ⟨progress, claim, token⟩) ∨
    ∃ outcome, afterClaim method progress completionToken out = .ended outcome := by
  unfold afterClaim
  split
  · rename_i claim
    split
    · cases completionToken with
      | none => exact .inr ⟨_, rfl⟩
      | some token => exact .inl ⟨claim, token, rfl, rfl⟩
    · exact .inr ⟨_, rfl⟩
  · cases method <;> exact .inr ⟨_, rfl⟩
  · exact .inr ⟨_, rfl⟩

theorem afterClaim_carries {method : Method} {progress : Progress}
    {completionToken : Option (Vector UInt8 32)} {out : Except ConsumptionError Answer}
    (carries : (afterClaim method progress completionToken out).Carries claim) :
    out = .ok (.claimed (some claim)) ∧ ∃ token,
      afterClaim method progress completionToken out = .analyzing ⟨progress, claim, token⟩ := by
  rcases afterClaim_cases method progress completionToken out with
    ⟨claim', token, returned, analyzing⟩ | ⟨outcome, ended⟩
  · rw [analyzing] at carries
    have same : claim' = claim := carries
    subst same
    exact ⟨returned, token, analyzing⟩
  · rw [ended] at carries
    exact carries.elim

theorem afterAnalysis_carries {analysis : Analysis} {outcome : AnalysisOutcome}
    (carries : (afterAnalysis analysis outcome).Carries claim) : analysis.claim = claim := by
  unfold afterAnalysis at carries
  split at carries
  · split at carries
    · exact carries
    · exact carries.elim
  · exact carries.elim
  · exact carries.elim
  · exact carries.elim
  · exact carries.elim

/-- After a completion the call goes on with the next record, or ends. -/
theorem afterComplete_cases (request : Request) (progress : Progress)
    (out : Except ConsumptionError Answer) :
    afterComplete request progress out = enter request.currentTime (progress.completed + 1) ∨
      ∃ outcome, afterComplete request progress out = .ended outcome := by
  unfold afterComplete
  split
  · split
    · split
      · exact .inl rfl
      · exact .inr ⟨_, rfl⟩
    · exact .inr ⟨_, rfl⟩
  · exact .inr ⟨_, rfl⟩
  · exact .inr ⟨_, rfl⟩

theorem timely_afterComplete (request : Request) (progress : Progress)
    (out : Except ConsumptionError Answer) :
    (afterComplete request progress out).Timely request := by
  rcases afterComplete_cases request progress out with next | ⟨outcome, ended⟩
  · rw [next]
    exact timely_enter request _
  · rw [ended]
    trivial

theorem not_carries_afterComplete (request : Request) (progress : Progress)
    (out : Except ConsumptionError Answer) :
    ¬ (afterComplete request progress out).Carries claim := by
  rcases afterComplete_cases request progress out with next | ⟨outcome, ended⟩
  · rw [next]
    exact not_carries_enter _ _
  · rw [ended]
    exact id

/-- A completion after which the call raises has changed nothing. -/
theorem unchanged_of_raised {request : Request} {progress : Progress} {outbox : OutboxObject}
    {arguments : CompleteArguments} {io : Io} {out : Except ConsumptionError Answer} {db db' : Db}
    (effect : Effect codec db (.complete outbox (some arguments) io) out db')
    (valid : progress.Valid request) {error : WorkerError}
    (raised : afterComplete request progress out = .ended (.error error)) : db' = db := by
  have returns : ∀ completion, afterComplete request progress (.ok (.completed completion)) ≠
      .ended (.error error) := by
    intro completion
    have queued : enter request.currentTime (progress.completed + 1) =
        .queued ⟨progress.now, progress.completed + 1⟩ := by
      rw [valid.1]
      exact if_pos valid.2
    unfold afterComplete
    split
    · split
      · split
        · rw [queued]
          exact Point.noConfusion
        · simp
      · simp
    · rename_i notCompleted isAnswer
      exact absurd (Except.ok.inj isAnswer).symm (notCompleted _)
    · rename_i isError
      cases isError
  cases effect with
  | raised error => rfl
  | retried retried => exact absurd raised (returns _)
  | recorded recorded => exact absurd raised (returns _)

/-- What a step of a call can do: move without a transaction, claim, or complete its claim. -/
inductive Taken (codec : WireCodec) (worker : Worker) (request : Request) (point : Point) (db : Db) :
    TaskStep → Prop
  | moved (next : Point) (timely : point.Timely request → next.Timely request)
      (carries : ∀ claim, next.Carries claim → point.Carries claim) :
      Taken codec worker request point db ⟨none, next, db⟩
  | claimed (progress : Progress) (leaseToken : Bytes)
      (completionToken : Option (Vector UInt8 32)) (io : Io) (isPoint : point = .claiming progress) :
      Taken codec worker request point db (transactStep codec
        (.claim worker.outbox (some ⟨progress.now, worker.leaseSeconds⟩) leaseToken io)
        (afterClaim request.method progress completionToken) db)
  | completed (analysis : Analysis) (resultWire : Bytes) (io : Io)
      (isPoint : point = .completing analysis resultWire) :
      Taken codec worker request point db (transactStep codec
        (.complete worker.outbox (some (analysis.arguments resultWire)) io)
        (afterComplete request analysis.progress) db)

theorem taken (codec : WireCodec) (worker : Worker) (request : Request) (slot : Bool)
    (action : Action) (point : Point) (db : Db) :
    Taken codec worker request point db (stepTask codec worker request slot action point db) := by
  unfold stepTask
  split
  · apply Taken.moved
    · exact fun _ => timely_start request
    · exact fun _ carries => (not_carries_start request carries).elim
  · rename_i progress
    apply Taken.moved
    · intro timely
      cases slot <;> exact timely
    · intro claim carries
      cases slot <;> exact carries.elim
  · exact Taken.moved _ (fun _ => trivial) (fun _ carries => carries.elim)
  · exact Taken.claimed _ _ _ _ rfl
  · rename_i analysis outcome
    apply Taken.moved
    · intro timely
      unfold afterAnalysis
      split
      · split
        · exact timely
        · trivial
      · trivial
      · trivial
      · trivial
      · trivial
    · exact fun _ carries => afterAnalysis_carries carries
  · exact Taken.completed _ _ _ rfl
  · exact Taken.moved _ id fun _ carries => carries

/-! ## The invariant -/

/-- What holds after every run whose tokens are private. -/
structure Sound (codec : WireCodec) (system : System) (h : List SystemEvent) (s : State) : Prop where
  ledger : OutboxInv s.db
  timely : ∀ i, (s.points i).Timely (system.requests i)
  claims : ∀ i claim, OpenClaim h s i claim → ∃ e ∈ h, Claims e i claim
  gaveUp : ∀ i claim, GaveUp h i claim → ∃ error, s.points i = .ended (.error error)
  held : ∀ i claim now, OpenClaim h s i claim → ReadsAtMost h now → now < claim.leaseExpiresAt →
    ∃ row, Held codec (system.workerOf i).outbox.networkId claim row s.db

/-- The task step that a step of the system takes. -/
def taskStep (codec : WireCodec) (system : System) (s : State) (i : Nat) (action : Action) :
    TaskStep :=
  stepTask codec (system.workerOf i) (system.requests i)
    (decide (0 < s.free (system.requests i).worker)) action (s.points i) s.db

@[simp] theorem systemStep_points_self {action : Action} :
    (systemStep codec system (.task i action) s).2.points i =
      (taskStep codec system s i action).point := by
  simp [systemStep, taskStep]

theorem systemStep_points_other (other : ∀ action, input ≠ .task i action) :
    (systemStep codec system input s).2.points i = s.points i := by
  cases input with
  | other call => rfl
  | task j action =>
    have differ : i ≠ j := by
      intro same
      subst same
      exact other action rfl
    simp [systemStep, differ]

theorem idle_sound (idle : Idle system s) : Sound codec system [] s where
  ledger := outboxInv_of_unused idle.1
  timely := by
    intro i
    rw [idle.2.1]
    trivial
  claims := by
    rintro i claim (carries | ⟨e, he, -⟩)
    · rw [idle.2.1] at carries
      exact carries.elim
    · cases he
  gaveUp := by
    rintro i claim ⟨e, he, -⟩
    cases he
  held := by
    rintro i claim now (carries | ⟨e, he, -⟩)
    · rw [idle.2.1] at carries
      exact carries.elim
    · cases he

/-- Giving up in the last event or before. -/
theorem gaveUp_append {e : SystemEvent} :
    GaveUp (h ++ [e]) i claim ↔ GaveUp h i claim ∨ GaveUp [e] i claim := by
  simp only [GaveUp, List.mem_append, or_and_right, exists_or]

theorem gaveUp_now
    (gaveUp : GaveUp [callEvent (systemStep codec system) s input] i claim) :
    (s.points i).Carries claim ∧ ∃ action error, input = .task i action ∧
      (taskStep codec system s i action).point = .ended (.error error) := by
  obtain ⟨e, he, action, error, isTask, carries, ended⟩ := gaveUp
  rw [List.mem_singleton.mp he] at isTask carries ended
  have isInput : input = .task i action := isTask
  have point : (systemStep codec system input s).2.points i = .ended (.error error) := ended
  rw [isInput, systemStep_points_self] at point
  exact ⟨carries, action, error, isInput, point⟩

/-- An open claim was open before a step of its own call, which left the file alone; or it is the
    claim of this step. -/
theorem Sound.open_before_own (sound : Sound codec system h s) {action : Action}
    (opened : OpenClaim (h ++ [callEvent (systemStep codec system) s (.task i action)])
      (systemStep codec system (.task i action) s).2 i claim) :
    (OpenClaim h s i claim ∧ (taskStep codec system s i action).db = s.db) ∨
      ∃ arguments leaseToken io,
        (taskStep codec system s i action).transaction =
          some (.claim (system.workerOf i).outbox (some arguments) leaseToken io,
            .ok (.claimed (some claim))) ∧
        step codec (.claim (system.workerOf i).outbox (some arguments) leaseToken io) s.db =
          (.ok (.claimed (some claim)), (taskStep codec system s i action).db) := by
  have now : (taskStep codec system s i action).point.Carries claim ∨ GaveUp h i claim ∨
      ((s.points i).Carries claim ∧
        ∃ error, (taskStep codec system s i action).point = .ended (.error error)) := by
    rcases opened with carries | gaveUp
    · rw [systemStep_points_self] at carries
      exact .inl carries
    · rcases gaveUp_append.mp gaveUp with before | last
      · exact .inr (.inl before)
      · obtain ⟨carries, action', error, isTask, ended⟩ := gaveUp_now last
        cases isTask
        exact .inr (.inr ⟨carries, error, ended⟩)
  have cases' : Taken codec (system.workerOf i) (system.requests i) (s.points i) s.db
      (taskStep codec system s i action) := taken _ _ _ _ _ _ _
  generalize taskStep codec system s i action = t at now cases' ⊢
  cases cases' with
  | moved next timely carries =>
    left
    refine ⟨?_, rfl⟩
    rcases now with carried | gaveUp | ⟨carried, -⟩
    · exact .inl (carries claim carried)
    · exact .inr gaveUp
    · exact .inl carried
  | claimed progress leaseToken completionToken io isPoint =>
    right
    rcases now with carried | gaveUp | ⟨carried, -⟩
    · obtain ⟨returned, -⟩ := afterClaim_carries carried
      refine ⟨⟨progress.now, (system.workerOf i).leaseSeconds⟩, leaseToken, io, ?_,
        Prod.ext returned rfl⟩
      exact congrArg (fun out => some (_, out)) returned
    · obtain ⟨error, ended⟩ := sound.gaveUp i claim gaveUp
      rw [isPoint] at ended
      cases ended
    · rw [isPoint] at carried
      exact carried.elim
  | completed analysis resultWire io isPoint =>
    left
    rcases now with carried | gaveUp | ⟨carried, error, raised⟩
    · exact (not_carries_afterComplete _ _ _ carried).elim
    · obtain ⟨error, ended⟩ := sound.gaveUp i claim gaveUp
      rw [isPoint] at ended
      cases ended
    · have timely := sound.timely i
      rw [isPoint] at timely
      exact ⟨.inl carried, unchanged_of_raised (step_effect codec _ s.db) timely.1 raised⟩

/-- A step of another call, or of somebody else, opens no claim of call `i`. -/
theorem open_before_other (other : ∀ action, input ≠ .task i action)
    (opened : OpenClaim (h ++ [callEvent (systemStep codec system) s input])
      (systemStep codec system input s).2 i claim) : OpenClaim h s i claim := by
  rcases opened with carries | gaveUp
  · rw [systemStep_points_other other] at carries
    exact .inl carries
  · right
    rcases gaveUp_append.mp gaveUp with before | last
    · exact before
    · obtain ⟨-, action, -, isTask, -⟩ := gaveUp_now last
      exact absurd isTask (other action)

/-- A transaction that somebody else makes does not complete an open claim. -/
theorem Sound.not_presents (sound : Sound codec system h s)
    (tokens : TokensPrivate (h ++ [callEvent (systemStep codec system) s input]))
    (other : ∀ action, input ≠ .task i action) (opened : OpenClaim h s i claim) {call : Call}
    {out : Except ConsumptionError Answer}
    (made : (systemStep codec system input s).1 = some (call, out)) :
    ¬ Presents call out claim := by
  rintro ⟨outbox, arguments, io, completion, isComplete, -, -, sameToken⟩
  obtain ⟨e, he, claims⟩ := sound.claims i claim opened
  cases input with
  | other call' =>
    have sameCall : call' = call := congrArg Prod.fst (Option.some.inj made)
    exact tokens.kept _ (List.mem_append_right _ (List.mem_singleton_self _)) call' rfl e
      (List.mem_append_left _ he) i claim claims
      ⟨outbox, arguments, io, sameCall.trans isComplete, sameToken⟩
  | task j action =>
    have cases' : Taken codec (system.workerOf j) (system.requests j) (s.points j) s.db
        (taskStep codec system s j action) := taken _ _ _ _ _ _ _
    have made' : (taskStep codec system s j action).transaction = some (call, out) := made
    generalize taskStep codec system s j action = t at made' cases'
    cases cases' with
    | moved next timely carries => cases made'
    | claimed progress leaseToken completionToken io' isPoint =>
      have isClaim := congrArg Prod.fst (Option.some.inj made')
      rw [isComplete] at isClaim
      cases isClaim
    | completed analysis resultWire io' isPoint =>
      have isOwn := congrArg Prod.fst (Option.some.inj made')
      rw [isComplete] at isOwn
      have sameArguments : analysis.arguments resultWire = arguments := by
        injection isOwn with _ same
        exact Option.some.inj same
      have carries : (s.points j).Carries analysis.claim := by
        rw [isPoint]
        rfl
      obtain ⟨e', he', claims'⟩ := sound.claims j analysis.claim (.inl carries)
      have token : claim.leaseToken = analysis.claim.leaseToken := by
        rw [← sameToken, ← sameArguments]
        rfl
      have same := tokens.prefix.same_call he he' claims claims' token
      subst same
      exact other action rfl

theorem Sound.timely_step (sound : Sound codec system h s) (input : Input) (i : Nat) :
    ((systemStep codec system input s).2.points i).Timely (system.requests i) := by
  have timely := sound.timely i
  by_cases own : ∃ action, input = .task i action
  · obtain ⟨action, rfl⟩ := own
    rw [systemStep_points_self]
    have cases' : Taken codec (system.workerOf i) (system.requests i) (s.points i) s.db
        (taskStep codec system s i action) := taken _ _ _ _ _ _ _
    generalize taskStep codec system s i action = t at cases' ⊢
    cases cases' with
    | moved next timely' carries => exact timely' timely
    | claimed progress leaseToken completionToken io isPoint =>
      rw [isPoint] at timely
      simp only [transactStep]
      rcases afterClaim_cases (system.requests i).method progress completionToken _ with
        ⟨claim, token, returned, analyzing⟩ | ⟨outcome, ended⟩
      · rw [analyzing]
        exact ⟨timely, ((step_effect codec _ s.db).held_of_claimed returned).1⟩
      · rw [ended]
        trivial
    | completed analysis resultWire io isPoint => exact timely_afterComplete _ _ _
  · rw [systemStep_points_other fun action isTask => own ⟨action, isTask⟩]
    exact timely

/-- A record that is held stays held over a step that does not complete it. -/
theorem Sound.held_step (sound : Sound codec system h s) {networkId : Str} {row : OutboxRow}
    {now : Int} (held : Held codec networkId claim row s.db)
    (reads : ReadsAtMost [callEvent (systemStep codec system) s input] now)
    (unexpired : now < claim.leaseExpiresAt)
    (kept : ∀ call out, (systemStep codec system input s).1 = some (call, out) →
      ¬ Presents call out claim) :
    Held codec networkId claim row (systemStep codec system input s).2.db := by
  obtain ⟨-, same⟩ | ⟨call, made, after⟩ := systemStep_ledger codec system input s
  · rw [same]
    exact held
  · rw [after]
    have early : ∀ time, call.suppliedTime = some time → time < claim.leaseExpiresAt := by
      intro time supplied
      have isTime : timeOf (callEvent (systemStep codec system) s input) = some time := by
        have output : (callEvent (systemStep codec system) s input).output = _ := made
        rw [timeOf, output]
        exact supplied
      have read : time ≤ now := reads time
        (List.mem_filterMap.mpr ⟨_, List.mem_singleton_self _, isTime⟩)
      exact lt_of_le_of_lt read unexpired
    rcases (step_effect codec call s.db).held sound.ledger held early with still | presents
    · exact still
    · exact absurd presents (kept call _ made)

theorem Sound.step (sound : Sound codec system h s)
    (tokens : TokensPrivate (h ++ [callEvent (systemStep codec system) s input])) :
    Sound codec system (h ++ [callEvent (systemStep codec system) s input])
      (systemStep codec system input s).2 where
  ledger := by
    obtain ⟨-, same⟩ | ⟨call, -, after⟩ := systemStep_ledger codec system input s
    · rw [same]
      exact sound.ledger
    · rw [after]
      exact outboxInv_step codec s.db call sound.ledger
  timely := sound.timely_step input
  claims := by
    intro i claim opened
    have before : OpenClaim h s i claim →
        ∃ e ∈ h ++ [callEvent (systemStep codec system) s input], Claims e i claim := by
      intro opened
      obtain ⟨e, he, claims⟩ := sound.claims i claim opened
      exact ⟨e, List.mem_append_left _ he, claims⟩
    by_cases own : ∃ action, input = .task i action
    · obtain ⟨action, rfl⟩ := own
      rcases sound.open_before_own opened with ⟨opened, -⟩ | ⟨_, _, _, made, -⟩
      · exact before opened
      · refine ⟨_, List.mem_append_right _ (List.mem_singleton_self _), ⟨action, rfl⟩, ?_⟩
        have output : (callEvent (systemStep codec system) s (.task i action)).output = _ := made
        rw [claimed, output]
    · exact before (open_before_other (fun action isTask => own ⟨action, isTask⟩) opened)
  gaveUp := by
    intro i claim gaveUp
    rcases gaveUp_append.mp gaveUp with before | last
    · -- a call that has ended takes no step
      obtain ⟨error, ended⟩ := sound.gaveUp i claim before
      refine ⟨error, ?_⟩
      by_cases own : ∃ action, input = .task i action
      · obtain ⟨action, rfl⟩ := own
        rw [systemStep_points_self, taskStep, ended]
        rfl
      · rw [systemStep_points_other fun action isTask => own ⟨action, isTask⟩]
        exact ended
    · obtain ⟨-, action, error, rfl, ended⟩ := gaveUp_now last
      exact ⟨error, by rw [systemStep_points_self, ended]⟩
  held := by
    intro i claim now opened reads unexpired
    obtain ⟨readsBefore, readsNow⟩ := readsAtMost_append.mp reads
    by_cases own : ∃ action, input = .task i action
    · obtain ⟨action, rfl⟩ := own
      rcases sound.open_before_own opened with
        ⟨opened, same⟩ | ⟨arguments, leaseToken, io, -, returned⟩
      · obtain ⟨row, held⟩ := sound.held i claim now opened readsBefore unexpired
        refine ⟨row, held.of_stored ?_⟩
        have unchanged : (systemStep codec system (.task i action) s).2.db = s.db := same
        rw [unchanged]
        exact held.stored
      · have effect := step_effect codec
          (.claim (system.workerOf i).outbox (some arguments) leaseToken io) s.db
        rw [returned] at effect
        exact (effect.held_of_claimed rfl).2
    · have other : ∀ action, input ≠ .task i action := fun action isTask => own ⟨action, isTask⟩
      have before := open_before_other other opened
      obtain ⟨row, held⟩ := sound.held i claim now before readsBefore unexpired
      exact ⟨row, sound.held_step held readsNow unexpired fun call out made =>
        sound.not_presents tokens other before made⟩

theorem sound_run (run : Run (systemStep codec system) (Idle system) h s)
    (tokens : TokensPrivate h) : Sound codec system h s := by
  induction run with
  | start s idle => exact idle_sound idle
  | call input run ih => exact (ih tokens.prefix).step tokens

/-! ## Finished analyses -/

/-- The completion of a call whose analysis came back in time returns, and its result is stored. -/
theorem completion_accepted (digests : ∀ m, isFixedBytes (codec.sha256 m) = true)
    (sound : Sound codec system h s) {analysis : Analysis} {resultWire : Bytes}
    (atCompletion : s.points i = .completing analysis resultWire)
    (valid : IsResultFor codec analysis.claim resultWire) {now : Int} (reads : ReadsAtMost h now)
    (unexpired : now < analysis.claim.leaseExpiresAt) :
    ∃ call completion, (systemStep codec system (.task i (.complete .none)) s).1 =
        some (call, .ok (.completed completion)) ∧
      completion.approvalId = analysis.claim.approvalId ∧
      ∃ result ∈ (systemStep codec system
          (.task i (.complete .none)) s).2.db.observableAnalysisResults.rows,
        result.approvalId = analysis.claim.approvalId ∧ result.resultWire = resultWire := by
  have carries : (s.points i).Carries analysis.claim := by
    rw [atCompletion]
    rfl
  obtain ⟨row, held⟩ := sound.held i analysis.claim now (.inl carries) reads unexpired
  have timely := sound.timely i
  rw [atCompletion] at timely
  obtain ⟨progress, live⟩ := timely
  have completes : CompletesClaim analysis.claim (analysis.arguments resultWire) :=
    ⟨rfl, rfl, rfl, by simp [Analysis.arguments, isFixedBytes, fixedHashBytes], progress.2, live⟩
  obtain ⟨db', returned, stored⟩ := complete_held digests sound.ledger held completes valid
  have transacted : step codec (.complete (system.workerOf i).outbox
      (some (analysis.arguments resultWire)) .none) s.db =
        (.ok (.completed (recordedCompletion codec (analysis.arguments resultWire) row)), db') := by
    simp only [step, answer, returned, Except.map]
  have taken : systemStep codec system (.task i (.complete .none)) s =
      (some (.complete (system.workerOf i).outbox (some (analysis.arguments resultWire)) .none,
        .ok (.completed (recordedCompletion codec (analysis.arguments resultWire) row))),
        (systemStep codec system (.task i (.complete .none)) s).2) := by
    simp only [systemStep, stepTask, atCompletion, transactStep, transacted]
  have file : (systemStep codec system (.task i (.complete .none)) s).2.db = db' := by
    simp only [systemStep, stepTask, atCompletion, transactStep, transacted]
  refine ⟨_, _, congrArg Prod.fst taken, rfl,
    recordedRow codec (analysis.arguments resultWire) row, ?_, rfl, rfl⟩
  rw [file]
  exact stored

/-- In every run of the system whose lease tokens are private: a valid result that came back before
    its lease expired is accepted, no record gets a second result, and the record of a call that
    raised after its claim stays leased until the lease expires. -/
theorem analyses_recorded (digests : ∀ m, isFixedBytes (codec.sha256 m) = true)
    (run : Run (systemStep codec system) (Idle system) h s) (tokens : TokensPrivate h) :
    (∀ i analysis resultWire now, s.points i = .completing analysis resultWire →
      IsResultFor codec analysis.claim resultWire → ReadsAtMost h now →
      now < analysis.claim.leaseExpiresAt →
      ∃ call completion, (systemStep codec system (.task i (.complete .none)) s).1 =
          some (call, .ok (.completed completion)) ∧
        completion.approvalId = analysis.claim.approvalId ∧
        ∃ result ∈ (systemStep codec system
            (.task i (.complete .none)) s).2.db.observableAnalysisResults.rows,
          result.approvalId = analysis.claim.approvalId ∧ result.resultWire = resultWire) ∧
    ((h.filterMap ledgerEvent).Pairwise fun e e' => ∀ approvalId,
      ¬ (StoresResult e approvalId ∧ StoresResult e' approvalId)) ∧
    ∀ i claim now, GaveUp h i claim → ReadsAtMost h now → now < claim.leaseExpiresAt →
      ∃ row ∈ s.db.approvalOutbox.rows, row.approvalId = claim.approvalId ∧
        row.leaseToken = some claim.leaseToken ∧
        row.leaseExpiresAt = some claim.leaseExpiresAt := by
  have sound := sound_run run tokens
  refine ⟨?_, ?_, ?_⟩
  · intro i analysis resultWire now atCompletion valid reads unexpired
    exact completion_accepted digests sound atCompletion valid reads unexpired
  · exact (ledger_run run).pairwise OutboxInv (fun _ unused => outboxInv_of_unused unused)
      (fun s i inv => outboxInv_step codec s i inv) (fun s i inv => resultMark_left codec s i inv)
      (fun e s i _ => resultMark_kept codec e s i) fun e s i _ mark => resultMark_found codec e s i mark
  · intro i claim now gaveUp reads unexpired
    obtain ⟨row, held⟩ := sound.held i claim now (.inr gaveUp) reads unexpired
    exact ⟨row, held.stored, held.approvalId, held.token, held.expiry⟩

/-! ## One analysis -/

def sampleSystem : System where
  workers _ := ⟨sampleOutbox, 10, 1, by decide, by decide⟩
  requests _ := ⟨0, .processNext, some 12⟩

/-- The wire that the analyzer returns for the sample record. -/
def sampleWire : Bytes := (sampleCompletion 1 6 10 22 12).resultWire

/-- Enqueue the sample record, claim it and analyze it. -/
def sampleInputs : List Input :=
  [.other (.openLedger outboxLedger .none), .other (sampleEnqueue 1 10), .task 0 .start,
    .task 0 .acquire, .task 0 (.claim (List.replicate 32 6) (some (Vector.replicate 32 5)) .none),
    .task 0 (.analyzed (.returned (some sampleWire)))]

def sampleStart : State := ⟨Db.fresh, fun _ => .created, fun _ => 1⟩

/-- What the call holds when its analysis is back. -/
def sampleAnalysis : Analysis where
  progress := ⟨12, 0⟩
  claim := leasedClaim sampleCodec (str "testnet-10") (sampleRow 1 10) (List.replicate 32 6) 22
  completionToken := Vector.replicate 32 5

theorem sample_completing :
    (execute (systemStep sampleCodec sampleSystem) sampleInputs sampleStart).2.points 0 =
      .completing sampleAnalysis sampleWire := by
  decide +kernel

theorem sample_tokens :
    TokensPrivate (execute (systemStep sampleCodec sampleSystem) sampleInputs sampleStart).1 where
  fresh := by
    have one : (execute (systemStep sampleCodec sampleSystem) sampleInputs sampleStart).1.filterMap
        claimed = [sampleAnalysis.claim] := by decide +kernel
    rw [one]
    exact List.nodup_singleton _
  kept := by
    rintro e he call isOther - - i claim - ⟨outbox, arguments, io, isComplete, -⟩
    have inputs : (execute (systemStep sampleCodec sampleSystem) sampleInputs sampleStart).1.map
        Event.input = sampleInputs := rfl
    have found : e.input ∈ sampleInputs := by
      rw [← inputs]
      exact List.mem_map_of_mem he
    rw [isOther, isComplete] at found
    simp [sampleInputs, sampleEnqueue] at found

theorem analyses_recorded_sample :
    ∃ call completion, (systemStep sampleCodec sampleSystem (.task 0 (.complete .none))
        (execute (systemStep sampleCodec sampleSystem) sampleInputs sampleStart).2).1 =
          some (call, .ok (.completed completion)) ∧
      completion.approvalId = List.replicate 32 1 := by
  have idle : Idle sampleSystem sampleStart := ⟨⟨rfl, rfl, rfl⟩, rfl, rfl⟩
  have digests : ∀ m, isFixedBytes (sampleCodec.sha256 m) = true := by
    intro m
    simp [sampleCodec, isFixedBytes, fixedHashBytes, length_sha256]
  have valid : IsResultFor sampleCodec sampleAnalysis.claim sampleWire := by
    unfold IsResultFor
    decide +kernel
  have reads : ReadsAtMost (execute (systemStep sampleCodec sampleSystem) sampleInputs
      sampleStart).1 12 := by
    unfold ReadsAtMost
    decide +kernel
  obtain ⟨call, completion, returned, approval, -⟩ := (analyses_recorded digests
    (Run.of_execute idle sampleInputs) sample_tokens).1 0 sampleAnalysis sampleWire 12
      sample_completing valid reads (by decide)
  exact ⟨call, completion, returned, approval⟩

end Prometheus.Jaeger.AnalysisWorker
