import Prometheus.P2p.RunGuardian

/-!
# Answers to local submissions

In every run of `run_guardian`, a submission that was taken from the queue is answered at most once,
with what came of its own request, and none is left once the loop has returned without an error. What
comes of the requests of the hint protocols answers nothing.
-/

namespace Prometheus.P2p

open Prometheus.Codec Prometheus.Machine

/-! ## Events of the node -/

namespace GuardianP2p

variable {node : GuardianP2p} {p : Protocol} {event : TransportEvent}

end GuardianP2p

/-! ## What a step can do -/

namespace RunGuardian

variable {s s' : RunGuardian} {call : Call} {o : Outcome}

/-- The event that ends the request of a ballot, with the result of its submission. -/
def Ends (requestId : OutboundRequestId) (result : LocalSubmissionResult) : Call → Prop
  | .swarm event _ _ =>
    (∃ peer status, event = .exchange .ballots (.response peer requestId status) ∧
      result = .ofAck status) ∨
      ∃ peer error, event = .exchange .ballots (.outboundFailure peer requestId error) ∧
        result = .transportFailure
  | _ => False

/-- What a step does to the queue and to the pending submissions. -/
inductive StepSpec (call : Call) (s : RunGuardian) : Outcome → RunGuardian → Prop
  | submit (submission : LocalSubmission) {s' : RunGuardian} (isCall : call = .submit submission)
      (queue : s'.submissions = s.submissions ++ [submission])
      (pending : s'.pendingSubmissions = s.pendingSubmissions)
      (phase : s'.phase = s.phase) : StepSpec call s .quiet s'
  | quiet {s' : RunGuardian} (notSubmit : ∀ submission, call ≠ .submit submission)
      (queue : s'.submissions = s.submissions)
      (pending : s'.pendingSubmissions = s.pendingSubmissions)
      (phase : s'.phase = .returned true → s.phase = .returned true) : StepSpec call s .quiet s'
  | started (requestId : OutboundRequestId) (submission : LocalSubmission) {s' : RunGuardian}
      (isCall : call = .receive requestId)
      (queue : s.submissions = submission :: s'.submissions)
      (pending : s'.pendingSubmissions = (requestId, submission.response) ::
        s.pendingSubmissions.filter fun entry => decide (entry.1 ≠ requestId))
      (phase : s'.phase = .running) : StepSpec call s (.started requestId submission) s'
  | overloaded (requestId : OutboundRequestId) (submission : LocalSubmission) {s' : RunGuardian}
      (isCall : call = .receive requestId)
      (isFull : s.node.maxOutboundRequests ≤ s.node.outboundRequestCount)
      (queue : s.submissions = submission :: s'.submissions)
      (pending : s'.pendingSubmissions = s.pendingSubmissions)
      (phase : s'.phase = .running) : StepSpec call s (.refused [submission] .busy) s'
  | closed {s' : RunGuardian} (isCall : call = .signal true) (queue : s'.submissions = [])
      (pending : s'.pendingSubmissions = s.pendingSubmissions)
      (phase : s'.phase = .draining) : StepSpec call s (.refused s.submissions .busy) s'
  | completed (requestId : OutboundRequestId) (response : Response)
      (result : LocalSubmissionResult) {s' : RunGuardian} (isCall : Ends requestId result call)
      (found : s.pendingSubmissions.lookup requestId = some response)
      (queue : s'.submissions = s.submissions)
      (pending : s'.pendingSubmissions =
        s.pendingSubmissions.filter fun entry => decide (entry.1 ≠ requestId))
      (phase : s'.phase ≠ .returned true) :
      StepSpec call s (.completed requestId response result) s'
  | drained {s' : RunGuardian} (served emitted : Bool) (isCall : call = .finish served emitted)
      (queue : s'.submissions = s.submissions) (pending : s'.pendingSubmissions = []) :
      StepSpec call s (.drained s.pendingSubmissions) s'

abbrev History : Type := List (Event RunGuardian Call Outcome)

/-- What the submission server has put into the queue. -/
def submitted (h : History) : List Response :=
  h.flatMap fun e =>
    match e.input with
    | .submit submission => [submission.response]
    | _ => []

def taken (h : History) : List Response :=
  h.flatMap fun e => e.output.taken.map fun submission => submission.response

def requests (h : History) : List (OutboundRequestId × Response) :=
  h.flatMap fun e => e.output.requests

def unsent (h : History) : List Response :=
  h.flatMap fun e => e.output.unsent.map fun submission => submission.response

def answers (h : History) : List (Response × LocalSubmissionResult) :=
  h.flatMap fun e => e.output.answers

/-- Each submission has its own `oneshot` channel, and libp2p gives each request of a behaviour its
own identifier. -/
structure Documented (h : History) : Prop where
  responses : (submitted h).Nodup
  requestIds : ((requests h).map Prod.fst).Nodup

/-- Submissions are in the queue, pending or answered. -/
structure Settled (h : History) (s : RunGuardian) : Prop where
  queued : ∀ r, (s.submissions.map fun submission => submission.response).count r +
    (taken h).count r = (submitted h).count r
  sent : ∀ r, (taken h).count r = ((requests h).map Prod.snd).count r + (unsent h).count r
  answered : ∀ r, (taken h).count r =
    ((answers h).map Prod.fst).count r + (s.pendingSubmissions.map Prod.snd).count r
  pending : ∀ entry ∈ s.pendingSubmissions, entry ∈ requests h
  keys : (s.pendingSubmissions.map Prod.fst).Nodup
  finished : s.phase = .returned true → s.pendingSubmissions = []

section

variable {h h' : History} {pending : List (OutboundRequestId × Response)}
  {requestId : OutboundRequestId} {response : Response}

/-- A found entry is the only one of its key. -/
theorem perm_of_lookup (found : pending.lookup requestId = some response)
    (keys : (pending.map Prod.fst).Nodup) :
    pending.Perm ((requestId, response) ::
      pending.filter fun entry => decide (entry.1 ≠ requestId)) := by
  induction pending with
  | nil => cases found
  | cons entry pending ih =>
    obtain ⟨id, r⟩ := entry
    rw [List.map_cons, List.nodup_cons] at keys
    by_cases same : requestId = id
    · subst same
      rw [List.lookup_cons_self] at found
      obtain rfl := Option.some.inj found
      rw [List.filter_cons_of_neg (by simp), List.filter_eq_self.mpr]
      intro entry isEntry
      refine decide_eq_true fun isSame => keys.1 ?_
      rw [← isSame]
      exact List.mem_map.mpr ⟨entry, isEntry, rfl⟩
    · rw [List.lookup_cons, beq_eq_false_iff_ne.mpr same] at found
      rw [List.filter_cons_of_pos (by simpa using Ne.symm same)]
      exact ((ih found keys.2).cons _).trans (.swap _ _ _)

theorem filter_fresh (fresh : requestId ∉ pending.map Prod.fst) :
    (pending.filter fun entry => decide (entry.1 ≠ requestId)) = pending := by
  refine List.filter_eq_self.mpr fun entry isEntry => decide_eq_true fun same => ?_
  exact fresh (same ▸ List.mem_map_of_mem isEntry)

theorem Documented.of_append (documented : Documented (h ++ h')) : Documented h where
  responses := by
    have responses := documented.responses
    rw [submitted, List.flatMap_append] at responses
    exact responses.of_append_left
  requestIds := by
    have requestIds := documented.requestIds
    rw [requests, List.flatMap_append, List.map_append] at requestIds
    exact requestIds.of_append_left

theorem submitted_concat {e : Event RunGuardian Call Outcome} :
    submitted (h ++ [e]) = submitted h ++
      match e.input with
      | .submit submission => [submission.response]
      | _ => [] := by
  rw [submitted, List.flatMap_append, List.flatMap_singleton, submitted]

theorem submitted_concat_of_ne {e : Event RunGuardian Call Outcome}
    (notSubmit : ∀ submission, e.input ≠ .submit submission) :
    submitted (h ++ [e]) = submitted h := by
  rw [submitted_concat]
  split
  · rename_i submission same
    exact absurd same (notSubmit submission)
  · exact List.append_nil _

theorem taken_concat {e : Event RunGuardian Call Outcome} :
    taken (h ++ [e]) = taken h ++ e.output.taken.map fun submission => submission.response := by
  rw [taken, List.flatMap_append, List.flatMap_singleton, taken]

theorem requests_concat {e : Event RunGuardian Call Outcome} :
    requests (h ++ [e]) = requests h ++ e.output.requests := by
  rw [requests, List.flatMap_append, List.flatMap_singleton, requests]

theorem unsent_concat {e : Event RunGuardian Call Outcome} :
    unsent (h ++ [e]) = unsent h ++ e.output.unsent.map fun submission => submission.response := by
  rw [unsent, List.flatMap_append, List.flatMap_singleton, unsent]

theorem answers_concat {e : Event RunGuardian Call Outcome} :
    answers (h ++ [e]) = answers h ++ e.output.answers := by
  rw [answers, List.flatMap_append, List.flatMap_singleton, answers]

theorem map_fst_refused (submissions : List LocalSubmission) (result : LocalSubmissionResult) :
    ((submissions.map fun submission => (submission.response, result)).map Prod.fst) =
      submissions.map fun submission => submission.response := by
  rw [List.map_map]
  rfl

theorem map_fst_drained (pending : List (OutboundRequestId × Response)) :
    ((pending.map fun entry => (entry.2, LocalSubmissionResult.transportFailure)).map Prod.fst) =
      pending.map Prod.snd := by
  rw [List.map_map]
  rfl

/-- An iteration keeps every submission accounted for. -/
theorem Settled.after (settled : Settled h s) (spec : StepSpec call s o s')
    (isNew : ∀ id ∈ o.requests.map Prod.fst, id ∉ s.pendingSubmissions.map Prod.fst) :
    Settled (h ++ [⟨s, call, o, s'⟩]) s' := by
  obtain ⟨queued, sent, answered, pending, keys, finished⟩ := settled
  cases spec with
  | submit submission isCall queue same phase =>
    subst isCall
    refine ⟨fun r => ?_, fun r => ?_, fun r => ?_, ?_, by rwa [same], by rwa [phase, same]⟩
    · rw [submitted_concat, taken_concat, queue]
      have := queued r
      simp only [Outcome.taken, List.map_append, List.count_append, List.map_cons, List.map_nil,
        List.append_nil] at this ⊢
      omega
    · simpa [taken_concat, requests_concat, unsent_concat, Outcome.taken, Outcome.requests,
        Outcome.unsent] using sent r
    · simpa [taken_concat, answers_concat, Outcome.taken, Outcome.answers, same] using answered r
    · simpa [requests_concat, Outcome.requests, same] using pending
  | quiet notSubmit queue same phase =>
    refine ⟨fun r => ?_, fun r => ?_, fun r => ?_, ?_, by rwa [same], fun returned => ?_⟩
    · rw [submitted_concat_of_ne notSubmit, taken_concat, queue]
      simpa [Outcome.taken] using queued r
    · simpa [taken_concat, requests_concat, unsent_concat, Outcome.taken, Outcome.requests,
        Outcome.unsent] using sent r
    · simpa [taken_concat, answers_concat, Outcome.taken, Outcome.answers, same] using answered r
    · simpa [requests_concat, Outcome.requests, same] using pending
    · rw [same]
      exact finished (phase returned)
  | started requestId submission isCall queue same phase =>
    subst isCall
    have fresh := isNew requestId (List.mem_singleton_self _)
    rw [filter_fresh fresh] at same
    refine ⟨fun r => ?_, fun r => ?_, fun r => ?_, fun entry isEntry => ?_, ?_, fun returned => ?_⟩
    · have := queued r
      rw [queue] at this
      rw [submitted_concat_of_ne (by nofun), taken_concat]
      simp only [Outcome.taken, List.map_cons, List.map_nil, List.count_append, List.count_cons,
        List.count_nil] at this ⊢
      omega
    · have := sent r
      simp only [taken_concat, requests_concat, unsent_concat, Outcome.taken, Outcome.requests,
        Outcome.unsent, List.map_cons, List.map_nil, List.map_append, List.count_append,
        List.append_nil] at this ⊢
      omega
    · have := answered r
      simp only [taken_concat, answers_concat, Outcome.taken, Outcome.answers, same, List.map_cons,
        List.map_nil, List.append_nil, List.count_append, List.count_cons, List.count_nil] at this ⊢
      omega
    · rw [same] at isEntry
      rw [requests_concat]
      rcases List.mem_cons.mp isEntry with rfl | isEntry
      · exact List.mem_append_right _ (List.mem_singleton_self _)
      · exact List.mem_append_left _ (pending entry isEntry)
    · rw [same]
      exact List.nodup_cons.mpr ⟨fresh, keys⟩
    · rw [phase] at returned
      cases returned
  | overloaded requestId submission isCall isFull queue same phase =>
    subst isCall
    refine ⟨fun r => ?_, fun r => ?_, fun r => ?_, ?_, by rwa [same], fun returned => ?_⟩
    · have := queued r
      rw [queue] at this
      rw [submitted_concat_of_ne (by nofun), taken_concat]
      simp only [Outcome.taken, List.map_cons, List.map_nil, List.count_append, List.count_cons,
        List.count_nil] at this ⊢
      omega
    · have := sent r
      simp only [taken_concat, requests_concat, unsent_concat, Outcome.taken, Outcome.requests,
        Outcome.unsent, List.count_append, List.append_nil] at this ⊢
      omega
    · have := answered r
      simp only [taken_concat, answers_concat, Outcome.taken, Outcome.answers, same,
        List.map_append, map_fst_refused, List.count_append] at this ⊢
      omega
    · simpa [requests_concat, Outcome.requests, same] using pending
    · rw [phase] at returned
      cases returned
  | closed isCall queue same phase =>
    subst isCall
    refine ⟨fun r => ?_, fun r => ?_, fun r => ?_, ?_, by rwa [same], fun returned => ?_⟩
    · have := queued r
      rw [submitted_concat_of_ne (by nofun), taken_concat, queue]
      simp only [Outcome.taken, List.map_nil, List.count_append, List.count_nil] at this ⊢
      omega
    · have := sent r
      simp only [taken_concat, requests_concat, unsent_concat, Outcome.taken, Outcome.requests,
        Outcome.unsent, List.count_append, List.append_nil] at this ⊢
      omega
    · have := answered r
      simp only [taken_concat, answers_concat, Outcome.taken, Outcome.answers, same,
        List.map_append, map_fst_refused, List.count_append] at this ⊢
      omega
    · simpa [requests_concat, Outcome.requests, same] using pending
    · rw [phase] at returned
      cases returned
  | completed requestId response result isCall found queue same phase =>
    have perm := perm_of_lookup found keys
    have notSubmit : ∀ submission, call ≠ .submit submission := by
      rintro submission rfl
      exact isCall
    refine ⟨fun r => ?_, fun r => ?_, fun r => ?_, fun entry isEntry => ?_, ?_,
      fun returned => absurd returned phase⟩
    · rw [submitted_concat_of_ne notSubmit, taken_concat, queue]
      simpa [Outcome.taken] using queued r
    · simpa [taken_concat, requests_concat, unsent_concat, Outcome.taken, Outcome.requests,
        Outcome.unsent] using sent r
    · have := answered r
      rw [(perm.map Prod.snd).count_eq] at this
      simp only [taken_concat, answers_concat, Outcome.taken, Outcome.answers, same, List.map_cons,
        List.map_nil, List.map_append, List.append_nil, List.count_append, List.count_cons,
        List.count_nil] at this ⊢
      omega
    · rw [requests_concat]
      rw [same] at isEntry
      exact List.mem_append_left _ (pending entry (List.mem_of_mem_filter isEntry))
    · rw [same]
      exact keys.sublist (List.filter_sublist.map Prod.fst)
  | drained served emitted isCall queue same =>
    subst isCall
    refine ⟨fun r => ?_, fun r => ?_, fun r => ?_, fun entry isEntry => ?_, ?_, fun _ => same⟩
    · rw [submitted_concat_of_ne (by nofun), taken_concat, queue]
      simpa [Outcome.taken] using queued r
    · simpa [taken_concat, requests_concat, unsent_concat, Outcome.taken, Outcome.requests,
        Outcome.unsent] using sent r
    · have := answered r
      simp only [taken_concat, answers_concat, Outcome.taken, Outcome.answers, same,
        List.map_append, map_fst_drained, List.map_nil, List.append_nil, List.count_append,
        List.count_nil] at this ⊢
      omega
    · rw [same] at isEntry
      cases isEntry
    · rw [same]
      exact List.nodup_nil

end

/-! ## Every answer has its cause -/

/-- Why a submission got its result at an event, after the events `h₁` of the run `h`. -/
inductive Cause (h h₁ : History) (e : Event RunGuardian Call Outcome) (r : Response)
    (result : LocalSubmissionResult) : Prop
  /-- Its own request was acknowledged with that status, or failed. -/
  | ended (requestId : OutboundRequestId) (own : (requestId, r) ∈ requests h₁)
      (ends : Ends requestId result e.input)
  /-- There was no room for its request. -/
  | overloaded (requestId : OutboundRequestId) (isReceive : e.input = .receive requestId)
      (isFull : e.pre.node.maxOutboundRequests ≤ e.pre.node.outboundRequestCount)
      (isBusy : result = .busy) (unsent : ∀ id, (id, r) ∉ requests h)
  /-- It was in the queue at the shutdown. -/
  | closed (isSignal : e.input = .signal true) (isBusy : result = .busy)
      (unsent : ∀ id, (id, r) ∉ requests h)
  /-- Its request was still under way when the drain ended. -/
  | drained (served emitted : Bool) (isFinish : e.input = .finish served emitted)
      (requestId : OutboundRequestId) (own : (requestId, r) ∈ requests h₁)
      (failed : result = .transportFailure)

/-- Local submissions are answered once, with their own result. -/
structure Answered (h : History) (s : RunGuardian) : Prop where
  once : ((answers h).map Prod.fst).Nodup
  taken : ∀ a ∈ answers h, a.1 ∈ taken h
  own : ∀ h₁ e h₂, h = h₁ ++ e :: h₂ → ∀ a ∈ e.output.answers, Cause h h₁ e a.1 a.2
  complete : s.phase = .returned true → ∀ r ∈ RunGuardian.taken h, r ∈ (answers h).map Prod.fst
  hints : ∀ e ∈ h, ∀ p event isOpen emitted, e.input = .swarm (.exchange p event) isOpen emitted →
    p ≠ .ballots → e.output.answers = []

section

variable {h h₁ h₂ : History} {e : Event RunGuardian Call Outcome} {r : Response}

end

/-- Two submissions with room for one request: the second finds no room, and a response of the hint
protocol with the identifier of the first does not answer it. -/
def sampleCalls : List Call :=
  [.submit ⟨[1], [7], 0⟩, .submit ⟨[2], [8], 1⟩, .receive 5, .receive 6,
    .swarm (.exchange .threatHints (.response [1] 5 ThreatHintAckStatus.accepted)) true true,
    .swarm (.exchange .ballots (.response [1] 5 AckStatus.duplicate)) true true, .signal true,
    .finish true true]

theorem answers_sample : answers (execute step sampleCalls ⟨.new 1 [], [], [], .running⟩).1 =
    [(1, .busy), (0, .duplicate)] := rfl

end RunGuardian

end Prometheus.P2p
