import Prometheus.Contracts.Covenant

/-!
# A fund with one payment at a time

What a treasury covenant is for, without its encoding: a balance that deposits raise, at most one
proposed payment, ballots on it, and a payment that needs enough ballots, a quorum of them, the end
of the voting and the balance. The rules are `Fund.step`; the theorems are about its runs, read as
books: the proposals made, the payments made and the deposits received.
-/

namespace Prometheus.Contracts

/-- What is proposed. -/
structure Terms where
  id : Int
  amount : Int
  votingEnd : Int

/-- A proposed payment and the ballots on it. -/
structure Item where
  terms : Terms
  votesFor : Int
  votesAgainst : Int

structure Fund where
  balance : Int
  nextId : Int
  pending : Option Item

namespace Fund

inductive Move where
  | deposit (amount : Int)
  | propose (amount votingEnd : Int)
  | vote (votesFor votesAgainst : Int)
  | pay (height : Int)

/-- The conditions of a payment: `leastVotes` ballots, a `quorum` of them in basis points. -/
structure Rules where
  leastVotes : Int
  quorum : Int

/-- The ballots on an item allow its payment. -/
def Carried (rules : Rules) (item : Item) : Prop :=
  rules.leastVotes ≤ item.votesFor + item.votesAgainst ∧
    rules.quorum * (item.votesFor + item.votesAgainst) ≤ item.votesFor * 10000

instance (rules : Rules) (item : Item) : Decidable (Carried rules item) :=
  inferInstanceAs (Decidable (_ ∧ _))

variable (rules : Rules)

def step : Move → Fund → Option Fund
  | .deposit amount, f => if 0 < amount then some { f with balance := f.balance + amount } else none
  | .propose amount votingEnd, f =>
    if f.pending.isNone ∧ 0 < amount ∧ amount ≤ f.balance then
      some { f with nextId := f.nextId + 1, pending := some ⟨⟨f.nextId, amount, votingEnd⟩, 0, 0⟩ }
    else none
  | .vote votesFor votesAgainst, f =>
    f.pending.map fun item =>
      { f with
        pending := some
          ⟨item.terms, item.votesFor + votesFor, item.votesAgainst + votesAgainst⟩ }
  | .pay height, f =>
    f.pending.bind fun item =>
      if item.terms.votingEnd ≤ height ∧ Carried rules item ∧ item.terms.amount ≤ f.balance then
        some { f with balance := f.balance - item.terms.amount, pending := none }
      else none

/-! ## The books of a run -/

def deposited : List (Transition Fund Move) → Int
  | [] => 0
  | x :: h =>
    match x.call with
    | .deposit amount => amount + deposited h
    | _ => deposited h

/-- The payments proposed, latest first. -/
def proposals : List (Transition Fund Move) → List Terms
  | [] => []
  | x :: h =>
    match x.call with
    | .propose amount votingEnd => ⟨x.pre.nextId, amount, votingEnd⟩ :: proposals h
    | _ => proposals h

/-- The payments made, latest first, as they were when they were made. -/
def payments : List (Transition Fund Move) → List Item
  | [] => []
  | x :: h =>
    match x.call with
    | .pay _ => x.pre.pending.toList ++ payments h
    | _ => payments h

/-- The identifier that the next payment made has at least. -/
def nextPayment (f : Fund) : Int :=
  match f.pending with
  | some item => item.terms.id
  | none => f.nextId

/-- What the books of a fund say, kept by every move. -/
structure Books (h : List (Transition Fund Move)) (f : Fund) : Prop where
  solvent : 0 ≤ f.balance
  covered : ∀ item, f.pending = some item → 0 < item.terms.amount ∧ item.terms.amount ≤ f.balance
  numbered : ∀ item, f.pending = some item → item.terms.id < f.nextId
  tabled : ∀ item, f.pending = some item → item.terms ∈ proposals h
  fresh : ∀ terms ∈ proposals h, terms.id < f.nextId
  distinct : (proposals h).Pairwise fun later earlier => earlier.id < later.id
  settled : ∀ item ∈ payments h, item.terms.id < nextPayment f
  once : (payments h).Pairwise fun later earlier => earlier.terms.id < later.terms.id
  proposed : ∀ item ∈ payments h, item.terms ∈ proposals h
  lawful : ∀ item ∈ payments h, Carried rules item

variable {rules} {f g : Fund} {h : List (Transition Fund Move)}

theorem Books.start (hf : 0 ≤ f.balance) (idle : f.pending = none) : Books rules [] f := by
  constructor <;> simp [proposals, payments, idle, hf]

theorem Books.step {c : Move} (books : Books rules h f) (hc : step rules c f = some g) :
    Books rules (⟨f, c, g⟩ :: h) g := by
  cases c with
  | deposit amount =>
    simp only [Fund.step, Option.ite_none_right_eq_some, Option.some.injEq] at hc
    obtain ⟨positive, rfl⟩ := hc
    have solvent := books.solvent
    constructor
    · simp only
      omega
    · intro item hitem
      have := books.covered item hitem
      simp only
      omega
    · exact books.numbered
    · exact books.tabled
    · exact books.fresh
    · exact books.distinct
    · exact books.settled
    · exact books.once
    · exact books.proposed
    · exact books.lawful
  | propose amount votingEnd =>
    simp only [Fund.step, Option.ite_none_right_eq_some, Option.some.injEq, Option.isNone_iff_eq_none]
      at hc
    obtain ⟨⟨idle, positive, within⟩, rfl⟩ := hc
    have settled := books.settled
    simp only [nextPayment, idle] at settled
    constructor
    · exact books.solvent
    · intro item hitem
      cases hitem
      exact ⟨positive, within⟩
    · intro item hitem
      cases hitem
      simp only
      omega
    · intro item hitem
      cases hitem
      simp [proposals]
    · intro terms hterms
      simp only [proposals, List.mem_cons] at hterms
      cases hterms with
      | inl new =>
        rw [new]
        simp only
        omega
      | inr old =>
        have := books.fresh terms old
        simp only
        omega
    · apply List.Pairwise.cons
      · exact books.fresh
      · exact books.distinct
    · exact settled
    · exact books.once
    · intro item hitem
      exact List.mem_cons_of_mem _ (books.proposed item hitem)
    · exact books.lawful
  | vote votesFor votesAgainst =>
    simp only [Fund.step, Option.map_eq_some_iff] at hc
    obtain ⟨item, pending, rfl⟩ := hc
    have settled := books.settled
    simp only [nextPayment, pending] at settled
    constructor
    · exact books.solvent
    · intro item' hitem'
      cases hitem'
      exact books.covered item pending
    · intro item' hitem'
      cases hitem'
      exact books.numbered item pending
    · intro item' hitem'
      cases hitem'
      exact books.tabled item pending
    · exact books.fresh
    · exact books.distinct
    · exact settled
    · exact books.once
    · exact books.proposed
    · exact books.lawful
  | pay height =>
    simp only [Fund.step, Option.bind_eq_some_iff, Option.ite_none_right_eq_some, Option.some.injEq]
      at hc
    obtain ⟨item, pending, ⟨_, carried, within⟩, rfl⟩ := hc
    have settled := books.settled
    simp only [nextPayment, pending] at settled
    have paid : payments (⟨f, .pay height, { f with
        balance := f.balance - item.terms.amount, pending := none }⟩ :: h) = item :: payments h := by
      simp [payments, pending]
    constructor
    · simp only
      omega
    · intro item' hitem'
      cases hitem'
    · intro item' hitem'
      cases hitem'
    · intro item' hitem'
      cases hitem'
    · exact books.fresh
    · exact books.distinct
    · rw [paid]
      intro item' hitem'
      have last := books.numbered item pending
      simp only [nextPayment]
      cases List.mem_cons.1 hitem' with
      | inl new =>
        rw [new]
        exact last
      | inr old =>
        have := settled item' old
        omega
    · rw [paid]
      exact List.Pairwise.cons settled books.once
    · rw [paid]
      intro item' hitem'
      cases List.mem_cons.1 hitem' with
      | inl new =>
        rw [new]
        exact books.tabled item pending
      | inr old => exact books.proposed item' old
    · rw [paid]
      intro item' hitem'
      cases List.mem_cons.1 hitem' with
      | inl new =>
        rw [new]
        exact carried
      | inr old => exact books.lawful item' old

/-- The books of every run of a fund that starts without a pending payment. -/
theorem books (hf : 0 ≤ f.balance) (idle : f.pending = none) (r : Run (step rules) f h g) :
    Books rules h g := by
  induction r with
  | genesis => exact Books.start hf idle
  | accept c r' hc ih => exact ih.step hc

/-- No identifier is proposed twice. -/
theorem Books.unique (books : Books rules h f) {a b : Terms} (ha : a ∈ proposals h)
    (hb : b ∈ proposals h) (same : a.id = b.id) : a = b := by
  have distinct : (proposals h).Pairwise fun x y => x.id = y.id → x = y := by
    apply books.distinct.imp
    intro x y less equal
    omega
  by_cases hab : a = b
  · exact hab
  · have symmetric : Std.Symm fun x y : Terms => x.id = y.id → x = y :=
      ⟨fun x y hxy equal => (hxy equal.symm).symm⟩
    exact distinct.forall ha hb hab same

/-- What is in the balance and what was paid is what was there and what was received. -/
theorem conserved (r : Run (step rules) f h g) :
    g.balance + ((payments h).map fun item => item.terms.amount).sum = f.balance + deposited h := by
  induction r with
  | genesis => simp [payments, deposited]
  | accept c r' hc ih =>
    cases c with
    | deposit amount =>
      simp only [step, Option.ite_none_right_eq_some, Option.some.injEq] at hc
      obtain ⟨_, rfl⟩ := hc
      simp only [payments, deposited]
      omega
    | propose amount votingEnd =>
      simp only [step, Option.ite_none_right_eq_some, Option.some.injEq] at hc
      obtain ⟨_, rfl⟩ := hc
      exact ih
    | vote votesFor votesAgainst =>
      simp only [step, Option.map_eq_some_iff] at hc
      obtain ⟨item, _, rfl⟩ := hc
      exact ih
    | pay height =>
      simp only [step, Option.bind_eq_some_iff, Option.ite_none_right_eq_some, Option.some.injEq]
        at hc
      obtain ⟨item, pending, _, rfl⟩ := hc
      simp only [payments, deposited, pending, Option.toList_some, List.singleton_append,
        List.map_cons, List.sum_cons]
      omega

/-! ## The books of a machine that a fund follows -/

section View

variable {σ κ : Type} {view : σ → Fund} {move : κ → Move} {h : List (Transition σ κ)}

/-- The history of the fund that follows `h`. -/
def follow (view : σ → Fund) (move : κ → Move) (h : List (Transition σ κ)) :
    List (Transition Fund Move) :=
  h.map fun x => ⟨view x.pre, move x.call, view x.post⟩

/-- When `pays` picks the calls that pay, and each pays `item`, the payments are the items of the
    picked calls. -/
theorem payments_follow {pays : κ → Bool} {item : σ → Item}
    (paid : ∀ x ∈ h, pays x.call = true →
      (∃ height, move x.call = .pay height) ∧ (view x.pre).pending = some (item x.pre))
    (other : ∀ x ∈ h, pays x.call = false → ∀ height, move x.call ≠ .pay height) :
    payments (follow view move h) =
      (h.filter fun x => pays x.call).map fun x => item x.pre := by
  induction h with
  | nil => rfl
  | cons x h ih =>
    have rest := ih (fun y hy => paid y (List.mem_cons_of_mem _ hy))
      (fun y hy => other y (List.mem_cons_of_mem _ hy))
    simp only [follow, List.map_cons, payments] at rest ⊢
    rw [rest]
    cases hx : pays x.call with
    | true =>
      obtain ⟨⟨height, hmove⟩, pending⟩ := paid x (List.mem_cons_self ..) hx
      simp [hmove, pending, hx]
    | false =>
      have idle := other x (List.mem_cons_self ..) hx
      cases hmove : move x.call with
      | deposit amount => simp [hx]
      | propose amount votingEnd => simp [hx]
      | vote votesFor votesAgainst => simp [hx]
      | pay height => exact absurd hmove (idle height)

theorem mem_proposals_follow {terms : Terms} :
    terms ∈ proposals (follow view move h) ↔
      ∃ x ∈ h, ∃ amount votingEnd, move x.call = .propose amount votingEnd ∧
        terms = ⟨(view x.pre).nextId, amount, votingEnd⟩ := by
  induction h with
  | nil => simp [follow, proposals]
  | cons x h ih =>
    simp only [follow, List.map_cons, proposals, List.exists_mem_cons_iff] at ih ⊢
    cases hmove : move x.call with
    | deposit amount => simp [ih]
    | propose amount votingEnd =>
      simp only [List.mem_cons, ih, Move.propose.injEq]
      constructor
      · intro hterms
        cases hterms with
        | inl new => exact Or.inl ⟨amount, votingEnd, ⟨rfl, rfl⟩, new⟩
        | inr old => exact Or.inr old
      · intro hterms
        cases hterms with
        | inl new =>
          obtain ⟨_, _, ⟨rfl, rfl⟩, hterms⟩ := new
          exact Or.inl hterms
        | inr old => exact Or.inr old
    | vote votesFor votesAgainst => simp [ih]
    | pay height => simp [ih]

theorem deposited_follow (gift : κ → Int)
    (gifts : ∀ c, gift c = match move c with | .deposit amount => amount | _ => 0) :
    deposited (follow view move h) = (h.map fun x => gift x.call).sum := by
  induction h with
  | nil => rfl
  | cons x h ih =>
    simp only [follow, List.map_cons, deposited, List.sum_cons] at ih ⊢
    rw [ih, gifts x.call]
    cases move x.call with
    | deposit amount => rfl
    | propose amount votingEnd => simp
    | vote votesFor votesAgainst => simp
    | pay height => simp

end View

end Fund

end Prometheus.Contracts
