import Mathlib

/-!
# Lexers

A region is a stretch of a text that a small automaton reads up to its end. A lexer reads one lexeme
at a time, each with at most one token, and keeps a state between them. Two lexers that differ only
on the lexemes of some parting tokens read the same tokens up to the first of these.
-/

namespace Prometheus.Machine

variable {κ σ α τ : Type}

/-! ## Joined texts -/

/-- After the first text, every text follows a separator. -/
theorem intercalate_cons (separator : α) (text : List α) (texts : List (List α)) :
    List.intercalate [separator] (text :: texts) = text ++ texts.flatMap fun t => separator :: t := by
  induction texts generalizing text with
  | nil => simp [List.intercalate]
  | cons next texts ih =>
    rw [List.flatMap_cons, List.cons_append, ← ih next]
    simp [List.intercalate]

theorem mem_intercalate {separator a : α} {texts : List (List α)}
    (mem : a ∈ List.intercalate [separator] texts) : a = separator ∨ ∃ text ∈ texts, a ∈ text := by
  cases texts with
  | nil => simp [List.intercalate] at mem
  | cons text texts =>
    rw [intercalate_cons, List.mem_append, List.mem_flatMap] at mem
    rcases mem with mem | ⟨next, isNext, mem⟩
    · exact .inr ⟨text, List.mem_cons_self, mem⟩
    · rcases List.mem_cons.mp mem with isSeparator | mem
      · exact .inl isSeparator
      · exact .inr ⟨next, List.mem_cons_of_mem text isNext, mem⟩

/-! ## Regions -/

/-- The automaton of a region: the state after a symbol, or `none` where the symbol ends it. -/
structure Region (κ α : Type) where
  start : κ
  step : κ → α → Option κ

/-- The text of a region from a state, and the text after its end. -/
def Region.readFrom (region : Region κ α) : κ → List α → Option (List α × List α)
  | _, [] => none
  | k, a :: text =>
    match region.step k a with
    | none => some ([], text)
    | some k => (region.readFrom k text).map fun r => (a :: r.1, r.2)

/-- The text of a region and the text after it. -/
def Region.read (region : Region κ α) (text : List α) : Option (List α × List α) :=
  region.readFrom region.start text

/-- A region is a text that its automaton passes, and a symbol that ends it. -/
theorem Region.readFrom_some {region : Region κ α} {k : κ} {text body rest : List α} :
    region.readFrom k text = some (body, rest) ↔
      ∃ a k', text = body ++ a :: rest ∧ body.foldlM region.step k = some k' ∧
        region.step k' a = none := by
  induction text generalizing k body with
  | nil => exact iff_of_false nofun fun ⟨_, _, same, _⟩ => by simp at same
  | cons b text ih =>
    rw [Region.readFrom]
    cases next : region.step k b with
    | none =>
      constructor
      · rintro same
        obtain ⟨rfl, rfl⟩ := Prod.mk.inj (Option.some.inj same)
        exact ⟨b, k, rfl, rfl, next⟩
      · rintro ⟨a, k', same, passes, ends⟩
        cases body with
        | nil =>
          obtain ⟨-, rfl⟩ := List.cons.inj same
          rfl
        | cons c body =>
          obtain ⟨rfl, -⟩ := List.cons.inj same
          rw [List.foldlM_cons, next] at passes
          cases passes
    | some k₁ =>
      simp only [Option.map_eq_some_iff, Prod.exists, Prod.mk.injEq]
      constructor
      · rintro ⟨inner, rest, isRead, rfl, rfl⟩
        obtain ⟨a, k', rfl, passes, ends⟩ := ih.mp isRead
        exact ⟨a, k', rfl, by rw [List.foldlM_cons, next]; exact passes, ends⟩
      · rintro ⟨a, k', same, passes, ends⟩
        cases body with
        | nil =>
          obtain ⟨rfl, -⟩ := List.cons.inj same
          obtain rfl := Option.some.inj passes
          rw [next] at ends
          cases ends
        | cons c body =>
          obtain ⟨rfl, tail⟩ := List.cons.inj same
          rw [List.foldlM_cons, next] at passes
          exact ⟨body, rest, ih.mpr ⟨a, k', tail, passes, ends⟩, rfl, rfl⟩

theorem Region.length_rest {region : Region κ α} {k : κ} {text body rest : List α}
    (isRead : region.readFrom k text = some (body, rest)) : rest.length ≤ text.length := by
  obtain ⟨_, _, rfl, -, -⟩ := Region.readFrom_some.mp isRead
  rw [List.length_append, List.length_cons]
  omega

/-! ## Lexers -/

/-- A lexeme at the head of a text: its token, the state after it and the text after it; `none`
where there is none. -/
structure Lexer (σ α τ : Type) where
  next : σ → α → List α → Option (Option τ × σ × List α)
  accepts : σ → Bool

/-- The tokens of a text, of which at most the given number of lexemes are read. -/
def Lexer.run (lexer : Lexer σ α τ) : Nat → σ → List α → Option (List τ)
  | _, s, [] => if lexer.accepts s then some [] else none
  | 0, _, _ :: _ => none
  | fuel + 1, s, a :: text =>
    match lexer.next s a text with
    | none => none
    | some (token, s, rest) => (lexer.run fuel s rest).map (token.toList ++ ·)

theorem Lexer.run_cons (lexer : Lexer σ α τ) (fuel : Nat) (s : σ) (a : α) (text : List α) :
    lexer.run (fuel + 1) s (a :: text) = (lexer.next s a text).bind fun r =>
      (lexer.run fuel r.2.1 r.2.2).map (r.1.toList ++ ·) := by
  rw [Lexer.run]
  cases lexer.next s a text <;> rfl

/-- The tokens of a text. -/
def Lexer.tokens (lexer : Lexer σ α τ) (s : σ) (text : List α) : Option (List τ) :=
  lexer.run text.length s text

/-- The second lexer reads a lexeme of the first as the first does, unless its token parts them. -/
structure Lexer.Follows (first second : Lexer σ α τ) (parts : τ → Bool) : Prop where
  accepts : second.accepts = first.accepts
  next : ∀ {s a text token s' rest}, first.next s a text = some (token, s', rest) →
    (∀ t ∈ token, parts t = false) → second.next s a text = some (token, s', rest)

/-- Both read the same tokens up to the first that parts them, and the same where there is none. -/
theorem Lexer.Follows.run {first second : Lexer σ α τ} {parts : τ → Bool}
    (follows : first.Follows second parts) {fuel : Nat} {s : σ} {text : List α} {ts us : List τ}
    (isFirst : first.run fuel s text = some ts) (isSecond : second.run fuel s text = some us) :
    (ts.takeWhile fun t => !parts t) <+: us ∧ ((∀ t ∈ ts, parts t = false) → ts = us) := by
  induction fuel generalizing s text ts us with
  | zero =>
    cases text with
    | nil =>
      rw [Lexer.run, follows.accepts] at isSecond
      rw [Lexer.run, isSecond] at isFirst
      obtain rfl := Option.some.inj isFirst
      exact ⟨List.takeWhile_prefix _, fun _ => rfl⟩
    | cons a text => cases isFirst
  | succ fuel ih =>
    cases text with
    | nil =>
      rw [Lexer.run, follows.accepts] at isSecond
      rw [Lexer.run, isSecond] at isFirst
      obtain rfl := Option.some.inj isFirst
      exact ⟨List.takeWhile_prefix _, fun _ => rfl⟩
    | cons a text =>
      rw [Lexer.run] at isFirst isSecond
      cases isNext : first.next s a text with
      | none =>
        rw [isNext] at isFirst
        cases isFirst
      | some lexeme =>
        obtain ⟨token, s', rest⟩ := lexeme
        rw [isNext] at isFirst
        obtain ⟨after, isAfter, rfl⟩ := Option.map_eq_some_iff.mp isFirst
        by_cases agrees : ∀ t ∈ token, parts t = false
        · rw [follows.next isNext agrees] at isSecond
          obtain ⟨after', isAfter', rfl⟩ := Option.map_eq_some_iff.mp isSecond
          obtain ⟨isPrefix, same⟩ := ih isAfter isAfter'
          cases token with
          | none => exact ⟨isPrefix, same⟩
          | some t =>
            have noPart : parts t = false := agrees t rfl
            constructor
            · rw [Option.toList_some, List.singleton_append, List.takeWhile_cons_of_pos (by
                rw [noPart]; rfl)]
              exact (List.prefix_cons_inj t).mpr isPrefix
            · intro none
              rw [same fun t' h => none t' (List.mem_append_right _ h)]
        · -- The token parts the two: nothing before it is new.
          cases token with
          | none => exact absurd nofun agrees
          | some t =>
            have isPart : parts t = true := by
              simpa using agrees
            constructor
            · rw [Option.toList_some, List.singleton_append, List.takeWhile_cons_of_neg (by
                rw [isPart]; simp)]
              exact List.nil_prefix
            · intro none
              rw [none t List.mem_cons_self] at isPart
              cases isPart

end Prometheus.Machine
