import ChatBot.Proofs.Node.Parsing

/-!
# What parsing searches for

While tokens are parsed, the end of each nested expression and of each assigned value is searched
for in the list that is being parsed.  A survey keeps account of these searches.

* `Account` is the monad in which tokens are read with an account of the searches.
* `Node.survey`: reading with an account.
* `Node.outcome_survey`: it comes to the same as parsing.
-/

namespace ChatBot

namespace Delimiter

theorem eq_append_of_cut {d : Delimiter} {ts inside after : List Token}
    (h : d.cut ts = some (inside, after)) : ts = inside ++ d.token :: after := by
  cases d with
  | closing => exact (Token.closes_of_splitClosing h).1
  | terminator => exact Token.eq_append_of_splitTerminator h

end Delimiter

namespace Search

/-- The position in the list from which on is searched. -/
def start (s : Search) : Nat := s.list.length - s.rest.length

/-- What is found. -/
def found (s : Search) : Option (List Token × List Token) := s.delimiter.cut s.rest

end Search

/-- What comes of tokens, and what was searched for on the way. -/
structure Account (α : Type) where
  searches : List Search
  outcome : Except ParseError α

namespace Account

variable {α β : Type}

/-- Nothing is searched for. -/
def of (outcome : Except ParseError α) : Account α := ⟨[], outcome⟩

/-- One search. -/
def note (s : Search) : Account Unit := ⟨[s], .ok ()⟩

/-- One after the other, unless the first one fails. -/
protected def bind (a : Account α) (f : α → Account β) : Account β :=
  match a.outcome with
  | .ok x => ⟨a.searches ++ (f x).searches, (f x).outcome⟩
  | .error e => ⟨a.searches, .error e⟩

instance : Monad Account where
  pure x := of (.ok x)
  bind := Account.bind

instance : MonadLift (Except ParseError) Account := ⟨of⟩

theorem bind_eq (a : Account α) (f : α → Account β) : a >>= f =
    match a.outcome with
    | .ok x => ⟨a.searches ++ (f x).searches, (f x).outcome⟩
    | .error e => ⟨a.searches, .error e⟩ := rfl

instance : LawfulMonad Account :=
  .mk' Account
    (fun a => by
      change a >>= (fun x => of (.ok x)) = a
      obtain ⟨searches, outcome⟩ := a
      cases outcome <;> simp [bind_eq, of])
    (fun x f => by
      change of (.ok x) >>= f = f x
      rw [bind_eq]
      rfl)
    (fun a f g => by
      simp only [bind_eq]
      cases a.outcome with
      | error e => rfl
      | ok x =>
          dsimp only
          cases (f x).outcome <;> simp)

@[simp] theorem outcome_liftM (x : Except ParseError α) :
    (liftM x : Account α).outcome = x := rfl

@[simp] theorem outcome_pure (x : α) : (pure x : Account α).outcome = .ok x := rfl

@[simp] theorem outcome_bind (a : Account α) (f : α → Account β) :
    (a >>= f).outcome = a.outcome >>= fun x => (f x).outcome := by
  rw [bind_eq]
  cases a.outcome <;> rfl

end Account

namespace Node

open Account

/-- A token list of its own is read. -/
def surveyAt (maxDepth depth : Nat) (tokens : List Token) : Account (List Node) :=
  readAt note maxDepth depth tokens

/-- What is left of `list` is read, after the token `last`. -/
def surveyItems (maxDepth depth : Nat) (list : List Token) (last : Option Token)
    (tokens : List Token) : Account (List Node) :=
  readItems note (fun delimiter rest => note ⟨delimiter, list, rest⟩) maxDepth depth last tokens

/-- A part of what is left of `list` is read, and what comes behind it. -/
def surveyPart (maxDepth depth : Nat) (list : List Token) (delimiter : Delimiter)
    (missing : ParseError) (pass : List Node → Except ParseError (List Node))
    (node : List Node → Node) (tokens : List Token) : Account (List Node) :=
  readPart note (fun delimiter rest => note ⟨delimiter, list, rest⟩) maxDepth depth delimiter missing
    pass node tokens

/-- The searches of parsing, with what comes of it. -/
def survey (maxDepth : Nat) (tokens : List Token) : Account (List Node) :=
  surveyAt maxDepth 0 tokens

/-! ### A survey comes to the same as parsing

What is written down of the searches does not matter for what comes of the tokens. -/

section Outcome

variable {maxDepth depth : Nat} {ts : List Token} {delimiter : Delimiter} {missing : ParseError}
  {pass : List Node → Except ParseError (List Node)} {node : List Node → Node}
  {note : Search → Account Unit} {search : Delimiter → List Token → Account Unit}

theorem outcome_readAt
    (h : (readItems note (fun delimiter rest => note ⟨delimiter, ts, rest⟩) maxDepth depth none
      ts).outcome = parseItems maxDepth depth none ts) :
    (readAt note maxDepth depth ts).outcome = parseAt maxDepth depth ts := by
  rw [readAt]
  by_cases hd : depth ≤ maxDepth
  · rw [if_neg (Nat.not_lt.mpr hd), parseAt_of_le hd, outcome_bind, outcome_liftM, h]
  · rw [if_pos (Nat.lt_of_not_le hd), parseAt_of_lt (Nat.lt_of_not_le hd)]
    rfl

theorem outcome_readPart (hn : ∀ s, (note s).outcome = .ok ())
    (hs : ∀ d us, (search d us).outcome = .ok ())
    (h : ∀ {depth search last us}, (∀ d us, (search d us : Account Unit).outcome = .ok ()) →
      us.length < ts.length →
      (readItems note search maxDepth depth last us).outcome = parseItems maxDepth depth last us) :
    (readPart note search maxDepth depth delimiter missing pass node ts).outcome =
      readPart (fun _ => pure ()) (fun _ _ => pure ()) maxDepth depth delimiter missing pass node
        ts := by
  rw [parsePart_eq, readPart, outcome_bind, hs]
  change Account.outcome _ = _
  split
  · rename_i hc
    simp only [hc]
    rfl
  · rename_i inside after hc
    obtain rfl := Delimiter.eq_append_of_cut hc
    have hi : (readAt note maxDepth (depth + 1) inside).outcome =
        parseAt maxDepth (depth + 1) inside :=
      outcome_readAt (h (fun d us => hn _) (by simp))
    have ha : (readItems note search maxDepth depth (some delimiter.token) after).outcome =
        parseItems maxDepth depth (some delimiter.token) after :=
      h hs (by simp; omega)
    simp only [outcome_bind, outcome_liftM, outcome_pure, hi, ha, hc, bind_assoc]
    rfl

theorem outcome_readItems (hn : ∀ s, (note s).outcome = .ok ()) (ts : List Token) (depth : Nat)
    {search : Delimiter → List Token → Account Unit}
    (hs : ∀ d us, (search d us).outcome = .ok ()) (last : Option Token) :
    (readItems note search maxDepth depth last ts).outcome = parseItems maxDepth depth last ts := by
  -- both sides of a delimiter are read, so the induction is on the length
  match ts with
  | [] =>
      rw [readItems, parseItems_nil]
      rfl
  | .rightBracket :: ts =>
      rw [readItems, parseItems_rightBracket]
      rfl
  | .assign :: ts =>
      rw [readItems, parseItems_assign]
      rfl
  | .suppress :: ts =>
      rw [readItems, parseItems_suppress, outcome_bind, outcome_readItems hn ts depth hs]
      rfl
  | .action :: ts =>
      rw [readItems, parseItems_action, outcome_readItems hn ts depth hs]
  | .leftBracket :: ts =>
      by_cases hl : last = some .action
      · subst hl
        rw [readItems, if_neg (not_not_intro rfl), parseItems, readItems,
          if_neg (not_not_intro rfl)]
        exact outcome_readPart hn hs fun {_ _ _ us} hs hlt => outcome_readItems hn us _ hs _
      · rw [readItems, if_pos hl, parseItems_unescaped hl]
        rfl
  | .identifier text :: ts =>
      by_cases ha : ts.head? = some .assign
      · obtain ⟨ts, rfl⟩ := List.head?_eq_some_iff.mp ha
        rw [readItems]
        by_cases hl : last = some .action
        · subst hl
          rw [if_pos rfl, parseItems_misplaced]
          rfl
        · rw [if_neg hl, parseItems, readItems, if_neg hl]
          dsimp only
          cases isVariableName (Text.trim text) with
          | false => rfl
          | true =>
              exact outcome_readPart hn hs fun {_ _ _ us} hs hlt => outcome_readItems hn us _ hs _
      · rw [readItems, parseItems_identifier ha]
        · rw [outcome_bind, outcome_readItems hn ts depth hs]
          rfl
        · rintro us rfl
          exact ha rfl
termination_by ts.length
decreasing_by
  all_goals simp_all only [List.length_cons]
  all_goals omega

end Outcome

/-- **A survey comes to the same as parsing.** -/
theorem outcome_survey (maxDepth : Nat) (ts : List Token) :
    (survey maxDepth ts).outcome = parse maxDepth ts :=
  outcome_readAt (outcome_readItems (fun _ => rfl) ts 0 (fun _ _ => rfl) none)

/-- The value of an assignment, and in it a nested expression. -/
example : (survey 10 [.identifier "x", .assign, .action, .leftBracket, .identifier "y",
      .rightBracket, .suppress]).searches =
    [⟨.terminator, [.identifier "x", .assign, .action, .leftBracket, .identifier "y",
        .rightBracket, .suppress],
      [.action, .leftBracket, .identifier "y", .rightBracket, .suppress]⟩,
     ⟨.closing, [.action, .leftBracket, .identifier "y", .rightBracket],
      [.identifier "y", .rightBracket]⟩] := by
  cbv

end Node

end ChatBot
