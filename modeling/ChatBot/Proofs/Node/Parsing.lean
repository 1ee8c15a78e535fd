import ChatBot.Proofs.Token.Brackets

/-!
# What parsing does with the next token

Equations for `Node.parseItems` by the token that comes first, and what is known where parsing
succeeds.  Nested expressions and assigned values are parsed in one way (`Node.parsePart_eq`).  The
equations of nested expressions and assignments are stated for lists that are cut already: there is
no other way in which they can succeed.
-/

namespace ChatBot

theorem exists_of_bind_eq_ok {ε α β : Type} {x : Except ε α} {f : α → Except ε β} {b : β}
    (h : x >>= f = .ok b) : ∃ a, x = .ok a ∧ f a = .ok b := by
  cases x with
  | error e => cases h
  | ok a => exact ⟨a, rfl, h⟩

theorem exists_of_map_eq_ok {ε α β : Type} {x : Except ε α} {f : α → β} {b : β}
    (h : x.map f = .ok b) : ∃ a, x = .ok a ∧ f a = b := by
  cases x with
  | error e => cases h
  | ok a => exact ⟨a, rfl, Except.ok.inj h⟩

namespace Node

open Token

variable {maxDepth depth : Nat} {last : Option Token} {ts inside after value : List Token}
  {nodes : List Node} {text : String}

theorem requireSome_of_ne_nil (h : nodes ≠ []) : requireSome nodes = .ok nodes := by
  cases nodes with
  | nil => exact absurd rfl h
  | cons n ns => rfl

theorem requireSome_eq_ok {ns : List Node} (h : requireSome nodes = .ok ns) :
    ns ≠ [] ∧ nodes = ns := by
  cases nodes with
  | nil => cases h
  | cons n ns =>
      cases h
      exact ⟨List.cons_ne_nil _ _, rfl⟩

/-! ### Lists of their own -/

theorem parseAt_of_lt (h : maxDepth < depth) :
    parseAt maxDepth depth ts = .error (.depthExceeded maxDepth) := by
  rw [parseAt, readAt, if_pos h]
  rfl

theorem parseAt_of_le (hd : depth ≤ maxDepth) :
    parseAt maxDepth depth ts = checkBalance ts >>= fun _ => parseItems maxDepth depth none ts := by
  rw [parseAt, readAt, if_neg (Nat.not_lt.mpr hd)]
  rfl

theorem parseAt_of_closes (hd : depth ≤ maxDepth) (h : Closes 0 ts) :
    parseAt maxDepth depth ts = parseItems maxDepth depth none ts := by
  have hb : checkBalance ts = .ok () := by
    rw [checkBalance, if_pos (by rw [← h.count, Nat.zero_add])]
  rw [parseAt_of_le hd, hb]
  rfl

theorem parseItems_of_parseAt (h : parseAt maxDepth depth ts = .ok nodes) :
    parseItems maxDepth depth none ts = .ok nodes := by
  by_cases hd : depth ≤ maxDepth
  · rw [parseAt_of_le hd] at h
    obtain ⟨-, -, hitems⟩ := exists_of_bind_eq_ok h
    exact hitems
  · rw [parseAt_of_lt (Nat.lt_of_not_le hd)] at h
    cases h

/-! ### One token after the other -/

theorem parseItems_nil : parseItems maxDepth depth last [] = .ok [] := by
  rw [parseItems, readItems]
  rfl

theorem parseItems_action : parseItems maxDepth depth last (.action :: ts) =
    parseItems maxDepth depth (some .action) ts := by
  rw [parseItems, readItems]
  rfl

theorem parseItems_actions (n : Nat) :
    parseItems maxDepth depth last (List.replicate (n + 1) .action ++ ts) =
      parseItems maxDepth depth (some .action) ts := by
  induction n generalizing last with
  | zero => exact parseItems_action
  | succ n ih =>
      rw [List.replicate_succ, List.cons_append, parseItems_action]
      exact ih

theorem parseItems_suppress : parseItems maxDepth depth last (.suppress :: ts) =
    (parseItems maxDepth depth (some .suppress) ts).map (.suppress :: ·) := by
  rw [parseItems, readItems]
  rfl

theorem parseItems_rightBracket : parseItems maxDepth depth last (.rightBracket :: ts) =
    .error (.malformedToken .rightBracket) := by
  rw [parseItems, readItems]
  rfl

theorem parseItems_assign : parseItems maxDepth depth last (.assign :: ts) =
    .error (.invalidVariableName (last.elim "" Token.describe)) := by
  rw [parseItems, readItems]
  rfl

theorem parseItems_identifier (h : ts.head? ≠ some .assign) :
    parseItems maxDepth depth last (.identifier text :: ts) =
      (parseItems maxDepth depth (some (.identifier text)) ts).map
        ((if last = some .action then ofReference text else [.literal text]) ++ ·) := by
  rw [parseItems, readItems]
  · rfl
  · rintro us rfl
    exact h rfl

/-! ### Parts of a list -/

/-- What is parsed up to a delimiter is parsed one level deeper, and makes one node. -/
theorem parsePart_eq {delimiter : Delimiter} {missing : ParseError} {node : List Node → Node}
    {pass : List Node → Except ParseError (List Node)} :
    (readPart (fun _ => pure ()) (fun _ _ => pure ()) maxDepth depth delimiter missing pass node
        ts : Except ParseError (List Node)) =
      match delimiter.cut ts with
      | none => .error missing
      | some (inside, after) =>
        (parseAt maxDepth (depth + 1) inside >>= pass) >>= fun nodes =>
          (parseItems maxDepth depth (some delimiter.token) after).map (node nodes :: ·) := by
  rw [readPart]
  simp only [bind_assoc]
  dsimp only [bind, Except.bind, pure, Except.pure]
  split <;> rename_i hs <;> simp only [hs] <;> rfl

/-! ### Nested expressions -/

theorem parseItems_unescaped (h : last ≠ some .action) :
    parseItems maxDepth depth last (.leftBracket :: ts) = .error .unescapedBracket := by
  rw [parseItems, readItems, if_pos h]
  rfl

theorem parseItems_leftBracket :
    parseItems maxDepth depth (some .action) (.leftBracket :: ts) =
      match splitClosing 0 ts with
      | none => .error (.unbalancedBracket (ts.count .leftBracket + 1) (ts.count .rightBracket))
      | some (inside, after) =>
        (parseAt maxDepth (depth + 1) inside >>= requireSome) >>= fun children =>
          (parseItems maxDepth depth (some .rightBracket) after).map (.subtree children :: ·) := by
  rw [parseItems, readItems, if_neg (not_not_intro rfl)]
  exact parsePart_eq

theorem parseItems_subtree (h : Closes 0 inside) :
    parseItems maxDepth depth (some .action) (.leftBracket :: (inside ++ .rightBracket :: after)) =
      (parseAt maxDepth (depth + 1) inside >>= requireSome) >>= fun children =>
        (parseItems maxDepth depth (some .rightBracket) after).map (.subtree children :: ·) := by
  rw [parseItems_leftBracket, splitClosing_append h after]

/-- A nested expression that is parsed follows an action, its bracket is closed, and it is not
empty. -/
theorem exists_of_parseItems_leftBracket
    (h : parseItems maxDepth depth last (.leftBracket :: ts) = .ok nodes) :
    last = some .action ∧ ∃ inside after children rest, ts = inside ++ .rightBracket :: after ∧
      parseAt maxDepth (depth + 1) inside = .ok children ∧ children ≠ [] ∧
      parseItems maxDepth depth (some .rightBracket) after = .ok rest ∧
      nodes = .subtree children :: rest := by
  by_cases hl : last = some .action
  · subst hl
    refine ⟨rfl, ?_⟩
    rw [parseItems_leftBracket] at h
    cases hs : splitClosing 0 ts with
    | none =>
        rw [hs] at h
        cases h
    | some cut =>
        rw [hs] at h
        obtain ⟨rfl, -⟩ := splitClosing_eq_some_iff.mp hs
        obtain ⟨children, hi, h⟩ := exists_of_bind_eq_ok h
        obtain ⟨children, hp, hi⟩ := exists_of_bind_eq_ok hi
        obtain ⟨hn, rfl⟩ := requireSome_eq_ok hi
        obtain ⟨rest, hr, rfl⟩ := exists_of_map_eq_ok h
        exact ⟨_, _, _, _, rfl, hp, hn, hr, rfl⟩
  · rw [parseItems_unescaped hl] at h
    cases h

/-! ### Assignments -/

theorem parseItems_misplaced :
    parseItems maxDepth depth (some .action) (.identifier text :: .assign :: ts) =
      .error (.invalidVariableName (Token.identifier text).describe) := by
  rw [parseItems, readItems, if_pos rfl]
  rfl

theorem parseItems_binding (hl : last ≠ some .action) :
    parseItems maxDepth depth last (.identifier text :: .assign :: ts) =
      if isVariableName (Text.trim text) then
        match splitTerminator 0 ts with
        | none => .error (.unterminatedAssign (Text.trim text))
        | some (value, after) =>
          (parseAt maxDepth (depth + 1) value >>= fun v => requireSome (unwrap v)) >>= fun v =>
            (parseItems maxDepth depth (some .suppress) after).map
              (.assign (Text.trim text) v :: ·)
      else .error (.invalidVariableName (Text.trim text)) := by
  rw [parseItems, readItems, if_neg hl]
  dsimp only
  cases isVariableName (Text.trim text) with
  | false => rfl
  | true => exact parsePart_eq

theorem parseItems_assignment (hl : last ≠ some .action) (hn : isVariableName (Text.trim text))
    (h : Closes 0 value) (hc : Covered 0 value) :
    parseItems maxDepth depth last
        (.identifier text :: .assign :: (value ++ .suppress :: after)) =
      (parseAt maxDepth (depth + 1) value >>= fun v => requireSome (unwrap v)) >>= fun v =>
        (parseItems maxDepth depth (some .suppress) after).map
          (.assign (Text.trim text) v :: ·) := by
  rw [parseItems_binding hl, if_pos hn, (splitTerminator_append_iff h after).mpr hc]

/-- An assignment that is parsed does not follow an action, it assigns to a name, and its value
ends at a terminator and is not empty. -/
theorem exists_of_parseItems_binding
    (h : parseItems maxDepth depth last (.identifier text :: .assign :: ts) = .ok nodes) :
    last ≠ some .action ∧ isVariableName (Text.trim text) ∧
      ∃ value after v rest, splitTerminator 0 ts = some (value, after) ∧
        parseAt maxDepth (depth + 1) value = .ok v ∧ unwrap v ≠ [] ∧
        parseItems maxDepth depth (some .suppress) after = .ok rest ∧
        nodes = .assign (Text.trim text) (unwrap v) :: rest := by
  by_cases hl : last = some .action
  · subst hl
    rw [parseItems_misplaced] at h
    cases h
  · rw [parseItems_binding hl] at h
    split at h
    · rename_i hn
      refine ⟨hl, hn, ?_⟩
      cases hs : splitTerminator 0 ts with
      | none =>
          rw [hs] at h
          cases h
      | some cut =>
          rw [hs] at h
          obtain ⟨v, hv, h⟩ := exists_of_bind_eq_ok h
          obtain ⟨v, hp, hv⟩ := exists_of_bind_eq_ok hv
          obtain ⟨hne, rfl⟩ := requireSome_eq_ok hv
          obtain ⟨rest, hr, rfl⟩ := exists_of_map_eq_ok h
          exact ⟨_, _, _, _, rfl, hp, hne, hr, rfl⟩
    · cases h

end Node

end ChatBot
