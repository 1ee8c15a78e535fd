import ChatBot.Proofs.Node.Survey

/-!
# Brackets are kept in balance

Before a list is parsed its brackets are only counted, and no search looks at how they nest in the
rest of the list.  That is enough: whatever has been read of the list is in balance, nested
expressions and assigned values alike, so that behind an opening bracket one bracket more is closed
than opened.

* `Token.exists_splitClosing`: there the bracket that closes it is found.
* `Account.IsSound`: searches stay within the list, and brackets are complained about in this list
  and in assigned values only.
* `Node.isSound_surveyItems`: the account of what is left of a list is sound, if that is in balance.
* `Node.searches_safe`: what is known of all searches that are made while parsing.
-/

namespace ChatBot

/-! ### Counting brackets -/

namespace Token

/-- Where more brackets are closed than are open, the last of these is closed. -/
theorem exists_splitClosing {n : Nat} {ts : List Token}
    (h : n + ts.count .leftBracket < ts.count .rightBracket) :
    ∃ inside after, splitClosing n ts = some (inside, after) := by
  induction ts generalizing n with
  | nil => simp at h
  | cons t ts ih =>
      have more {m : Nat} {u : Token} (hm : m + ts.count .leftBracket < ts.count .rightBracket) :
          ∃ inside after, (splitClosing m ts).map (fun p => (u :: p.1, p.2)) =
            some (inside, after) := by
        obtain ⟨inside, after, hs⟩ := ih hm
        exact ⟨u :: inside, after, by rw [hs]; rfl⟩
      cases t with
      | rightBracket =>
          cases n with
          | zero => exact ⟨[], ts, rfl⟩
          | succ n => exact more (by simp at h; omega)
      | leftBracket => exact more (by simp at h; omega)
      | identifier | action | assign | suppress => exact more (by simpa using h)

/-- What bounds the closing brackets at every point of a list does so with one more token in front,
if it allows for that token. -/
theorem count_le_of_cons {n m : Nat} {t : Token} {ts read : List Token}
    (h : ∀ {read}, read <+: ts → read.count .rightBracket ≤ m + read.count .leftBracket)
    (ht : [t].count .rightBracket + m ≤ n + [t].count .leftBracket) (hr : read <+: t :: ts) :
    read.count .rightBracket ≤ n + read.count .leftBracket := by
  obtain rfl | ⟨read, rfl, hread⟩ := List.prefix_cons_iff.mp hr
  · exact Nat.zero_le _
  · have := h hread
    rw [← List.singleton_append, List.count_append, List.count_append]
    omega

/-- At no point more brackets have been closed than were open. -/
theorem Closes.count_le {n : Nat} {ts read : List Token} (h : Closes n ts) (hr : read <+: ts) :
    read.count .rightBracket ≤ n + read.count .leftBracket := by
  induction h generalizing read with
  | nil =>
      rw [List.prefix_nil.mp hr]
      exact Nat.zero_le _
  | opening _ ih => exact count_le_of_cons ih (by simp) hr
  | closing _ ih => exact count_le_of_cons ih (by simp; omega) hr
  | other ht _ ih =>
      obtain ⟨hleft, hright⟩ := count_singleton_of_not_isBracket ht
      exact count_le_of_cons ih (by omega) hr

/-- As many brackets are opened as are closed. -/
def IsBalanced (ts : List Token) : Prop := ts.count .leftBracket = ts.count .rightBracket

theorem checkBalance_eq_ok_iff {ts : List Token} : checkBalance ts = .ok () ↔ IsBalanced ts := by
  rw [checkBalance]
  split
  · rename_i h
    exact iff_of_true rfl h
  · rename_i h
    exact iff_of_false (by simp) h

theorem checkBalance_eq_error {ts : List Token} {e : ParseError} (h : checkBalance ts = .error e) :
    ¬ IsBalanced ts ∧
      e = .unbalancedBracket (ts.count .leftBracket) (ts.count .rightBracket) := by
  rw [checkBalance] at h
  split at h
  · cases h
  · rename_i hb
    exact ⟨hb, (Except.error.inj h).symm⟩

/-- Other tokens do not matter. -/
theorem isBalanced_cons {t : Token} {ts : List Token} (ht : ¬ t.IsBracket) :
    IsBalanced (t :: ts) ↔ IsBalanced ts := by
  obtain ⟨hl, hr⟩ := count_singleton_of_not_isBracket ht
  rw [IsBalanced, ← List.singleton_append, List.count_append, List.count_append, hl, hr,
    Nat.zero_add, Nat.zero_add, IsBalanced]

theorem Closes.isBalanced {ts : List Token} (h : Closes 0 ts) : IsBalanced ts := by
  rw [IsBalanced, ← h.count, Nat.zero_add]

end Token

open Token

/-! ### Searches -/

namespace Search

/-- The delimiter is found at the position `stop` of the list, and `span` is what is cut off. -/
structure Finds (s : Search) (stop : Nat) (span : List Token) : Prop where
  start_le : s.start ≤ stop
  lt_length : stop < s.list.length
  token : s.list[stop]? = some s.delimiter.token
  found : s.found = some (span, s.list.drop (stop + 1))
  span_eq : span = s.list.extract s.start stop
  shorter : span.length < s.list.length

/-- The search goes from its start to the end of the list, and whatever is found lies there.  A
closing bracket is found, and what stands before it closes its own brackets. -/
structure IsSafe (s : Search) : Prop where
  rest : s.rest = s.list.drop s.start
  bounds : ∀ span after, s.found = some (span, after) → ∃ stop, s.Finds stop span
  closing : s.delimiter = .closing → ∃ stop span, s.Finds stop span ∧ Closes 0 span

variable {d : Delimiter} {list ts inside after : List Token}

theorem finds_of_suffix (hs : ts <:+ list) (hc : d.cut ts = some (inside, after)) :
    ∃ stop, Finds ⟨d, list, ts⟩ stop inside := by
  have ht := Delimiter.eq_append_of_cut hc
  obtain ⟨before, rfl⟩ := hs
  have hstart : Search.start ⟨d, before ++ ts, ts⟩ = before.length := by simp [start]
  have hlist : before ++ ts = (before ++ inside) ++ d.token :: after := by
    rw [ht, List.append_assoc]
  have hstop : (before ++ inside).length = before.length + inside.length := List.length_append
  refine ⟨before.length + inside.length, ⟨?_, ?_, ?_, ?_, ?_, ?_⟩⟩
  · rw [hstart]
    exact Nat.le_add_right _ _
  · simp only [hlist, List.length_append, List.length_cons]
    omega
  · rw [hlist, ← hstop, List.getElem?_append_right (Nat.le_refl _), Nat.sub_self]
    rfl
  · rw [hlist, ← hstop, List.drop_length_add_append]
    exact hc
  · rw [hstart, ht]
    simp [List.extract_eq_take_drop]
  · simp only [ht, List.length_append, List.length_cons]
    omega

/-- A search in what is left of a list is safe, if more brackets are closed there than opened in
case it is for a closing one. -/
theorem isSafe_of_suffix (hs : ts <:+ list)
    (hb : d = .closing → ts.count .leftBracket < ts.count .rightBracket) :
    IsSafe ⟨d, list, ts⟩ where
  rest := List.suffix_iff_eq_drop.mp hs
  bounds span after hc := finds_of_suffix hs hc
  closing hd := by
    obtain rfl : d = .closing := hd
    obtain ⟨span, after, hc⟩ := exists_splitClosing (n := 0) (by simpa using hb rfl)
    obtain ⟨stop, hfinds⟩ := finds_of_suffix (d := .closing) hs hc
    exact ⟨stop, span, hfinds, (closes_of_splitClosing hc).2⟩

end Search

/-! ### Sound accounts -/

namespace Account

variable {α β : Type} {list inside : List Token}

/-- All searches are safe, and made in `list` or in what was found by another one.  If brackets are
complained about, they are not in balance, and they are those of `list` or of an assigned value that
was found. -/
structure IsSound (list : List Token) (a : Account α) : Prop where
  safe : ∀ s ∈ a.searches, s.IsSafe
  lists : ∀ s ∈ a.searches, s.list = list ∨
    ∃ s' ∈ a.searches, ∃ stop, s'.Finds stop s.list
  blames : ∀ opening closing, a.outcome = .error (.unbalancedBracket opening closing) →
    ∃ span, (span = list ∨ ∃ s ∈ a.searches, s.delimiter = .terminator ∧
        ∃ stop, s.Finds stop span) ∧
      ¬ IsBalanced span ∧ opening = span.count .leftBracket ∧ closing = span.count .rightBracket

theorem isSound_liftM {x : Except ParseError α}
    (h : ∀ opening closing, x ≠ .error (.unbalancedBracket opening closing)) :
    (liftM x : Account α).IsSound list where
  safe _ hs := absurd hs List.not_mem_nil
  lists _ hs := absurd hs List.not_mem_nil
  blames o c ho := absurd ho (h o c)

theorem isSound_pure (x : α) : (pure x : Account α).IsSound list :=
  isSound_liftM (x := .ok x) (by simp)

theorem IsSound.bind {a : Account α} {f : α → Account β} (ha : a.IsSound list)
    (hf : ∀ x, a.outcome = .ok x → (f x).IsSound list) : (a >>= f).IsSound list := by
  rw [bind_eq]
  cases ho : a.outcome with
  | error e =>
      exact ⟨ha.safe, ha.lists, fun o c he => ha.blames o c (by rw [ho, Except.error.inj he])⟩
  | ok x =>
      have hx := hf x ho
      refine ⟨List.forall_mem_append.mpr ⟨ha.safe, hx.safe⟩,
        List.forall_mem_append.mpr ⟨fun s hs => ?_, fun s hs => ?_⟩, fun o c he => ?_⟩
      · exact (ha.lists s hs).imp id fun ⟨s', hm, hf⟩ => ⟨s', List.mem_append_left _ hm, hf⟩
      · exact (hx.lists s hs).imp id fun ⟨s', hm, hf⟩ => ⟨s', List.mem_append_right _ hm, hf⟩
      · obtain ⟨span, hspan, hcount⟩ := hx.blames o c he
        exact ⟨span, hspan.imp id fun ⟨s, hm, hf⟩ => ⟨s, List.mem_append_right _ hm, hf⟩, hcount⟩

theorem isSound_note {s : Search} (hs : s.IsSafe) : (note s).IsSound s.list where
  safe := List.forall_mem_singleton.mpr hs
  lists := List.forall_mem_singleton.mpr (.inl rfl)
  blames _ _ h := by cases h

/-- What is parsed after a search found it belongs to the list that was searched. -/
theorem IsSound.found {s : Search} {stop : Nat} {a : Account α} (hs : s.IsSafe)
    (hlist : s.list = list) (hfinds : s.Finds stop inside)
    (hb : s.delimiter = .closing → IsBalanced inside) (ha : a.IsSound inside) :
    (note s >>= fun _ => a).IsSound list where
  safe := List.forall_mem_cons.mpr ⟨hs, ha.safe⟩
  lists := by
    refine List.forall_mem_cons.mpr ⟨.inl hlist, fun t ht => .inr ?_⟩
    rcases ha.lists t ht with rfl | ⟨s', hm, hf⟩
    · exact ⟨s, List.mem_cons_self, stop, hfinds⟩
    · exact ⟨s', List.mem_cons_of_mem _ hm, hf⟩
  blames o c ho := by
    obtain ⟨span, hspan, hne, hcount⟩ := ha.blames o c ho
    refine ⟨span, .inr ?_, hne, hcount⟩
    rcases hspan with rfl | ⟨s', hm, hf⟩
    · cases hd : s.delimiter with
      | closing => exact absurd (hb hd) hne
      | terminator => exact ⟨s, List.mem_cons_self, hd, stop, hfinds⟩
    · exact ⟨s', List.mem_cons_of_mem _ hm, hf⟩

end Account

namespace Node

open Account

variable {maxDepth depth : Nat} {list ts : List Token} {delimiter : Delimiter}
  {missing : ParseError} {node : List Node → Node}
  {pass : List Node → Except ParseError (List Node)}

section Refused

variable {α β : Type} {e : ParseError}
  (he : ∀ opening closing, e ≠ .unbalancedBracket opening closing)
include he

theorem isSound_refuse : (liftM (refuse e : Except ParseError α) : Account α).IsSound list :=
  isSound_liftM (by simpa [refuse] using he)

/-- Nothing comes after tokens were refused. -/
theorem isSound_refuse_bind {f : α → Account β} :
    (liftM (refuse e : Except ParseError α) >>= f : Account β).IsSound list :=
  (isSound_refuse he).bind fun _ h => by cases h

end Refused

theorem isSound_checkBalance (ts : List Token) :
    (liftM (checkBalance ts) : Account Unit).IsSound ts where
  safe _ hs := absurd hs List.not_mem_nil
  lists _ hs := absurd hs List.not_mem_nil
  blames o c ho := by
    obtain ⟨hb, he⟩ := checkBalance_eq_error ho
    cases he
    exact ⟨ts, .inl rfl, hb, rfl, rfl⟩

/-- The account of a list is sound, if it is so where the brackets of the list are in balance. -/
theorem isSound_surveyAt
    (h : IsBalanced ts → (surveyItems maxDepth depth ts none ts).IsSound ts) :
    (surveyAt maxDepth depth ts).IsSound ts := by
  rw [surveyAt, readAt]
  split
  · exact isSound_refuse_bind (by simp)
  · refine (isSound_checkBalance ts).bind fun _ hb => h ?_
    exact checkBalance_eq_ok_iff.mp hb

/-- Only lists in balance are parsed. -/
theorem isBalanced_of_surveyAt {nodes : List Node}
    (h : (surveyAt maxDepth depth ts).outcome = .ok nodes) : IsBalanced ts := by
  rw [surveyAt, readAt] at h
  split at h
  · cases h
  · rw [outcome_bind] at h
    obtain ⟨_, hb, -⟩ := exists_of_bind_eq_ok h
    exact checkBalance_eq_ok_iff.mp hb

/-- A search in the rest of a list, what is parsed of it, and what comes behind the delimiter.  A
bracket that is to be closed stands before the rest. -/
theorem isSound_surveyPart
    (ih : ∀ {depth list last us}, us.length < ts.length → us <:+ list → IsBalanced us →
      (surveyItems maxDepth depth list last us).IsSound list)
    (hs : ts <:+ list)
    (hb : ts.count .leftBracket + [delimiter.token].count .rightBracket = ts.count .rightBracket)
    (hmissing : delimiter = .terminator → ∀ o c, missing ≠ .unbalancedBracket o c)
    (hpass : ∀ nodes o c, pass nodes ≠ .error (.unbalancedBracket o c)) :
    (surveyPart maxDepth depth list delimiter missing pass node ts).IsSound list := by
  have hopen (hd : delimiter = .closing) : 0 + ts.count .leftBracket < ts.count .rightBracket := by
    subst hd
    simp only [Delimiter.token, List.count_singleton_self] at hb
    omega
  have hsafe : Search.IsSafe ⟨delimiter, list, ts⟩ :=
    Search.isSafe_of_suffix hs fun hd => by simpa using hopen hd
  rw [surveyPart, readPart]
  split
  · rename_i hc
    refine (isSound_note hsafe).bind fun _ _ => isSound_liftM fun o c he => ?_
    cases delimiter with
    | closing =>
        -- there is a closing bracket to be found
        obtain ⟨inside, after, hfound⟩ := exists_splitClosing (hopen rfl)
        cases hfound.symm.trans hc
    | terminator => exact hmissing rfl o c (Except.error.inj he)
  · rename_i inside after hc
    obtain ⟨stop, hfinds⟩ := Search.finds_of_suffix hs hc
    obtain rfl := Delimiter.eq_append_of_cut hc
    have hclosing (hd : delimiter = .closing) : IsBalanced inside := by
      subst hd
      exact (closes_of_splitClosing hc).2.isBalanced
    have hinside : (surveyAt maxDepth (depth + 1) inside).IsSound inside :=
      isSound_surveyAt fun hbalanced => ih (by simp) (List.suffix_refl inside) hbalanced
    rw [← bind_assoc]
    refine (IsSound.found hsafe rfl hfinds hclosing hinside).bind fun nodes hnodes => ?_
    refine (isSound_liftM (hpass nodes)).bind fun passed _ => ?_
    refine (ih (by simp; omega) ?_ ?_).bind fun rest _ => isSound_pure _
    · exact ((List.suffix_cons _ _).trans (List.suffix_append _ _)).trans hs
    · -- the rest is in balance because what was parsed is
      have hinside : IsBalanced inside := isBalanced_of_surveyAt hnodes
      have hl : [delimiter.token].count .leftBracket = 0 := by cases delimiter <;> rfl
      rw [← List.singleton_append, List.count_append, List.count_append, List.count_append,
        List.count_append] at hb
      rw [IsBalanced] at hinside ⊢
      omega

theorem requireSome_ne (nodes : List Node) (opening closing : Nat) :
    requireSome nodes ≠ .error (.unbalancedBracket opening closing) := by
  cases nodes <;> simp [requireSome]

/-- **The account of what is left of a list is sound**, if that is in balance. -/
theorem isSound_surveyItems (ts : List Token) (depth : Nat) (list : List Token)
    (last : Option Token) (hs : ts <:+ list) (hb : IsBalanced ts) :
    (surveyItems maxDepth depth list last ts).IsSound list := by
  match ts with
  | [] =>
      rw [surveyItems, readItems]
      exact isSound_pure _
  | .rightBracket :: ts | .assign :: ts =>
      rw [surveyItems, readItems]
      exact isSound_refuse (by simp)
  | .suppress :: ts =>
      rw [surveyItems, readItems]
      have hrest := isSound_surveyItems ts depth list (some .suppress)
        ((List.suffix_cons _ _).trans hs) ((isBalanced_cons id).mp hb)
      exact hrest.bind fun _ _ => isSound_pure _
  | .action :: ts =>
      rw [surveyItems, readItems]
      exact isSound_surveyItems ts depth list (some .action) ((List.suffix_cons _ _).trans hs)
        ((isBalanced_cons id).mp hb)
  | .leftBracket :: ts =>
      rw [surveyItems, readItems]
      split
      · exact isSound_refuse_bind (by simp)
      · refine isSound_surveyPart (fun {_ _ _ us} _ => isSound_surveyItems us _ _ _)
          ((List.suffix_cons _ _).trans hs) ?_ (by simp) requireSome_ne
        rw [IsBalanced, List.count_cons_self, List.count_cons_of_ne (by decide)] at hb
        exact hb
  | .identifier text :: ts =>
      by_cases hn : ts.head? = some .assign
      · obtain ⟨ts, rfl⟩ := List.head?_eq_some_iff.mp hn
        rw [surveyItems, readItems]
        dsimp only
        split
        · exact isSound_refuse_bind (by simp)
        · split
          · exact isSound_refuse_bind (by simp)
          · refine isSound_surveyPart (fun {_ _ _ us} _ => isSound_surveyItems us _ _ _)
              (((List.suffix_cons _ _).trans (List.suffix_cons _ _)).trans hs) ?_ (by simp)
              fun value => requireSome_ne (unwrap value)
            rw [isBalanced_cons id, isBalanced_cons id] at hb
            exact hb
      · rw [surveyItems, readItems]
        · have hrest := isSound_surveyItems ts depth list (some (.identifier text))
            ((List.suffix_cons _ _).trans hs) ((isBalanced_cons id).mp hb)
          exact hrest.bind fun _ _ => isSound_pure _
        · rintro us rfl
          exact hn rfl
termination_by ts.length
decreasing_by
  all_goals simp_all only [List.length_cons]
  all_goals omega

/-- **Searches are safe.**  While tokens are parsed, every search is made in the whole list or in a
part that another search found, and what it finds is a part of this list and shorter.  A closing
bracket is always found.  Until it is reached the number of open brackets, which begins with one,
does not fall to zero, and what stands before it is in balance.  So brackets are complained about
only if those of the whole list, or of one assigned value, are not as many of the one kind as of the
other. -/
theorem searches_safe (maxDepth : Nat) (ts : List Token) :
    (survey maxDepth ts).outcome = parse maxDepth ts ∧
    (∀ s ∈ (survey maxDepth ts).searches,
      (s.list = ts ∨ ∃ s' ∈ (survey maxDepth ts).searches, ∃ stop, s'.Finds stop s.list) ∧
      s.rest = s.list.drop s.start ∧
      (∀ span after, s.found = some (span, after) → ∃ stop, s.Finds stop span) ∧
      (s.delimiter = .closing → ∃ stop span, s.Finds stop span ∧ checkBalance span = .ok () ∧
        ∀ read, read <+: span → read.count .rightBracket < 1 + read.count .leftBracket)) ∧
    ∀ opening closing, parse maxDepth ts = .error (.unbalancedBracket opening closing) →
      opening ≠ closing ∧ ∃ span, opening = span.count .leftBracket ∧
        closing = span.count .rightBracket ∧
        (span = ts ∨ ∃ s ∈ (survey maxDepth ts).searches, s.delimiter = .terminator ∧
          ∃ stop, s.Finds stop span) := by
  have hsound : (survey maxDepth ts).IsSound ts :=
    isSound_surveyAt (isSound_surveyItems ts 0 ts none (List.suffix_refl ts))
  refine ⟨outcome_survey maxDepth ts, fun s hs => ⟨hsound.lists s hs, (hsound.safe s hs).rest,
    (hsound.safe s hs).bounds, fun hd => ?_⟩, fun opening closing h => ?_⟩
  · obtain ⟨stop, span, hfinds, hcloses⟩ := (hsound.safe s hs).closing hd
    refine ⟨stop, span, hfinds, checkBalance_eq_ok_iff.mpr hcloses.isBalanced, fun read hr => ?_⟩
    have := hcloses.count_le hr
    omega
  · rw [← outcome_survey] at h
    obtain ⟨span, hspan, hne, rfl, rfl⟩ := hsound.blames opening closing h
    exact ⟨hne, span, rfl, rfl, hspan⟩

/-- The brackets of this list are as many of the one kind as of the other, and those of the value
are not. -/
example : parse 10 [.identifier "x", .assign, .rightBracket, .suppress, .action, .leftBracket] =
    .error (.unbalancedBracket 0 1) := by
  cbv

end Node

end ChatBot
