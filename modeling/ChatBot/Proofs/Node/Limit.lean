import ChatBot.Proofs.Node.Grammar

/-!
# The limit only cuts off

What a limit of the depth does to parsing: up to some threshold the depth is complained about, and
from there on nothing depends on the limit.

* `Node.CutsOff` says so of anything that is computed under a limit, with the threshold.
* `Node.limited_parseItems`: parsing is cut off at a threshold between the depth of what is parsed
  and the depth that the brackets and assignments of the tokens could lead to.
* `Node.parse_cuts_off`: the same of a whole expression, and what it means for raising the limit.

The threshold cannot be read off the tree: a value that is one nested expression is unwrapped, and
tokens that are no expression may have been parsed a long way down before that shows.
-/

namespace ChatBot.Node

open Token

variable {α β : Type} {depth room threshold : Nat} {result : Except ParseError α}
  {f : Nat → Except ParseError α} {P : Nat → α → Prop}

/-- Among the limits from `depth` on, those below `threshold` are complained about, and all others
have the same result, which is no such complaint. -/
structure CutsOff (depth threshold : Nat) (result : Except ParseError α)
    (f : Nat → Except ParseError α) : Prop where
  le : depth ≤ threshold
  settled : ∀ n, result ≠ .error (.depthExceeded n)
  eq : ∀ maxDepth, depth ≤ maxDepth →
    f maxDepth = if threshold ≤ maxDepth then result else .error (.depthExceeded maxDepth)

namespace CutsOff

/-- Nothing depends on the limit. -/
theorem of_settled (hr : ∀ n, result ≠ .error (.depthExceeded n))
    (hf : ∀ maxDepth, depth ≤ maxDepth → f maxDepth = result) : CutsOff depth depth result f where
  le := Nat.le_refl depth
  settled := hr
  eq maxDepth hm := by rw [hf maxDepth hm, if_pos hm]

/-- Of two things done one after the other, the one that needs more depth decides. -/
theorem bind {a : α} {u : Nat} {r : Except ParseError β} {g : α → Nat → Except ParseError β}
    (hf : CutsOff depth threshold (.ok a) f) (hg : CutsOff depth u r (g a)) :
    CutsOff depth (max threshold u) r fun n => f n >>= fun a => g a n where
  le := Nat.le_trans hf.le (Nat.le_max_left _ _)
  settled := hg.settled
  eq maxDepth hm := by
    rw [hf.eq maxDepth hm]
    by_cases ht : threshold ≤ maxDepth
    · rw [if_pos ht]
      change g a maxDepth = _
      rw [hg.eq maxDepth hm]
      by_cases hu : u ≤ maxDepth
      · rw [if_pos hu, if_pos (Nat.max_le.mpr ⟨ht, hu⟩)]
      · rw [if_neg hu, if_neg fun h => hu (Nat.max_le.mp h).2]
    · rw [if_neg ht, if_neg fun h => ht (Nat.max_le.mp h).1]
      rfl

/-- What fails before the second thing is done fails in the same way with it. -/
theorem bind_error {e : ParseError} (hf : CutsOff depth threshold (.error e) f)
    (g : α → Nat → Except ParseError β) :
    CutsOff depth threshold (.error e) fun n => f n >>= fun a => g a n where
  le := hf.le
  settled n he := hf.settled n (congrArg Except.error (Except.error.inj he))
  eq maxDepth hm := by
    rw [hf.eq maxDepth hm]
    split <;> rfl

end CutsOff

/-- From `depth` on the limit only cuts off, at a threshold that is at most `room` higher, and what
comes of it fits the threshold. -/
def Limited (depth room : Nat) (P : Nat → α → Prop) (f : Nat → Except ParseError α) : Prop :=
  ∃ threshold result, CutsOff depth threshold result f ∧ threshold ≤ depth + room ∧
    ∀ a, result = .ok a → P threshold a

namespace Limited

theorem mono {room' : Nat} (h : Limited depth room P f) (hr : room ≤ room') :
    Limited depth room' P f := by
  obtain ⟨t, r, hc, ht, hp⟩ := h
  exact ⟨t, r, hc, by omega, hp⟩

theorem ok {a : α} (h : P depth a) : Limited depth room P fun _ => .ok a :=
  ⟨depth, .ok a, .of_settled (by simp) fun _ _ => rfl, Nat.le_add_right _ _, fun _ hb => by
    cases hb
    exact h⟩

theorem error {e : ParseError} (he : ∀ n, e ≠ .depthExceeded n) :
    Limited depth room P fun _ => .error e :=
  ⟨depth, .error e, .of_settled (by simpa using he) fun _ _ => rfl, Nat.le_add_right _ _,
    fun _ hb => (by cases hb)⟩

theorem bind {Q : Nat → β → Prop} {g : α → Nat → Except ParseError β}
    (hf : Limited depth room P f)
    (hg : ∀ t a, P t a → Limited depth room (fun u b => Q (max t u) b) (g a)) :
    Limited depth room Q fun n => f n >>= fun a => g a n := by
  obtain ⟨t, r, hc, ht, hp⟩ := hf
  cases r with
  | error e => exact ⟨t, .error e, hc.bind_error g, ht, fun _ hb => (by cases hb)⟩
  | ok a =>
      obtain ⟨u, s, hd, hu, hq⟩ := hg t a (hp a rfl)
      exact ⟨max t u, s, hc.bind hd, Nat.max_le.mpr ⟨ht, hu⟩, hq⟩

theorem map {Q : Nat → β → Prop} {φ : α → β} (hf : Limited depth room P f)
    (hφ : ∀ t a, depth ≤ t → P t a → Q t (φ a)) : Limited depth room Q fun n => (f n).map φ := by
  obtain ⟨t, r, hc, ht, hp⟩ := hf
  refine ⟨t, r.map φ, ⟨hc.le, fun n hn => ?_, fun maxDepth hm => ?_⟩, ht, fun b hb => ?_⟩
  · cases r with
    | error e =>
        cases hn
        exact hc.settled n rfl
    | ok a => cases hn
  · rw [hc.eq maxDepth hm]
    split <;> rfl
  · obtain ⟨a, rfl, rfl⟩ := exists_of_map_eq_ok hb
    exact hφ t a hc.le (hp a rfl)

end Limited

/-! ### Parsing -/

/-- What is parsed at nesting `depth` lies within a threshold. -/
def Fits (depth threshold : Nat) (nodes : List Node) : Prop := depth + maxDepth nodes ≤ threshold

theorem maxDepth_append (ms ns : List Node) :
    maxDepth (ms ++ ns) = max (maxDepth ms) (maxDepth ns) := by
  induction ms with
  | nil => simp [maxDepth]
  | cons m ms ih => rw [List.cons_append, maxDepth, maxDepth, ih, Nat.max_assoc]

theorem maxDepth_ofReference (text : String) : maxDepth (ofReference text) = 0 := by
  rw [ofReference]
  split <;> simp [maxDepth, Node.depth]

/-- To unwrap a value takes a level away, or nothing. -/
theorem maxDepth_unwrap_le (value : List Node) : maxDepth (unwrap value) ≤ maxDepth value := by
  unfold unwrap
  split
  · simp only [maxDepth, Node.depth]
    omega
  · exact Nat.le_refl _

theorem depth_le_maxDepth {n : Node} {ns : List Node} (h : n ∈ ns) : n.depth ≤ maxDepth ns := by
  induction ns with
  | nil => cases h
  | cons m ns ih =>
      rw [maxDepth]
      rcases List.mem_cons.mp h with rfl | h
      · exact Nat.le_max_left _ _
      · exact Nat.le_trans (ih h) (Nat.le_max_right _ _)

/-- What a nested expression or a value has to pass is no matter of the depth, and makes it no
deeper. -/
structure Passes (pass : List Node → Except ParseError (List Node)) : Prop where
  settled : ∀ nodes n, pass nodes ≠ .error (.depthExceeded n)
  le : ∀ nodes passed, pass nodes = .ok passed → maxDepth passed ≤ maxDepth nodes

theorem passes_requireSome : Passes requireSome where
  settled nodes n := by cases nodes <;> simp [requireSome]
  le nodes passed h := by
    obtain ⟨-, rfl⟩ := requireSome_eq_ok h
    exact Nat.le_refl _

theorem passes_unwrap : Passes fun value => requireSome (unwrap value) where
  settled value := passes_requireSome.settled (unwrap value)
  le value passed h :=
    Nat.le_trans (passes_requireSome.le (unwrap value) passed h) (maxDepth_unwrap_le value)

variable {last : Option Token} {ts inside after : List Token}

/-- A list of its own is cut off where it begins, if not later. -/
theorem limited_parseAt {outer : Nat} {P : Nat → List Node → Prop}
    (h : Limited depth room P fun n => parseItems n depth none ts) (ho : outer ≤ depth) :
    Limited outer (depth - outer + room) P fun n => parseAt n depth ts := by
  -- from its own depth on, the brackets are counted first, and that does not depend on the limit
  have hb : Limited depth room P fun n =>
      checkBalance ts >>= fun _ => parseItems n depth none ts := by
    unfold checkBalance
    split
    · exact h
    · exact .error (by simp)
  obtain ⟨t, r, hc, ht, hp⟩ := hb
  refine ⟨t, r, ⟨Nat.le_trans ho hc.le, hc.settled, fun maxDepth hm => ?_⟩, by omega, hp⟩
  by_cases hd : depth ≤ maxDepth
  · rw [parseAt_of_le hd]
    exact hc.eq maxDepth hd
  · have hlt : maxDepth < depth := Nat.not_le.mp hd
    rw [parseAt_of_lt hlt, if_neg (Nat.not_le.mpr (Nat.lt_of_lt_of_le hlt hc.le))]

/-- A nested expression or a value, and what comes after it. -/
theorem Limited.nested {pass : List Node → Except ParseError (List Node)}
    {node : List Node → Node} (hpass : Passes pass)
    (hnode : ∀ nodes, (node nodes).depth = 1 + maxDepth nodes)
    (hi : Limited (depth + 1) (nesting inside) (Fits (depth + 1))
      fun n => parseItems n (depth + 1) none inside)
    (ha : Limited depth (nesting after) (Fits depth) fun n => parseItems n depth last after) :
    Limited depth (1 + nesting inside + nesting after) (Fits depth) fun n =>
      (parseAt n (depth + 1) inside >>= pass) >>= fun nodes =>
        (parseItems n depth last after).map (node nodes :: ·) := by
  have hi' : Limited depth (1 + nesting inside + nesting after) (Fits (depth + 1))
      fun n => parseAt n (depth + 1) inside :=
    (limited_parseAt hi (Nat.le_succ depth)).mono (by omega)
  refine Limited.bind (P := Fits (depth + 1)) (hi'.bind fun t nodes hf => ?_) fun t nodes hf => ?_
  · cases hp : pass nodes with
    | error e => exact .error fun n he => hpass.settled nodes n (by rw [hp, he])
    | ok passed =>
        refine .ok ?_
        have hle := hpass.le nodes passed hp
        simp only [Fits] at hf ⊢
        omega
  · refine (ha.mono (by omega)).map fun u rest _ hr => ?_
    simp only [Fits, maxDepth, hnode] at hf hr ⊢
    omega

/-- **What is parsed is only cut off by the limit.**  The threshold lies between the depth at which
parsing begins and the one to which the brackets and assignments of the tokens could lead. -/
theorem limited_parseItems (ts : List Token) (depth : Nat) (last : Option Token) :
    Limited depth (nesting ts) (Fits depth) fun n => parseItems n depth last ts := by
  match ts with
  | [] =>
      simp only [parseItems_nil]
      exact .ok (Nat.le_refl depth)
  | .rightBracket :: ts =>
      simp only [parseItems_rightBracket]
      exact .error (by simp)
  | .assign :: ts =>
      simp only [parseItems_assign]
      exact .error (by simp)
  | .suppress :: ts =>
      simp only [parseItems_suppress, nesting_cons]
      refine ((limited_parseItems ts depth (some .suppress)).mono (by omega)).map ?_
      intro t nodes _ hf
      simpa [Fits, maxDepth, Node.depth] using hf
  | .action :: ts =>
      simp only [parseItems_action, nesting_cons]
      exact (limited_parseItems ts depth (some .action)).mono (by omega)
  | .leftBracket :: ts =>
      by_cases hl : last = some .action
      · subst hl
        simp only [parseItems_leftBracket]
        cases hs : splitClosing 0 ts with
        | none => exact .error (by simp)
        | some cut =>
            obtain ⟨inside, after⟩ := cut
            obtain ⟨rfl, -⟩ := splitClosing_eq_some_iff.mp hs
            have hi := limited_parseItems inside (depth + 1) none
            have ha := limited_parseItems after depth (some .rightBracket)
            refine (Limited.nested passes_requireSome (fun _ => Node.depth.eq_1 _) hi ha).mono ?_
            simp [nesting_cons, nesting_append]
            omega
      · simp only [parseItems_unescaped hl]
        exact .error (by simp)
  | .identifier text :: ts =>
      by_cases hn : ts.head? = some .assign
      · obtain ⟨ts, rfl⟩ := List.head?_eq_some_iff.mp hn
        by_cases hl : last = some .action
        · subst hl
          simp only [parseItems_misplaced]
          exact .error (by simp)
        · simp only [parseItems_binding hl]
          by_cases hname : isVariableName (Text.trim text) = true
          · simp only [if_pos hname]
            cases hs : splitTerminator 0 ts with
            | none => exact .error (by simp)
            | some cut =>
                obtain ⟨value, after⟩ := cut
                have hlen := length_of_splitTerminator hs
                obtain rfl := eq_append_of_splitTerminator hs
                have hi := limited_parseItems value (depth + 1) none
                have ha := limited_parseItems after depth (some .suppress)
                refine (Limited.nested passes_unwrap (fun _ => Node.depth.eq_2 _ _) hi ha).mono ?_
                simp [nesting_cons, nesting_append]
                omega
          · simp only [if_neg hname]
            exact .error (by simp)
      · simp only [parseItems_identifier hn, nesting_cons]
        refine ((limited_parseItems ts depth (some (.identifier text))).mono (by omega)).map ?_
        intro t nodes _ hf
        have hflat : maxDepth (if last = some .action then ofReference text else [.literal text]) =
            0 := by
          split
          · exact maxDepth_ofReference text
          · simp [maxDepth, Node.depth]
        simpa [Fits, maxDepth_append, hflat] using hf
termination_by ts.length
decreasing_by
  all_goals simp_all only [List.length_cons, List.length_append]
  all_goals omega

/-- **The limit is a pure cut-off.**  For every list of tokens there is a threshold, at most the
number of its opening brackets and assignments, below which the depth is complained about and from
which on the result is one and the same, no such complaint, and no deeper than the threshold.  So
what comes of the tokens under one limit comes of them under every higher one, and no tree is deeper
than a limit under which it is accepted. -/
theorem parse_cuts_off (ts : List Token) :
    (∃ threshold result,
      threshold ≤ ts.count .leftBracket + ts.count .assign ∧
      (∀ limit < threshold, parse limit ts = .error (.depthExceeded limit)) ∧
      (∀ limit ≥ threshold, parse limit ts = result) ∧
      (∀ n, result ≠ .error (.depthExceeded n)) ∧
      ∀ nodes, result = .ok nodes → ∀ n ∈ nodes, n.depth ≤ threshold) ∧
    (∀ limit higher, limit ≤ higher → parse limit ts ≠ .error (.depthExceeded limit) →
      parse higher ts = parse limit ts) ∧
    ∀ limit nodes, parse limit ts = .ok nodes → ∀ n ∈ nodes, n.depth ≤ limit := by
  obtain ⟨t, r, hc, ht, hf⟩ := limited_parseAt (limited_parseItems ts 0 none) (Nat.le_refl 0)
  have below (limit : Nat) (hl : limit < t) : parse limit ts = .error (.depthExceeded limit) :=
    (hc.eq limit (Nat.zero_le _)).trans (if_neg (Nat.not_le.mpr hl))
  have above (limit : Nat) (hl : t ≤ limit) : parse limit ts = r :=
    (hc.eq limit (Nat.zero_le _)).trans (if_pos hl)
  have hdepth (nodes : List Node) (hr : r = .ok nodes) : ∀ n ∈ nodes, n.depth ≤ t := by
    intro n hn
    have hfits := hf nodes hr
    have hle := depth_le_maxDepth hn
    simp only [Fits] at hfits
    omega
  refine ⟨⟨t, r, by simpa [nesting] using ht, below, above, hc.settled, hdepth⟩, ?_, ?_⟩
  · intro limit higher hle hne
    have hl : t ≤ limit := Nat.not_lt.mp fun hlt => hne (below limit hlt)
    rw [above limit hl, above higher (Nat.le_trans hl hle)]
  · intro limit nodes hp n hn
    have hl : t ≤ limit := Nat.not_lt.mp fun hlt => by
      rw [below limit hlt] at hp
      cases hp
    rw [above limit hl] at hp
    exact Nat.le_trans (hdepth nodes hp n hn) hl

end ChatBot.Node
