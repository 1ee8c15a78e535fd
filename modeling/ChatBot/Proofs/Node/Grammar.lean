import ChatBot.Proofs.Node.Parsing
import ChatBot.Proofs.Text.Whitespace

/-!
# The grammar of expressions

`Derives` says which tokens spell which tree: a tree is spelled by items, one after the other, and
an item may look at the token before it and at the one after it.

* `Node.parse_eq_ok_iff_derives`: parsing finds the trees that the grammar derives, and there is at
  most one for a list of tokens.

The grammar knows no depth.  `Token.nesting` bounds how deep a list can nest, so that a limit that
is not below it does not matter.
-/

namespace ChatBot

/-- An ASCII letter or an underscore, then word characters and hyphens. -/
def IsName (name : String) : Prop :=
  ∃ c cs, name = String.ofList (c :: cs) ∧ (c.isAlpha ∨ c = '_') ∧
    ∀ d ∈ cs, Text.isWordChar d ∨ d = '-'

theorem isVariableName_iff {name : String} : isVariableName name = true ↔ IsName name := by
  obtain ⟨cs, rfl⟩ : ∃ cs, name = String.ofList cs := ⟨_, String.ofList_toList.symm⟩
  rw [isVariableName, String.toList_ofList]
  cases cs with
  | nil =>
      refine iff_of_false (by decide) ?_
      rintro ⟨c, cs, he, -⟩
      cases String.ofList_injective he
  | cons c cs =>
      simp only [Bool.and_eq_true, Bool.or_eq_true, decide_eq_true_eq, List.all_eq_true]
      constructor
      · rintro ⟨hc, hcs⟩
        exact ⟨c, cs, rfl, hc, hcs⟩
      · rintro ⟨c, cs, he, hc, hcs⟩
        cases String.ofList_injective he
        exact ⟨hc, hcs⟩

theorem IsName.isTrimmed {name : String} (h : IsName name) : Text.IsTrimmed name := by
  obtain ⟨c, cs, rfl, hc, hcs⟩ := h
  refine Text.isTrimmed_of_forall ?_
  rw [String.toList_ofList, List.forall_mem_cons]
  constructor
  · rcases hc with hc | rfl
    · exact Text.isSpace_of_isAlpha hc
    · decide
  · intro d hd
    rcases hcs d hd with hd | rfl
    · exact Text.isSpace_of_isWordChar hd
    · decide

/-- How deep a list of tokens can nest. -/
def Token.nesting (ts : List Token) : Nat := ts.count .leftBracket + ts.count .assign

namespace Token

theorem nesting_append (ts us : List Token) : nesting (ts ++ us) = nesting ts + nesting us := by
  simp only [nesting, List.count_append]
  omega

theorem nesting_cons (t : Token) (ts : List Token) :
    nesting (t :: ts) = (if t = .leftBracket ∨ t = .assign then 1 else 0) + nesting ts := by
  cases t <;> simp [nesting] <;> omega

theorem nesting_actions (n : Nat) (ts : List Token) :
    nesting (List.replicate n .action ++ ts) = nesting ts := by
  simp [nesting, List.count_replicate]

theorem nesting_le_length (ts : List Token) : nesting ts ≤ ts.length := by
  induction ts with
  | nil => exact Nat.le_refl 0
  | cons t ts ih =>
      rw [nesting_cons, List.length_cons]
      split <;> omega

end Token

namespace Node

open Token

/-- The nodes of a text that follows an action.  The name of the variable ends at the first space,
and what follows is text. -/
inductive Refers : String → List Node → Prop where
  | name {text : String} (h : ' ' ∉ text.toList) : Refers text [.deref (Text.trim text)]
  | spaced {name rest : List Char} (h : ' ' ∉ name) :
      Refers (String.ofList (name ++ ' ' :: rest))
        [.deref (Text.trim (String.ofList name)), .literal (String.ofList (' ' :: rest))]

/-- A value that is exactly one nested expression stands for what is nested in it. -/
inductive Unwraps : List Node → List Node → Prop where
  | subtree (children : List Node) : Unwraps [.subtree children] children
  | plain {value : List Node} (h : ∀ children, value ≠ [.subtree children]) : Unwraps value value

/-- The tokens spell the nodes, where `last` is the token before them in the same list. -/
inductive Derives : Option Token → List Token → List Node → Prop where
  /-- Nothing is left. -/
  | nil {last : Option Token} : Derives last [] []
  /-- A text is copied. -/
  | literal {last : Option Token} {text : String} {ts : List Token} {nodes : List Node}
      (hl : last ≠ some .action) (hn : ts.head? ≠ some .assign)
      (h : Derives (some (.identifier text)) ts nodes) :
      Derives last (.identifier text :: ts) (.literal text :: nodes)
  /-- After actions a text names a variable. -/
  | reference {last : Option Token} {n : Nat} {text : String} {ts : List Token}
      {named nodes : List Node} (hr : Refers text named) (hn : ts.head? ≠ some .assign)
      (h : Derives (some (.identifier text)) ts nodes) :
      Derives last (List.replicate (n + 1) .action ++ .identifier text :: ts) (named ++ nodes)
  /-- After actions brackets enclose an expression that is not empty. -/
  | subtree {last : Option Token} {n : Nat} {inside ts : List Token} {children nodes : List Node}
      (hi : Derives none inside children) (hc : children ≠ [])
      (h : Derives (some .rightBracket) ts nodes) :
      Derives last
        (List.replicate (n + 1) .action ++ .leftBracket :: (inside ++ .rightBracket :: ts))
        (.subtree children :: nodes)
  /-- A name is bound to a value that is not empty and ends at the first terminator outside of
  brackets. -/
  | assign {last : Option Token} {text : String} {value ts : List Token} {v v' nodes : List Node}
      (hl : last ≠ some .action) (ht : IsName (Text.trim text)) (hs : Covered 0 value)
      (hv : Derives none value v) (hn : v ≠ []) (hu : Unwraps v v')
      (h : Derives (some .suppress) ts nodes) :
      Derives last (.identifier text :: .assign :: (value ++ .suppress :: ts))
        (.assign (Text.trim text) v' :: nodes)
  /-- A command is run for its effect. -/
  | suppress {last : Option Token} {ts : List Token} {nodes : List Node}
      (h : Derives (some .suppress) ts nodes) :
      Derives last (.suppress :: ts) (.suppress :: nodes)
  /-- Actions before a terminator or at the end mean nothing. -/
  | idle {last : Option Token} {n : Nat} {ts : List Token} {nodes : List Node}
      (hn : ∀ t ∈ ts.head?, t = .suppress) (h : Derives (some .action) ts nodes) :
      Derives last (List.replicate (n + 1) .action ++ ts) nodes

/-! ### The parts of an item -/

theorem ofReference_of_not_mem {text : String} (h : ' ' ∉ text.toList) :
    ofReference text = [.deref (Text.trim text)] := by
  have hp : ∀ c ∈ text.toList, (c != ' ') = true := fun c hc =>
    bne_iff_ne.mpr fun he => h (he ▸ hc)
  have ht : text.toList.takeWhile (· != ' ') = text.toList := by
    simpa using hp
  rw [ofReference, splitName, ht, List.drop_length, String.ofList_toList]

theorem ofReference_append {name rest : List Char} (h : ' ' ∉ name) :
    ofReference (String.ofList (name ++ ' ' :: rest)) =
      [.deref (Text.trim (String.ofList name)), .literal (String.ofList (' ' :: rest))] := by
  have hp : ∀ c ∈ name, (c != ' ') = true := fun c hc => bne_iff_ne.mpr fun he => h (he ▸ hc)
  rw [ofReference, splitName, String.toList_ofList, List.takeWhile_append_of_pos hp,
    List.takeWhile_cons_of_neg (by decide), List.append_nil, List.drop_left]

theorem refers_ofReference (text : String) : Refers text (ofReference text) := by
  by_cases h : ' ' ∈ text.toList
  · obtain ⟨name, rest, he, hn⟩ := List.eq_append_cons_of_mem h
    obtain rfl : text = String.ofList (name ++ ' ' :: rest) := by rw [← he, String.ofList_toList]
    rw [ofReference_append hn]
    exact .spaced hn
  · rw [ofReference_of_not_mem h]
    exact .name h

theorem Refers.eq_ofReference {text : String} {named : List Node} (h : Refers text named) :
    named = ofReference text := by
  cases h with
  | name h => exact (ofReference_of_not_mem h).symm
  | spaced h => exact (ofReference_append h).symm

theorem unwraps_unwrap (value : List Node) : Unwraps value (unwrap value) := by
  unfold unwrap
  split
  · exact .subtree _
  · rename_i h
    exact .plain h

theorem Unwraps.eq_unwrap {value v : List Node} (h : Unwraps value v) : v = unwrap value := by
  cases h with
  | subtree children => rfl
  | plain h =>
      unfold unwrap
      split
      · exact absurd rfl (h _)
      · rfl

/-- The brackets of an expression close. -/
theorem Derives.closes {last : Option Token} {ts : List Token} {nodes : List Node}
    (h : Derives last ts nodes) : Closes 0 ts := by
  have actions (n : Nat) {us : List Token} (hu : Closes 0 us) :
      Closes 0 (List.replicate n .action ++ us) :=
    .others (fun t ht => by rw [List.eq_of_mem_replicate ht]; exact id) hu
  induction h with
  | nil => exact .nil
  | literal _ _ _ ih | suppress _ ih => exact .other id ih
  | reference _ _ _ ih => exact actions _ (.other id ih)
  | subtree _ _ _ ihi ih => exact actions _ (ihi.enclose ih)
  | assign _ _ _ _ _ _ _ ihv ih => exact .other id (.other id (ihv.append (.other id ih)))
  | idle _ _ ih => exact actions _ ih

/-- A tree that tokens can spell.  Texts are arbitrary. -/
inductive WellFormed : Node → Prop where
  | literal (text : String) : WellFormed (.literal text)
  | subtree {children : List Node} (hn : children ≠ []) (h : ∀ n ∈ children, WellFormed n) :
      WellFormed (.subtree children)
  | assign {name : String} {value : List Node} (ha : IsName name) (hn : value ≠ [])
      (h : ∀ n ∈ value, WellFormed n) : WellFormed (.assign name value)
  | deref {name : String} (hs : ' ' ∉ name.toList) (ht : Text.IsTrimmed name) :
      WellFormed (.deref name)
  | suppress : WellFormed .suppress

theorem Refers.wellFormed {text : String} {named : List Node} (h : Refers text named) :
    ∀ n ∈ named, n.WellFormed := by
  cases h with
  | name h =>
      rw [List.forall_mem_singleton]
      exact .deref (fun hm => h (Text.mem_of_mem_trim hm)) (Text.isTrimmed_trim _)
  | @spaced name rest h =>
      rw [List.forall_mem_cons, List.forall_mem_singleton]
      refine ⟨.deref (fun hm => h ?_) (Text.isTrimmed_trim _), .literal _⟩
      simpa using Text.mem_of_mem_trim hm

theorem Unwraps.wellFormed {value v : List Node} (hu : Unwraps value v) (hn : value ≠ [])
    (h : ∀ n ∈ value, n.WellFormed) : v ≠ [] ∧ ∀ n ∈ v, n.WellFormed := by
  cases hu with
  | subtree children =>
      cases List.forall_mem_singleton.mp h with
      | subtree hc h => exact ⟨hc, h⟩
  | plain _ => exact ⟨hn, h⟩

/-- The grammar derives well-formed trees only. -/
theorem Derives.wellFormed {last : Option Token} {ts : List Token} {nodes : List Node}
    (h : Derives last ts nodes) : ∀ n ∈ nodes, n.WellFormed := by
  induction h with
  | nil => exact fun _ hn => absurd hn List.not_mem_nil
  | literal _ _ _ ih => exact List.forall_mem_cons.mpr ⟨.literal _, ih⟩
  | reference hr _ _ ih => exact List.forall_mem_append.mpr ⟨hr.wellFormed, ih⟩
  | subtree _ hc _ ihi ih => exact List.forall_mem_cons.mpr ⟨.subtree hc ihi, ih⟩
  | assign _ ht _ _ hn hu _ ihv ih =>
      obtain ⟨hn', hv'⟩ := hu.wellFormed hn ihv
      exact List.forall_mem_cons.mpr ⟨.assign ht hn' hv', ih⟩
  | suppress _ ih => exact List.forall_mem_cons.mpr ⟨.suppress, ih⟩
  | idle _ _ ih => exact ih

/-! ### What is parsed is derived -/

/-- The actions at the head of a list. -/
theorem exists_run (ts : List Token) :
    ∃ n us, ts = List.replicate n .action ++ us ∧ us.head? ≠ some .action := by
  induction ts with
  | nil => exact ⟨0, [], rfl, by simp⟩
  | cons t ts ih =>
      by_cases ht : t = .action
      · obtain ⟨n, us, rfl, hu⟩ := ih
        exact ⟨n + 1, us, by rw [ht, List.replicate_succ, List.cons_append], hu⟩
      · exact ⟨0, t :: ts, rfl, by simpa using ht⟩

/-- What follows actions is the rest of an item, if what is shorter is derived. -/
theorem derives_actions {maxDepth depth : Nat} {ts : List Token} {nodes : List Node}
    (ih : ∀ {depth last us nodes}, us.length < ts.length → last ≠ some .action →
      parseItems maxDepth depth last us = .ok nodes → Derives last us nodes)
    (ha : ts.head? ≠ some .action) (h : parseItems maxDepth depth (some .action) ts = .ok nodes)
    (last : Option Token) (n : Nat) :
    Derives last (List.replicate (n + 1) .action ++ ts) nodes := by
  cases ts with
  | nil =>
      rw [parseItems_nil] at h
      cases h
      exact .idle (by simp) .nil
  | cons t ts =>
      cases t with
      | action => exact absurd rfl ha
      | rightBracket =>
          rw [parseItems_rightBracket] at h
          cases h
      | assign =>
          rw [parseItems_assign] at h
          cases h
      | suppress =>
          rw [parseItems_suppress] at h
          obtain ⟨rest, hr, rfl⟩ := exists_of_map_eq_ok h
          exact .idle (by simp) (.suppress (ih (by simp) (by simp) hr))
      | leftBracket =>
          obtain ⟨-, inside, after, children, rest, rfl, hi, hc, hr, rfl⟩ :=
            exists_of_parseItems_leftBracket h
          refine .subtree (ih ?_ (by simp) (parseItems_of_parseAt hi)) hc (ih ?_ (by simp) hr)
          · simp only [List.length_cons, List.length_append]
            omega
          · simp only [List.length_cons, List.length_append]
            omega
      | identifier text =>
          by_cases hn : ts.head? = some .assign
          · obtain ⟨us, rfl⟩ := List.head?_eq_some_iff.mp hn
            exact absurd rfl (exists_of_parseItems_binding h).1
          · rw [parseItems_identifier hn, if_pos rfl] at h
            obtain ⟨rest, hr, rfl⟩ := exists_of_map_eq_ok h
            exact .reference (refers_ofReference text) hn (ih (by simp) (by simp) hr)

/-- Whatever is parsed is derived. -/
theorem derives_of_parseItems {maxDepth depth : Nat} {last : Option Token} {ts : List Token}
    {nodes : List Node} (hl : last ≠ some .action)
    (h : parseItems maxDepth depth last ts = .ok nodes) : Derives last ts nodes := by
  match ts with
  | [] =>
      rw [parseItems_nil] at h
      cases h
      exact .nil
  | .leftBracket :: ts => exact absurd (exists_of_parseItems_leftBracket h).1 hl
  | .rightBracket :: ts =>
      rw [parseItems_rightBracket] at h
      cases h
  | .assign :: ts =>
      rw [parseItems_assign] at h
      cases h
  | .suppress :: ts =>
      rw [parseItems_suppress] at h
      obtain ⟨rest, hr, rfl⟩ := exists_of_map_eq_ok h
      exact .suppress (derives_of_parseItems (by simp) hr)
  | .action :: ts =>
      obtain ⟨n, us, rfl, hu⟩ := exists_run ts
      have hr : parseItems maxDepth depth (some .action) us = .ok nodes := by
        rwa [← List.cons_append, ← List.replicate_succ, parseItems_actions] at h
      exact derives_actions (fun hlt hl h => derives_of_parseItems hl h) hu hr last n
  | .identifier text :: ts =>
      by_cases hn : ts.head? = some .assign
      · obtain ⟨ts, rfl⟩ := List.head?_eq_some_iff.mp hn
        obtain ⟨-, hname, value, after, v, rest, hs, hv, hne, hr, rfl⟩ :=
          exists_of_parseItems_binding h
        have hlen := length_of_splitTerminator hs
        have hd := derives_of_parseItems (by simp) (parseItems_of_parseAt hv)
        have ha := derives_of_parseItems (by simp) hr
        obtain ⟨rfl, hc⟩ := (splitTerminator_eq_some_iff hd.closes).mp hs
        have hvn : v ≠ [] := by
          rintro rfl
          exact hne rfl
        exact .assign hl (isVariableName_iff.mp hname) hc hd hvn (unwraps_unwrap v) ha
      · rw [parseItems_identifier hn, if_neg hl] at h
        obtain ⟨rest, hr, rfl⟩ := exists_of_map_eq_ok h
        exact .literal hl hn (derives_of_parseItems (by simp) hr)
termination_by ts.length
decreasing_by
  all_goals simp_all only [List.length_cons, List.length_append, List.length_replicate]
  all_goals omega

/-! ### What is derived is parsed -/

/-- Whatever is derived is parsed, if there is room for its nesting. -/
theorem parseItems_of_derives {maxDepth depth : Nat} {last : Option Token} {ts : List Token}
    {nodes : List Node} (h : Derives last ts nodes) (hd : depth + nesting ts ≤ maxDepth) :
    parseItems maxDepth depth last ts = .ok nodes := by
  induction h generalizing depth with
  | nil => exact parseItems_nil
  | literal hl hn _ ih =>
      rw [nesting_cons] at hd
      rw [parseItems_identifier hn, if_neg hl, ih (by omega)]
      rfl
  | reference hr hn _ ih =>
      rw [nesting_actions, nesting_cons] at hd
      rw [parseItems_actions, parseItems_identifier hn, if_pos rfl, ih (by omega),
        hr.eq_ofReference]
      rfl
  | subtree hi hc _ ihi ih =>
      simp only [nesting_cons, nesting_append, true_or, if_true] at hd
      rw [parseItems_actions, parseItems_subtree hi.closes, parseAt_of_closes (by omega) hi.closes,
        ihi (by omega), ih (by omega)]
      exact congrArg (· >>= _) (requireSome_of_ne_nil hc)
  | assign hl ht hs hv hn hu _ ihv ih =>
      simp only [nesting_cons, nesting_append, or_true, if_true] at hd
      rw [parseItems_assignment hl (isVariableName_iff.mpr ht) hv.closes hs,
        parseAt_of_closes (by omega) hv.closes, ihv (by omega), ih (by omega)]
      obtain ⟨hn', -⟩ := hu.wellFormed hn hv.wellFormed
      obtain rfl := hu.eq_unwrap
      exact congrArg (· >>= _) (requireSome_of_ne_nil hn')
  | suppress _ ih =>
      rw [nesting_cons] at hd
      rw [parseItems_suppress, ih (by omega)]
      rfl
  | idle _ _ ih =>
      rw [nesting_actions] at hd
      rw [parseItems_actions, ih hd]

theorem parse_of_derives {ts : List Token} {maxDepth : Nat} {nodes : List Node}
    (hd : ts.length ≤ maxDepth) (h : Derives none ts nodes) : parse maxDepth ts = .ok nodes := by
  have hn : nesting ts ≤ maxDepth := (nesting_le_length ts).trans hd
  rw [parse, parseAt_of_closes (Nat.zero_le _) h.closes]
  exact parseItems_of_derives h (by rwa [Nat.zero_add])

/-- **Parsing accepts exactly the grammar and builds exactly its trees.**  Where the depth is no
matter, a list of tokens is parsed to a tree if and only if the grammar derives the tree, and there
is at most one. -/
theorem parse_eq_ok_iff_derives :
    (∀ (ts : List Token) (maxDepth : Nat) (nodes : List Node), ts.length ≤ maxDepth →
      (parse maxDepth ts = .ok nodes ↔ Derives none ts nodes)) ∧
    ∀ (ts : List Token) (nodes nodes' : List Node),
      Derives none ts nodes → Derives none ts nodes' → nodes = nodes' := by
  refine ⟨fun ts maxDepth nodes hd => ⟨fun h => ?_, parse_of_derives hd⟩,
    fun ts nodes nodes' h h' => ?_⟩
  · exact derives_of_parseItems (by simp) (parseItems_of_parseAt h)
  -- both trees are what the list is parsed to
  · exact Except.ok.inj
      ((parse_of_derives (Nat.le_refl _) h).symm.trans (parse_of_derives (Nat.le_refl _) h'))

/-- The tokens of an assignment, a text and a reference. -/
def sampleTokens : List Token :=
  [.identifier "x ", .assign, .action, .leftBracket, .identifier "!a", .rightBracket, .suppress,
    .identifier "!b ", .action, .identifier "x y"]

/-- The tree that they spell. -/
def sampleTree : List Node :=
  [.assign "x" [.literal "!a"], .literal "!b ", .deref "x", .literal " y"]

theorem derives_sample : Derives none sampleTokens sampleTree := by
  have value : Derives none [.action, .leftBracket, .identifier "!a", .rightBracket]
      [.subtree [.literal "!a"]] :=
    @Derives.subtree none 0 [.identifier "!a"] [] _ [] (.literal (by simp) (by simp) .nil) (by simp)
      .nil
  have covered : Covered 0 [.action, .leftBracket, .identifier "!a", .rightBracket] := by
    simp [covered_cons_iff, covered_nil]
  have named : Refers "x y" [.deref "x", .literal " y"] := by
    rw [show "x" = Text.trim "x" by decide +kernel]
    exact @Refers.spaced ['x'] ['y'] (by decide)
  have rest : Derives (some .suppress) [.identifier "!b ", .action, .identifier "x y"]
      [.literal "!b ", .deref "x", .literal " y"] :=
    .literal (by simp) (by simp) (@Derives.reference _ 0 "x y" [] _ [] named (by simp) .nil)
  have name : Text.trim "x " = "x" := by decide +kernel
  have he : IsName (Text.trim "x ") := isVariableName_iff.mp (by decide +kernel)
  have ha : Derives none sampleTokens
      [.assign (Text.trim "x ") [.literal "!a"], .literal "!b ", .deref "x", .literal " y"] :=
    .assign (by simp) he covered value (by simp) (.subtree _) rest
  rwa [name] at ha

theorem parse_eq_ok_iff_derives_sample : sampleTokens.length ≤ 10 ∧
    parse 10 sampleTokens = .ok sampleTree ∧ Derives none sampleTokens sampleTree ∧
    ∀ nodes, Derives none sampleTokens nodes → nodes = sampleTree :=
  ⟨by decide, (parse_eq_ok_iff_derives.1 sampleTokens 10 sampleTree (by decide)).mpr derives_sample,
    derives_sample, fun nodes h => parse_eq_ok_iff_derives.2 _ _ _ h derives_sample⟩

end Node

end ChatBot
