import ChatBot.Proofs.Node.Grammar

/-!
# Trees and their tokens

Every well-formed tree has a spelling, `Node.unparse`, in which nested expressions and values stand
in brackets.

* `Node.parse_unparse`: parsing a spelling gives the tree back if there is room for it, and
  complains about the depth if there is not; and all that is ever parsed is well formed.

`Node.Parses` says both of a list of tokens at once, at every depth, so that the spelling of a tree
is put together from the spellings of its parts.
-/

namespace ChatBot.Node

open Token

mutual

/-- The tokens that spell a node. -/
def tokens : Node → List Token
  | .literal text => [.identifier text]
  | .suppress => [.suppress]
  | .deref name => [.action, .identifier name]
  | .subtree children => [.action, .leftBracket] ++ unparse children ++ [.rightBracket]
  | .assign name value =>
    [.identifier name, .assign, .action, .leftBracket] ++ unparse value ++
      [.rightBracket, .suppress]

/-- The tokens that spell several nodes. -/
def unparse : List Node → List Token
  | [] => []
  | n :: ns => n.tokens ++ unparse ns

end

mutual

/-- How much depth the tokens of a node need.  The value of an assignment stands in brackets of its
own. -/
def need : Node → Nat
  | .subtree children => 1 + needs children
  | .assign _ value => 2 + needs value
  | _ => 0

/-- How much depth the tokens of several nodes need. -/
def needs : List Node → Nat
  | [] => 0
  | n :: ns => max n.need (needs ns)

end

/-! ### Room for a tree -/

/-- The nodes, if there is room for them. -/
def within (maxDepth need : Nat) (nodes : List Node) : Except ParseError (List Node) :=
  if need ≤ maxDepth then .ok nodes else .error (.depthExceeded maxDepth)

theorem within_map (maxDepth need : Nat) (n : Node) (nodes : List Node) :
    (within maxDepth need nodes).map (n :: ·) = within maxDepth need (n :: nodes) := by
  unfold within
  split <;> rfl

theorem within_bind_within (maxDepth a b : Nat) (nodes : List Node) (f : List Node → List Node) :
    (within maxDepth a nodes >>= fun ns => within maxDepth b (f ns)) =
      within maxDepth (max a b) (f nodes) := by
  unfold within
  by_cases ha : a ≤ maxDepth
  · rw [if_pos ha]
    by_cases hb : b ≤ maxDepth
    · rw [if_pos (Nat.max_le.mpr ⟨ha, hb⟩)]
      exact if_pos hb
    · rw [if_neg fun h => hb (Nat.max_le.mp h).2]
      exact if_neg hb
  · rw [if_neg ha, if_neg fun h => ha (Nat.max_le.mp h).1]
    rfl

/-- Whatever the depth, the tokens are parsed to the nodes as far as there is room for these. -/
def Parses (maxDepth : Nat) (ts : List Token) (nodes : List Node) : Prop :=
  ∀ depth last, depth ≤ maxDepth → last ≠ some .action →
    parseItems maxDepth depth last ts = within maxDepth (depth + needs nodes) nodes

namespace Parses

variable {maxDepth : Nat} {ts us : List Token} {nodes children value : List Node}

theorem nil : Parses maxDepth [] [] := fun depth last hd _ => by
  rw [parseItems_nil, within, if_pos (by rw [needs]; exact hd)]

theorem parseAt (h : Parses maxDepth ts nodes) (hc : Closes 0 ts) (depth : Nat) :
    parseAt maxDepth depth ts = within maxDepth (depth + needs nodes) nodes := by
  by_cases hd : depth ≤ maxDepth
  · rw [parseAt_of_closes hd hc, h depth none hd (by simp)]
  · rw [parseAt_of_lt (Nat.not_le.mp hd), within, if_neg (by omega)]

/-- A node that needs no room. -/
theorem flat {n : Node} (hn : n.need = 0) (depth : Nat) :
    (within maxDepth (depth + needs nodes) nodes).map (n :: ·) =
      within maxDepth (depth + needs (n :: nodes)) (n :: nodes) := by
  rw [within_map, needs, hn, Nat.zero_max]

theorem literal (h : Parses maxDepth us nodes) (hu : us.head? ≠ some .assign) (text : String) :
    Parses maxDepth (.identifier text :: us) (.literal text :: nodes) := fun depth last hd hl => by
  rw [parseItems_identifier hu, if_neg hl, h depth _ hd (by simp)]
  exact flat rfl depth

theorem suppress (h : Parses maxDepth us nodes) :
    Parses maxDepth (.suppress :: us) (.suppress :: nodes) := fun depth last hd _ => by
  rw [parseItems_suppress, h depth _ hd (by simp)]
  exact flat rfl depth

theorem deref (h : Parses maxDepth us nodes) (hu : us.head? ≠ some .assign) {name : String}
    (hs : ' ' ∉ name.toList) (ht : Text.IsTrimmed name) :
    Parses maxDepth (.action :: .identifier name :: us) (.deref name :: nodes) :=
  fun depth last hd _ => by
    rw [parseItems_action, parseItems_identifier hu, if_pos rfl, h depth _ hd (by simp),
      ofReference_of_not_mem hs, ht.trim_eq]
    exact flat rfl depth

theorem subtree (hi : Parses maxDepth ts children) (hc : Closes 0 ts) (hn : children ≠ [])
    (h : Parses maxDepth us nodes) :
    Parses maxDepth (.action :: .leftBracket :: (ts ++ .rightBracket :: us))
      (.subtree children :: nodes) := fun depth last hd _ => by
  rw [parseItems_action, parseItems_subtree hc, hi.parseAt hc, h depth _ hd (by simp)]
  have hr : (within maxDepth (depth + 1 + needs children) children >>= requireSome) =
      within maxDepth (depth + 1 + needs children) children := by
    unfold within
    split
    · exact requireSome_of_ne_nil hn
    · rfl
  have hm : max (depth + 1 + needs children) (depth + needs nodes) =
      depth + needs (.subtree children :: nodes) := by
    rw [needs, need]
    omega
  simp only [hr, within_map]
  rw [within_bind_within maxDepth _ _ children (.subtree · :: nodes), hm]

/-- The value of an assignment is parsed as the one nested expression that it stands in. -/
theorem assign {name : String} (ha : IsName name) (hi : Parses maxDepth ts value)
    (hc : Closes 0 ts) (hn : value ≠ []) (h : Parses maxDepth us nodes) :
    Parses maxDepth
      (.identifier name :: .assign :: .action :: .leftBracket ::
        (ts ++ .rightBracket :: .suppress :: us)) (.assign name value :: nodes) :=
  fun depth last hd hl => by
    have hv := hi.subtree hc hn nil
    have hcv : Closes 0 (.action :: .leftBracket :: (ts ++ [.rightBracket])) :=
      .other id (hc.enclose .nil)
    have hs : Covered 0 (.action :: .leftBracket :: (ts ++ [.rightBracket])) :=
      (covered_cons_iff rfl).mpr ⟨by simp, (covered_cons_iff rfl).mpr ⟨by simp, hc.covered⟩⟩
    have ht : Text.trim name = name := ha.isTrimmed.trim_eq
    have hname : isVariableName (Text.trim name) = true := by rwa [ht, isVariableName_iff]
    have hr : (within maxDepth (depth + 1 + needs [.subtree value]) [.subtree value] >>=
        fun v => requireSome (unwrap v)) =
          within maxDepth (depth + 1 + needs [.subtree value]) value := by
      unfold within
      split
      · exact requireSome_of_ne_nil hn
      · rfl
    have hm : max (depth + 1 + needs [.subtree value]) (depth + needs nodes) =
        depth + needs (.assign name value :: nodes) := by
      simp only [needs, need]
      omega
    have he : .action :: .leftBracket :: (ts ++ .rightBracket :: .suppress :: us) =
        .action :: .leftBracket :: (ts ++ [.rightBracket]) ++ .suppress :: us := by simp
    rw [he, parseItems_assignment hl hname hcv hs, hv.parseAt hcv, h depth _ hd (by simp)]
    simp only [hr, within_map, ht]
    rw [within_bind_within maxDepth _ _ value (.assign name · :: nodes), hm]

end Parses

/-! ### The spelling of a tree -/

theorem head?_tokens_append (n : Node) (us : List Token) :
    (n.tokens ++ us).head? ≠ some .assign := by
  cases n <;> simp [tokens]

theorem head?_unparse (nodes : List Node) : (unparse nodes).head? ≠ some .assign := by
  cases nodes with
  | nil => simp [unparse]
  | cons n ns => exact head?_tokens_append n _

mutual

theorem closes_tokens : ∀ n : Node, Closes 0 n.tokens
  | .literal _ | .suppress => .other id .nil
  | .deref _ => .other id (.other id .nil)
  | .subtree children => by
      rw [tokens, List.append_assoc]
      exact .other id ((closes_unparse children).enclose .nil)
  | .assign _ value => by
      rw [tokens, List.append_assoc]
      exact .other id (.other id (.other id ((closes_unparse value).enclose (.other id .nil))))

theorem closes_unparse : ∀ ns : List Node, Closes 0 (unparse ns)
  | [] => .nil
  | n :: ns => by
      rw [unparse]
      exact (closes_tokens n).append (closes_unparse ns)

end

mutual

/-- The spelling of a node in front of another spelling. -/
theorem parses_tokens {maxDepth : Nat} {us : List Token} {nodes : List Node} :
    ∀ {n : Node}, n.WellFormed → Parses maxDepth us nodes → us.head? ≠ some .assign →
      Parses maxDepth (n.tokens ++ us) (n :: nodes)
  | .literal text, _, h, hu => h.literal hu text
  | .suppress, _, h, _ => h.suppress
  | .deref name, hw, h, hu => by
      cases hw with
      | deref hs ht => exact h.deref hu hs ht
  | .subtree children, hw, h, _ => by
      cases hw with
      | subtree hn hc =>
          have hp := (parses_unparse hc).subtree (closes_unparse children) hn h
          simpa [tokens] using hp
  | .assign name value, hw, h, _ => by
      cases hw with
      | assign ha hn hv =>
          have hp := (parses_unparse hv).assign ha (closes_unparse value) hn h
          simpa [tokens] using hp

theorem parses_unparse {maxDepth : Nat} :
    ∀ {ns : List Node}, (∀ n ∈ ns, n.WellFormed) → Parses maxDepth (unparse ns) ns
  | [], _ => .nil
  | n :: ns, h => by
      rw [unparse]
      rw [List.forall_mem_cons] at h
      exact parses_tokens h.1 (parses_unparse h.2) (head?_unparse ns)

end

/-- **Parsing undoes spelling, and finds nothing but well-formed trees.**  The spelling of a
well-formed tree is parsed to the tree if the limit allows for its depth, and refused for the depth
if it does not.  Whatever is parsed, whatever the limit, is well formed. -/
theorem parse_unparse :
    (∀ (maxDepth : Nat) (nodes : List Node), (∀ n ∈ nodes, n.WellFormed) →
      parse maxDepth (unparse nodes) =
        if needs nodes ≤ maxDepth then .ok nodes else .error (.depthExceeded maxDepth)) ∧
    ∀ (maxDepth : Nat) (ts : List Token) (nodes : List Node),
      parse maxDepth ts = .ok nodes → ∀ n ∈ nodes, n.WellFormed := by
  refine ⟨fun maxDepth nodes h => ?_, fun maxDepth ts nodes h => ?_⟩
  · have hs : Parses maxDepth (unparse nodes) nodes := parses_unparse h
    have hp := hs.parseAt (closes_unparse nodes) 0
    rwa [Nat.zero_add] at hp
  · exact (derives_of_parseItems (by simp) (parseItems_of_parseAt h)).wellFormed

/-- An assignment whose value is one nested expression, and one inside of a nested expression. -/
def nestedTree : List Node :=
  [.literal "a", .deref "x", .assign "y" [.subtree [.literal "!b"]],
    .subtree [.assign "z" [.suppress, .literal "c"], .deref "z"]]

theorem wellFormed_nestedTree : ∀ n ∈ nestedTree, n.WellFormed := by
  have name (c : Char) (hc : c.isAlpha = true) : IsName (String.ofList [c]) :=
    ⟨c, [], rfl, .inl hc, fun _ hd => absurd hd List.not_mem_nil⟩
  simp only [nestedTree, List.forall_mem_cons]
  refine ⟨.literal _, .deref (by decide) (name 'x' rfl).isTrimmed,
    .assign (name 'y' rfl) (by simp) ?_, .subtree (by simp) ?_, by simp⟩
  · exact List.forall_mem_singleton.mpr (.subtree (by simp)
      (List.forall_mem_singleton.mpr (.literal _)))
  · refine List.forall_mem_cons.mpr ⟨.assign (name 'z' rfl) (by simp) ?_,
      List.forall_mem_singleton.mpr (.deref (by decide) (name 'z' rfl).isTrimmed)⟩
    exact List.forall_mem_cons.mpr ⟨.suppress, List.forall_mem_singleton.mpr (.literal _)⟩

theorem parse_unparse_sample : (∀ n ∈ nestedTree, n.WellFormed) ∧
    parse 3 (unparse nestedTree) = .ok nestedTree ∧
    parse 2 (unparse nestedTree) = .error (.depthExceeded 2) ∧
    parse 10 sampleTokens = .ok sampleTree ∧ ∀ n ∈ sampleTree, n.WellFormed := by
  have h (maxDepth : Nat) := parse_unparse.1 maxDepth nestedTree wellFormed_nestedTree
  have hp : parse 10 sampleTokens = .ok sampleTree := parse_of_derives (by decide) derives_sample
  exact ⟨wellFormed_nestedTree, (h 3).trans (if_pos (by decide)), (h 2).trans (if_neg (by decide)),
    hp, parse_unparse.2 10 sampleTokens sampleTree hp⟩

end ChatBot.Node
