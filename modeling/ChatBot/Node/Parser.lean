import ChatBot.Node
import ChatBot.Text.Word
import ChatBot.Token

/-!
# Building expression trees

`Node.parse` puts tokens together, from left to right, with nested expressions and assigned values
parsed as token lists of their own, one level deeper. A nested expression reaches to the bracket
that closes it (`splitClosing`), an assigned value to the first `suppress` outside brackets
(`splitTerminator`); both are shorter than the list they were cut from (`Delimiter.length_of_cut`),
which is why parsing ends.
-/

namespace ChatBot

/-- Why a list of tokens is no expression. -/
inductive ParseError where
  /-- Nested expressions and assigned values lie deeper than allowed. -/
  | depthExceeded (maxDepth : Nat)
  /-- There are not as many opening as closing brackets. -/
  | unbalancedBracket (opening closing : Nat)
  /-- An opening bracket does not follow an action. -/
  | unescapedBracket
  /-- A nested expression or an assigned value is empty. -/
  | emptySubexpression
  /-- What stands before an assignment is no name. -/
  | invalidVariableName (name : String)
  /-- No `suppress` ends the value of an assignment. -/
  | unterminatedAssign (name : String)
  /-- A token stands where it cannot. -/
  | malformedToken (token : Token)
  deriving DecidableEq, Repr

/-- The wording of a failure to parse. -/
def ParseError.message : ParseError → String
  | .depthExceeded n => "Too deep. Cannot exceed " ++ toString n ++ " nested commands."
  | .unbalancedBracket o c =>
    "Unbalanced brackets: " ++ toString o ++ " opening, " ++ toString c ++ " closing"
  | .unescapedBracket => "Unescaped bracket. Brackets must follow an action character."
  | .emptySubexpression => "Subexpression evaluates to nothing"
  | .invalidVariableName name => "Invalid variable name \"" ++ name ++ "\""
  | .unterminatedAssign name => "Assignment to \"" ++ name ++ "\" is not terminated"
  | .malformedToken token => "Unexpected " ++ token.describe

namespace Token

/-- A list has as many opening as closing brackets. -/
def checkBalance (tokens : List Token) : Except ParseError Unit :=
  if tokens.count .leftBracket = tokens.count .rightBracket then .ok ()
  else .error (.unbalancedBracket (tokens.count .leftBracket) (tokens.count .rightBracket))

/-- Cuts `tokens` at the bracket that closes the last of `opened + 1` open ones: what stands before
it, and what stands after it. -/
def splitClosing (opened : Nat) : List Token → Option (List Token × List Token)
  | [] => none
  | .rightBracket :: ts =>
    match opened with
    | 0 => some ([], ts)
    | n + 1 => (splitClosing n ts).map fun p => (.rightBracket :: p.1, p.2)
  | .leftBracket :: ts => (splitClosing (opened + 1) ts).map fun p => (.leftBracket :: p.1, p.2)
  | t :: ts => (splitClosing opened ts).map fun p => (t :: p.1, p.2)

/-- Cuts `tokens` at the first `suppress` that stands in none of `opened` brackets: what stands
before it, and what stands after it. A closing bracket too many is passed over. -/
def splitTerminator (opened : Nat) : List Token → Option (List Token × List Token)
  | [] => none
  | .suppress :: ts =>
    match opened with
    | 0 => some ([], ts)
    | n + 1 => (splitTerminator (n + 1) ts).map fun p => (.suppress :: p.1, p.2)
  | .leftBracket :: ts => (splitTerminator (opened + 1) ts).map fun p => (.leftBracket :: p.1, p.2)
  | .rightBracket :: ts =>
    (splitTerminator (opened - 1) ts).map fun p => (.rightBracket :: p.1, p.2)
  | t :: ts => (splitTerminator opened ts).map fun p => (t :: p.1, p.2)

/-- The two sides of a bracket and the bracket itself make up the list. -/
theorem length_of_splitClosing {opened : Nat} {tokens inside after : List Token}
    (h : splitClosing opened tokens = some (inside, after)) :
    inside.length + after.length + 1 = tokens.length := by
  induction tokens generalizing opened inside after with
  | nil => simp [splitClosing] at h
  | cons t ts ih =>
    cases t <;> cases opened <;>
      simp only [splitClosing, Option.map_eq_some_iff, Option.some.injEq, Prod.mk.injEq] at h <;>
      first
        | (obtain ⟨rfl, rfl⟩ := h; simp)
        | (obtain ⟨⟨l, r⟩, hp, rfl, rfl⟩ := h
           have := ih hp
           simp only [List.length_cons]
           omega)

/-- The two sides of a terminator and the terminator itself make up the list. -/
theorem length_of_splitTerminator {opened : Nat} {tokens value after : List Token}
    (h : splitTerminator opened tokens = some (value, after)) :
    value.length + after.length + 1 = tokens.length := by
  induction tokens generalizing opened value after with
  | nil => simp [splitTerminator] at h
  | cons t ts ih =>
    cases t <;> cases opened <;>
      simp only [splitTerminator, Option.map_eq_some_iff, Option.some.injEq, Prod.mk.injEq] at h <;>
      first
        | (obtain ⟨rfl, rfl⟩ := h; simp)
        | (obtain ⟨⟨l, r⟩, hp, rfl, rfl⟩ := h
           have := ih hp
           simp only [List.length_cons]
           omega)

end Token

/-- Whether a variable may have this name: an ASCII letter or an underscore, then word characters
and hyphens. -/
def isVariableName (name : String) : Bool :=
  match name.toList with
  | [] => false
  | c :: cs => (c.isAlpha || c = '_') && cs.all fun d => Text.isWordChar d || d = '-'

/-- The name in a text that follows an action, and the text after the name. The name reaches to the
first space, which belongs to what follows. -/
def splitName (text : String) : String × Option String :=
  let cs := text.toList
  let name := cs.takeWhile (· != ' ')
  (Text.trim (String.ofList name),
    match cs.drop name.length with
    | [] => none
    | rest => some (String.ofList rest))

/-- The nodes for a text that follows an action: a variable, and the rest of the text. -/
def Node.ofReference (text : String) : List Node :=
  match splitName text with
  | (name, none) => [.deref name]
  | (name, some rest) => [.deref name, .literal rest]

/-- A value that is one nested expression is that expression. -/
def Node.unwrap : List Node → List Node
  | [.subtree children] => children
  | value => value

/-- An empty nested expression or value is refused. -/
def Node.requireSome : List Node → Except ParseError (List Node)
  | [] => .error .emptySubexpression
  | nodes => .ok nodes

/-! ### Cutting a list -/

/-- What a part of a list of tokens ends at. -/
inductive Delimiter where
  /-- The bracket that closes a nested expression. -/
  | closing
  /-- The terminator of an assigned value. -/
  | terminator
  deriving DecidableEq, Repr

namespace Delimiter

/-- The token that it is. -/
def token : Delimiter → Token
  | .closing => .rightBracket
  | .terminator => .suppress

/-- Cuts a list of tokens there: what stands before it, and what stands after it. -/
def cut : Delimiter → List Token → Option (List Token × List Token)
  | .closing => Token.splitClosing 0
  | .terminator => Token.splitTerminator 0

/-- Both sides together are shorter than the list. -/
theorem length_of_cut {d : Delimiter} {tokens inside after : List Token}
    (h : d.cut tokens = some (inside, after)) : inside.length + after.length < tokens.length := by
  cases d with
  | closing => exact Nat.lt_of_succ_le (Nat.le_of_eq (Token.length_of_splitClosing h))
  | terminator => exact Nat.lt_of_succ_le (Nat.le_of_eq (Token.length_of_splitTerminator h))

end Delimiter

/-- A delimiter is searched for in `rest`, which is what is left of `list` while that is read. -/
structure Search where
  /-- What is searched for. -/
  delimiter : Delimiter
  /-- The list of tokens that is read. -/
  list : List Token
  /-- Where the delimiter is searched for. -/
  rest : List Token
  deriving DecidableEq, Repr

/-! ### Reading a list

How tokens are read is said for every monad in which reading can fail, so that one can follow what
is searched for: all searches are told to `note`. Parsing is reading where nobody listens. -/

namespace Node

/-- There is no expression to be read. -/
def refuse {α : Type} (e : ParseError) : Except ParseError α := .error e

section Reading

variable {m : Type → Type} [Monad m] [MonadLiftT (Except ParseError) m]

mutual

/-- The nodes of a token list at nesting `depth`. -/
def readAt (note : Search → m Unit) (maxDepth depth : Nat) (tokens : List Token) :
    m (List Node) := do
  if maxDepth < depth then refuse (.depthExceeded maxDepth)
  Token.checkBalance tokens
  readItems note (fun delimiter rest => note ⟨delimiter, tokens, rest⟩) maxDepth depth none tokens
termination_by (tokens.length, 1)

/-- The nodes of `tokens`, which stand after the token `last`. Searches in the list that they are
the rest of are told to `search`. -/
def readItems (note : Search → m Unit) (search : Delimiter → List Token → m Unit)
    (maxDepth depth : Nat) (last : Option Token) (tokens : List Token) : m (List Node) := do
  match tokens with
  | [] => return []
  | .leftBracket :: ts =>
    if last ≠ some .action then refuse .unescapedBracket
    let missing := .unbalancedBracket (ts.count .leftBracket + 1) (ts.count .rightBracket)
    readPart note search maxDepth depth .closing missing requireSome .subtree ts
  | .identifier text :: .assign :: ts =>
    if last = some .action then
      refuse (.invalidVariableName (Token.identifier text).describe)
    let name := Text.trim text
    if !isVariableName name then refuse (.invalidVariableName name)
    readPart note search maxDepth depth .terminator (.unterminatedAssign name)
      (fun value => requireSome (unwrap value)) (.assign name) ts
  | .assign :: _ => refuse (.invalidVariableName (last.elim "" Token.describe))
  | .identifier text :: ts =>
    let nodes := if last = some .action then ofReference text else [.literal text]
    return nodes ++ (← readItems note search maxDepth depth (some (.identifier text)) ts)
  | .suppress :: ts =>
    return .suppress :: (← readItems note search maxDepth depth (some .suppress) ts)
  | .action :: ts => readItems note search maxDepth depth (some .action) ts
  | .rightBracket :: _ => refuse (.malformedToken .rightBracket)
termination_by (tokens.length, 0)

/-- Reads the part of `tokens` that ends at a delimiter, one level deeper, makes a node of what
passes, and goes on behind the delimiter. -/
def readPart (note : Search → m Unit) (search : Delimiter → List Token → m Unit)
    (maxDepth depth : Nat) (delimiter : Delimiter) (missing : ParseError)
    (pass : List Node → Except ParseError (List Node)) (node : List Node → Node)
    (tokens : List Token) : m (List Node) := do
  search delimiter tokens
  match h : delimiter.cut tokens with
  | none => refuse missing
  | some (inside, after) =>
    have := Delimiter.length_of_cut h
    let nodes ← pass (← readAt note maxDepth (depth + 1) inside)
    return node nodes :: (← readItems note search maxDepth depth (some delimiter.token) after)
termination_by (tokens.length, 2)

end

end Reading

/-- The nodes of a token list at nesting `depth`. -/
def parseAt (maxDepth depth : Nat) (tokens : List Token) : Except ParseError (List Node) :=
  readAt (fun _ => pure ()) maxDepth depth tokens

/-- The nodes of `tokens`, which stand after the token `last`. -/
def parseItems (maxDepth depth : Nat) (last : Option Token) (tokens : List Token) :
    Except ParseError (List Node) :=
  readItems (fun _ => pure ()) (fun _ _ => pure ()) maxDepth depth last tokens

/-- How deep expressions nest unless the bot's owner says otherwise. -/
def defaultMaxDepth : Nat := 10

/-- The expression that `tokens` spell. -/
def parse (maxDepth : Nat) (tokens : List Token) : Except ParseError (List Node) :=
  parseAt maxDepth 0 tokens

end Node

end ChatBot
