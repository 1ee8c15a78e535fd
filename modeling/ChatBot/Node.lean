/-!
# Expression trees

What an expression means once its tokens are put together.
-/

namespace ChatBot

/-- A part of an expression. -/
inductive Node where
  /-- Text copied into the command being built, spacing kept. -/
  | literal (text : String)
  /-- A nested expression, whose result is spliced in. -/
  | subtree (children : List Node)
  /-- Gives a variable the result of `value`. -/
  | assign (name : String) (value : List Node)
  /-- The value of a variable. -/
  | deref (name : String)
  /-- Runs the command built so far and drops its reply. -/
  | suppress
  deriving Repr, Inhabited

mutual

/-- How deeply nested expressions and assigned values lie inside a node. -/
def Node.depth : Node → Nat
  | .subtree children => 1 + Node.maxDepth children
  | .assign _ value => 1 + Node.maxDepth value
  | _ => 0

/-- The greatest depth of several nodes. -/
def Node.maxDepth : List Node → Nat
  | [] => 0
  | n :: ns => max n.depth (Node.maxDepth ns)

end

end ChatBot
