import SavedFilter.Compile.Builder
import SavedFilter.Token

/-! # Stack programs

A token sequence is put into reverse Polish order: a program of steps for a stack of predicates.
Operators wait until one that binds less tightly, or no tighter, arrives, or until their group is
closed. The filler binds tightest, then conjunction, then disjunction. A parenthesis that does
not match becomes a step that fails, in its place. -/
set_option autoImplicit false
namespace SavedFilter

/-- An operator of a program: the filler takes no operand, a connective takes two. -/
inductive Operation where
  | always
  | join (c : Connective)
deriving DecidableEq

inductive Step where
  | operand (position : Nat) (t : Term)
  | apply (o : Operation)
  | fail (cause : StructureError)
deriving DecidableEq

/-- What waits for its place: an operator, or the parenthesis that opened a group. -/
inductive Waiting where
  | group
  | operation (o : Operation)
deriving DecidableEq

def Operation.rank : Operation → Nat
  | always => 3
  | join .and => 2
  | join .or => 1

namespace Program

/-- Releases the operators of the innermost group that bind at least as tightly as `rank`. -/
def release (rank : Nat) : List Waiting → List Step × List Waiting
  | .operation o :: ws =>
    if rank ≤ o.rank then
      let (steps, left) := release rank ws
      (.apply o :: steps, left)
    else ([], .operation o :: ws)
  | ws => ([], ws)

def releaseGroup : List Waiting → List Step × Option (List Waiting)
  | [] => ([], none)
  | .group :: ws => ([], some ws)
  | .operation o :: ws =>
    let (steps, left) := releaseGroup ws
    (.apply o :: steps, left)

def openGroups (ws : List Waiting) : Nat := ws.countP (· == .group)

def finish (ws : List Waiting) : List Step :=
  if openGroups ws = 0 then (release 0 ws).1 else [.fail (.unclosedOpening (openGroups ws))]

/-- The program of the tokens from an index on, with the given operators waiting. -/
def ofTokensFrom (index : Nat) (ws : List Waiting) : List Token → List Step
  | [] => finish ws
  | t :: rest =>
    let position := t.position.getD index
    let push := fun o : Operation =>
      let (steps, left) := release o.rank ws
      steps ++ ofTokensFrom (index + 1) (.operation o :: left) rest
    match t.kind with
    | .atom term => .operand position term :: ofTokensFrom (index + 1) ws rest
    | .opening => ofTokensFrom (index + 1) (.group :: ws) rest
    | .closing =>
      match releaseGroup ws with
      | (steps, some left) => steps ++ ofTokensFrom (index + 1) left rest
      | (steps, none) => steps ++ [.fail (.unmatchedClosing position)]
    | .and => push (.join .and)
    | .or => push (.join .or)
    | .filler => push .always

def ofTokens (ts : List Token) : List Step := ofTokensFrom 0 [] ts

end Program

namespace Builder

variable {m : Type → Type} [Monad m] {π : Type}

def step (b : Builder m π) (stack : List π) : Step → ExceptT CompileError m (List π)
  | .operand position t => do
    let p ← (b.term t).adapt (CompileError.term position)
    return p :: stack
  | .apply .always => do
    let p ← b.always
    return p :: stack
  | .apply (.join c) =>
    match stack with
    | right :: left :: rest => do
      let p ← b.join c left right
      return p :: rest
    | _ => throw (.stack (.missingOperand c))
  | .fail cause => throw (.structural cause)

def result (stack : List π) : ExceptT CompileError m π :=
  match stack with
  | [] => throw (.stack .empty)
  | [p] => return p
  | _ => throw (.stack (.surplus stack.length))

def run (b : Builder m π) (program : List Step) : ExceptT CompileError m π := do
  let stack ← program.foldlM b.step []
  result stack

def tokens (b : Builder m π) (ts : List Token) : ExceptT CompileError m π :=
  b.run (Program.ofTokens ts)

end Builder
end SavedFilter
