import SavedFilter.Term

/-! # Tokens and their normal form

A filter is read as a sequence of tokens. Users may leave connectives out between conditions, or
leave places empty where a condition belongs; the normal form writes both down. Between two
operands in a row it puts a conjunction, and into each empty place a filler that stands for the
condition that always holds. What it puts in has no position. -/
set_option autoImplicit false
namespace SavedFilter

namespace Token

inductive Kind where
  | atom (t : Term)
  | and
  | or
  | opening
  | closing
  | filler
deriving DecidableEq

end Token

/-- An element of a filter, with the position of the term that it comes from. -/
structure Token where
  kind : Token.Kind
  position : Option Nat
deriving DecidableEq

namespace Token

def ofTerm (position : Nat) (t : Term) : Token :=
  let kind :=
    match t.operator with
    | .plain | .not => .atom t
    | .and => .and
    | .or => .or
    | .opening => .opening
    | .closing => .closing
  ⟨kind, some position⟩

def implicit (kind : Kind) : Token := ⟨kind, none⟩

def isImplicit (t : Token) : Bool := t.position.isNone

def endsOperand (t : Token) : Bool :=
  match t.kind with
  | .atom _ | .closing => true
  | _ => false

def startsOperand (t : Token) : Bool :=
  match t.kind with
  | .atom _ | .opening => true
  | _ => false

def expectsOperand (t : Token) : Bool :=
  match t.kind with
  | .opening | .and | .or => true
  | _ => false

def followsOperand (t : Token) : Bool :=
  match t.kind with
  | .closing | .and | .or => true
  | _ => false

def display (t : Token) : String :=
  match t.kind with
  | .atom term => term.display
  | .and => "AND"
  | .or => "OR"
  | .opening => "("
  | .closing => ")"
  | .filler => "TRUE"

/-- What the normal form puts in front of a token, given the token before it. -/
def gap (before : Option Token) (t : Token) : List Token :=
  match before with
  | none => if t.followsOperand then [implicit .filler] else []
  | some p =>
    if p.endsOperand && t.startsOperand then [implicit .and]
    else if p.expectsOperand && t.followsOperand then [implicit .filler]
    else []

def lastGap (before : Option Token) : List Token :=
  match before with
  | none => [implicit .filler]
  | some p => if p.expectsOperand then [implicit .filler] else []

/-- The normal form of tokens that come after a token, or at the start. -/
def normalAfter (before : Option Token) : List Token → List Token
  | [] => lastGap before
  | t :: rest => gap before t ++ t :: normalAfter (some t) rest

def normal (ts : List Token) : List Token := normalAfter none ts

def ofTerms (terms : List Term) : List Token :=
  terms.zipIdx.map fun (t, position) => ofTerm position t

def normalOfTerms (terms : List Term) : List Token := normal (ofTerms terms)

end Token
end SavedFilter
