import SavedFilter.Command.Arguments
import SavedFilter.Command.Failure
import SavedFilter.Command.Report
import SavedFilter.Compile.Symbolic
import SavedFilter.Condition.Match
import SavedFilter.Stored.Filter
import SavedFilter.Stored.Registry

/-! # Running commands

A command reads files, prints a text, and may fail before or after it has printed. Files are
reached through two operations that the caller supplies, so nothing here depends on where they
are. -/
set_option autoImplicit false
namespace SavedFilter

structure Files (m : Type → Type) where
  read : String → m (Except FileFault String)
  write : String → String → m (Except FileFault Unit)

structure Outcome where
  printed : String
  failure : Option Failure := none
deriving DecidableEq

def Outcome.exitCode (o : Outcome) : Nat := if o.failure.isSome then 1 else 0

def Outcome.complaint (o : Outcome) : String :=
  match o.failure with
  | some failure => failure.line
  | none => ""

namespace Invocation

variable {m : Type → Type} [Monad m]

def load (files : Files m) (path : String) : ExceptT Failure m String := do
  match ← files.read path with
  | .ok s => return s
  | .error fault => throw (.file fault)

def loadFilter (files : Files m) (path : String) : ExceptT Failure m Filter := do
  match Filter.ofText? (← load files path) with
  | some f => return f
  | none => throw .badJson

def loadRegistry (files : Files m) (path : Option String) : ExceptT Failure m Registry := do
  match path with
  | none => throw .noRegistry
  | some path =>
    match Registry.ofText (← load files path) with
    | .ok r => return r
    | .error cause => throw (.plan cause)

def loadRecords (files : Files m) (path : String) : ExceptT Failure m (List Json) := do
  match Json.ofText? (← load files path) with
  | none => throw .badJson
  | some (.array records) => return records
  | some other => throw (.badRecords (Report.kindOf other))

def planned (r : Registry) (f : Filter) : Except Failure Plan :=
  (Plan.build r f).mapError .plan

def symbolic (f : Filter) (json : Bool) : Except Failure String := do
  let grouping ← f.grouping.mapError .compile
  let c ← (f.condition none).mapError .compile
  return if json then Report.jsonLines (Report.groupingJson grouping c)
    else grouping ++ "\n" ++ c.display ++ "\n"

/-- What is wrong with a filter as a whole: its parentheses, or else, for a filter without
issues and with a registry at hand, its plan. -/
def structural (f : Filter) (r : Option Registry) : Option String :=
  match Balance.check f.orderedTerms with
  | .error cause => some cause.message
  | .ok () =>
    match r with
    | none => none
    | some r =>
      match Plan.build r f with
      | .ok _ => none
      | .error cause => some cause.message

/-- A filter for which the check goes on to its plan. -/
def isSound (f : Filter) : Bool :=
  f.issues.isEmpty &&
    match Balance.check f.orderedTerms with
    | .ok () => true
    | .error _ => false

def checked (f : Filter) (r : Option Registry) (json : Bool) : Outcome :=
  let whole := structural f r
  let printed :=
    if json then Report.jsonLines (Report.issuesJson f.issues whole)
    else Report.issueLines f.issues whole
  let problems := f.issues.length + if whole.isSome then 1 else 0
  { printed, failure := if 0 < problems then some (.badFilter problems) else none }

/-- The condition of a filter: for the fields of its model with a registry, and for any fields
without one. -/
def conditionOf (files : Files m) (registry : Option String) (f : Filter) :
    ExceptT Failure m Condition := do
  match registry with
  | none => ExceptT.mk (pure ((f.condition none).mapError .compile))
  | some _ =>
    let r ← loadRegistry files registry
    let plan ← ExceptT.mk (pure (planned r f))
    return plan.condition

def attempt (files : Files m) (i : Invocation) : ExceptT Failure m Outcome := do
  match i.command with
  | .compile filter dialect isSymbolic json =>
    let f ← loadFilter files filter
    if isSymbolic then
      return { printed := ← ExceptT.mk (pure (symbolic f json)) }
    else
      let r ← loadRegistry files i.registry
      let plan ← ExceptT.mk (pure (planned r f))
      return { printed :=
        if json then Report.jsonLines (Report.planJson plan dialect)
        else Report.planLines plan dialect }
  | .check filter json =>
    let f ← loadFilter files filter
    if isSound f && i.registry.isSome then
      return checked f (some (← loadRegistry files i.registry)) json
    else
      return checked f none json
  | .apply filter records output =>
    let f ← loadFilter files filter
    let rs ← loadRecords files records
    let c ← conditionOf files i.registry f
    let matched := Json.array (c.select rs)
    match output with
    | none => return { printed := Report.jsonLines matched }
    | some path =>
      match ← files.write path matched.pretty with
      | .ok () => return { printed := "" }
      | .error fault => throw (.file fault)
  | .fields model =>
    let r ← loadRegistry files i.registry
    let s ← ExceptT.mk (pure ((r.resolve model).mapError Failure.plan))
    return { printed := Report.choiceLines s.choices }
  | .models =>
    let r ← loadRegistry files i.registry
    return { printed := Report.modelLines r.choices }

/-- Runs a command that was understood; a failure before anything is printed prints nothing. -/
def run (files : Files m) (i : Invocation) : m Outcome := do
  match ← (attempt files i).run with
  | .ok outcome => return outcome
  | .error failure => return { printed := "", failure := some failure }

end Invocation

def Request.answer {m : Type → Type} [Monad m] (files : Files m) : Request → m Outcome
  | .version => return { printed := Report.versionLine }
  | .run i => i.run files

end SavedFilter
