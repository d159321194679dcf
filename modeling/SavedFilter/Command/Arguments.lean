import SavedFilter.Sql.Dialect

/-! # Command lines

The five commands with their options. An option that takes a value has it in the next argument,
which must not look like an option, or behind an equals sign. No option may be given twice. The
registry may be named before or after the command; the later one counts, and the environment
supplies it when neither is given. A question for the version stands in place of the command, and
nothing behind it is read. Anything else is an error of usage. -/
set_option autoImplicit false
namespace SavedFilter

inductive Command where
  | compile (filter : String) (dialect : Dialect) (symbolic json : Bool)
  | check (filter : String) (json : Bool)
  | apply (filter records : String) (output : Option String)
  | fields (model : String)
  | models
deriving DecidableEq

structure Invocation where
  registry : Option String
  command : Command
deriving DecidableEq

inductive Request where
  | version
  | run (invocation : Invocation)
deriving DecidableEq

namespace Request

/-- What an argument is: the mark after which no options come, an option with a long name, perhaps
with a value behind an equals sign, an option of one letter, or a word. -/
inductive Argument where
  | mark
  | long (name : String) (attached : Option String)
  | short (letter : Char)
  | word
deriving DecidableEq

/-- The kind of an argument. A lone hyphen is a word. -/
def kindOf (argument : String) : Argument :=
  match argument.toList with
  | ['-', '-'] => .mark
  | '-' :: '-' :: cs =>
    let name := String.ofList (cs.takeWhile (· != '='))
    match cs.dropWhile (· != '=') with
    | [] => .long name none
    | _ :: value => .long name (some (String.ofList value))
  | '-' :: c :: _ => .short c
  | _ => .word

/-- The options that ask for the version. Letters behind the one letter are not looked at. -/
def versionOptions : List Argument := [.long "version" none, .short 'V']

/-- The names of the options with a value and of those without, and what ends the options. -/
structure Options where
  valued : List String
  bare : List String := []
  stops : List Argument := [.word]

structure Given where
  valued : List (String × String) := []
  bare : List String := []

namespace Given

def value? (g : Given) (name : String) : Option String := g.valued.lookup name

def has (g : Given) (name : String) : Bool := g.bare.contains name

def addValue? (g : Given) (name value : String) : Option Given :=
  if (g.value? name).isSome then none else some { g with valued := (name, value) :: g.valued }

def addBare? (g : Given) (name : String) : Option Given :=
  if g.has name then none else some { g with bare := name :: g.bare }

end Given

/-- Reads options up to the argument that ends them; gives them and the arguments from there on. -/
def readOptions? (options : Options) (given : Given) :
    List String → Option (Given × List String)
  | [] => some (given, [])
  | argument :: rest =>
    if options.stops.contains (kindOf argument) then some (given, argument :: rest)
    else
      match kindOf argument with
      | .mark => if rest.isEmpty then some (given, []) else none
      | .long name (some value) =>
        if options.valued.contains name then
          (given.addValue? name value).bind fun given => readOptions? options given rest
        else none
      | .long name none =>
        if options.bare.contains name then
          (given.addBare? name).bind fun given => readOptions? options given rest
        else
          match rest with
          | [] => none
          | value :: rest =>
            if options.valued.contains name && kindOf value = .word then
              (given.addValue? name value).bind fun given => readOptions? options given rest
            else none
      | .short _ | .word => none

def outerOptions : Options := { valued := ["registry"], stops := .word :: versionOptions }

def optionsOf? : String → Option Options
  | "compile" => some { valued := ["registry", "filter", "dialect"], bare := ["symbolic", "json"] }
  | "check" => some { valued := ["registry", "filter"], bare := ["json"] }
  | "apply" => some { valued := ["registry", "filter", "records", "output"] }
  | "fields" => some { valued := ["registry", "model"] }
  | "models" => some { valued := ["registry"] }
  | _ => none

def command? (name : String) (g : Given) : Option Command :=
  match name with
  | "compile" => do
    let filter ← g.value? "filter"
    let dialect ← Dialect.ofCode? ((g.value? "dialect").getD "postgres")
    return .compile filter dialect (g.has "symbolic") (g.has "json")
  | "check" => do
    let filter ← g.value? "filter"
    return .check filter (g.has "json")
  | "apply" => do
    let filter ← g.value? "filter"
    let records ← g.value? "records"
    return .apply filter records (g.value? "output")
  | "fields" => do
    let model ← g.value? "model"
    return .fields model
  | "models" => some .models
  | _ => none

/-- Reads a command line, given the registry that the environment names. -/
def ofArguments? (arguments : List String) (environment : Option String) : Option Request := do
  let (outer, rest) ← readOptions? outerOptions {} arguments
  match rest with
  | [] => none
  | first :: rest =>
    if versionOptions.contains (kindOf first) then return .version
    let options ← optionsOf? first
    let (given, left) ← readOptions? options {} rest
    if left.isEmpty then
      let command ← command? first given
      let registry := (given.value? "registry").or ((outer.value? "registry").or environment)
      return .run ⟨registry, command⟩
    else none

end Request
end SavedFilter
