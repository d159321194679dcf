import SavedFilter.Command.Run

/-! # The command line

Reads the arguments, the environment and the files, and prints what a command prints. -/
set_option autoImplicit false
namespace SavedFilter

/-- The code of an error of the system, which may be held below zero modulo 2^32. -/
def codeOf (c : UInt32) : Nat := if c < 0x80000000 then c.toNat else (0 - c).toNat

def faultOf : IO.Error → FileFault
  | .noFileOrDirectory .. => .notFound
  | .inappropriateType _ c _ => if codeOf c = 21 then .isDirectory else .notDirectory
  | .invalidArgument _ c details =>
    if codeOf c = 36 then .nameTooLong else .other (codeOf c) "InvalidInput" details
  | .permissionDenied _ c _ => .other (codeOf c) "PermissionDenied" "Permission denied"
  | e => .other 0 "Other" (toString e)

def systemFiles : Files IO where
  read := fun path => do
    try
      match String.fromUTF8? (← IO.FS.readBinFile path) with
      | some s => return .ok s
      | none => return .error .notText
    catch e => return .error (faultOf e)
  write := fun path s => do
    try
      IO.FS.writeFile path s
      return .ok ()
    catch e => return .error (faultOf e)

end SavedFilter

open SavedFilter

/-- Does what the command line asks for; the exit code is 2 for an error of usage. -/
def main (arguments : List String) : IO UInt32 := do
  match Request.ofArguments? arguments (← IO.getEnv "DYNFILTER_REGISTRY") with
  | none =>
    IO.eprintln "usage: compile | check | apply | fields | models, with their options"
    return 2
  | some request =>
    let outcome ← request.answer systemFiles
    IO.print outcome.printed
    IO.eprint outcome.complaint
    return UInt32.ofNat outcome.exitCode
