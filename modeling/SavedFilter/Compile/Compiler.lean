import SavedFilter.Compile.Program
import SavedFilter.Filter

/-! # Compiling filters

Deleted terms are left out first, so positions count the terms that take part. Then the
parentheses are checked, before any term is looked at, and the normal form of the terms is run. -/
set_option autoImplicit false
namespace SavedFilter.Builder

variable {m : Type → Type} [Monad m] {π : Type}

/-- The predicate of terms that all take part. -/
def liveTerms (b : Builder m π) (live : List Term) : ExceptT CompileError m π :=
  match Balance.check live with
  | .error cause => throw (.structural cause)
  | .ok () => b.tokens (Token.normalOfTerms live)

def terms (b : Builder m π) (ts : List Term) : ExceptT CompileError m π :=
  b.liveTerms (ts.filter Term.isLive)

def filter (b : Builder m π) (f : Filter) : ExceptT CompileError m π :=
  b.liveTerms f.liveTerms

end SavedFilter.Builder
