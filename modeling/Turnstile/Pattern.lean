import Turnstile.Pattern.Parser
import Turnstile.Pattern.Search
import Turnstile.Rule

/-!
# Patterns

One compiler of patterns, which pipelines are run with. Rules and settings take any compiler.
-/

namespace Turnstile

/-- The matcher of a pattern that is read and searched for by the modules on patterns. -/
def Matcher.ofPattern? : PatternCompiler := fun source =>
  (Pattern.Expr.ofPattern? source).map fun e => ⟨source, (Pattern.Program.ofExpr e).find?⟩

end Turnstile
