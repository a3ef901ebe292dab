import TreeShell.Proofs.Quoting
import TreeShell.Shell

/-!
# Pipelines put together

A pipeline of two parts runs the first part, and if that succeeds the second one where the first
one has left the session, with the text that the first one answers. On a line the parts are put
together by a `|`, which can neither make nor break a redirection.
-/

namespace TreeShell

namespace Line

/-! ### Running -/

end Line

namespace Shell

end Shell

end TreeShell
