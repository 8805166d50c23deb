import PagedJoins.Proofs.Compile.Blank
import PagedJoins.Proofs.Compile.Shape
import PagedJoins.Proofs.Sql.Batch

/-!
# Batches that are compiled

A batched relation is compiled for some keys, and these keys are what its statement holds. They are
the rows of its first table; where a page cannot see that table, they are also the list that the
page is restricted by. Both are read back with what the database knows of its own syntax.
-/

namespace PagedJoins

variable {κ : Type}

section Pages

variable {relation : Relation} {node : Node κ} {junction : Junction κ} {paging : Paging}
variable {kind : JoinKind} {tie : Tie} {filter : Option String} {answers : JunctionAnswers}
variable {fragment : Fragment} {select : PagedSelect}

end Pages

namespace Site

variable {site : Site κ} {keys : BatchKeys} {scope : List Value}

end Site

end PagedJoins
