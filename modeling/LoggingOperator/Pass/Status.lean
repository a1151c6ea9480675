/-
  LoggingOperator.Pass.Status — WRITING THE STATUS OF A DECLARATION.

  A pass ends by writing what it found to the status of its declaration.  The
  write carries the version of the declaration that the pass started from; if
  the declaration was written since, the status is left as it is and the pass
  is run again soon.
-/
import LoggingOperator.Pass.Error

namespace LoggingOperator.Pass

/-- Write a status onto a declaration.  The answer says whether the write lost
    a race. -/
def writeStatus (kind : Kind) (declared status : Json) : Pass Bool :=
  .store (.replaceStatus kind (declared.set "status" status)) fun
    | .ok _ => .done false
    | .error e => if e.isConflict then .done true else .fail (.store e)

end LoggingOperator.Pass
