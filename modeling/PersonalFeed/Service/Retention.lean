import PersonalFeed.Service.Context

/-!
The retention of marks. Marks that are too old to count are purged in rounds, and a round that fails
does not keep the next one from running.
-/

set_option autoImplicit false

namespace PersonalFeed.Service

variable {C R : Type}

def purgeSeen (now : Timestamp) (retentionDays : Int) : Task C R Nat := do
  let before ← Task.ofBreakdown (retentionStart now retentionDays)
  let purged ← Task.query (.purgeSeen before)
  Task.count (.purged purged)
  return purged

/-- Run rounds one after another, whatever becomes of them, and say how many were begun. A round
that a store leaves without a reply is the last. -/
def runRounds : List (Task C R Nat) → Program C R Nat
  | [] => .done 0
  | round :: rest =>
    round.run >>= fun result =>
      match result with
      | .error .silence => .done 1
      | _ => runRounds rest >>= fun later => .done (later + 1)

end PersonalFeed.Service
