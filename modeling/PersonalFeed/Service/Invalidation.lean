import PersonalFeed.Service.Cached

/-!
The handling of events: what an event makes stale is dropped from the cache.
-/

set_option autoImplicit false

namespace PersonalFeed.Service

variable {C R : Type}

def applyDeletion (service : Service R) : Deletion → Task C R Unit
  | .keys keys => drop (keys.map service.key)
  | .pages identity => do let _ ← service.dropPages identity
  | .similar requester => do let _ ← service.dropSimilar requester

def handleEvent (service : Service R) (event : Event) : Task C R Unit := do
  event.deletions.forM service.applyDeletion
  Task.count (.event event.kind)

def handleMessage (service : Service R) (message : Json R) : Task C R Bool := do
  match Event.read message with
  | .valid event =>
    service.handleEvent event
    return true
  | .invalid _ => return false

/-- Handle messages as they come. One that was dropped on its way is passed over, and one whose
handling stops ends the loop. -/
def handleAll (service : Service R) : List (Json R) → Task C R Unit
  | [] => return ()
  | .null :: rest => service.handleAll rest
  | message :: rest => do
    let _ ← service.handleMessage message
    service.handleAll rest

/-- Handle a raw message: nothing is decoded from one that is dropped. -/
def handleBytes [Numeral R] (service : Service R) (message : ByteArray) :
    Task C R (Option (Json R × Bool)) := do
  match ← Task.ofBreakdown (decodeMessage message) with
  | none => return none
  | some .null => return none
  | some value => return some (value, ← service.handleMessage value)

end PersonalFeed.Service
