/-!
Nested rows of values and their shape. A tensor has a shape when all entries of each row agree on
theirs; the shape of a matrix is its row count and its row length.
-/

set_option autoImplicit false

namespace PersonalFeed

inductive Tensor (α : Type) where
  | scalar (value : α)
  | row (entries : List (Tensor α))
  deriving Inhabited

namespace Tensor

variable {α β ε : Type}

mutual

/-- The lengths along each axis, `none` when rows of different shapes meet. -/
def shape? : Tensor α → Option (List Nat)
  | .scalar _ => some []
  | .row entries => rowShape? entries

def rowShape? : List (Tensor α) → Option (List Nat)
  | [] => some [0]
  | [entry] => (shape? entry).map (1 :: ·)
  | entry :: rest =>
    match shape? entry, rowShape? rest with
    | some inner, some (count :: others) =>
      if inner = others then some ((count + 1) :: inner) else none
    | _, _ => none

end

mutual

def values : Tensor α → List α
  | .scalar x => [x]
  | .row entries => rowValues entries

def rowValues : List (Tensor α) → List α
  | [] => []
  | entry :: rest => values entry ++ rowValues rest

end

mutual

def map (f : α → β) : Tensor α → Tensor β
  | .scalar x => .scalar (f x)
  | .row entries => .row (mapRow f entries)

def mapRow (f : α → β) : List (Tensor α) → List (Tensor β)
  | [] => []
  | entry :: rest => map f entry :: mapRow f rest

end

mutual

def convert (f : α → Except ε β) : Tensor α → Except ε (Tensor β)
  | .scalar x => (f x).map .scalar
  | .row entries => (convertRow f entries).map .row

def convertRow (f : α → Except ε β) : List (Tensor α) → Except ε (List (Tensor β))
  | [] => .ok []
  | entry :: rest => do
    let first ← convert f entry
    let others ← convertRow f rest
    return first :: others

end

def ofList (xs : List α) : Tensor α := .row (xs.map .scalar)

def value? : Tensor α → Option α
  | .scalar x => some x
  | .row _ => none

def flatRow? : Tensor α → Option (List α)
  | .scalar _ => none
  | .row entries => entries.mapM value?

def rows : Tensor α → List (Tensor α)
  | .scalar _ => []
  | .row entries => entries

end Tensor

end PersonalFeed
