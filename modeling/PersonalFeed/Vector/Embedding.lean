import PersonalFeed.Fault
import PersonalFeed.Vector.Tensor

/-!
Embeddings: vectors of the one width that every post and every interest has. The width is part of
the type, so only reading a vector can fail.
-/

set_option autoImplicit false

namespace PersonalFeed

/-- A vector of `vectorWidth` components. -/
structure Embedding (C : Type) where
  components : Array C
  size_eq : components.size = vectorWidth

namespace Embedding

variable {C R : Type}

def ofArray? (components : Array C) : Option (Embedding C) :=
  if h : components.size = vectorWidth then some ⟨components, h⟩ else none

def replicate (x : C) : Embedding C := ⟨Array.replicate vectorWidth x, by simp⟩

def map (f : C → C) (v : Embedding C) : Embedding C :=
  ⟨v.components.map f, by simp [v.size_eq]⟩

def zipWith (f : C → C → C) (v w : Embedding C) : Embedding C :=
  ⟨Array.zipWith f v.components w.components, by simp [v.size_eq, w.size_eq]⟩

def toList (v : Embedding C) : List C := v.components.toList

def toTensor (v : Embedding C) : Tensor C := .ofList v.toList

@[simp] theorem length_toList (v : Embedding C) : v.toList.length = vectorWidth := by
  simp [toList, v.size_eq]

/-- Read a flat row of the right width; any other shape is a mismatch. -/
def ofTensor (t : Tensor C) : Except (Fault R) (Embedding C) :=
  match t.flatRow?.bind (ofArray? ·.toArray) with
  | some v => .ok v
  | none =>
    match t.shape? with
    | some shape => .error (.dimension shape)
    | none => .error (.broken .ragged)

/-- Read a matrix of embeddings, one a row. Rows without any value count as no rows. -/
def rowsOfTensor (t : Tensor C) : Except (Fault R) (List (Embedding C)) :=
  match t.shape? with
  | none => .error (.broken .ragged)
  | some shape =>
    if shape.contains 0 then .ok []
    else
      match t.rows.mapM fun row => row.flatRow?.bind (ofArray? ·.toArray) with
      | some rows => if rows.isEmpty then .error (.dimension shape) else .ok rows
      | none => .error (.dimension shape)

def narrow [Component C R] (t : Tensor R) : Tensor C := t.map Component.narrow

end Embedding

end PersonalFeed
