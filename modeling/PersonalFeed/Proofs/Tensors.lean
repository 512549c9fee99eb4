import PersonalFeed.Json.Numeric
import PersonalFeed.Proofs.Results

/-!
Conversion of nested rows. It fails only where a value does, and it keeps the shape: what comes out
flat was flat before.
-/

set_option autoImplicit false

namespace PersonalFeed

namespace Tensor

variable {α β γ ε : Type} {f : α → Except ε β}

mutual

theorem map_convert (f : α → Except ε β) (g : β → γ) (t : Tensor α) :
    (t.convert f).map (map g) = t.convert fun x => (f x).map g := by
  cases t with
  | scalar x =>
    rw [convert, convert]
    cases f x <;> rfl
  | row entries =>
    rw [convert, convert, ← mapRow_convertRow f g entries]
    cases convertRow f entries <;> rfl

theorem mapRow_convertRow (f : α → Except ε β) (g : β → γ) (entries : List (Tensor α)) :
    (convertRow f entries).map (mapRow g) = convertRow (fun x => (f x).map g) entries := by
  cases entries with
  | nil => rfl
  | cons entry rest =>
    rw [convertRow, convertRow, ← map_convert f g entry, ← mapRow_convertRow f g rest]
    cases entry.convert f with
    | error cause => rfl
    | ok first => cases convertRow f rest <;> rfl

end

mutual

theorem convert_isOk (t : Tensor α) (each : ∀ x ∈ t.values, ∃ y, f x = .ok y) :
    ∃ u, t.convert f = .ok u := by
  cases t with
  | scalar x =>
    obtain ⟨y, read⟩ := each x List.mem_cons_self
    exact ⟨.scalar y, by rw [convert, read]; rfl⟩
  | row entries =>
    obtain ⟨converted, read⟩ := convertRow_isOk entries each
    exact ⟨.row converted, by rw [convert, read]; rfl⟩

theorem convertRow_isOk (entries : List (Tensor α))
    (each : ∀ x ∈ rowValues entries, ∃ y, f x = .ok y) :
    ∃ converted, convertRow f entries = .ok converted := by
  cases entries with
  | nil => exact ⟨[], rfl⟩
  | cons entry rest =>
    obtain ⟨first, read⟩ := convert_isOk entry fun x member =>
      each x (List.mem_append_left _ member)
    obtain ⟨later, others⟩ := convertRow_isOk rest fun x member =>
      each x (List.mem_append_right _ member)
    exact ⟨first :: later, by rw [convertRow, read, others]; rfl⟩

end

theorem rowShape?_cons (first second : Tensor α) (rest : List (Tensor α)) :
    rowShape? (first :: second :: rest) =
      match first.shape?, rowShape? (second :: rest) with
      | some inner, some (count :: others) =>
        if inner = others then some ((count + 1) :: inner) else none
      | _, _ => none := rfl

mutual

theorem shape?_convert {t : Tensor α} {u : Tensor β} (made : t.convert f = .ok u) :
    u.shape? = t.shape? := by
  cases t with
  | scalar x =>
    obtain ⟨y, -, rfl⟩ := ok_of_map made
    rfl
  | row entries =>
    obtain ⟨converted, read, rfl⟩ := ok_of_map made
    exact rowShape?_convertRow read

theorem rowShape?_convertRow {entries : List (Tensor α)} {converted : List (Tensor β)}
    (made : convertRow f entries = .ok converted) : rowShape? converted = rowShape? entries := by
  cases entries with
  | nil =>
    cases made
    rfl
  | cons entry rest =>
    obtain ⟨first, read, made⟩ := ok_of_bind made
    obtain ⟨later, others, made⟩ := ok_of_bind made
    cases made
    have same := shape?_convert read
    have tail := rowShape?_convertRow others
    cases rest with
    | nil =>
      cases others
      rw [rowShape?, rowShape?, same]
    | cons second rest =>
      obtain ⟨_, _, more⟩ := ok_of_bind others
      obtain ⟨_, _, more⟩ := ok_of_bind more
      cases more
      rw [rowShape?_cons, rowShape?_cons, same, tail]

end

theorem flatRow?_convert {t : Tensor α} {u : Tensor β} (made : t.convert f = .ok u)
    {ys : List β} (flat : u.flatRow? = some ys) :
    ∃ xs, t.flatRow? = some xs ∧ List.Forall₂ (fun x y => f x = .ok y) xs ys := by
  cases t with
  | scalar x =>
    obtain ⟨y, -, rfl⟩ := ok_of_map made
    cases flat
  | row entries =>
    obtain ⟨converted, read, rfl⟩ := ok_of_map made
    rw [flatRow?] at flat ⊢
    clear made
    -- The induction is on the entries, with what they became and what was flat in it.
    induction entries generalizing converted ys with
    | nil =>
      cases read
      cases flat
      exact ⟨[], rfl, .nil⟩
    | cons entry rest ih =>
      obtain ⟨first, one, read⟩ := ok_of_bind read
      obtain ⟨later, others, read⟩ := ok_of_bind read
      cases read
      rw [List.mapM_cons] at flat ⊢
      obtain ⟨y, value, flat⟩ := Option.bind_eq_some_iff.1 flat
      obtain ⟨rest', values, flat⟩ := Option.bind_eq_some_iff.1 flat
      cases flat
      obtain ⟨xs, before, each⟩ := ih later others values
      cases entry with
      | row inner =>
        obtain ⟨_, _, rfl⟩ := ok_of_map one
        cases value
      | scalar x =>
        obtain ⟨y', here, rfl⟩ := ok_of_map one
        cases value
        exact ⟨x :: xs, by rw [before]; rfl, .cons here each⟩

end Tensor

theorem Json.eq_of_flat_nesting {R : Type} {items values : List (Json R)}
    (flat : (Json.array items).nesting.flatRow? = some values) : values = items := by
  rw [nesting, Tensor.flatRow?] at flat
  induction items generalizing values with
  | nil =>
    cases flat
    rfl
  | cons item rest ih =>
    rw [nestingRow, List.mapM_cons] at flat
    obtain ⟨first, single, flat⟩ := Option.bind_eq_some_iff.1 flat
    obtain ⟨later, others, flat⟩ := Option.bind_eq_some_iff.1 flat
    cases flat
    rw [ih others]
    cases item with
    | array inner => cases single
    | null | bool | int | real | string | object =>
      cases single
      rfl

end PersonalFeed
