import Mathlib.Data.List.Nodup
import SchemaForge.Proofs.Document.Json.RoundTrip

/-!
# Lists and records read back

A list is read back if its elements are (`readList_map`). A record is read back from an object whose
members fill it one after the other (`Shape.Fills`), if no member comes twice and no required one is
missing (`Shape.read_of_fills`).
-/

namespace SchemaForge.Document

open Json (Value itemNodes memberNodes)

/-- A list is read from the values of its elements. -/
theorem readList_map {α : Type} {read : Reader α} {write : α → Value} {items : List α}
    (h : ∀ a ∈ items, read (write a).toNode = .ok a) :
    readList read (Value.list (items.map write)).toNode = .ok items := by
  rw [Value.toNode, readList]
  induction items with
  | nil => rfl
  | cons a items ih =>
    obtain ⟨ha, hitems⟩ := List.forall_mem_cons.mp h
    rw [List.map_cons, itemNodes, readItems, ha, ih hitems]
    rfl

namespace Shape

variable {α : Type} {shape : Shape α} {record record' record'' : α}
  {members more : List (String × Value)}

/-- The members of an object, read one after the other, turn one record into another. -/
inductive Fills (shape : Shape α) : α → List (String × Value) → α → Prop
  /-- Without members the record stays as it is. -/
  | nil (record : α) : Fills shape record [] record
  /-- The first member fills its slot, and the others come after it. -/
  | cons {record record' record'' : α} {name : String} {v : Value} {slot : Slot α}
      {rest : List (String × Value)}
      (hfind : shape.slots.find? (·.name == name) = some slot)
      (hfill : slot.fill record v.toNode = .ok record') (hrest : Fills shape record' rest record'') :
      Fills shape record ((name, v) :: rest) record''

/-- A single member fills its slot. -/
theorem Fills.single {name : String} {v : Value} {slot : Slot α}
    (hfind : shape.slots.find? (·.name == name) = some slot)
    (hfill : slot.fill record v.toNode = .ok record') : shape.Fills record [(name, v)] record' :=
  .cons hfind hfill (.nil record')

/-- Members are read in several parts. -/
theorem Fills.append (h : shape.Fills record members record')
    (hmore : shape.Fills record' more record'') : shape.Fills record (members ++ more) record'' := by
  induction h with
  | nil => exact hmore
  | cons hfind hfill _ ih => exact .cons hfind hfill (ih hmore)

/-- Members that fill a record are read, and each is marked as filled. -/
theorem Fills.readMembers (h : shape.Fills record members record') (filled : List String)
    (hnodup : (members.map Prod.fst ++ filled).Nodup) :
    Document.readMembers shape.addMember (record, filled) (memberNodes members) =
      .ok (record', (members.map Prod.fst).reverse ++ filled) := by
  induction h generalizing filled with
  | nil => rfl
  | @cons record record' record'' name v slot rest hfind hfill hrest ih =>
    have hfresh : name ∉ filled := by
      rw [List.map_cons, List.cons_append, List.nodup_cons] at hnodup
      exact fun hmem => hnodup.1 (List.mem_append_right _ hmem)
    have hmore := ih (name :: filled) (List.nodup_middle.mpr hnodup)
    rw [memberNodes, Document.readMembers]
    simp only [addMember, hfind, if_neg hfresh, hfill]
    refine hmore.trans ?_
    rw [List.map_cons, List.reverse_cons, List.append_assoc, List.singleton_append]

/-- A record is read from an object with the members that fill it. -/
theorem read_of_fills (surplus : Bool) (h : shape.Fills shape.blank members record)
    (hnodup : (members.map Prod.fst).Nodup)
    (hrequired : (shape.slots.filter (·.required)).map (·.name) ⊆ members.map Prod.fst) :
    shape.read surplus (Value.object members).toNode = .ok record := by
  have hmembers := h.readMembers [] (by rwa [List.append_nil])
  have hcomplete : shape.slots.find? (fun slot => slot.required &&
      !((members.map Prod.fst).reverse ++ []).contains slot.name) = none := by
    rw [List.find?_eq_none]
    intro slot hslot
    by_cases hneeded : slot.required = true
    · have hname : slot.name ∈ members.map Prod.fst := hrequired
        (List.mem_map_of_mem (List.mem_filter.mpr ⟨hslot, hneeded⟩))
      simpa [hneeded] using hname
    · simp [hneeded]
  simp only [Value.toNode, read, readNamed, hmembers, bind, Except.bind, hcomplete]
  rfl

end Shape

end SchemaForge.Document
