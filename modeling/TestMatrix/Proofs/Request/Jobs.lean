import TestMatrix.Proofs.Json.Reading
import TestMatrix.Proofs.Request.Growth

/-!
# Jobs are flat

The values in a job are texts and truth values, whatever the row is that it is made of, and its keys
are in ascending order (`Job.flat_ofRow`). So the document of a run can be read back
(`Request.readable_document`).
-/

namespace TestMatrix

/-- The value is a text or a truth value. -/
def Json.IsLeaf : Json → Prop
  | .text _ => True
  | .bool _ => True
  | _ => False

namespace Job

/-- The fields of the object are in order, and there is nothing inside of their values. -/
structure Flat (o : Json.Object) : Prop where
  sorted : Dictionary.Sorted o
  isLeaf : ∀ field ∈ o, field.2.IsLeaf

variable {o : Json.Object} {key : String} {value : Json} {fields : List (String × Option Json)}

/-- A flat object stays flat with a leaf put into it. -/
theorem Flat.put (h : Flat o) (key : String) (hvalue : value.IsLeaf) : Flat (o.put key value) := by
  refine ⟨h.sorted.put key value, fun field hfield => ?_⟩
  rcases Dictionary.mem_put hfield with rfl | hfield
  · exact hvalue
  · exact h.isLeaf field hfield

/-- It stays flat without one of its keys. -/
theorem Flat.without (h : Flat o) (key : String) : Flat (o.without key) :=
  ⟨h.sorted.without key, fun field hfield => h.isLeaf field (Dictionary.mem_of_mem_without hfield)⟩

/-- The object of a row is flat, for it has nothing but texts. -/
theorem flat_toObject (r : Row) : Flat r.toObject := by
  have hname : Flat (Dictionary.put "name" (.text r.name) []) :=
    Flat.put ⟨Dictionary.sorted_nil, List.forall_mem_nil _⟩ "name" trivial
  refine List.foldlRecOn (motive := Flat) r.cells _ hname ?_
  exact fun o ho cell _ => ho.put cell.axis trivial

/-- Fields that hold leaves keep an object flat. -/
theorem flat_putFields (h : Flat o)
    (hfields : ∀ field ∈ fields, ∀ value, field.2 = some value → value.IsLeaf) :
    Flat (putFields o fields) := by
  refine List.foldlRecOn (motive := Flat) fields _ h fun o ho field hfield => ?_
  split
  · next value hvalue => exact ho.put field.1 (hfields field hfield value hvalue)
  · exact ho

/-- The fields that follow from a row have texts and truth values. -/
theorem isLeaf_of_mem_derivedFields (r : Row) :
    ∀ field ∈ derivedFields r, ∀ value, field.2 = some value → value.IsLeaf := by
  intro field hfield value hvalue
  simp only [derivedFields, List.mem_cons, List.not_mem_nil, or_false] at hfield
  rcases hfield with rfl | rfl | rfl | rfl | rfl | rfl | rfl
  · obtain ⟨vendor, -, rfl⟩ := Option.map_eq_some_iff.mp hvalue
    trivial
  · obtain ⟨-, hsome⟩ := Option.ite_none_right_eq_some.mp hvalue
    exact Option.some.inj hsome ▸ trivial
  · exact Option.some.inj hvalue ▸ trivial
  · exact Option.some.inj hvalue ▸ trivial
  · exact Option.some.inj hvalue ▸ trivial
  · obtain ⟨-, hsome⟩ := Option.ite_none_right_eq_some.mp hvalue
    exact Option.some.inj hsome ▸ trivial
  · exact Option.some.inj hvalue ▸ trivial

/-- A job is flat, whether or not it is one under stress. -/
theorem flat_ofRowWith (r : Row) (stress : Bool) : Flat (ofRowWith r stress) := by
  refine (flat_putFields (flat_toObject r) ?_).without "hash"
  rw [List.forall_mem_append]
  refine ⟨isLeaf_of_mem_derivedFields r, ?_⟩
  rw [List.forall_mem_cons, List.forall_mem_singleton]
  exact ⟨fun value hvalue => Option.some.inj hvalue ▸ trivial,
    fun value hvalue => Option.some.inj hvalue ▸ trivial⟩

/-- So it is whatever is drawn for it. -/
theorem flat_ofRow (r : Row) (stream : RandomStream) : Flat (ofRow r stream).1 := by
  obtain ⟨stress, hstress⟩ := exists_ofRow_eq r stream
  rw [hstress]
  exact flat_ofRowWith r stress

/-- All jobs of a matrix are flat. -/
theorem flat_of_mem_ofRows (rows : List Row) (stream : RandomStream) :
    ∀ job ∈ (ofRows rows stream).1, Flat job := by
  induction rows generalizing stream with
  | nil => simp [ofRows]
  | cons r rows ih =>
    rw [ofRows_cons, List.forall_mem_cons]
    exact ⟨flat_ofRow r stream, ih _⟩

/-- A flat object can be read back wherever one bracket is allowed. -/
theorem Flat.readable (h : Flat o) (k : Nat) : (Json.object o).Readable (k + 1) := by
  rw [Json.Readable, Json.readableMembers_iff]
  refine ⟨h.sorted, fun field hfield => ?_⟩
  have hleaf := h.isLeaf field hfield
  cases hvalue : field.2 with
  | text s => cases k <;> trivial
  | bool b => cases k <;> trivial
  | _ => rw [hvalue] at hleaf; exact hleaf.elim

end Job

/-- The document of a run can be read back. -/
theorem Request.readable_document {r : Request} {report : Report} (h : r.generate = .ok report) :
    report.document.Readable := by
  obtain ⟨-, count, rows, stream, -, -, rfl⟩ := generate_eq_ok_iff.mp h
  exact fun job hjob => (Job.flat_of_mem_ofRows _ _ job hjob).readable _

end TestMatrix
