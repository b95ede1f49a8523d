import SchemaPhrase.Constraint
import SchemaPhrase.Proofs.Json.Normal

/-!
# Constraints written and read back

References and keys are read from any mapping that has their fields
(`Reference.ofJson?_of_get?`, `PrimaryKey.ofJson?_of_get?`, `ForeignKey.ofJson?_of_get?`), so in
the order of the declaration and with the keys in order. A primary key over columns always has a
name (`PrimaryKey.name_of_ofJson?`); one over no columns comes back with the name that was given,
or none.
-/

set_option autoImplicit false

namespace SchemaPhrase

theorem mapM_map_eq_some {α β : Type} {write : α → β} {read? : β → Option α} {values : List α}
    (h : ∀ value ∈ values, read? (write value) = some value) :
    (values.map write).mapM read? = some values := by
  induction values with
  | nil => rfl
  | cons value values ih =>
    obtain ⟨hvalue, hvalues⟩ := List.forall_mem_cons.1 h
    rw [List.map_cons, List.mapM_cons, hvalue, ih hvalues]
    rfl

theorem Json.strings?_ofStrings (texts : List String) : (ofStrings texts).strings? = some texts :=
  mapM_map_eq_some fun _ _ => rfl

theorem Json.optionalString?_ofOption (text : Option String) :
    Json.optionalString? (.ofOption .string text) = some text := by
  cases text <;> rfl

theorem Reference.ofJson?_of_get? {fields : Mapping} {reference : Reference}
    (ht : fields.get? "table" = some (.string reference.table))
    (hc : fields.get? "column" = some (.string reference.column)) :
    ofJson? (.object fields) = some reference := by
  simp only [ofJson?, ht, hc]

theorem Reference.optionalOfJson?_of_get? {fields : Mapping} {reference : Reference}
    (ht : fields.get? "table" = some (.string reference.table))
    (hc : fields.get? "column" = some (.string reference.column)) :
    optionalOfJson? (.object fields) = some (some reference) := by
  cases fields with
  | nil => cases ht
  | cons field fields =>
    show (ofJson? (.object (field :: fields))).map some = _
    rw [ofJson?_of_get? ht hc, Option.map_some]

theorem Reference.optionalOfJson?_document (reference : Option Reference) :
    optionalOfJson? (optionalDocument reference) = some reference := by
  cases reference <;> rfl

namespace PrimaryKey

theorem name_withName {name : Option String} {columns : List String} (h : columns ≠ []) :
    (withName name columns).name.isSome = true := by
  cases name with
  | some name => rfl
  | none =>
    cases columns with
    | nil => exact absurd rfl h
    | cons column columns => rfl

theorem withName_self {key : PrimaryKey} (h : key.columns ≠ [] → key.name.isSome = true)
    (hcolumns : key.columns ≠ []) : withName key.name key.columns = key := by
  obtain ⟨name, columns⟩ := key
  obtain ⟨name, rfl⟩ := Option.isSome_iff_exists.1 (h hcolumns)
  rfl

theorem name_of_ofFields? {name columns : Option Json} {key : PrimaryKey}
    (h : ofFields? name columns = some key) (hcolumns : key.columns ≠ []) :
    key.name.isSome = true := by
  unfold ofFields? at h
  obtain ⟨name, -, h⟩ := Option.bind_eq_some_iff.1 h
  obtain ⟨columns, -, h⟩ := Option.bind_eq_some_iff.1 h
  cases h
  exact name_withName hcolumns

/-- **A key that is read** has a name if it covers a column. -/
theorem name_of_ofJson? {document : Json} {key : PrimaryKey} (h : ofJson? document = some key)
    (hcolumns : key.columns ≠ []) : key.name.isSome = true := by
  unfold ofJson? at h
  split at h
  · exact name_of_ofFields? h hcolumns
  · exact name_of_ofFields? h hcolumns
  · exact name_of_ofFields? h hcolumns
  · exact name_of_ofFields? h hcolumns
  · cases h

theorem ofJson?_of_get? {fields : Mapping} {key : PrimaryKey}
    (hname : fields.get? "name" = some (.ofOption .string key.name))
    (hcolumns : fields.get? "columns" = some (.ofStrings key.columns)) :
    ofJson? (.object fields) = some (withName key.name key.columns) := by
  show ofFields? (fields.get? "name") (fields.get? "columns") = _
  rw [hname, hcolumns, ofFields?]
  simp [Json.optionalString?_ofOption, Json.strings?_ofStrings]

theorem ofJson?_normal_document (key : PrimaryKey) :
    ofJson? key.document.normal = some (withName key.name key.columns) := by
  have hnodup : (Mapping.keys [("name", .ofOption .string key.name),
      ("columns", .ofStrings key.columns)]).Nodup := by simp [Mapping.keys]
  refine ofJson?_of_get? ?_ ?_
  · rw [Json.get?_normal hnodup]
    exact congrArg some (Json.normal_ofOption (fun _ => rfl) _)
  · rw [Json.get?_normal hnodup]
    exact congrArg some (Json.normal_ofStrings _)

end PrimaryKey

namespace ForeignKey

theorem ofJson?_of_get? {fields : Mapping} {key : ForeignKey} {reference : Json}
    (hname : fields.get? "name" = some (.string key.name))
    (hto : fields.get? "to" = some (.string key.column))
    (href : fields.get? "ref" = some reference)
    (hread : Reference.ofJson? reference = some key.reference) :
    ofJson? (.object fields) = some key := by
  show ofFields? (fields.get? "name") (fields.get? "to") (fields.get? "ref") = _
  simp only [hname, hto, href, ofFields?, Option.bind_some, hread]
  rfl

theorem ofJson?_document (key : ForeignKey) : ofJson? key.document = some key :=
  ofJson?_of_get? rfl rfl rfl (Reference.ofJson?_of_get? rfl rfl)

theorem ofJson?_normal_document (key : ForeignKey) : ofJson? key.document.normal = some key := by
  have hreference : Reference.ofJson? key.reference.document.normal = some key.reference := by
    have hnodup : (Mapping.keys [("table", .string key.reference.table),
        ("column", .string key.reference.column)]).Nodup := by simp [Mapping.keys]
    exact Reference.ofJson?_of_get? (Json.get?_normal hnodup "table")
      (Json.get?_normal hnodup "column")
  have hnodup : (Mapping.keys [("name", .string key.name), ("to", .string key.column),
      ("ref", key.reference.document)]).Nodup := by simp [Mapping.keys]
  exact ofJson?_of_get? (Json.get?_normal hnodup "name") (Json.get?_normal hnodup "to")
    (Json.get?_normal hnodup "ref") hreference

end ForeignKey

end SchemaPhrase
