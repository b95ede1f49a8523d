import SchemaPhrase.Json.Basic

/-!
# Ordered mappings

A mapping with its keys in order and each once (`Ordered`) is determined by its look-ups (`ext`).
Setting a key keeps the order (`ordered_insert`), so every mapping that is built from fields is
ordered (`ordered_ofFields`), and one that is ordered already is what its fields build
(`ofFields_eq_self`). `get?_overwrite`, `get?_ofFields` and `get?_restrict` give the look-ups.
-/

set_option autoImplicit false

namespace SchemaPhrase.Mapping

/-! ## Look-ups -/

theorem get?_eq_none_iff {fields : Mapping} {key : String} :
    fields.get? key = none ↔ key ∉ fields.keys := by
  rw [← Option.not_isSome_iff_eq_none, ← contains_keys, List.contains_iff_mem]

/-- **Look-ups after fields are set**: those fields come first, then what was there. -/
theorem get?_overwrite {mapping changes : Mapping} (h : changes.keys.Nodup) (key : String) :
    (mapping.overwrite changes).get? key = (changes.get? key).or (mapping.get? key) := by
  unfold overwrite
  induction changes generalizing mapping with
  | nil => rfl
  | cons field changes ih =>
    obtain ⟨k, value⟩ := field
    obtain ⟨hk, hchanges⟩ := List.nodup_cons.1 h
    rw [List.foldl_cons, ih hchanges, get?_insert]
    by_cases he : k = key
    · subst he
      rw [get?_eq_none_iff.2 hk]
      simp [get?]
    · simp [get?, he]

theorem get?_ofFields {fields : Mapping} (h : fields.keys.Nodup) (key : String) :
    (ofFields fields).get? key = fields.get? key := by
  show (overwrite [] fields).get? key = _
  rw [get?_overwrite h]
  exact Option.or_none

/-- The fields under some keys. -/
def restrict (kept : List String) (fields : Mapping) : Mapping :=
  fields.filter fun field => kept.contains field.1

theorem get?_restrict (kept : List String) (fields : Mapping) (key : String) :
    (fields.restrict kept).get? key = if key ∈ kept then fields.get? key else none := by
  induction fields with
  | nil => simp [restrict, get?]
  | cons field fields ih =>
    obtain ⟨k, value⟩ := field
    unfold restrict at ih ⊢
    by_cases hk : k ∈ kept
    · rw [List.filter_cons_of_pos (by simpa using hk), get?, get?, ih]
      by_cases he : k = key
      · simp [he, he ▸ hk]
      · simp [he]
    · rw [List.filter_cons_of_neg (by simpa using hk), ih, get?]
      by_cases he : k = key
      · simp [he ▸ hk]
      · simp [he]

/-! ## The order of the keys -/

/-- The keys are in order and each stands once. -/
def Ordered (mapping : Mapping) : Prop :=
  mapping.Pairwise fun field next => field.1 < next.1

instance (mapping : Mapping) : Decidable mapping.Ordered :=
  inferInstanceAs (Decidable (mapping.Pairwise fun field next => field.1 < next.1))

theorem Ordered.nodup {mapping : Mapping} (h : mapping.Ordered) : mapping.keys.Nodup := by
  refine List.pairwise_map.2 (List.Pairwise.imp (fun hlt he => ?_) h)
  exact String.lt_irrefl _ (he ▸ hlt)

theorem mem_insert {mapping : Mapping} {key : String} {value : Json} {field : String × Json}
    (h : field ∈ mapping.insert key value) : field = (key, value) ∨ field ∈ mapping := by
  induction mapping with
  | nil => exact .inl (List.mem_singleton.1 h)
  | cons first rest ih =>
    obtain ⟨k, v⟩ := first
    unfold insert at h
    split at h
    · exact List.mem_cons.1 h
    · split at h
      · exact (List.mem_cons.1 h).imp_right (List.mem_cons_of_mem _)
      · rcases List.mem_cons.1 h with rfl | h
        · exact .inr List.mem_cons_self
        · exact (ih h).imp_right (List.mem_cons_of_mem _)

theorem mem_overwrite {mapping changes : Mapping} {field : String × Json}
    (h : field ∈ mapping.overwrite changes) : field ∈ changes ∨ field ∈ mapping := by
  unfold overwrite at h
  induction changes generalizing mapping with
  | nil => exact .inr h
  | cons change changes ih =>
    rcases ih h with h | h
    · exact .inl (List.mem_cons_of_mem _ h)
    · rcases mem_insert h with rfl | h
      · exact .inl List.mem_cons_self
      · exact .inr h

theorem mem_ofFields {fields : List (String × Json)} {field : String × Json}
    (h : field ∈ ofFields fields) : field ∈ fields :=
  (@mem_overwrite [] fields field h).resolve_right List.not_mem_nil

theorem ordered_insert {mapping : Mapping} (h : mapping.Ordered) (key : String) (value : Json) :
    (mapping.insert key value).Ordered := by
  induction mapping with
  | nil => exact List.pairwise_singleton _ _
  | cons first rest ih =>
    obtain ⟨k, v⟩ := first
    obtain ⟨hfirst, hrest⟩ := List.pairwise_cons.1 h
    unfold insert
    split
    · next hlt =>
      refine List.pairwise_cons.2 ⟨fun field hf => ?_, h⟩
      rcases List.mem_cons.1 hf with rfl | hf
      · exact hlt
      · exact String.lt_trans hlt (hfirst field hf)
    · next hlt =>
      split
      · next he =>
        subst he
        exact List.pairwise_cons.2 ⟨hfirst, hrest⟩
      · next hne =>
        refine List.pairwise_cons.2 ⟨fun field hf => ?_, ih hrest⟩
        rcases mem_insert hf with rfl | hf
        · exact Std.lt_of_le_of_ne (String.not_lt.1 hlt) (Ne.symm hne)
        · exact hfirst field hf

theorem ordered_overwrite {mapping : Mapping} (h : mapping.Ordered) (changes : Mapping) :
    (mapping.overwrite changes).Ordered := by
  unfold overwrite
  induction changes generalizing mapping with
  | nil => exact h
  | cons field changes ih => exact ih (ordered_insert h field.1 field.2)

theorem ordered_ofFields (fields : List (String × Json)) : (ofFields fields).Ordered :=
  ordered_overwrite List.Pairwise.nil fields

theorem get?_of_forall_lt {mapping : Mapping} {key : String}
    (h : ∀ field ∈ mapping, key < field.1) : mapping.get? key = none := by
  rw [get?_eq_none_iff]
  intro hk
  obtain ⟨field, hf, he⟩ := List.mem_map.1 hk
  exact String.lt_irrefl _ (he ▸ h field hf)

theorem not_lt_first {field : String × Json} {mapping : Mapping} {key : String}
    (h : Ordered (field :: mapping)) (hk : (get? (field :: mapping) key).isSome) :
    ¬ key < field.1 := by
  intro hlt
  have hnone : get? (field :: mapping) key = none := by
    refine get?_of_forall_lt fun next hn => ?_
    rcases List.mem_cons.1 hn with rfl | hn
    · exact hlt
    · exact String.lt_trans hlt ((List.pairwise_cons.1 h).1 next hn)
  rw [hnone] at hk
  cases hk

/-- **Look-ups determine an ordered mapping.** -/
theorem ext {mapping other : Mapping} (hm : mapping.Ordered) (ho : other.Ordered)
    (h : ∀ key, mapping.get? key = other.get? key) : mapping = other := by
  induction mapping generalizing other with
  | nil =>
    cases other with
    | nil => rfl
    | cons field other => simpa [get?] using h field.1
  | cons field mapping ih =>
    obtain ⟨k, value⟩ := field
    obtain ⟨hk, hmapping⟩ := List.pairwise_cons.1 hm
    cases other with
    | nil => simpa [get?] using h k
    | cons field other =>
      obtain ⟨k', value'⟩ := field
      obtain ⟨hk', hother⟩ := List.pairwise_cons.1 ho
      -- each first key has a value in the other mapping, so neither is in front of the other
      have hkey : k = k' := by
        have hle := @not_lt_first _ _ k ho (by rw [← h k]; simp [get?])
        have hge := @not_lt_first _ _ k' hm (by rw [h k']; simp [get?])
        exact String.le_antisymm (String.not_lt.1 hge) (String.not_lt.1 hle)
      subst hkey
      have hvalue : value = value' := by simpa [get?] using h k
      subst hvalue
      congr 1
      refine ih hmapping hother fun key => ?_
      by_cases he : k = key
      · subst he
        rw [get?_of_forall_lt hk, get?_of_forall_lt hk']
      · simpa [get?, he] using h key

theorem ofFields_eq_self {mapping : Mapping} (h : mapping.Ordered) : ofFields mapping = mapping :=
  ext (ordered_ofFields mapping) h (get?_ofFields h.nodup)

end SchemaPhrase.Mapping
