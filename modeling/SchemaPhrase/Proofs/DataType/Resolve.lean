import SchemaPhrase.DataType.Parse
import SchemaPhrase.Proofs.Traced

/-!
# What types come out

- `resolve_cases`: the type that a mapping describes is the generic one, the one for an unknown
  tag or one of a known kind.
- `ofKind_eq_ok`: when a known kind is read from a mapping, and with which arguments.
- `wellFormed_of_ofJson`: every type that a document describes is well-formed.
-/

set_option autoImplicit false

namespace SchemaPhrase.DataType

/-- An unknown tag differs from every known one in more than the case of ASCII letters. -/
theorem ofTag?_eq_none_iff {tag : String} :
    TypeKind.ofTag? tag = none ↔
      ∀ entry ∈ TypeKind.table, ∀ known ∈ entry.1,
        known.toList.map Char.toLower ≠ tag.toList.map Char.toLower := by
  simp only [TypeKind.ofTag?, Option.map_eq_none_iff, List.find?_eq_none, List.any_eq_true,
    TypeKind.sameTag, beq_iff_eq, not_exists, not_and, ne_eq]

theorem boundedField_eq_ok {fields : Mapping} {field : TypeField} {max value : Int64} :
    boundedField fields field max = .ok value ↔
      intField fields field = .ok value ∧ unset ≤ value ∧ value ≤ max := by
  rw [boundedField, bind_eq_ok]
  constructor
  · rintro ⟨first, hfirst, h⟩
    split at h
    · next hrange =>
      cases h
      exact ⟨hfirst, hrange⟩
    · cases h
  · rintro ⟨hvalue, hrange⟩
    exact ⟨value, hvalue, if_pos hrange⟩

/-- **What comes out of a known kind**, and where its arguments come from. -/
theorem ofKind_eq_ok {fields : Mapping} {kind : TypeKind} {type : DataType} :
    ofKind fields kind = .ok type ↔
      match kind with
      | .character kind => ∃ maxLength,
        boundedField fields .maxLength Int64.maxValue = .ok maxLength ∧
          type = .character kind maxLength
      | .plain kind => type = .plain kind
      | .exact kind => ∃ precision scale,
        boundedField fields .precision Int64.maxValue = .ok precision ∧
          boundedField fields .scale Int64.maxValue = .ok scale ∧
          (precision = unset → scale = unset) ∧ type = .exact kind precision scale
      | .timestamp => ∃ precision timezone,
        boundedField fields .precision maxTimestampPrecision = .ok precision ∧
          boolField fields .timezone = .ok timezone ∧ type = .timestamp precision timezone := by
  cases kind with
  | character kind =>
    show (_ >>= _) = _ ↔ _
    rw [bind_eq_ok]
    exact exists_congr fun maxLength => and_congr_right fun _ =>
      ⟨fun h => (Except.ok.inj h).symm, fun h => congrArg Except.ok h.symm⟩
  | plain kind => exact ⟨fun h => (Except.ok.inj h).symm, fun h => congrArg Except.ok h.symm⟩
  | exact kind =>
    show (_ >>= fun _ => _ >>= fun _ => _) = _ ↔ _
    rw [bind_eq_ok]
    refine exists_congr fun precision => ?_
    rw [bind_eq_ok]
    constructor
    · rintro ⟨hprecision, scale, hscale, h⟩
      split at h
      · cases h
      · next hset =>
        cases h
        refine ⟨scale, hprecision, hscale, fun hp => ?_, rfl⟩
        exact Decidable.byContradiction fun hs => hset ⟨hp, hs⟩
    · rintro ⟨scale, hprecision, hscale, hset, rfl⟩
      exact ⟨hprecision, scale, hscale, if_neg fun h => h.2 (hset h.1)⟩
  | timestamp =>
    show (_ >>= fun _ => _ >>= fun _ => _) = _ ↔ _
    rw [bind_eq_ok]
    refine exists_congr fun precision => ?_
    rw [bind_eq_ok]
    constructor
    · rintro ⟨hprecision, timezone, htimezone, h⟩
      cases h
      exact ⟨timezone, hprecision, htimezone, rfl⟩
    · rintro ⟨timezone, hprecision, htimezone, rfl⟩
      exact ⟨hprecision, timezone, htimezone, rfl⟩

theorem resolve_cases {unknown : String → DataType} {fields : Mapping} {type : DataType}
    (h : resolve unknown fields = .ok type) :
    type = generic ∨ (∃ tag, TypeKind.ofTag? tag = none ∧ type = unknown tag) ∨
      ∃ kind, ofKind fields kind = .ok type := by
  unfold resolve at h
  split at h
  · exact .inl (Except.ok.inj h).symm
  · exact .inl (Except.ok.inj h).symm
  · next tag _ =>
    split at h
    · next kind _ => exact .inr (.inr ⟨kind, h⟩)
    · next hnone => exact .inr (.inl ⟨tag, hnone, (Except.ok.inj h).symm⟩)
  · cases h

theorem wellFormed_generic : generic.WellFormed := by decide +kernel

theorem wellFormed_of_ofKind {fields : Mapping} {kind : TypeKind} {type : DataType}
    (h : ofKind fields kind = .ok type) : type.WellFormed := by
  rw [ofKind_eq_ok] at h
  cases kind with
  | character kind =>
    obtain ⟨maxLength, hbounded, rfl⟩ := h
    exact (boundedField_eq_ok.1 hbounded).2.1
  | plain kind =>
    subst h
    trivial
  | exact kind =>
    obtain ⟨precision, scale, hprecision, hscale, hset, rfl⟩ := h
    exact ⟨(boundedField_eq_ok.1 hprecision).2.1, (boundedField_eq_ok.1 hscale).2.1, hset⟩
  | timestamp =>
    obtain ⟨precision, timezone, hprecision, -, rfl⟩ := h
    exact (boundedField_eq_ok.1 hprecision).2

theorem wellFormed_of_resolve {unknown : String → DataType} {fields : Mapping} {type : DataType}
    (hunknown : ∀ tag, TypeKind.ofTag? tag = none → (unknown tag).WellFormed)
    (h : resolve unknown fields = .ok type) : type.WellFormed := by
  rcases resolve_cases h with rfl | ⟨tag, htag, rfl⟩ | ⟨kind, hkind⟩
  · exact wellFormed_generic
  · exact hunknown tag htag
  · exact wellFormed_of_ofKind hkind

theorem wellFormed_of_ofMapping {fields : Mapping} {type : DataType}
    (h : ofMapping fields = .ok type) : type.WellFormed := by
  have hbase : ∀ tag, TypeKind.ofTag? tag = none → (base tag).WellFormed := fun _ htag => htag
  exact wellFormed_of_resolve hbase h

theorem wellFormed_of_parse {phrase : String} {type : DataType} (h : parse phrase = .ok type) :
    type.WellFormed :=
  wellFormed_of_resolve (fun _ _ => wellFormed_generic) h

theorem wellFormed_of_ofJson {document : Json} {type : DataType}
    (h : ofJson document = .ok type) : type.WellFormed := by
  unfold ofJson at h
  split at h
  · exact wellFormed_of_parse h
  · exact wellFormed_of_ofMapping h
  · cases h

end SchemaPhrase.DataType
