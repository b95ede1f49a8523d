import Mathlib.Data.List.Basic
import SchemaPhrase.Proofs.DataType.Resolve
import SchemaPhrase.Proofs.Decimal
import SchemaPhrase.Proofs.Json.Normal

/-!
# Types written and read back

`ofMapping_toMapping`: the mapping of a well-formed type describes that type. A tag of its own is
read back because it names no known type, a canonical tag because it names its own
(`ofTag?_tag`), and arguments because they are in range (`intField_of_get?`). No other type is read
back, nor does any come out of a phrase or a document (`ofMapping_toMapping_iff`).
-/

set_option autoImplicit false

namespace SchemaPhrase.DataType

/-- The known type of a type that is no base type. -/
def kind? : DataType → Option TypeKind
  | base _ => none
  | character kind _ => some (.character kind)
  | plain kind => some (.plain kind)
  | exact kind _ _ => some (.exact kind)
  | timestamp _ _ => some .timestamp

theorem ofTag?_tag {type : DataType} (h : type.WellFormed) :
    TypeKind.ofTag? type.tag = type.kind? := by
  have hcharacter : ∀ kind : CharacterKind, TypeKind.ofTag? kind.tag = some (.character kind) :=
    fun kind => by cases kind <;> decide
  have hplain : ∀ kind : PlainKind, TypeKind.ofTag? kind.tag = some (.plain kind) :=
    fun kind => by cases kind <;> decide
  have hexact : ∀ kind : ExactKind, TypeKind.ofTag? kind.tag = some (.exact kind) :=
    fun kind => by cases kind <;> decide
  have htimestamp : TypeKind.ofTag? "timestamp" = some .timestamp := by decide
  cases type with
  | base tag => exact h
  | character kind maxLength => exact hcharacter kind
  | plain kind => exact hplain kind
  | exact kind precision scale => exact hexact kind
  | timestamp precision timezone => exact htimestamp

theorem intField_of_get? {fields : Mapping} {field : TypeField} {value : Int64}
    (h : fields.get? field.key = some (.int value)) : intField fields field = .ok value := by
  simp only [intField, h, Json.int, Number.int64?, Decimal.toInt64?_toInt]

theorem boolField_of_get? {fields : Mapping} {field : TypeField} {value : Bool}
    (h : fields.get? field.key = some (.bool value)) : boolField fields field = .ok value := by
  simp only [boolField, h]

theorem boundedField_of_get? {fields : Mapping} {field : TypeField} {value max : Int64}
    (h : fields.get? field.key = some (.int value)) (hlo : unset ≤ value) (hhi : value ≤ max) :
    boundedField fields field max = .ok value :=
  boundedField_eq_ok.2 ⟨intField_of_get? h, hlo, hhi⟩

theorem ordered_toMapping (type : DataType) : type.toMapping.Ordered :=
  Mapping.ordered_ofFields _

theorem get?_toMapping (type : DataType) (field : TypeField) :
    type.toMapping.get? field.key =
      match field with
      | .type => some (.string type.tag)
      | .maxLength => type.maxLength?.map Json.int
      | .precision => type.precision?.map Json.int
      | .scale => type.scale?.map Json.int
      | .timezone => type.timezone?.map Json.bool := by
  rw [toMapping, Mapping.get?_ofFields]
  · cases type <;> cases field <;> rfl
  · cases type <;> simp [Mapping.keys, maxLength?, precision?, scale?, timezone?]

theorem ofKind_toMapping {type : DataType} {kind : TypeKind} (h : type.WellFormed)
    (hkind : type.kind? = some kind) : ofKind type.toMapping kind = .ok type := by
  rw [ofKind_eq_ok]
  have hget := get?_toMapping type
  cases type with
  | base tag => cases hkind
  | character kind maxLength =>
    cases hkind
    exact ⟨maxLength, boundedField_of_get? (hget .maxLength) h maxLength.le_maxValue, rfl⟩
  | plain kind =>
    cases hkind
    rfl
  | exact kind precision scale =>
    cases hkind
    obtain ⟨hprecision, hscale, hset⟩ := h
    exact ⟨precision, scale,
      boundedField_of_get? (hget .precision) hprecision precision.le_maxValue,
      boundedField_of_get? (hget .scale) hscale scale.le_maxValue, hset, rfl⟩
  | timestamp precision timezone =>
    cases hkind
    exact ⟨precision, timezone, boundedField_of_get? (hget .precision) h.1 h.2,
      boolField_of_get? (hget .timezone), rfl⟩

/-- **A well-formed type is read back from its mapping.** -/
theorem ofMapping_toMapping {type : DataType} (h : type.WellFormed) :
    ofMapping type.toMapping = .ok type := by
  unfold ofMapping resolve
  simp only [get?_toMapping, ofTag?_tag h]
  cases hkind : type.kind? with
  | none =>
    cases type with
    | base tag => rfl
    | _ => cases hkind
  | some kind => exact ofKind_toMapping h hkind

/-- The mapping of a type is normal: it is ordered and its values are scalars. -/
theorem normal_toMapping (type : DataType) :
    (Json.object type.toMapping).normal = .object type.toMapping := by
  refine Json.normal_object_eq_self (ordered_toMapping type) fun field hf => ?_
  have hfield := Mapping.mem_ofFields hf
  simp only [List.cons_append, List.mem_cons, List.mem_append, List.mem_map, or_assoc] at hfield
  rcases hfield with rfl | ⟨_, -, rfl⟩ | ⟨_, -, rfl⟩ | ⟨_, -, rfl⟩ | ⟨_, -, rfl⟩
  all_goals rfl

/-- Every tag that names a known type. -/
def knownTags : List String :=
  ["string", "str", "char", "varchar", "text", "integer", "int", "smallint", "bigint", "numeric",
    "decimal", "timestamp"]

theorem flatMap_table : TypeKind.table.flatMap Prod.fst = knownTags := rfl

/-- A tag of its own is no known tag, in whatever case its letters are. -/
theorem wellFormed_base_iff {tag : String} :
    (base tag).WellFormed ↔
      ∀ known ∈ knownTags, known.toList.map Char.toLower ≠ tag.toList.map Char.toLower := by
  have htag : (base tag).WellFormed ↔ TypeKind.ofTag? tag = none := Iff.rfl
  rw [htag, ofTag?_eq_none_iff, ← flatMap_table]
  constructor
  · intro h known hk
    obtain ⟨entry, he, hknown⟩ := List.mem_flatMap.1 hk
    exact h entry he known hknown
  · intro h entry he known hk
    exact h known (List.mem_flatMap.2 ⟨entry, he, hk⟩)

/-- **The codec is exact**: the types that are read back from their mappings are the well-formed
ones, and they are all that a phrase, a mapping or a document can give. -/
theorem ofMapping_toMapping_iff :
    (∀ type, ofMapping type.toMapping = .ok type ↔ type.WellFormed) ∧
    (∀ tag, (base tag).WellFormed ↔
      ∀ known ∈ knownTags, known.toList.map Char.toLower ≠ tag.toList.map Char.toLower) ∧
    (∀ phrase type, parse phrase = .ok type → type.WellFormed) ∧
    (∀ fields type, ofMapping fields = .ok type → type.WellFormed) ∧
    ∀ document type, ofJson document = .ok type → type.WellFormed := by
  refine ⟨fun type => ⟨wellFormed_of_ofMapping, ofMapping_toMapping⟩,
    fun tag => wellFormed_base_iff, ?_, ?_, ?_⟩
  · intro phrase type h
    exact wellFormed_of_parse h
  · intro fields type h
    exact wellFormed_of_ofMapping h
  · intro document type h
    exact wellFormed_of_ofJson h

/-- A scale that was read has its precision; without it the type is not read back. -/
theorem ofMapping_toMapping_iff_decimal :
    parse "DECIMAL (19, 0)" = .ok (.exact .decimal 19 0) ∧
    (exact .decimal 19 0).WellFormed ∧
    ofMapping (exact .decimal 19 0).toMapping = .ok (.exact .decimal 19 0) ∧
    ofMapping (exact .decimal unset 0).toMapping ≠ .ok (.exact .decimal unset 0) ∧
    ¬ (base "VarChar").WellFormed := by
  obtain ⟨hexact, hbase, hparse, -, -⟩ := ofMapping_toMapping_iff
  have hphrase : parse "DECIMAL (19, 0)" = .ok (.exact .decimal 19 0) := by decide +kernel
  have hwf := hparse _ _ hphrase
  refine ⟨hphrase, hwf, (hexact _).2 hwf, fun h => ?_, fun h => ?_⟩
  · have hset := ((hexact _).1 h).2.2 rfl
    exact absurd hset (by decide)
  · exact (hbase _).1 h "varchar" (by decide) (by decide)

end SchemaPhrase.DataType
