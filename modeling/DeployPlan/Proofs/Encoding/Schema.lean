import DeployPlan.Object.Types
import DeployPlan.Proofs.Encoding.Metadata

/-!
# Values of schemas are shown by what is written of them

If no two fields of a record share a name (`Schema.isDistinct`), what is written of a value shows all
of it but the parts of seconds: `value_shows`, by recursion over the schema. Where a schema has no
moments (`Schema.isTimeless`), that is the value itself.
-/

namespace DeployPlan

mutual

/-- The value without the parts of seconds. -/
def Schema.truncate : (s : Schema) → s.Value → s.Value
  | .text, v => v
  | .flag, v => v
  | .integer, v => v
  | .moment, v => Timestamp.truncate v
  | .intOrText, v => v
  | .metadata, v => Metadata.truncate v
  | .items s, v => List.map s.truncate v
  | .map s, v => StringMap.map s.truncate v
  | .record fields, v => Field.truncateAll fields v

def Field.truncate : (f : Field) → f.Value → f.Value
  | .required _ s, v => s.truncate v
  | .optional _ s, v => Option.map s.truncate v

def Field.truncateAll : (fields : List Field) → Field.Values fields → Field.Values fields
  | [], _ => ()
  | f :: fields, (v, vs) => (f.truncate v, Field.truncateAll fields vs)

end

mutual

/-- Whether no record has two fields of one name. -/
def Schema.isDistinct : Schema → Bool
  | .items s => s.isDistinct
  | .map s => s.isDistinct
  | .record fields => decide (fields.map Field.key).Nodup && Field.areDistinct fields
  | _ => true

def Field.isDistinct : Field → Bool
  | .required _ s => s.isDistinct
  | .optional _ s => s.isDistinct

def Field.areDistinct : List Field → Bool
  | [] => true
  | f :: fields => f.isDistinct && Field.areDistinct fields

end

mutual

/-- Whether there are no moments in the values. -/
def Schema.isTimeless : Schema → Bool
  | .moment => false
  | .metadata => false
  | .items s => s.isTimeless
  | .map s => s.isTimeless
  | .record fields => Field.areTimeless fields
  | _ => true

def Field.isTimeless : Field → Bool
  | .required _ s => s.isTimeless
  | .optional _ s => s.isTimeless

def Field.areTimeless : List Field → Bool
  | [] => true
  | f :: fields => f.isTimeless && Field.areTimeless fields

end

mutual

theorem Schema.truncate_eq_self : (s : Schema) → s.isTimeless = true → ∀ v, s.truncate v = v
  | .text, _, _ => rfl
  | .flag, _, _ => rfl
  | .integer, _, _ => rfl
  | .intOrText, _, _ => rfl
  | .items s, h, v => List.map_id'' (s.truncate_eq_self h) v
  | .map s, h, v => StringMap.map_eq_self (s.truncate_eq_self h) v
  | .record fields, h, v => Field.truncateAll_eq_self fields h v

theorem Field.truncate_eq_self : (f : Field) → f.isTimeless = true → ∀ v, f.truncate v = v
  | .required _ s, h, v => s.truncate_eq_self h v
  | .optional _ s, h, v => by
    cases v with
    | none => rfl
    | some w => exact congrArg some (s.truncate_eq_self h w)

theorem Field.truncateAll_eq_self : (fields : List Field) → Field.areTimeless fields = true →
    ∀ v, Field.truncateAll fields v = v
  | [], _, _ => rfl
  | f :: fields, h, (v, vs) => by
    obtain ⟨hf, hfs⟩ := Bool.and_eq_true_iff.mp h
    rw [Field.truncateAll, f.truncate_eq_self hf, Field.truncateAll_eq_self fields hfs]

end

mutual

theorem Schema.truncate_blank : (s : Schema) → s.truncate s.blank = s.blank
  | .text => rfl
  | .flag => rfl
  | .integer => rfl
  | .moment => rfl
  | .intOrText => rfl
  | .metadata => rfl
  | .items _ => rfl
  | .map _ => rfl
  | .record fields => Field.truncateAll_blanks fields

theorem Field.truncate_blank : (f : Field) → f.truncate f.blank = f.blank
  | .required _ s => s.truncate_blank
  | .optional _ _ => rfl

theorem Field.truncateAll_blanks : (fields : List Field) →
    Field.truncateAll fields (Field.blanks fields) = Field.blanks fields
  | [] => rfl
  | f :: fields => by
    rw [Field.blanks, Field.truncateAll, f.truncate_blank, Field.truncateAll_blanks fields]

end

namespace Encoding

theorem keys_parts : (fields : List Field) → (v : Field.Values fields) →
    (parts fields v).map (·.1) = fields.map Field.key
  | [], _ => rfl
  | f :: fields, (v, vs) => by rw [parts, List.map_cons, List.map_cons, keys_parts fields vs]

mutual

/-- What is written of a value shows all of it but the parts of seconds. -/
theorem value_shows : (s : Schema) → s.isDistinct = true → Shows (value s) s.truncate
  | .text, _ => Shows.of_injective str_injective
  | .flag, _ => Shows.of_injective bool_injective
  | .integer, _ => Shows.of_injective int_injective
  | .moment, _ => timestamp_shows
  | .intOrText, _ => Shows.of_injective intOrText_injective
  | .metadata, _ => metadata_shows
  | .items s, h => (value_shows s h).items
  | .map s, h => (value_shows s h).entries
  | .record fields, h => fun (v w : Field.Values fields) => by
    obtain ⟨hkeys, hfields⟩ := Bool.and_eq_true_iff.mp h
    have hn : ((parts fields v).map (·.1)).Nodup := by
      rw [keys_parts]
      exact of_decide_eq_true hkeys
    show sorted (parts fields v) = sorted (parts fields w) ↔
      Field.truncateAll fields v = Field.truncateAll fields w
    rw [sorted_eq_sorted_iff hn (by rw [keys_parts, keys_parts]), parts_show fields hfields]

theorem part_shows : (f : Field) → f.isDistinct = true → Shows (part f) f.truncate
  | .required _ s, h => fun v w => by
    rw [part, part, Option.some_inj]
    exact value_shows s h v w
  | .optional _ s, h => (value_shows s h).option

theorem parts_show : (fields : List Field) → Field.areDistinct fields = true →
    Shows (parts fields) (Field.truncateAll fields)
  | [], _ => fun _ _ => ⟨fun _ => rfl, fun _ => rfl⟩
  | f :: fields, h => fun (v, vs) (w, ws) => by
    obtain ⟨hf, hfields⟩ := Bool.and_eq_true_iff.mp h
    rw [parts, parts, List.cons.injEq, Prod.mk.injEq, part_shows f hf, parts_show fields hfields,
      Field.truncateAll, Field.truncateAll]
    exact ⟨fun h => Prod.ext h.1.2 h.2, fun h => ⟨⟨rfl, congrArg Prod.fst h⟩, congrArg Prod.snd h⟩⟩

end

end Encoding

end DeployPlan
