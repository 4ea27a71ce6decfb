import DeployPlan.Proofs.Encoding.Objects
import DeployPlan.Proofs.Json.RoundTrip

/-!
# The sizes of numbers

What is written of an object can be read back exactly if its numbers are of the sizes of the format
(`Object.Sized`): `proper_object_iff`. Pods and services are followed through their schemas
(`Schema.Sized`, `proper_value_iff`).
-/

namespace DeployPlan

open Json (IsWord Proper)

/-! ## Values that can be written -/

namespace Json

theorem proper_str (s : String) : Proper (.str s) :=
  .str s

theorem proper_bool (b : Bool) : Proper (.bool b) :=
  .bool b

theorem proper_int_iff {n : Int} : Proper (.int n) ↔ IsWord n := by
  refine ⟨fun h => ?_, .int⟩
  cases h with
  | int h => exact h

theorem proper_arr_iff {items : List Json} : Proper (.arr items) ↔ ∀ j ∈ items, Proper j := by
  refine ⟨fun h => ?_, .arr⟩
  cases h with
  | arr h => exact h

theorem proper_obj_iff {members : List (String × Json)} :
    Proper (.obj members) ↔ ∀ m ∈ members, Proper m.2 := by
  refine ⟨fun h => ?_, .obj⟩
  cases h with
  | obj h => exact h

end Json

/-- The numbers in the metadata are of the sizes of the format, those included that stand in what is
noted of single fields. -/
structure Metadata.Sized (m : Metadata) : Prop where
  gracePeriod : ∀ n ∈ m.deletionGracePeriodSeconds, IsWord n
  generation : ∀ n ∈ m.generation, IsWord n
  fields : ∀ l ∈ m.managedFields, ∀ f ∈ l, ∀ j ∈ f.fields, Proper j

mutual

/-- The numbers in a value are of the sizes of the format. -/
def Schema.Sized : (s : Schema) → s.Value → Prop
  | .text, _ => True
  | .flag, _ => True
  | .integer, v => IsWord v
  | .moment, _ => True
  | .intOrText, v => ∀ n, v = IntOrText.int n → IsWord n
  | .metadata, v => Metadata.Sized v
  | .items s, (v : List s.Value) => ∀ w ∈ v, s.Sized w
  | .map s, (v : StringMap s.Value) => ∀ e ∈ v.entries, s.Sized e.2
  | .record fields, v => Field.AllSized fields v

def Field.Sized : (f : Field) → f.Value → Prop
  | .required _ s, v => s.Sized v
  | .optional _ s, (v : Option s.Value) => ∀ w ∈ v, s.Sized w

/-- The numbers in the values of fields are of the sizes of the format. -/
def Field.AllSized : (fields : List Field) → Field.Values fields → Prop
  | [], _ => True
  | f :: fields, (v, vs) => f.Sized v ∧ Field.AllSized fields vs

end

theorem isWord_zero : IsWord 0 :=
  ⟨by decide, by decide⟩

mutual

theorem Schema.sized_blank : (s : Schema) → s.Sized s.blank
  | .text => trivial
  | .flag => trivial
  | .integer => isWord_zero
  | .moment => trivial
  | .intOrText => fun _ h => by
    cases h
    exact isWord_zero
  | .metadata => ⟨nofun, nofun, nofun⟩
  | .items _ => nofun
  | .map _ => nofun
  | .record fields => Field.allSized_blanks fields

theorem Field.sized_blank : (f : Field) → f.Sized f.blank
  | .required _ s => s.sized_blank
  | .optional _ _ => nofun

theorem Field.allSized_blanks : (fields : List Field) → Field.AllSized fields (Field.blanks fields)
  | [] => trivial
  | f :: fields => ⟨f.sized_blank, Field.allSized_blanks fields⟩

end

/-- The numbers of the object are of the sizes of the format. -/
def Object.Sized : Object → Prop
  | .buildConfig b => b.metadata.Sized
  | .deploymentConfig d => d.metadata.Sized ∧ IsWord d.replicas ∧
    Schema.podTemplate.Sized (Encoding.podValue d.template)
  | .service s => s.metadata.Sized ∧
    (∀ spec ∈ s.spec, Schema.serviceSpec.Sized (Encoding.serviceValue spec)) ∧
    ∀ status ∈ s.status, Schema.serviceStatus.Sized status
  | .imageRepository r => r.metadata.Sized

namespace Encoding

open Json (proper_str proper_bool proper_int_iff proper_arr_iff proper_obj_iff)

theorem forall_mem_given {α : Type} {key : String} {value : Option α} {encode : α → Json} :
    (∀ m ∈ given key value encode, m.2.Proper) ↔ ∀ a ∈ value, (encode a).Proper := by
  cases value <;> simp [given]

theorem proper_stringMap (m : StringMap String) : (stringMap m).Proper := by
  simp only [stringMap, proper_obj_iff, List.forall_mem_map, proper_str, implies_true]

theorem proper_texts (l : List String) : (texts l).Proper := by
  simp only [texts, proper_arr_iff, List.forall_mem_map, proper_str, implies_true]

theorem proper_timestamp (t : Timestamp) : (timestamp t).Proper :=
  .str t.write

theorem proper_managedFields_iff {m : ManagedFields} :
    (managedFields m).Proper ↔ ∀ j ∈ m.fields, j.Proper := by
  simp only [managedFields, proper_obj_iff, List.forall_mem_append, forall_mem_given, proper_str,
    proper_timestamp, implies_true, true_and, and_true, id]

theorem proper_owner (o : Owner) : (owner o).Proper := by
  simp only [owner, proper_obj_iff, List.forall_mem_append, List.forall_mem_cons, forall_mem_given,
    proper_str, proper_bool, implies_true, true_and]
  exact List.forall_mem_nil _

theorem proper_metadata_iff {m : Metadata} : (metadata m).Proper ↔ m.Sized := by
  simp only [metadata, proper_obj_iff, List.forall_mem_append, forall_mem_given, proper_str,
    proper_stringMap, proper_timestamp, proper_texts, proper_int_iff, proper_arr_iff,
    List.forall_mem_map, proper_managedFields_iff, proper_owner, implies_true, true_and, and_true]
  constructor
  · intro h
    exact ⟨h.1.1, h.1.2, h.2⟩
  · intro h
    exact ⟨⟨h.gracePeriod, h.generation⟩, h.fields⟩

theorem proper_imageReference (i : ImageReference) : (imageReference i).Proper := by
  simp only [imageReference, proper_obj_iff, List.forall_mem_append, List.forall_mem_cons,
    forall_mem_given, proper_str, implies_true, true_and, and_true]
  exact List.forall_mem_nil _

theorem proper_gitSource (g : GitSource) : (gitSource g).Proper := by
  simp only [gitSource, proper_obj_iff, List.forall_mem_cons, forall_mem_given, proper_str,
    implies_true, and_true]

theorem proper_buildSource (s : BuildSource) : (buildSource s).Proper := by
  simp only [buildSource, proper_obj_iff, List.forall_mem_append, List.forall_mem_cons,
    forall_mem_given, proper_str, proper_gitSource, implies_true, and_true]

theorem proper_customStrategy (s : CustomStrategy) : (customStrategy s).Proper := by
  rw [customStrategy, env_eq_present]
  split <;> simp [proper_obj_iff, present, proper_imageReference, proper_bool, proper_stringMap]

theorem proper_buildStrategy (s : BuildStrategy) : (buildStrategy s).Proper := by
  have hfile (f : BuildFileStrategy) : (buildFileStrategy f).Proper := by
    simp only [buildFileStrategy, proper_obj_iff, List.forall_mem_cons, forall_mem_given,
      proper_bool, proper_imageReference, implies_true, and_true]
  have hbuilder (b : BuilderStrategy) : (builderStrategy b).Proper := by
    simp [builderStrategy, proper_obj_iff, proper_imageReference, proper_bool]
  simp only [buildStrategy, proper_obj_iff, List.forall_mem_append, List.forall_mem_cons,
    forall_mem_given, proper_str, hfile, hbuilder, proper_customStrategy, implies_true, and_true]

theorem proper_buildTrigger (t : BuildTrigger) : (buildTrigger t).Proper := by
  cases t <;> simp [buildTrigger, proper_obj_iff, proper_str, proper_imageReference]

theorem proper_deploymentTrigger (t : DeploymentTrigger) : (deploymentTrigger t).Proper := by
  cases t <;> simp [deploymentTrigger, proper_obj_iff, proper_str, proper_imageReference,
    proper_bool, proper_texts]

theorem proper_intOrText_iff {v : IntOrText} :
    (intOrText v).Proper ↔ ∀ n, v = .int n → IsWord n := by
  cases v <;> simp [intOrText, proper_int_iff, proper_str]

theorem proper_sorted_iff {parts : List (String × Option Json)} (hn : (parts.map (·.1)).Nodup) :
    (sorted parts).Proper ↔ ∀ key j, (key, some j) ∈ parts → j.Proper := by
  rw [sorted, proper_obj_iff]
  exact ⟨fun h key j hm => h (key, j) ((mem_sorted_iff hn).mpr hm),
    fun h m hm => h m.1 m.2 ((mem_sorted_iff hn).mp hm)⟩

mutual

/-- What is written of a value can be read back exactly if its numbers are of the sizes of the
format. -/
theorem proper_value_iff : (s : Schema) → s.isDistinct = true → ∀ v : s.Value,
    (value s v).Proper ↔ s.Sized v
  | .text, _, v => iff_of_true (proper_str v) trivial
  | .flag, _, v => iff_of_true (proper_bool v) trivial
  | .integer, _, _ => proper_int_iff
  | .moment, _, v => iff_of_true (proper_timestamp v) trivial
  | .intOrText, _, _ => proper_intOrText_iff
  | .metadata, _, _ => proper_metadata_iff
  | .items s, h, (v : List s.Value) => by
    show (Json.arr (v.map (value s))).Proper ↔ ∀ w ∈ v, s.Sized w
    simp only [proper_arr_iff, List.forall_mem_map, proper_value_iff s h]
  | .map s, h, (v : StringMap s.Value) => by
    show (Json.obj (v.entries.map fun e => (e.1, value s e.2))).Proper ↔
      ∀ e ∈ v.entries, s.Sized e.2
    simp only [proper_obj_iff, List.forall_mem_map, proper_value_iff s h]
  | .record fields, h, (v : Field.Values fields) => by
    obtain ⟨hkeys, hfields⟩ := Bool.and_eq_true_iff.mp h
    have hn : ((parts fields v).map (·.1)).Nodup := by
      rw [keys_parts]
      exact of_decide_eq_true hkeys
    exact (proper_sorted_iff hn).trans (proper_parts_iff fields hfields v)

theorem proper_part_iff : (f : Field) → f.isDistinct = true → ∀ v : f.Value,
    (∀ j ∈ part f v, j.Proper) ↔ f.Sized v
  | .required _ s, h, (v : s.Value) => by
    show (∀ j ∈ some (value s v), j.Proper) ↔ s.Sized v
    simp only [Option.mem_some_iff, forall_eq', proper_value_iff s h]
  | .optional _ s, h, (v : Option s.Value) => by
    show (∀ j ∈ v.map (value s), j.Proper) ↔ ∀ w ∈ v, s.Sized w
    cases v <;> simp [proper_value_iff s h]

theorem proper_parts_iff : (fields : List Field) → Field.areDistinct fields = true →
    ∀ v : Field.Values fields,
      (∀ key j, (key, some j) ∈ parts fields v → j.Proper) ↔ Field.AllSized fields v
  | [], _, _ => iff_of_true nofun trivial
  | f :: fields, h, (v, vs) => by
    obtain ⟨hf, hfields⟩ := Bool.and_eq_true_iff.mp h
    rw [Field.AllSized, ← proper_part_iff f hf, ← proper_parts_iff fields hfields, parts]
    constructor
    · intro hp
      exact ⟨fun j hj => hp f.key j (List.mem_cons.mpr (.inl (by rw [hj]))),
        fun key j hm => hp key j (List.mem_cons_of_mem _ hm)⟩
    · rintro ⟨hpart, hparts⟩ key j hm
      rcases List.mem_cons.mp hm with he | hm
      · exact hpart j (Prod.mk.inj he).2.symm
      · exact hparts key j hm

end

/-- What is written of an object can be read back exactly if its numbers are of the sizes of the
format. -/
theorem proper_object_iff {o : Object} : (object o).Proper ↔ o.Sized := by
  cases o with
  | buildConfig b =>
    simp [object, buildConfig, Object.Sized, proper_obj_iff, proper_str, proper_metadata_iff,
      proper_arr_iff, proper_buildTrigger, proper_buildSource, proper_buildStrategy,
      proper_imageReference]
  | deploymentConfig d =>
    simp [object, deploymentConfig, Object.Sized, proper_obj_iff, proper_str, proper_metadata_iff,
      proper_arr_iff, proper_deploymentTrigger, proper_int_iff, proper_stringMap,
      proper_value_iff _ podTemplate_isDistinct]
  | service s =>
    simp only [object, service, Object.Sized, proper_obj_iff, List.forall_mem_append,
      List.forall_mem_cons, forall_mem_given, proper_str, proper_metadata_iff,
      proper_value_iff _ serviceSpec_isDistinct, proper_value_iff _ serviceStatus_isDistinct,
      true_and]
    simp [and_assoc]
  | imageRepository r =>
    simp only [object, imageRepository, Object.Sized, proper_obj_iff, List.forall_mem_append,
      List.forall_mem_cons, forall_mem_given, proper_str, proper_metadata_iff, implies_true,
      and_true, true_and]
    simp

end Encoding

end DeployPlan
