import DeployPlan.Proofs.Encoding.Members
import DeployPlan.Proofs.Encoding.Moments

/-!
# Metadata is shown by what is written of it

What is written of metadata shows all of it but the parts of seconds: `metadata_shows`.
-/

namespace DeployPlan

/-- The fields that someone set, without the parts of the second at which that was. -/
def ManagedFields.truncate (m : ManagedFields) : ManagedFields :=
  { m with time := m.time.map Timestamp.truncate }

/-- The metadata without the parts of seconds. -/
def Metadata.truncate (m : Metadata) : Metadata :=
  { m with
    creationTimestamp := m.creationTimestamp.map Timestamp.truncate
    deletionTimestamp := m.deletionTimestamp.map Timestamp.truncate
    managedFields := m.managedFields.map (·.map ManagedFields.truncate) }

namespace Encoding

attribute [ext] ManagedFields Owner Metadata

theorem timestamp_shows : Shows timestamp Timestamp.truncate := fun t t' => by
  rw [timestamp, timestamp, Json.str.injEq, Timestamp.write_eq_write_iff]

theorem managedFields_shows : Shows managedFields ManagedFields.truncate := by
  intro m m'
  have htext := Shows.of_injective (Option.map_injective str_injective)
  have htime := timestamp_shows.option
  simp only [managedFields, given_eq_present, present_append, List.cons_append, List.nil_append,
    Json.obj.injEq]
  rw [present_eq_present_iff (by simp) (by simp)]
  simp only [List.cons.injEq, Prod.mk.injEq, true_and, and_true, htext _ _, htime _ _,
    Option.map_id, id, ManagedFields.ext_iff, ManagedFields.truncate]

theorem owner_injective : Function.Injective owner := by
  intro o o' h
  simp only [owner, given_eq_present, singleton_eq_present, cons_present, present_append,
    List.cons_append, List.nil_append] at h
  have hparts := members_injective h (by simp) (by simp)
  simp only [List.cons.injEq, Prod.mk.injEq, true_and, and_true, Option.some_inj,
    Json.str.injEq] at hparts
  obtain ⟨h1, h2, h3, h4, h5, h6⟩ := hparts
  have hflag := Option.map_injective bool_injective
  exact Owner.ext_iff.mpr ⟨h1, hflag h2, hflag h3, h4, h5, h6⟩

theorem metadata_shows : Shows metadata Metadata.truncate := by
  intro m m'
  have htext := Shows.of_injective (Option.map_injective str_injective)
  have hnumber := Shows.of_injective (Option.map_injective int_injective)
  have htime := timestamp_shows.option
  have hmap := Shows.of_injective (Option.map_injective stringMap_injective)
  have htexts := Shows.of_injective (Option.map_injective texts_injective)
  have hfields := managedFields_shows.items.option
  have howners := Shows.of_injective (Option.map_injective (items_injective owner_injective))
  simp only [metadata, given_eq_present, present_append, List.cons_append, List.nil_append,
    Json.obj.injEq]
  rw [present_eq_present_iff (by simp) (by simp)]
  simp only [List.cons.injEq, Prod.mk.injEq, true_and, and_true, htext _ _, hnumber _ _, htime _ _,
    hmap _ _, htexts _ _, hfields _ _, howners _ _, id,
    Metadata.ext_iff, Metadata.truncate]

end Encoding

end DeployPlan
