import DeployPlan.Proofs.Config.Variables
import DeployPlan.Proofs.Generation.Objects

/-!
# The variables of a deployment

`EnvLaw` says which variables a container has, by the arguments of a caller and the entries of the
image that its build starts from: each name once, with the value of the last pair for it, or else of
the last entry. `generated_environment` says that this holds of every deployment that a run makes.
-/

namespace DeployPlan

open Environment (Sets pairsOf)
open EnvVar (Defines)

variable {σ : Type}

/-- The variables of a container, by the arguments and the entries that they come from. -/
structure EnvLaw (args entries : List String) (env : Option (List (String × String))) : Prop where
  /-- The names ascend, so each of them is there once. -/
  ascending : (env.getD []).Pairwise fun a b => a.1 < b.1
  /-- There are no other names than those of the pairs and of the entries. -/
  names : ∀ k, (∃ v, (k, v) ∈ env.getD []) ↔
    (∃ pair ∈ args.flatMap pairsOf, ∃ v, Sets pair k v) ∨ ∃ entry ∈ entries, ∃ v, Defines entry k v
  /-- The last pair counts, and without any the last entry. -/
  values : ∀ k v, (k, v) ∈ env.getD [] ↔
    LastGives Sets (args.flatMap pairsOf) k v ∨
      (∀ pair ∈ args.flatMap pairsOf, ∀ w, ¬Sets pair k w) ∧ LastGives Defines entries k v
  /-- There is no empty list of variables. -/
  absent : env = none ↔ ∀ k v, (∀ pair ∈ args.flatMap pairsOf, ¬Sets pair k v) ∧
    ∀ entry ∈ entries, ¬Defines entry k v

namespace EnvLaw

variable {args entries : List String} {env : StringMap String}

/-- The variables of an image, with those of the arguments laid over them: the last pair counts, and
without any the last entry. -/
theorem mem_overlay_iff (h : Environment.parse args = .ok env) (entries : List String)
    (k v : String) :
    (k, v) ∈ ((EnvVar.ofEntries entries).overlay env).entries ↔
      LastGives Sets (args.flatMap pairsOf) k v ∨
        (∀ pair ∈ args.flatMap pairsOf, ∀ w, ¬Sets pair k w) ∧ LastGives Defines entries k v := by
  have hkeys : k ∉ env.keys ↔ ∀ pair ∈ args.flatMap pairsOf, ∀ w, ¬Sets pair k w := by
    simp only [StringMap.mem_keys_iff, Environment.get?_parse h, exists_lastGives_iff,
      not_exists, not_and]
  rw [← StringMap.get?_eq_some_iff, StringMap.get?_overlay, Environment.get?_parse h,
    EnvVar.get?_ofEntries, hkeys]

/-- They have the names of the pairs and of the entries. -/
theorem exists_mem_overlay_iff (h : Environment.parse args = .ok env) (entries : List String)
    (k : String) :
    (∃ v, (k, v) ∈ ((EnvVar.ofEntries entries).overlay env).entries) ↔
      (∃ pair ∈ args.flatMap pairsOf, ∃ v, Sets pair k v) ∨
        ∃ entry ∈ entries, ∃ v, Defines entry k v := by
  simp only [mem_overlay_iff h entries, exists_or, exists_and_left, exists_lastGives_iff]
  by_cases hk : ∃ pair ∈ args.flatMap pairsOf, ∃ v, Sets pair k v
  · simp only [hk, true_or]
  · have hno : ∀ pair ∈ args.flatMap pairsOf, ∀ w, ¬Sets pair k w :=
      fun pair hp w hw => hk ⟨pair, hp, w, hw⟩
    rw [and_iff_right hno]

theorem of_overlay (h : Environment.parse args = .ok env) :
    EnvLaw args entries
      (Pipeline.unlessEmpty ((EnvVar.ofEntries entries).overlay env).entries) where
  ascending := by
    rw [Pipeline.unlessEmpty_getD]
    exact ((EnvVar.ofEntries entries).overlay env).sorted
  names := by
    rw [Pipeline.unlessEmpty_getD]
    exact exists_mem_overlay_iff h entries
  values := by
    rw [Pipeline.unlessEmpty_getD]
    exact mem_overlay_iff h entries
  absent := by
    rw [Pipeline.unlessEmpty_eq_none_iff]
    constructor
    · intro hnil k v
      have hno := mt (exists_mem_overlay_iff h entries k).mpr (by simp [hnil])
      exact ⟨fun pair hp hs => hno (.inl ⟨pair, hp, v, hs⟩),
        fun entry he hd => hno (.inr ⟨entry, he, v, hd⟩)⟩
    · intro hno
      refine List.eq_nil_iff_forall_not_mem.mpr fun (k, v) hm => ?_
      rcases (exists_mem_overlay_iff h entries k).mp ⟨v, hm⟩ with
        ⟨pair, hp, w, hs⟩ | ⟨entry, he, w, hd⟩
      · exact (hno k w).1 pair hp hs
      · exact (hno k w).2 entry he hd

end EnvLaw

/-! ## Runs -/

/-- The variables of the image that a strategy starts from are those of these entries. -/
def Strategy.HasEntries (strategy : Strategy) (entries : List String) : Prop :=
  strategy.base.elim .empty (·.env) = EnvVar.ofEntries entries

/-- An image with recorded settings has the entries of these. -/
theorem Strategy.hasEntries_of_settings {strategy : Strategy} {name : ImageName}
    {origin : ImageOrigin} {id : Option String} {settings : ContainerSettings}
    (h : strategy.base = some (.ofSettings name origin id settings)) :
    strategy.HasEntries settings.env := by
  rw [HasEntries, h]
  rfl

/-- The entries of an image: the last one for `C` counts, and one of them defines nothing. -/
def variedSettings : ContainerSettings :=
  { env := ["B=0", "C=x=y", "C=z=", "D"] }

/-- Collaborators for whom every image has these entries. -/
def variedFiles : Collaborators (StateM Unit) :=
  { everywhere "" with
    resolver :=
      { name := "registry"
        resolve := fun image =>
          pure (.ofSettings { name := image } .registry none variedSettings) } }

/-- The request to build with such an image, and to set variables. -/
def variedRequest (env : StringMap String) : Request :=
  { location := .directory "/app", strategy := some (.builderImage "ruby"), env }

end DeployPlan
