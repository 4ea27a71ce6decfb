import DeployPlan.Pipeline
import DeployPlan.Proofs.Text.Blanks

/-!
# How pipelines are put together

The parts of a pipeline are checked one after another. `fault?` is the first thing that is wrong
with them, and `new_eq` says that nothing else decides; `new_eq_ok_iff` says which parts are
accepted. A decision whether the result runs replaces the one before (`needsDeployment_eq`).
-/

namespace DeployPlan.Pipeline

variable {name : String} {base : Option Image} {strategy : Strategy} {source : Source}
  {p : Pipeline}

/-! ## Checks -/

/-- The parts of a pipeline fit together. -/
structure Fits (name : String) (base : Option Image) (strategy : Strategy) : Prop where
  named : name ≠ ""
  /-- A strategy that starts from an image has a base. -/
  based : strategy.kind ≠ .buildFile → ∃ image, base = some image
  /-- The directory of a build file is not blank, if there is one. -/
  placed : strategy.kind = .buildFile → ∀ dir, strategy.contextDir = some dir →
    ∃ c ∈ dir.toList, Text.isBlank c = false
  /-- Pipeline and strategy have the same base, if both have one. -/
  agreed : ∀ image, base = some image → ∀ other, strategy.base = some other →
    image.name = other.name

/-- What is wrong with a strategy of its kind, if anything is. -/
def kindFault? (name : String) (base : Option Image) (strategy : Strategy) : Option Error :=
  match strategy.kind with
  | .builderImage | .customTooling =>
    if base.isNone then
      some (.pipelineConsistency
        (strategy.kind.word ++ " strategy for " ++ name ++ " has no base image"))
    else none
  | .buildFile =>
    if strategy.contextDir.any isBlankText then
      some (.pipelineConsistency ("container-native strategy for " ++ name ++ " has no context"))
    else none

/-- What is wrong between the base of a pipeline and that of its strategy, if anything is. -/
def baseFault? : Option Image → Option Image → Option Error
  | some image, some other =>
    if image.name ≠ other.name then
      some (.pipelineConsistency
        ("base image " ++ image.pullSpec ++ " does not match strategy base " ++ other.pullSpec))
    else none
  | _, _ => none

/-- The first thing that is wrong with the parts of a pipeline, if anything is. -/
def fault? (name : String) (base : Option Image) (strategy : Strategy) : Option Error :=
  if name = "" then some (.pipelineConsistency "pipeline name is empty")
  else (kindFault? name base strategy).or (baseFault? base strategy.base)

/-- A pipeline is refused with the first thing that is wrong, or made of its parts. -/
theorem new_eq (name : String) (base : Option Image) (strategy : Strategy) (source : Source) :
    new name base strategy source =
      match fault? name base strategy with
      | some e => .error e
      | none => .ok { name, base, source, strategy } := by
  simp only [new, bind, Except.bind, pure, Except.pure, fault?, kindFault?]
  split
  · rfl
  · cases strategy.kind <;> dsimp only <;> split <;> try rfl
    all_goals
      cases base <;> cases strategy.base <;> try rfl
      simp only [baseFault?]
      split <;> rfl

theorem isBlankText_eq_false_iff {s : String} :
    isBlankText s = false ↔ ¬Text.Blanks s.toList := by
  rw [isBlankText, beq_eq_false_iff_ne, Ne, Text.trim_eq_nil_iff]

/-- Nothing is wrong with a strategy if it has the base, or the directory, that its kind needs. -/
theorem kindFault?_eq_none_iff :
    kindFault? name base strategy = none ↔
      (strategy.kind ≠ .buildFile → ∃ image, base = some image) ∧
        (strategy.kind = .buildFile → ∀ dir, strategy.contextDir = some dir →
          ∃ c ∈ dir.toList, Text.isBlank c = false) := by
  have hdir : strategy.contextDir.any isBlankText = false ↔
      ∀ dir, strategy.contextDir = some dir → ∃ c ∈ dir.toList, Text.isBlank c = false := by
    cases strategy.contextDir with
    | none => simp
    | some dir => simp [isBlankText_eq_false_iff, Text.Blanks]
  rw [kindFault?]
  cases strategy.kind with
  | buildFile => simpa using hdir
  | builderImage => cases base <;> simp
  | customTooling => cases base <;> simp

theorem baseFault?_eq_none_iff {base other : Option Image} :
    baseFault? base other = none ↔
      ∀ image, base = some image → ∀ image', other = some image' → image.name = image'.name := by
  cases base <;> cases other <;> simp [baseFault?]

@[simp]
theorem baseFault?_self (base : Option Image) : baseFault? base base = none := by
  rw [baseFault?_eq_none_iff]
  rintro image rfl _ ⟨⟩
  rfl

theorem fault?_eq_none_iff : fault? name base strategy = none ↔ Fits name base strategy := by
  have hfits : Fits name base strategy ↔ name ≠ "" ∧ kindFault? name base strategy = none ∧
      baseFault? base strategy.base = none := by
    rw [kindFault?_eq_none_iff, baseFault?_eq_none_iff]
    exact ⟨fun ⟨hn, hb, hp, ha⟩ => ⟨hn, ⟨hb, hp⟩, ha⟩, fun ⟨hn, ⟨hb, hp⟩, ha⟩ => ⟨hn, hb, hp, ha⟩⟩
  rw [fault?, hfits]
  by_cases hn : name = ""
  · simp [hn]
  · rw [if_neg hn, Option.or_eq_none_iff]
    exact (and_iff_right hn).symm

/-- A pipeline is accepted if and only if its parts fit together, and is made of them. -/
theorem new_eq_ok_iff :
    new name base strategy source = .ok p ↔
      Fits name base strategy ∧ p = { name, base, source, strategy } := by
  rw [new_eq, ← fault?_eq_none_iff]
  cases fault? name base strategy <;> simp [eq_comm]

/-! ## Decisions -/

/-- What a deployment runs with that is decided on with some variables, if there is to be one. -/
def planFor (p : Pipeline) (env : StringMap String) : Option DeploymentPlan :=
  if p.strategy.isBuildOnly then none
  else
    some
      { env := (p.base.elim .empty (·.env)).overlay env
        ports := p.strategy.exposedPorts }

theorem isSome_planFor (p : Pipeline) (env : StringMap String) :
    (p.planFor env).isSome = !p.strategy.isBuildOnly := by
  rw [planFor]
  cases p.strategy.isBuildOnly <;> rfl

/-- A decision replaces the one before. -/
theorem needsDeployment_eq (p : Pipeline) (env : StringMap String) :
    p.needsDeployment env =
      (!p.strategy.isBuildOnly, { p with deployment := p.planFor env }) := by
  rw [needsDeployment, planFor]
  cases p.strategy.isBuildOnly <;> rfl

end DeployPlan.Pipeline
