import DeployPlan.Encoding.Object
import DeployPlan.Proofs.Encoding.Schema

/-!
# Objects are shown by what is written of them

What is written of an object shows all of it but the parts of seconds: `object_shows`. There is one
lemma for each record, from the smallest (`imageReference_injective`) to the definitions of builds
and deployments; pods and services are told apart as values of their schemas. Objects of different
kinds are told apart by the word for their kind, if it is the one that they are made with
(`Object.Constructed`).
-/

namespace DeployPlan

namespace Encoding

attribute [ext] ImageReference GitSource BuildSource BuildFileStrategy BuilderStrategy CustomStrategy
  BuildStrategy ContainerPort Variable Container PodTemplate ServicePort ServiceSpec BuildConfig
  DeploymentConfig Service ImageRepository

/-! ## Builds -/

theorem imageReference_injective : Function.Injective imageReference := by
  intro i i' h
  simp only [imageReference, given_eq_present, cons_present, List.cons_append, List.nil_append] at h
  have hparts := members_injective h (by simp) (by simp)
  simp only [List.cons.injEq, Prod.mk.injEq, true_and, and_true, Option.some_inj,
    Json.str.injEq] at hparts
  obtain ⟨h1, h2, h3⟩ := hparts
  exact ImageReference.ext_iff.mpr ⟨h1, h2, Option.map_injective str_injective h3⟩

theorem gitSource_injective : Function.Injective gitSource := by
  intro g g' h
  simp only [gitSource, given_eq_present, cons_present] at h
  have hparts := members_injective h (by simp) (by simp)
  simp only [List.cons.injEq, Prod.mk.injEq, true_and, and_true, Option.some_inj,
    Json.str.injEq] at hparts
  obtain ⟨h1, h2⟩ := hparts
  exact GitSource.ext_iff.mpr ⟨h1, Option.map_injective str_injective h2⟩

theorem buildSource_injective : Function.Injective buildSource := by
  intro s s' h
  simp only [buildSource, given_eq_present, cons_present, present_append, List.cons_append,
    List.nil_append] at h
  have hparts := members_injective h (by simp) (by simp)
  simp only [List.cons.injEq, Prod.mk.injEq, true_and, and_true, Option.some_inj,
    Json.str.injEq] at hparts
  obtain ⟨h1, h2, h3⟩ := hparts
  exact BuildSource.ext_iff.mpr ⟨h1, Option.map_injective gitSource_injective h2,
    Option.map_injective str_injective h3⟩

theorem buildFileStrategy_injective : Function.Injective buildFileStrategy := by
  intro s s' h
  simp only [buildFileStrategy, given_eq_present, cons_present] at h
  have hparts := members_injective h (by simp) (by simp)
  simp only [List.cons.injEq, Prod.mk.injEq, true_and, and_true, Option.some_inj,
    Json.bool.injEq] at hparts
  obtain ⟨h1, h2⟩ := hparts
  exact BuildFileStrategy.ext_iff.mpr ⟨h1, Option.map_injective imageReference_injective h2⟩

theorem builderStrategy_injective : Function.Injective builderStrategy := by
  intro s s' h
  simp only [builderStrategy, Json.obj.injEq, List.cons.injEq, Prod.mk.injEq, true_and, and_true,
    Json.bool.injEq] at h
  exact BuilderStrategy.ext_iff.mpr ⟨imageReference_injective h.1, h.2⟩

/-- Variables that are left out are none. -/
theorem env_eq_present (env : StringMap String) :
    (if env.isEmpty then [] else [("env", stringMap env)]) =
      present [("env", if env.isEmpty then none else some (stringMap env))] := by
  split <;> rfl

theorem env_injective : Function.Injective fun env : StringMap String =>
    if env.isEmpty then none else some (stringMap env) := by
  intro env env' h
  have hempty (e : StringMap String) (he : e.isEmpty = true) : e = .empty := by
    obtain ⟨entries, hs⟩ := e
    obtain rfl : entries = [] := List.isEmpty_iff.mp he
    rfl
  simp only at h
  split at h <;> split at h
  · rename_i he he'
    rw [hempty env he, hempty env' he']
  · cases h
  · cases h
  · exact stringMap_injective (Option.some.inj h)

theorem customStrategy_injective : Function.Injective customStrategy := by
  intro s s' h
  simp only [customStrategy, env_eq_present, cons_present, List.cons_append, List.nil_append] at h
  have hparts := members_injective h (by simp) (by simp)
  simp only [List.cons.injEq, Prod.mk.injEq, true_and, and_true, Option.some_inj,
    Json.bool.injEq] at hparts
  obtain ⟨h1, h2, h3⟩ := hparts
  exact CustomStrategy.ext_iff.mpr ⟨imageReference_injective h1, h2, env_injective h3⟩

theorem word_injective : Function.Injective StrategyKind.word := by
  intro k k'
  cases k <;> cases k' <;> decide

theorem buildStrategy_injective : Function.Injective buildStrategy := by
  intro s s' h
  simp only [buildStrategy, given_eq_present, cons_present, present_append, List.cons_append,
    List.nil_append] at h
  have hparts := members_injective h (by simp) (by simp)
  simp only [List.cons.injEq, Prod.mk.injEq, true_and, and_true, Option.some_inj,
    Json.str.injEq] at hparts
  obtain ⟨h1, h2, h3, h4⟩ := hparts
  exact BuildStrategy.ext_iff.mpr ⟨word_injective h1,
    Option.map_injective buildFileStrategy_injective h2,
    Option.map_injective builderStrategy_injective h3,
    Option.map_injective customStrategy_injective h4⟩

theorem buildTrigger_injective : Function.Injective buildTrigger := by
  intro t t' h
  cases t with
  | configChange =>
    cases t' with
    | configChange => rfl
    | imageChange base tag => simp [buildTrigger] at h
  | imageChange base tag =>
    cases t' with
    | configChange => simp [buildTrigger] at h
    | imageChange base' tag' =>
      simp only [buildTrigger, Json.obj.injEq, List.cons.injEq, Prod.mk.injEq, true_and, and_true,
        Json.str.injEq] at h
      rw [imageReference_injective h.1, h.2]

theorem deploymentTrigger_injective : Function.Injective deploymentTrigger := by
  intro t t' h
  cases t with
  | configChange =>
    cases t' with
    | configChange => rfl
    | imageChange automatic containers image tag => simp [deploymentTrigger] at h
  | imageChange automatic containers image tag =>
    cases t' with
    | configChange => simp [deploymentTrigger] at h
    | imageChange automatic' containers' image' tag' =>
      simp only [deploymentTrigger, Json.obj.injEq, List.cons.injEq, Prod.mk.injEq, true_and,
        and_true, Json.str.injEq, Json.bool.injEq] at h
      obtain ⟨h1, h2, h3, h4⟩ := h
      rw [h1, texts_injective h2, imageReference_injective h3, h4]

/-! ## Pods and services -/

theorem portValue_injective : Function.Injective portValue := by
  intro p p' h
  obtain ⟨hnumber, h⟩ := Prod.mk.inj h
  exact ContainerPort.ext_iff.mpr ⟨hnumber, Prod.mk.inj h⟩

theorem variableValue_injective : Function.Injective variableValue := by
  intro v v' h
  obtain ⟨hname, h⟩ := Prod.mk.inj h
  obtain ⟨hvalue, h⟩ := Prod.mk.inj h
  exact Variable.ext_iff.mpr ⟨hname, hvalue, (Prod.mk.inj h).1⟩

theorem containerValue_injective : Function.Injective containerValue := by
  intro c c' h
  obtain ⟨hname, h⟩ := Prod.mk.inj h
  obtain ⟨himage, h⟩ := Prod.mk.inj h
  obtain ⟨hports, h⟩ := Prod.mk.inj h
  obtain ⟨henv, hothers⟩ := Prod.mk.inj h
  exact Container.ext_iff.mpr ⟨hname, himage,
    Option.map_injective portValue_injective.list_map hports,
    Option.map_injective variableValue_injective.list_map henv, hothers⟩

theorem servicePortValue_injective : Function.Injective servicePortValue := by
  intro p p' h
  obtain ⟨hport, h⟩ := Prod.mk.inj h
  obtain ⟨htarget, h⟩ := Prod.mk.inj h
  exact ServicePort.ext_iff.mpr ⟨hport, htarget, Prod.mk.inj h⟩

theorem serviceValue_injective : Function.Injective serviceValue := by
  intro s s' h
  obtain ⟨hports, h⟩ := Prod.mk.inj h
  exact ServiceSpec.ext_iff.mpr
    ⟨Option.map_injective servicePortValue_injective.list_map hports, Prod.mk.inj h⟩

theorem podValue_injective : Function.Injective podValue := by
  intro t t' h
  obtain ⟨hmetadata, h⟩ := Prod.mk.inj h
  have hpods := (Prod.mk.inj h).1
  refine PodTemplate.ext_iff.mpr ⟨hmetadata, ?_⟩
  cases hc : t.containers with
  | none =>
    cases hc' : t'.containers with
    | none => exact ⟨rfl, (t.specified hc).trans (t'.specified hc').symm⟩
    | some cs' =>
      rw [hc, hc'] at hpods
      cases hpods
  | some cs =>
    cases hc' : t'.containers with
    | none =>
      rw [hc, hc'] at hpods
      cases hpods
    | some cs' =>
      rw [hc, hc'] at hpods
      obtain ⟨hcs, hothers⟩ := Prod.mk.inj (Option.some.inj hpods)
      have hcontainers := containerValue_injective.list_map hcs
      exact ⟨congrArg some hcontainers, hothers⟩

end Encoding

def PodTemplate.truncate (t : PodTemplate) : PodTemplate where
  metadata := t.metadata.map Metadata.truncate
  containers := t.containers
  others := Field.truncateAll _ t.others
  specified h := by
    rw [t.specified h]
    exact Field.truncateAll_blanks _

namespace Encoding

theorem truncate_podValue (t : PodTemplate) :
    Schema.podTemplate.truncate (podValue t) = podValue t.truncate := by
  have hcontainer : ∀ c : Schema.container.Value, Schema.container.truncate c = c :=
    Schema.container.truncate_eq_self (by decide)
  obtain ⟨metadata, _ | cs, others, specified⟩ := t
  · rfl
  · have hpod : Schema.pod.truncate (cs.map containerValue, others) =
        (cs.map containerValue, Field.truncateAll _ others) :=
      Prod.ext (List.map_id'' hcontainer _) rfl
    exact Prod.ext rfl (Prod.ext (congrArg some hpod) rfl)

theorem podTemplate_isDistinct : Schema.podTemplate.isDistinct = true := by
  decide +kernel

theorem serviceSpec_isDistinct : Schema.serviceSpec.isDistinct = true := by
  decide +kernel

theorem serviceStatus_isDistinct : Schema.serviceStatus.isDistinct = true := by
  decide +kernel

theorem podTemplate_shows :
    Shows (fun t => value Schema.podTemplate (podValue t)) PodTemplate.truncate := by
  intro t t'
  rw [value_shows _ podTemplate_isDistinct, truncate_podValue, truncate_podValue]
  exact ⟨fun h => podValue_injective h, congrArg podValue⟩

theorem serviceSpec_injective :
    Function.Injective fun spec => value Schema.serviceSpec (serviceValue spec) := by
  have htimeless : Schema.serviceSpec.isTimeless = true := by decide
  intro s s' h
  have hs := (value_shows _ serviceSpec_isDistinct _ _).mp h
  rw [Schema.truncate_eq_self _ htimeless, Schema.truncate_eq_self _ htimeless] at hs
  exact serviceValue_injective hs

end Encoding

/-! ## Objects -/

def BuildConfig.truncate (b : BuildConfig) : BuildConfig :=
  { b with metadata := b.metadata.truncate }

def DeploymentConfig.truncate (d : DeploymentConfig) : DeploymentConfig :=
  { d with metadata := d.metadata.truncate, template := d.template.truncate }

def Service.truncate (s : Service) : Service :=
  { s with metadata := s.metadata.truncate, status := s.status.map Schema.serviceStatus.truncate }

def ImageRepository.truncate (r : ImageRepository) : ImageRepository :=
  { r with metadata := r.metadata.truncate }

/-- The object without the parts of seconds. -/
def Object.truncate : Object → Object
  | .buildConfig b => .buildConfig b.truncate
  | .deploymentConfig d => .deploymentConfig d.truncate
  | .service s => .service s.truncate
  | .imageRepository r => .imageRepository r.truncate

theorem Object.kind_truncate (o : Object) : o.truncate.kind = o.kind := by
  cases o <;> rfl

/-- The kind and the version of the object are those that it is made with. -/
def Object.Constructed : Object → Prop
  | .buildConfig b => b.kind = ObjectKind.buildConfig.word ∧ b.apiVersion = apiVersion
  | .deploymentConfig d => d.kind = ObjectKind.deploymentConfig.word ∧ d.apiVersion = apiVersion
  | .service _ => True
  | .imageRepository r => r.kind = ObjectKind.imageRepository.word ∧ r.apiVersion = apiVersion

theorem ObjectKind.word_injective : Function.Injective ObjectKind.word := by
  intro k k'
  cases k <;> cases k' <;> decide

namespace Encoding

theorem buildConfig_shows : Shows buildConfig BuildConfig.truncate := by
  intro b b'
  have htriggers := Shows.of_injective (items_injective buildTrigger_injective)
  have hsource := Shows.of_injective buildSource_injective
  have hstrategy := Shows.of_injective buildStrategy_injective
  have houtput := Shows.of_injective imageReference_injective
  simp only [buildConfig, Json.obj.injEq, List.cons.injEq, Prod.mk.injEq, true_and, and_true,
    Json.str.injEq, metadata_shows _ _, htriggers _ _, hsource _ _, hstrategy _ _, houtput _ _, id,
    BuildConfig.ext_iff, BuildConfig.truncate]

theorem deploymentConfig_shows : Shows deploymentConfig DeploymentConfig.truncate := by
  intro d d'
  have htriggers := Shows.of_injective (items_injective deploymentTrigger_injective)
  have hselector := Shows.of_injective stringMap_injective
  simp only [deploymentConfig, Json.obj.injEq, List.cons.injEq, Prod.mk.injEq, true_and, and_true,
    Json.str.injEq, Json.int.injEq, metadata_shows _ _, htriggers _ _, hselector _ _,
    podTemplate_shows _ _, id, DeploymentConfig.ext_iff, DeploymentConfig.truncate]

theorem service_shows : Shows service Service.truncate := by
  intro s s'
  have hspec := Shows.of_injective (Option.map_injective serviceSpec_injective)
  have hstatus := (value_shows _ serviceStatus_isDistinct).option
  simp only [service, given_eq_present, cons_present, present_append, List.cons_append,
    List.nil_append, Json.obj.injEq]
  rw [present_eq_present_iff (by simp) (by simp)]
  simp only [List.cons.injEq, Prod.mk.injEq, true_and, and_true, Option.some_inj,
    metadata_shows _ _, hspec _ _, hstatus _ _, id, Service.ext_iff, Service.truncate]

theorem imageRepository_shows : Shows imageRepository ImageRepository.truncate := by
  intro r r'
  have htext := Shows.of_injective (Option.map_injective str_injective)
  simp only [imageRepository, given_eq_present, cons_present, List.cons_append, List.nil_append,
    Json.obj.injEq]
  rw [present_eq_present_iff (by simp) (by simp)]
  simp only [List.cons.injEq, Prod.mk.injEq, true_and, and_true, Option.some_inj, Json.str.injEq,
    metadata_shows _ _, htext _ _, id, ImageRepository.ext_iff, ImageRepository.truncate]

/-- An object is written with its own kind and with the version of the platform's interface. -/
theorem member?_object {o : Object} (h : o.Constructed) :
    (object o).member? "kind" = some (.str o.kind.word) ∧
      (object o).member? "apiVersion" = some (.str apiVersion) := by
  cases o with
  | buildConfig b =>
    obtain ⟨hk, hv⟩ := h
    simp [object, buildConfig, Json.member?, hk, hv, Object.kind]
  | deploymentConfig d =>
    obtain ⟨hk, hv⟩ := h
    simp [object, deploymentConfig, Json.member?, hk, hv, Object.kind]
  | service s =>
    cases hs : s.spec <;> cases ht : s.status <;>
      simp [object, service, Json.member?, given, hs, ht, Object.kind]
  | imageRepository r =>
    obtain ⟨hk, hv⟩ := h
    cases hf : r.follows <;>
      simp [object, imageRepository, Json.member?, given, hf, hk, hv, Object.kind]

theorem object_eq_object_iff {o o' : Object} (h : o.Constructed) (h' : o'.Constructed) :
    object o = object o' ↔ o.truncate = o'.truncate := by
  have hkind (he : object o = object o') : o.kind = o'.kind := by
    have hk := (member?_object h).1
    rw [he, (member?_object h').1] at hk
    exact (ObjectKind.word_injective (Json.str.inj (Option.some.inj hk))).symm
  have differ (hk : o.kind ≠ o'.kind) : object o = object o' ↔ o.truncate = o'.truncate :=
    ⟨fun he => absurd (hkind he) hk,
      fun he => absurd (by rw [← o.kind_truncate, he, o'.kind_truncate]) hk⟩
  cases o with
  | buildConfig b =>
    cases o' with
    | buildConfig b' =>
      rw [object, object, buildConfig_shows, Object.truncate, Object.truncate,
        Object.buildConfig.injEq]
    | _ => exact differ (by simp [Object.kind])
  | deploymentConfig d =>
    cases o' with
    | deploymentConfig d' =>
      rw [object, object, deploymentConfig_shows, Object.truncate, Object.truncate,
        Object.deploymentConfig.injEq]
    | _ => exact differ (by simp [Object.kind])
  | service s =>
    cases o' with
    | service s' =>
      rw [object, object, service_shows, Object.truncate, Object.truncate, Object.service.injEq]
    | _ => exact differ (by simp [Object.kind])
  | imageRepository r =>
    cases o' with
    | imageRepository r' =>
      rw [object, object, imageRepository_shows, Object.truncate, Object.truncate,
        Object.imageRepository.injEq]
    | _ => exact differ (by simp [Object.kind])

end Encoding

end DeployPlan
