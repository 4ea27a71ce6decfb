import DeployPlan.Proofs.Generation.Look

/-!
# Choosing a strategy

`Choice` is how a strategy follows from a look at a source, and `Selection` how one is chosen in all
cases: each of them relates the calls, in their order, to what comes of them, and `select_records`
says that every choice goes like that. `Chosen` says where a strategy that is chosen comes from.
-/

namespace DeployPlan

variable {σ : Type}

/-- The strategy with an image that the caller names: one that brings its own tooling uses that. -/
def Strategy.ofNamedImage (image : Image) : Strategy :=
  { kind := if image.isCustomBuilder then .customTooling else .builderImage
    base := some image }

def Strategy.ofLanguageImage (image : Image) : Strategy :=
  { kind := .builderImage
    base := some image }

/-- The calls by which a snapshot of a source leads to a strategy: after a look at it, an image is
resolved if there is a language but no build file. -/
inductive Choice (place : String → String) (ds : List Detector) (source : Source) :
    List Call → Except Error Strategy → Prop
  | failed {calls : List Call} {e : Error} (look : Look place ds calls (.error e)) :
    Choice place ds source calls (.error e)
  | buildFile {calls : List Call} {file : BuildFile}
      (look : Look place ds calls (.ok (some (.buildFile file)))) :
    Choice place ds source calls (.ok (.ofBuildFile none file))
  | language {calls : List Call} {language image : String}
      (look : Look place ds calls (.ok (some (.builderImage language image))))
      (answer : Except Error Image) :
    Choice place ds source (calls ++ [.resolve image answer])
      (answer.map Strategy.ofLanguageImage)
  | nothing {calls : List Call} (look : Look place ds calls (.ok none)) :
    Choice place ds source calls (.error (.noStrategyMatch source.toString))

/-- The calls by which a strategy is chosen for a source, and the strategy, as far as the caller's
options do not count. -/
inductive Selection (ds : List Detector) (source : Source) :
    Option StrategyOverride → List Call → Except Error Strategy → Prop
  | refusedContext {dir : String} {e : Error} (h : Strategy.validateContext dir = .error e) :
    Selection ds source (some (.context dir)) [] (.error e)
  /-- The build file of a source that is not there remains unknown. -/
  | unseenContext {dir : String} (h : Strategy.validateContext dir = .ok ())
      (hr : source.buildRoot? = none) :
    Selection ds source (some (.context dir)) [] (.ok (.ofBuildFile (some dir) {}))
  | context {dir root : String} (h : Strategy.validateContext dir = .ok ())
      (hr : source.buildRoot? = some root) (answer : Except Error (Option String)) :
    Selection ds source (some (.context dir))
      [.read (Path.join (Path.join root dir) buildFileName) answer]
      (answer.bind fun text =>
        (text.elim (.ok {}) BuildFile.parse).map (Strategy.ofBuildFile (some dir)))
  | builderImage (name : String) (answer : Except Error Image) :
    Selection ds source (some (.builderImage name)) [.resolve name answer]
      (answer.map Strategy.ofNamedImage)
  /-- A source with a local root is looked at where it is. -/
  | present {root : String} {calls : List Call} {chosen : Except Error Strategy}
      (hr : source.buildRoot? = some root)
      (choice : Choice (Path.join root) ds source calls chosen) :
    Selection ds source none calls chosen
  | refused (hr : source.buildRoot? = none) (e : Error) :
    Selection ds source none [.fetch source (some e)] (.error e)
  | fetched {calls : List Call} {chosen : Except Error Strategy} (hr : source.buildRoot? = none)
      (choice : Choice id ds source calls chosen) :
    Selection ds source none (.fetch source none :: calls ++ [.release]) chosen

/-- Where a chosen strategy comes from: from the build file that is read, from the image of a
language if none is read, or from the image that the caller names. -/
inductive Chosen (choice : Option StrategyOverride) (calls : List Call) : Strategy → Prop
  | buildFile (dir : Option String) {file : BuildFile} (hf : BuildFileRead (textsRead calls) file) :
    Chosen choice calls (.ofBuildFile dir file)
  | language (image : Image) (ht : textsRead calls = []) :
    Chosen choice calls (.ofLanguageImage image)
  | named {name : String} {image : Image} (hn : choice = some (.builderImage name))
      (hc : calls = [.resolve name (.ok image)]) :
    Chosen choice calls (.ofNamedImage image)

/-- The calls that read the same texts give the same strategies, if the caller names no image. -/
theorem Chosen.of_textsRead {calls calls' : List Call} {strategy : Strategy}
    (h : Chosen none calls strategy) (ht : textsRead calls' = textsRead calls) :
    Chosen none calls' strategy := by
  cases h with
  | buildFile dir hf => exact .buildFile dir (ht ▸ hf)
  | language image hn => exact .language image (ht.trans hn)
  | named hn hc => cases hn

theorem Choice.chosen {place : String → String} {ds : List Detector} {source : Source}
    {calls : List Call} {strategy : Strategy} (h : Choice place ds source calls (.ok strategy)) :
    Chosen none calls strategy := by
  generalize hs : Except.ok strategy = result at h
  cases h with
  | failed look => cases hs
  | nothing look => cases hs
  | buildFile look =>
    cases hs
    exact .buildFile none look.buildFileRead
  | language look answer =>
    cases answer with
    | error e => cases hs
    | ok image =>
      cases hs
      refine .language image ?_
      rw [textsRead_append, look.textsRead_eq_nil]
      rfl

namespace Selection

variable {ds : List Detector} {source : Source} {calls : List Call} {strategy : Strategy}

/-- With a context directory, the strategy is that of a build file, which may remain unknown. -/
theorem of_context {dir : String}
    (h : Selection ds source (some (.context dir)) calls (.ok strategy)) :
    Strategy.validateContext dir = .ok () ∧ ∃ file,
      strategy = Strategy.ofBuildFile (some dir) file ∧ BuildFileRead (textsRead calls) file := by
  generalize hs : Except.ok strategy = result at h
  cases h with
  | refusedContext => cases hs
  | unseenContext hv =>
    cases hs
    exact ⟨hv, _, rfl, .nothing⟩
  | context hv hr answer =>
    rcases answer with e | _ | text
    · cases hs
    · cases hs
      exact ⟨hv, _, rfl, .nothing⟩
    · simp only [Except.bind, Option.elim] at hs
      cases hf : BuildFile.parse text with
      | error e =>
        rw [hf] at hs
        cases hs
      | ok file =>
        rw [hf] at hs
        cases hs
        exact ⟨hv, file, rfl, .text hf⟩

theorem chosen {choice : Option StrategyOverride}
    (h : Selection ds source choice calls (.ok strategy)) : Chosen choice calls strategy := by
  rcases choice with _ | dir | name
  · generalize hs : Except.ok strategy = result at h
    cases h with
    | present hr choice =>
      subst hs
      exact choice.chosen
    | refused => cases hs
    | @fetched calls _ hr choice =>
      subst hs
      refine choice.chosen.of_textsRead ?_
      show textsRead (calls ++ [.release]) = textsRead calls
      rw [textsRead_append]
      exact List.append_nil _
  · obtain ⟨-, file, rfl, hf⟩ := h.of_context
    exact .buildFile _ hf
  · generalize hs : Except.ok strategy = result at h
    cases h with
    | builderImage name answer =>
      cases answer with
      | error e => cases hs
      | ok image =>
        cases hs
        exact .named rfl rfl

end Selection

namespace Strategy

theorem ofSnapshot_records {place : String → String} {noted : Snapshot (Recording Call σ)}
    {plain : Snapshot (StateM σ)} (hs : Snapshot.Mirrors place noted plain)
    (resolver : Resolver (StateM σ)) (ds : List Detector) (source : Source) (s : σ) :
    Records (ofSnapshot (resolver.noting Call.resolve) ds source noted)
      (ofSnapshot resolver ds source plain) s
      fun calls chosen _ => Choice place ds source calls chosen := by
  refine Records.bind (detect_records hs ds s) ?_ fun c e t look => .failed look
  rintro c (_ | file | ⟨language, image⟩) t look
  · refine Records.throw _ ?_
    rw [List.append_nil]
    exact .nothing look
  · refine Records.pure _ ?_
    rw [List.append_nil]
    exact .buildFile look
  · refine Records.bind (Resolver.resolve_noting Call.resolve resolver image t) ?_ ?_
    · rintro d base u rfl
      refine Records.pure _ ?_
      rw [List.append_nil]
      exact .language look (.ok base)
    · rintro d e u rfl
      exact .language look (.error e)

theorem ofContext_records (files : Files (StateM σ)) (ds : List Detector) (source : Source)
    (dir : String) (s : σ) :
    Records (ofContext files.noted source dir) (ofContext files source dir) s
      fun calls chosen _ => Selection ds source (some (.context dir)) calls chosen := by
  refine Records.bindExcept (fun _ h => ?_) fun e h => .refusedContext h
  split
  · rename_i hr
    exact Records.pure _ (.unseenContext h hr)
  · rename_i root hr
    have hc : ∀ answer, Selection ds source _ _ _ := .context h hr
    refine Records.bind (Snapshot.readFile_noted files _ s) ?_ ?_
    · rintro c (_ | text) t rfl
      · exact Records.pure _ (hc (.ok none))
      · refine Records.bindExcept (fun file hf => ?_) fun e hf => ?_
        · have := hc (.ok (some text))
          simp only [Except.bind, Option.elim, hf] at this
          exact Records.pure _ this
        · have := hc (.ok (some text))
          simp only [Except.bind, Option.elim, hf] at this
          exact this
    · rintro c e t rfl
      exact hc (.error e)

theorem ofBuilder_records (resolver : Resolver (StateM σ)) (ds : List Detector) (source : Source)
    (name : String) (s : σ) :
    Records (ofBuilder (resolver.noting Call.resolve) name) (ofBuilder resolver name) s
      fun calls chosen _ => Selection ds source (some (.builderImage name)) calls chosen := by
  refine Records.bind (Resolver.resolve_noting Call.resolve resolver name s) ?_ ?_
  · rintro c image t rfl
    exact Records.pure _ (.builderImage name (.ok image))
  · rintro c e t rfl
    exact .builderImage name (.error e)

/-- A strategy is chosen for a snapshot, and the snapshot is released however that ends. -/
theorem ofSnapshot_release_records {place : String → String} {noted : Snapshot (Recording Call σ)}
    {plain : Snapshot (StateM σ)} (hs : Snapshot.Mirrors place noted plain) {released : List Call}
    (hr : ∀ s, Notes id noted.release plain.release s fun calls _ _ => calls = released)
    (resolver : Resolver (StateM σ)) (ds : List Detector) (source : Source) (s : σ) :
    Records
      (ExceptT.mk do
        let result ← (ofSnapshot (resolver.noting Call.resolve) ds source noted).run
        noted.release
        return result)
      (ExceptT.mk do
        let result ← (ofSnapshot resolver ds source plain).run
        plain.release
        return result) s
      fun calls chosen _ => ∃ choosing, calls = choosing ++ released ∧
        Choice place ds source choosing chosen := by
  refine Notes.bind (ofSnapshot_records hs resolver ds source s) fun c chosen t choice => ?_
  refine Notes.bind (hr t) fun d _ u hd => ?_
  refine Notes.pure id chosen ⟨c, ?_, choice⟩
  rw [List.append_nil, hd]

theorem ofSource_records (files : Files (StateM σ)) (resolver : Resolver (StateM σ))
    (fetcher : Fetcher (StateM σ)) (ds : List Detector) (source : Source) (s : σ) :
    Records (ofSource files.noted (resolver.noting Call.resolve) fetcher.noted ds source)
      (ofSource files resolver fetcher ds source) s
      fun calls chosen _ => Selection ds source none calls chosen := by
  rw [ofSource, ofSource, snapshotOf, snapshotOf]
  cases hr : source.buildRoot? with
  | some root =>
    have hrel : ∀ s, Notes id (Snapshot.ofDirectory files.noted root).release
        (Snapshot.ofDirectory files root).release s fun calls _ _ => calls = [] :=
      fun s => Notes.pure id () rfl
    refine (ofSnapshot_release_records (Snapshot.ofDirectory_mirrors files root) hrel resolver ds
      source s).mono ?_
    rintro calls chosen t ⟨choosing, rfl, choice⟩
    rw [List.append_nil]
    exact .present hr choice
  | none =>
    refine Records.bindWith Snapshot.noted (fetch_noted fetcher source s) ?_ ?_
    · rintro c snapshot t rfl
      have hrel : ∀ s, Notes id snapshot.noted.release snapshot.release s
          fun calls _ _ => calls = [Call.release] :=
        fun s => .of_note (fun _ => Call.release) snapshot.release s
      refine (ofSnapshot_release_records snapshot.noted_mirrors hrel resolver ds source t).mono ?_
      rintro calls chosen u ⟨choosing, rfl, choice⟩
      exact .fetched hr choice
    · rintro c e t rfl
      exact .refused hr e

/-- A strategy is chosen as `Selection` says; then the options of the caller are added. -/
theorem select_records (c : Collaborators (StateM σ)) (source : Source)
    (choice : Option StrategyOverride) (options : StrategyOptions) (s : σ) :
    Records
      (select c.noted.files c.noted.resolver c.noted.fetcher c.noted.detectors source choice
        options)
      (select c.files c.resolver c.fetcher c.detectors source choice options) s
      fun calls result _ => ∃ chosen, Selection c.detectors source choice calls chosen ∧
        result = chosen.map ({ · with options }) := by
  have hf {x : ExceptT Error (Recording Call σ) Strategy} {y : ExceptT Error (StateM σ) Strategy}
      (h : Records x y s fun calls chosen _ => Selection c.detectors source choice calls chosen) :
      Records (x >>= fun strategy => pure { strategy with options })
        (y >>= fun strategy => pure { strategy with options }) s
        fun calls result _ => ∃ chosen, Selection c.detectors source choice calls chosen ∧
          result = chosen.map ({ · with options }) := by
    refine Records.bind h (fun calls strategy t selection => ?_) fun calls e t selection => ?_
    · refine Records.pure _ ⟨.ok strategy, ?_, rfl⟩
      rwa [List.append_nil]
    · exact ⟨.error e, selection, rfl⟩
  rcases choice with _ | dir | name
  · exact hf (ofSource_records c.files c.resolver c.fetcher c.detectors source s)
  · exact hf (ofContext_records c.files c.detectors source dir s)
  · exact hf (ofBuilder_records c.resolver c.detectors source name s)

end Strategy

end DeployPlan
