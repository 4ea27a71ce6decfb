import DeployPlan.Proofs.Generation.Calls

/-!
# Looking at a source

`FailureEnds` says that a call which fails is the last one and gives the result; it is put together
part by part, as runs are. `Look` is how a snapshot of a source is looked at: which files are read
and looked for, in their order, and what comes of it. `detect_records` says that every detection
goes like that.
-/

namespace DeployPlan

variable {σ α β : Type}

/-! ## Failing calls -/

/-- A call that fails ends the run: its error is the result, and no call but the release of a
snapshot follows it. -/
def FailureEnds (calls : List Call) (result : Except Error α) : Prop :=
  ∀ before call after e, calls = before ++ call :: after → call.failure? = some e →
    result = .error e ∧ ∀ later ∈ after, later = .release

namespace FailureEnds

theorem of_none {calls : List Call} {result : Except Error α}
    (h : ∀ call ∈ calls, call.failure? = none) : FailureEnds calls result := by
  intro before call after e he hf
  rw [h call (by simp [he])] at hf
  cases hf

/-- Calls that do not fail may come before. -/
theorem cons {call : Call} {calls : List Call} {result : Except Error α}
    (h : FailureEnds calls result) (hc : call.failure? = none) :
    FailureEnds (call :: calls) result := by
  intro before call' after e he hf
  cases before with
  | nil =>
    rw [List.nil_append, List.cons.injEq] at he
    rw [← he.1, hc] at hf
    cases hf
  | cons _ before =>
    rw [List.cons_append, List.cons.injEq] at he
    exact h before call' after e he.2 hf

theorem single {call : Call} {result : Except Error α}
    (h : ∀ e, call.failure? = some e → result = .error e) : FailureEnds [call] result := by
  intro before call' after e he hf
  obtain ⟨rfl, rfl, rfl⟩ : before = [] ∧ call = call' ∧ after = [] := by
    cases before <;> simp_all
  exact ⟨h e hf, by simp⟩

theorem failure?_eq_none {calls : List Call} {a : α} (h : FailureEnds calls (.ok a)) {call : Call}
    (hc : call ∈ calls) : call.failure? = none := by
  obtain ⟨before, after, rfl⟩ := List.append_of_mem hc
  cases hf : call.failure? with
  | none => rfl
  | some e => cases (h before call after e rfl hf).1

/-- The calls of a part that succeeds, and those of the next part. -/
theorem append {first calls : List Call} {a : α} {result : Except Error β}
    (h : FailureEnds first (.ok a)) (hr : FailureEnds calls result) :
    FailureEnds (first ++ calls) result := by
  induction first with
  | nil => exact hr
  | cons call first ih =>
    refine (ih ?_).cons (h.failure?_eq_none List.mem_cons_self)
    intro before call' after e he
    exact h (call :: before) call' after e (by rw [he, List.cons_append])

theorem of_result {calls : List Call} {r : Except Error α} {r' : Except Error β}
    (h : FailureEnds calls r) (hr : ∀ e, r = .error e → r' = .error e) : FailureEnds calls r' :=
  fun before call after e he hf =>
    let ⟨h₁, h₂⟩ := h before call after e he hf
    ⟨hr e h₁, h₂⟩

/-- A release may follow. -/
theorem release {calls : List Call} {result : Except Error α} (h : FailureEnds calls result) :
    FailureEnds (calls ++ [.release]) result := by
  intro before call after e he hf
  rcases List.eq_nil_or_concat after with rfl | ⟨after, last, rfl⟩
  · have := (List.append_inj' he rfl).2
    rw [List.cons.injEq] at this
    rw [← this.1] at hf
    cases hf
  · rw [List.concat_eq_append, ← List.cons_append, ← List.append_assoc] at he
    obtain ⟨hc, hl⟩ := List.append_inj' he rfl
    obtain ⟨hr, ha⟩ := h before call after e hc hf
    refine ⟨hr, fun later hm => ?_⟩
    rw [List.concat_eq_append, List.mem_append] at hm
    rcases hm with hm | hm
    · exact ha later hm
    · rw [← hl, List.mem_singleton] at hm
      exact hm

end FailureEnds

/-! ## Looking at a snapshot -/

/-- The calls by which markers are looked for in vain. -/
def misses (place : String → String) (markers : List String) : List Call :=
  markers.map fun marker => .probe (place marker) false

/-- The calls by which a snapshot is looked at, and what comes of it: the build file is read, and
without one the markers of the detectors are looked for, one by one up to the first that is
there. -/
inductive Look (place : String → String) (ds : List Detector) :
    List Call → Except Error (Option Detection) → Prop
  | unreadable (e : Error) : Look place ds [.read (place buildFileName) (.error e)] (.error e)
  | buildFile (text : String) :
    Look place ds [.read (place buildFileName) (.ok (some text))]
      ((BuildFile.parse text).map fun file => some (.buildFile file))
  | language {before after : List Detector} {d : Detector} {missed rest : List String}
      {marker : String} (hd : ds = before ++ d :: after)
      (hm : d.markers = missed ++ marker :: rest) :
    Look place ds
      (.read (place buildFileName) (.ok none) ::
        (misses place (before.flatMap (·.markers) ++ missed) ++ [.probe (place marker) true]))
      (.ok (some (.builderImage d.language d.builderImage)))
  | nothing :
    Look place ds
      (.read (place buildFileName) (.ok none) :: misses place (ds.flatMap (·.markers))) (.ok none)

theorem misses_append (place : String → String) (ms ns : List String) :
    misses place (ms ++ ns) = misses place ms ++ misses place ns :=
  List.map_append

theorem kind_of_mem_misses (place : String → String) (markers : List String) :
    ∀ call ∈ misses place markers, call.kind = .probe := by
  intro call hc
  obtain ⟨marker, -, rfl⟩ := List.mem_map.mp hc
  rfl

theorem probe_not_mem_misses {place : String → String} {markers : List String} {path : String} :
    .probe path true ∉ misses place markers := by
  intro hc
  obtain ⟨marker, -, hm⟩ := List.mem_map.mp hc
  cases hm

namespace Look

variable {place : String → String} {ds : List Detector} {calls : List Call}
  {outcome : Except Error (Option Detection)}

/-- The build file is read first. Files are looked for only after that, and not at all if it cannot
be read. -/
theorem reads_first (h : Look place ds calls outcome) :
    ∃ answer probes, calls = .read (place buildFileName) answer :: probes ∧
      (∀ call ∈ probes, call.kind = .probe) ∧
      ∀ e, answer = .error e → probes = [] ∧ outcome = .error e := by
  cases h with
  | unreadable e =>
    refine ⟨_, _, rfl, (by simp), ?_⟩
    rintro e' ⟨⟩
    exact ⟨rfl, rfl⟩
  | buildFile text => exact ⟨_, _, rfl, (by simp), by simp⟩
  | language =>
    refine ⟨_, _, rfl, fun call hc => ?_, by simp⟩
    rcases List.mem_append.mp hc with hc | hc
    · exact kind_of_mem_misses place _ call hc
    · rw [List.mem_singleton.mp hc]
      rfl
  | nothing => exact ⟨_, _, rfl, kind_of_mem_misses place _, by simp⟩

theorem kind_eq (h : Look place ds calls outcome) :
    ∀ call ∈ calls, call.kind = .read ∨ call.kind = .probe := by
  obtain ⟨answer, probes, rfl, hp, -⟩ := h.reads_first
  intro call hc
  rcases List.mem_cons.mp hc with rfl | hc
  · exact .inl rfl
  · exact .inr (hp call hc)

/-- A marker that is there belongs to the detector that matches. -/
theorem exists_detector (h : Look place ds calls outcome) {path : String}
    (hp : .probe path true ∈ calls) :
    ∃ d ∈ ds, ∃ marker ∈ d.markers, path = place marker ∧
      outcome = .ok (some (.builderImage d.language d.builderImage)) := by
  cases h with
  | unreadable e => simp at hp
  | buildFile text => simp at hp
  | nothing => exact absurd (List.mem_of_ne_of_mem Call.noConfusion hp) probe_not_mem_misses
  | @language before after d missed rest marker hd hm =>
    refine ⟨d, hd ▸ List.mem_append_right _ List.mem_cons_self, marker,
      hm ▸ List.mem_append_right _ List.mem_cons_self, ?_, rfl⟩
    rcases List.mem_append.mp (List.mem_of_ne_of_mem Call.noConfusion hp) with hp | hp
    · exact absurd hp probe_not_mem_misses
    · cases List.mem_singleton.mp hp
      rfl

/-- A language is found by the first marker that is there, after those that are missed. -/
theorem calls_of_language {language image : String}
    (h : Look place ds calls (.ok (some (.builderImage language image)))) :
    ∃ missed marker, calls =
      .read (place buildFileName) (.ok none) ::
        (misses place missed ++ [.probe (place marker) true]) := by
  generalize ho : Except.ok (some (Detection.builderImage language image)) = outcome at h
  cases h with
  | unreadable e => cases ho
  | nothing => cases ho
  | buildFile text => cases hf : BuildFile.parse text <;> rw [hf] at ho <;> cases ho
  | language => exact ⟨_, _, rfl⟩

/-- If a language is found, one of the markers is there. -/
theorem exists_probe {language image : String}
    (h : Look place ds calls (.ok (some (.builderImage language image)))) :
    ∃ path, .probe path true ∈ calls := by
  obtain ⟨missed, marker, rfl⟩ := h.calls_of_language
  exact ⟨place marker, by simp⟩

theorem failureEnds (h : Look place ds calls outcome) : FailureEnds calls outcome := by
  obtain ⟨answer, probes, rfl, hp, he⟩ := h.reads_first
  cases answer with
  | error e =>
    obtain ⟨rfl, rfl⟩ := he e rfl
    exact .single fun e' h' => by cases h'; rfl
  | ok text =>
    refine .cons (.of_none fun call hc => ?_) rfl
    exact Call.failure?_eq_none (.inr (.inl (hp call hc)))

end Look

/-! ## The build file that is read -/

def Call.text? : Call → Option String
  | .read _ (.ok (some text)) => some text
  | _ => none

def textsRead (calls : List Call) : List String :=
  calls.filterMap Call.text?

/-- What a run knows of a build file: what the one text says that it reads, and nothing if it reads
none. -/
inductive BuildFileRead : List String → BuildFile → Prop
  | nothing : BuildFileRead [] {}
  | text {text : String} {file : BuildFile} (h : BuildFile.parse text = .ok file) :
    BuildFileRead [text] file

theorem textsRead_append (calls later : List Call) :
    textsRead (calls ++ later) = textsRead calls ++ textsRead later :=
  List.filterMap_append ..

theorem textsRead_eq_nil {calls : List Call} (h : ∀ call ∈ calls, call.kind ≠ .read) :
    textsRead calls = [] := by
  refine List.filterMap_eq_nil_iff.mpr fun call hc => ?_
  cases call <;> first | rfl | exact absurd rfl (h _ hc)

theorem textsRead_misses (place : String → String) (markers : List String) :
    textsRead (misses place markers) = [] := by
  refine textsRead_eq_nil fun call hc hk => ?_
  rw [kind_of_mem_misses place markers call hc] at hk
  cases hk

/-- The build file that a look finds is the one that it reads. -/
theorem Look.buildFileRead {place : String → String} {ds : List Detector} {calls : List Call}
    {file : BuildFile} (h : Look place ds calls (.ok (some (.buildFile file)))) :
    BuildFileRead (textsRead calls) file := by
  generalize ho : Except.ok (some (Detection.buildFile file)) = outcome at h
  cases h with
  | unreadable e => cases ho
  | language => cases ho
  | nothing => cases ho
  | buildFile text =>
    cases hf : BuildFile.parse text with
    | error e =>
      rw [hf] at ho
      cases ho
    | ok file =>
      rw [hf] at ho
      cases ho
      exact .text hf

/-- A look that finds a language reads no text. -/
theorem Look.textsRead_eq_nil {place : String → String} {ds : List Detector} {calls : List Call}
    {language image : String}
    (h : Look place ds calls (.ok (some (.builderImage language image)))) :
    textsRead calls = [] := by
  obtain ⟨missed, marker, rfl⟩ := h.calls_of_language
  show textsRead (misses place missed ++ [.probe (place marker) true]) = []
  rw [textsRead_append, textsRead_misses]
  rfl

/-! ## Every detection -/

section Detection

variable {place : String → String} {noted : Snapshot (Recording Call σ)}
  {plain : Snapshot (StateM σ)} (hs : Snapshot.Mirrors place noted plain)
include hs

theorem anyExists_notes (markers : List String) (s : σ) :
    Notes id (Detector.anyExists noted markers) (Detector.anyExists plain markers) s
      fun calls found _ =>
        (found = true ∧ ∃ missed marker rest, markers = missed ++ marker :: rest ∧
          calls = misses place missed ++ [.probe (place marker) true]) ∨
        (found = false ∧ calls = misses place markers) := by
  induction markers generalizing s with
  | nil => exact Notes.pure id false (.inr ⟨rfl, rfl⟩)
  | cons marker rest ih =>
    rw [Detector.anyExists, Detector.anyExists]
    refine Notes.bind (hs.exists? marker s) fun c there t hc => ?_
    subst hc
    cases there with
    | true => exact Notes.pure id true (.inl ⟨rfl, [], marker, rest, rfl, rfl⟩)
    | false =>
      refine (ih t).mono fun c found u h => ?_
      rcases h with ⟨rfl, missed, marker', rest', rfl, rfl⟩ | ⟨rfl, rfl⟩
      · exact .inl ⟨rfl, marker :: missed, marker', rest', rfl, rfl⟩
      · exact .inr ⟨rfl, rfl⟩

theorem firstMatch_notes (ds : List Detector) (s : σ) :
    Notes id (Detector.firstMatch noted ds) (Detector.firstMatch plain ds) s
      fun calls matched _ =>
        (∃ before d after missed marker rest, matched = some d ∧ ds = before ++ d :: after ∧
          d.markers = missed ++ marker :: rest ∧
          calls = misses place (before.flatMap (·.markers) ++ missed) ++
            [.probe (place marker) true]) ∨
        (matched = none ∧ calls = misses place (ds.flatMap (·.markers))) := by
  induction ds generalizing s with
  | nil => exact Notes.pure id none (.inr ⟨rfl, rfl⟩)
  | cons d ds ih =>
    rw [Detector.firstMatch, Detector.firstMatch]
    refine Notes.bind (anyExists_notes hs d.markers s) fun c found t hf => ?_
    rcases hf with ⟨rfl, missed, marker, rest, hm, rfl⟩ | ⟨rfl, rfl⟩
    · refine Notes.pure id (some d) (.inl ⟨[], d, ds, missed, marker, rest, rfl, rfl, hm, ?_⟩)
      rw [List.append_nil]
      rfl
    · refine (ih t).mono fun c matched u h => ?_
      rcases h with ⟨before, d', after, missed, marker, rest, rfl, rfl, hm, rfl⟩ | ⟨rfl, rfl⟩
      · refine .inl ⟨d :: before, d', after, missed, marker, rest, rfl, rfl, hm, ?_⟩
        rw [← List.append_assoc, ← misses_append, List.flatMap_cons, List.append_assoc]
      · exact .inr ⟨rfl, by rw [List.flatMap_cons, misses_append]⟩

/-- A snapshot is looked at as `Look` says. -/
theorem detect_records (ds : List Detector) (s : σ) :
    Records (detect ds noted) (detect ds plain) s
      fun calls outcome _ => Look place ds calls outcome := by
  refine Records.bind (hs.read buildFileName s) ?_ ?_
  · rintro c (_ | text) t rfl
    · refine Records.bindState (firstMatch_notes hs ds t) fun c matched u h => ?_
      rcases h with ⟨before, d, after, missed, marker, rest, rfl, hd, hm, rfl⟩ | ⟨rfl, rfl⟩
      · refine Records.pure _ ?_
        rw [List.append_nil]
        exact .language hd hm
      · refine Records.pure _ ?_
        rw [List.append_nil]
        exact .nothing
    · refine Records.bindExcept (fun file hf => ?_) fun e he => ?_
      · have : Look place ds _ _ := .buildFile text
        rw [hf] at this
        exact Records.pure _ this
      · have : Look place ds _ _ := .buildFile text
        rwa [he] at this
  · rintro c e t rfl
    exact .unreadable e

end Detection

end DeployPlan
