import DeployPlan.Encoding.Settings

/-!
# Settings as they are written

What an image records of its containers (`RecordedSettings`) has three parts, each of which may be
missing. `RecordedSettings.WrittenAs` says how a value of JSON has them: as one object, with its
members, its ports and its labels in any order; there is such a value for all that may be recorded
(`RecordedSettings.writtenAs_toJson`). `containerSettings?_of_writtenAs` and
`looseSettings_of_writtenAs` say that both readers find what is written, the one that is held to the
form and the one that is not; what order may change (`ContainerSettings.Alike`) makes no difference
to the image (`Image.carries_ofSettings`).
-/

namespace DeployPlan

/-! ## Members of an object -/

namespace Json

/-- The value is an object with at most one member of that name, and this is the member's value. -/
def HasMember (j : Json) (key : String) (v? : Option Json) : Prop :=
  ∃ members, j = .obj members ∧ (members.filter (·.1 = key)).map (·.2) = v?.toList

theorem hasMember_obj {members : List (String × Json)} {key : String} {v? : Option Json} :
    (obj members).HasMember key v? ↔ (members.filter (·.1 = key)).map (·.2) = v?.toList := by
  simp [HasMember]

theorem HasMember.member? {j : Json} {key : String} {v? : Option Json} (h : j.HasMember key v?) :
    j.member? key = v? := by
  obtain ⟨members, rfl, hm⟩ := h
  rw [Json.member?, ← List.head?_filter, List.filter_reverse, ← List.head?_map, List.map_reverse,
    hm]
  cases v? <;> rfl

theorem HasMember.ne_null {j : Json} {key : String} {v? : Option Json} (h : j.HasMember key v?) :
    j ≠ .null := by
  obtain ⟨members, rfl, -⟩ := h
  exact Json.noConfusion

namespace Record

theorem repeats_eq_false {fields : List (String × Json)}
    (h : ∀ key, (fields.filter (·.1 = key)).length ≤ 1) : repeats fields = false := by
  induction fields with
  | nil => rfl
  | cons field rest ih =>
    obtain ⟨key, v⟩ := field
    have hrest : ∀ other, (rest.filter (·.1 = other)).length ≤ 1 := by
      intro other
      exact Nat.le_trans ((List.sublist_cons_self _ _).filter _).length_le (h other)
    have hkey : rest.filter (·.1 = key) = [] := by
      have hlength := h key
      rw [List.filter_cons_of_pos (by simp), List.length_cons] at hlength
      exact List.eq_nil_of_length_eq_zero (by omega)
    have hany : rest.any (·.1 = key) = false := by
      rw [List.any_eq_false]
      exact fun e he => by simpa using List.filter_eq_nil_iff.mp hkey e he
    rw [repeats, hany, ih hrest, Bool.or_self]

/-- A record is read if each of its fields is there at most once. -/
theorem of?_of_hasMember {names : List String} {j : Json} (hne : names ≠ [])
    (h : ∀ name ∈ names, ∃ v?, j.HasMember name v?) :
    ∃ r, of? names j = some r ∧
      ∀ name ∈ names, ∀ v?, j.HasMember name v? → r.get? name = v? := by
  obtain ⟨first, hfirst⟩ := List.exists_mem_of_ne_nil names hne
  obtain ⟨_, members, rfl, -⟩ := h first hfirst
  let known := members.filter fun m => names.contains m.1
  have hknown (name : String) (hn : name ∈ names) :
      known.filter (·.1 = name) = members.filter (·.1 = name) := by
    rw [List.filter_filter]
    refine List.filter_congr fun m _ => ?_
    by_cases hm : m.1 = name
    · simp [hm, hn]
    · simp [hm]
  have honce (key : String) : (known.filter (·.1 = key)).length ≤ 1 := by
    by_cases hk : key ∈ names
    · obtain ⟨v?, hv⟩ := h key hk
      rw [hknown key hk, ← List.length_map (·.2), hasMember_obj.mp hv]
      cases v? <;> simp
    · have hnil : known.filter (·.1 = key) = [] := by
        refine List.filter_eq_nil_iff.mpr fun m hm he => hk ?_
        have hc := (List.mem_filter.mp hm).2
        simpa [of_decide_eq_true he] using hc
      rw [hnil]
      exact Nat.zero_le 1
  refine ⟨⟨known⟩, ?_, fun name hn v? hv => ?_⟩
  · show (if repeats known then none else some (Record.mk known)) = some ⟨known⟩
    rw [repeats_eq_false honce]
    rfl
  · rw [get?, ← List.head?_filter, hknown name hn, ← List.head?_map, hasMember_obj.mp hv]
    cases v? <;> rfl

end Record

/-- A part that may be missing: there is no member with it then, or one that is null. -/
inductive HasPart {α : Type} (shows : α → Json → Prop) : Option α → Option Json → Prop
  | missing : HasPart shows none none
  | null : HasPart shows none (some .null)
  | there {a : α} {v : Json} (h : shows a v) : HasPart shows (some a) (some v)

theorem hasPart_elim {α : Type} {shows : α → Json → Prop} {write : α → Json}
    (h : ∀ a, shows a (write a)) (a? : Option α) :
    HasPart shows a? (some (a?.elim .null write)) := by
  cases a? with
  | none => exact .null
  | some a => exact .there (h a)

/-- A field that may be missing is read as the part that is there, if what shows a part is read as
that part. -/
theorem Record.optional_of_hasPart {α β : Type} {shows : α → Json → Prop}
    {decode : Json → Option β} {R : α → β → Prop}
    (hd : ∀ a v, shows a v → v ≠ .null ∧ ∃ b, decode v = some b ∧ R a b) {r : Record}
    {key : String} {a? : Option α} {v? : Option Json} (hg : r.get? key = v?)
    (h : HasPart shows a? v?) : ∃ b?, r.optional key decode = some b? ∧ Option.Rel R a? b? := by
  rw [optional, hg]
  cases h with
  | missing => exact ⟨none, rfl, .none⟩
  | null => exact ⟨none, rfl, .none⟩
  | @there a v hv =>
    obtain ⟨hn, b, hb, hr⟩ := hd a v hv
    refine ⟨some b, ?_, .some hr⟩
    cases v with
    | null => exact absurd rfl hn
    | _ => exact congrArg (Option.map some) hb

end Json

/-! ## Settings -/

/-- What an image records of its containers; each part may be missing. -/
structure RecordedSettings where
  ports : Option (List String) := none
  env : Option (List String) := none
  labels : Option (StringMap String) := none

/-- The settings that are recorded. Nothing is set by a part that is missing. -/
def RecordedSettings.settings (r : RecordedSettings) : ContainerSettings where
  ports := r.ports.getD []
  env := r.env.getD []
  labels := r.labels.getD .empty

/-- An object whose members declare ports by their names, in any order. -/
def ShowsPorts (ports : List String) (v : Json) : Prop :=
  ∃ members, v = .obj members ∧ (members.map (·.1)).Perm ports

def ShowsEnv (env : List String) (v : Json) : Prop :=
  v = .arr (env.map .str)

/-- An object with a member for each label, in any order. -/
def ShowsLabels (labels : StringMap String) (v : Json) : Prop :=
  ∃ entries : List (String × String),
    v = .obj (entries.map fun e => (e.1, .str e.2)) ∧ entries.Perm labels.entries

/-- The value has the three parts, as members that occur once. -/
structure RecordedSettings.WrittenAs (r : RecordedSettings) (j : Json) : Prop where
  ports : ∃ v?, j.HasMember "ExposedPorts" v? ∧ Json.HasPart ShowsPorts r.ports v?
  env : ∃ v?, j.HasMember "Env" v? ∧ Json.HasPart ShowsEnv r.env v?
  labels : ∃ v?, j.HasMember "Labels" v? ∧ Json.HasPart ShowsLabels r.labels v?

/-- A value that has the three parts; those that are missing are null. -/
def RecordedSettings.toJson (r : RecordedSettings) : Json :=
  .obj [
    ("ExposedPorts", r.ports.elim .null fun ports => .obj (ports.map fun p => (p, .obj []))),
    ("Env", r.env.elim .null fun env => .arr (env.map .str)),
    ("Labels", r.labels.elim .null fun labels =>
      .obj (labels.entries.map fun e => (e.1, .str e.2)))]

/-- Whatever an image records can be written. -/
theorem RecordedSettings.writtenAs_toJson (r : RecordedSettings) : r.WrittenAs r.toJson := by
  have hports (ports : List String) : ShowsPorts ports (.obj (ports.map fun p => (p, .obj []))) :=
    ⟨_, rfl, by simp [Function.comp_def]⟩
  have henv (env : List String) : ShowsEnv env (.arr (env.map .str)) := rfl
  have hlabels (labels : StringMap String) :
      ShowsLabels labels (.obj (labels.entries.map fun e => (e.1, .str e.2))) :=
    ⟨_, rfl, .refl _⟩
  refine ⟨⟨_, ?_, Json.hasPart_elim hports r.ports⟩, ⟨_, ?_, Json.hasPart_elim henv r.env⟩,
    ⟨_, ?_, Json.hasPart_elim hlabels r.labels⟩⟩
  all_goals exact Json.hasMember_obj.mpr (by simp)

/-- The same settings, but maybe for the order in which ports are declared. -/
structure ContainerSettings.Alike (s t : ContainerSettings) : Prop where
  ports : s.ports.Perm t.ports
  env : s.env = t.env
  labels : s.labels = t.labels

namespace Encoding

open Json

/-! ## The reader that is held to the form -/

theorem mapM_map_eq_some {α β : Type} (write : α → β) (read : β → Option α)
    (h : ∀ a, read (write a) = some a) (l : List α) : (l.map write).mapM read = some l := by
  induction l with
  | nil => rfl
  | cons a l ih =>
    rw [List.map_cons, List.mapM_cons, h, ih]
    rfl

theorem members?_of_showsPorts (ports : List String) (v : Json) (h : ShowsPorts ports v) :
    v ≠ .null ∧ ∃ names, v.members?.map (·.map (·.1)) = some names ∧ ports.Perm names := by
  obtain ⟨members, rfl, hp⟩ := h
  exact ⟨Json.noConfusion, _, rfl, hp.symm⟩

theorem list?_of_showsEnv (env : List String) (v : Json) (h : ShowsEnv env v) :
    v ≠ .null ∧ ∃ entries, list? str? v = some entries ∧ env = entries := by
  obtain rfl := h
  exact ⟨Json.noConfusion, env, mapM_map_eq_some str str? (fun _ => rfl) env, rfl⟩

theorem stringMap?_of_showsLabels (labels : StringMap String) (v : Json)
    (h : ShowsLabels labels v) : v ≠ .null ∧ ∃ m, stringMap? v = some m ∧ labels = m := by
  obtain ⟨entries, rfl, hp⟩ := h
  refine ⟨Json.noConfusion, .ofList entries, ?_, (StringMap.ofList_of_perm hp).symm⟩
  simp only [stringMap?, members?, bind, Option.bind]
  rw [mapM_map_eq_some (fun e : String × String => (e.1, str e.2)) _ (fun _ => rfl)]
  rfl

theorem rel_getD {α β : Type} {R : α → β → Prop} {a? : Option α} {b? : Option β}
    (h : Option.Rel R a? b?) {a : α} {b : β} (hd : R a b) : R (a?.getD a) (b?.getD b) := by
  cases h with
  | none => exact hd
  | some hr => exact hr

/-- Settings that are written in this form are read. -/
theorem containerSettings?_of_writtenAs (r : RecordedSettings) (j : Json) (h : r.WrittenAs j) :
    j ≠ .null ∧ ∃ s, containerSettings? j = some s ∧ s.Alike r.settings := by
  obtain ⟨⟨ports?, hports, pports⟩, ⟨env?, henv, penv⟩, ⟨labels?, hlabels, plabels⟩⟩ := h
  have hmembers : ∀ name ∈ ["ExposedPorts", "Env", "Labels"], ∃ v?, j.HasMember name v? := by
    simp only [List.forall_mem_cons]
    exact ⟨⟨_, hports⟩, ⟨_, henv⟩, ⟨_, hlabels⟩, List.forall_mem_nil _⟩
  obtain ⟨record, hrecord, hget⟩ := Record.of?_of_hasMember (List.cons_ne_nil _ _) hmembers
  obtain ⟨names?, hnames, rnames⟩ := Record.optional_of_hasPart members?_of_showsPorts
    (hget "ExposedPorts" (by simp) _ hports) pports
  obtain ⟨entries?, hentries, rentries⟩ := Record.optional_of_hasPart list?_of_showsEnv
    (hget "Env" (by simp) _ henv) penv
  obtain ⟨map?, hmap, rmap⟩ := Record.optional_of_hasPart stringMap?_of_showsLabels
    (hget "Labels" (by simp) _ hlabels) plabels
  refine ⟨hports.ne_null, ⟨names?.getD [], entries?.getD [], map?.getD .empty⟩, ?_, ?_⟩
  · simp only [containerSettings?, hrecord, hnames, hentries, hmap, bind, Option.bind, pure]
  · exact ⟨(rel_getD rnames .nil).symm, (rel_getD rentries rfl).symm, (rel_getD rmap rfl).symm⟩

/-! ## The reader that is not held to it -/

theorem filterMap_map_str? (l : List String) : (l.map str).filterMap str? = l := by
  rw [List.filterMap_map]
  exact List.filterMap_some

/-- Labels that are all texts are read one by one. -/
theorem looseLabels_of_showsLabels {labels : StringMap String} {v : Json}
    (h : ShowsLabels labels v) :
    StringMap.ofList ((StringMap.ofList (v.members?.getD [])).entries.filterMap
      fun (k, v) => v.str?.map (k, ·)) = labels := by
  obtain ⟨entries, rfl, hp⟩ := h
  have hall : StringMap.ofList (entries.map fun e => (e.1, str e.2)) = labels.map str :=
    StringMap.ofList_of_perm (hp.map _)
  have htexts : (labels.map str).entries.filterMap (fun (k, v) => v.str?.map (k, ·)) =
      labels.entries := by
    rw [StringMap.map, List.filterMap_map]
    exact List.filterMap_some
  rw [members?, Option.getD_some, hall, htexts]
  exact StringMap.ofList_of_perm (.refl _)

/-- Settings that are written in the form of the other reader are read as well. -/
theorem looseSettings_of_writtenAs {r : RecordedSettings} {j : Json} (h : r.WrittenAs j) :
    (looseSettings j).Alike r.settings := by
  obtain ⟨recordedPorts, recordedEnv, recordedLabels⟩ := r
  obtain ⟨⟨ports?, hports, pports⟩, ⟨env?, henv, penv⟩, ⟨labels?, hlabels, plabels⟩⟩ := h
  refine ⟨?_, ?_, ?_⟩
  · simp only [looseSettings, hports.member?]
    cases pports with
    | missing => exact .nil
    | null => exact .nil
    | there hp =>
      obtain ⟨members, rfl, hp⟩ := hp
      exact hp
  · simp only [looseSettings, henv.member?]
    cases penv with
    | missing => rfl
    | null => rfl
    | there he =>
      obtain rfl := he
      exact filterMap_map_str? _
  · simp only [looseSettings, hlabels.member?]
    cases plabels with
    | missing => rfl
    | null => rfl
    | there hl => exact looseLabels_of_showsLabels hl

end Encoding

/-! ## Images with settings -/

namespace Image

/-- The image carries these settings: its ports, variables and labels are read from them. -/
structure Carries (i : Image) (s : ContainerSettings) : Prop where
  ports : i.ports = .ofList (s.ports.filterMap ExposedPort.read)
  env : i.env = EnvVar.ofEntries s.env
  labels : i.labels = s.labels

theorem carries_ofSettings {s t : ContainerSettings} (h : s.Alike t) (name : ImageName)
    (origin : ImageOrigin) (id : Option String) : (ofSettings name origin id s).Carries t where
  ports := PortSet.ofList_perm (h.ports.filterMap _)
  env := congrArg EnvVar.ofEntries h.env
  labels := h.labels

/-- Two images with the same settings, which can be used in the same way. -/
structure SameSettings (i j : Image) : Prop where
  ports : i.ports = j.ports
  env : i.env = j.env
  labels : i.labels = j.labels
  isRunnable : i.isRunnable = j.isRunnable
  isBuildOnly : i.isBuildOnly = j.isBuildOnly
  isCustomBuilder : i.isCustomBuilder = j.isCustomBuilder

theorem Carries.sameSettings {i j : Image} {s : ContainerSettings} (hi : i.Carries s)
    (hj : j.Carries s) : i.SameSettings j := by
  have hlabels : i.labels = j.labels := hi.labels.trans hj.labels.symm
  have hlabel (key : String) : i.labelIsTrue key = j.labelIsTrue key := by
    rw [labelIsTrue, labelIsTrue, hlabels]
  exact {
    ports := hi.ports.trans hj.ports.symm
    env := hi.env.trans hj.env.symm
    labels := hlabels
    isRunnable := congrArg (!·) (hlabel _)
    isBuildOnly := hlabel _
    isCustomBuilder := hlabel _ }

end Image

end DeployPlan
