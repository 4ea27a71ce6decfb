import DeployPlan.Proofs.Generation.Look

/-!
# The order of a detection

The markers of all detectors, one after another, are `slots` that belong to detectors, and the
search of the detectors is a search through these (`firstMatch_eq_firstOwner`). `presence` is what a
snapshot answers when all of some files are looked for, one after the other; `firstOwner_records`
says that a search looks for the markers in their order, each slot once, up to the first one that is
there, whose owner it ends with. `detect_goes_in_order` adds what comes before: the build file is
read, and no marker is looked for unless there is none.
-/

namespace DeployPlan

variable {σ : Type} {m : Type → Type} [Monad m]

namespace Detector

/-! ## Slots -/

/-- The markers of some detectors, one after another, each with the detector that it belongs to. -/
def slots (ds : List Detector) : List (Detector × String) :=
  ds.flatMap fun d => d.markers.map (d, ·)

/-- The owner of the first slot whose marker is there; they are looked for one by one. -/
def firstOwner (s : Snapshot m) : List (Detector × String) → m (Option Detector)
  | [] => return none
  | (d, marker) :: rest => do
    if ← s.exists? marker then return some d else firstOwner s rest

theorem map_snd_slots (ds : List Detector) : (slots ds).map (·.2) = ds.flatMap (·.markers) := by
  rw [slots, List.map_flatMap]
  simp [Function.comp_def]

theorem mem_slots {ds : List Detector} {d : Detector} {marker : String} :
    (d, marker) ∈ slots ds ↔ d ∈ ds ∧ marker ∈ d.markers := by
  simp [slots]

theorem slots_filter (ds : List Detector) :
    slots (ds.filter fun d => !d.markers.isEmpty) = slots ds := by
  induction ds with
  | nil => rfl
  | cons d ds ih =>
    rw [List.filter_cons]
    cases hm : d.markers with
    | nil => simpa [slots, hm] using ih
    | cons marker rest => simpa [slots, hm] using ih

/-- The slots of one detector come before all others. -/
theorem firstOwner_append [LawfulMonad m] (s : Snapshot m) (d : Detector) (markers : List String)
    (rest : List (Detector × String)) :
    firstOwner s (markers.map (d, ·) ++ rest) =
      anyExists s markers >>= fun there => if there then pure (some d) else firstOwner s rest := by
  induction markers with
  | nil => simp [anyExists]
  | cons marker markers ih =>
    rw [List.map_cons, List.cons_append, firstOwner, anyExists, bind_assoc, ih]
    refine bind_congr fun there => ?_
    cases there <;> simp

/-- The first detector that matches is the owner of the first slot whose marker is there. -/
theorem firstMatch_eq_firstOwner [LawfulMonad m] (s : Snapshot m) (ds : List Detector) :
    firstMatch s ds = firstOwner s (slots ds) := by
  induction ds with
  | nil => rfl
  | cons d ds ih =>
    rw [slots, List.flatMap_cons, firstOwner_append, firstMatch, ih]
    rfl

end Detector

open Detector

theorem detect_congr [LawfulMonad m] {ds ds' : List Detector} (s : Snapshot m)
    (h : slots ds' = slots ds) : detect ds' s = detect ds s := by
  rw [detect, detect, firstMatch_eq_firstOwner, firstMatch_eq_firstOwner, h]

/-! ## Searches -/

/-- What a snapshot answers when all of some files are looked for, one after the other, and the
state after each answer. -/
def Snapshot.presence (snapshot : Snapshot (StateM σ)) : List String → σ → List (Bool × σ)
  | [], _ => []
  | path :: rest, s =>
    (snapshot.exists? path).run s :: presence snapshot rest ((snapshot.exists? path).run s).2

theorem Snapshot.length_presence (snapshot : Snapshot (StateM σ)) (paths : List String) (s : σ) :
    (snapshot.presence paths s).length = paths.length := by
  induction paths generalizing s with
  | nil => rfl
  | cons path rest ih => rw [presence, List.length_cons, List.length_cons, ih]

/-- The calls and the end of a search through some slots that starts in `s`, by what all files would
be answered. -/
structure EndsWithOwner (slots : List (Detector × String)) (outcomes : List (Bool × σ)) (s : σ)
    (calls : List Call) (matched : Option Detector) (t : σ) : Prop where
  /-- If a marker is there, those up to the first one are looked for, and its owner matches. -/
  found : ∀ i (hs : i < slots.length) (ho : i < outcomes.length), outcomes[i].1 = true →
    (∀ j (hj : j < i), outcomes[j].1 = false) →
    calls = misses id ((slots.take i).map (·.2)) ++ [.probe slots[i].2 true] ∧
      matched = some slots[i].1 ∧ t = outcomes[i].2
  /-- If none is there, all are looked for. -/
  exhausted : (∀ o ∈ outcomes, o.1 = false) →
    calls = misses id (slots.map (·.2)) ∧ matched = none ∧
      t = (outcomes.getLast?.map (·.2)).getD s

namespace EndsWithOwner

variable {d : Detector} {marker : String} {slots : List (Detector × String)} {o : Bool × σ}
  {outcomes : List (Bool × σ)} {s t : σ} {calls : List Call} {matched : Option Detector}

/-- Without slots there is nothing to look for. -/
theorem nil (s : σ) : EndsWithOwner [] [] s [] none s where
  found i h := absurd h (Nat.not_lt_zero i)
  exhausted _ := ⟨rfl, rfl, rfl⟩

theorem head (h : o.1 = true) :
    EndsWithOwner ((d, marker) :: slots) (o :: outcomes) s [.probe marker true] (some d) o.2 where
  found i _ _ _ hj := by
    cases i with
    | zero => exact ⟨rfl, rfl, rfl⟩
    | succ i => exact absurd (hj 0 (Nat.succ_pos i)) (by simpa using h)
  exhausted hall := by
    rw [hall o List.mem_cons_self] at h
    cases h

/-- After a marker that is not there, the search goes on with the rest. -/
theorem tail (h : o.1 = false) (he : EndsWithOwner slots outcomes o.2 calls matched t) :
    EndsWithOwner ((d, marker) :: slots) (o :: outcomes) s (.probe marker false :: calls)
      matched t where
  found i hs ho hi hj := by
    cases i with
    | zero => simp [h] at hi
    | succ i =>
      obtain ⟨hc, hm, ht⟩ := he.found i (Nat.lt_of_succ_lt_succ hs) (Nat.lt_of_succ_lt_succ ho)
        (by simpa using hi) fun j hji => by simpa using hj (j + 1) (Nat.succ_lt_succ hji)
      exact ⟨by rw [hc]; rfl, by simpa using hm, by simpa using ht⟩
  exhausted hall := by
    obtain ⟨hc, hm, ht⟩ := he.exhausted fun o ho => hall o (List.mem_cons_of_mem _ ho)
    refine ⟨by rw [hc]; rfl, hm, ?_⟩
    rw [ht, List.getLast?_cons]
    cases outcomes.getLast? <;> rfl

/-- A detector that matches has one of the slots. -/
theorem exists_slot (he : EndsWithOwner slots outcomes s calls matched t)
    (hl : outcomes.length = slots.length) (hd : matched = some d) :
    ∃ marker, (d, marker) ∈ slots := by
  by_cases h : ∃ o ∈ outcomes, o.1 = true
  · have hlt := List.findIdx_lt_length_of_exists h
    obtain ⟨-, hm, -⟩ := he.found _ (hl ▸ hlt) hlt (List.findIdx_getElem (w := hlt)) fun j hj => by
      simpa using List.not_of_lt_findIdx hj
    rw [hd, Option.some.injEq] at hm
    subst hm
    exact ⟨_, List.getElem_mem (hl ▸ hlt)⟩
  · have hall : ∀ o ∈ outcomes, o.1 = false := by simpa using h
    cases hd.symm.trans (he.exhausted hall).2.1

end EndsWithOwner

/-- Markers are looked for in the order of their slots, up to the first one that is there. -/
theorem firstOwner_records (snapshot : Snapshot (StateM σ)) (slots : List (Detector × String))
    (s : σ) :
    Notes id (firstOwner snapshot.noted slots) (firstOwner snapshot slots) s
      (EndsWithOwner slots (snapshot.presence (slots.map (·.2)) s) s) := by
  induction slots generalizing s with
  | nil => exact Notes.pure id none (.nil s)
  | cons slot rest ih =>
    obtain ⟨d, marker⟩ := slot
    rw [firstOwner, firstOwner, List.map_cons, Snapshot.presence]
    refine Notes.bind (snapshot.noted_mirrors.exists? marker s).with_run fun c there t h => ?_
    obtain ⟨rfl, hr⟩ := h
    rw [hr]
    cases there with
    | true => exact Notes.pure id (some d) (.head rfl)
    | false => exact (ih t).mono fun c matched u h => h.tail rfl

/-! ## Detections -/

/-- The calls and the end of a detection that starts in `s`, by what the snapshot answers. -/
structure DetectsInOrder (ds : List Detector) (snapshot : Snapshot (StateM σ)) (s : σ)
    (calls : List Call) (outcome : Except Error (Option Detection)) (t : σ) : Prop where
  /-- If the build file cannot be read, that is the result, and nothing is looked for. -/
  unreadable : ∀ e u, runFrom (snapshot.read buildFileName) s = (.error e, u) →
    calls = [.read buildFileName (.error e)] ∧ outcome = .error e ∧ t = u
  /-- If there is a build file, the result is what it says, and nothing is looked for. -/
  buildFile : ∀ text u, runFrom (snapshot.read buildFileName) s = (.ok (some text), u) →
    calls = [.read buildFileName (.ok (some text))] ∧
      outcome = (BuildFile.parse text).map (some <| .buildFile ·) ∧ t = u
  /-- If there is none, the markers of all detectors are looked for, one after another up to the
  first one that is there. The detector that it belongs to names language and builder image. -/
  markers : ∀ u, runFrom (snapshot.read buildFileName) s = (.ok none, u) →
    ∃ probes matched, calls = .read buildFileName (.ok none) :: probes ∧
      outcome = .ok (matched.map fun d => .builderImage d.language d.builderImage) ∧
      EndsWithOwner (slots ds) (snapshot.presence (ds.flatMap (·.markers)) u) u probes matched t ∧
      ∀ d, matched = some d → d ∈ ds ∧ d.markers ≠ []

namespace DetectsInOrder

variable {ds : List Detector} {snapshot : Snapshot (StateM σ)} {s t : σ}

theorem of_unreadable {e : Error} (h : runFrom (snapshot.read buildFileName) s = (.error e, t)) :
    DetectsInOrder ds snapshot s [.read buildFileName (.error e)] (.error e) t := by
  constructor <;> rw [h]
  · rintro e u ⟨⟩
    exact ⟨rfl, rfl, rfl⟩
  · exact nofun
  · exact nofun

theorem of_buildFile {text : String} {outcome : Except Error (Option Detection)}
    (h : runFrom (snapshot.read buildFileName) s = (.ok (some text), t))
    (ho : outcome = (BuildFile.parse text).map (some <| .buildFile ·)) :
    DetectsInOrder ds snapshot s [.read buildFileName (.ok (some text))] outcome t := by
  constructor <;> rw [h]
  · exact nofun
  · rintro text u ⟨⟩
    exact ⟨rfl, ho, rfl⟩
  · exact nofun

theorem of_markers {u : σ} {probes : List Call} {matched : Option Detector}
    (h : runFrom (snapshot.read buildFileName) s = (.ok none, u))
    (he : EndsWithOwner (slots ds) (snapshot.presence ((slots ds).map (·.2)) u) u probes matched
      t) :
    DetectsInOrder ds snapshot s (.read buildFileName (.ok none) :: probes)
      (.ok (matched.map fun d => .builderImage d.language d.builderImage)) t := by
  constructor <;> rw [h]
  · exact nofun
  · exact nofun
  · rintro u ⟨⟩
    refine ⟨probes, matched, rfl, rfl, map_snd_slots ds ▸ he, fun d hd => ?_⟩
    have hl : (snapshot.presence ((slots ds).map (·.2)) u).length = (slots ds).length := by
      rw [Snapshot.length_presence, List.length_map]
    obtain ⟨marker, hm⟩ := he.exists_slot hl hd
    obtain ⟨hd, hm⟩ := mem_slots.mp hm
    exact ⟨hd, List.ne_nil_of_mem hm⟩

end DetectsInOrder

/-- A detection reads the build file first. If it cannot be read, or there is one, nothing else is
asked; the result is the error, or what the build file says. Otherwise the markers of all detectors
are looked for in their order, each place in it once, up to the first marker that is there, and the
detector that this place belongs to is the one that matches; without any such marker all are looked
for and nothing is found. Detectors without markers do not match and change nothing. -/
theorem detect_goes_in_order (ds : List Detector) (snapshot : Snapshot (StateM σ)) (s : σ) :
    Records (detect ds snapshot.noted) (detect ds snapshot) s fun calls outcome t =>
      DetectsInOrder ds snapshot s calls outcome t ∧
      (∀ u, (snapshot.presence (ds.flatMap (·.markers)) u).length = (slots ds).length) ∧
      ∀ ds', (ds'.filter fun d => !d.markers.isEmpty) = (ds.filter fun d => !d.markers.isEmpty) →
        detect ds' snapshot = detect ds snapshot := by
  have hlength (u : σ) :
      (snapshot.presence (ds.flatMap (·.markers)) u).length = (slots ds).length := by
    rw [Snapshot.length_presence, ← map_snd_slots, List.length_map]
  have hidle : ∀ ds', (ds'.filter fun d => !d.markers.isEmpty) =
      (ds.filter fun d => !d.markers.isEmpty) → detect ds' snapshot = detect ds snapshot := by
    intro ds' h
    refine detect_congr snapshot ?_
    rw [← slots_filter ds', h, slots_filter]
  suffices h : Records (detect ds snapshot.noted) (detect ds snapshot) s
      (DetectsInOrder ds snapshot s) from h.mono fun calls outcome t h => ⟨h, hlength, hidle⟩
  refine Records.bind (snapshot.noted_mirrors.read buildFileName s).with_run ?_ ?_
  · rintro c (_ | text) t ⟨rfl, hr⟩
    · rw [firstMatch_eq_firstOwner, firstMatch_eq_firstOwner]
      refine Records.bindState (firstOwner_records snapshot (slots ds) t) fun c matched u h => ?_
      refine Records.pure _ ?_
      rw [List.append_nil]
      exact .of_markers hr h
    · refine Records.bindExcept (fun file hf => Records.pure _ ?_) fun e he => ?_
      · exact .of_buildFile hr (by rw [hf]; rfl)
      · exact .of_buildFile hr (by rw [he]; rfl)
  · rintro c e t ⟨rfl, hr⟩
    exact .of_unreadable hr

end DeployPlan
