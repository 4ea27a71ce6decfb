import DeployPlan.Proofs.Generation.Look

/-!
# Other images for languages

A map of images for languages is gone through entry by entry, and each entry changes one detector or
is refused. `overrideAll_eq` says what this comes to if the languages of the detectors differ: the
first refusal, or each detector with the image that the map holds for its language
(`withImage`). Such a change leaves the markers alone, so that the same files are looked for and
only the image of what is found differs (`detect_map_withImage`). `overrideAll_commutes` puts
together what a map of images does.
-/

namespace DeployPlan

namespace Detector

variable {ds : List Detector}

/-! ## One entry -/

/-- The error with which an entry is refused; the image is looked at before the language. -/
def refusal? (languages : List String) (entry : String × String) : Option Error :=
  match ImageName.parse entry.2 with
  | .error e => some e
  | .ok _ =>
    if entry.1 ∈ languages then none
    else some (.validation "builders" ("no detector for language " ++ Text.quoted entry.1))

/-- The detector with the image that some entries hold for its language. -/
def withImage (entries : List (String × String)) (d : Detector) : Detector :=
  { d with builderImage := (StringMap.lookupIn d.language entries).getD d.builderImage }

@[simp]
theorem markers_withImage (entries : List (String × String)) (d : Detector) :
    (d.withImage entries).markers = d.markers :=
  rfl

theorem map_language_withImage (entries : List (String × String)) (ds : List Detector) :
    (ds.map (withImage entries)).map (·.language) = ds.map (·.language) := by
  rw [List.map_map]
  rfl

theorem withImage_self (d : Detector) (image : String) :
    d.withImage [(d.language, image)] = { d with builderImage := image } := by
  simp [withImage, StringMap.lookupIn]

theorem withImage_of_ne {language image : String} {d : Detector} (h : language ≠ d.language) :
    d.withImage [(language, image)] = d := by
  simp [withImage, StringMap.lookupIn, h]

theorem map_withImage_of_notMem {language image : String} (h : language ∉ ds.map (·.language)) :
    ds.map (withImage [(language, image)]) = ds := by
  refine (List.map_congr_left fun d hd => ?_).trans ds.map_id
  refine withImage_of_ne fun he => h ?_
  rw [he]
  exact List.mem_map_of_mem hd

/-- If the languages differ, the detector that is found is the only one that an entry changes. -/
theorem setBuilder_eq (hn : (ds.map (·.language)).Nodup) (language image : String) :
    setBuilder language image ds =
      if language ∈ ds.map (·.language) then some (ds.map (withImage [(language, image)]))
      else none := by
  induction ds with
  | nil => rfl
  | cons d ds ih =>
    obtain ⟨hd, hn⟩ := List.nodup_cons.mp hn
    by_cases he : language = d.language
    · subst he
      have hm : d.language ∈ (d :: ds).map (·.language) := List.mem_cons_self
      rw [if_pos hm, List.map_cons, withImage_self, map_withImage_of_notMem hd]
      simp [setBuilder]
    · have hm : language ∈ (d :: ds).map (·.language) ↔ language ∈ ds.map (·.language) :=
        List.mem_cons.trans (or_iff_right he)
      rw [setBuilder, if_neg (Ne.symm he), ih hn]
      simp only [hm]
      rw [List.map_cons, withImage_of_ne he]
      split <;> rfl

/-- An entry is refused, or it changes the detector for its language. -/
theorem override_eq (hn : (ds.map (·.language)).Nodup) (entry : String × String) :
    override ds entry =
      match refusal? (ds.map (·.language)) entry with
      | some e => .error e
      | none => .ok (ds.map (withImage [entry])) := by
  obtain ⟨language, image⟩ := entry
  rw [override, refusal?, setBuilder_eq hn]
  cases hp : ImageName.parse image with
  | error e => rfl
  | ok name =>
    by_cases hm : language ∈ ds.map (·.language)
    · simp only [hm, if_true]
      rfl
    · simp only [hm, if_false]
      rfl

/-! ## All entries -/

/-- Entries for different languages may be taken one after another. -/
theorem withImage_cons {entry : String × String} {entries : List (String × String)}
    (h : ∀ later ∈ entries, entry.1 < later.1) (d : Detector) :
    (d.withImage [entry]).withImage entries = d.withImage (entry :: entries) := by
  obtain ⟨language, image⟩ := entry
  by_cases he : language = d.language
  · subst he
    have hl : StringMap.lookupIn d.language entries = none := StringMap.lookupIn_eq_none_of_lt h
    simp [withImage, StringMap.lookupIn, hl]
  · simp [withImage, StringMap.lookupIn, he]

/-- Entries in ascending order are gone through up to the first one that is refused; without a
refusal each of them changes the detector for its language. -/
theorem foldlM_override (hn : (ds.map (·.language)).Nodup) {entries : List (String × String)}
    (hs : entries.Pairwise fun a b => a.1 < b.1) :
    entries.foldlM override ds =
      match entries.findSome? (refusal? (ds.map (·.language))) with
      | some e => .error e
      | none => .ok (ds.map (withImage entries)) := by
  induction entries generalizing ds with
  | nil => exact congrArg Except.ok ds.map_id.symm
  | cons entry entries ih =>
    obtain ⟨he, hs⟩ := List.pairwise_cons.mp hs
    rw [List.foldlM_cons, override_eq hn, List.findSome?_cons]
    cases hr : refusal? (ds.map (·.language)) entry with
    | some e => rfl
    | none =>
      have hl := map_language_withImage [entry] ds
      have hc : withImage entries ∘ withImage [entry] = withImage (entry :: entries) :=
        funext (withImage_cons he)
      show List.foldlM override (ds.map (withImage [entry])) entries = _
      rw [ih (by rwa [hl]) hs, hl, List.map_map, hc]

/-- A map of images is refused with the error of the first entry that is, or it gives each detector
the image that it holds for its language. -/
theorem overrideAll_eq (hn : (ds.map (·.language)).Nodup) (builders : StringMap String) :
    overrideAll ds builders =
      match builders.entries.findSome? (refusal? (ds.map (·.language))) with
      | some e => .error e
      | none => .ok (ds.map (withImage builders.entries)) :=
  foldlM_override hn builders.sorted

end Detector

/-! ## Detections -/

section Detection

open Detector

variable {m : Type → Type} [Monad m] [LawfulMonad m]

/-- What was found out, with the image that a map holds for the language. -/
def Detection.withBuilder (builders : StringMap String) : Detection → Detection
  | .buildFile file => .buildFile file
  | .builderImage language image => .builderImage language ((builders.get? language).getD image)

/-- The same files are looked for, and the same detector matches. -/
theorem firstMatch_map_withImage (s : Snapshot m) (entries : List (String × String))
    (ds : List Detector) :
    firstMatch s (ds.map (withImage entries)) =
      Option.map (withImage entries) <$> firstMatch s ds := by
  induction ds with
  | nil => simp [firstMatch]
  | cons d ds ih =>
    rw [List.map_cons, firstMatch, firstMatch, ih, map_bind, markers_withImage]
    refine bind_congr fun there => ?_
    cases there <;> simp

/-- The same is asked of a snapshot, and the same is found, but for the image. -/
theorem detect_map_withImage (s : Snapshot m) (builders : StringMap String) (ds : List Detector) :
    detect (ds.map (withImage builders.entries)) s =
      Option.map (Detection.withBuilder builders) <$> detect ds s := by
  rw [detect, detect, map_bind]
  refine bind_congr fun content => ?_
  cases content with
  | some text =>
    rw [map_bind]
    refine bind_congr fun file => ?_
    rw [map_pure]
    rfl
  | none =>
    have hl : (ExceptT.lift (firstMatch s (ds.map (withImage builders.entries))) :
          ExceptT Error m (Option Detector)) =
        Option.map (withImage builders.entries) <$> ExceptT.lift (firstMatch s ds) := by
      rw [firstMatch_map_withImage]
      exact ExceptT.ext (by simp [Except.map])
    rw [map_bind, hl, bind_map_left]
    refine bind_congr fun matched => ?_
    rw [map_pure]
    cases matched <;> rfl

end Detection

/-! ## Refusals -/

/-- The entry of a map for a language is refused with an error: its image is no name of an image, or
it is one, but the language is not among those that are known. -/
inductive Refused (languages : List String) (builders : StringMap String) (language : String) :
    Error → Prop
  | image {image : String} {e : Error} (hb : builders.get? language = some image)
    (hp : ImageName.parse image = .error e) : Refused languages builders language e
  | language {image : String} {name : ImageName} (hb : builders.get? language = some image)
    (hp : ImageName.parse image = .ok name) (hl : language ∉ languages) :
    Refused languages builders language
      (.validation "builders" ("no detector for language " ++ Text.quoted language))

namespace Detector

variable {languages : List String} {builders later : StringMap String} {language : String}
  {e : Error}

theorem refusal?_eq_none_iff {image : String} :
    refusal? languages (language, image) = none ↔
      (∃ name, ImageName.parse image = .ok name) ∧ language ∈ languages := by
  rw [refusal?]
  cases ImageName.parse image <;> simp

theorem refused_iff :
    Refused languages builders language e ↔
      ∃ image, builders.get? language = some image ∧
        refusal? languages (language, image) = some e := by
  constructor
  · intro h
    cases h with
    | image hb hp => exact ⟨_, hb, by rw [refusal?, hp]⟩
    | language hb hp hl =>
      refine ⟨_, hb, ?_⟩
      simp only [refusal?, hp, hl, if_false]
  · rintro ⟨image, hb, hr⟩
    rw [refusal?] at hr
    cases hp : ImageName.parse image with
    | error e' =>
      rw [hp] at hr
      cases hr
      exact .image hb hp
    | ok name =>
      simp only [hp] at hr
      split at hr
      · cases hr
      · rename_i hl
        cases hr
        exact .language hb hp hl

/-- No entry is refused if and only if all images are names of images, for known languages. -/
theorem findSome?_refusal_eq_none_iff :
    builders.entries.findSome? (refusal? languages) = none ↔
      ∀ language image, builders.get? language = some image →
        (∃ name, ImageName.parse image = .ok name) ∧ language ∈ languages := by
  simp only [List.findSome?_eq_none_iff, Prod.forall, refusal?_eq_none_iff,
    StringMap.get?_eq_some_iff]

/-- The first refusal is that of the smallest language whose entry is refused. -/
theorem findSome?_refusal_eq_some_iff :
    builders.entries.findSome? (refusal? languages) = some e ↔
      ∃ language, Refused languages builders language e ∧
        ∀ earlier < language, ∀ e', ¬Refused languages builders earlier e' := by
  simp only [refused_iff, StringMap.get?_eq_some_iff]
  rw [List.findSome?_eq_some_iff]
  constructor
  · rintro ⟨before, ⟨language, image⟩, after, he, hr, hb⟩
    have hsorted := he ▸ builders.sorted
    refine ⟨language, ⟨image, by simp [he], hr⟩, ?_⟩
    rintro earlier hlt e' ⟨image', hm, hr'⟩
    rw [he] at hm
    rcases List.mem_append.mp hm with hm | hm
    · rw [hb _ hm] at hr'
      cases hr'
    · rcases List.mem_cons.mp hm with hm | hm
      · cases hm
        exact String.lt_irrefl _ hlt
      · have hafter := (List.pairwise_cons.mp (List.pairwise_append.mp hsorted).2.1).1 _ hm
        exact String.lt_irrefl _ (String.lt_trans hlt hafter)
  · rintro ⟨language, ⟨image, hm, hr⟩, hsmallest⟩
    obtain ⟨before, after, he⟩ := List.append_of_mem hm
    have hsorted := he ▸ builders.sorted
    refine ⟨before, (language, image), after, he, hr, fun (earlier, image') hb => ?_⟩
    have hlt := (List.pairwise_append.mp hsorted).2.2 _ hb _ List.mem_cons_self
    refine Option.eq_none_iff_forall_ne_some.mpr fun e' hr' => ?_
    exact hsmallest earlier hlt e' ⟨image', by simp [he, hb], hr'⟩

/-- Where no entry of a map is refused, those of another one laid over it decide. -/
theorem refused_overlay_iff
    (h : builders.entries.findSome? (refusal? languages) = none) :
    Refused languages (builders.overlay later) language e ↔ Refused languages later language e := by
  rw [refused_iff, refused_iff, StringMap.get?_overlay_eq_or]
  cases hl : later.get? language with
  | some image => rfl
  | none =>
    rw [Option.none_or]
    refine ⟨?_, fun ⟨_, h, _⟩ => nomatch h⟩
    rintro ⟨image, hb, hr⟩
    rw [refusal?_eq_none_iff.mpr (findSome?_refusal_eq_none_iff.mp h language image hb)] at hr
    cases hr

theorem findSome?_refusal_overlay (h : builders.entries.findSome? (refusal? languages) = none) :
    (builders.overlay later).entries.findSome? (refusal? languages) =
      later.entries.findSome? (refusal? languages) := by
  refine Option.ext fun e => ?_
  simp only [findSome?_refusal_eq_some_iff, refused_overlay_iff h]

/-- Images of two maps, one after the other, are those of the second map laid over the first. -/
theorem withImage_withImage (d : Detector) :
    (d.withImage builders.entries).withImage later.entries =
      d.withImage (builders.overlay later).entries := by
  have h := StringMap.get?_overlay_eq_or builders later d.language
  simp only [StringMap.get?] at h
  simp only [withImage, h]
  cases StringMap.lookupIn d.language later.entries <;> rfl

end Detector

/-! ## What a map of images does -/

/-- Some detectors are others with the images of a map. -/
structure Rebuilt (builders : StringMap String) (ds ds' : List Detector) : Prop where
  languages : ds'.map (·.language) = ds.map (·.language)
  markers : ds'.map (·.markers) = ds.map (·.markers)
  /-- An image is that of the map for the language, and without one what it was. -/
  images : ds'.map (·.builderImage) =
    ds.map fun d => (builders.get? d.language).getD d.builderImage
  /-- Of any snapshot the same is asked, in the same order and with the same answers. The same is
  found, but for the image of a language that the map has one for. -/
  detection : ∀ (σ : Type) (snapshot : Snapshot (StateM σ)) (s : σ), ∃ calls outcome t, ∀ log,
    runFrom (detect ds snapshot.noted) (s, log) = (outcome, t, log ++ calls) ∧
      runFrom (detect ds' snapshot.noted) (s, log) =
        (outcome.map (Option.map (Detection.withBuilder builders)), t, log ++ calls)

/-- What a map of images does to some detectors. -/
structure OverridesCommute (ds : List Detector) (builders : StringMap String) : Prop where
  /-- A map is accepted if all its images are names of images, for languages of the detectors. -/
  accepted : (∃ ds', Detector.overrideAll ds builders = .ok ds') ↔
    ∀ language image, builders.get? language = some image →
      (∃ name, ImageName.parse image = .ok name) ∧ language ∈ ds.map (·.language)
  /-- Otherwise the smallest language whose entry is refused gives the error. -/
  refused : ∀ e, Detector.overrideAll ds builders = .error e ↔
    ∃ language, Refused (ds.map (·.language)) builders language e ∧
      ∀ earlier < language, ∀ e', ¬Refused (ds.map (·.language)) builders earlier e'
  /-- An accepted map changes images only. -/
  rebuilt : ∀ ds', Detector.overrideAll ds builders = .ok ds' → Rebuilt builders ds ds'
  /-- Another map after an accepted one does what it does when it is laid over it before. -/
  overlaid : ∀ ds' later, Detector.overrideAll ds builders = .ok ds' →
    Detector.overrideAll ds' later = Detector.overrideAll ds (builders.overlay later)

namespace Detector

variable {ds ds' : List Detector} {builders : StringMap String}

theorem rebuilt_map_withImage (ds : List Detector) (builders : StringMap String) :
    Rebuilt builders ds (ds.map (withImage builders.entries)) where
  languages := map_language_withImage _ ds
  markers := by
    rw [List.map_map]
    rfl
  images := by
    rw [List.map_map]
    rfl
  detection σ snapshot s := by
    obtain ⟨calls, hrun, -⟩ := detect_records snapshot.noted_mirrors ds s
    refine ⟨calls, _, _, fun log => ⟨hrun log, ?_⟩⟩
    rw [detect_map_withImage, runFrom, ExceptT.run_map, StateT.run_map, hrun log]
    rfl

/-- An accepted map gives each detector the image that it holds for its language. -/
theorem overrideAll_eq_ok_iff (hn : (ds.map (·.language)).Nodup) :
    overrideAll ds builders = .ok ds' ↔
      builders.entries.findSome? (refusal? (ds.map (·.language))) = none ∧
        ds' = ds.map (withImage builders.entries) := by
  rw [overrideAll_eq hn]
  cases builders.entries.findSome? (refusal? (ds.map (·.language))) <;> simp [eq_comm]

theorem overrideAll_eq_error_iff (hn : (ds.map (·.language)).Nodup) {e : Error} :
    overrideAll ds builders = .error e ↔
      builders.entries.findSome? (refusal? (ds.map (·.language))) = some e := by
  rw [overrideAll_eq hn]
  cases builders.entries.findSome? (refusal? (ds.map (·.language))) <;> simp

/-- Images for languages of detectors that all have different languages: a map of them is accepted
if its images are names of images and its languages are known, and the smallest language for which
this is not so gives the error. An accepted map changes nothing but the images, so that the same is
asked of a snapshot and the same is found, but for the image of what is found; and two maps, one
after the other, do what the second one does when it is laid over the first. -/
theorem overrideAll_commutes (hn : (ds.map (·.language)).Nodup) (builders : StringMap String) :
    OverridesCommute ds builders where
  accepted := by
    simp only [overrideAll_eq_ok_iff hn, exists_and_left, exists_eq, and_true]
    exact findSome?_refusal_eq_none_iff
  refused e := (overrideAll_eq_error_iff hn).trans findSome?_refusal_eq_some_iff
  rebuilt ds' h := by
    obtain ⟨-, rfl⟩ := (overrideAll_eq_ok_iff hn).mp h
    exact rebuilt_map_withImage ds builders
  overlaid ds' later h := by
    obtain ⟨hnone, rfl⟩ := (overrideAll_eq_ok_iff hn).mp h
    have hl := map_language_withImage builders.entries ds
    have hc : withImage later.entries ∘ withImage builders.entries =
        withImage (builders.overlay later).entries := funext withImage_withImage
    rw [overrideAll_eq (by rwa [hl]), overrideAll_eq hn, hl, findSome?_refusal_overlay hnone,
      List.map_map, hc]

/-- Of the detectors that are known, a map changes the one for `ruby`. Of two entries that are
refused, that for `cobol` comes first. -/
theorem overrideAll_commutes_standard :
    (standard.map (·.language)).Nodup ∧
      OverridesCommute standard (.ofList [("ruby", "my/ruby:2")]) ∧
      (overrideAll standard (.ofList [("ruby", "my/ruby:2")])).map (·.map (·.builderImage)) =
        .ok ["my/ruby:2", "openshift/wildfly-8-centos", "openshift/nodejs-010-centos",
          "openshift/python-33-centos"] ∧
      OverridesCommute standard (.ofList [("ruby", "No Image"), ("cobol", "my/cobol")]) ∧
      overrideAll standard (.ofList [("ruby", "No Image"), ("cobol", "my/cobol")]) =
        .error (.validation "builders" "no detector for language \"cobol\"") :=
  have hn : (standard.map (·.language)).Nodup := by decide
  ⟨hn, overrideAll_commutes hn _, rfl, overrideAll_commutes hn _, rfl⟩

end Detector

end DeployPlan
