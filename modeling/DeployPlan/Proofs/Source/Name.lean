import DeployPlan.Proofs.DnsName.Normal
import DeployPlan.Proofs.Recording
import DeployPlan.SourceDetection

/-!
# The names of sources

The name of a source is a label that is made of its address or of a directory
(`isLabel_of_ofAddress`, `ofDirectory_yields`). A caller may ask for another name and another ref,
any number of times (`overrideEach`). `override_eq_ok_iff` is what one call does: it is refused
exactly if the name is not legal, so a legal name stays legal whatever is asked for
(`isSubdomain_overrideEach`), and a call that is refused might as well not have been made
(`overrideEach_refused`).
-/

namespace DeployPlan

open DnsName (isLabel isSubdomain normalize)

variable {σ : Type}

namespace Source

/-! ## Names that are found -/

theorem isLabel_of_nameOf {address name : String} (h : Remote.nameOf address = some name) :
    isLabel name = true := by
  simp only [Remote.nameOf] at h
  exact DnsName.isLabel_of_normalize h

theorem isLabel_of_nameOfPath {path name : String} (h : nameOfPath path = some name) :
    isLabel name = true := by
  obtain ⟨last, -, hn⟩ := Option.bind_eq_some_iff.mp h
  exact DnsName.isLabel_of_normalize hn

theorem isLabel_of_nameFor {dir name : String} {found : Option String}
    (h : nameFor dir found = .ok name) (hf : ∀ name ∈ found, isLabel name = true) :
    isLabel name = true := by
  cases found with
  | none => cases h
  | some found =>
    cases h
    exact hf _ rfl

theorem isLabel_of_ofAddress {input : String} {source : Source}
    (h : ofAddress input = .ok source) : isLabel source.name = true := by
  obtain ⟨_, -, h⟩ := bind_eq_ok.mp h
  split at h
  · cases h
  · rename_i name hn
    cases h
    exact isLabel_of_nameOf hn

theorem isLabel_of_plain {dir : String} {source : Source} (h : plain dir = .ok source) :
    isLabel source.name = true := by
  obtain ⟨name, hn, h⟩ := bind_eq_ok.mp h
  cases h
  exact isLabel_of_nameFor hn fun _ hf => isLabel_of_nameOfPath hf

theorem isLabel_of_ofCheckout {dir root : String} {checkout : Checkout} {source : Source}
    (h : ofCheckout dir root checkout = .ok source) : isLabel source.name = true := by
  obtain ⟨name, hn, h⟩ := bind_eq_ok.mp h
  cases h
  refine isLabel_of_nameFor hn fun name hf => ?_
  rcases Option.or_eq_some_iff.mp hf with hf | ⟨-, hf⟩
  · obtain ⟨origin, -, hf⟩ := Option.bind_eq_some_iff.mp hf
    exact isLabel_of_nameOf hf
  · exact isLabel_of_nameOfPath hf

theorem ofDirectory_yields (files : Files (StateM σ)) (inspector : Inspector (StateM σ))
    (path : String) :
    Yields (ofDirectory files inspector path) fun source => isLabel source.name = true := by
  refine (Yields.trivial _).bind fun dir _ => ?_
  refine (Yields.trivial _).bind fun checkout _ => ?_
  cases checkout with
  | none => exact .ofExcept fun source => isLabel_of_plain
  | some checkout =>
    refine (Yields.trivial _).bind fun root _ => ?_
    exact .ofExcept fun source => isLabel_of_ofCheckout

/-! ## Names that are asked for -/

theorem override_ref (s : Source) (ref : Option String) :
    s.override none ref = .ok { s with ref := (ref.filter (· ≠ "")).or s.ref } := by
  cases ref with
  | none => rfl
  | some ref =>
    by_cases he : ref = ""
    · subst he
      rfl
    · rw [Option.filter_some, if_pos (by simpa using he), Option.some_or]
      simp only [override]
      rfl

/-- A name is checked before anything else. -/
theorem override_name (s : Source) (name : String) (ref : Option String) :
    s.override (some name) ref =
      DnsName.validate "name" name >>= fun _ => { s with name }.override none ref := by
  rw [override]
  cases DnsName.validate "name" name <;> rfl

/-- A call is refused exactly if it asks for a name that is not legal. Otherwise the source gets the
name and the ref that are asked for. -/
theorem override_eq_ok_iff {s t : Source} {name ref : Option String} :
    s.override name ref = .ok t ↔
      (∀ n ∈ name, isSubdomain n = true) ∧
        t = { s with name := name.getD s.name, ref := (ref.filter (· ≠ "")).or s.ref } := by
  cases name with
  | none =>
    rw [override_ref, Except.ok.injEq, eq_comm, Option.getD_none]
    exact (and_iff_right nofun).symm
  | some name =>
    rw [override_name, bind_eq_ok, override_ref, Except.ok.injEq]
    constructor
    · rintro ⟨_, hname, rfl⟩
      refine ⟨?_, rfl⟩
      rintro _ ⟨⟩
      exact DnsName.validate_eq_ok_iff.mp hname
    · rintro ⟨hname, rfl⟩
      exact ⟨(), DnsName.validate_eq_ok_iff.mpr (hname name rfl), rfl⟩

/-- A legal name stays legal. -/
theorem isSubdomain_of_override {s t : Source} {name ref : Option String}
    (hs : isSubdomain s.name = true) (h : s.override name ref = .ok t) :
    isSubdomain t.name = true := by
  obtain ⟨hname, rfl⟩ := override_eq_ok_iff.mp h
  cases name with
  | none => exact hs
  | some name => exact hname name rfl

/-- The source after some calls for another name and ref. A call that is refused leaves the source
as it is. -/
def overrideEach (s : Source) (calls : List (Option String × Option String)) : Source :=
  calls.foldl (fun s (name, ref) => (s.override name ref).toOption.getD s) s

theorem overrideEach_append (s : Source) (before after : List (Option String × Option String)) :
    s.overrideEach (before ++ after) = (s.overrideEach before).overrideEach after :=
  List.foldl_append

theorem isSubdomain_overrideEach {s : Source} (h : isSubdomain s.name = true)
    (calls : List (Option String × Option String)) :
    isSubdomain (s.overrideEach calls).name = true := by
  induction calls generalizing s with
  | nil => exact h
  | cons call calls ih =>
    refine ih ?_
    show isSubdomain ((s.override call.1 call.2).toOption.getD s).name = true
    cases ho : s.override call.1 call.2 with
    | error e => exact h
    | ok t => exact isSubdomain_of_override h ho

/-- After a call that is refused, everything goes on as if it had not been made. -/
theorem overrideEach_refused {s : Source} {before after : List (Option String × Option String)}
    {name ref : Option String} {e : Error}
    (h : (s.overrideEach before).override name ref = .error e) :
    s.overrideEach (before ++ (name, ref) :: after) = s.overrideEach (before ++ after) := by
  have hkept : (s.overrideEach before).overrideEach ((name, ref) :: after) =
      (s.overrideEach before).overrideEach after := by
    rw [overrideEach, List.foldl_cons]
    show overrideEach (((s.overrideEach before).override name ref).toOption.getD _) after = _
    rw [h]
    rfl
  rw [overrideEach_append, overrideEach_append, hkept]

/-- The source has a label for a name, and a legal name whatever else a caller asks for; what is
refused changes nothing. -/
structure LegallyNamed (s : Source) : Prop where
  label : isLabel s.name = true
  legal : ∀ calls, isSubdomain (s.overrideEach calls).name = true
  refused : ∀ before name ref after e, (s.overrideEach before).override name ref = .error e →
    s.overrideEach (before ++ (name, ref) :: after) = s.overrideEach (before ++ after)

theorem LegallyNamed.of_isLabel {s : Source} (h : isLabel s.name = true) : s.LegallyNamed where
  label := h
  legal := isSubdomain_overrideEach (DnsName.isSubdomain_of_isLabel h)
  refused _ _ _ _ _ := overrideEach_refused

/-- Every text that has a letter or digit of ASCII in its lower case is made a label, and no other
one. What can be made are the labels without two hyphens in a row, each of which is made of itself.
So every source that is made of an address or found in a directory is named by a label, and legally
named after whatever calls for another name. -/
theorem named_by_labels (files : Files (StateM σ)) (inspector : Inspector (StateM σ)) :
    (∀ raw, normalize raw = none ↔ ∀ c ∈ Text.lower raw.toList, c.isAlphanum = false) ∧
    (∀ raw name, normalize raw = some name →
      DnsName.IsNormal name ∧ normalize name = some name) ∧
    (∀ name, (∃ raw, normalize raw = some name) ↔
      isLabel name = true ∧ DnsName.Single name.toList) ∧
    (∀ input source, ofAddress input = .ok source → source.LegallyNamed) ∧
    ∀ path, Yields (ofDirectory files inspector path) LegallyNamed := by
  refine ⟨fun _ => DnsName.normalize_eq_none_iff, fun raw name h => ?_, fun name => ?_,
    fun input source h => ?_, fun path => ?_⟩
  · exact ⟨DnsName.isNormal_of_normalize h, DnsName.normalize_normalize h⟩
  · rw [← DnsName.normalize_self_iff]
    exact ⟨fun ⟨raw, h⟩ => DnsName.normalize_normalize h, fun h => ⟨name, h⟩⟩
  · exact .of_isLabel (isLabel_of_ofAddress h)
  · exact (ofDirectory_yields files inspector path).mono fun _ => .of_isLabel

end Source

end DeployPlan
