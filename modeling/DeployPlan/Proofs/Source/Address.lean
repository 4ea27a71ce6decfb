import DeployPlan.Clone
import DeployPlan.Proofs.Source.Name

/-!
# Sources as addresses

A source that is made of an address is written as an address again, with its ref after a number
sign. The two directions meet at `Repository`, which says of a source what it has to be like:
`Repository.of_ofAddress` and `Repository.override` show it of what is made and changed, and
`Repository.ofAddress_eq` reads from it that the text stands for the same source. So the text
of a source, which its clone is named by, tells its place and its ref (`ofAddress_toString`).
-/

namespace DeployPlan

namespace Remote

/-- An address that repositories are fetched from: it names one, and has a host if it needs one. -/
structure Accepts (address : String) : Prop where
  remote : isRemote address = true
  host : isShort address.toList = false →
    ∃ url, Url.parse address = .ok url ∧ (needsHost url = true → url.hostText?.getD "" ≠ "")

theorem check_eq_ok_iff {input address : String} :
    check input address = .ok () ↔ Accepts address := by
  rw [check]
  by_cases hremote : isRemote address = true
  · by_cases hshort : isShort address.toList = true
    · rw [hremote, hshort]
      refine iff_of_true rfl ⟨hremote, fun h => ?_⟩
      rw [hshort] at h
      cases h
    · have hlong : isShort address.toList = false := Bool.eq_false_iff.mpr hshort
      rw [hremote, hlong]
      cases hp : Url.parse address with
      | error e =>
        refine iff_of_false nofun fun h => ?_
        obtain ⟨url, hurl, -⟩ := h.host hlong
        rw [hp] at hurl
        cases hurl
      | ok url =>
        show (if (needsHost url && url.hostText?.getD "" == "") = true then
          Except.error (Error.sourceDetection (input ++ " has no host")) else .ok ()) = .ok () ↔ _
        by_cases hno : (needsHost url && url.hostText?.getD "" == "") = true
        · rw [if_pos hno]
          refine iff_of_false nofun fun h => ?_
          obtain ⟨url', hurl, hhost⟩ := h.host hlong
          rw [hp] at hurl
          cases hurl
          rw [Bool.and_eq_true, beq_iff_eq] at hno
          exact hhost hno.1 hno.2
        · rw [if_neg hno]
          refine iff_of_true rfl ⟨hremote, fun _ => ⟨url, hp, fun hneeds hempty => hno ?_⟩⟩
          rw [hneeds, hempty]
          rfl
  · rw [Bool.eq_false_iff.mpr hremote]
    exact iff_of_false nofun fun h => hremote h.remote

/-- The address in a text, and the ref after the first number sign; it is empty if there is none. -/
def divide (input : String) : String × String :=
  match Text.cut '#' input.toList with
  | some (address, ref) => (String.ofList address, String.ofList ref)
  | none => (input, "")

theorem divide_append {address : String} (h : '#' ∉ address.toList) (ref : String) :
    divide (address ++ ("#" ++ ref)) = (address, ref) := by
  have htext : (address ++ ("#" ++ ref)).toList = address.toList ++ '#' :: ref.toList := by
    rw [String.toList_append, String.toList_append]
    rfl
  rw [divide, htext, Text.cut_append h]
  simp only [String.ofList_toList]

theorem divide_self {address : String} (h : '#' ∉ address.toList) :
    divide address = (address, "") := by
  rw [divide, Text.cut_eq_none_iff.mpr h]

theorem not_mem_divide (input : String) : '#' ∉ (divide input).1.toList := by
  rw [divide]
  cases hc : Text.cut '#' input.toList with
  | none => exact Text.cut_eq_none_iff.mp hc
  | some halves =>
    rw [String.toList_ofList]
    exact (Text.cut_eq_some_iff.mp hc).2

end Remote

namespace Source

open Remote (Accepts divide)

/-- The source of some name at an address. An empty ref is none. -/
def atAddress (address ref name : String) : Source :=
  { name, location := .url address, ref := if ref = "" then none else some ref }

/-- A source is made of the address and the ref in a text. -/
theorem ofAddress_eq_ok_iff {input : String} {s : Source} :
    ofAddress input = .ok s ↔
      Accepts (divide input).1 ∧ ∃ name, Remote.nameOf (divide input).1 = some name ∧
        s = atAddress (divide input).1 (divide input).2 name := by
  have hdivide : ofAddress input = (Remote.check input (divide input).1 >>= fun _ =>
      (Remote.nameOf (divide input).1).elim
        (.error (.sourceDetection ("cannot derive a name from " ++ input)))
        fun name => pure (atAddress (divide input).1 (divide input).2 name)) := by
    unfold ofAddress divide
    cases Text.cut '#' input.toList with
    | none =>
      refine congrArg (Remote.check input input >>= ·) (funext fun _ => ?_)
      cases Remote.nameOf input <;> rfl
    | some halves =>
      refine congrArg (Remote.check input _ >>= ·) (funext fun _ => ?_)
      cases Remote.nameOf (String.ofList halves.1) <;> rfl
  rw [hdivide, bind_eq_ok]
  constructor
  · rintro ⟨_, hcheck, hname⟩
    refine ⟨Remote.check_eq_ok_iff.mp hcheck, ?_⟩
    cases hn : Remote.nameOf (divide input).1 with
    | none =>
      rw [hn] at hname
      cases hname
    | some name =>
      rw [hn] at hname
      cases hname
      exact ⟨name, rfl, rfl⟩
  · rintro ⟨haccepts, name, hname, rfl⟩
    refine ⟨(), Remote.check_eq_ok_iff.mpr haccepts, ?_⟩
    rw [hname]
    rfl

/-- A source in a remote repository, as it is made of the repository's address. -/
structure Repository (address : String) (s : Source) : Prop where
  location : s.location = .url address
  plain : '#' ∉ address.toList
  accepts : Accepts address
  name : Remote.nameOf address = some s.name
  ref : s.ref ≠ some ""
  contextDir : s.contextDir = none
  localDir : s.localDir = none

namespace Repository

variable {address : String} {s t : Source} {ref : Option String}

/-- What is made of a text is a source in a remote repository. -/
theorem of_ofAddress {input : String} (h : ofAddress input = .ok s) :
    Repository (divide input).1 s := by
  obtain ⟨haccepts, name, hname, rfl⟩ := ofAddress_eq_ok_iff.mp h
  refine ⟨rfl, Remote.not_mem_divide input, haccepts, hname, ?_, rfl, rfl⟩
  show (if (divide input).2 = "" then none else some (divide input).2) ≠ some ""
  by_cases hempty : (divide input).2 = ""
  · rw [if_pos hempty]
    exact nofun
  · rw [if_neg hempty]
    exact fun h => hempty (Option.some.inj h)

/-- A call for another ref leaves a source in its repository. -/
theorem override (h : Repository address s) (ho : s.override none ref = .ok t) :
    Repository address t := by
  rw [override_ref] at ho
  cases ho
  refine ⟨h.location, h.plain, h.accepts, h.name, fun hempty => ?_, h.contextDir, h.localDir⟩
  rcases Option.or_eq_some_iff.mp hempty with hempty | ⟨-, hempty⟩
  · obtain ⟨-, hne⟩ := Option.filter_eq_some_iff.mp hempty
    exact absurd rfl (of_decide_eq_true hne)
  · exact h.ref hempty

theorem divide_toString (h : Repository address s) :
    divide s.toString = (address, s.ref.getD "") := by
  unfold Source.toString
  rw [h.location]
  cases s.ref with
  | none =>
    show divide (address ++ "") = (address, "")
    rw [String.append_empty]
    exact Remote.divide_self h.plain
  | some ref => exact Remote.divide_append h.plain ref

/-- A source in a remote repository is made of its own text. -/
theorem ofAddress_eq (h : Repository address s) : ofAddress s.toString = .ok s := by
  rw [ofAddress_eq_ok_iff, h.divide_toString]
  refine ⟨h.accepts, s.name, h.name, ?_⟩
  obtain ⟨name, location, ref, contextDir, localDir⟩ := s
  obtain ⟨rfl, -, -, -, href, rfl, rfl⟩ := h
  cases ref with
  | none => rfl
  | some ref =>
    have hne : ref ≠ "" := fun he => href (congrArg some he)
    show _ = Source.mk name _ (if ref = "" then none else some ref) none none
    rw [if_neg hne]

end Repository

/-- A source that is made of a text, and whose ref may be another one that is asked for. -/
def OfAddress (s : Source) : Prop :=
  ∃ input made ref, ofAddress input = .ok made ∧ made.override none ref = .ok s

theorem OfAddress.exists_repository {s : Source} (h : s.OfAddress) :
    ∃ address, Repository address s := by
  obtain ⟨input, made, ref, hmade, hs⟩ := h
  exact ⟨_, (Repository.of_ofAddress hmade).override hs⟩

/-- Whatever ref is asked for, a source that is made of a text has an address without number sign
and no empty ref, and it is made of its own text again. So among such sources the text, which is
all that the path of a clone depends on, tells the address and the ref. -/
theorem ofAddress_toString {input : String} {made : Source} (h : ofAddress input = .ok made)
    (ref : Option String) :
    ∃ s, made.override none ref = .ok s ∧
      (∃ address, s.location = .url address ∧ '#' ∉ address.toList) ∧
      s.ref ≠ some "" ∧
      ofAddress s.toString = .ok s ∧
      (∀ workDir, Clone.path workDir s = Path.join workDir (Digest.md5 s.toString)) ∧
      ∀ t : Source, t.OfAddress →
        (s.toString = t.toString ↔ s.location = t.location ∧ s.ref = t.ref) := by
  have hs := override_ref made ref
  have hrepo := (Repository.of_ofAddress h).override hs
  refine ⟨_, hs, ⟨_, hrepo.location, hrepo.plain⟩, hrepo.ref, hrepo.ofAddress_eq,
    fun _ => rfl, fun t ht => ⟨fun htext => ?_, fun ⟨hplace, href⟩ => ?_⟩⟩
  · obtain ⟨_, htrepo⟩ := ht.exists_repository
    have heq := hrepo.ofAddress_eq
    rw [htext, htrepo.ofAddress_eq] at heq
    cases heq
    exact ⟨rfl, rfl⟩
  · unfold Source.toString
    rw [hplace, href]

/-- A repository in the short form, at a ref that has a number sign of its own. -/
def shop : Source :=
  { name := "shop", location := .url "git@host:shop.git", ref := some "v1#2" }

theorem ofAddress_toString_shop :
    ofAddress "git@host:shop.git" = .ok { shop with ref := none } ∧
      ofAddress "git@host:shop.git#v1#2" = .ok shop := by
  have hmade : ofAddress "git@host:shop.git" = .ok { shop with ref := none } := by decide
  obtain ⟨s, hs, -, -, hround, -⟩ := ofAddress_toString hmade (some "v1#2")
  have hshop : s = shop := by
    rw [override_ref] at hs
    exact (Except.ok.inj hs).symm
  rw [hshop] at hround
  exact ⟨hmade, hround⟩

end Source

end DeployPlan
