import DeployPlan.Proofs.Recording
import DeployPlan.Proofs.Url.BlankHost
import DeployPlan.Proofs.Url.HostText
import Mathlib.Data.List.Basic
import Mathlib.Data.List.TakeWhile

/-!
# Slashes at the end of an address

An address of the web stays one when the slashes at its end are taken away
(`parse_of_trimmed_slashes`). What it takes to be read is a matter of its authority alone
(`exists_parseChars_iff`), and of that the slashes are no part. They may only have kept blanks apart
from the end of the text, where these do not count; but then the blanks would stand at the end of
the authority, which is not read with them (`Reads.not_concat`).
-/

namespace DeployPlan.Url

variable {scheme : String} {s v : List Char}

/-! ## What an authority is read as -/

/-- The host in an authority, and its port with the colon before it. -/
def hostAndRest (authority : List Char) : List Char × List Char :=
  cutHost false (cutUser authority).2

/-- Host and port in an authority can be read, and they belong to no one if there is no host. -/
structure Reads (scheme : String) (authority : List Char) : Prop where
  ne_nil : (hostAndRest authority).1 ≠ []
  host : ∃ host, Host.parse (hostAndRest authority).1 = .ok host ∧
    ¬(isNoHost host = true ∧ ((hostAndRest authority).2 ≠ [] ∨
      ((cutUser authority).1.getD ([], [])).1 ≠ [] ∨ ((cutUser authority).1.getD ([], [])).2 ≠ []))
  port : ∃ port, readPort scheme (hostAndRest authority).2 = .ok port

/-- Whether the rest of an address of the web is read depends on its authority. -/
theorem exists_parseAuthority_iff (more : Bool) :
    (∃ u, parseAuthority .web scheme more s = .ok u ∧ u.scheme = scheme) ↔
      Reads scheme (s.takeWhile (!isSlash .web ·)) := by
  generalize ha : s.takeWhile (!isSlash .web ·) = authority
  have hat (hne : (hostAndRest authority).1 ≠ []) : authority ≠ ['@'] := by
    rintro rfl
    exact hne rfl
  constructor
  · rintro ⟨u, h, -⟩
    have hne : (hostAndRest authority).1 ≠ [] := by
      intro hnil
      rw [hostAndRest] at hnil
      simp [parseAuthority, ha, hnil, bind, Except.bind] at h
    have hat := hat hne
    rw [hostAndRest] at hne
    cases hhost : Host.parse (cutHost false (cutUser authority).2).1 with
    | error e => simp [parseAuthority, ha, hat, hne, hhost, bind, Except.bind] at h
    | ok host =>
      have hno : ¬(isNoHost host = true ∧ ((hostAndRest authority).2 ≠ [] ∨
          ((cutUser authority).1.getD ([], [])).1 ≠ [] ∨
          ((cutUser authority).1.getD ([], [])).2 ≠ [])) := by
        intro hno
        rw [hostAndRest] at hno
        simp [parseAuthority, ha, hat, hne, hhost, hno, bind, Except.bind] at h
      refine ⟨hne, ⟨host, hhost, hno⟩, ?_⟩
      rw [hostAndRest] at hno ⊢
      cases hport : readPort scheme (cutHost false (cutUser authority).2).2 with
      | error e => simp [parseAuthority, ha, hat, hne, hhost, hno, hport, bind, Except.bind] at h
      | ok port => exact ⟨port, rfl⟩
  · rintro ⟨hne, ⟨host, hhost, hno⟩, port, hport⟩
    have hat := hat hne
    rw [hostAndRest] at hne hhost hno hport
    simp [parseAuthority, ha, hat, hne, hhost, hno, hport, bind, Except.bind, pure, Except.pure]

theorem cutHost_append (inside : Bool) (s : List Char) :
    (cutHost inside s).1 ++ (cutHost inside s).2 = s := by
  induction s generalizing inside with
  | nil => rfl
  | cons c s ih =>
    rw [cutHost]
    split
    · rfl
    · exact congrArg (c :: ·) (ih _)

theorem head?_cutHost (inside : Bool) (s : List Char) :
    ∀ c ∈ (cutHost inside s).2.head?, c = ':' := by
  induction s generalizing inside with
  | nil => exact nofun
  | cons c s ih =>
    rw [cutHost]
    split
    · rename_i hc
      rintro _ ⟨⟩
      exact hc.1
    · exact ih _

theorem exists_append_cutUser (s : List Char) : ∃ user, user ++ (cutUser s).2 = s := by
  rw [cutUser]
  cases hc : Text.cutLast '@' s with
  | none => exact ⟨[], rfl⟩
  | some halves =>
    obtain ⟨info, rest⟩ := halves
    refine ⟨info ++ ['@'], ?_⟩
    rw [List.append_assoc]
    exact (Text.cutLast_eq_some_iff.mp hc).1.symm

/-- A port is not read with a blank behind it. -/
theorem readPort_concat {c : Char} (hb : c.toNat ≤ 0x20) (digits : List Char)
    (hs : ∀ d ∈ digits, isSlash .web d = false) :
    ∃ e, readPort scheme (':' :: (digits ++ [c])) = .error e := by
  have hdigit : Text.isDigit c = false := by
    simp only [Text.isDigit, Bool.and_eq_false_iff, decide_eq_false_iff_not]
    left
    intro h
    have : 48 ≤ c.toNat := h
    omega
  have hslash : isSlash .web c = false := by
    have hne (d : Char) (hd : 0x20 < d.toNat) : c ≠ d := by
      rintro rfl
      omega
    simp [isSlash, hne '/' (by decide), hne '\\' (by decide)]
  have hall : ∀ d ∈ digits ++ [c], isSlash .web d = false :=
    List.forall_mem_append.mpr ⟨hs, List.forall_mem_singleton.mpr hslash⟩
  have hrest : ((digits ++ [c]).dropWhile Text.isDigit).head?.any
      (fun d => d ≠ '/' ∧ d ≠ '\\') = true := by
    cases hd : (digits ++ [c]).dropWhile Text.isDigit with
    | nil =>
      rw [List.dropWhile_eq_nil_iff] at hd
      have := hd c (List.mem_append_right _ (List.mem_singleton_self c))
      rw [hdigit] at this
      cases this
    | cons d rest =>
      have hmem : d ∈ (digits ++ [c]).dropWhile Text.isDigit := hd ▸ List.mem_cons_self
      have := hall d (List.dropWhile_subset _ hmem)
      simpa [isSlash] using this
  refine ⟨.invalidPort, ?_⟩
  simp only [readPort]
  rw [if_pos (.inr hrest)]

/-- A host and its port are not read with a blank behind them. -/
theorem Reads.not_concat {authority : List Char} {c : Char} (hb : c.toNat ≤ 0x20)
    (hs : ∀ d ∈ authority, isSlash .web d = false) : ¬Reads scheme (authority ++ [c]) := by
  intro h
  obtain ⟨user, huser⟩ := exists_append_cutUser (authority ++ [c])
  have hparts := cutHost_append false (cutUser (authority ++ [c])).2
  have hcolon := head?_cutHost false (cutUser (authority ++ [c])).2
  obtain ⟨hne, ⟨host, hhost, -⟩, port, hport⟩ := h
  rw [← hparts] at huser
  rw [hostAndRest] at hne hhost hport
  generalize (cutHost false (cutUser (authority ++ [c])).2).1 = hostText at *
  generalize (cutHost false (cutUser (authority ++ [c])).2).2 = rest at *
  rcases List.eq_nil_or_concat' rest with rfl | ⟨before, d, rfl⟩
  · obtain ⟨before, d, rfl⟩ := (List.eq_nil_or_concat' hostText).resolve_left hne
    have hd : d = c := by simpa using congrArg List.getLast? huser
    obtain ⟨e, he⟩ := Host.parse_concat hb before
    rw [hd, he] at hhost
    cases hhost
  · have hd : d = c := by simpa using congrArg List.getLast? huser
    subst hd
    cases before with
    | nil =>
      have := hcolon d rfl
      subst this
      exact absurd hb (by decide)
    | cons colon digits =>
      obtain rfl := hcolon colon rfl
      have hdigits : ∀ d ∈ digits, isSlash .web d = false := by
        intro d hd
        refine hs d ?_
        rw [← List.append_assoc, ← List.append_assoc] at huser
        rw [← (List.append_inj' huser rfl).1]
        exact List.mem_append_right _ (List.mem_cons_of_mem _ hd)
      rw [List.cons_append] at hport
      obtain ⟨e, he⟩ := readPort_concat hb digits hdigits
      rw [he] at hport
      cases hport

/-! ## Schemes -/

theorem scheme_parseAuthority (kind : Kind) (scheme : String) (more : Bool) (s : List Char) :
    Gives (·.scheme = scheme) (parseAuthority kind scheme more s) := by
  refine .ite (.error _) (.ite (.error _) ?_)
  refine .ite (.bind (fun _ _ => True.intro) ?_) (.bind (fun _ _ => True.intro) ?_)
  all_goals
    intro host _
    exact .ite (.error _) (.bind (fun _ _ => True.intro) fun _ _ => .ok rfl)

theorem scheme_parseFile (s : List Char) : Gives (·.scheme = "file") (parseFile s) := by
  rw [parseFile.eq_def]
  split
  · refine .ite (.ite (.ok rfl) (.ite (.ok rfl) ?_)) (.ok rfl)
    exact .bind (fun _ _ => True.intro) fun _ _ => .ok rfl
  · exact .ok rfl

theorem scheme_parseOther (scheme : String) (more : Bool) (s : List Char) :
    Gives (·.scheme = scheme) (parseOther scheme more s) := by
  rw [parseOther.eq_def]
  split
  · exact scheme_parseAuthority _ _ _ _
  · exact .ok rfl
  · exact .ok rfl

theorem scheme_parseChars (s : List Char) :
    Gives (fun u => ∃ rest, cutScheme (clean s) = some (u.scheme, rest)) (parseChars s) := by
  rw [parseChars.eq_def]
  split
  · exact .error _
  · rename_i scheme rest hcut
    have hmore {r : Except Fault Url} (h : Gives (·.scheme = scheme) r)
        (query fragment : Option String) :
        Gives (fun u => ∃ rest, cutScheme (clean s) = some (u.scheme, rest))
          (r >>= fun u => pure { u with query := query, fragment := fragment }) :=
      .bind h fun u hu => .ok ⟨rest, by rw [hu, hcut]⟩
    simp only
    cases hk : Kind.of scheme with
    | web => exact hmore (scheme_parseAuthority _ _ _ _) _ _
    | file =>
      have hscheme : scheme = "file" := by
        unfold Kind.of at hk
        split at hk
        · cases hk
        · split at hk
          · assumption
          · cases hk
      exact hmore (hscheme ▸ scheme_parseFile _) _ _
    | other => exact hmore (scheme_parseOther _ _ _) _ _

/-! ## Addresses -/

/-- The authority in an address of the web, as it goes on after its scheme. -/
def authorityOf (rest : List Char) : List Char :=
  ((divide '?' (divide '#' rest).1).1.dropWhile (isSlash .web)).takeWhile (!isSlash .web ·)

theorem isSlash_of_mem_authorityOf (rest : List Char) :
    ∀ c ∈ authorityOf rest, isSlash .web c = false := by
  intro c hc
  have hslash : (!isSlash .web c) = true := List.mem_takeWhile_imp (p := (!isSlash .web ·)) hc
  simpa using hslash

/-- An address of the web is read if its authority is. -/
theorem exists_parseChars_iff (hk : Kind.of scheme = .web) :
    (∃ u, parseChars s = .ok u ∧ u.scheme = scheme) ↔
      ∃ rest, cutScheme (clean s) = some (scheme, rest) ∧ Reads scheme (authorityOf rest) := by
  have hread (rest : List Char) (hcut : cutScheme (clean s) = some (scheme, rest)) :
      (∃ u, parseChars s = .ok u ∧ u.scheme = scheme) ↔ Reads scheme (authorityOf rest) := by
    rw [parseChars, hcut]
    simp only [hk]
    rw [authorityOf, ← exists_parseAuthority_iff
      ((divide '?' (divide '#' rest).1).2.isSome || (divide '#' rest).2.isSome)]
    constructor
    · rintro ⟨_, h, -⟩
      obtain ⟨u, hu, -⟩ := bind_eq_ok.mp h
      exact ⟨u, hu, scheme_parseAuthority _ _ _ _ u hu⟩
    · rintro ⟨u, hu, hs⟩
      exact ⟨_, bind_eq_ok.mpr ⟨u, hu, rfl⟩, hs⟩
  constructor
  · intro h
    obtain ⟨u, hu, rfl⟩ := h
    obtain ⟨rest, hcut⟩ := scheme_parseChars s u hu
    exact ⟨rest, hcut, (hread rest hcut).mp ⟨u, hu, rfl⟩⟩
  · rintro ⟨rest, hcut, h⟩
    exact (hread rest hcut).mpr h

/-! ## Slashes at the end -/

/-- Slashes at the end of an address, with blanks that they keep apart from its end. -/
def Padding (v : List Char) : Prop :=
  ∀ c ∈ v, c.toNat ≤ 0x20 ∨ c = '/'

theorem Padding.not_mem {c : Char} (hv : Padding v) (hb : 0x20 < c.toNat) (hs : c ≠ '/') : c ∉ v := by
  intro hc
  rcases hv c hc with h | h
  · omega
  · exact hs h

theorem clean_append_slashes (s : List Char) (n : Nat) :
    ∃ v, Padding v ∧ clean (s ++ List.replicate n '/') = clean s ++ v := by
  cases n with
  | zero => exact ⟨[], nofun, by simp⟩
  | succ n =>
    let outer (c : Char) : Bool := c.toNat ≤ 0x20
    let inner (c : Char) : Bool := c ≠ '\t' ∧ c ≠ '\n' ∧ c ≠ '\r'
    let slashes := List.replicate (n + 1) '/'
    have hdrop : (s ++ slashes).dropWhile outer = s.dropWhile outer ++ slashes := by
      rw [List.dropWhile_append]
      split
      · rename_i hnil
        rw [List.isEmpty_iff.mp hnil]
        rfl
      · rfl
    have htrim (t : List Char) : Text.trimEndWhere outer (t ++ slashes) = t ++ slashes := by
      show Text.trimEndWhere outer (t ++ List.replicate (n + 1) '/') =
        t ++ List.replicate (n + 1) '/'
      rw [List.replicate_succ', ← List.append_assoc]
      exact Text.trimEndWhere_concat (by decide) _
    obtain ⟨blanks, hblanks, hsplit⟩ := Text.exists_append_trimEndWhere outer (s.dropWhile outer)
    refine ⟨(blanks ++ slashes).filter inner, fun c hc => ?_, ?_⟩
    · rcases List.mem_append.mp (List.mem_filter.mp hc).1 with hc | hc
      · exact .inl (of_decide_eq_true (hblanks c hc))
      · exact .inr (List.eq_of_mem_replicate hc)
    · show (Text.trimEndWhere outer ((s ++ slashes).dropWhile outer)).filter inner =
        (Text.trimEndWhere outer (s.dropWhile outer)).filter inner ++ _
      rw [hdrop, htrim, ← List.filter_append, ← List.append_assoc, hsplit]

theorem cut_append_of_not_mem {sep : Char} (hv : sep ∉ v) (s : List Char) :
    Text.cut sep (s ++ v) = (Text.cut sep s).map fun (before, after) => (before, after ++ v) := by
  induction s with
  | nil => exact Text.cut_eq_none_iff.mpr hv
  | cons c s ih =>
    rw [List.cons_append, Text.cut, Text.cut, ih]
    split
    · rfl
    · cases Text.cut sep s <;> rfl

theorem cutScheme_append (hv : Padding v) {rest : List Char}
    (h : cutScheme (s ++ v) = some (scheme, rest)) :
    ∃ rest', rest = rest' ++ v ∧ cutScheme s = some (scheme, rest') := by
  have hcut := cut_append_of_not_mem (hv.not_mem (c := ':') (by decide) (by decide)) s
  cases s with
  | nil =>
    rw [List.nil_append] at hcut h
    unfold cutScheme at h
    rw [hcut] at h
    cases v <;> cases h
  | cons c s =>
    rw [List.cons_append] at hcut h
    unfold cutScheme at h ⊢
    rw [hcut] at h
    cases hc : Text.cut ':' (c :: s) with
    | none =>
      rw [hc] at h
      cases h
    | some halves =>
      rw [hc] at h
      dsimp only [Option.map_some] at h ⊢
      split at h
      · rename_i hscheme
        cases h
        exact ⟨halves.2, rfl, if_pos hscheme⟩
      · cases h

/-- What is appended stands behind a separator, or before the end if there is none. -/
theorem divide_append {sep : Char} (hv : sep ∉ v) (s : List Char) :
    (divide sep (s ++ v)).1 = (divide sep s).1 ∨
      (divide sep (s ++ v)).1 = (divide sep s).1 ++ v := by
  rw [divide, divide, cut_append_of_not_mem hv]
  cases Text.cut sep s with
  | none => exact .inr rfl
  | some halves => exact .inl rfl

/-- Only blanks are appended to an authority. -/
theorem authorityOf_append (hv : Padding v) (rest : List Char) :
    ∃ blanks, (∀ c ∈ blanks, c.toNat ≤ 0x20) ∧
      authorityOf (rest ++ v) = authorityOf rest ++ blanks := by
  unfold authorityOf
  have hmain : (divide '?' (divide '#' (rest ++ v)).1).1 = (divide '?' (divide '#' rest).1).1 ∨
      (divide '?' (divide '#' (rest ++ v)).1).1 = (divide '?' (divide '#' rest).1).1 ++ v := by
    rcases divide_append (hv.not_mem (c := '#') (by decide) (by decide)) rest with h | h
    · exact .inl (by rw [h])
    · rw [h]
      exact divide_append (hv.not_mem (c := '?') (by decide) (by decide)) _
  generalize (divide '?' (divide '#' rest).1).1 = main at hmain ⊢
  have hblank (t : List Char) (ht : t ⊆ v) :
      ∀ c ∈ t.takeWhile (!isSlash .web ·), c.toNat ≤ 0x20 := by
    intro c hc
    have hslash : (!isSlash .web c) = true := List.mem_takeWhile_imp (p := (!isSlash .web ·)) hc
    refine (hv c (ht ((List.takeWhile_subset _) hc))).resolve_right ?_
    rintro rfl
    exact absurd hslash (by decide)
  rcases hmain with h | h
  · exact ⟨[], nofun, by rw [h, List.append_nil]⟩
  · rw [h, List.dropWhile_append]
    split
    · rename_i hnil
      refine ⟨_, hblank _ (List.dropWhile_subset (isSlash .web)), ?_⟩
      rw [List.isEmpty_iff.mp hnil]
      rfl
    · rw [List.takeWhile_append]
      split
      · rename_i hlen
        refine ⟨_, hblank v (List.Subset.refl v), ?_⟩
        have hpart := List.takeWhile_prefix (l := main.dropWhile (isSlash .web))
          (!isSlash .web ·)
        rw [hpart.eq_of_length hlen]
      · exact ⟨[], nofun, (List.append_nil _).symm⟩

/-- An address of the web is still one without the slashes at its end. -/
theorem parse_of_trimmed_slashes {address : String} (hk : Kind.of scheme = .web)
    (h : ∃ u, Url.parse address = .ok u ∧ u.scheme = scheme) :
    ∃ u, Url.parse (String.ofList (Text.trimEndWhere (· == '/') address.toList)) = .ok u ∧
      u.scheme = scheme := by
  obtain ⟨slashes, hslashes, hsplit⟩ :=
    Text.exists_append_trimEndWhere (· == '/') address.toList
  have hall : slashes = List.replicate slashes.length '/' :=
    List.eq_replicate_of_mem fun c hc => by simpa using hslashes c hc
  obtain ⟨rest, hcut, hreads⟩ := (exists_parseChars_iff hk).mp h
  generalize Text.trimEndWhere (· == '/') address.toList = trimmed at hsplit ⊢
  obtain ⟨v, hv, hclean⟩ := clean_append_slashes trimmed slashes.length
  rw [← hsplit, hall, hclean] at hcut
  obtain ⟨rest, rfl, hcut⟩ := cutScheme_append hv hcut
  obtain ⟨blanks, hblanks, hauthority⟩ := authorityOf_append hv rest
  have hs := isSlash_of_mem_authorityOf (rest ++ v)
  rw [hauthority] at hreads hs
  rcases List.eq_nil_or_concat' blanks with rfl | ⟨before, c, rfl⟩
  · rw [List.append_nil] at hreads
    refine (exists_parseChars_iff hk).mpr ⟨rest, ?_, hreads⟩
    rwa [String.toList_ofList]
  · rw [← List.append_assoc] at hreads hs
    refine absurd hreads (Reads.not_concat (hblanks c ?_) fun d hd => hs d ?_)
    · exact List.mem_append_right _ (List.mem_singleton_self c)
    · exact List.mem_append_left _ hd

end DeployPlan.Url
