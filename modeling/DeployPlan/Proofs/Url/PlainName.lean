import DeployPlan.Url.Parser

/-!
# Plain names of hosts

A name in the lower case of ASCII is in the form of names already (`nameForm_self`): no character of
ASCII is made of others, and none joins the character before it (`above_of_mem_compositions`).
`Host.parse_of_domain` and `parse_of_host` say how an address of the web is read that has nothing
but a host; the form of the host's name is all that there is to find out.
-/

namespace DeployPlan

namespace Text

/-- What pairs of characters in a row stand for is above ASCII, and the first of each pair is
visible. -/
def MakesAbove (row : List Char) : Prop :=
  ∀ pair ∈ inPairs row, 0x20 < pair.1.toNat ∧ 0x80 ≤ pair.2.toNat

instance : DecidablePred MakesAbove := fun _ => inferInstanceAs (Decidable (∀ _ ∈ _, _))

theorem MakesAbove.of_eq {s : String} {row : List Char} (hs : s = String.ofList row)
    (h : MakesAbove row) : MakesAbove s.toList := by
  rwa [hs, String.toList_ofList]

set_option maxRecDepth 4000 in
theorem makesAbove_of_mem_rows : ∀ row ∈ compositionRows, MakesAbove row.2.toList := by
  rw [compositionRows]
  repeat' first
    | exact List.forall_mem_nil _
    | refine List.forall_mem_cons.mpr ⟨MakesAbove.of_eq rfl (by decide +kernel), ?_⟩

theorem second_of_mem_rows : ∀ row ∈ compositionRows, 0x80 ≤ (Char.ofNat row.1).toNat := by
  decide +kernel

/-- No character of ASCII is made of two others, none is the second of two that make one, and no
blank is the first. -/
theorem above_of_mem_compositions {a b whole : Char} (h : (a, b, whole) ∈ compositions) :
    0x20 < a.toNat ∧ 0x80 ≤ b.toNat ∧ 0x80 ≤ whole.toNat := by
  obtain ⟨row, hr, h⟩ := List.mem_flatMap.mp h
  obtain ⟨pair, hp, he⟩ := List.mem_map.mp h
  obtain ⟨rfl, rfl, rfl⟩ := by simpa only [Prod.mk.injEq] using he
  obtain ⟨hfirst, hwhole⟩ := makesAbove_of_mem_rows row hr pair hp
  exact ⟨hfirst, second_of_mem_rows row hr, hwhole⟩

-- The table must not be computed when both sides are compared.
seal compositions in
theorem parts_succ (fuel : Nat) (c : Char) :
    parts (fuel + 1) c = match compositions.find? (·.2.2 = c) with
      | some (a, b, _) => parts fuel a ++ parts fuel b
      | none => [c] :=
  rfl

theorem parts_ascii {c : Char} (h : c.toNat < 0x80) (fuel : Nat) : parts fuel c = [c] := by
  cases fuel with
  | zero => rfl
  | succ fuel =>
    have hfind : compositions.find? (·.2.2 = c) = none := by
      rw [List.find?_eq_none]
      intro e he hw
      obtain ⟨-, -, hwhole⟩ := above_of_mem_compositions he
      rw [of_decide_eq_true hw] at hwhole
      omega
    rw [parts_succ, hfind]

theorem compose?_eq_none {a b : Char} (h : a.toNat ≤ 0x20 ∨ b.toNat < 0x80) :
    compose? a b = none := by
  have hhangul : hangul? a b = none := by
    simp only [hangul?]
    rw [if_neg (by omega), if_neg (by omega)]
  rw [compose?, hhangul, List.find?_eq_none.mpr]
  · rfl
  · intro e he hw
    obtain ⟨hfirst, hsecond, -⟩ := above_of_mem_compositions he
    obtain ⟨rfl, rfl⟩ := of_decide_eq_true hw
    omega

theorem combiningClass_of_ascii {c : Char} (h : c.toNat < 0x80) : combiningClass c = 0 := by
  rw [← Char.ofNat_toNat c]
  exact combiningClass_ascii c.toNat h

theorem inOrder_ascii {s : List Char} (h : ∀ c ∈ s, c.toNat < 0x80) : inOrder s = s := by
  induction s with
  | nil => rfl
  | cons c s ih =>
    obtain ⟨hc, hs⟩ := List.forall_mem_cons.mp h
    rw [inOrder, ih hs]
    cases s with
    | nil => rfl
    | cons d s =>
      have hd : combiningClass d = 0 := combiningClass_of_ascii (hs d List.mem_cons_self)
      rw [insertMark, if_neg fun hm => hm.1 hd]

theorem join_ascii {s : List Char} (h : ∀ c ∈ s, c.toNat < 0x80) (start : Char) :
    join start [] s = start :: s := by
  induction s generalizing start with
  | nil => rfl
  | cons c s ih =>
    obtain ⟨hc, hs⟩ := List.forall_mem_cons.mp h
    rw [join, compose?_eq_none (.inr hc), ite_self]
    simp only [combiningClass_of_ascii hc, if_true, List.reverse_nil, ih hs]
    rfl

theorem flatMap_self {f : Char → List Char} {s : List Char} (h : ∀ c ∈ s, f c = [c]) :
    s.flatMap f = s := by
  induction s with
  | nil => rfl
  | cons c s ih =>
    obtain ⟨hc, hs⟩ := List.forall_mem_cons.mp h
    rw [List.flatMap_cons, hc, ih hs]
    rfl

theorem composed_ascii {s : List Char} (h : ∀ c ∈ s, c.toNat < 0x80) : composed s = s := by
  rw [composed, flatMap_self fun c hc => parts_ascii (h c hc) 4, inOrder_ascii h]
  cases s with
  | nil => rfl
  | cons c s =>
    obtain ⟨hc, hs⟩ := List.forall_mem_cons.mp h
    have hclass : combiningClass c = 0 := combiningClass_of_ascii hc
    simp [hclass, join_ascii hs]

end Text

namespace Url

theorem forms_above : ∀ row ∈ formRows, 0x80 ≤ row.1 := by
  decide +kernel

theorem charForm_self {c : Char} (h : c.toNat < 0x80) (hc : ¬('A' ≤ c ∧ c ≤ 'Z')) :
    charForm c = [c] := by
  have hignored : isIgnored c = false := by
    simp only [isIgnored, Bool.or_eq_false_iff, Bool.and_eq_false_iff, beq_eq_false_iff_ne,
      decide_eq_false_iff_not]
    omega
  simp only [charForm, hignored, Bool.false_eq_true, if_false]
  rw [List.find?_eq_none.mpr]
  · exact Text.lowerChar_self h hc
  · intro e he hw
    obtain ⟨row, hr, rfl⟩ := List.mem_map.mp he
    have habove : 0x80 ≤ row.1 := forms_above row hr
    have hle : row.1 ≤ c.toNat := of_decide_eq_true (Bool.and_eq_true_iff.mp hw).1
    omega

/-- A name in the lower case of ASCII is in the form of names. -/
theorem nameForm_self {s : List Char} (h : ∀ c ∈ s, c.toNat < 0x80 ∧ ¬('A' ≤ c ∧ c ≤ 'Z')) :
    nameForm s = s := by
  rw [nameForm, Text.flatMap_self fun c hc => charForm_self (h c hc).1 (h c hc).2]
  exact Text.composed_ascii fun c hc => (h c hc).1

/-- A host that is a name of a domain. -/
theorem Host.parse_of_domain {s domain : List Char} {decoded : String}
    (hb : parseBracketed s = none)
    (hd : String.fromUTF8? ⟨(percentDecode s).toArray⟩ = some decoded)
    (ha : domainToAscii decoded.toList = some domain) (hn : domain ≠ [])
    (he : endsInNumber domain = false) : Host.parse s = .ok (.domain (String.ofList domain)) := by
  obtain ⟨c, r, rfl⟩ := List.exists_cons_of_ne_nil hn
  rw [Host.parse, hb]
  simp only [hd, ha]
  rw [he]
  rfl

/-- The characters that end the host in an address of the web, or stand before it. -/
def hostMarks : List Char :=
  ['/', '\\', '@', '?', '#']

section HostOnly

variable {s : List Char} (hplain : ∀ c ∈ s, c ∉ hostMarks)
include hplain

theorem isSlash_of_mem_plain : ∀ c ∈ s, (!isSlash .web c) = true := by
  intro c hc
  have hmarks := hplain c hc
  simp only [hostMarks, List.mem_cons, not_or] at hmarks
  simp [isSlash, hmarks]

theorem not_mem_plain {mark : Char} (hm : mark ∈ hostMarks) : mark ∉ s :=
  fun h => hplain mark h hm

theorem cutUser_plain : cutUser s = (none, s) := by
  rw [cutUser, Text.cutLast_eq_none_iff.mpr (not_mem_plain hplain (by decide))]

theorem divide_plain {mark : Char} (hm : mark ∈ hostMarks) (hn : mark ≠ '/') :
    divide mark ('/' :: '/' :: s) = ('/' :: '/' :: s, none) := by
  have hmark : mark ∉ '/' :: '/' :: s := by
    simpa [hn] using not_mem_plain hplain hm
  rw [divide, Text.cut_eq_none_iff.mpr hmark]

theorem takeWhile_plain : s.takeWhile (!isSlash .web ·) = s := by
  calc
    s.takeWhile (!isSlash .web ·) = (s ++ []).takeWhile (!isSlash .web ·) := by
      rw [List.append_nil]
    _ = s ++ [].takeWhile (!isSlash .web ·) :=
      List.takeWhile_append_of_pos (isSlash_of_mem_plain hplain)
    _ = s := List.append_nil s

theorem dropWhile_plain : s.dropWhile (!isSlash .web ·) = [] := by
  calc
    s.dropWhile (!isSlash .web ·) = (s ++ []).dropWhile (!isSlash .web ·) := by
      rw [List.append_nil]
    _ = [].dropWhile (!isSlash .web ·) :=
      List.dropWhile_append_of_pos (isSlash_of_mem_plain hplain)

theorem parseAuthority_of_host {scheme : String} {host : Host} (hs : s ≠ [])
    (hcut : cutHost false s = (s, [])) (hh : Host.parse s = .ok host)
    (hn : isNoHost host = false) :
    parseAuthority .web scheme false s =
      .ok { scheme, hierarchical := true, host := some host, path := "/" } := by
  have hat : s ≠ ['@'] := by
    rintro rfl
    exact not_mem_plain hplain (by decide) List.mem_cons_self
  simp [parseAuthority, takeWhile_plain hplain, dropWhile_plain hplain, cutUser_plain hplain, hcut,
    hh, hn, hs, hat, readPort, percentEncode, pathAfterHost, bind, Except.bind, pure, Except.pure]

/-- An address of the web that has nothing but a host. -/
theorem parse_of_host {address scheme : String} {host : Host}
    (hc : cutScheme (clean address.toList) = some (scheme, '/' :: '/' :: s))
    (hk : Kind.of scheme = .web) (hs : s ≠ []) (hcut : cutHost false s = (s, []))
    (hh : Host.parse s = .ok host) (hn : isNoHost host = false) :
    Url.parse address = .ok { scheme, hierarchical := true, host := some host, path := "/" } := by
  have hstart : ('/' :: '/' :: s).dropWhile (isSlash .web) = s := by
    obtain ⟨c, r, rfl⟩ := List.exists_cons_of_ne_nil hs
    have hfirst : ¬ isSlash .web c = true := by
      simpa using isSlash_of_mem_plain hplain c List.mem_cons_self
    rw [List.dropWhile_cons_of_pos (by decide), List.dropWhile_cons_of_pos (by decide),
      List.dropWhile_cons_of_neg hfirst]
  rw [Url.parse, parseChars, hc]
  simp only [divide_plain hplain (show '#' ∈ hostMarks by decide) (by decide),
    divide_plain hplain (show '?' ∈ hostMarks by decide) (by decide), hk]
  show (parseAuthority .web scheme false _ >>= _) = _
  rw [hstart, parseAuthority_of_host hplain hs hcut hh hn]
  rfl

end HostOnly

end Url

end DeployPlan
