import DeployPlan.Proofs.Url.PlainName

/-!
# Blanks in hosts

No host of the web has a blank or a control character in it, be it at its end. Such a character
stands for itself when bytes are read (`mem_percentDecode`) and when a name is put into the form of
names (`mem_nameForm`), and it is still there in the name that would be asked for, which is refused
(`domainToAscii_eq_none`). In brackets, the address does not end (`Host.parse_concat`).
-/

namespace DeployPlan

namespace Text

theorem mem_insertMark {c d : Char} {s : List Char} (h : c = d ∨ c ∈ s) : c ∈ insertMark d s := by
  induction s with
  | nil => simpa [insertMark] using h
  | cons e s ih =>
    rw [insertMark]
    split
    · rw [List.mem_cons] at h ⊢
      rcases h with h | h | h
      · exact .inr (ih (.inl h))
      · exact .inl h
      · exact .inr (ih (.inr h))
    · exact List.mem_cons.mpr h

theorem mem_inOrder {c : Char} {s : List Char} (h : c ∈ s) : c ∈ inOrder s := by
  induction s with
  | nil => exact h
  | cons d s ih => exact mem_insertMark ((List.mem_cons.mp h).imp_right ih)

theorem mem_join {c start : Char} {marks s : List Char} (hb : c.toNat ≤ 0x20)
    (h : c = start ∨ c ∈ marks ∨ c ∈ s) : c ∈ join start marks s := by
  induction s generalizing start marks with
  | nil => simpa [join] using h
  | cons d s ih =>
    rw [join]
    split
    · rename_i whole hw
      have hcompose : compose? start d = some whole := by
        split at hw
        · exact hw
        · cases hw
      rcases h with rfl | hc | hc
      · rw [compose?_eq_none (.inl hb)] at hcompose
        cases hcompose
      · exact ih (.inr (.inl hc))
      · rcases List.mem_cons.mp hc with rfl | hc
        · rw [compose?_eq_none (.inr (by omega))] at hcompose
          cases hcompose
        · exact ih (.inr (.inr hc))
    · rw [List.mem_cons (l := s)] at h
      split
      · rw [List.mem_append, List.mem_cons, List.mem_reverse]
        rcases h with hc | hc | hc | hc
        · exact .inl (.inl hc)
        · exact .inl (.inr hc)
        · exact .inr (ih (.inl hc))
        · exact .inr (ih (.inr (.inr hc)))
      · rcases h with hc | hc | hc | hc
        · exact ih (.inl hc)
        · exact ih (.inr (.inl (List.mem_cons_of_mem d hc)))
        · exact ih (.inr (.inl (List.mem_cons.mpr (.inl hc))))
        · exact ih (.inr (.inr hc))

theorem mem_composed {c : Char} {s : List Char} (hb : c.toNat ≤ 0x20) (h : c ∈ s) :
    c ∈ composed s := by
  have hparts : c ∈ s.flatMap (parts 4) := by
    refine List.mem_flatMap.mpr ⟨c, h, ?_⟩
    rw [parts_ascii (by omega)]
    exact List.mem_singleton_self c
  have hordered := mem_inOrder hparts
  rw [composed]
  generalize inOrder (s.flatMap (parts 4)) = t at hordered ⊢
  have hsplit := List.takeWhile_append_dropWhile (p := (combiningClass · ≠ 0)) (l := t)
  split
  · exact hordered
  · rename_i d r hd
    rw [← hsplit, hd, List.mem_append, List.mem_cons] at hordered
    rw [List.mem_append]
    refine hordered.imp_right fun hc => mem_join hb ?_
    exact hc.imp_right .inr

end Text

namespace Url

variable {c : Char} {s : List Char}

/-! ## Bytes -/

theorem eq_of_mem_utf8EncodeChar {b : UInt8} (h : b ∈ String.utf8EncodeChar c)
    (ha : b.toNat < 0x80) : Char.ofNat b.toNat = c := by
  have hval : c.val.toNat = c.toNat := rfl
  simp only [String.utf8EncodeChar, hval] at h
  split at h
  · rename_i hc
    obtain rfl := List.mem_singleton.mp h
    rw [UInt8.toNat_ofNat', Nat.mod_eq_of_lt (by omega), Char.ofNat_toNat]
  · exfalso
    split at h
    · simp only [List.mem_cons, List.not_mem_nil, or_false] at h
      rcases h with rfl | rfl <;>
      · rw [UInt8.toNat_ofNat'] at ha
        omega
    · split at h <;>
      · simp only [List.mem_cons, List.not_mem_nil, or_false] at h
        rcases h with rfl | rfl | rfl | rfl <;>
        · rw [UInt8.toNat_ofNat'] at ha
          omega

/-- So a byte of ASCII in the bytes of a text is a character of the text. -/
theorem mem_of_fromUTF8? {bytes : List UInt8} {text : String} {b : UInt8}
    (h : String.fromUTF8? ⟨bytes.toArray⟩ = some text) (hb : b ∈ bytes) (ha : b.toNat < 0x80) :
    Char.ofNat b.toNat ∈ text.toList := by
  have hbytes : text.toList.flatMap String.utf8EncodeChar = bytes := by
    rw [String.fromUTF8?] at h
    split at h
    · cases h
      have hdata : (String.ofList (String.fromUTF8 ⟨bytes.toArray⟩ ‹_›).toList).toByteArray.data =
          bytes.toArray := by
        rw [String.ofList_toList]
        rfl
      rw [String.toByteArray_ofList, List.utf8Encode, List.data_toByteArray] at hdata
      exact congrArg Array.toList hdata
    · cases h
  rw [← hbytes, List.mem_flatMap] at hb
  obtain ⟨c, hc, hb⟩ := hb
  rwa [eq_of_mem_utf8EncodeChar hb ha]

theorem utf8_blank (hb : c.toNat ≤ 0x20) : utf8 [c] = [UInt8.ofNat c.toNat] := by
  have hall : ∀ n < 0x21, utf8 [Char.ofNat n] = [UInt8.ofNat n] := by decide +kernel
  rw [← hall c.toNat (by omega), Char.ofNat_toNat]

theorem hexValue?_blank (hb : c.toNat ≤ 0x20) : Text.hexValue? c = none := by
  have hall : ∀ n < 0x21, Text.hexValue? (Char.ofNat n) = none := by decide +kernel
  rw [← Char.ofNat_toNat c]
  exact hall c.toNat (by omega)

/-- A blank stands for itself, encoded or not. -/
theorem mem_percentDecode (hb : c.toNat ≤ 0x20) (h : c ∈ s) :
    UInt8.ofNat c.toNat ∈ percentDecode s := by
  fun_induction percentDecode s with
  | case1 => cases h
  | case2 a b r x y hb' ha' ih =>
    have hnone := hexValue?_blank hb
    simp only [List.mem_cons] at h
    rcases h with rfl | rfl | rfl | h
    · exact absurd hb (by decide)
    · rw [hnone] at ha'
      cases ha'
    · rw [hnone] at hb'
      cases hb'
    · exact List.mem_cons_of_mem _ (ih h)
  | case3 a b r _ ih =>
    rcases List.mem_cons.mp h with rfl | h
    · exact absurd hb (by decide)
    · exact List.mem_cons_of_mem _ (ih h)
  | case4 d r _ ih =>
    rw [List.mem_append]
    rcases List.mem_cons.mp h with rfl | h
    · rw [utf8_blank hb]
      exact .inl (List.mem_singleton_self _)
    · exact .inr (ih h)

/-! ## Names -/

theorem mem_nameForm (hb : c.toNat ≤ 0x20) (h : c ∈ s) : c ∈ nameForm s := by
  refine Text.mem_composed hb (List.mem_flatMap.mpr ⟨c, h, ?_⟩)
  have hcapital : ¬('A' ≤ c ∧ c ≤ 'Z') := by
    rintro ⟨hA, -⟩
    have : 65 ≤ c.toNat := hA
    omega
  rw [charForm_self (by omega) hcapital]
  exact List.mem_singleton_self c

theorem Punycode.mem_encode (ha : c.toNat < 0x80) (h : c ∈ s) : c ∈ Punycode.encode s := by
  rw [Punycode.encode]
  refine List.mem_append_left _ (List.mem_append_left _ (List.mem_filter.mpr ⟨h, ?_⟩))
  exact decide_eq_true ha

theorem mem_readLabel {label : Label} (ha : c.toNat < 0x80) (h : c ∈ s)
    (hr : readLabel s = some label) : c ∈ label.ascii := by
  rw [readLabel] at hr
  split at hr
  · split at hr
    · cases hr
    obtain ⟨shown, -, hr⟩ := Option.bind_eq_some_iff.mp hr
    split at hr
    · cases hr
    cases hr
    exact h
  · split at hr
    · cases hr
      exact h
    · split at hr
      · cases hr
        exact List.mem_append_right _ (Punycode.mem_encode ha h)
      · cases hr

theorem exists_mem_of_mapM {α β : Type} {f : α → Option β} {l : List α} {r : List β}
    (h : l.mapM f = some r) {a : α} (ha : a ∈ l) : ∃ b ∈ r, f a = some b := by
  induction l generalizing r with
  | nil => cases ha
  | cons a' l ih =>
    rw [List.mapM_cons] at h
    simp only [bind, Option.bind_eq_some_iff, pure, Option.some.injEq] at h
    obtain ⟨b, hf, r', hr, rfl⟩ := h
    rcases List.mem_cons.mp ha with rfl | ha
    · exact ⟨b, List.mem_cons_self, hf⟩
    · obtain ⟨b', hb', hf'⟩ := ih hr ha
      exact ⟨b', List.mem_cons_of_mem b hb', hf'⟩

/-- A name with a blank is refused. -/
theorem domainToAscii_eq_none (hb : c.toNat ≤ 0x20) (h : c ∈ s) : domainToAscii s = none := by
  rw [Option.eq_none_iff_forall_ne_some]
  intro domain hd
  have hmem : c ∈ domain := by
    have hform := mem_nameForm hb h
    simp only [domainToAscii, bind, Option.bind_eq_some_iff] at hd
    obtain ⟨labels, hl, hd⟩ := hd
    split at hd
    · cases hd
    split at hd
    · cases hd
    cases hd
    rw [← Text.joinWith_splitOn '.' (nameForm s)] at hform
    rcases Text.mem_joinWith hform with rfl | ⟨piece, hp, hc⟩
    · exact absurd hb (by decide)
    · obtain ⟨label, hm, hr⟩ := exists_mem_of_mapM hl hp
      refine Text.mem_joinWith_of_mem (List.mem_map_of_mem hm) ?_
      exact mem_readLabel (by omega) hc hr
  have hforbidden : isForbidden c = true := by
    rw [isForbidden, decide_eq_true hb]
    rfl
  rw [not_isForbidden_of_mem_domainToAscii hd hmem] at hforbidden
  cases hforbidden

/-! ## Hosts -/

/-- A host with a blank at its end is refused. -/
theorem Host.parse_concat (hb : c.toNat ≤ 0x20) (s : List Char) :
    ∃ e, Host.parse (s ++ [c]) = .error e := by
  have hclose : c ≠ ']' := by
    rintro rfl
    exact absurd hb (by decide)
  rw [Host.parse]
  cases hbr : parseBracketed (s ++ [c]) with
  | some r =>
    rw [parseBracketed.eq_def] at hbr
    split at hbr
    · rename_i inside hs
      split at hbr
      · rename_i inner hstrip
        rw [Text.stripTail?_eq_some_iff.mp hstrip, ← List.cons_append] at hs
        exact absurd (List.append_inj' hs rfl).2 (by simpa using hclose)
      · cases hbr
        exact ⟨_, rfl⟩
    · cases hbr
  | none =>
    cases hu : String.fromUTF8? ⟨(percentDecode (s ++ [c])).toArray⟩ with
    | none => exact ⟨_, rfl⟩
    | some decoded =>
      have hbyte : UInt8.ofNat c.toNat ∈ percentDecode (s ++ [c]) :=
        mem_percentDecode hb (List.mem_append_right s (List.mem_singleton_self c))
      have hnum : (UInt8.ofNat c.toNat).toNat = c.toNat := by
        rw [UInt8.toNat_ofNat', Nat.mod_eq_of_lt (by omega)]
      have hmem : c ∈ decoded.toList := by
        have hchar := mem_of_fromUTF8? hu hbyte (by omega)
        rwa [hnum, Char.ofNat_toNat] at hchar
      simp only [domainToAscii_eq_none hb hmem]
      exact ⟨_, rfl⟩

end Url

end DeployPlan
