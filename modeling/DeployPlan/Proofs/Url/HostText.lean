import DeployPlan.Url.Parser

/-!
# Characters of hosts

Whichever way an address names its host, the host is written with visible characters of ASCII, and
with none that divides an address: a domain name is put into ASCII (`isAscii_of_mem_domainToAscii`)
and then has no forbidden character, numeric addresses have digits with dots or colons between them,
and what is above ASCII in a host of another scheme is encoded. `isHostText_hostAndPort` says so of
host and port of every address that can be read.
-/

namespace DeployPlan.Url

/-! ## Labels in ASCII -/

namespace Punycode

theorem isAscii_digitOf : ∀ n < 36, isAscii (digitOf n) = true := by
  decide

theorem isAscii_of_mem_writeNumber {bias k n : Nat} {c : Char} (h : c ∈ writeNumber bias k n) :
    isAscii c = true := by
  have ht (k : Nat) := threshold_bounds bias k
  fun_induction writeNumber bias k n with
  | case1 k n t hn =>
    obtain rfl := List.mem_singleton.mp h
    have := ht k
    exact isAscii_digitOf n (by omega)
  | case2 k n t hn ih =>
    rcases List.mem_cons.mp h with rfl | h
    · have hd : t ≤ 26 := (ht k).2
      have hm : (n - t) % (36 - t) < 36 - t := Nat.mod_lt _ (by omega)
      exact isAscii_digitOf _ (by omega)
    · exact ih h

def Writer.InAscii (w : Writer) : Prop :=
  ∀ digits ∈ w.written, ∀ c ∈ digits, isAscii c = true

theorem Writer.InAscii.pass {w : Writer} (h : w.InAscii) (basic n : Nat) (c : Char) :
    (w.pass basic n c).InAscii := by
  rw [Writer.pass]
  split
  · exact h
  · split
    · intro digits hd
      rcases List.mem_cons.mp hd with rfl | hd
      · exact fun c => isAscii_of_mem_writeNumber
      · exact h digits hd
    · exact h

theorem Writer.InAscii.foldl_pass {w : Writer} (h : w.InAscii) (basic n : Nat)
    (label : List Char) : (label.foldl (Writer.pass basic n) w).InAscii := by
  induction label generalizing w with
  | nil => exact h
  | cons c label ih => exact ih (h.pass basic n c)

theorem Writer.InAscii.place {w : Writer} (h : w.InAscii) (label : List Char) (basic n : Nat)
    (codes : List Nat) : (Writer.place label basic n w codes).InAscii := by
  induction codes generalizing w n with
  | nil => exact h
  | cons code codes ih =>
    let skipped := { w with delta := w.delta + (code - n) * (w.placed + 1) }
    have hs : skipped.InAscii := h
    have hpass : (label.foldl (Writer.pass basic code) skipped).InAscii :=
      hs.foldl_pass basic code label
    rw [Writer.place]
    refine ih ?_ (code + 1)
    exact hpass

theorem isAscii_of_mem_encode {label : List Char} {c : Char} (h : c ∈ encode label) :
    isAscii c = true := by
  have hw : Writer.InAscii ⟨[], 0, 72, (label.filter (·.toNat < 128)).length⟩ := nofun
  rw [encode] at h
  rcases List.mem_append.mp h with h | h
  · rcases List.mem_append.mp h with h | h
    · exact (List.mem_filter.mp h).2
    · split at h
      · cases h
      · obtain rfl := List.mem_singleton.mp h
        rfl
  · obtain ⟨digits, hd, hc⟩ := List.mem_flatten.mp h
    exact hw.place label _ 128 _ digits (List.mem_reverse.mp hd) c hc

theorem isAscii_of_mem_of_decode {s shown : List Char} (h : decode s = some shown) {c : Char}
    (hc : c ∈ s) : isAscii c = true := by
  simp only [decode] at h
  split at h
  · cases h
  · rename_i hn
    simp only [List.any_eq_true, decide_eq_true_eq, not_exists, not_and, Nat.not_le] at hn
    exact decide_eq_true (hn c hc)

end Punycode

theorem isAscii_of_mem_readLabel {s : List Char} {label : Label} (h : readLabel s = some label) :
    ∀ c ∈ label.ascii, isAscii c = true := by
  have hmark : ∀ c ∈ encodedMark, isAscii c = true := List.all_eq_true.mp (by decide)
  rw [readLabel] at h
  split at h
  · rename_i encoded hs
    split at h
    · cases h
    obtain ⟨shown, hd, h⟩ := Option.bind_eq_some_iff.mp h
    split at h
    · cases h
    obtain rfl := Option.some.inj h
    rw [Text.stripLead?_eq_some_iff.mp hs]
    exact List.forall_mem_append.mpr ⟨hmark, fun c => Punycode.isAscii_of_mem_of_decode hd⟩
  · split at h
    · rename_i ha
      cases h
      exact List.all_eq_true.mp ha
    · split at h
      · cases h
        exact List.forall_mem_append.mpr ⟨hmark, fun c => Punycode.isAscii_of_mem_encode⟩
      · cases h

theorem exists_of_mem_mapM {α β : Type} {f : α → Option β} {l : List α} {r : List β}
    (h : l.mapM f = some r) {b : β} (hb : b ∈ r) : ∃ a ∈ l, f a = some b := by
  induction l generalizing r with
  | nil =>
    cases h
    cases hb
  | cons a l ih =>
    rw [List.mapM_cons] at h
    simp only [bind, Option.bind_eq_some_iff, pure, Option.some.injEq] at h
    obtain ⟨b', hf, r', hr, rfl⟩ := h
    rcases List.mem_cons.mp hb with rfl | hb
    · exact ⟨a, List.mem_cons_self, hf⟩
    · obtain ⟨a', ha, hf'⟩ := ih hr hb
      exact ⟨a', List.mem_cons_of_mem a ha, hf'⟩

/-- A domain name that is asked for is ASCII. -/
theorem isAscii_of_mem_domainToAscii {s domain : List Char} (h : domainToAscii s = some domain)
    {c : Char} (hc : c ∈ domain) : isAscii c = true := by
  simp only [domainToAscii, bind, Option.bind_eq_some_iff] at h
  obtain ⟨labels, hl, h⟩ := h
  split at h
  · cases h
  split at h
  · cases h
  obtain rfl := Option.some.inj h
  rcases Text.mem_joinWith hc with rfl | ⟨piece, hp, hc⟩
  · rfl
  · obtain ⟨label, hm, rfl⟩ := List.mem_map.mp hp
    obtain ⟨_, -, hr⟩ := exists_of_mem_mapM hl hm
    exact isAscii_of_mem_readLabel hr c hc

/-! ## Characters of hosts -/

/-- A visible character of ASCII that divides no address. -/
def IsHostChar (c : Char) : Prop :=
  0x20 < c.toNat ∧ c.toNat < 0x7f ∧ c ≠ '/' ∧ c ≠ '@'

instance : DecidablePred IsHostChar := fun _ => inferInstanceAs (Decidable (_ ∧ _ ∧ _ ∧ _))

def IsHostText (s : List Char) : Prop :=
  ∀ c ∈ s, IsHostChar c

instance : DecidablePred IsHostText := List.decidableBAll IsHostChar

theorem isHostChar_of_ascii {c : Char} (ha : isAscii c = true) (hf : isForbidden c = false) :
    IsHostChar c := by
  have ha : c.toNat < 0x80 := of_decide_eq_true ha
  simp only [isForbidden, Bool.or_eq_false_iff, decide_eq_false_iff_not, beq_eq_false_iff_ne] at hf
  obtain ⟨⟨hlow, hdel⟩, hmarks⟩ := hf
  refine ⟨by omega, by omega, ?_, ?_⟩
  · rintro rfl
    exact absurd hmarks (by decide)
  · rintro rfl
    exact absurd hmarks (by decide)

theorem isHostChar_digitChar (n : Nat) :
    IsHostChar n.digitChar ∧ IsHostChar n.digitChar.toUpper := by
  have hdigits : ∀ n < 16, IsHostChar n.digitChar ∧ IsHostChar n.digitChar.toUpper := by decide
  by_cases hn : n < 16
  · exact hdigits n hn
  · have hstar : n.digitChar = '*' := by
      simp only [Nat.digitChar]
      repeat rw [if_neg (by omega)]
    rw [hstar]
    decide

theorem isHostText_toDigits {b : Nat} (hb : 1 < b) (n : Nat) : IsHostText (Nat.toDigits b n) := by
  induction n using Nat.strongRecOn with
  | ind n ih =>
    intro c hc
    by_cases hn : n < b
    · rw [Nat.toDigits_of_lt_base hn] at hc
      obtain rfl := List.mem_singleton.mp hc
      exact (isHostChar_digitChar n).1
    · have hlt : n / b < n := Nat.div_lt_self (by omega) hb
      rw [Nat.toDigits_of_base_le hb (by omega)] at hc
      rcases List.mem_append.mp hc with hc | hc
      · exact ih (n / b) hlt c hc
      · obtain rfl := List.mem_singleton.mp hc
        exact (isHostChar_digitChar _).1

theorem IsHostText.joinWith {sep : Char} (hs : IsHostChar sep) {pieces : List (List Char)}
    (h : ∀ piece ∈ pieces, IsHostText piece) : IsHostText (Text.joinWith sep pieces) := by
  intro c hc
  rcases Text.mem_joinWith hc with rfl | ⟨piece, hp, hc⟩
  · exact hs
  · exact h piece hp c hc

theorem IsHostText.append {s t : List Char} (hs : IsHostText s) (ht : IsHostText t) :
    IsHostText (s ++ t) :=
  List.forall_mem_append.mpr ⟨hs, ht⟩

theorem isHostText_writeIPv4 (a : UInt32) : IsHostText (writeIPv4 a) := by
  refine IsHostText.joinWith (by decide) fun piece hp => ?_
  obtain ⟨i, -, rfl⟩ := List.mem_map.mp hp
  exact isHostText_toDigits (by decide) _

theorem isHostText_writeIPv6 (groups : List Nat) : IsHostText (writeIPv6 groups) := by
  have hwrite (gs : List Nat) : IsHostText (Text.joinWith ':' (gs.map (Nat.toDigits 16))) := by
    refine IsHostText.joinWith (by decide) fun piece hp => ?_
    obtain ⟨n, -, rfl⟩ := List.mem_map.mp hp
    exact isHostText_toDigits (by decide) n
  have hgap : IsHostText [':', ':'] := by decide
  simp only [writeIPv6]
  split
  · exact hwrite groups
  · exact ((hwrite _).append hgap).append (hwrite _)

theorem isHostText_percentEncode {inSet : Char → Bool} {s : List Char}
    (h : ∀ c ∈ s, inSet c = false → IsHostChar c) : IsHostText (percentEncode inSet s) := by
  intro c hc
  obtain ⟨d, hd, hc⟩ := List.mem_flatMap.mp hc
  split at hc
  · obtain ⟨b, -, hb⟩ := List.mem_flatMap.mp hc
    simp only [percentByte, List.mem_cons, List.not_mem_nil, or_false] at hb
    rcases hb with rfl | rfl | rfl
    · decide
    · exact (isHostChar_digitChar _).2
    · exact (isHostChar_digitChar _).2
  · rename_i hn
    obtain rfl := List.mem_singleton.mp hc
    exact h c hd (by simpa using hn)

namespace Host

theorem isHostText_of_parseBracketed {s : List Char} {host : Host}
    (h : parseBracketed s = some (.ok host)) : IsHostText host.toString.toList := by
  rw [parseBracketed.eq_def] at h
  split at h
  · split at h
    · split at h
      · rename_i groups _
        cases h
        have hopen : IsHostText ['['] := by decide
        have hclose : IsHostText [']'] := by decide
        rw [Host.toString, String.toList_ofList]
        exact (hopen.append (isHostText_writeIPv6 groups)).append hclose
      · cases h
    · cases h
  · cases h

theorem isHostText_of_parse {s : List Char} {host : Host} (h : Host.parse s = .ok host) :
    IsHostText host.toString.toList := by
  rw [Host.parse] at h
  split at h
  · rename_i r hb
    subst h
    exact isHostText_of_parseBracketed hb
  · split at h
    · cases h
    · split at h
      · cases h
      · cases h
      · rename_i ascii _ ha
        split at h
        · split at h
          · cases h
            rw [Host.toString, String.toList_ofList]
            exact isHostText_writeIPv4 _
          · cases h
        · cases h
          rw [Host.toString, String.toList_ofList]
          exact fun c hc => isHostChar_of_ascii (isAscii_of_mem_domainToAscii ha hc)
            (not_isForbidden_of_mem_domainToAscii ha hc)

theorem isHostText_of_parseOpaque {s : List Char} {host : Host} (h : parseOpaque s = .ok host) :
    IsHostText host.toString.toList := by
  rw [parseOpaque] at h
  split at h
  · rename_i r hb
    subst h
    exact isHostText_of_parseBracketed hb
  · split at h
    · cases h
    · rename_i hn
      cases h
      rw [Host.toString, String.toList_ofList]
      refine isHostText_percentEncode fun c hc hset => ?_
      have hmarks : c ∉ " \t\n\r#/:<>?@[\\]^|".toList := by
        refine fun hm => hn (List.any_eq_true.mpr ⟨c, hc, ?_⟩)
        rw [List.contains_iff_mem.mpr hm, Bool.or_true]
      simp only [inControlSet, Bool.or_eq_false_iff, decide_eq_false_iff_not] at hset
      have hblank : c.toNat ≠ 0x20 := by
        intro hb
        obtain rfl : c = ' ' := Char.toNat_inj.mp hb
        exact hmarks (by decide)
      refine ⟨by omega, by omega, fun he => ?_, fun he => ?_⟩
      · exact hmarks (he ▸ by decide)
      · exact hmarks (he ▸ by decide)

end Host

/-! ## Addresses -/

/-- Whatever address is read has a property. -/
def Gives (P : Url → Prop) (r : Except Fault Url) : Prop :=
  ∀ u, r = .ok u → P u

namespace Gives

variable {α : Type} {P : Url → Prop} {u : Url} {x : Except Fault α} {f : α → Except Fault Url}

protected theorem bind {Q : α → Prop} (h : ∀ a, x = .ok a → Q a)
    (hf : ∀ a, Q a → Gives P (f a)) : Gives P (x >>= f) := by
  intro u hu
  cases x with
  | error e => cases hu
  | ok a => exact hf a (h a rfl) u hu

protected theorem ok (h : P u) : Gives P (.ok u) := by
  rintro _ ⟨⟩
  exact h

theorem error (e : Fault) : Gives P (.error e) :=
  nofun

theorem ite {c : Prop} [Decidable c] {r r' : Except Fault Url} (h : Gives P r)
    (h' : Gives P r') : Gives P (if c then r else r') := by
  split
  · exact h
  · exact h'

end Gives

/-- The host of an address that is read, if it has one, is written with characters of hosts. -/
def ReadsHostText (r : Except Fault Url) : Prop :=
  Gives (fun u => ∀ host ∈ u.host, IsHostText host.toString.toList) r

theorem ReadsHostText.no_host {u : Url} (h : u.host = none) : ReadsHostText (.ok u) :=
  .ok fun host hu => by simp [h] at hu

theorem isHostText_of_mem_ite {c : Prop} [Decidable c] {host : Host}
    (h : IsHostText host.toString.toList) :
    ∀ host' ∈ (if c then none else some host), IsHostText host'.toString.toList := by
  intro host' hm
  split at hm
  · cases hm
  · cases hm
    exact h

theorem readsHostText_parseAuthority (kind : Kind) (scheme : String) (hasMore : Bool)
    (s : List Char) : ReadsHostText (parseAuthority kind scheme hasMore s) := by
  refine .ite (.error _) (.ite (.error _) ?_)
  refine .ite (.bind (fun _ => Host.isHostText_of_parse) ?_)
    (.bind (fun _ => Host.isHostText_of_parseOpaque) ?_)
  all_goals
    intro host hh
    refine .ite (.error _) (.bind (fun _ _ => True.intro) fun _ _ => .ok ?_)
    exact isHostText_of_mem_ite hh

theorem readsHostText_parseFile (s : List Char) : ReadsHostText (parseFile s) := by
  rw [parseFile.eq_def]
  split
  · refine .ite (.ite (ReadsHostText.no_host rfl) (.ite (ReadsHostText.no_host rfl) ?_))
      (ReadsHostText.no_host rfl)
    exact .bind (fun _ => Host.isHostText_of_parse) fun host hh => .ok (isHostText_of_mem_ite hh)
  · exact ReadsHostText.no_host rfl

theorem readsHostText_parseOther (scheme : String) (hasMore : Bool) (s : List Char) :
    ReadsHostText (parseOther scheme hasMore s) := by
  rw [parseOther.eq_def]
  split
  · exact readsHostText_parseAuthority _ _ _ _
  · exact ReadsHostText.no_host rfl
  · exact ReadsHostText.no_host rfl

theorem readsHostText_parseChars (s : List Char) : ReadsHostText (parseChars s) := by
  rw [parseChars.eq_def]
  split
  · exact .error _
  · rename_i scheme rest _
    have hmore {r : Except Fault Url} (h : ReadsHostText r) (query fragment : Option String) :
        ReadsHostText (r >>= fun u => pure { u with query := query, fragment := fragment }) :=
      .bind h fun u hu => .ok hu
    simp only
    cases Kind.of scheme with
    | web => exact hmore (readsHostText_parseAuthority _ _ _ _) _ _
    | file => exact hmore (readsHostText_parseFile _) _ _
    | other => exact hmore (readsHostText_parseOther _ _ _) _ _

/-- Host and port of an address are written with visible characters of ASCII that divide no
address. -/
theorem isHostText_hostAndPort {address : String} {u : Url} (h : Url.parse address = .ok u) :
    IsHostText u.hostAndPort.toList := by
  have hhost : IsHostText (u.hostText?.getD "").toList := by
    rw [hostText?]
    cases hu : u.host with
    | none => exact nofun
    | some host => exact readsHostText_parseChars _ u h host hu
  have hport : IsHostText (u.port.elim "" fun p => ":" ++ toString p.toNat).toList := by
    cases u.port with
    | none => exact nofun
    | some p =>
      have hcolon : IsHostText [':'] := by decide
      have hdigits : IsHostText (toString p.toNat).toList := by
        rw [Nat.toString_eq_repr, Nat.toList_repr]
        exact isHostText_toDigits (by decide) _
      rw [Option.elim_some, String.toList_append]
      exact hcolon.append hdigits
  rw [hostAndPort, String.toList_append]
  exact hhost.append hport

end DeployPlan.Url
