import DeployPlan.Proofs.Config.Variables
import DeployPlan.Proofs.ImageName.Form

/-!
# Arguments that set variables

Arguments are read from the front: what is read of further ones is laid over what is read already
(`parse_append`), so an error stays an error and a later value counts more than an earlier one. How
the pairs are distributed over the arguments is of no account (`parse_join`). A map is written as
such pairs and read again in two steps: a pair that is written is read (`readPair_write`), and the
pairs of a text that joins them are found again (`foldlM_join`).
-/

namespace DeployPlan

namespace EnvVar

/-- A text is a name of a variable: letters, digits and low lines of ASCII, no digit in front. -/
def Named (k : String) : Prop :=
  ∃ c r, k.toList = c :: r ∧ (c.isAlpha = true ∨ c = '_') ∧
    ∀ d ∈ r, d.isAlphanum = true ∨ d = '_'

theorem isLead_iff {c : Char} : isLead c = true ↔ c.isAlpha = true ∨ c = '_' := by
  have hupper : ('A' ≤ c && c ≤ 'Z') = c.isUpper := (Bool.decide_and _ _).symm
  show (('A' ≤ c && c ≤ 'Z') || c.isLower || c == '_') = true ↔
    (c.isUpper || c.isLower) = true ∨ c = '_'
  rw [hupper, Bool.or_eq_true, beq_iff_eq]

theorem isName_iff {k : String} : isName k = true ↔ Named k := by
  have htail (d : Char) : (isLead d || Text.isDigit d) = true ↔ d.isAlphanum = true ∨ d = '_' := by
    have hdigit : Text.isDigit d = d.isDigit := by
      simp only [Text.isDigit, Char.isDigit, Char.le_def, ge_iff_le]
    rw [Bool.or_eq_true, isLead_iff, hdigit, Char.isAlphanum, Bool.or_eq_true]
    exact or_right_comm
  unfold isName Named
  cases k.toList with
  | nil => simp
  | cons c r =>
    have hall : (r.all fun d => isLead d || Text.isDigit d) = true ↔
        ∀ d ∈ r, d.isAlphanum = true ∨ d = '_' := by
      simp only [List.all_eq_true, htail]
    show (isLead c && r.all fun d => isLead d || Text.isDigit d) = true ↔ _
    rw [Bool.and_eq_true, isLead_iff, hall]
    constructor
    · exact fun h => ⟨c, r, rfl, h⟩
    · rintro ⟨_, _, ⟨⟩, h⟩
      exact h

variable {k v : String}

theorem Named.ne_nil (h : Named k) : k.toList ≠ [] := by
  obtain ⟨c, r, hk, -⟩ := h
  rw [hk]
  exact List.cons_ne_nil c r

theorem Named.plain (h : Named k) :
    ∀ c ∈ k.toList, Text.isBlank c = false ∧ c ≠ '=' ∧ c ≠ ',' := by
  obtain ⟨lead, r, hk, hlead, hr⟩ := h
  intro c hc
  have hchar : c.isAlphanum = true ∨ c = '_' := by
    rw [hk] at hc
    rcases List.mem_cons.mp hc with rfl | hc
    · refine hlead.imp_left fun h => ?_
      rw [Char.isAlphanum, h, Bool.true_or]
    · exact hr c hc
  rcases hchar with h | rfl
  · refine ⟨ImageName.isBlank_eq_false (by decide) h, ?_, ?_⟩ <;>
    · rintro rfl
      exact absurd h (by decide)
  · decide

end EnvVar

namespace Environment

open EnvVar (Named)

variable {m n : StringMap String} {k v : String}

/-! ## Arguments behind others -/

theorem addPair_overlay (m n : StringMap String) (pair : List Char) :
    addPair (m.overlay n) pair = (addPair n pair).map m.overlay := by
  unfold addPair
  cases readPair pair with
  | error e => rfl
  | ok read =>
    cases read with
    | none => rfl
    | some entry => exact congrArg Except.ok (m.overlay_insert n entry.1 entry.2).symm

theorem foldlM_overlay (m n : StringMap String) (pairs : List (List Char)) :
    pairs.foldlM addPair (m.overlay n) = (pairs.foldlM addPair n).map m.overlay := by
  induction pairs generalizing n with
  | nil => rfl
  | cons pair pairs ih =>
    rw [List.foldlM_cons, List.foldlM_cons, addPair_overlay]
    cases addPair n pair with
    | error e => rfl
    | ok n' => exact ih n'

/-- What further arguments set is laid over what the first ones set. -/
theorem parse_append (xs ys : List String) :
    parse (xs ++ ys) = parse xs >>= fun m => (parse ys).map m.overlay := by
  unfold parse
  rw [List.flatMap_append, List.foldlM_append]
  refine congrArg (_ >>= ·) (funext fun m => ?_)
  exact foldlM_overlay m .empty _

/-- Pairs may stand in one argument or in two. -/
theorem parse_join (before after : List String) (a b : String) :
    parse (before ++ (a ++ "," ++ b) :: after) = parse (before ++ a :: b :: after) := by
  have hpairs : pairsOf (a ++ "," ++ b) = pairsOf a ++ pairsOf b := by
    unfold pairsOf
    rw [String.toList_append, String.toList_append, List.append_assoc]
    exact Text.splitOn_append ',' a.toList b.toList
  unfold parse
  rw [List.flatMap_append, List.flatMap_append, List.flatMap_cons, List.flatMap_cons,
    List.flatMap_cons, hpairs, List.append_assoc]

/-! ## The names of what is set -/

theorem named_of_readPair {pair : List Char} (h : readPair pair = .ok (some (k, v))) :
    Named k := by
  unfold readPair at h
  split at h
  · cases h
  · split at h
    · cases h
    · dsimp only at h
      split at h
      · rename_i hname
        cases h
        exact EnvVar.isName_iff.mp hname
      · cases h

theorem named_of_addPair {pair : List Char} (hm : ∀ k ∈ m.keys, Named k)
    (h : addPair m pair = .ok n) : ∀ k ∈ n.keys, Named k := by
  obtain ⟨read, hread, h⟩ := bind_eq_ok.mp h
  cases read with
  | none =>
    cases h
    exact hm
  | some entry =>
    cases h
    intro k hk
    rw [StringMap.mem_keys_iff] at hk
    obtain ⟨v, hv⟩ := hk
    rw [StringMap.get?_insert] at hv
    split at hv
    · rename_i heq
      rw [← heq]
      exact named_of_readPair hread
    · exact hm k (StringMap.mem_keys_iff.mpr ⟨v, hv⟩)

theorem named_of_parse {args : List String} (h : parse args = .ok m) :
    ∀ k ∈ m.keys, Named k := by
  refine of_foldlM (P := fun _ m => ∀ k ∈ m.keys, Named k) ?_ ?_ h
  · exact nofun
  · exact fun _ _ _ _ => named_of_addPair

/-! ## Maps that are written -/

/-- A variable and its value as a pair. -/
def write (entry : String × String) : String :=
  entry.1 ++ "=" ++ entry.2

/-- A variable whose value can stand in an argument: no comma would divide it, and no blanks would
be lost at its end. -/
structure Writable (entry : String × String) : Prop where
  named : Named entry.1
  plain : ',' ∉ entry.2.toList
  ends : ∀ c ∈ entry.2.toList.getLast?, Text.isBlank c = false

theorem toList_write (entry : String × String) :
    (write entry).toList = entry.1.toList ++ '=' :: entry.2.toList := by
  rw [write, String.toList_append, String.toList_append, List.append_assoc]
  rfl

theorem Writable.trim_write {entry : String × String} (h : Writable entry) :
    Text.trim (write entry).toList = (write entry).toList := by
  rw [toList_write]
  apply Text.trim_eq_self_of_ends
  · intro c hc
    rw [List.head?_append, Option.mem_def, Option.or_eq_some_iff, List.head?_eq_none_iff] at hc
    rcases hc with hc | ⟨hk, -⟩
    · exact (h.named.plain c (List.mem_of_mem_head? hc)).1
    · exact absurd hk h.named.ne_nil
  · intro c hc
    rw [List.getLast?_append, List.getLast?_cons, Option.some_or, Option.mem_def,
      Option.some.injEq] at hc
    rw [← hc]
    cases hv : entry.2.toList.getLast? with
    | none => rfl
    | some d => exact h.ends d hv

/-- A pair that is written is read. -/
theorem readPair_write {entry : String × String} (h : Writable entry) :
    readPair (write entry).toList = .ok (some entry) := by
  have hcut : Text.cut '=' (write entry).toList = some (entry.1.toList, entry.2.toList) := by
    rw [toList_write]
    apply Text.cut_append
    exact fun hc => (h.named.plain '=' hc).2.1 rfl
  have hkey : Text.trim entry.1.toList = entry.1.toList := by
    apply Text.trim_eq_self_of_ends
    · exact fun c hc => (h.named.plain c (List.mem_of_mem_head? hc)).1
    · exact fun c hc => (h.named.plain c (List.mem_of_mem_getLast? hc)).1
  unfold readPair
  rw [h.trim_write]
  split
  · rename_i hnil
    rw [hnil] at hcut
    cases hcut
  · rw [hcut]
    dsimp only
    rw [hkey, String.ofList_toList, String.ofList_toList, if_pos (EnvVar.isName_iff.mpr h.named)]

theorem Writable.not_mem_write {entry : String × String} (h : Writable entry) :
    ',' ∉ (write entry).toList := by
  rw [toList_write, List.mem_append, List.mem_cons]
  rintro (hk | heq | hv)
  · exact (h.named.plain ',' hk).2.2 rfl
  · exact absurd heq (by decide)
  · exact h.plain hv

theorem foldlM_write (m : StringMap String) {entries : List (String × String)}
    (h : ∀ entry ∈ entries, Writable entry) :
    (entries.map fun entry => (write entry).toList).foldlM addPair m =
      .ok (entries.foldl (fun m e => m.insert e.1 e.2) m) := by
  induction entries generalizing m with
  | nil => rfl
  | cons entry entries ih =>
    have hadd : addPair m (write entry).toList = .ok (m.insert entry.1 entry.2) := by
      unfold addPair
      rw [readPair_write (h entry List.mem_cons_self)]
      rfl
    rw [List.map_cons, List.foldlM_cons, hadd]
    exact ih _ fun e he => h e (List.mem_cons_of_mem _ he)

/-- Pairs that are written in one argument are added one after the other. -/
theorem foldlM_join (m : StringMap String) {entries : List (String × String)}
    (h : ∀ entry ∈ entries, Writable entry) :
    (pairsOf (",".intercalate (entries.map write))).foldlM addPair m =
      .ok (entries.foldl (fun m e => m.insert e.1 e.2) m) := by
  cases entries with
  | nil => rfl
  | cons entry entries =>
    have hpieces : pairsOf (",".intercalate ((entry :: entries).map write)) =
        (entry :: entries).map fun entry => (write entry).toList := by
      unfold pairsOf
      rw [String.toList_intercalate, List.map_map]
      refine Text.splitOn_joinWith (List.cons_ne_nil _ _) fun piece hp => ?_
      obtain ⟨e, he, rfl⟩ := List.mem_map.mp hp
      exact (h e he).not_mem_write
    rw [hpieces]
    exact foldlM_write m h

/-- A map is read from its entries, in any order and in as many arguments as one likes. -/
theorem parse_map_join {groups : List (List (String × String))}
    (hperm : groups.flatten.Perm m.entries) (h : ∀ entry ∈ m.entries, Writable entry) :
    parse (groups.map fun entries => ",".intercalate (entries.map write)) = .ok m := by
  have hall (m' : StringMap String) (hg : ∀ entry ∈ groups.flatten, Writable entry) :
      ((groups.map fun entries => ",".intercalate (entries.map write)).flatMap pairsOf).foldlM
        addPair m' = .ok (groups.flatten.foldl (fun m e => m.insert e.1 e.2) m') := by
    clear hperm
    induction groups generalizing m' with
    | nil => rfl
    | cons entries groups ih =>
      rw [List.flatten_cons, List.forall_mem_append] at hg
      rw [List.map_cons, List.flatMap_cons, List.foldlM_append, foldlM_join m' hg.1,
        List.flatten_cons, List.foldl_append]
      exact ih _ hg.2
  have hread := hall .empty fun entry he => h entry (hperm.mem_iff.mp he)
  rw [parse, hread]
  exact congrArg Except.ok (StringMap.ofList_of_perm hperm)

/-- Arguments are read from the front: the first error ends it, and later variables count more than
earlier ones. A comma divides pairs as well as the end of an argument does. All that is set has the
name of a variable, and every map that can be written is read again from its entries, in one argument
or in one for each. -/
theorem arguments_add_up :
    (∀ xs ys e, parse xs = .error e → parse (xs ++ ys) = .error e) ∧
    (∀ xs ys m, parse xs = .ok m →
      (∀ e, parse ys = .error e → parse (xs ++ ys) = .error e) ∧
      ∀ n, parse ys = .ok n → ∃ both, parse (xs ++ ys) = .ok both ∧
        ∀ k, both.get? k = (n.get? k).or (m.get? k)) ∧
    (∀ before after a b,
      parse (before ++ (a ++ "," ++ b) :: after) = parse (before ++ a :: b :: after)) ∧
    (∀ args m, parse args = .ok m → ∀ k ∈ m.keys, Named k) ∧
    ∀ m : StringMap String, (∀ entry ∈ m.entries, Writable entry) →
      ∀ entries : List (String × String), entries.Perm m.entries →
        parse [",".intercalate (entries.map write)] = .ok m ∧ parse (entries.map write) = .ok m := by
  refine ⟨fun xs ys e h => ?_, fun xs ys m h => ⟨fun e he => ?_, fun n hn => ?_⟩, parse_join,
    fun args m => named_of_parse, fun m h entries hperm => ⟨?_, ?_⟩⟩
  · rw [parse_append, h]
    rfl
  · rw [parse_append, h, he]
    rfl
  · refine ⟨m.overlay n, ?_, m.get?_overlay_eq_or n⟩
    rw [parse_append, h, hn]
    rfl
  · have hone : [entries].flatten.Perm m.entries := by
      rwa [List.flatten_singleton]
    exact parse_map_join hone h
  · have heach : (entries.map fun entry => [entry]).flatten.Perm m.entries := by
      rwa [← List.flatMap_def, List.flatMap_singleton']
    have hread := parse_map_join heach h
    rwa [List.map_map] at hread

end Environment

end DeployPlan
