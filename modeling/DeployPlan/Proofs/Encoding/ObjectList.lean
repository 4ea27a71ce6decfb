import DeployPlan.Proofs.Encoding.Sizes

/-!
# The text of a plan

The text of a list of objects is JSON, in both layouts, and is read as that list. It tells the list
from all others but for the parts of seconds, which are not written: `encoding_keeps_objects`.
-/

namespace DeployPlan.Encoding

open Json (IsWord proper_str proper_arr_iff proper_obj_iff)

/-- The value is the list of the objects, each of them with its own kind. -/
structure Lists (j : Json) (os : List Object) : Prop where
  list : j = .obj [("kind", .str "List"), ("apiVersion", .str "v1"), ("items", .arr (os.map object))]
  kinds : ∀ o ∈ os, (object o).member? "kind" = some (.str o.kind.word) ∧
    (object o).member? "apiVersion" = some (.str "v1")

theorem lists_listOf {os : List Object} (h : ∀ o ∈ os, o.Constructed) : Lists (listOf os) os where
  list := rfl
  kinds _ ho := member?_object (h _ ho)

/-- Two lists are written alike exactly if they are the same but for the parts of seconds. -/
theorem listOf_eq_listOf_iff {os os' : List Object} (h : ∀ o ∈ os, o.Constructed)
    (h' : ∀ o ∈ os', o.Constructed) :
    listOf os = listOf os' ↔ os.map Object.truncate = os'.map Object.truncate := by
  simp only [listOf, Json.obj.injEq, List.cons.injEq, Prod.mk.injEq, true_and, and_true,
    Json.arr.injEq]
  induction os generalizing os' with
  | nil => cases os' <;> simp
  | cons o os ih =>
    cases os' with
    | nil => simp
    | cons o' os' =>
      obtain ⟨ho, hos⟩ := List.forall_mem_cons.mp h
      obtain ⟨ho', hos'⟩ := List.forall_mem_cons.mp h'
      rw [List.map_cons, List.map_cons, List.map_cons, List.map_cons, List.cons.injEq,
        List.cons.injEq, object_eq_object_iff ho ho', ih hos hos']

theorem proper_listOf {os : List Object} (h : ∀ o ∈ os, o.Sized) : (listOf os).Proper := by
  simp only [listOf, proper_obj_iff, List.forall_mem_cons, proper_str, proper_arr_iff,
    List.forall_mem_map, proper_object_iff, true_and]
  exact ⟨h, List.forall_mem_nil _⟩

theorem lawful_of_mem {l : Json.Layout} (h : l ∈ [Json.compact, Json.pretty]) : l.Lawful := by
  simp only [List.mem_cons, List.not_mem_nil, or_false] at h
  rcases h with h | h <;> subst h
  · exact Json.lawful_compact
  · exact Json.lawful_pretty

theorem getLast?_write_listOf (l : Json.Layout) (os : List Object) :
    (Json.write l (listOf os)).toList.getLast? = some '\x7d' := by
  rw [Json.write, String.toList_ofList, listOf, Json.chars, List.getLast?_append]
  rfl

/-- The text of a list of objects, in either layout, is a JSON text that ends in a brace, and one
line feed behind it. It is read as the list of the objects, each with its own kind. Another list has
the text in any layout only if it is the same but for the parts of seconds, and then it has it. -/
theorem encoding_keeps_objects {os : List Object} (hc : ∀ o ∈ os, o.Constructed)
    (hs : ∀ o ∈ os, o.Sized) {l : Json.Layout} (hl : l ∈ [Json.compact, Json.pretty]) :
    (∃ body, objectList l os = body ++ "\n" ∧ body.toList.getLast? = some '\x7d' ∧
      Json.read body = some (listOf os)) ∧
    Json.read (objectList l os) = some (listOf os) ∧ Lists (listOf os) os ∧
    ∀ os', (∀ o ∈ os', o.Constructed) → (∀ o ∈ os', o.Sized) →
      (∀ l' ∈ [Json.compact, Json.pretty], objectList l os = objectList l' os' →
        os.map Object.truncate = os'.map Object.truncate) ∧
      (os.map Object.truncate = os'.map Object.truncate → objectList l os = objectList l os') := by
  have hproper := proper_listOf hs
  have hbody : Json.read (Json.write l (listOf os)) = some (listOf os) := by
    have hread := Json.read_write (lawful_of_mem hl) hproper (show Json.Blank "".toList from nofun)
    rwa [String.append_empty] at hread
  have hline : Json.Blank "\n".toList := by
    intro c hm
    rw [List.mem_singleton.mp hm]
    decide
  refine ⟨⟨_, rfl, getLast?_write_listOf l os, hbody⟩,
    Json.read_write (lawful_of_mem hl) hproper hline, lists_listOf hc, fun os' hc' hs' => ⟨?_, ?_⟩⟩
  · intro l' hl' he
    have htext : Json.write l (listOf os) = Json.write l' (listOf os') :=
      String.append_left_inj "\n" |>.mp he
    have hlists := Json.write_injective (lawful_of_mem hl) (lawful_of_mem hl') hproper
      (proper_listOf hs') htext
    exact (listOf_eq_listOf_iff hc hc').mp hlists
  · intro ht
    rw [objectList, (listOf_eq_listOf_iff hc hc').mpr ht, objectList]

def quotedService : Object :=
  .service (.forward "a\"b" 80 .empty)

/-- A name with a quotation mark is read back from both layouts. -/
theorem encoding_keeps_quotation_mark :
    Json.read (objectList Json.compact [quotedService]) = some (listOf [quotedService]) ∧
      Json.read (objectList Json.pretty [quotedService]) = some (listOf [quotedService]) := by
  have hc : ∀ o ∈ [quotedService], o.Constructed := by
    intro o ho
    rw [List.mem_singleton.mp ho]
    trivial
  have hs : ∀ o ∈ [quotedService], o.Sized := by
    intro o ho
    have heighty : IsWord 80 := ⟨by omega, by omega⟩
    rw [List.mem_singleton.mp ho]
    refine ⟨⟨nofun, nofun, nofun⟩, fun spec hspec => ?_, nofun⟩
    cases hspec
    have hport : Schema.servicePort.Sized
        (servicePortValue { port := 80, targetPort := some (.int 80), protocol := some "TCP" }) :=
      ⟨heighty, fun _ hv _ hn => by cases hv; cases hn; exact heighty, fun _ _ => trivial,
        Field.allSized_blanks _⟩
    refine ⟨fun ps hps p hp => ?_, fun m hm e he => ?_, Field.allSized_blanks _⟩
    · cases hps
      rw [List.mem_singleton.mp hp]
      exact hport
    · cases hm
      cases he
  exact ⟨(encoding_keeps_objects hc hs (by simp)).2.1, (encoding_keeps_objects hc hs (by simp)).2.1⟩

/-- A repository that was made so many nanoseconds after the beginning of a year. -/
def repositoryMadeAfter (nanosecond : Nat) : Object :=
  .imageRepository
    { metadata :=
      { name := some "a"
        creationTimestamp := some
          { date := ⟨2024, 1, 1⟩, hour := 0, minute := 0, second := 0, nanosecond } } }

/-- Half a second does not show in the text. -/
theorem encoding_drops_parts_of_seconds :
    ((repositoryMadeAfter 0).Constructed ∧ (repositoryMadeAfter 0).Sized) ∧
      ((repositoryMadeAfter 500000000).Constructed ∧ (repositoryMadeAfter 500000000).Sized) ∧
      [repositoryMadeAfter 0] ≠ [repositoryMadeAfter 500000000] ∧
      objectList Json.compact [repositoryMadeAfter 0] =
        objectList Json.compact [repositoryMadeAfter 500000000] ∧
      objectList Json.pretty [repositoryMadeAfter 0] =
        objectList Json.pretty [repositoryMadeAfter 500000000] :=
  ⟨⟨⟨rfl, rfl⟩, ⟨nofun, nofun, nofun⟩⟩, ⟨⟨rfl, rfl⟩, ⟨nofun, nofun, nofun⟩⟩, by decide, rfl, rfl⟩

end DeployPlan.Encoding
