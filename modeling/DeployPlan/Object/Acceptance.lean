import DeployPlan.Object.Types

/-!
# One object of each key

Of several drafts with one key the first is kept. `keepFirst` goes through a list of drafts and
remembers the keys it has seen.
-/

namespace DeployPlan

/-- Whether the object is the first one with its key, and the keys seen after it. -/
def acceptFirst (seen : List ObjectKey) (o : Object) : Bool × List ObjectKey :=
  if seen.contains o.key then (false, seen) else (true, o.key :: seen)

/-- The objects that are the first ones with their keys, and the keys seen after them. -/
def keepFirst (seen : List ObjectKey) : List Object → List Object × List ObjectKey
  | [] => ([], seen)
  | o :: rest =>
    if seen.contains o.key then keepFirst seen rest
    else
      let (kept, seen) := keepFirst (o.key :: seen) rest
      (o :: kept, seen)

/-- No two of the kept objects have one key, and none has a key seen before. -/
theorem keepFirst_keys (seen : List ObjectKey) (os : List Object) :
    ((keepFirst seen os).1.map Object.key).Nodup ∧
      ∀ o ∈ (keepFirst seen os).1, o.key ∉ seen := by
  induction os generalizing seen with
  | nil => simp [keepFirst]
  | cons o rest ih =>
    rw [keepFirst]
    split
    · exact ih seen
    · rename_i h
      obtain ⟨hn, hs⟩ := ih (o.key :: seen)
      refine ⟨List.nodup_cons.2 ⟨fun hm => ?_, hn⟩, fun p hp => ?_⟩
      · obtain ⟨p, hp, he⟩ := List.mem_map.1 hm
        exact hs p hp (he ▸ List.mem_cons_self)
      · rcases List.mem_cons.1 hp with rfl | hp
        · simpa using h
        · exact fun hm => hs p hp (List.mem_cons_of_mem _ hm)

end DeployPlan
