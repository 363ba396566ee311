import Covenant.Proofs.Files.Writing

namespace Covenant.FileTree

/-- The trees are the same, except that one file may have two texts. -/
def Alike (parts : List String) (u u' : String) (t t' : FileTree) : Prop :=
  ∀ place, t.entry? place = t'.entry? place ∨
    place = some parts ∧ t.entry? place = some (.file u) ∧ t'.entry? place = some (.file u')

namespace Alike

variable {parts : List String} {u u' : String} {t t' : FileTree}

theorem isSome_eq (h : Alike parts u u' t t') (place : Place) :
    (t.entry? place).isSome = (t'.entry? place).isSome := by
  rcases h place with same | ⟨-, here, here'⟩
  · rw [same]
  · rw [here, here']
    rfl

def Finds (parts : List String) (u u' : String) (x y : Except WalkError Found) : Prop :=
  x = y ∨ x = .ok (.file (some parts) u) ∧ y = .ok (.file (some parts) u')

theorem walk (h : Alike parts u u' t t') (place : Place) (route : List String) :
    Finds parts u u' (t.walk place route) (t'.walk place route) := by
  induction route generalizing place with
  | nil =>
    unfold FileTree.walk
    rcases h place with same | ⟨rfl, here, here'⟩
    · left
      rw [same]
      cases t'.entry? place with
      | none => rfl
      | some entry => cases entry <;> rfl
    · rw [here, here']
      exact .inr ⟨rfl, rfl⟩
  | cons part rest ih =>
    rcases h place with same | ⟨rfl, here, here'⟩
    · cases here : t.entry? place with
      | none =>
        left
        unfold FileTree.walk
        rw [← same, here]
      | some entry =>
        cases entry with
        | file text =>
          left
          unfold FileTree.walk
          rw [← same, here]
        | directory =>
          rw [walk_cons here, walk_cons (same ▸ here), h.isSome_eq]
          split
          · exact ih place
          split
          · exact ih (parent place)
          split
          · exact .inl rfl
          split
          · exact ih (child? place part)
          · exact .inl rfl
    · -- nothing lies below the file with the two texts
      left
      unfold FileTree.walk
      rw [here, here']

theorem find (h : Alike parts u u' t t') (path : String) : Finds parts u u' (t.find path) (t'.find path) := by
  unfold FileTree.find
  split
  · exact .inl rfl
  split
  · exact .inl rfl
  · exact h.walk _ _

theorem contains_eq (h : Alike parts u u' t t') (path : String) : t.contains path = t'.contains path := by
  unfold contains
  rcases h.find path with same | ⟨found, found'⟩
  · rw [same]
  · rw [found, found']

theorem isFile_eq (h : Alike parts u u' t t') (path : String) : t.isFile path = t'.isFile path := by
  unfold isFile
  rcases h.find path with same | ⟨found, found'⟩
  · rw [same]
  · rw [found, found']

def normalized (text : String) : String := String.ofList (newlines text.toList)

theorem read (h : Alike parts u u' t t') (path : String) :
    t.read path = t'.read path ∨ t.read path = .ok (normalized u) ∧ t'.read path = .ok (normalized u') := by
  unfold FileTree.read
  split
  · exact .inl rfl
  rcases h.find path with same | ⟨found, found'⟩
  · rw [same]
    exact .inl rfl
  · rw [found, found']
    exact .inr ⟨rfl, rfl⟩

theorem put (h : Alike parts u u' t t') (q : List String) (entry : FileEntry) :
    Alike parts u u' (t.put q entry) (t'.put q entry) := by
  intro place
  by_cases written : place = some q
  · left
    subst written
    cases q with
    | nil => rfl
    | cons first rest => rw [placed_put_self _ (List.cons_ne_nil _ _), placed_put_self _ (List.cons_ne_nil _ _)]
  · rw [placed_put_other _ written, placed_put_other _ written]
    exact h place

theorem write (h : Alike parts u u' t t') (path text : String) :
    (∃ f, t.write path text = .error f ∧ t'.write path text = .error f) ∨
      ∃ s s', t.write path text = .ok s ∧ t'.write path text = .ok s' ∧ Alike parts u u' s s' := by
  unfold FileTree.write
  split
  · exact .inl ⟨_, rfl, rfl⟩
  rcases h.find path with same | ⟨found, found'⟩
  · rw [← same]
    split
    · exact .inr ⟨_, _, rfl, rfl, h.put _ _⟩
    · exact .inr ⟨_, _, rfl, rfl, h.put _ _⟩
    · exact .inr ⟨_, _, rfl, rfl, h⟩
    · exact .inr ⟨_, _, rfl, rfl, h⟩
    all_goals exact .inl ⟨_, rfl, rfl⟩
  · rw [found, found']
    exact .inr ⟨_, _, rfl, rfl, h.put _ _⟩

end Alike

end Covenant.FileTree
