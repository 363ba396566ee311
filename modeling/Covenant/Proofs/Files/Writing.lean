import Covenant.Files.Tree
import Covenant.Proofs.Basic

namespace Covenant.FileTree

theorem lookup_set (entries : List (List String × FileEntry)) (parts q : List String) (entry : FileEntry) :
    (set entries parts entry).lookup q = if q = parts then some entry else entries.lookup q := by
  induction entries with
  | nil => rw [set, lookup_cons_eq]
  | cons first rest ih =>
    obtain ⟨p, old⟩ := first
    by_cases here : p = parts
    · rw [set, if_pos (beq_iff_eq.mpr here), lookup_cons_eq, lookup_cons_eq, here]
      split <;> rfl
    · have differs : ¬ (p == parts) = true := mt beq_iff_eq.mp here
      rw [set, if_neg differs, lookup_cons_eq, lookup_cons_eq, ih]
      by_cases found : q = p
      · simp [found, here]
      · simp [found]

theorem placed_put_self (t : FileTree) {parts : List String} (nonempty : parts ≠ []) (entry : FileEntry) :
    FileTree.entry? (t.put parts entry) (some parts) = some entry := by
  obtain ⟨p, rest, rfl⟩ := List.exists_cons_of_ne_nil nonempty
  rw [FileTree.entry?, put, lookup_set, if_pos rfl]
  exact nofun

theorem placed_put_other (t : FileTree) {parts : List String} {place : Place} (other : place ≠ some parts)
    (entry : FileEntry) : FileTree.entry? (t.put parts entry) place = t.entry? place := by
  obtain _ | (_ | ⟨p, rest⟩) := place
  · rfl
  · rfl
  · have differs : p :: rest ≠ parts := fun same => other (by rw [same])
    rw [FileTree.entry?, FileTree.entry?, put, lookup_set, if_neg differs] <;> exact nofun

theorem walk_cons {t : FileTree} {place : Place} (directory : t.entry? place = some .directory) (part : String)
    (rest : List String) :
    t.walk place (part :: rest) =
      if part == "" || part == "." then t.walk place rest
      else if part == ".." then t.walk (parent place) rest
      else if part.utf8ByteSize > nameLimit then .error .nameTooLong
      else if place.isSome && (t.entry? (child? place part)).isSome then t.walk (child? place part) rest
      else if rest.isEmpty then .ok (.missing (child? place part))
      else if rest.all (· == "") then .ok .missingDirectory
      else .error .noEntry := by
  conv_lhs => unfold walk
  rw [directory]

/-- A walk ends at a file, or where one can be made. -/
def Leads (t : FileTree) (place : Place) (route parts : List String) : Prop :=
  (∃ old, t.walk place route = .ok (.file (some parts) old)) ∨ t.walk place route = .ok (.missing (some parts))

theorem Leads.directory {t : FileTree} {place : Place} {part : String} {rest parts : List String}
    (h : t.Leads place (part :: rest) parts) : t.entry? place = some .directory := by
  unfold Leads walk at h
  cases here : t.entry? place with
  | none => simp [here] at h
  | some entry => cases entry <;> simp_all

def textAt? (t : FileTree) (path : String) : Option String :=
  match t.find path with
  | .ok (.file _ text) => some text
  | _ => none

end Covenant.FileTree
