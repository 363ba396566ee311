import Covenant.Proofs.Engine.Shown
import Covenant.Proofs.Verifier.Runs

/-!
# The site of a counterexample

The engine reads the class and the method that it is asked about from the options, where the dots of the class name are
written as strokes. The verifier asks the model for the class by its own name. Both mean the same site if and only if
the name of the class has no stroke; otherwise a refuted contract comes with an empty trace.
-/

namespace Covenant

open Snapshot

/-! ## Names of classes -/

theorem replaceChar_toList (old new : Char) (s : String) :
    (Text.replaceChar old new s).toList = s.toList.map fun c => if c = old then new else c :=
  String.toList_ofList

theorem class_of_path (name : String) :
    Text.replaceChar '/' '.' (classPath name) = Text.replaceChar '/' '.' name := by
  have each (c : Char) : (if (if c = '.' then '/' else c) = '/' then '.' else if c = '.' then '/' else c) =
      if c = '/' then '.' else c := by
    by_cases dot : c = '.'
    · simp [dot]
    · simp [dot]
  rw [Text.replaceChar, classPath, replaceChar_toList, List.map_map, Text.replaceChar]
  simp only [Function.comp_def, each]

theorem get?_build (subject : Subject) (request : Request) :
    (Configuration.build subject request).get? Configuration.classKey = some (.str subject.path) ∧
      (Configuration.build subject request).get? Configuration.relevantKey = some (.str request.mergedDependencies) ∧
      (Configuration.build subject request).get? Configuration.methodKey = some (.str (methodId request.method)) ∧
      (Configuration.build subject request).get? Configuration.rootKey = some (.str subject.sourceRoot) := by
  refine ⟨?_, ?_, ?_, ?_⟩ <;>
    simp [Configuration.build, Configuration.entries, Mapping.get?, Mapping.find?, Value.same_str,
      Configuration.classKey, Configuration.relevantKey, Configuration.methodKey, Configuration.rootKey]

theorem ofConfiguration_build (subject : Subject) (request : Request) :
    Site.ofConfiguration (Configuration.build subject request) =
      .ok ⟨.str subject.sourceRoot, Text.replaceChar '/' '.' subject.className, methodId request.method,
        Site.splitRelevant request.mergedDependencies⟩ := by
  obtain ⟨named, related, asked, rooted⟩ := get?_build subject request
  rw [← class_of_path]
  simp only [Site.ofConfiguration, Site.required, named, related, asked, rooted, ok_bind, Site.textOption,
    Site.methodOption, pure_eq_ok]
  rfl

theorem site_of_build {subject : Subject} {request : Request} {site : Site}
    (h : Site.ofConfiguration (Configuration.build subject request) = .ok site) :
    site.className = Text.replaceChar '/' '.' subject.className ∧ site.methodId = methodId request.method := by
  cases (ofConfiguration_build subject request).symm.trans h
  exact ⟨rfl, rfl⟩

/-! ## What the engine is asked and what it shows -/

variable {τ : Type} {e : BoundedEngine} {configuration : Mapping} {desk last : Desk τ} {s : Session SolvedModel}

end Covenant
