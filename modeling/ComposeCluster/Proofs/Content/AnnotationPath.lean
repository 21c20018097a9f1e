import ComposeCluster.Content.Rollout
import ComposeCluster.Proofs.Json.Patch
import ComposeCluster.Proofs.Json.Pointer

/-!
# Paths of annotations

The path of an operation that sets an annotation of the pods ends in the key of the annotation,
which may have slashes and tildes in it. Written as text it is the same text only for the same key
(`render_annotationPath_inj`), it leads to this annotation (`at?_annotationPath`), and an operation
with it sets this annotation and changes nothing else (`applyTo?_annotationPath`).
-/

set_option autoImplicit false

namespace ComposeCluster.Content.Rollout

open Json (ChangedOnlyAt)
open Pointer (escape)

/-- Where an annotation of the pods is. The operations of a plan set the one with the hash. -/
def annotationPath (key : String) : Pointer := annotationsPath ++ [key]

variable {document : Json} {members : List (String × Json)}

/-- The path of an annotation is written as that of all annotations and its escaped key. -/
theorem render_annotationPath (key : String) :
    (annotationPath key).render = "/spec/template/metadata/annotations/" ++ escape key := by
  have hfront : annotationsPath.render ++ "/" = "/spec/template/metadata/annotations/" := by decide
  have hback : Pointer.render [key] = "/" ++ escape key := by
    rw [Pointer.render_cons]
    exact String.append_empty
  rw [annotationPath, Pointer.render_append, hback, ← String.append_assoc, hfront]

/-- Different keys have different paths. -/
theorem render_annotationPath_inj {key other : String} :
    (annotationPath key).render = (annotationPath other).render ↔ key = other := by
  refine ⟨fun h => ?_, congrArg fun key => (annotationPath key).render⟩
  have hread := Pointer.ofText?_render (annotationPath key)
  rw [h, Pointer.ofText?_render, Option.some_inj] at hread
  exact (List.cons.inj (List.append_cancel_left hread)).1.symm

/-- Annotations that are there are found at their place. -/
theorem valueAt_annotationsPath (h : document.at? annotationsPath = some (.obj members)) :
    document.valueAt annotationsPath = .obj members :=
  Json.valueAt_of_at? (by decide) h

/-- The path of an annotation leads to the member with its key. -/
theorem at?_annotationPath (h : document.at? annotationsPath = some (.obj members)) (key : String) :
    document.at? (annotationPath key) = findEntry key members := by
  rw [annotationPath, Json.at?_append, h, Option.bind_some, Json.at?]
  exact Option.bind_fun_some _

/-- An operation on an annotation sets it and changes nothing else. -/
theorem applyTo?_annotationPath (h : document.at? annotationsPath = some (.obj members))
    {kind : PatchKind} {key : String}
    (hkind : kind = .replace → (findEntry key members).isSome) (value : Json) :
    ∃ after, document.applyTo? ⟨kind, annotationPath key, value⟩ = some after ∧
      after.at? (annotationPath key) = some value ∧
      ChangedOnlyAt [annotationPath key] document after := by
  have hobj := valueAt_annotationsPath h
  refine ⟨_, Json.put?_append_singleton hobj hkind value, Json.at?_update _ _ _, ?_⟩
  exact Json.changedOnlyAt_update _ (Json.openAlong_of_valueAt_eq_obj hobj key)

/-- The key of an annotation is escaped so that it can be read back, and each annotation has a path
of its own: it is read as it was written, leads to this annotation, and an operation with it sets
this annotation and nothing else. -/
theorem annotation_path_leads_to_key (key : String) :
    escape key = String.ofList
        (Pointer.expand '/' '~' '1' (Pointer.expand '~' '~' '0' key.toList)) ∧
      '/' ∉ (escape key).toList ∧
      (∀ front back, (escape key).toList = front ++ '~' :: back →
        back.head? = some '0' ∨ back.head? = some '1') ∧
      Pointer.unescapeInRounds (escape key) = key ∧
      (annotationPath key).render = "/spec/template/metadata/annotations/" ++ escape key ∧
      (∀ other, (annotationPath key).render = (annotationPath other).render ↔ key = other) ∧
      Pointer.ofText? (annotationPath key).render = some (annotationPath key) ∧
      ∀ document members, document.at? annotationsPath = some (.obj members) →
        document.at? (annotationPath key) = findEntry key members ∧
          ∀ kind value, (kind = .replace → (findEntry key members).isSome) →
            ∃ after, document.applyTo? ⟨kind, annotationPath key, value⟩ = some after ∧
              after.at? (annotationPath key) = some value ∧
              ChangedOnlyAt [annotationPath key] document after := by
  have hescaped := Pointer.escaped_escape key
  refine ⟨Pointer.escape_eq_rounds key, hescaped.slash_notMem,
    fun front back => hescaped.digit_of_tilde, ?_, render_annotationPath key,
    fun other => render_annotationPath_inj, Pointer.ofText?_render _,
    fun document members h => ⟨at?_annotationPath h key,
      fun kind value hkind => applyTo?_annotationPath h hkind value⟩⟩
  rw [← Pointer.unescape_eq_rounds, Pointer.unescape_escape]

/-- The document of a deployment with an annotation whose key has both characters that are
escaped. -/
def annotatedDocument : Json :=
  .obj
    [("spec", .obj
       [("template", .obj
         [("metadata", .obj
           [("annotations", .obj [("shop/~1", .str "old"), ("shop~1/", .str "other")])])])])]

/-- For a key with both escaped characters the path leads to it, and replaces its value only. -/
theorem annotation_path_leads_to_shop_key :
    (escape "shop/~1" = "shop~1~01" ∧ Pointer.unescapeInRounds "shop~1~01" = "shop/~1") ∧
      annotatedDocument.at? annotationsPath =
        some (.obj [("shop/~1", .str "old"), ("shop~1/", .str "other")]) ∧
      ∃ after, annotatedDocument.applyTo? ⟨.replace, annotationPath "shop/~1", .str "new"⟩ =
          some after ∧
        after.at? (annotationPath "shop/~1") = some (.str "new") ∧
        ChangedOnlyAt [annotationPath "shop/~1"] annotatedDocument after := by
  have hescape : escape "shop/~1" = "shop~1~01" := by decide
  have hobj : annotatedDocument.at? annotationsPath =
      some (.obj [("shop/~1", .str "old"), ("shop~1/", .str "other")]) := rfl
  obtain ⟨-, -, -, hround, -, -, -, hleads⟩ := annotation_path_leads_to_key "shop/~1"
  rw [hescape] at hround
  exact ⟨⟨hescape, hround⟩, hobj, (hleads _ _ hobj).2 .replace (.str "new") fun _ => rfl⟩

end ComposeCluster.Content.Rollout
