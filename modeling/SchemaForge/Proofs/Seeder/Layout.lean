import SchemaForge.Proofs.Migration.Name
import SchemaForge.Proofs.Seeder.Patch
import SchemaForge.Proofs.Template.Substitution

/-!
# The layout of a seeder class

A seeder under the built-in templates is the literal pieces of their template around the name of its
class and its body (`classText_eq_layout`). So a seeder that is generated with the call of the root
seeder for its body is never patched (`patch_classText`).
-/

namespace SchemaForge.Seeder

open Template

/-- What a seeder class has before its name. -/
def classHead : String := "<?php\n\nuse Illuminate\\Database\\Seeder;\n\nclass "

/-- What a seeder class has between its name and its body. -/
def classOpening : String :=
  " extends Seeder\n\x7b\n" ++
  "    /**\n     * Run the database seeds.\n     *\n     * @return void\n     */\n" ++
  "    public function run()\n    \x7b\n        "

/-- What a seeder class has after its body. -/
def classEnd : String := "\n    \x7d\n\x7d\n"

/-- A seeder class with its name and its body. -/
def classLayout (className body : String) : String :=
  classHead ++ className ++ classOpening ++ body ++ classEnd

/-- The built-in template of seeders is its layout with the placeholders in the slots. -/
theorem load_seeder : Source.builtin.load seederName =
    .ok (classLayout "\x7b\x7bclass\x7d\x7d" "\x7b\x7bcontent\x7d\x7d") := by
  have h : seederText = classLayout "\x7b\x7bclass\x7d\x7d" "\x7b\x7bcontent\x7d\x7d" := rfl
  rw [← h]
  rfl

/-- No token starts in the head of a class. -/
theorem sealed_classHead : Sealed classHead.toList := sealed_of_no_opening (by decide +kernel)

theorem sealed_classOpening : Sealed classOpening.toList := by
  have hclass : Sealed " extends Seeder\n\x7b\n".toList := sealed_of_no_opening (by decide +kernel)
  have hcomment : Sealed
      "    /**\n     * Run the database seeds.\n     *\n     * @return void\n     */\n".toList :=
    sealed_of_no_opening (by decide +kernel)
  have hrun : Sealed "    public function run()\n    \x7b\n        ".toList :=
    sealed_of_no_opening (by decide +kernel)
  exact sealed_toList_append (sealed_toList_append hclass hcomment) hrun

theorem sealed_classEnd : Sealed classEnd.toList := sealed_of_no_opening (by decide)

/-- The template of seeders takes the name of the class and then the body. -/
theorem substitute_classLayout {className : String} (h : ∀ c ∈ className.toList, Text.IsPlain c)
    (body : String) :
    substitute (substitute (classLayout "\x7b\x7bclass\x7d\x7d" "\x7b\x7bcontent\x7d\x7d")
      [(.className, className)]) [(.content, body)] = classLayout className body := by
  have hclass : "\x7b\x7bclass\x7d\x7d".toList = Placeholder.className.token := by decide
  have hcontent : "\x7b\x7bcontent\x7d\x7d".toList = Placeholder.content.token := by decide
  have hname : resolveToken [(.className, className)] Placeholder.className.token =
      className.toList := by
    simp [resolveToken]
  have hkept : resolveToken [(.className, className)] Placeholder.content.token =
      Placeholder.content.token := by
    simp [resolveToken, Placeholder.token, Placeholder.name]
  have hbody : resolveToken [(.content, body)] Placeholder.content.token = body.toList := by
    simp [resolveToken]
  apply String.toList_inj.mp
  simp only [toList_substitute, classLayout, String.toList_append, hclass, hcontent,
    List.append_assoc]
  rw [resolved_sealed_append _ sealed_classHead,
    resolved_token_append _ (Placeholder.isToken_token _),
    resolved_sealed_append _ sealed_classOpening,
    resolved_token_append _ (Placeholder.isToken_token _), resolved_sealed _ sealed_classEnd,
    hname, hkept, resolved_sealed_append _ sealed_classHead,
    resolved_sealed_append _ (sealed_plain h), resolved_sealed_append _ sealed_classOpening,
    resolved_token_append _ (Placeholder.isToken_token _), resolved_sealed _ sealed_classEnd, hbody]

/-- A class takes its body when nothing is refused. -/
theorem classText_eq {source : Source} {className content template : String}
    (hload : source.load seederName = .ok template)
    (hresolved : ensureResolved seederName
      (substitute (substitute template [(.className, className)]) [(.content, "")]) = .ok ()) :
    classText source className content = .ok (substitute (substitute template
      [(.className, className)])
      [(.content, if Text.IsBlank content then emptyBody else content)]) := by
  simp only [classText, hload, hresolved, bind, Except.bind]
  rfl

/-- A seeder under the built-in templates is its layout; a blank body becomes a comment. -/
theorem classText_eq_layout {className : String} (h : ∀ c ∈ className.toList, Text.IsPlain c)
    (content : String) : classText .builtin className content =
      .ok (classLayout className (if Text.IsBlank content then emptyBody else content)) := by
  have hsealed : Sealed (classLayout className "").toList :=
    sealed_toList_append (sealed_toList_append (sealed_toList_append
      (sealed_toList_append sealed_classHead (sealed_plain h)) sealed_classOpening)
      (by simpa using sealed_nil)) sealed_classEnd
  have hresolved : ensureResolved seederName (classLayout className "") = .ok () :=
    ensureResolved_of_sealed _ hsealed
  have hbase := substitute_classLayout h
  rw [classText_eq load_seeder (by rw [hbase]; exact hresolved), hbase]

/-- A generated seeder with the call of the root seeder for its body is never patched. -/
theorem patch_classText {className text : String} (h : ∀ c ∈ className.toList, Text.IsPlain c)
    (htext : classText .builtin className (call rootClass) = .ok text) :
    patch text = .alreadyCalls := by
  have hblank : ¬Text.IsBlank (call rootClass) := by
    intro hspaces
    have hdollar := hspaces '$' (by simp [call])
    exact absurd hdollar (by decide)
  rw [classText_eq_layout h, if_neg hblank] at htext
  obtain rfl := Except.ok.inj htext
  have hoccurs : Text.occurs (call rootClass).toList
      (classLayout className (call rootClass)).toList = true := by
    rw [Text.occurs_iff]
    refine ⟨(classHead ++ className ++ classOpening).toList, classEnd.toList, ?_⟩
    simp [classLayout]
  rw [patch, if_pos hoccurs]

end SchemaForge.Seeder
