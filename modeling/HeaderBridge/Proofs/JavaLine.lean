import HeaderBridge.Proofs.Declarators
import HeaderBridge.Proofs.ReadingTypes
import HeaderBridge.Proofs.Survey
import HeaderBridge.Proofs.Typedefs

/-!
# The Java line of a prototype

The four passes over the line of a plain prototype leave each type as the image of its
token and each name as its name in Java (`javaLine_line`), and the readers find just these
in the line that comes out (`ofLine_javaLine`).
-/

namespace HeaderBridge

open Text

/-! ## The declarations in Java -/

namespace Declared

variable (q : Declared)

/-- The Java type of a declared name. -/
def javaType (d : Dictionary) : Text := d.image q.token

/-- The name in Java behind its Java type. -/
def inJava (d : Dictionary) : Text := q.javaType d ++ ' ' :: q.javaName

end Declared

namespace Prototype

variable (p : Prototype) (d : Dictionary)

/-- The types of the result and of the parameters, as tokens of the dictionary. -/
def tokens : List Text := p.function.token :: p.params.map Declared.token

/-- The line with Java types. -/
def javaLine : Text := lineOf (p.function.inJava d) (p.params.map fun q => q.inJava d)

/-- The signature with Java types. -/
def signature : Signature where
  returnType := p.function.javaType d
  name := p.function.javaName
  paramTypes := p.params.map fun q => q.javaType d
  paramNames := p.params.map Declared.javaName

end Prototype

/-! ## Rewriting -/

/-- The type of a plain declarator becomes its token. -/
theorem Declared.Plain.javaToken_eq {q : Declared} (h : q.Plain) : q.javaToken = q.token := by
  unfold javaToken
  split
  · next hc =>
    obtain ⟨hbase, hone⟩ := h.charPointer hc.1 hc.2
    have hstem : q.stem = [] := by
      rw [stem, hbase]
      rfl
    have hmarker : q.marker = stringMarker := by simp [marker, hone, hbase]
    have hword : javaWord [] = [] := by decide
    rw [cutToken, token, hstem, hmarker, hone, hword]
    simp
  · exact javaWord_token h.not_reserved

/-- The passes over the line of a plain prototype leave images of tokens and names in
Java. -/
theorem javaLine_line {d : Dictionary} (hd : d.Plain) {p : Prototype} (hp : p.Plain) :
    d.javaLine p.line = p.javaLine d := by
  have hplain : ∀ q ∈ p.function :: p.params, q.Plain :=
    List.forall_mem_cons.2 ⟨hp.function, hp.params⟩
  refine Prototype.javaLine_of_keywordless (f := fun q => q.inJava d) hp.keywordless hd
    fun q hq => ?_
  rw [Declared.inLine, if_neg (hplain q hq).keywordless.not_glued, (hplain q hq).javaToken_eq]
  rfl

/-! ## Reading -/

/-- The dictionary has rules for the four markers. -/
def Dictionary.Marked (d : Dictionary) : Prop :=
  ∀ m ∈ [pointerMarker, pointerArrayMarker, stringMarker, byteArray], ∃ r ∈ d.rules, Rule.raw r = m

section

variable {d : Dictionary} (hd : d.Plain) (hm : d.Marked)
include hd hm

/-- The Java type of a declared name is a word or an array of a word. -/
theorem Declared.isTypeWord_javaType (q : Declared) : IsTypeWord (q.javaType d) := by
  by_cases hraw : ∃ r ∈ d.rules, Rule.raw r = q.token
  · obtain ⟨r, hr, htarget⟩ := Dictionary.produces_iff.1 (Dictionary.produces_image hraw)
    rw [javaType, ← htarget]
    exact (hd r hr).target
  · have hbase : q.token = q.type.base.text := by
      rcases q.token_cases with h | h
      · exact h
      · refine absurd (hm q.token ?_) hraw
        rcases h with h | h | h | h <;> simp [h]
    rw [javaType, Dictionary.image_eq_self fun r hr hrt => hraw ⟨r, hr, hrt⟩, hbase]
    exact q.type.base.isWord.isTypeWord

/-- The readers find in the Java line of a prototype its types and its names. -/
theorem ofLine_javaLine (p : Prototype) : Signature.ofLine (p.javaLine d) = p.signature d := by
  obtain ⟨w, hw⟩ := p.function.exists_javaName
  rw [Prototype.javaLine, Declared.inJava, ← hw, Prototype.signature, ← hw]
  exact Signature.ofLine_typed (p.function.isTypeWord_javaType hd hm) w
    (fun q _ => q.isTypeWord_javaType hd hm) fun q _ => q.isWord_javaName

end

end HeaderBridge
