import HeaderBridge.Proofs.JavaLine

/-!
# Signatures written as lines

A signature is written as its type and its name and, in parentheses, a type and a name for
each parameter. The three readers know nothing of one another, but on such a line they agree :
they find the signature that was written, and nothing is reported of it (`ofLine_line`).

The Java line of a plain prototype is such a line (`Prototype.line_signature`).
-/

namespace HeaderBridge

open Text

namespace Signature

/-- The signature as a line with Java types. -/
def line (s : Signature) : Text :=
  lineOf (s.returnType ++ ' ' :: s.name)
    (List.zipWith (fun type name => type ++ ' ' :: name) s.paramTypes s.paramNames)

/-- Every type is a word or an array of a word, the name of the function is an identifier, and
each parameter has a type and a word for its name. -/
structure Typed (s : Signature) : Prop where
  returnType : IsTypeWord s.returnType
  name : ∃ f : Identifier, f.text = s.name
  paramTypes : ∀ t ∈ s.paramTypes, IsTypeWord t
  paramNames : ∀ n ∈ s.paramNames, IsWord n
  length_eq : s.paramNames.length = s.paramTypes.length

/-- What the readers find on the line of a signature is the signature, and nothing is reported
of it. -/
theorem ofLine_line {s : Signature} (h : s.Typed) :
    ofLine s.line = s ∧ s.check s.line = [] := by
  obtain ⟨f, hf⟩ := h.name
  have hargs : List.zipWith (fun type name => type ++ ' ' :: name) s.paramTypes s.paramNames =
      (s.paramTypes.zip s.paramNames).map fun p => p.1 ++ ' ' :: p.2 := by
    rw [List.zip, List.map_zipWith]
  have htypes : (s.paramTypes.zip s.paramNames).map Prod.fst = s.paramTypes :=
    List.map_fst_zip (Nat.le_of_eq h.length_eq.symm)
  have hnames : (s.paramTypes.zip s.paramNames).map Prod.snd = s.paramNames :=
    List.map_snd_zip (Nat.le_of_eq h.length_eq)
  have hread := ofLine_typed h.returnType f (T := Prod.fst) (N := Prod.snd)
    (fun p hp => h.paramTypes _ (List.of_mem_zip hp).1)
    fun p hp => h.paramNames _ (List.of_mem_zip hp).2
  constructor
  · rw [line, hargs, ← hf, hread, hf, htypes, hnames]
  · exact check_eq_nil_iff.2 ⟨hf ▸ f.ne_nil, h.length_eq⟩

/-- An array of octets from an array of words beyond ASCII and a plain word, and a function
without parameters. -/
theorem ofLine_line_sample :
    let s : Signature :=
      { returnType := "byte[]".toList
        name := "f_1".toList
        paramTypes := ["größe[]".toList, "_".toList]
        paramNames := ["½".toList, "int".toList] }
    let t : Signature := { returnType := "void".toList, name := "finish".toList }
    s.Typed ∧ t.Typed ∧ s.line = "byte[] f_1(größe[] ½, _ int);".toList ∧
      ofLine "byte[] f_1(größe[] ½, _ int);".toList = s ∧
      t.line = "void finish();".toList ∧ ofLine "void finish();".toList = t := by
  intro s t
  have hs : s.Typed :=
    { returnType := ⟨"byte".toList, .of_all (by decide) (by decide), Or.inr rfl⟩
      name := ⟨⟨"f_1".toList, by decide, by decide⟩, rfl⟩
      paramTypes := List.forall_mem_cons.2
        ⟨⟨"größe".toList, .of_all (by decide) (by decide), Or.inr rfl⟩,
          List.forall_mem_singleton.2 ⟨"_".toList, .of_all (by decide) (by decide), Or.inl rfl⟩⟩
      paramNames := List.forall_mem_cons.2
        ⟨.of_all (by decide) (by decide),
          List.forall_mem_singleton.2 (.of_all (by decide) (by decide))⟩
      length_eq := rfl }
  have ht : t.Typed :=
    { returnType := ⟨"void".toList, .of_all (by decide) (by decide), Or.inl rfl⟩
      name := ⟨⟨"finish".toList, by decide, by decide⟩, rfl⟩
      paramTypes := by simp [t]
      paramNames := by simp [t]
      length_eq := rfl }
  have hsline : s.line = "byte[] f_1(größe[] ½, _ int);".toList := by decide
  have htline : t.line = "void finish();".toList := by decide
  exact ⟨hs, ht, hsline, hsline ▸ (ofLine_line hs).1, htline, htline ▸ (ofLine_line ht).1⟩

end Signature

/-! ## Prototypes -/

namespace Prototype

variable (p : Prototype) (d : Dictionary)

/-- The Java line of a prototype is the line of its signature. -/
theorem line_signature : (p.signature d).line = p.javaLine d := by
  have hargs : List.zipWith (fun type name => type ++ ' ' :: name)
      (p.params.map fun q => q.javaType d) (p.params.map Declared.javaName) =
        p.params.map fun q => q.inJava d := by
    rw [List.zipWith_map, List.zipWith_self]
    rfl
  rw [Signature.line, javaLine, ← hargs]
  rfl

/-- The signature of a prototype has words for its types and names. -/
theorem typed_signature {d : Dictionary} (hd : d.Plain) (hm : d.Marked) :
    (p.signature d).Typed where
  returnType := p.function.isTypeWord_javaType hd hm
  name := p.function.exists_javaName
  paramTypes := by
    simpa [signature] using fun q _ => q.isTypeWord_javaType hd hm
  paramNames := by
    simpa [signature] using fun q _ => q.isWord_javaName
  length_eq := by simp [signature]

end Prototype

end HeaderBridge
