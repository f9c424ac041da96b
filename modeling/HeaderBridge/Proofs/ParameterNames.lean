import HeaderBridge.Proofs.DoublePointers
import HeaderBridge.Proofs.LineHeads

/-!
# The names of parameters

A parsed header may leave out the names of parameters. On its line a parameter without a name is
named after its place (`SimpleParameter.placeName`), and in Java the reserved word gets another
spelling. Neither looks at the other names. So the names on the line are distinct exactly if no
parameter is given the name of a place that has none, and the names read from the line with Java
types are distinct exactly if moreover the reserved word and its new spelling are not both among
them (`Function.paramNames_javaLine`). A name that is taken twice is not avoided
(`Function.exists_paramNames_repeated`).

The result of the function may have any type. A comma or a parenthesis in its spelling makes the
reader take words of it for names, and these come first.
-/

namespace HeaderBridge

open Text

/-! ## Reading behind any head -/

namespace Signature

/-- Before a parenthesis a name is read without what stands behind the parenthesis. -/
theorem paramNameAt?_append_paren (p : Option Char) (h t : Text) :
    paramNameAt? p (h ++ '(' :: t) = paramNameAt? p (h ++ ['(']) := by
  have hafter : ∀ t, afterWord (h ++ '(' :: t) = afterWord h ++ '(' :: t :=
    dropWhile_append_cons (by decide) h
  have hword : ∀ t, word (h ++ '(' :: t) = word h := fun t => by
    have hwhole := word_append_afterWord (h ++ '(' :: t)
    rw [hafter, ← List.append_assoc] at hwhole
    have hcut := List.append_cancel_right hwhole
    exact List.append_cancel_right (hcut.trans (word_append_afterWord h).symm)
  have hnext : ∀ t, (dropBlanks (afterWord (h ++ '(' :: t))).head? =
      (dropBlanks (afterWord h)).head?.or (some '(') := fun t => by
    rw [hafter, dropBlanks, dropWhile_append_cons (by decide), List.head?_append]
    rfl
  simp only [paramNameAt?, hword, hnext]

/-- The names in a head are read first, without the parameters. -/
theorem paramNamesFrom_append_paren (p : Option Char) (h t : Text) :
    paramNamesFrom p (h ++ '(' :: t) =
      paramNamesFrom p (h ++ ['(']) ++ paramNamesFrom (some '(') t := by
  induction h generalizing p with
  | nil =>
    rw [List.nil_append, List.nil_append, paramNamesFrom_cons (by decide),
      paramNamesFrom_cons (by decide)]
    rfl
  | cons c h ih =>
    have hname := paramNameAt?_append_paren p (c :: h) t
    simp only [List.cons_append] at hname ⊢
    rw [paramNamesFrom, paramNamesFrom, hname, ih]
    split <;> simp

/-- Behind any head the names of the parameters are the words in which the arguments end. -/
theorem readParamNames_lineOf_append {α : Type} {f n : α → Text} {as : List α} (head : Text)
    (hargs : ∀ a ∈ as, EndsIn (f a) (n a)) :
    readParamNames (lineOf head (as.map f)) = readParamNames (lineOf head []) ++ as.map n := by
  have hcut : ∀ (head : Text) (args : List Text), readParamNames (lineOf head args) =
      paramNamesFrom none (head ++ ['(']) ++
        paramNamesFrom (some '(') (join ", ".toList args ++ ");".toList) :=
    fun head args => paramNamesFrom_append_paren none head _
  have hunclosed : Unclosed [] := ⟨by simp, by simp⟩
  have hnames := readParamNames_lineOf hunclosed hargs
  have hnone : readParamNames (lineOf [] []) = [] := paramNamesFrom_empty hunclosed none
  rw [hcut, List.nil_append, paramNamesFrom_cons (by decide)] at hnames hnone
  have hstart : paramNamesFrom (some '(') [] = [] := rfl
  rw [hstart, List.nil_append] at hnames hnone
  rw [hcut head (as.map f), hcut head [], hnames, hnone, List.append_nil]

end Signature

/-! ## Parameters without a name -/

theorem numeral_injective {m n : Nat} (h : numeral m = numeral n) : m = n := by
  have hvalue := congrArg (fun ds => Nat.ofDigitChars 10 ds 0) h
  simpa only [numeral, Nat.ofDigitChars_ten_toDigits] using hvalue

theorem isIdentChar_of_mem_numeral {n : Nat} {c : Char} (hc : c ∈ numeral n) :
    Signature.isIdentChar c = true := by
  have hdigit : c.isDigit = true := Nat.isDigit_of_mem_toDigits (by decide) (by decide) hc
  simp [Signature.isIdentChar, Char.isAlphanum, hdigit]

/-- A parameter whose type is one identifier. It may have no name. -/
structure SimpleParameter where
  type : Identifier
  name : Option Identifier := none
  deriving DecidableEq

namespace SimpleParameter

/-- The parameter as a parsed header delivers it. -/
def toParameter (q : SimpleParameter) : Parameter where
  type := q.type.text
  name := (q.name.map Identifier.text).getD []

/-- The name of the parameter in place `i` if it is given none. -/
def placeName (i : Nat) : Identifier where
  text := "arg".toList ++ numeral i
  start := rfl
  all := by
    rw [List.all_append, Bool.and_eq_true]
    exact ⟨by decide, List.all_eq_true.2 fun _ hc => isIdentChar_of_mem_numeral hc⟩

theorem placeName_injective {i j : Nat} (h : placeName i = placeName j) : i = j :=
  numeral_injective (List.append_cancel_left (congrArg Identifier.text h))

/-- The parameter in place `i` under the name that it has on the line. -/
def declaredAt (i : Nat) (q : SimpleParameter) : Declared where
  type := { base := q.type }
  name := q.name.getD (placeName i)

/-- The names of the parameters on the line. -/
def shownNames (ps : List SimpleParameter) : List Text :=
  ps.mapIdx fun i q => (q.declaredAt i).name.text

/-- A prototype with the parameters. -/
def prototype (ps : List SimpleParameter) : Prototype where
  function := { type := { base := ⟨"void".toList, by decide, by decide⟩ }
                name := ⟨"f".toList, by decide, by decide⟩ }
  params := ps.mapIdx declaredAt

theorem spelled_declaredAt (q : SimpleParameter) (i : Nat) :
    (q.declaredAt i).spelled = q.type.text ++ ' ' :: (q.declaredAt i).name.text := rfl

theorem declarator_toParameter (q : SimpleParameter) (i : Nat) :
    q.toParameter.declarator i = (q.declaredAt i).spelled := by
  have htype : (q.declaredAt i).type.spelling = q.type.text := List.append_nil _
  rw [← Declared.declarator_spelling, htype]
  unfold Parameter.declarator toParameter declaredAt
  cases hname : q.name with
  | none => rfl
  | some w => simp [w.ne_nil]

theorem getElem?_shownNames (ps : List SimpleParameter) (i : Nat) :
    (shownNames ps)[i]? = ps[i]?.map fun q => (q.name.getD (placeName i)).text :=
  List.getElem?_mapIdx

/-- Two places show the same name if both are given it, or if one is given the name of the other
one, which has none. -/
theorem getD_placeName_ne {p q : SimpleParameter} {i j : Nat} (hij : i ≠ j)
    (hnames : ∀ v, p.name = some v → q.name ≠ some v)
    (hp : p.name = none → q.name ≠ some (placeName i))
    (hq : q.name = none → p.name ≠ some (placeName j)) :
    p.name.getD (placeName i) ≠ q.name.getD (placeName j) := by
  intro heq
  cases hpn : p.name with
  | none =>
    cases hqn : q.name with
    | none => exact hij (placeName_injective (by simpa [hpn, hqn] using heq))
    | some w => exact hp hpn (by simpa [hpn, hqn] using heq.symm)
  | some v =>
    cases hqn : q.name with
    | none => exact hq hqn (by simpa [hpn, hqn] using heq)
    | some w => exact hnames v hpn (by simpa [hpn, hqn] using heq.symm)

/-- No two names on the line are the same exactly if no parameter is given the name of a place
that has none. -/
theorem nodup_shownNames_iff {ps : List SimpleParameter} (h : (ps.filterMap name).Nodup) :
    (shownNames ps).Nodup ↔
      ∀ (i : Nat) q, ps[i]? = some q → q.name = none → ∀ p ∈ ps, p.name ≠ some (placeName i) := by
  constructor
  · intro hnodup i q hi hq p hp hname
    obtain ⟨j, hj⟩ := List.mem_iff_getElem?.1 hp
    have hplaces : (shownNames ps)[i]? = (shownNames ps)[j]? := by
      simp [getElem?_shownNames, hi, hj, hq, hname]
    have hlt : i < (shownNames ps).length := by
      have := (List.getElem?_eq_some_iff.1 hi).1
      simpa [shownNames] using this
    obtain rfl := (List.getElem?_inj hlt hnodup).1 hplaces
    obtain rfl := Option.some.inj (hi.symm.trans hj)
    simp [hq] at hname
  · intro hplaces
    have hgiven := List.pairwise_filterMap.1 h
    rw [List.pairwise_iff_getElem] at hgiven
    refine List.pairwise_iff_getElem.2 fun i j hi hj hij heq => ?_
    simp only [shownNames, List.length_mapIdx] at hi hj
    simp only [shownNames, List.getElem_mapIdx] at heq
    refine getD_placeName_ne (p := ps[i]) (q := ps[j]) (Nat.ne_of_lt hij) ?_ ?_ ?_ ?_
    · exact fun v hv hw => hgiven i j hi hj hij v hv v hw rfl
    · exact fun hnone => hplaces i _ (List.getElem?_eq_getElem hi) hnone _ (List.getElem_mem hj)
    · exact fun hnone => hplaces j _ (List.getElem?_eq_getElem hj) hnone _ (List.getElem_mem hi)
    · exact Identifier.text_injective heq

end SimpleParameter

/-- Two words have the same spelling in Java only if one is the new spelling of the other. -/
theorem javaWord_eq_iff {v w : Text} : javaWord v = javaWord w ↔ v = w ∨
    v = reservedWord ∧ w = "synchronize".toList ∨ v = "synchronize".toList ∧ w = reservedWord := by
  unfold javaWord
  by_cases hv : v = reservedWord <;> by_cases hw : w = reservedWord <;> simp [hv, hw, eq_comm]

/-- The spellings in Java are distinct exactly if the words are, and the reserved word and its new
spelling are not both among them. -/
theorem nodup_map_javaWord_iff {ws : List Text} : (ws.map javaWord).Nodup ↔
    ws.Nodup ∧ ¬ (reservedWord ∈ ws ∧ "synchronize".toList ∈ ws) := by
  constructor
  · intro h
    refine ⟨(List.pairwise_map.1 h).imp fun hne heq => hne (by rw [heq]), fun ⟨hw, hs⟩ => ?_⟩
    obtain ⟨i, hi⟩ := List.mem_iff_getElem?.1 hw
    obtain ⟨j, hj⟩ := List.mem_iff_getElem?.1 hs
    have hlt : i < (ws.map javaWord).length := by
      simpa using (List.getElem?_eq_some_iff.1 hi).1
    have hplaces : (ws.map javaWord)[i]? = (ws.map javaWord)[j]? := by
      rw [List.getElem?_map, List.getElem?_map, hi, hj]
      rfl
    obtain rfl := (List.getElem?_inj hlt h).1 hplaces
    exact absurd (Option.some.inj (hi.symm.trans hj)) (by decide)
  · rintro ⟨hnodup, hboth⟩
    refine List.pairwise_map.2 (hnodup.imp_of_mem fun hv hw hne heq => ?_)
    rcases javaWord_eq_iff.1 heq with h | ⟨rfl, rfl⟩ | ⟨rfl, rfl⟩
    · exact hne h
    · exact hboth ⟨hv, hw⟩
    · exact hboth ⟨hw, hv⟩

/-! ## The line of a function -/

namespace Function

open SimpleParameter

variable {f : Function} {ps : List SimpleParameter}

/-- What stands before the parameters of a function. -/
def head (f : Function) : Text := f.storage.keywords ++ declarator f.result f.name

theorem line_eq_lineOf_head (hparams : f.params = ps.map toParameter)
    (hf : f.isVariadic = false) :
    f.line = lineOf f.head ((prototype ps).args Declared.spelled) := by
  have hlist : f.params.mapIdx (fun i p => p.declarator i) =
      (ps.mapIdx declaredAt).map Declared.spelled := by
    refine List.ext_getElem? fun i => ?_
    simp only [hparams, List.getElem?_mapIdx, List.getElem?_map, Option.map_map]
    exact Option.map_congr fun q _ => q.declarator_toParameter i
  have hargs : f.paramList = join ", ".toList ((prototype ps).args Declared.spelled) := by
    unfold paramList Prototype.args
    rw [hlist]
    cases ps <;> simp [hparams, prototype]
  simp [line, hf, lineOf, head, hargs]

theorem not_endsApart_head (hname : IsWord f.name) : ¬ EndsApart f.head := by
  have hdeclarator : ∃ u, f.head = u ++ f.name := by
    unfold head declarator
    split
    · exact ⟨f.storage.keywords ++ f.result, by simp⟩
    · exact ⟨f.storage.keywords ++ f.result ++ [' '], by simp⟩
  obtain ⟨u, hu⟩ := hdeclarator
  rw [hu, endsApart_append_iff hname.ne_nil]
  exact hname.not_endsApart

/-- A comma or a parenthesis stands in the head only if it stands in the result's type. -/
theorem mem_result_of_mem_head (hname : IsWord f.name) {c : Char} (hc : IsCloser c)
    (hmem : c ∈ f.head) : c ∈ f.result := by
  have hkeywords : c ∉ f.storage.keywords := by
    rcases hc with rfl | rfl | rfl <;> cases f.storage <;> decide
  have hword : c ∉ f.name := hname.notMem hc.not_isWordChar
  have hspace : c ≠ ' ' := by
    rintro rfl
    exact absurd hc (by decide)
  unfold head declarator at hmem
  split at hmem
  · simpa [hkeywords, hword] using hmem
  · simpa [hkeywords, hword, hspace] using hmem

/-- The line shows each parameter by its type and its name. -/
theorem args_prototype (ps : List SimpleParameter) : (prototype ps).args Declared.spelled =
    if ps = [] then ["void".toList]
    else List.zipWith (fun q name => q.type.text ++ ' ' :: name) ps (shownNames ps) := by
  have hshown : (ps.mapIdx declaredAt).map Declared.spelled =
      List.zipWith (fun q name => q.type.text ++ ' ' :: name) ps (shownNames ps) := by
    refine List.ext_getElem? fun i => ?_
    simp only [List.getElem?_map, List.getElem?_mapIdx, List.getElem?_zipWith, shownNames]
    cases ps[i]? with
    | none => rfl
    | some q => exact congrArg some (q.spelled_declaredAt i)
  rw [← hshown]
  simp [Prototype.args, prototype]

section

variable {dict : Dictionary} (hd : dict.Plain)
  (hkeyword : ∀ q ∈ ps, ¬ "const".toList <:+ q.type.text ∧ ¬ "extern".toList <:+ q.type.text)
include hkeyword

theorem not_glued_of_mem {d : Declared} (hmem : d ∈ (prototype ps).params) : ¬ d.Glued := by
  obtain ⟨i, hi, rfl⟩ := List.mem_mapIdx.1 hmem
  obtain ⟨hconst, hextern⟩ := hkeyword _ (List.getElem_mem hi)
  exact fun hg => hg.elim hextern hconst

include hd

/-- What the line with Java types of a function shows. The same head stands on the line of the
function without its parameters. -/
theorem exists_javaLine_eq (hparams : f.params = ps.map toParameter) (hf : f.isVariadic = false)
    (hname : IsWord f.name) :
    ∃ head, (∀ c, IsCloser c → c ∈ head → c ∈ f.result) ∧
      dict.javaLine f.line = lineOf head ((prototype ps).params.map fun d => d.inLine dict) ∧
      dict.javaLine { f with params := [] }.line = lineOf head [] := by
  obtain ⟨head, -, hclosers, hturn⟩ := dict.exists_head_javaLine hd (not_endsApart_head hname)
  have hshown : (prototype ps).shown = (prototype ps).params := by
    by_cases hnil : (prototype ps).params = []
    · simp [Prototype.shown, hnil]
    · obtain ⟨d, hmem⟩ := List.exists_mem_of_ne_nil _ hnil
      exact Prototype.shown_eq_of_not_glued hmem (not_glued_of_mem hkeyword hmem)
  have hempty : { f with params := [] }.line =
      lineOf f.head ((prototype []).args Declared.spelled) :=
    line_eq_lineOf_head (f := { f with params := [] })
      (show _ = ([] : List SimpleParameter).map toParameter from rfl) hf
  refine ⟨head, fun c hc hmem => mem_result_of_mem_head hname hc (hclosers c hc hmem), ?_, ?_⟩
  · rw [line_eq_lineOf_head hparams hf, hturn, hshown]
  · rw [hempty, hturn]
    rfl

/-- The names of the parameters are read last, as they are spelled in Java. -/
theorem paramNames_ofLine_javaLine (hparams : f.params = ps.map toParameter)
    (hf : f.isVariadic = false) (hname : IsWord f.name) :
    (Signature.ofLine (dict.javaLine f.line)).paramNames =
        (Signature.ofLine (dict.javaLine { f with params := [] }.line)).paramNames ++
          (shownNames ps).map javaWord ∧
      (',' ∉ f.result → ')' ∉ f.result →
        (Signature.ofLine (dict.javaLine { f with params := [] }.line)).paramNames = []) := by
  obtain ⟨head, hclosers, hline, hempty⟩ := exists_javaLine_eq hd hkeyword hparams hf hname
  have hends : ∀ d ∈ (prototype ps).params, Signature.EndsIn (d.inLine dict) d.javaName := by
    intro d hmem
    have htoken : IsToken (dict.image d.javaToken) :=
      Dictionary.isToken_image hd d.isToken_javaToken
    refine ⟨d.isWord_javaName, Or.inr ⟨_, ?_, Signature.Unclosed.of_isToken htoken⟩⟩
    exact if_neg (not_glued_of_mem hkeyword hmem)
  have hnames : (prototype ps).params.map Declared.javaName = (shownNames ps).map javaWord := by
    refine List.ext_getElem? fun i => ?_
    simp only [prototype, shownNames, List.getElem?_map, List.getElem?_mapIdx, Option.map_map]
    rfl
  show Signature.readParamNames _ = Signature.readParamNames _ ++ _ ∧
    (_ → _ → Signature.readParamNames _ = _)
  rw [hline, hempty, Signature.readParamNames_lineOf_append head hends, hnames]
  refine ⟨rfl, fun hcomma hparen => ?_⟩
  have hunclosed : Signature.Unclosed head :=
    ⟨fun hmem => hcomma (hclosers _ (Or.inr (Or.inl rfl)) hmem),
      fun hmem => hparen (hclosers _ (Or.inr (Or.inr rfl)) hmem)⟩
  exact Signature.paramNamesFrom_empty hunclosed none

end

/-- A function takes parameters whose types are one identifier each and whose names, where there
are any, are distinct. The names on its line are those that are given and the names of the places
without one, and no two are the same exactly if no parameter is given the name of such a place.
On the line with Java types the names are read in their Java spelling, behind those that are read
on the line without the parameters, of which there are none unless the result's type has a comma or
a parenthesis. No two of them are the same exactly if no two on the line are, and the reserved
word and its new spelling are not both there. -/
theorem paramNames_javaLine (f : Function) (ps : List SimpleParameter)
    (hparams : f.params = ps.map toParameter) (hf : f.isVariadic = false) (hname : IsWord f.name)
    (hdistinct : (ps.filterMap SimpleParameter.name).Nodup) :
    f.line = lineOf (f.storage.keywords ++ declarator f.result f.name)
        (if ps = [] then ["void".toList]
          else List.zipWith (fun q name => q.type.text ++ ' ' :: name) ps (shownNames ps)) ∧
      ((shownNames ps).Nodup ↔ ∀ (i : Nat) q, ps[i]? = some q → q.name = none →
        ∀ p ∈ ps, p.name ≠ some (placeName i)) ∧
      (((shownNames ps).map javaWord).Nodup ↔ (shownNames ps).Nodup ∧
        ¬ (reservedWord ∈ shownNames ps ∧ "synchronize".toList ∈ shownNames ps)) ∧
      ∀ dict : Dictionary, dict.Plain →
        (∀ q ∈ ps, ¬ "const".toList <:+ q.type.text ∧ ¬ "extern".toList <:+ q.type.text) →
        (Signature.ofLine (dict.javaLine f.line)).paramNames =
            (Signature.ofLine (dict.javaLine { f with params := [] }.line)).paramNames ++
              (shownNames ps).map javaWord ∧
          (',' ∉ f.result → ')' ∉ f.result →
            (Signature.ofLine (dict.javaLine { f with params := [] }.line)).paramNames = []) := by
  have hline : f.line = lineOf f.head _ :=
    (line_eq_lineOf_head hparams hf).trans (congrArg (lineOf f.head) (args_prototype ps))
  exact ⟨hline, nodup_shownNames_iff hdistinct, nodup_map_javaWord_iff,
    fun _ hd hkeyword => paramNames_ofLine_javaLine hd hkeyword hparams hf hname⟩

/-- A parameter without a name between two others, one of them named by the reserved word. -/
theorem paramNames_javaLine_sample :
    let int : Identifier := ⟨"int".toList, rfl, rfl⟩
    let ps : List SimpleParameter :=
      [⟨int, some ⟨"arg0".toList, rfl, rfl⟩⟩, ⟨int, none⟩, ⟨int, some ⟨reservedWord, rfl, rfl⟩⟩]
    let f : Function :=
      { name := "f".toList, result := "char *".toList, params := ps.map toParameter
        storage := .external }
    f.line = "extern char *f(int arg0, int arg1, int synchronized);".toList ∧
      (shownNames ps).Nodup ∧
      (Signature.ofLine (Dictionary.builtin.javaLine f.line)).paramNames =
        ["arg0".toList, "arg1".toList, "synchronize".toList] ∧
      (Signature.ofLine (Dictionary.builtin.javaLine f.line)).paramNames.Nodup := by
  intro int ps f
  have hdistinct : (ps.filterMap SimpleParameter.name).Nodup := by decide
  obtain ⟨hline, -, hjava, hread⟩ :=
    paramNames_javaLine f ps rfl rfl (.of_all rfl (by decide)) hdistinct
  obtain ⟨hnames, hnone⟩ := hread Dictionary.builtin Dictionary.plain_builtin (by decide)
  have hshown : (shownNames ps).Nodup := by decide
  have hall := hjava.2 ⟨hshown, by decide⟩
  rw [hnone (by decide) (by decide), List.nil_append] at hnames
  exact ⟨hline.trans (by decide), hshown, hnames.trans (by decide), hnames ▸ hall⟩

/-- A name that is the name of a place, and a name that is the new spelling of the reserved word,
are there twice. -/
theorem exists_paramNames_repeated :
    (∃ (f : Function) (ps : List SimpleParameter), f.params = ps.map toParameter ∧
        f.isVariadic = false ∧ IsWord f.name ∧ (ps.filterMap SimpleParameter.name).Nodup ∧
        f.line = "int f(int arg1, int arg1);".toList ∧ ¬ (shownNames ps).Nodup ∧
        (Signature.ofLine (Dictionary.builtin.javaLine f.line)).paramNames =
          ["arg1".toList, "arg1".toList]) ∧
      ∃ (f : Function) (ps : List SimpleParameter), f.params = ps.map toParameter ∧
        f.isVariadic = false ∧ IsWord f.name ∧ (ps.filterMap SimpleParameter.name).Nodup ∧
        f.line = "int f(int synchronized, int synchronize);".toList ∧ (shownNames ps).Nodup ∧
        (Signature.ofLine (Dictionary.builtin.javaLine f.line)).paramNames =
          ["synchronize".toList, "synchronize".toList] := by
  let int : Identifier := ⟨"int".toList, rfl, rfl⟩
  let ps : List SimpleParameter := [⟨int, some ⟨"arg1".toList, rfl, rfl⟩⟩, ⟨int, none⟩]
  let qs : List SimpleParameter :=
    [⟨int, some ⟨reservedWord, rfl, rfl⟩⟩, ⟨int, some ⟨"synchronize".toList, rfl, rfl⟩⟩]
  let f (ps : List SimpleParameter) : Function :=
    { name := "f".toList, result := "int".toList, params := ps.map toParameter }
  have hf : IsWord "f".toList := .of_all rfl (by decide)
  exact ⟨⟨f ps, ps, rfl, rfl, hf, by decide, by decide, by decide, by decide +kernel⟩,
    ⟨f qs, qs, rfl, rfl, hf, by decide, by decide, by decide, by decide +kernel⟩⟩

end Function

end HeaderBridge
