import HeaderBridge.Proofs.ReadingTypes
import HeaderBridge.Proofs.Survey

/-!
# Lines that pass unreported

A row is one identifier or more, and a line of rows a row for the result, the name of
the function and a row for each parameter. On such a line the readers find the last word
of the result and of each parameter, and pieces of the parameters between the names.

Of a line of which nothing is reported, the words before the last word of the result are
never seen, nor are the words behind the first of the last parameter. Any other parameter
is a type and a name (`LineOfRows.unreported_iff_of_named`), unless it is one word which
the dictionary knows with a comma behind it.
-/

namespace HeaderBridge

open Text

/-! ## Rows -/

/-- One identifier or more. -/
structure Row where
  first : Identifier
  more : List Identifier := []
  deriving DecidableEq

namespace Row

variable (r : Row)

/-- The identifiers of the row. -/
def words : List Identifier := r.first :: r.more

/-- The identifiers with a blank between neighbours. -/
def text : Text := Text.join [' '] (r.words.map Identifier.text)

/-- The last identifier. -/
def last : Identifier := r.words.getLast (by simp [words])

/-- The first identifier as a token, and the others as names. -/
def cell : Signature.Cell := ⟨r.first.text, r.more.map Identifier.text⟩

theorem text_singleton (w : Identifier) : (Row.mk w []).text = w.text :=
  join_singleton _ _

theorem text_cons (w v : Identifier) (vs : List Identifier) :
    (Row.mk w (v :: vs)).text = w.text ++ ' ' :: (Row.mk v vs).text := by
  simp [text, words, join_cons_cons]

theorem last_cons (w v : Identifier) (vs : List Identifier) :
    (Row.mk w (v :: vs)).last = (Row.mk v vs).last :=
  List.getLast_cons (by simp)

/-- A row begins with its first word. -/
theorem exists_text : ∃ t, r.text = r.first.text ++ t :=
  exists_join_cons [' '] r.first.text (r.more.map Identifier.text)

theorem text_eq_cell : r.text = r.cell.text := by
  obtain ⟨w, ws⟩ := r
  induction ws generalizing w with
  | nil => simp [text_singleton, cell, Signature.Cell.text, Signature.spaced]
  | cons v vs ih =>
    rw [text_cons, ih]
    simp [cell, Signature.Cell.text, Signature.spaced]

theorem wellFormed_cell : r.cell.WellFormed where
  token := fun _ hx => isBlank_of_isWordChar (r.first.isWord.all _ hx)
  ne_nil := r.first.ne_nil
  names := by
    intro w hw
    obtain ⟨v, -, rfl⟩ := List.mem_map.1 hw
    exact v.isWord

/-- A row of words holds no character that is neither a word character nor the blank. -/
theorem notMem_text {c : Char} (hc : isWordChar c = false) (hb : c ≠ ' ') : c ∉ r.text := by
  refine notMem_join (by simpa using hb) fun t ht => ?_
  obtain ⟨w, -, rfl⟩ := List.mem_map.1 ht
  exact w.isWord.notMem hc

/-- A row ends in its last word. -/
theorem endsIn_last : Signature.EndsIn r.text r.last.text := by
  refine ⟨r.last.isWord, ?_⟩
  obtain ⟨w, ws⟩ := r
  induction ws generalizing w with
  | nil => exact Or.inl (text_singleton w)
  | cons v vs ih =>
    have hword : Signature.Unclosed w.text := .of_isToken w.isWord.isToken
    refine Or.inr ?_
    rw [text_cons, last_cons]
    rcases ih v with h | ⟨u, h, hu⟩
    · exact ⟨w.text, by rw [h], hword⟩
    · exact ⟨w.text ++ ' ' :: u, by rw [h]; simp, hword.append_blank hu⟩

end Row

/-- A row for the result, the name of the function, and a row for each parameter. -/
structure LineOfRows where
  result : Row
  function : Identifier
  params : List Row := []
  deriving DecidableEq

namespace LineOfRows

variable (l : LineOfRows) (d : Dictionary)

/-- The line. -/
def text : Text :=
  lineOf (l.result.text ++ ' ' :: l.function.text) (l.params.map Row.text)

/-- The signature that the readers find. -/
def signature : Signature := .ofLine l.text

/-- Neither the signature nor its types are reported. -/
def Unreported : Prop :=
  l.signature.check l.text = [] ∧ Unsupported.newTypes [] l.signature d = []
  deriving Decidable

/-! ## What the readers find -/

theorem name_signature : l.signature.name = l.function.text :=
  Signature.readName_lineOf (l.result.notMem_text (by decide) (by decide)) l.function _

theorem paramNames_signature : l.signature.paramNames = l.params.map fun r => r.last.text := by
  have hresult : Signature.Unclosed l.result.text :=
    ⟨l.result.notMem_text (by decide) (by decide), l.result.notMem_text (by decide) (by decide)⟩
  exact Signature.readParamNames_lineOf
    (hresult.append_blank (.of_isToken l.function.isWord.isToken)) fun r _ => r.endsIn_last

/-- Of several words before the name of the function the last one is the type. -/
theorem search_typesAt?_row {f params : Text} (hf : IsWord f) (hp : ')' ∉ params) (r : Row)
    (prev : Option Char) (t : Text) :
    search Signature.typesAt? prev (r.text ++ ' ' :: (f ++ '(' :: (params ++ ')' :: t))) =
      some (r.last.text, params) := by
  obtain ⟨w, ws⟩ := r
  induction ws generalizing w prev with
  | nil =>
    rw [Row.text_singleton]
    exact search_of_some (Signature.typesAt?_of_isTypeWord w.isWord.isTypeWord hf hp prev t)
  | cons v vs ih =>
    -- A third word follows : the next word of the row, or the name of the function.
    obtain ⟨x, u, hx, hu⟩ : ∃ x u, IsWord x ∧
        (Row.mk v vs).text ++ ' ' :: (f ++ '(' :: (params ++ ')' :: t)) =
          v.text ++ ' ' :: (x ++ u) := by
      cases vs with
      | nil => exact ⟨f, _, hf, by rw [Row.text_singleton]⟩
      | cons x xs =>
        obtain ⟨u, hu⟩ := (Row.mk x xs).exists_text
        refine ⟨x.text, u ++ ' ' :: (f ++ '(' :: (params ++ ')' :: t)), x.isWord, ?_⟩
        rw [Row.text_cons, hu]
        simp
    rw [Row.text_cons, List.append_assoc, List.cons_append, hu,
      Signature.search_typesAt?_word w.isWord.all v.isWord hx, ← hu, Row.last_cons]
    exact ih (some ' ') v

/-- The type is the last word of the result, and the types of the parameters are what is
left of them. -/
theorem types_signature :
    l.signature.returnType = l.result.last.text ∧
      l.signature.paramTypes =
        Signature.readParamTypes
          (Text.join ", ".toList ((l.params.map Row.cell).map (·.text))) := by
  have hcells : (l.params.map Row.cell).map (·.text) = l.params.map Row.text := by
    rw [List.map_map]
    exact List.map_congr_left fun r _ => r.text_eq_cell.symm
  have hparams : ')' ∉ Text.join ", ".toList (l.params.map Row.text) := by
    refine notMem_join (by decide) fun t ht => ?_
    obtain ⟨r, -, rfl⟩ := List.mem_map.1 ht
    exact r.notMem_text (by decide) (by decide)
  have hline : l.text = l.result.text ++ ' ' :: (l.function.text ++
      '(' :: (Text.join ", ".toList (l.params.map Row.text) ++ ')' :: [';'])) := by
    simp [text, lineOf]
  have hsearch : search Signature.typesAt? none l.text =
      some (l.result.last.text, Text.join ", ".toList (l.params.map Row.text)) := by
    rw [hline]
    exact search_typesAt?_row l.function.isWord hparams l.result none [';']
  rw [hcells]
  constructor <;> simp only [signature, Signature.ofLine, Signature.readTypes, hsearch]

theorem wellFormed_cells : ∀ c ∈ l.params.map Row.cell, c.WellFormed := by
  intro c hc
  obtain ⟨r, -, rfl⟩ := List.mem_map.1 hc
  exact r.wellFormed_cell

/-! ## What passes unreported -/

theorem check_signature :
    l.signature.check l.text = [] ↔ l.signature.paramTypes.length = l.params.length := by
  rw [Signature.check_eq_nil_iff, name_signature, paramNames_signature, List.length_map]
  exact ⟨fun h => h.2.symm, fun h => ⟨l.function.ne_nil, h.symm⟩⟩

theorem newTypes_signature :
    Unsupported.newTypes [] l.signature d = [] ↔
      ∀ t ∈ l.signature.types, d.produces t = true := by
  rw [Unsupported.newTypes, Unsupported.additions_nil_eq_nil_iff]

/-- If every parameter but the last has a name, a line passes exactly if every parameter
but the last is a type and a name and the dictionary knows the types. -/
theorem unreported_iff_of_named (h : ∀ r ∈ l.params.dropLast, r.more ≠ []) :
    l.Unreported d ↔ d.produces l.result.last.text = true ∧
      (∀ r ∈ l.params.dropLast, r.more.length = 1) ∧
        ∀ r ∈ l.params, d.produces r.first.text = true := by
  have hdrop : (l.params.map Row.cell).dropLast = l.params.dropLast.map Row.cell :=
    List.map_dropLast.symm
  have hnames : ∀ c ∈ (l.params.map Row.cell).dropLast, c.names ≠ [] := by
    rw [hdrop, List.forall_mem_map]
    intro r hr
    simpa [Row.cell] using h r hr
  have hkept : l.signature.paramTypes = Signature.Cell.kept (l.params.map Row.cell) := by
    rw [l.types_signature.2, Signature.readParamTypes_join l.wellFormed_cells hnames]
  have hlength := (Signature.Cell.length_kept hnames).2
  rw [hdrop, List.forall_mem_map, List.length_map, ← hkept] at hlength
  have htypes : l.signature.types = l.result.last.text :: l.params.map fun r => r.first.text := by
    have htokens : ∀ c ∈ l.params.map Row.cell, c.token.isBlank = false := by
      rw [List.forall_mem_map]
      exact fun r _ => r.first.isWord.isToken.not_isBlank
    have hresult : l.signature.returnType.isBlank = false := by
      rw [l.types_signature.1]
      exact l.result.last.isWord.isToken.not_isBlank
    rw [Signature.types, List.filter_cons, hresult, hkept, Signature.Cell.filter_kept htokens,
      l.types_signature.1, List.map_map]
    rfl
  rw [Unreported, check_signature, newTypes_signature, htypes, hlength]
  simp [Row.cell, and_left_comm]

/-- Of the parameters but the last that have no name, one is taken together with its comma
for a type. -/
theorem exists_comma_of_unnamed (h : ∃ r ∈ l.params.dropLast, r.more = []) :
    ∃ r ∈ l.params.dropLast, r.more = [] ∧ r.first.text ++ [','] ∈ l.signature.paramTypes := by
  have hdrop : (l.params.map Row.cell).dropLast = l.params.dropLast.map Row.cell :=
    List.map_dropLast.symm
  have hwords : ∀ c ∈ l.params.map Row.cell, IsWord c.token :=
    List.forall_mem_map.2 fun r _ => r.first.isWord
  obtain ⟨r, hr, hmore⟩ := h
  obtain ⟨c, hc, hnames, hmem⟩ := Signature.exists_comma_of_splitMatches l.wellFormed_cells hwords
    ⟨r.cell, hdrop ▸ List.mem_map_of_mem hr, by simp [Row.cell, hmore]⟩
  rw [hdrop] at hc
  obtain ⟨q, hq, rfl⟩ := List.mem_map.1 hc
  refine ⟨q, hq, by simpa [Row.cell] using hnames, ?_⟩
  rw [l.types_signature.2]
  exact Signature.mem_readParamTypes (by simp) hmem

/-- What is known of a line of which nothing is reported, and what is enough for it. The
words of the result before its last, and those of the last parameter behind its first, are
not seen. -/
theorem unreported_rows :
    (l.Unreported d → d.produces l.result.last.text = true ∧
      ((∃ r ∈ l.params.dropLast, r.more = [] ∧ d.produces (r.first.text ++ [',']) = true) ∨
        (∀ r ∈ l.params.dropLast, r.more.length = 1) ∧
          ∀ r ∈ l.params, d.produces r.first.text = true)) ∧
    (d.produces l.result.last.text = true → (∀ r ∈ l.params.dropLast, r.more.length = 1) →
      (∀ r ∈ l.params, d.produces r.first.text = true) → l.Unreported d) := by
  constructor
  · intro h
    by_cases hshort : ∃ r ∈ l.params.dropLast, r.more = []
    · obtain ⟨q, hq, hmore, hcomma⟩ := l.exists_comma_of_unnamed hshort
      have hknown := (l.newTypes_signature d).1 h.2
      refine ⟨hknown _ ?_, Or.inl ⟨q, hq, hmore, hknown _ ?_⟩⟩
      · rw [Signature.types, List.mem_filter, l.types_signature.1]
        exact ⟨by simp, by simp [l.result.last.isWord.isToken.not_isBlank]⟩
      · rw [Signature.types, List.mem_filter]
        refine ⟨List.mem_cons_of_mem _ hcomma, ?_⟩
        simp [Text.isBlank, show HeaderBridge.isBlank ',' = false from by decide]
    · have hnamed : ∀ r ∈ l.params.dropLast, r.more ≠ [] :=
        fun r hr hmore => hshort ⟨r, hr, hmore⟩
      obtain ⟨hresult, hparams⟩ := (l.unreported_iff_of_named d hnamed).1 h
      exact ⟨hresult, Or.inr hparams⟩
  · intro hresult hnames hparams
    have hnamed : ∀ r ∈ l.params.dropLast, r.more ≠ [] := by
      intro r hr hmore
      simpa [hmore] using hnames r hr
    exact (l.unreported_iff_of_named d hnamed).2 ⟨hresult, hnames, hparams⟩

theorem unreported_rows_sample :
    let int : Identifier := ⟨"int".toList, by decide, by decide⟩
    let name : Identifier := ⟨"x".toList, by decide, by decide⟩
    LineOfRows.Unreported ⟨⟨name, [int]⟩, name, [⟨int, [name]⟩, ⟨int, [name, name]⟩]⟩ .builtin := by
  intro int name
  exact (unreported_rows _ .builtin).2 (by decide +kernel) (by decide) (by decide +kernel)

/-- A line may pass although neither its result is one word nor its parameter a type and a
name : `unsigned int f(long long x);` does. -/
theorem exists_unreported_of_many_words :
    ¬ ∀ d : Dictionary, (∀ r ∈ Dictionary.builtin.rules, r ∈ d.rules) → ∀ l : LineOfRows,
      l.Unreported d → l.result.more = [] ∧ ∀ r ∈ l.params, r.more.length = 1 := by
  intro h
  let long : Identifier := ⟨"long".toList, by decide, by decide⟩
  let l : LineOfRows :=
    { result := ⟨⟨"unsigned".toList, by decide, by decide⟩, [⟨"int".toList, by decide, by decide⟩]⟩
      function := ⟨"f".toList, by decide, by decide⟩
      params := [⟨long, [long, ⟨"x".toList, by decide, by decide⟩]⟩] }
  have hpassed : l.Unreported .builtin := by decide +kernel
  obtain ⟨hresult, -⟩ := h .builtin (fun r hr => hr) l hpassed
  exact absurd hresult (by decide)

end LineOfRows

end HeaderBridge
