import HeaderBridge.Extraction

/-!
# The lines of a header

Of the functions that stand in a header, those whose arguments can be forwarded
(`Located.forwarded?`) have a line, but only the first one of each name. The reader of the
header keeps a list of the names it has met. `HeaderUnit.functionAt?` says the same of a place
among the declarations, by what stands before it and without such a list, and
`firstOfName_forwarded` that the two agree.

So `extract_writtenLines` says which lines a header has, in the order in which it declares
them. Nothing else that the parser says of it matters.
-/

namespace HeaderBridge

/-! ## Declarations with a line -/

namespace Located

variable {i : Located} {d : Disk} {header : Text}

/-- The function of a declaration that stands in the header, if its arguments can be
forwarded. -/
def forwarded? (d : Disk) (header : Text) (i : Located) : Option Function :=
  if i.isIn d header then i.function?.filter fun f => !f.isVariadic else none

/-- The typedef of a declaration that stands in the header. -/
def alias? (d : Disk) (header : Text) (i : Located) : Option TypeAlias :=
  if i.isIn d header then i.typedef? else none

/-- The declaration stands in the header, and is a typedef or a function whose arguments can be
forwarded. -/
def isWritten (d : Disk) (header : Text) (i : Located) : Bool :=
  (i.forwarded? d header).isSome || (i.alias? d header).isSome

theorem not_isVariadic_of_forwarded? {f : Function} (h : i.forwarded? d header = some f) :
    f.isVariadic = false := by
  unfold forwarded? at h
  split at h
  · simpa using (Option.filter_eq_some_iff.1 h).2
  · simp at h

end Located

/-- What a parser says of a header can be relied on, and it names files by paths. -/
structure HeaderUnit.Usable (u : HeaderUnit) : Prop where
  not_isFatal : ∀ c ∈ u.complaints, c.isFatal = false
  paths : ∀ i ∈ u.items, ∀ file ∈ i.file, '\x00' ∉ file

namespace HeaderUnit

variable (u : HeaderUnit) (d : Disk) (header : Text)

/-- The names of the functions that can be forwarded before a place among the declarations. -/
def namesBefore (n : Nat) : List Text :=
  ((u.items.take n).filterMap (Located.forwarded? d header)).map Function.name

/-- The function that is declared at a place, if it can be forwarded and is the first one of its
name. -/
def functionAt? (n : Nat) : Option Function :=
  (u.items[n]?.bind (Located.forwarded? d header)).filter fun f =>
    decide (f.name ∉ u.namesBefore d header n)

/-- The functions with a line, in the order of their declarations. -/
def writtenFunctions : List Function :=
  (List.range u.items.length).filterMap (u.functionAt? d header)

/-- The typedefs with a line, in the order of their declarations. -/
def writtenTypedefs : List TypeAlias := u.items.filterMap (Located.alias? d header)

/-- The lines of the header. -/
def writtenLines : Extraction where
  functions := (u.writtenFunctions d header).map Function.line
  typedefs := (u.writtenTypedefs d header).map TypeAlias.line

end HeaderUnit

/-! ## The names met so far -/

/-- Functions whose arguments cannot be forwarded leave no name behind. -/
theorem firstOfName_filter (seen : List Text) (fs : List Function) :
    firstOfName seen (fs.filter fun f => !f.isVariadic) = firstOfName seen fs := by
  induction fs generalizing seen with
  | nil => rfl
  | cons f fs ih =>
    cases hf : f.isVariadic with
    | true =>
      have hline : f.line.isEmpty = true := by simp [Function.line_eq_nil_iff.2 hf]
      simp [firstOfName, hf, hline, ih]
    | false => simp [firstOfName, hf, ih]

section

variable {u : HeaderUnit} {d : Disk} {header : Text}

/-- If the reader has met the names of the functions before a place, the functions it keeps from
there on are those that are the first of their name. -/
theorem firstOfName_forwarded {before rest : List Located} (hitems : u.items = before ++ rest)
    {seen : List Text}
    (hseen : ∀ x, x ∈ seen ↔
      x ∈ (before.filterMap (Located.forwarded? d header)).map Function.name) :
    firstOfName seen (rest.filterMap (Located.forwarded? d header)) =
      (List.range' before.length rest.length).filterMap (u.functionAt? d header) := by
  induction rest generalizing before seen with
  | nil => rfl
  | cons i rest ih =>
    have hitems' : u.items = (before ++ [i]) ++ rest := by simp [hitems]
    have hlength : (before ++ [i]).length = before.length + 1 := by simp
    have hnames : u.namesBefore d header before.length =
        (before.filterMap (Located.forwarded? d header)).map Function.name := by
      simp [HeaderUnit.namesBefore, hitems]
    have hat : u.functionAt? d header before.length =
        (i.forwarded? d header).filter fun f => decide (f.name ∉ seen) := by
      have hat' : u.items[before.length]? = some i := by simp [hitems]
      simp only [HeaderUnit.functionAt?, hat', Option.bind_some, hnames, hseen]
    rw [List.length_cons, List.range'_succ, ← hlength]
    cases hi : i.forwarded? d header with
    | none =>
      have hnone : u.functionAt? d header before.length = none := by rw [hat, hi]; rfl
      rw [List.filterMap_cons_none hi, List.filterMap_cons_none hnone]
      exact ih hitems' (by simpa [hi] using hseen)
    | some f =>
      have hline : f.line.isEmpty = false := by
        simp [Function.line_eq_nil_iff, Located.not_isVariadic_of_forwarded? hi]
      rw [List.filterMap_cons_some hi, firstOfName]
      by_cases hmem : f.name ∈ seen
      · -- The name has been met, so it adds nothing to the names.
        have hnone : u.functionAt? d header before.length = none := by simp [hat, hi, hmem]
        rw [List.filterMap_cons_none hnone, if_pos (by simp [hmem])]
        refine ih hitems' fun x => ?_
        have hx : x = f.name → x ∈ seen := fun h => h ▸ hmem
        simpa [hi, ← hseen x] using hx
      · have hsome : u.functionAt? d header before.length = some f := by simp [hat, hi, hmem]
        rw [List.filterMap_cons_some hsome, if_neg (by simp [hmem, hline])]
        refine congrArg (f :: ·) (ih hitems' fun x => ?_)
        simp [hi, ← hseen x, or_comm]

theorem firstOfName_eq_writtenFunctions :
    firstOfName [] (u.items.filterMap (Located.forwarded? d header)) =
      u.writtenFunctions d header := by
  rw [HeaderUnit.writtenFunctions, List.range_eq_range']
  exact firstOfName_forwarded (show u.items = [] ++ u.items from rfl) (by simp)

/-! ## The header -/

theorem linesOf_eq_writtenLines : u.linesOf d header = u.writtenLines d header := by
  have hfunctions : ((u.items.filter (·.isIn d header)).filterMap Located.function?).filter
      (fun f => !f.isVariadic) = u.items.filterMap (Located.forwarded? d header) := by
    have heq : (fun i : Located => Option.filter (fun f => !f.isVariadic)
        (if i.isIn d header = true then i.function? else none)) = Located.forwarded? d header := by
      funext i
      unfold Located.forwarded?
      split <;> rfl
    rw [List.filterMap_filter, List.filter_filterMap, heq]
  have htypedefs : (u.items.filter (·.isIn d header)).filterMap Located.typedef? =
      u.writtenTypedefs d header := List.filterMap_filter
  rw [HeaderUnit.linesOf, HeaderUnit.writtenLines, htypedefs, ← firstOfName_eq_writtenFunctions,
    ← hfunctions, firstOfName_filter]

/-- What is left out does not count if nothing comes of it. -/
theorem filterMap_filter_eq {α β : Type} {f : α → Option β} {p : α → Bool}
    (h : ∀ a, (f a).isSome → p a = true) (l : List α) :
    (l.filter p).filterMap f = l.filterMap f := by
  have heq : (fun a => if p a = true then f a else none) = f := by
    funext a
    cases hf : f a with
    | none => simp
    | some b => simp [h a (by simp [hf])]
  rw [List.filterMap_filter, heq]

/-- Declarations without a line of their own change nothing. -/
theorem writtenLines_congr {v : HeaderUnit}
    (h : v.items.filter (Located.isWritten d header) = u.items.filter (Located.isWritten d header)) :
    v.writtenLines d header = u.writtenLines d header := by
  have hforwarded : ∀ items : List Located,
      (items.filter (Located.isWritten d header)).filterMap (Located.forwarded? d header) =
        items.filterMap (Located.forwarded? d header) :=
    filterMap_filter_eq fun i hi => by simp [Located.isWritten, hi]
  have halias : ∀ items : List Located,
      (items.filter (Located.isWritten d header)).filterMap (Located.alias? d header) =
        items.filterMap (Located.alias? d header) :=
    filterMap_filter_eq fun i hi => by simp [Located.isWritten, hi]
  rw [HeaderUnit.writtenLines, HeaderUnit.writtenLines, HeaderUnit.writtenTypedefs,
    HeaderUnit.writtenTypedefs, ← firstOfName_eq_writtenFunctions,
    ← firstOfName_eq_writtenFunctions, ← hforwarded v.items, ← hforwarded u.items,
    ← halias v.items, ← halias u.items, h]

theorem nodup_names_writtenFunctions : ((u.writtenFunctions d header).map Function.name).Nodup :=
  firstOfName_eq_writtenFunctions ▸ nodup_names_firstOfName _ _

end

section

variable {p : HeaderParser} {d : Disk} {includes : List Text} {header : Text}

theorem extract_eq_writtenLines (hheader : d.holds (spelled header) = true)
    (hparser : p.unavailable = none) (hu : (p.parse header (parserArguments includes)).Usable) :
    (extract p d includes header).result =
      .ok ((p.parse header (parserArguments includes)).writtenLines d header) := by
  have hfatal : (p.parse header (parserArguments includes)).complaints.any Complaint.isFatal =
      false := by
    simpa using hu.not_isFatal
  have hpaths : (p.parse header (parserArguments includes)).hasNullPath = false := by
    simpa [HeaderUnit.hasNullPath, Option.any_eq_false] using hu.paths
  simp [extract, hheader, hparser, hfatal, hpaths, linesOf_eq_writtenLines]

/-- A header that is there has the lines of the functions in it that can be forwarded, the first
of each name, and of the typedefs in it, in the order of their declarations. No name of a function
comes twice. The other declarations, and complaints that are not fatal, change nothing. -/
theorem extract_writtenLines (hheader : d.holds (spelled header) = true)
    (hparser : p.unavailable = none) (hu : (p.parse header (parserArguments includes)).Usable) :
    (extract p d includes header).result =
        .ok ((p.parse header (parserArguments includes)).writtenLines d header) ∧
      (((p.parse header (parserArguments includes)).writtenFunctions d header).map
        Function.name).Nodup ∧
      ∀ q : HeaderParser, q.unavailable = none →
        (q.parse header (parserArguments includes)).Usable →
        (q.parse header (parserArguments includes)).items.filter (Located.isWritten d header) =
          (p.parse header (parserArguments includes)).items.filter (Located.isWritten d header) →
        (extract q d includes header).result = (extract p d includes header).result := by
  refine ⟨extract_eq_writtenLines hheader hparser hu, nodup_names_writtenFunctions, ?_⟩
  intro q hparser' hu' hitems
  rw [extract_eq_writtenLines hheader hparser hu, extract_eq_writtenLines hheader hparser' hu',
    writtenLines_congr hitems]

/-- A variadic function and one of another file stand before the first function of their name,
and a typedef stands there twice. -/
theorem extract_writtenLines_sample :
    let d : Disk := { tree := [(["m.h".toList], .file 0o644 [])] }
    let f : Function := { name := ['f'], result := "int".toList, params := [⟨"int".toList, ['x']⟩] }
    let g : Function := { name := ['g'], result := "void".toList }
    let num : TypeAlias := { name := "num".toList, underlying := "int".toList }
    let t : Located := { item := .typedef num, file := some "m.h".toList }
    let u : HeaderUnit :=
      { complaints := [⟨3, "unknown type".toList⟩]
        items := [⟨.function { f with variadic := true }, some "m.h".toList⟩,
          ⟨.function g, some "lib/m.h".toList⟩, t, ⟨.function f, some "lib/../m.h".toList⟩,
          ⟨.function g, some "./m.h".toList⟩, ⟨.other, none⟩, t,
          ⟨.function { f with params := [] }, some "m.h".toList⟩] }
    d.holds (spelled "m.h".toList) = true ∧ u.Usable ∧
      (extract { parse := fun _ _ => u } d [] "m.h".toList).result =
        .ok { functions := ["int f(int x);".toList, "void g(void);".toList]
              typedefs := ["typedef int num;".toList, "typedef int num;".toList] } := by
  intro d f g num t u
  have hheader : d.holds (spelled "m.h".toList) = true := by decide
  have hu : u.Usable := ⟨by decide, by decide⟩
  have hlines : u.writtenLines d "m.h".toList =
      { functions := ["int f(int x);".toList, "void g(void);".toList]
        typedefs := ["typedef int num;".toList, "typedef int num;".toList] } := by decide +kernel
  refine ⟨hheader, hu, ?_⟩
  rw [← hlines]
  exact (extract_writtenLines (p := { parse := fun _ _ => u }) hheader rfl hu).1

end

end HeaderBridge
