import HeaderBridge.Signature

/-!
# The generated class

The generated class holds an interface bound to the native library, with one method for
each line, and after it one static method for each function that forwards its arguments
to the method of the interface.

`codeLines_block` and `block_codeLines` say that a block and its lines are known from one
another, and `indented_append` that two blocks, one under the other, are indented each on
its own.
-/

namespace HeaderBridge

/-- What a run of the generator is given beside the lines. -/
structure Settings where
  /-- The package of the generated class. -/
  package : Text := "function".toList
  /-- The name of the generated class. -/
  className : Text := "functions".toList
  /-- The native library, and the name under which it is called. -/
  libraryName : Text := "meos".toList
  /-- The name of the interface within the class. -/
  interfaceName : Text := "MeosLibrary".toList
  /-- Rules that apply after the built-in ones. -/
  extraRules : List Rule := []
  deriving DecidableEq, Repr

/-! ## Lines of code -/

/-- One step of indentation. -/
def indent : Text := "    ".toList

/-- The lines of a block of code. A line feed at the end begins an empty line. -/
def codeLines (code : Text) : List Text :=
  Text.splitMatches (fun t => if t.head? = some '\n' then some 1 else none) 0 code

/-- The lines of a block of code behind a margin. Empty lines stay empty. -/
def indentedBy (margin code : Text) : List Text :=
  (codeLines code).map fun line => if line.isEmpty then [] else margin ++ line

/-- The lines of a block of code, one step further in. -/
def indented (code : Text) : List Text := indentedBy indent code

/-- The line without the semicolon at its end. -/
def dropSemicolon (line : Text) : Text :=
  if line.getLast? = some ';' then line.dropLast else line

/-- The lines as one block of code. -/
def block (lines : List Text) : Text := Text.join ['\n'] lines

/-! ## Methods -/

/-- The method of the interface for a line. -/
def interfaceMethod (line : Text) : Text := line.strip

namespace Settings

/-- The call of the native function. -/
def nativeCall (s : Settings) (sig : Signature) : Text :=
  s.interfaceName ++ '.' :: s.libraryName ++ '.' :: sig.name ++ '(' ::
    Text.join ", ".toList sig.paramNames ++ ");".toList

/-- The static method that forwards to the native function. -/
def forwardingMethod (s : Settings) (line : Text) (sig : Signature) : Text :=
  block
    ["public static ".toList ++ dropSemicolon line.strip ++ " \x7b".toList,
     indent ++ (if sig.returnsVoid then [] else "return ".toList) ++ s.nativeCall sig,
     "\x7d".toList]

/-! ## The class -/

/-- The name of the interface, seen from outside the class. -/
def qualifiedName (s : Settings) : Text := s.className ++ '.' :: s.interfaceName

/-- The interface with its methods. -/
def interface (s : Settings) (methods : List Text) : Text :=
  block
    (["public interface ".toList ++ s.interfaceName ++ " \x7b".toList,
      indent ++ s.qualifiedName ++ " INSTANCE = LibraryLoader.create(".toList ++
        s.qualifiedName ++ ".class).load(\"".toList ++ s.libraryName ++ "\");".toList,
      indent ++ s.qualifiedName ++ ' ' :: s.libraryName ++ " = ".toList ++
        s.qualifiedName ++ ".INSTANCE;".toList] ++
      methods.map (indent ++ ·) ++ ["\x7d".toList])

/-- The text of the generated file. -/
def unit (s : Settings) (interface : Text) (functions : List Text) : Text :=
  block
    (["package ".toList ++ s.package ++ ";".toList,
      [],
      "import jnr.ffi.LibraryLoader;".toList,
      "import jnr.ffi.Pointer;".toList,
      [],
      "public class ".toList ++ s.className ++ " \x7b".toList] ++
      indented interface ++ functions.flatMap (fun f => [] :: indented f) ++
      ["\x7d".toList]) ++ ['\n']

end Settings

/-! ## Laws -/

/-- The lines of a block of code are what its line feeds cut it into. -/
theorem codeLines_eq_splitOn (code : Text) : codeLines code = code.splitOn '\n' := by
  unfold codeLines List.splitOn
  induction code with
  | nil => rfl
  | cons c code ih =>
    rw [Text.splitMatches, List.splitOnP_cons_eq_if_modifyHead, ← ih]
    by_cases hc : c = '\n'
    · simp [hc]
    · obtain ⟨l, ls, hls⟩ := List.exists_cons_of_ne_nil (Text.splitMatches_ne_nil
        (fun t => if t.head? = some '\n' then some 1 else none) 0 code)
      simp [hc, hls]

/-- The lines of a block of code make up the block. -/
theorem block_codeLines (code : Text) : block (codeLines code) = code := by
  rw [codeLines_eq_splitOn]
  exact List.intercalate_splitOn '\n'

/-- A block is cut into the lines of which it was made. -/
theorem codeLines_block {lines : List Text} (hne : lines ≠ []) (h : ∀ l ∈ lines, '\n' ∉ l) :
    codeLines (block lines) = lines := by
  rw [codeLines_eq_splitOn]
  exact List.splitOn_intercalate '\n' h hne

theorem codeLines_append (a b : Text) :
    codeLines (a ++ '\n' :: b) = codeLines a ++ codeLines b := by
  simp only [codeLines_eq_splitOn]
  exact List.splitOnP_append_cons a b (beq_self_eq_true '\n')

/-- Two blocks, one under the other, are indented each on its own. -/
theorem indented_append (a b : Text) :
    indented (a ++ '\n' :: b) = indented a ++ indented b := by
  simp [indented, indentedBy, codeLines_append]

end HeaderBridge
