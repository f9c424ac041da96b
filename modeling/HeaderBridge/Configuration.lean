import HeaderBridge.FileRun
import HeaderBridge.Xml.Document

/-!
# Configuration files

A configuration is an XML document whose root is called `bindings`. The package and the
class are attributes of the root; the library, the files, further rules and the
directories to search are elements below it. Of the elements that may stand there once,
the first counts.
-/

namespace HeaderBridge

/-- What a configuration says. -/
structure Configuration where
  settings : Settings := {}
  paths : FilePaths := {}
  /-- The header to extract the lines from, if there is one. -/
  header : Option Text := none
  /-- The directories to search for included files. -/
  includes : List Text := []
  deriving DecidableEq, Repr

/-- An element that names a file. -/
inductive FileElement where
  | functions
  | typedefs
  | output
  | header
  deriving DecidableEq, Repr

/-- The tag of the element. -/
def FileElement.tag : FileElement → Text
  | .functions => "functions".toList
  | .typedefs => "typedefs".toList
  | .output => "output".toList
  | .header => "header".toList

/-- The name of the element in messages. -/
def FileElement.title : FileElement → Text
  | .functions => "Functions".toList
  | .typedefs => "Typedefs".toList
  | .output => "Output".toList
  | .header => "Header".toList

/-- Why a tree is no configuration. -/
inductive ContentError where
  | wrongRoot (tag : Text)
  | libraryWithoutName
  | elementWithoutFile (e : FileElement)
  | incompleteType
  | includeWithoutPath
  deriving DecidableEq, Repr

/-- The reason in words. -/
def ContentError.message : ContentError → Text
  | .wrongRoot tag => "Expected root element 'bindings', got '".toList ++ tag ++ ['\x27']
  | .libraryWithoutName => "Library element missing 'name' attribute".toList
  | .elementWithoutFile e => e.title ++ " element missing 'file' attribute".toList
  | .incompleteType => "Type element missing 'from' or 'to' attribute".toList
  | .includeWithoutPath => "Include directory element missing 'path' attribute".toList

/-! ## Reading the tree -/

/-- The value of an attribute that may not be empty, without the blanks at its ends. -/
def requiredAttribute (n : Xml.Node) (name : String) (e : ContentError) :
    Except ContentError Text :=
  match n.attribute? name.toList with
  | none => .error e
  | some v => if v.isEmpty then .error e else .ok v.strip

/-- The value of an attribute without the blanks at its ends, or what it is by
default. -/
def attributeOr (n : Xml.Node) (name : String) (default : Text) : Text :=
  ((n.attribute? name.toList).getD default).strip

/-- The settings with the library of a configuration. -/
def readLibrary (root : Xml.Node) (s : Settings) : Except ContentError Settings :=
  match root.element? "library".toList with
  | none => .ok s
  | some library => do
    let name ← requiredAttribute library "name" .libraryWithoutName
    return { s with
      libraryName := name
      interfaceName := attributeOr library "interface" s.interfaceName }

/-- The path of the first element that names a file. -/
def readFile? (root : Xml.Node) (e : FileElement) : Except ContentError (Option Text) :=
  match root.element? e.tag with
  | none => .ok none
  | some n => do return some (← requiredAttribute n "file" (.elementWithoutFile e))

/-- The rule of an element. -/
def readRule (n : Xml.Node) : Except ContentError Rule :=
  match n.attribute? "from".toList, n.attribute? "to".toList with
  | some raw, some target =>
    if raw.isEmpty || target.isEmpty then .error .incompleteType
    else .ok (raw.strip, target.strip)
  | _, _ => .error .incompleteType

/-- The configuration of a tree. -/
def readConfiguration (root : Xml.Node) : Except ContentError Configuration := do
  let tag := root.tag?.getD []
  if tag ≠ "bindings".toList then throw (.wrongRoot tag)
  let defaults : Settings := {}
  let settings ← readLibrary root
    { defaults with
      package := attributeOr root "package" defaults.package
      className := attributeOr root "class" defaults.className }
  let functions ← readFile? root .functions
  let typedefs ← readFile? root .typedefs
  let output ← readFile? root .output
  let header ← readFile? root .header
  let extraRules ← (root.elements "type".toList).mapM readRule
  let includes ← (root.elements "include_directory".toList).mapM fun n =>
    requiredAttribute n "path" .includeWithoutPath
  let paths : FilePaths := {}
  return { settings := { settings with extraRules }
           paths := ⟨functions.getD paths.functions, typedefs.getD paths.typedefs,
             output.getD paths.output⟩
           header, includes }

/-! ## Reading the file -/

/-- Why a configuration file is not read. -/
inductive ConfigurationError where
  /-- There is no such file. -/
  | missing (path : Text)
  /-- The disk refused. -/
  | disk (e : DiskError)
  /-- The file is no XML document, or none that is read. -/
  | document (e : Xml.DocumentError)
  /-- The document is no configuration. -/
  | content (e : ContentError)
  deriving DecidableEq, Repr

/-- The reason in words. -/
def ConfigurationError.message : ConfigurationError → Text
  | .missing path => "Configuration file not found: ".toList ++ path
  | .disk e => e.message
  | .document (.malformed f) => "XML parsing error: ".toList ++ f.message
  | .document e => e.message
  | .content e => e.message

/-- The configuration in the file to which the path leads. -/
def Disk.configuration (d : Disk) (path : Text) : Except ConfigurationError Configuration :=
  match d.read path with
  | .error (.at .missing _) => .error (.missing path)
  | .error e => .error (.disk e)
  | .ok octets =>
    match Xml.readDocument octets with
    | .error e => .error (.document e)
    | .ok root =>
      match readConfiguration root with
      | .ok c => .ok c
      | .error e => .error (.content e)

end HeaderBridge
