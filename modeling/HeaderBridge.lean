import HeaderBridge.Main
import HeaderBridge.DictionarySteps
import HeaderBridge.UnsupportedSteps
import HeaderBridge.Generator
import HeaderBridge.Proofs.Replacing
import HeaderBridge.Proofs.Prototype
import HeaderBridge.Proofs.Qualifiers
import HeaderBridge.Proofs.Pointers
import HeaderBridge.Proofs.Exceptions
import HeaderBridge.Proofs.Substitution
import HeaderBridge.Proofs.Declarators
import HeaderBridge.Proofs.Typedefs
import HeaderBridge.Proofs.Reading
import HeaderBridge.Proofs.ReadingTypes
import HeaderBridge.Proofs.Survey
import HeaderBridge.Proofs.Unreported
import HeaderBridge.Proofs.JavaLine
import HeaderBridge.Proofs.PrototypeRun
import HeaderBridge.Proofs.Aliases
import HeaderBridge.Proofs.TypedefChains
import HeaderBridge.Proofs.DictionaryRun
import HeaderBridge.Proofs.AtomicOutput
import HeaderBridge.Proofs.DiskChanges
import HeaderBridge.Proofs.CommandRun
import HeaderBridge.Proofs.Composition
import HeaderBridge.Proofs.Sessions
import HeaderBridge.Proofs.FileRuns
import HeaderBridge.Proofs.RefusedConfiguration
import HeaderBridge.Proofs.Reruns
import HeaderBridge.Proofs.LineFiles
import HeaderBridge.Proofs.ReservedWord
import HeaderBridge.Proofs.DoublePointers
import HeaderBridge.Proofs.SinglePointers
import HeaderBridge.Proofs.SignatureLines
import HeaderBridge.Proofs.TokenWise
import HeaderBridge.Proofs.Neighbours
import HeaderBridge.Proofs.HeaderLines
import HeaderBridge.Proofs.FunctionNames
import HeaderBridge.Proofs.ParameterNames
import HeaderBridge.Proofs.Layout
import HeaderBridge.Proofs.UnsupportedRun
import HeaderBridge.Proofs.TypedefFiles
import HeaderBridge.Proofs.ConfigurationReading
import HeaderBridge.Proofs.ConfigurationTree
import HeaderBridge.Proofs.RequiredValues
import HeaderBridge.Proofs.ChangedLines
import HeaderBridge.Proofs.HeaderTypedefs
