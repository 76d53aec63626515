import Remittance.Ledger
import Remittance.Log
import Remittance.Log.Setup
import Remittance.Service.Framework
import Remittance.Proofs.Tokens
import Remittance.Proofs.Diagnosis
import Remittance.Proofs.Rounding
import Remittance.Proofs.ExactValue
import Remittance.Proofs.Selection
import Remittance.Proofs.Decision
import Remittance.Proofs.Posting
import Remittance.Proofs.Conservation
import Remittance.Proofs.MovedBalance
import Remittance.Proofs.Transfer
import Remittance.Proofs.Lines
import Remittance.Proofs.Overdraft
import Remittance.Proofs.Readmission
import Remittance.Proofs.Totality
import Remittance.Proofs.WrittenInstruction
import Remittance.Proofs.Locality
import Remittance.Proofs.Independence
import Remittance.Proofs.Mirror
import Remittance.Proofs.Clock
import Remittance.Proofs.Consistency
import Remittance.Proofs.Payment
import Remittance.Proofs.Violations
import Remittance.Proofs.EditScript
import Remittance.Proofs.Answering
import Remittance.Proofs.KeywordReport
import Remittance.Proofs.DateReading
import Remittance.Proofs.AmountReading
import Remittance.Proofs.Spelling
import Remittance.Proofs.ReadAlike
import Remittance.Proofs.UncheckedSelection
import Remittance.Proofs.Overwriting
import Remittance.Proofs.CustomerMessage
import Remittance.Proofs.AmountText
import Remittance.Proofs.SettledCapitals
import Remittance.Proofs.LogRecords
