import FormCheck.Log.Error
import FormCheck.PlanFile.Path
import FormCheck.Proofs.Blame
import FormCheck.Proofs.CallSequence
import FormCheck.Proofs.CleanValues
import FormCheck.Proofs.CombinedMessages
import FormCheck.Proofs.DateRange
import FormCheck.Proofs.EmailFormat
import FormCheck.Proofs.Form.FirstMessages
import FormCheck.Proofs.Form.ForeignSteps
import FormCheck.Proofs.Form.NamedInputs
import FormCheck.Proofs.Form.Shipped
import FormCheck.Proofs.Inspection
import FormCheck.Proofs.IntegerParsing
import FormCheck.Proofs.MissingInput
import FormCheck.Proofs.PayloadContents
import FormCheck.Proofs.Plan.NormalForm
import FormCheck.Proofs.Plan.NullEntries
import FormCheck.Proofs.RepeatedMessages
import FormCheck.Proofs.Response
import FormCheck.Proofs.ResultKeys
import FormCheck.Proofs.Sanitizing
import FormCheck.Proofs.Selection
import FormCheck.Proofs.SemesterCode
import FormCheck.Proofs.SemesterOfDate
import FormCheck.Proofs.SessionCode
import FormCheck.Proofs.Severity
import FormCheck.Proofs.Timestamp
