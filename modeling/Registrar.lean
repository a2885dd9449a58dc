import Registrar.Main
import Registrar.Database.Session
import Registrar.Session
import Registrar.Proofs.History
import Registrar.Proofs.Uniqueness
import Registrar.Proofs.Agreement
import Registrar.Proofs.FirstServed
import Registrar.Proofs.Provenance
import Registrar.Proofs.SameBody
import Registrar.Proofs.Transport
import Registrar.Proofs.JsonLexeme
import Registrar.Proofs.JsonScan
import Registrar.Proofs.JsonGrammar
import Registrar.Proofs.BodyShape
import Registrar.Proofs.Statements
import Registrar.Proofs.Rejection
import Registrar.Proofs.LoginAnswer
import Registrar.Proofs.BodySize
import Registrar.Proofs.Records
import Registrar.Proofs.AuditTrail
import Registrar.Proofs.Discretion
import Registrar.Proofs.Omission
import Registrar.Proofs.StoredForm
import Registrar.Proofs.RolePolicy
import Registrar.Proofs.Sealing
import Registrar.Proofs.Migration
import Registrar.Proofs.EnvDefinitions
import Registrar.Proofs.Diagnostics
import Registrar.Proofs.Stages
import Registrar.Proofs.Decoding
import Registrar.Proofs.RegistrationOutcome
import Registrar.Proofs.StoreErrors
import Registrar.Proofs.LoginRows
import Registrar.Proofs.Keywords
import Registrar.Proofs.NumericSettings
import Registrar.Proofs.FullHash
