import Formwork.Account.SignIn
import Formwork.Main
import Formwork.Plan.Document
import Formwork.Service.Launch
import Formwork.Service.Tool
import Formwork.Proofs.Script.Token
import Formwork.Proofs.Script.Spelling
import Formwork.Proofs.Script.Regularity
import Formwork.Proofs.Script.Injection
import Formwork.Proofs.Script.FormApp
import Formwork.Proofs.Definition.Slots
import Formwork.Proofs.Script.Execution
import Formwork.Proofs.Definition.Normal
import Formwork.Proofs.Definition.Faults
import Formwork.Proofs.Plan.Layout
import Formwork.Proofs.Parity
import Formwork.Proofs.Remote.Run
import Formwork.Proofs.Remote.Course
import Formwork.Proofs.Remote.Calls
import Formwork.Proofs.Remote.Retry
import Formwork.Proofs.Plan.Replay
import Formwork.Proofs.AnswerKeys
import Formwork.Proofs.Json.Same
import Formwork.Proofs.Plan.Encoding
import Formwork.Proofs.Plan.Document
import Formwork.Proofs.Plan.Content
import Formwork.Proofs.Plan.Consistency
import Formwork.Proofs.World.Effects
import Formwork.Proofs.Account.Token
import Formwork.Proofs.Remote.Making
import Formwork.Proofs.Service.RemoteForm
import Formwork.Proofs.Definition.Normalizing
import Formwork.Proofs.Definition.Wire
import Formwork.Proofs.World.Log
import Formwork.Proofs.Service.NormalBody
import Formwork.Proofs.Remote.Failing
import Formwork.Proofs.Service.Agreement
import Formwork.Proofs.Number.Rounding
import Formwork.Proofs.Json.RoundTrip
import Formwork.Proofs.Json.Printed
import Formwork.Proofs.Json.Readable
import Formwork.Proofs.Files.Saving
import Formwork.Proofs.Generation.Failing
import Formwork.Proofs.Service.Generating
import Formwork.Proofs.Service.KnownForm
import Formwork.Proofs.World.Idle
import Formwork.Proofs.Account.Content
import Formwork.Proofs.Account.Renewal
import Formwork.Proofs.Account.Gate
import Formwork.Proofs.Account.Saves
import Formwork.Proofs.Service.Session
import Formwork.Proofs.Service.SignInStatus
import Formwork.Proofs.Service.LocalOnly
import Formwork.Proofs.Service.Compiling
import Formwork.Proofs.Script.NormalForm
import Formwork.Proofs.Script.LostImages
import Formwork.Proofs.Service.RemoteContent
import Formwork.Proofs.Script.Variants
import Formwork.Proofs.Script.Texts
import Formwork.Proofs.Service.Replying
import Formwork.Proofs.Account.Map
import Formwork.Proofs.Definition.Naming
