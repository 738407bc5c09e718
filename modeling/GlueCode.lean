import GlueCode.Launch
import GlueCode.Template.Library
import GlueCode.Proofs.LowerCase
import GlueCode.Proofs.Catalogue
import GlueCode.Proofs.SampleSearch
import GlueCode.Proofs.DiskTree
import GlueCode.Proofs.Outputs
import GlueCode.Proofs.Steps
import GlueCode.Proofs.TaskOrder
import GlueCode.Proofs.AnyOrder
import GlueCode.Proofs.FileTexts
import GlueCode.Proofs.Overwrites
import GlueCode.Proofs.SecondRun
import GlueCode.Proofs.ExactFiles
import GlueCode.Proofs.Spelling
import GlueCode.Proofs.Precedence
import GlueCode.Proofs.Forwarders
import GlueCode.Proofs.IndexText
import GlueCode.Proofs.Initializers
import GlueCode.Proofs.SameJson
import GlueCode.Proofs.SavedSettings
import GlueCode.Proofs.Aliases
import GlueCode.Proofs.Registering
import GlueCode.Proofs.Runs
import GlueCode.Proofs.IndexAfterRuns
import GlueCode.Proofs.FirstFailure
import GlueCode.Proofs.TrailingConst
import GlueCode.Proofs.ConstructorChoice
import GlueCode.Proofs.SetUpAgain
import GlueCode.Proofs.UnseenChanges
import GlueCode.Proofs.GlobalScope
import GlueCode.Proofs.ReturnedValues
import GlueCode.Proofs.BuiltinNames
import GlueCode.Proofs.AddedTemplates
import GlueCode.Proofs.NestingChain
import GlueCode.Proofs.InsideOutput
import GlueCode.Proofs.ReportedErrors
import GlueCode.Proofs.ReindentedCode
import GlueCode.Proofs.ReindentedAgain
import GlueCode.Proofs.ArraysAndParameters
import GlueCode.Proofs.EmptyContainers
import GlueCode.Proofs.ClosingBrackets
