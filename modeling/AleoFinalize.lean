import AleoFinalize.Interpreter.Types
import AleoFinalize.Interpreter.Trace
import AleoFinalize.Interpreter.Finalize
import AleoFinalize.Interpreter.Block
import AleoFinalize.Spec.AwaitOrder
import AleoFinalize.Spec.Commit
import AleoFinalize.Proof.Tracer.AwaitOrder
import AleoFinalize.Spec.Scopes
import AleoFinalize.Proof.Tracer.Scopes
import AleoFinalize.Interpreter.Depth
import AleoFinalize.Proof.Tracer.Termination
import AleoFinalize.Proof.Block.Commit
import AleoFinalize.Proof.Block.CachePoison
import AleoFinalize.Spec.Execute
import AleoFinalize.Proof.Execute.Steps
import AleoFinalize.Proof.Execute.Shape
import AleoFinalize.Proof.Block.Reasons
import AleoFinalize.Proof.Execute.Blame
import AleoFinalize.Proof.Bootstrap
import AleoFinalize.Proof.Execute.Observed
import AleoFinalize.Interpreter.Schedule
import AleoFinalize.Proof.Schedule.StaleInstall
import AleoFinalize.Spec.Schedule
import AleoFinalize.Proof.Schedule.FreshInstall
import AleoFinalize.Api.Types
import AleoFinalize.Api.MappingRoutes
import AleoFinalize.Spec.ProgramCache
import AleoFinalize.Proof.Api.ProgramCache
import AleoFinalize.Api.ExecuteRoutes
import AleoFinalize.Spec.Preview
import AleoFinalize.Proof.Api.Preview
import AleoFinalize.WebApi.TrueDiv
import AleoFinalize.Proof.WebApi.TrueDiv
import AleoFinalize.WebApi.ChainRoutes
import AleoFinalize.Proof.WebApi.Pages
import AleoFinalize.Config.Pledge
import AleoFinalize.Proof.Config.Pledge
import AleoFinalize.Middleware.AsgiLogger
import AleoFinalize.Spec.LogLine
import AleoFinalize.Proof.Middleware.LogLine
import AleoFinalize.Interpreter.MappingValue
import AleoFinalize.Spec.Lookup
import AleoFinalize.Proof.Schedule.LookupFound
import AleoFinalize.Spec.Chain
import AleoFinalize.Proof.WebApi.IndexUpdate
