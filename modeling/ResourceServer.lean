import ResourceServer.Config.Mounting
import ResourceServer.Config.Reading
import ResourceServer.Config.Validation
import ResourceServer.Context.Archive
import ResourceServer.Context.Forest
import ResourceServer.Http.Server
import ResourceServer.Shutdown
import ResourceServer.Proofs.Text.Bytes
import ResourceServer.Proofs.Text.Percent
import ResourceServer.Proofs.Text.Boundary
import ResourceServer.Proofs.Text.Runs
import ResourceServer.Proofs.Text.RunReading
import ResourceServer.Proofs.Name.RoundTrip
import ResourceServer.Proofs.Name.Construction
import ResourceServer.Proofs.Name.Order
import ResourceServer.Proofs.Name.Grammar
import ResourceServer.Proofs.Record
import ResourceServer.Proofs.Text.Numeral
import ResourceServer.Proofs.Store.Outcome
import ResourceServer.Proofs.Store.History
import ResourceServer.Proofs.Store.RevisionedMap
import ResourceServer.Proofs.Store.ConditionalChange
import ResourceServer.Proofs.Store.Paging
import ResourceServer.Proofs.Json.FieldOrder
import ResourceServer.Proofs.Json.WellFormed
import ResourceServer.Proofs.Store.ResultOrder
import ResourceServer.Proofs.Route.Ranking
import ResourceServer.Proofs.Route.Registration
import ResourceServer.Proofs.Route.Pattern
import ResourceServer.Proofs.Route.Identity
import ResourceServer.Proofs.Route.Selection
import ResourceServer.Proofs.Route.Delivery
import ResourceServer.Proofs.Route.OnlyRoute
import ResourceServer.Proofs.Route.Nesting
import ResourceServer.Proofs.Route.Spelling
import ResourceServer.Proofs.Route.Display
import ResourceServer.Proofs.Route.Instance
import ResourceServer.Proofs.Route.Tie
import ResourceServer.Proofs.Context.Version
import ResourceServer.Proofs.Context.Restoration
import ResourceServer.Proofs.Context.CustomFrames
import ResourceServer.Proofs.Context.Normalizing
import ResourceServer.Proofs.Context.SharedAdvice
import ResourceServer.Proofs.Http.Rendering
import ResourceServer.Proofs.Http.Understanding
import ResourceServer.Proofs.Http.GuardedWrite
import ResourceServer.Proofs.Http.StoreHandling
import ResourceServer.Proofs.Http.Location
import ResourceServer.Proofs.Http.PlainRequest
import ResourceServer.Proofs.Http.Mount
import ResourceServer.Proofs.Http.MountedStore
import ResourceServer.Proofs.Http.ServedResource
import ResourceServer.Proofs.Http.SafeExchange
import ResourceServer.Proofs.Http.Conditions
import ResourceServer.Proofs.Http.ParameterGroups
import ResourceServer.Proofs.Http.CommonParameters
import ResourceServer.Proofs.Http.QueryParameters
import ResourceServer.Proofs.Http.Finishing
import ResourceServer.Proofs.Http.Accounting
import ResourceServer.Proofs.Http.Layout
import ResourceServer.Proofs.Store.Spelling
import ResourceServer.Proofs.Config.Mounts
import ResourceServer.Proofs.Name.Prefix
import ResourceServer.Proofs.Json.Pointer
import ResourceServer.Proofs.Number.Nearest
import ResourceServer.Proofs.Number.Integers
import ResourceServer.Proofs.Store.Editing
import ResourceServer.Proofs.Store.Removal
import ResourceServer.Proofs.Store.Increment
import ResourceServer.Proofs.Context.Lookup
import ResourceServer.Proofs.Store.IdsAlone
import ResourceServer.Proofs.Store.ClientOrder
import ResourceServer.Proofs.Store.Addressing
import ResourceServer.Proofs.Context.LegalAdvice
import ResourceServer.Proofs.Http.ProtectedFields
import ResourceServer.Proofs.Request.Building
import ResourceServer.Proofs.Request.Selection
import ResourceServer.Proofs.Http.FieldText
import ResourceServer.Proofs.Http.Negotiation
import ResourceServer.Proofs.Http.EntityTag
import ResourceServer.Proofs.Context.LocaleChoice
import ResourceServer.Proofs.Request.PatchForm
