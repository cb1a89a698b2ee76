import DirectoryRoutes.Api.Http
import DirectoryRoutes.Api.Log
import DirectoryRoutes.Config.Search
import DirectoryRoutes.Config.Store
import DirectoryRoutes.Main
import DirectoryRoutes.Proofs.Api.FailureTraces
import DirectoryRoutes.Proofs.Api.FoundRoutes
import DirectoryRoutes.Proofs.Api.PostedBodies
import DirectoryRoutes.Proofs.Api.RouteRequests
import DirectoryRoutes.Proofs.CommandLine.AgreeingRoutes
import DirectoryRoutes.Proofs.CommandLine.ParseRuns
import DirectoryRoutes.Proofs.CommandLine.ShownRoutes
import DirectoryRoutes.Proofs.Config.DiscoveredDocuments
import DirectoryRoutes.Proofs.Config.EffectiveSettings
import DirectoryRoutes.Proofs.Config.OverrideSequences
import DirectoryRoutes.Proofs.Json.ReaderFaults
import DirectoryRoutes.Proofs.Page.CanonicalPaths
import DirectoryRoutes.Proofs.Page.DynamicPaths
import DirectoryRoutes.Proofs.Page.MarkedPages
import DirectoryRoutes.Proofs.Page.Records
import DirectoryRoutes.Proofs.Page.RenderedPages
import DirectoryRoutes.Proofs.Page.SegmentOrder
import DirectoryRoutes.Proofs.Page.TokenRuns
import DirectoryRoutes.Proofs.Page.UrlPaths
import DirectoryRoutes.Proofs.Results
import DirectoryRoutes.Proofs.RouteAnswers
import DirectoryRoutes.Proofs.Segment.RecordFaults
import DirectoryRoutes.Proofs.Segment.Records
import DirectoryRoutes.Proofs.Segment.RoundTrips
import DirectoryRoutes.Proofs.Segment.TokenEnds
import DirectoryRoutes.Proofs.Segment.TokenForms
import DirectoryRoutes.Proofs.Text.PathComponents
import DirectoryRoutes.Proofs.Text.Utf8Encoding
import DirectoryRoutes.Proofs.Workbench.BuiltPages
import DirectoryRoutes.Proofs.Workbench.IsolatedSteps
import DirectoryRoutes.Proofs.Workbench.ReachedPages
import DirectoryRoutes.Proofs.Workbench.TokenSteps
import DirectoryRoutes.Workbench
import DirectoryRoutes.Workbench.Memory
