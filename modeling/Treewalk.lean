import Treewalk.Session
import Treewalk.Proofs.Congruence
import Treewalk.Proofs.Bindings
import Treewalk.Proofs.Contract
import Treewalk.Proofs.ActivationSymmetry
import Treewalk.Proofs.FrameLog
import Treewalk.Proofs.LinkedFrames
import Treewalk.Proofs.LinkedPauses
import Treewalk.Proofs.StackRelativeLookup
import Treewalk.Proofs.RecursiveIsolation
import Treewalk.Proofs.CaughtErrors
import Treewalk.Proofs.FinalParts
import Treewalk.Proofs.StopSignal
import Treewalk.Proofs.ErrorContainment
import Treewalk.Proofs.ScriptContracts
import Treewalk.Proofs.RecordedFailures
import Treewalk.Proofs.StopHeeding
import Treewalk.Proofs.StratifiedTrees
import Treewalk.Proofs.Openings
import Treewalk.Proofs.ScriptCourses
import Treewalk.Proofs.Descents
import Treewalk.Proofs.PromptCancellation
import Treewalk.Proofs.ScriptHistories
import Treewalk.Proofs.LibraryBindings
import Treewalk.Proofs.Teardown
import Treewalk.Proofs.LibraryIdempotence
import Treewalk.Proofs.LibraryAvailability
import Treewalk.Proofs.ScriptCongruence
import Treewalk.Proofs.PolicyChanges
import Treewalk.Proofs.PolicyAlignment
import Treewalk.Proofs.ErrorPolicies
import Treewalk.Proofs.Recasting
import Treewalk.Proofs.TraceGrowth
import Treewalk.Proofs.MirroredRuns
import Treewalk.Proofs.BreakpointTransparency
import Treewalk.Proofs.CallDepthLimits
import Treewalk.Proofs.Guards
import Treewalk.Proofs.ScopeCoverage
import Treewalk.Proofs.BoundVariables
import Treewalk.Proofs.RunningScopes
import Treewalk.Proofs.LoadOrder
import Treewalk.Proofs.LibraryOrder
import Treewalk.Proofs.ShortestPaths
import Treewalk.Proofs.BoundedCalls
import Treewalk.Proofs.InertDeclarations
import Treewalk.Proofs.FunctionArrivals
import Treewalk.Proofs.LifecycleEvents
import Treewalk.Proofs.ErrorAggregation
import Treewalk.Proofs.EntryStops
import Treewalk.Proofs.ScopeWalks
import Treewalk.Proofs.HandedFaults
import Treewalk.Proofs.ErrorAttribution
import Treewalk.Proofs.LexicalFlow
import Treewalk.Proofs.VisibleVariables
import Treewalk.Proofs.CallDepthAccounting
import Treewalk.Proofs.ApartChanges
import Treewalk.Proofs.TransparentErrorBlocks
import Treewalk.Proofs.OperatorResults
import Treewalk.Proofs.ComparisonOrder
import Treewalk.Proofs.StructuralEquality
import Treewalk.Proofs.NodeIdentities
