import Mkk.Lib.Lts
import Mkk.Api.SourceEvidence
import Mkk.Api.SummaryLimits
import Mkk.Api.Central
import Mkk.Kiosk.ReasonCodes
import Mkk.Api.OutcomeIds
import Mkk.Api.Buffer
import Mkk.Kiosk.SourceGate
import Mkk.Api.JobDecision
import Mkk.Kiosk.Completed
import Mkk.Api.CompletionLimits
import Mkk.Api.BufferOrder
import Mkk.Api.JobLifecycle
import Mkk.Api.CompleteFailures
import Mkk.Manager.App
import Mkk.Common.VisionToken
import Mkk.Eye.WorkerBinding
import Mkk.Eye.EndSession
import Mkk.Gateway.VisionStream
import Mkk.Kiosk.CameraRelease
import Mkk.Kiosk.VisionFrames
import Mkk.Gateway.Backpressure
import Mkk.Gateway.CalibrationFrames
import Mkk.Gateway.FrameRelease
import Mkk.Kiosk.CalibrationProgress
import Mkk.Api.AoiHierarchy
import Mkk.Api.PolygonTest
import Mkk.Api.EvidenceWindows
import Mkk.Api.SourceConservation
import Mkk.Api.AggregatorsAgree
import Mkk.Api.FrameGrounding
import Mkk.Api.AppendFailure
import Mkk.Api.Erasure
import Mkk.Reactions.Convergence
import Mkk.Recommendation.ResearchGaze
import Mkk.Eye.QualityGate
import Mkk.Eye.SessionRun
import Mkk.Eye.ProgressWire
import Mkk.Face.SampleCache
import Mkk.Eye.JumpFilter
import Mkk.Gateway.ControlAnswers
import Mkk.Gateway.WireErrors
import Mkk.Api.MediaProbe
import Mkk.Gateway.CalibrationIds
import Mkk.Api.CatalogRows
import Mkk.Kiosk.FaithfulBatches
import Mkk.Api.CentralStub
import Mkk.Eye.ObservationSink
import Mkk.Eye.CalibrationInForce
import Mkk.Gateway.HarnessPairs
import Mkk.Kiosk.CentralSubmission
