import GptLiveProxy.HeaderMap
import GptLiveProxy.TraceMachine
import GptLiveProxy.Config
import GptLiveProxy.Path
import GptLiveProxy.Contract
import GptLiveProxy.Capability
import GptLiveProxy.RelayError
import GptLiveProxy.Admission
import GptLiveProxy.Origin
import GptLiveProxy.Subprotocol
import GptLiveProxy.ProtocolTokens
import GptLiveProxy.RealtimeHeaders
import GptLiveProxy.RealtimeHeaderContents
import GptLiveProxy.LiveHeaders
import GptLiveProxy.Handlers
import GptLiveProxy.OriginCoverage
import GptLiveProxy.JoinHeaders
import GptLiveProxy.HeaderNoninterference
import GptLiveProxy.HeaderBuilders
import GptLiveProxy.CredentialDomain
import GptLiveProxy.AdmissionSecrecy
import GptLiveProxy.Exchange
import GptLiveProxy.Permits
import GptLiveProxy.FrameConversion
import GptLiveProxy.Pump
import GptLiveProxy.PumpStep
import GptLiveProxy.PumpDelivery
import GptLiveProxy.PumpCloses
import GptLiveProxy.PumpIdle
import GptLiveProxy.AdmissionDecision
import GptLiveProxy.ErrorTerminals
import GptLiveProxy.HostPolicy
import GptLiveProxy.PumpConnecting
import GptLiveProxy.TextPieces
import GptLiveProxy.UpstreamUrls
import GptLiveProxy.AsciiText
import GptLiveProxy.CallIds
import GptLiveProxy.PercentEncoding
import GptLiveProxy.UrlParser
import GptLiveProxy.ConfigSource
import GptLiveProxy.ConfigSound
import GptLiveProxy.UrlExtension
import GptLiveProxy.WebSocketUrls
import GptLiveProxy.Json
import GptLiveProxy.SessionEvidence
import GptLiveProxy.CallBody
import GptLiveProxy.CallCreate
import GptLiveProxy.DialectSafety
import GptLiveProxy.OrderedQueries
import GptLiveProxy.UrlQueries
import GptLiveProxy.ClassificationModes
import GptLiveProxy.AlphaForwarding
import GptLiveProxy.ProtocolAcceptance
import GptLiveProxy.CappedReads
import GptLiveProxy.Delimiters
import GptLiveProxy.Redaction
import GptLiveProxy.MultipartCalls
import GptLiveProxy.MediaType
import GptLiveProxy.MediaTypeSlices
import GptLiveProxy.LossyUtf8
import GptLiveProxy.FrameLog
import GptLiveProxy.GregorianCalendar
import GptLiveProxy.CivilDays
import GptLiveProxy.FixedWidth
import GptLiveProxy.Timestamps
import GptLiveProxy.FaultOffsets
import GptLiveProxy.FrameDrain
import GptLiveProxy.FlushReports
import GptLiveProxy.BearerGrammar
import GptLiveProxy.CallLocations
import GptLiveProxy.Boundary
import GptLiveProxy.Connection
import GptLiveProxy.ConnectionProgress
import GptLiveProxy.RestCall
import GptLiveProxy.Router
import GptLiveProxy.Dispatch
import GptLiveProxy.RestCalls
import GptLiveProxy.RestProgress
import GptLiveProxy.Service
import GptLiveProxy.ServiceContacts
import GptLiveProxy.ServiceShutdown
import GptLiveProxy.BodyErrors
import GptLiveProxy.Sessions
import GptLiveProxy.ServiceAnswers
import GptLiveProxy.ServiceBoundary
