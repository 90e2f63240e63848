import Ocservia.System.ConfigRevisions
import Ocservia.System.SessionUsage
import Ocservia.Controller.UserRevisions
import Ocservia.Controller.Delivery
import Ocservia.Controller.RecoveryBound
import Ocservia.System.VerifiedOutcomes
import Ocservia.Privd.Dispatch
import Ocservia.Agent.Fencing
import Ocservia.Controller.SentEnvelope
import Ocservia.Controller.LocalLogins
import Ocservia.Privd.EffectIdentity
import Ocservia.Privd.EffectCodes
import Ocservia.Privd.ConfigPlan
import Ocservia.Agent.SyntheticOnce
import Ocservia.Agent.Telemetry
import Ocservia.Contract.Transcripts
import Ocservia.Controller.SemanticPayload
import Ocservia.Contract.StrictWire
import Ocservia.Controller.RolloutSafety
import Ocservia.Transport.PolicyRuns
import Ocservia.Transport.RevocationGap
import Ocservia.Transport.Leases
import Ocservia.Upgrader.Finality
