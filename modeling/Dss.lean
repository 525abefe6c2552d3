import Dss.DeferredSceneRuns
import Dss.ScanOwnership
import Dss.ChangeNotification
import Dss.ChangesBarrier
import Dss.StatusFieldRuns
import Dss.SetSplitterExact
import Dss.CombinedInputs
import Dss.TokenLifeCycle
import Dss.GroupSynchronization
import Dss.ModelEventProducers
import Dss.SessionDelivery
import Dss.SubscriptionParserExact
import Dss.WebservicePlugin
import Dss.ExecutionDeniedDigest
import Dss.ValveProtection
import Dss.WebSockets
import Dss.ZoneRemovalExact
import Dss.JokerGroupExact
import Dss.ActionExecuteExact
import Dss.CloudUploadExact
import Dss.BehaviorPublication
import Dss.GroupConfiguration
import Dss.PersistedSets
import Dss.ClusterMembershipExact
import Dss.GroupPresence
import Dss.PropertyRoundTrip
import Dss.AutoClusterCheck
import Dss.AutoClusterLoss
import Dss.ZoneMembershipExact
import Dss.ZoneSensorRuns
import Dss.UserGroupLifeCycle
import Dss.UploadLogRuns
import Dss.UploadSubscriptions
import Dss.RecurringEvents
import Dss.TimedEventRuns
import Dss.SensorStates
import Dss.StateRegistryRuns
import Dss.SystemConditionExact
import Dss.PropertyDisplayNames
import Dss.PropertyCreation
import Dss.PropertyValueTags
import Dss.SetBuilderExact
import Dss.TriggerFields
import Dss.ActionLagRuns
import Dss.DeferredButtonRuns
import Dss.UnknownGroups
import Dss.LatestMeterValues
import Dss.MeteringSeries
import Dss.SubscriptionProfiler
import Dss.SensorMonitor
import Dss.LockedScenes
import Dss.OutputChannels
import Dss.VdcDescriptions
import Dss.ClusterAdoption
import Dss.RequestParameters
import Dss.ReachableScenes
import Dss.ControllerInternals
import Dss.SetAlgebra
import Dss.PropertyQueries
import Dss.TimeStamps
import Dss.TimeArithmetic
import Dss.XmlEscaping
import Dss.Utf8Truncation
import Dss.SensorEventTable
import Dss.ClusterLocks
import Dss.WebAccess
