import TunnelOperator.ReadyForwarders
import TunnelOperator.LivePorts
import TunnelOperator.PortLeaks
import TunnelOperator.GatewayOwners
import TunnelOperator.DeletionIsolation
import TunnelOperator.SpecDrift
import TunnelOperator.RevisionHistory
import TunnelOperator.TargetEgress
import TunnelOperator.StreamSnapshot
import TunnelOperator.StreamDelivery
import TunnelOperator.AckHistory
import TunnelOperator.UpdateReplay
import TunnelOperator.FailedReplacement
import TunnelOperator.MappingOrder
import TunnelOperator.InstalledAcks
import TunnelOperator.ListenerRemoval
import TunnelOperator.PortProbe
import TunnelOperator.RestoredPorts
import TunnelOperator.LegacyForwarders
import TunnelOperator.TargetAdmission
import TunnelOperator.ProxySockets
import TunnelOperator.FixedPoint
import TunnelOperator.PortGauge
import TunnelOperator.IdleTimeout
import TunnelOperator.UndisturbedCalls
import TunnelOperator.SessionClock
import TunnelOperator.WatchLoop
import TunnelOperator.ProcessRefinement
import TunnelOperator.TcpMetrics
import TunnelOperator.GatewayTraffic
import TunnelOperator.GatewayStartup
import TunnelOperator.Convergence
