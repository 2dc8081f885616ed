import DotmacSub.Billing.FixedAnchor
import DotmacSub.Billing.ObligationLifecycle
import DotmacSub.Billing.VersionTimeline
import DotmacSub.Billing.RefundAttribution
import DotmacSub.Billing.ReplayChecks
import DotmacSub.Sla.PolicyVersions
import DotmacSub.Billing.Reallocation
import DotmacSub.Billing.CreditInvariants
import DotmacSub.Fup.Enforcement
import DotmacSub.Topology.OutageIdentity
import DotmacSub.Network.PlanDeliveries
import DotmacSub.Network.SyncStatus
import DotmacSub.Runtime.HandlerCycles
import DotmacSub.Runtime.TaskIdempotency
import DotmacSub.Runtime.Timers
import DotmacSub.Topology.ForwardingRuns
import DotmacSub.Topology.RxDroop
import DotmacSub.Network.PrefixDelegation
import DotmacSub.Billing.ExtensionReversals
import DotmacSub.Billing.CreditNoteValue
import DotmacSub.Lifecycle.Sinks
import DotmacSub.Lifecycle.Locks
import DotmacSub.Lifecycle.Gate
import DotmacSub.Lifecycle.PausedTime
import DotmacSub.Lifecycle.Preview
import DotmacSub.Usage.Accumulation
import DotmacSub.Usage.BilledOnce
import DotmacSub.Integrations.InboxRecovery
import DotmacSub.Integrations.ErpFairness
import DotmacSub.Fup.RuntimeState
import DotmacSub.Network.ServicePortReplays
import DotmacSub.Billing.ArrangementSchedules
import DotmacSub.Usage.AccountingHistory
import DotmacSub.Billing.RenewalDebits
import DotmacSub.Billing.RunningCycle
import DotmacSub.Collections.BalanceSweep
import DotmacSub.Billing.AdvanceRenewals
import DotmacSub.Collections.Throttling
import DotmacSub.Collections.DunningRuns
import DotmacSub.Collections.EnforcementPlan
import DotmacSub.Billing.RateUnits
import DotmacSub.Billing.ProrationFactors
import DotmacSub.Runtime.StatusSchedules
import DotmacSub.Integrations.EventDeliveries
import DotmacSub.Network.SplitterForest
import DotmacSub.Lifecycle.PlanChanges
import DotmacSub.Network.ServedAddresses
import DotmacSub.Network.SerialNumbers
import DotmacSub.Network.FiberConsistency
import DotmacSub.Network.SegmentPaths
import DotmacSub.Runtime.TaskKeys
import DotmacSub.Sla.PeriodScores
import DotmacSub.Fup.AccrualIntervals
import DotmacSub.Topology.OutageBoundary
