import NvidiaConverge.Planning.Quarantine
import NvidiaConverge.Rollback.RoundTrip
import NvidiaConverge.Preflight.AptRollback
import NvidiaConverge.Preflight.Agreement
import NvidiaConverge.Recovery.Gate
import NvidiaConverge.Recovery.Retirement
import NvidiaConverge.Recovery.RestartExact
import NvidiaConverge.Recovery.JournalText
import NvidiaConverge.Rollback.Authority
import NvidiaConverge.Launchers.Defer
import NvidiaConverge.Launchers.FailClosed
import NvidiaConverge.Launchers.Observe
import NvidiaConverge.Launchers.Resume
import NvidiaConverge.Launchers.QuarantineRuns
import NvidiaConverge.Launchers.GuardRuns
import NvidiaConverge.Planning.ZypperBranch
import NvidiaConverge.Planning.SelectorMeaning
import NvidiaConverge.Planning.MigExecution
import NvidiaConverge.Rollback.MigRestoration
import NvidiaConverge.Workloads.Probe
import NvidiaConverge.Rollback.UnloadOrder
import NvidiaConverge.Recovery.TrustedWrite
import NvidiaConverge.Release.CanonicalSdistRun
import NvidiaConverge.Release.RecomputedRollback
import NvidiaConverge.Recovery.ReserveRecovery
import NvidiaConverge.Install.OrderHost
import NvidiaConverge.Rollback.RecordedPhase
