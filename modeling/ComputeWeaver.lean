import ComputeWeaver.Api.CollectionsTheorems
import ComputeWeaver.Api.ConvergenceTheorems
import ComputeWeaver.Api.KeyBindingTheorems
import ComputeWeaver.Api.PostgresTransactionsTheorems
import ComputeWeaver.Api.SecretsTheorems
import ComputeWeaver.Api.TariffTheorems
import ComputeWeaver.Approval.BackendTheorems
import ComputeWeaver.Approval.ExpiryTheorems
import ComputeWeaver.Certification.CertifyTheorems
import ComputeWeaver.Certification.ConcurrencyTheorems
import ComputeWeaver.Certification.InterruptionTheorems
import ComputeWeaver.Certification.IssueTheorems
import ComputeWeaver.Certification.RetryTheorems
import ComputeWeaver.DataQuality.AssessTheorems
import ComputeWeaver.Energy.BatteryTheorems
import ComputeWeaver.Execution.CompensationTheorems
import ComputeWeaver.Execution.GuardTotalityTheorems
import ComputeWeaver.Explain.CounterfactualTheorems
import ComputeWeaver.Forecasting.ModelsTheorems
import ComputeWeaver.Ingestion.IsolationTheorems
import ComputeWeaver.Ingestion.SyncTheorems
import ComputeWeaver.Jobs.EnqueueTheorems
import ComputeWeaver.Mpc.PersistedTheorems
import ComputeWeaver.Notifications.RouterTheorems
import ComputeWeaver.ObjectStore.KeyTheorems
import ComputeWeaver.Observability.PostgresAuditTheorems
import ComputeWeaver.Optimization.BaselineTheorems
import ComputeWeaver.Optimization.DiagnosticsTheorems
import ComputeWeaver.Optimization.SolversTheorems
import ComputeWeaver.Plans.LifecycleTheorems
import ComputeWeaver.Policies.ConflictTheorems
import ComputeWeaver.Scheduling.PowerTheorems
import ComputeWeaver.Scheduling.RelabellingTheorems
import ComputeWeaver.Tariffs.VersionTheorems
import ComputeWeaver.Topology.PostgresRegistryTheorems
import ComputeWeaver.WhatIf.ServiceTheorems
import ComputeWeaver.Workloads.PostgresQuotaTheorems
